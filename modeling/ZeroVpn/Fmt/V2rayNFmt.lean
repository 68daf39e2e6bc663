import ZeroVpn.Dto.Entities
import ZeroVpn.Std.Except
import ZeroVpn.Std.KV

/-!
# v2rayN share items

`V2rayNShareItem` is the JSON record of a `v2rayn://` link and `V2rayNFmt.parse` turns the links
of a batch into profiles. Base64, Gson and `Regex.escape` are parameters.
-/

namespace ZeroVpn

open List Text

structure V2rayNProtocolExtraShareItem where
  vmessSecurity : Option String := none
  flow : Option String := none
  vlessEncryption : Option String := none
  ssMethod : Option String := none
  wgPublicKey : Option String := none
  wgPresharedKey : Option String := none
  wgInterfaceAddress : Option String := none
  wgReserved : Option String := none
  wgMtu : Option Int := none
  salamanderPass : Option String := none
  upMbps : Option Int := none
  downMbps : Option Int := none
  ports : Option String := none
  hopInterval : Option String := none
  childItems : Option String := none
  subChildItems : Option String := none
  filter : Option String := none
  multipleLoad : Option Int := none

structure V2rayNTransportExtraShareItem where
  rawHeaderType : Option String := none
  host : Option String := none
  path : Option String := none
  xhttpMode : Option String := none
  xhttpExtra : Option String := none
  grpcAuthority : Option String := none
  grpcServiceName : Option String := none
  grpcMode : Option String := none
  kcpHeaderType : Option String := none
  kcpSeed : Option String := none
  kcpMtu : Option Int := none

structure V2rayNShareItem where
  indexId : Option String := none
  configType : Option Int := none
  remarks : Option String := none
  address : Option String := none
  port : Option Int := none
  password : Option String := none
  username : Option String := none
  network : Option String := none
  streamSecurity : Option String := none
  allowInsecure : Option String := none
  sni : Option String := none
  alpn : Option String := none
  fingerprint : Option String := none
  publicKey : Option String := none
  shortId : Option String := none
  spiderX : Option String := none
  mldsa65Verify : Option String := none
  certSha : Option String := none
  echConfigList : Option String := none
  verifyPeerCertByName : Option String := none
  finalmask : Option String := none
  protoExtraObj : Option V2rayNProtocolExtraShareItem := none
  transportExtraObj : Option V2rayNTransportExtraShareItem := none

namespace V2rayNShareItem

/-- The text of a nullable number; `null` reads as `"null"`. -/
def showNullable (n : Option Int) : String :=
  match n with
  | some n => toString n
  | none => "null"

def eConfigType (item : V2rayNShareItem) : Except String EConfigType :=
  match item.configType with
  | some 1 => .ok .vmess
  | some 2 => .ok .custom
  | some 3 => .ok .shadowsocks
  | some 4 => .ok .socks
  | some 5 => .ok .vless
  | some 6 => .ok .trojan
  | some 7 => .ok .hysteria2
  | some 9 => .ok .wireguard
  | some 10 => .ok .http
  | some 101 => .ok .policygroup
  | some 102 => .ok .proxychain
  | t => .error ("Unknown ConfigType: " ++ showNullable t)

def networkOf (item : V2rayNShareItem) (configType : EConfigType) : String :=
  if configType = .hysteria2 then "hysteria"
  else if item.network = some "raw" then "tcp"
  else (NetworkType.fromString item.network).type

/-- A bandwidth in Mbps, if it is positive. -/
def bandwidth (mbps : Option Int) : Option String :=
  (mbps.filter (0 < ·)).map fun n => toString n ++ "Mbps"

def strategy (multipleLoad : Option Int) : BalancerStrategyType :=
  match multipleLoad with
  | some 2 => .random
  | some 3 => .roundRobin
  | some 4 => .leastLoad
  | _ => .leastPing

def toProfileItem (item : V2rayNShareItem) : Except String ProfileItem := do
  let configType ← item.eConfigType
  let proto := item.protoExtraObj
  let transport := item.transportExtraObj
  let network := item.networkOf configType
  return {
    configType
    remarks := orEmpty item.remarks
    server := some (orEmpty item.address)
    serverPort := some (showNullable item.port)
    password := some (orEmpty item.password)
    method := match configType with
      | .vmess => some (orEmpty (proto.bind (·.vmessSecurity)))
      | .shadowsocks => some (orEmpty (proto.bind (·.ssMethod)))
      | .vless => some (orEmpty (proto.bind (·.vlessEncryption)))
      | _ => none
    flow := some (orEmpty (proto.bind (·.flow)))
    username := some (orEmpty item.username)
    network := some network
    headerType :=
      if network = NetworkType.tcp.type then transport.bind (·.rawHeaderType)
      else if network = NetworkType.kcp.type then transport.bind (·.kcpHeaderType)
      else none
    host := transport.bind (·.host)
    path := transport.bind (·.path)
    seed := transport.bind (·.kcpSeed)
    kcpMtu := transport.bind (·.kcpMtu)
    mode := transport.bind (·.grpcMode)
    serviceName := transport.bind (·.grpcServiceName)
    authority := transport.bind (·.grpcAuthority)
    xhttpMode := transport.bind (·.xhttpMode)
    xhttpExtra := transport.bind (·.xhttpExtra)
    finalMask := item.finalmask
    security := item.streamSecurity
    sni := item.sni
    alpn := item.alpn
    fingerPrint := item.fingerprint
    insecure := item.allowInsecure.map (equalsIgnoreAsciiCase · "true")
    echConfigList := item.echConfigList
    verifyPeerCertByName := item.verifyPeerCertByName
    pinnedCA256 := item.certSha
    publicKey := item.publicKey
    shortId := item.shortId
    spiderX := item.spiderX
    mldsa65Verify := item.mldsa65Verify
    secretKey := if configType = .wireguard then item.password else none
    preSharedKey := proto.bind (·.wgPresharedKey)
    localAddress := proto.bind (·.wgInterfaceAddress)
    reserved := proto.bind (·.wgReserved)
    mtu := proto.bind (·.wgMtu)
    obfsPassword := proto.bind (·.salamanderPass)
    portHopping := proto.bind (·.ports)
    portHoppingInterval := proto.bind (·.hopInterval)
    bandwidthDown := bandwidth (proto.bind (·.downMbps))
    bandwidthUp := bandwidth (proto.bind (·.upMbps))
    policyGroupType := some (strategy (proto.bind (·.multipleLoad))).policyGroupType
    policyGroupSubscriptionId :=
      if proto.bind (·.subChildItems) = some "self" then some "self" else none
    policyGroupFilter := proto.bind (·.filter) }

/-- `toProfileItem` leaves the subscription of the profile empty. -/
theorem toProfileItem_subscriptionId {item : V2rayNShareItem} {profile : ProfileItem}
    (h : item.toProfileItem = .ok profile) : profile.subscriptionId = "" := by
  unfold toProfileItem at h
  cases ht : item.eConfigType with
  | error e => rw [ht] at h; cases h
  | ok t => rw [ht] at h; cases h; rfl

/-- An item of a known type has a profile. -/
theorem toProfileItem_of_type {item : V2rayNShareItem} (h : item.eConfigType = .ok t) :
    ∃ profile, item.toProfileItem = .ok profile := by
  unfold toProfileItem
  rw [h]
  exact ⟨_, rfl⟩

end V2rayNShareItem

namespace V2rayNFmt

section
variable (decode : String → String) (fromJson : String → Option V2rayNShareItem)
  (escape : String → String)

def parseShareItem (str : String) : Option V2rayNShareItem :=
  fromJson (decode (substringAfterLast '/' str))

/-- The items by `IndexId`; the first item of an ID stays. -/
def idMap (items : List V2rayNShareItem) : List (String × V2rayNShareItem) :=
  items.foldl (fun m item =>
    let key := orEmpty item.indexId
    if key ∈ m.map Prod.fst then m else m ++ [(key, item)]) []

/-- Items with distinct IDs all stay. -/
theorem idMap_of_nodup {items : List V2rayNShareItem}
    (h : (items.map fun item => orEmpty item.indexId).Nodup) :
    idMap items = items.map fun item => (orEmpty item.indexId, item) := by
  suffices ∀ m : List (String × V2rayNShareItem),
      (∀ item ∈ items, orEmpty item.indexId ∉ m.map Prod.fst) →
      items.foldl (fun m item =>
        let key := orEmpty item.indexId
        if key ∈ m.map Prod.fst then m else m ++ [(key, item)]) m =
        m ++ items.map fun item => (orEmpty item.indexId, item) from
    this [] fun _ _ => not_mem_nil
  induction items with
  | nil => exact fun m _ => (append_nil m).symm
  | cons item items ih =>
    intro m hnew
    rw [map_cons, nodup_cons] at h
    rw [foldl_cons]
    rw [if_neg (hnew item mem_cons_self), ih h.2, append_assoc]
    · rfl
    · intro item' hitem' hin
      rw [map_append, mem_append] at hin
      rcases hin with hin | hin
      · exact hnew item' (mem_cons_of_mem _ hitem') hin
      · have hkey : orEmpty item'.indexId = orEmpty item.indexId :=
          mem_singleton.mp hin
        exact h.1 (hkey ▸ mem_map_of_mem hitem')

/-- The remarks of the child items of a group or chain. -/
def childRemarks (idMap : List (String × V2rayNShareItem)) (ids : String) : List String :=
  ((split ',' ids).filterMap fun id => (idMap.lookup id).bind (·.remarks)).filter
    (!isBlank ·)

/-- The group and chain members of an item, named by their remarks. -/
def withMembers (idMap : List (String × V2rayNShareItem)) (subId : String) (item : V2rayNShareItem)
    (profile : ProfileItem) : ProfileItem :=
  let proto := item.protoExtraObj
  let profile := { profile with
    policyGroupSubscriptionId :=
      if proto.bind (·.subChildItems) = some "self" then some subId else none }
  match (proto.bind (·.childItems)).filter (!isBlank ·) with
  | none => profile
  | some ids =>
    let remarks := childRemarks idMap ids
    if remarks = [] then profile
    else if item.configType = some 101 then
      { profile with
        policyGroupFilter := some ("^(" ++ "|".intercalate (remarks.map escape) ++ ")$") }
    else if item.configType = some 102 then
      { profile with proxyChainProfiles := some (",".intercalate remarks) }
    else profile

/-- Only the members of a group or chain are changed. -/
theorem exists_withMembers_eq (idMap : List (String × V2rayNShareItem)) (subId : String)
    (item : V2rayNShareItem) (profile : ProfileItem) :
    ∃ subscriptionId filter chain, withMembers escape idMap subId item profile =
      { profile with
        policyGroupSubscriptionId := subscriptionId
        policyGroupFilter := filter
        proxyChainProfiles := chain } := by
  unfold withMembers
  dsimp only
  repeat' split
  all_goals exact ⟨_, _, _, rfl⟩

theorem withMembers_subscriptionId (idMap : List (String × V2rayNShareItem)) (subId : String)
    (item : V2rayNShareItem) (profile : ProfileItem) :
    (withMembers escape idMap subId item profile).subscriptionId = profile.subscriptionId := by
  obtain ⟨_, _, _, heq⟩ := exists_withMembers_eq escape idMap subId item profile
  rw [heq]

def parse (list : List String) (subId : String) : Except String (List ProfileItem) :=
  let idMap := idMap (list.filterMap (parseShareItem decode fromJson))
  idMap.mapM fun e => do return withMembers escape idMap subId e.2 (← e.2.toProfileItem)

/-- The profiles of v2rayN items have no subscription. -/
theorem parse_subscriptionId (h : parse decode fromJson escape list subId = .ok profiles)
    {profile : ProfileItem} (hp : profile ∈ profiles) : profile.subscriptionId = "" := by
  unfold parse at h
  obtain ⟨e, -, he⟩ := mem_of_mapM_eq_ok h hp
  cases hi : e.2.toProfileItem with
  | error e' => rw [hi] at he; cases he
  | ok p =>
    rw [hi] at he
    cases he
    rw [withMembers_subscriptionId, V2rayNShareItem.toProfileItem_subscriptionId hi]

theorem parse_nil (subId : String) : parse decode fromJson escape [] subId = .ok [] := rfl

end
end V2rayNFmt
end ZeroVpn
