import ZeroVpn.Verify.LinkRoundTrip

/-!
# WireGuard and Hysteria2 links

The link of such a profile is always read again, but it has no place for several settings: the final
mask of both, the bandwidth, the hopping interval and most TLS settings of Hysteria2. A profile
without them converts to the same outbound as before (`convert_of_udp_link`).
-/

namespace ZeroVpn

variable (toASCII : String → Except String String)

namespace UdpLink

open FmtBase CoreOutboundBuilder Link Text Utils AppConfig

/-! ## The address -/

/-- The profile has a server that `java.net.URI` accepts as it stands in the link, and a port. -/
structure Addressed (p : ProfileItem) (server : String) (n : Int) : Prop where
  address : p.server = some server
  accepted : AcceptsHost (hostOf server)
  port : LinkFormat.HasPort p n
  range : 1 ≤ n ∧ n ≤ 65535

theorem mem_hostOf {server : String} (h : c ∈ server.toList) :
    c ∈ (hostOf server).toList := by
  rw [hostOf, getIpv6Address]
  split
  · rw [String.toList_append, String.toList_append]
    exact List.mem_append_left _ (List.mem_append_right _ h)
  · exact h

variable {p : ProfileItem} {server : String} {n : Int} {order : List (String × String)}

section
variable (h : Addressed p server n)
include h

/-- An accepted server is ASCII. -/
theorem Addressed.toIdnDomain :
    HttpUtil.toIdnDomain toASCII (orEmpty p.server) = .ok server := by
  rw [h.address]
  exact toIdnDomain_ascii toASCII fun c hc =>
    Uri.toNat_lt_of_isAddressChar (h.accepted.isAddressChar c (mem_hostOf hc))

theorem Addressed.toInt_serverPort :
    toInt (toString n) = toInt (orEmpty p.serverPort) := by
  obtain ⟨port, hport, -, hint⟩ := h.port
  have htext : toIntOrNull (toString n) = some n :=
    toIntOrNull_toString ⟨by have := h.range; omega, by have := h.range; omega⟩
  rw [hport, toInt, toInt, htext, orEmpty, Option.getD_some, hint]

end

/-! ## WireGuard -/

section parse
variable {str : String} {uri : Uri} (huri : readUri str = .ok uri)
  (hquery : uri.rawQuery = some (queryString order)) (hne : order ≠ [])
  (hkeys : ∀ e ∈ order, IsSafeKey e.1)
include huri hquery hne hkeys

theorem wireguard_parse : WireguardFmt.parse str = .ok (some (WireguardFmt.readQuery uri order)) := by
  have hnot : ¬isNullOrEmpty uri.rawQuery = true := by
    rw [hquery]
    simpa [isNullOrEmpty] using queryString_ne_empty hne
  rw [WireguardFmt.parse, huri]
  dsimp only [bind, Except.bind]
  rw [if_neg hnot, hquery, orEmpty, Option.getD_some, getQueryParam_queryString hne hkeys]
  rfl

theorem hysteria2_parse : Hysteria2Fmt.parse str = .ok (Hysteria2Fmt.readQuery uri order) := by
  have hnot : ¬isNullOrEmpty uri.rawQuery = true := by
    rw [hquery]
    simpa [isNullOrEmpty] using queryString_ne_empty hne
  rw [Hysteria2Fmt.parse, huri]
  dsimp only [bind, Except.bind]
  rw [if_neg hnot, hquery, orEmpty, Option.getD_some, getQueryParam_queryString hne hkeys]
  rfl

end parse

/-- What the reader makes of the link of a WireGuard profile. -/
structure ReadWireguard (p : ProfileItem) (server : String) (n : Int) (q : ProfileItem) :
    Prop where
  configType : q.configType = .wireguard
  address : q.server = some (stripBrackets server)
  serverPort : q.serverPort = some (toString n)
  secretKey : q.secretKey = some (orEmpty p.secretKey)
  localAddress : q.localAddress = some (orEmpty (p.localAddress.map removeWhiteSpace))
  publicKey : q.publicKey = some (orEmpty p.publicKey)
  preSharedKey : q.preSharedKey = nullIfBlank (p.preSharedKey.map removeWhiteSpace)
  mtu : q.mtu = p.mtu
  reserved : q.reserved = p.reserved.map removeWhiteSpace
  finalMask : q.finalMask = none

def wireguardKeys : List String := ["publickey", "reserved", "address", "mtu", "presharedkey"]

theorem wireguard_isSafeKey (hperm : order.Perm (WireguardFmt.dicQuery p)) :
    ∀ e ∈ order, IsSafeKey e.1 :=
  isSafeKey_of_perm hperm
    (by decide : ∀ key ∈ wireguardKeys, key.toList.all URLEncoder.isSafe = true)

theorem wireguard_param (hperm : order.Perm (WireguardFmt.dicQuery p)) (key : String) :
    param order key = ((WireguardFmt.queryFields p).lookup key).join :=
  param_of_perm hperm (by decide : wireguardKeys.Nodup) key

theorem wireguard_read (h : Addressed p server n) (hmtu : p.mtu.isSome = true)
    (hrange : InRange p.mtu) (hreserved : p.reserved.isSome = true)
    (hperm : order.Perm (WireguardFmt.dicQuery p)) :
    ∃ link q, WireguardFmt.toUri toASCII p order = .ok link ∧
      WireguardFmt.parse (wireguard ++ link) = .ok (some q) ∧
      ReadWireguard p server n q := by
  obtain ⟨link, uri, hlink, huri, hpieces⟩ :=
    @LinkFormat.readUri_toUri toASCII p order .wireguard server n (h.toIdnDomain toASCII)
      h.accepted h.port (wireguard_isSafeKey hperm)
  have hread := wireguard_param hperm
  have hne : order ≠ [] := by
    rintro rfl
    cases hread "publickey"
  refine ⟨link, WireguardFmt.readQuery uri order, hlink,
    wireguard_parse huri hpieces.rawQuery hne (wireguard_isSafeKey hperm), ?_⟩
  constructor
  case configType => rfl
  case address => exact congrArg some (hpieces.idnHost.trans (stripBrackets_hostOf server))
  case serverPort => exact congrArg (fun n => some (toString n)) hpieces.port
  case secretKey =>
    rw [WireguardFmt.readQuery, hpieces.userInfo]
    rfl
  case localAddress =>
    exact congrArg (fun s => some (s.getD wireguardLocalAddressV4)) (hread "address")
  case publicKey =>
    rw [WireguardFmt.readQuery, hread "publickey"]
    rfl
  case preSharedKey => exact congrArg nullIfBlank (hread "presharedkey")
  case mtu =>
    obtain ⟨m, hm⟩ := Option.isSome_iff_exists.mp hmtu
    have hvalue : param order "mtu" = some (toString m) := by
      rw [hread "mtu", WireguardFmt.queryFields, hm]
      rfl
    have hint : parseInt (some (toString m)) 0 = m := by
      rw [parseInt, Option.bind_some, toIntOrNull_toString (hrange m hm),
        Option.getD_some]
    rw [WireguardFmt.readQuery, hvalue, Option.getD_some, hint, hm]
  case reserved =>
    obtain ⟨reserved, hsome⟩ := Option.isSome_iff_exists.mp hreserved
    have hvalue : param order "reserved" = some (removeWhiteSpace reserved) := by
      rw [hread "reserved", WireguardFmt.queryFields, hsome]
      rfl
    rw [WireguardFmt.readQuery, hvalue, Option.getD_some, hsome, Option.map_some]
  case finalMask => rfl

/-- The settings of a WireGuard profile that its link keeps: spaces inside them are dropped, and
there is no place for a missing key, a port with leading zeros, an address in brackets that the
address utilities do not know, and a final mask. -/
structure WireguardCarried (p : ProfileItem) (server : String) (n : Int) : Prop where
  host : hostOf (stripBrackets server) = hostOf server
  serverPort : p.serverPort = some (toString n)
  secretKey : p.secretKey.isSome = true
  localAddress : splitTrimmed (orEmpty (p.localAddress.map removeWhiteSpace)) =
    splitTrimmed (orEmpty p.localAddress)
  preSharedKey : nullIfBlank (p.preSharedKey.map removeWhiteSpace) =
    nullIfBlank p.preSharedKey
  reserved : wireguardReserved { p with reserved := p.reserved.map removeWhiteSpace } =
    wireguardReserved p
  finalMask : isNullOrBlank p.finalMask = true

theorem wireguardAddresses_congr {q : ProfileItem}
    (h : splitTrimmed (orEmpty q.localAddress) = splitTrimmed (orEmpty p.localAddress)) :
    wireguardAddresses env q = wireguardAddresses env p := by
  -- no address and an empty text both give the default
  have hraw (r : ProfileItem) : (r.localAddress.map splitTrimmed).filter (· ≠ []) =
      (some (splitTrimmed (orEmpty r.localAddress))).filter (· ≠ []) := by
    cases r.localAddress with
    | none => decide
    | some a => rfl
  rw [wireguardAddresses, wireguardAddresses, hraw q, hraw p, h]

theorem convert_wireguard {q : ProfileItem} (h : Addressed p server n)
    (hp : p.configType = .wireguard) (hq : ReadWireguard p server n q)
    (hcarried : WireguardCarried p server n) : convert env q = convert env p := by
  have haddresses : wireguardAddresses env q = wireguardAddresses env p := by
    refine wireguardAddresses_congr ?_
    rw [hq.localAddress]
    exact hcarried.localAddress
  have hreserved : wireguardReserved q = wireguardReserved p := by
    rw [← hcarried.reserved, wireguardReserved, wireguardReserved, hq.reserved]
  have hsecret : q.secretKey = p.secretKey := by
    obtain ⟨key, hkey⟩ := Option.isSome_iff_exists.mp hcarried.secretKey
    rw [hq.secretKey, hkey]
    rfl
  have hendpoint : getIpv6Address q.server ++ ":" ++ q.serverPort.getD "null" =
      getIpv6Address p.server ++ ":" ++ p.serverPort.getD "null" := by
    rw [hq.address, hq.serverPort, h.address, hcarried.serverPort]
    exact congrArg (fun host => host ++ ":" ++ toString n) hcarried.host
  have hpeer (peer : WireGuardBean) : fillPeer q peer = fillPeer p peer := by
    rw [fillPeer, fillPeer, hendpoint, hq.publicKey, hq.preSharedKey,
      nullIfBlank_nullIfBlank, hcarried.preSharedKey]
    rfl
  have hmask : isNullOrBlank q.finalMask = true := by
    rw [hq.finalMask]
    rfl
  have hout : toOutbound env q = toOutbound env p := by
    rw [toOutbound, toOutbound, hq.configType, hp]
    rw [toOutboundWireguard, toOutboundWireguard, hreserved, hsecret, haddresses, hq.mtu]
    simp only [hpeer, hmask, hcarried.finalMask, if_true]
  rw [convert, convert, hout]

/-! ## Hysteria2 -/

/-- What the reader makes of the link of a Hysteria2 profile. The transport and the protocols of the
handshake are left out, which the builder sets itself. -/
structure ReadHysteria2 (p : ProfileItem) (server : String) (n : Int) (q : ProfileItem) :
    Prop where
  configType : q.configType = .hysteria2
  address : q.server = some (stripBrackets server)
  serverPort : q.serverPort = some (toString n)
  password : q.password = some (orEmpty p.password)
  security : q.security = some (p.security.getD tls)
  insecure : q.insecure = some (p.insecure == some true)
  sni : q.sni = nullIfBlank p.sni
  pinnedCA256 : q.pinnedCA256 = nullIfBlank p.pinnedCA256
  obfsPassword : q.obfsPassword = nullIfBlank p.obfsPassword
  portHopping : q.portHopping = nullIfBlank p.portHopping
  portHoppingInterval : q.portHoppingInterval = none
  bandwidthUp : q.bandwidthUp = none
  bandwidthDown : q.bandwidthDown = none
  finalMask : q.finalMask = none
  fingerPrint : q.fingerPrint = none
  cipherSuites : q.cipherSuites = none
  echConfigList : q.echConfigList = none
  verifyPeerCertByName : q.verifyPeerCertByName = none
  publicKey : q.publicKey = none
  shortId : q.shortId = none
  spiderX : q.spiderX = none
  mldsa65Verify : q.mldsa65Verify = none

def hysteria2Keys : List String :=
  ["security", "sni", "alpn", "insecure", "obfs", "obfs-password", "mport", "pinSHA256"]

theorem hysteria2_isSafeKey (hperm : order.Perm (Hysteria2Fmt.dicQuery p)) :
    ∀ e ∈ order, IsSafeKey e.1 :=
  isSafeKey_of_perm hperm
    (by decide : ∀ key ∈ hysteria2Keys, key.toList.all URLEncoder.isSafe = true)

theorem hysteria2_param (hperm : order.Perm (Hysteria2Fmt.dicQuery p)) (key : String) :
    param order key = ((Hysteria2Fmt.queryFields p).lookup key).join :=
  param_of_perm hperm (by decide : hysteria2Keys.Nodup) key

theorem hysteria2_param_eq_none (hperm : order.Perm (Hysteria2Fmt.dicQuery p))
    (hkey : key ∉ hysteria2Keys) : param order key = none := by
  rw [hysteria2_param hperm, lookup_eq_none_of_notMem hkey]
  rfl

theorem hysteria2_insecure (hperm : order.Perm (Hysteria2Fmt.dicQuery p)) :
    (["insecure", "allowInsecure", "allow_insecure"].any fun key => param order key == some "1") =
      (p.insecure == some true) := by
  have hflag : param order "insecure" = some (if p.insecure = some true then "1" else "0") :=
    hysteria2_param hperm "insecure"
  rw [List.any_cons, List.any_cons, List.any_cons, List.any_nil, hflag,
    hysteria2_param_eq_none hperm (by decide), hysteria2_param_eq_none hperm (by decide)]
  by_cases hinsecure : p.insecure = some true
  · rw [hinsecure]
    decide
  · rw [if_neg hinsecure, beq_eq_false_iff_ne.mpr hinsecure]
    decide

theorem hysteria2_read (h : Addressed p server n) (hperm : order.Perm (Hysteria2Fmt.dicQuery p)) :
    ∃ link q, Hysteria2Fmt.toUri toASCII p order = .ok link ∧
      Hysteria2Fmt.parse (hysteria2 ++ link) = .ok q ∧ ReadHysteria2 p server n q := by
  obtain ⟨link, uri, hlink, huri, hpieces⟩ :=
    @LinkFormat.readUri_toUri toASCII p order .hysteria2 server n (h.toIdnDomain toASCII)
      h.accepted h.port (hysteria2_isSafeKey hperm)
  have hread := hysteria2_param hperm
  have hnone {key : String} (hkey : key ∉ hysteria2Keys) := hysteria2_param_eq_none hperm hkey
  have hne : order ≠ [] := by
    rintro rfl
    cases hread "insecure"
  refine ⟨link, Hysteria2Fmt.readQuery uri order, hlink,
    hysteria2_parse huri hpieces.rawQuery hne (hysteria2_isSafeKey hperm), ?_⟩
  constructor
  case configType => rfl
  case address => exact congrArg some (hpieces.idnHost.trans (stripBrackets_hostOf server))
  case serverPort => exact congrArg (fun n => some (toString n)) hpieces.port
  case password => exact hpieces.userInfo
  case security => exact congrArg (fun s => some (s.getD tls)) (hread "security")
  case insecure => exact congrArg some (hysteria2_insecure hperm)
  case sni => exact hread "sni"
  case pinnedCA256 => exact hread "pinSHA256"
  case obfsPassword => exact hread "obfs-password"
  case portHopping => exact hread "mport"
  case portHoppingInterval => rfl
  case bandwidthUp => rfl
  case bandwidthDown => rfl
  -- the link has no entries for the others
  all_goals exact hnone (by decide)

/-- The settings of a Hysteria2 profile that its link keeps. -/
structure Hysteria2Carried (env : AppEnv) (p : ProfileItem) (server : String) : Prop where
  host : stripBrackets server = server
  bandwidthUp : nullIfBlank p.bandwidthUp = none
  bandwidthDown : nullIfBlank p.bandwidthDown = none
  interval : isNullOrBlank p.portHopping = true ∨ hopInterval p.portHoppingInterval = "30"
  finalMask : isNullOrEmpty p.finalMask = true
  noMask : p.finalMask.bind env.platform.parseString = none
  sni : isNullOrBlank p.sni = true → isNullOrEmpty p.sni = true
  pinnedCA256 : p.insecure = some true → isNullOrBlank p.pinnedCA256 = true →
    isNullOrEmpty p.pinnedCA256 = true
  tls : ∀ text ∈ [p.fingerPrint, p.cipherSuites, p.echConfigList, p.verifyPeerCertByName,
    p.publicKey, p.shortId, p.spiderX, p.mldsa65Verify], nullIfBlank text = none

section convert
variable {env : AppEnv} {q : ProfileItem} (hq : ReadHysteria2 p server n q)
  (hcarried : Hysteria2Carried env p server)
include hq hcarried

theorem hysteriaFinalMask_read : hysteriaFinalMask q = hysteriaFinalMask p := by
  have hhop : (if isNullOrBlank q.portHopping then none
      else some { ports := q.portHopping
                  interval := some (hopInterval q.portHoppingInterval) } : Option UdpHopBean) =
      if isNullOrBlank p.portHopping then none
      else some { ports := p.portHopping
                  interval := some (hopInterval p.portHoppingInterval) } := by
    rw [hq.portHopping, hq.portHoppingInterval, isNullOrBlank_nullIfBlank]
    cases hblank : isNullOrBlank p.portHopping with
    | true => rfl
    | false =>
      have hinterval := hcarried.interval.resolve_left (by rw [hblank]; decide)
      rw [nullIfBlank_of_not_isNullOrBlank hblank, hinterval]
      rfl
  have hobfs : (if isNullOrBlank q.obfsPassword then none
      else some [{ type := "salamander"
                   settings := some { password := q.obfsPassword } }] : Option (List MaskBean)) =
      if isNullOrBlank p.obfsPassword then none
      else some [{ type := "salamander", settings := some { password := p.obfsPassword } }] := by
    rw [hq.obfsPassword, isNullOrBlank_nullIfBlank]
    cases hblank : isNullOrBlank p.obfsPassword with
    | true => rfl
    | false => rw [nullIfBlank_of_not_isNullOrBlank hblank]
  rw [hysteriaFinalMask, hysteriaFinalMask, hhop, hobfs, hq.bandwidthUp, hq.bandwidthDown,
    hcarried.bandwidthUp, hcarried.bandwidthDown]
  rfl

theorem serverName_read (haddress : p.server = some server) :
    serverName env q none = serverName env p none := by
  have hserver : q.server = p.server := by
    rw [hq.address, hcarried.host, haddress]
  rw [serverName, serverName, hq.sni, hserver]
  cases hblank : isNullOrBlank p.sni with
  | true => rw [nullIfBlank_of_isNullOrBlank hblank, hcarried.sni hblank]; rfl
  | false => rw [nullIfBlank_of_not_isNullOrBlank hblank]

theorem tlsSettings_read (haddress : p.server = some server) (halpn : q.alpn = p.alpn) :
    tlsSettings env q none = tlsSettings env p none := by
  have hallow : (q.insecure == some true && isNullOrEmpty q.pinnedCA256) =
      (p.insecure == some true && isNullOrEmpty p.pinnedCA256) := by
    rw [hq.insecure, hq.pinnedCA256]
    by_cases hinsecure : p.insecure = some true
    · rw [hinsecure]
      cases hblank : isNullOrBlank p.pinnedCA256 with
      | true =>
        rw [nullIfBlank_of_isNullOrBlank hblank, hcarried.pinnedCA256 hinsecure hblank]
        rfl
      | false =>
        rw [nullIfBlank_of_not_isNullOrBlank hblank]
        rfl
    · rw [beq_eq_false_iff_ne.mpr hinsecure]
      rfl
  have hnone := hcarried.tls
  simp only [List.forall_mem_cons] at hnone
  obtain ⟨hfp, hcs, hech, hvcn, hpbk, hsid, hspx, hpqv, -⟩ := hnone
  have hblank : nullIfBlank none = none := rfl
  rw [tlsSettings, tlsSettings, hallow, serverName_read hq hcarried haddress, halpn]
  simp only [hq.fingerPrint, hq.cipherSuites, hq.echConfigList, hq.verifyPeerCertByName,
    hq.publicKey, hq.shortId, hq.spiderX, hq.mldsa65Verify, hfp, hcs, hech, hvcn, hpbk, hsid, hspx,
    hpqv, hq.pinnedCA256, nullIfBlank_nullIfBlank, hblank]

theorem populateStream_read (haddress : p.server = some server)
    (hsecurity : p.security = some tls) (halpn : q.alpn = p.alpn)
    (hp : p.network = some NetworkType.hysteria.type)
    (hnetwork : q.network = some NetworkType.hysteria.type) (s : StreamSettingsBean) :
    populateStream env s q = populateStream env s p := by
  have htransport (s : StreamSettingsBean) : transportSettings env s q (some .hysteria) =
      transportSettings env s p (some .hysteria) := by
    rw [transportSettings, hysteriaFinalMask_read hq hcarried, hq.password]
    rfl
  have hmask : q.finalMask.bind env.platform.parseString = none := by rw [hq.finalMask]; rfl
  have hsecurity' : q.security = some tls := by
    rw [hq.security, hsecurity]
    rfl
  have hempty : isNullOrEmpty q.finalMask = true := by
    rw [hq.finalMask]
    rfl
  rw [populateStream, populateStream, populateTransportSettings_eq hp,
    populateTransportSettings_eq hnetwork, htransport,
    updateOutboundFinalMask_eq_self _ hmask, updateOutboundFinalMask_eq_self _ hcarried.noMask]
  dsimp only
  have hsni : (transportSettings env { s with network := some NetworkType.hysteria.type } p
      (some .hysteria)).2 = none := rfl
  rw [hsni, populateTlsSettings, populateTlsSettings, hsecurity, hsecurity', hempty,
    hcarried.finalMask, tlsSettings_read hq hcarried haddress halpn]

end convert

/-- The transport and the protocols of the handshake, which the builder sets itself. -/
def asHysteria (p : ProfileItem) : ProfileItem :=
  { p with network := some NetworkType.hysteria.type, alpn := some "h3" }

theorem convert_hysteria2 {q : ProfileItem} (h : Addressed p server n)
    (hp : p.configType = .hysteria2) (hsecurity : p.security = some tls)
    (hq : ReadHysteria2 p server n q) (hcarried : Hysteria2Carried env p server) :
    convert env q = convert env p := by
  have hread : ReadHysteria2 (asHysteria p) server n (asHysteria q) := { hq with }
  have hkept : Hysteria2Carried env (asHysteria p) server := { hcarried with }
  have hserver : (asHysteria q).server = (asHysteria p).server := by
    rw [hread.address, hcarried.host]
    exact h.address.symm
  have haddress : getServerAddress env (asHysteria q) = getServerAddress env (asHysteria p) := by
    rw [getServerAddress, getServerAddress, hserver]
  have hport : toInt (orEmpty (asHysteria q).serverPort) =
      toInt (orEmpty (asHysteria p).serverPort) := by
    rw [hread.serverPort]
    exact h.toInt_serverPort
  have hstream (s : StreamSettingsBean) :
      populateStream env s (asHysteria q) = populateStream env s (asHysteria p) :=
    populateStream_read hread hkept h.address hsecurity rfl rfl rfl s
  have hout : toOutbound env q = toOutbound env p := by
    rw [toOutbound, toOutbound, hq.configType, hp]
    change toOutboundStream env .hysteria2 (asHysteria q) _ =
      toOutboundStream env .hysteria2 (asHysteria p) _
    rw [toOutboundStream, toOutboundStream, toOutboundServer, toOutboundServer, haddress, hport,
      funext hstream]
  rw [convert, convert, hout]

/-- The link of a WireGuard or Hysteria2 profile is written and read; the profile read back converts
to the same outbound if the link has a place for all its settings. -/
theorem convert_of_udp_link (env : AppEnv) {p : ProfileItem} {server : String} {n : Int}
    (h : Addressed p server n) :
    (p.configType = .wireguard → p.mtu.isSome = true → InRange p.mtu →
      p.reserved.isSome = true → ∀ order, order.Perm (WireguardFmt.dicQuery p) →
      ∃ link q, WireguardFmt.toUri env.platform.toASCII p order = .ok link ∧
        WireguardFmt.parse (wireguard ++ link) = .ok (some q) ∧
        (WireguardCarried p server n → convert env q = convert env p)) ∧
    (p.configType = .hysteria2 → p.security = some tls →
      ∀ order, order.Perm (Hysteria2Fmt.dicQuery p) →
      ∃ link q, Hysteria2Fmt.toUri env.platform.toASCII p order = .ok link ∧
        Hysteria2Fmt.parse (hysteria2 ++ link) = .ok q ∧
        (Hysteria2Carried env p server → convert env q = convert env p)) := by
  constructor
  · intro hconfig hmtu hrange hreserved order hperm
    obtain ⟨link, q, hlink, hparse, hread⟩ :=
      wireguard_read env.platform.toASCII h hmtu hrange hreserved hperm
    exact ⟨link, q, hlink, hparse, convert_wireguard h hconfig hread⟩
  · intro hconfig hsecurity order hperm
    obtain ⟨link, q, hlink, hparse, hread⟩ := hysteria2_read env.platform.toASCII h hperm
    exact ⟨link, q, hlink, hparse, convert_hysteria2 h hconfig hsecurity hread⟩

/-! ## Servers with and without the lost settings -/

def wireguardServer (finalMask : Option String) : ProfileItem :=
  { ProfileItem.create .wireguard with
    server := some "::1"
    serverPort := some "51820"
    secretKey := some "a+b="
    publicKey := some "c/d="
    localAddress := some "10.0.0.2/32, fd00::2/128"
    reserved := some "1, 2, 3"
    mtu := some 1420
    finalMask }

def hysteria2Server (bandwidthUp : Option String) : ProfileItem :=
  { ProfileItem.create .hysteria2 with
    server := some "example.com"
    serverPort := some "0443"
    password := some "a:b"
    obfsPassword := some "secret"
    portHopping := some "1000-2000"
    sni := some "example.org"
    insecure := some true
    security := some "tls"
    bandwidthUp }

theorem wireguardServer_addressed (finalMask : Option String) :
    Addressed (wireguardServer finalMask) "::1" 51820 where
  address := rfl
  accepted := by decide
  port := ⟨"51820", rfl, by decide, by decide⟩
  range := by decide

theorem hysteria2Server_addressed (bandwidthUp : Option String) :
    Addressed (hysteria2Server bandwidthUp) "example.com" 443 where
  address := rfl
  accepted := by decide
  port := ⟨"0443", rfl, by decide, by decide⟩
  range := by decide

theorem wireguardServer_carried : WireguardCarried (wireguardServer none) "::1" 51820 where
  host := by decide
  serverPort := rfl
  secretKey := rfl
  localAddress := by decide
  preSharedKey := rfl
  reserved := by decide
  finalMask := rfl

theorem hysteria2Server_carried (env : AppEnv) :
    Hysteria2Carried env (hysteria2Server none) "example.com" where
  host := by decide
  bandwidthUp := rfl
  bandwidthDown := rfl
  interval := .inr (by decide)
  finalMask := rfl
  noMask := rfl
  sni := by decide
  pinnedCA256 := fun _ _ => rfl
  tls := by decide

theorem udpServers_of_link :
    (∃ link q, WireguardFmt.toUri plainPlatform.toASCII (wireguardServer none)
        (WireguardFmt.dicQuery (wireguardServer none)) = .ok link ∧
      WireguardFmt.parse (wireguard ++ link) = .ok (some q) ∧
      convert (plainEnv [] []) q = convert (plainEnv [] []) (wireguardServer none)) ∧
    ∃ link q, Hysteria2Fmt.toUri plainPlatform.toASCII (hysteria2Server none)
        (Hysteria2Fmt.dicQuery (hysteria2Server none)) = .ok link ∧
      Hysteria2Fmt.parse (hysteria2 ++ link) = .ok q ∧
      convert (plainEnv [] []) q = convert (plainEnv [] []) (hysteria2Server none) := by
  have hrange : InRange (wireguardServer none).mtu := by
    intro m hm
    cases hm
    decide
  obtain ⟨link, q, hlink, hparse, hsame⟩ :=
    (convert_of_udp_link (plainEnv [] []) (wireguardServer_addressed none)).1 rfl rfl hrange rfl _
      (List.Perm.refl _)
  obtain ⟨link', q', hlink', hparse', hsame'⟩ :=
    (convert_of_udp_link (plainEnv [] []) (hysteria2Server_addressed none)).2 rfl rfl _
      (List.Perm.refl _)
  exact ⟨⟨link, q, hlink, hparse, hsame wireguardServer_carried⟩,
    link', q', hlink', hparse', hsame' (hysteria2Server_carried _)⟩

/-- The upload bandwidth in an outbound. -/
def brutalUp (o : OutboundBean) : Option String := do
  match ← (← o.streamSettings).finalmask with
  | .bean mask => (← mask.quicParams).brutalUp
  | .json _ => none

/-- A final mask and a bandwidth are lost. -/
theorem mask_and_bandwidth_lost :
    (∃ link q o o', WireguardFmt.toUri plainPlatform.toASCII (wireguardServer (some "\x7b\x7d"))
        (WireguardFmt.dicQuery (wireguardServer (some "\x7b\x7d"))) = .ok link ∧
      WireguardFmt.parse (wireguard ++ link) = .ok (some q) ∧
      convert (plainEnv [] []) (wireguardServer (some "\x7b\x7d")) = .ok (some o) ∧
      convert (plainEnv [] []) q = .ok (some o') ∧
      o.streamSettings.isSome = true ∧ o'.streamSettings.isSome = false) ∧
    ∃ link q o o', Hysteria2Fmt.toUri plainPlatform.toASCII (hysteria2Server (some "100"))
        (Hysteria2Fmt.dicQuery (hysteria2Server (some "100"))) = .ok link ∧
      Hysteria2Fmt.parse (hysteria2 ++ link) = .ok q ∧
      convert (plainEnv [] []) (hysteria2Server (some "100")) = .ok (some o) ∧
      convert (plainEnv [] []) q = .ok (some o') ∧
      brutalUp o = some "100" ∧ brutalUp o' = none := by
  constructor
  · have hrange : InRange (wireguardServer (some "\x7b\x7d")).mtu := by
      intro m hm
      cases hm
      decide
    obtain ⟨link, q, hlink, hparse, hread⟩ := wireguard_read plainPlatform.toASCII
      (wireguardServer_addressed (some "\x7b\x7d")) rfl hrange rfl (List.Perm.refl _)
    -- the link is that of the server without the mask
    have hread' : ReadWireguard (wireguardServer none) "::1" 51820 q := { hread with }
    have hsame := @convert_wireguard _ _ _ (plainEnv [] []) q (wireguardServer_addressed none) rfl
      hread' wireguardServer_carried
    obtain ⟨o, ho, hstream⟩ : ∃ o, convert (plainEnv [] []) (wireguardServer (some "\x7b\x7d")) =
        .ok (some o) ∧ o.streamSettings.isSome = true := ⟨_, rfl, rfl⟩
    obtain ⟨o', ho', hstream'⟩ : ∃ o, convert (plainEnv [] []) (wireguardServer none) =
        .ok (some o) ∧ o.streamSettings.isSome = false := ⟨_, rfl, rfl⟩
    exact ⟨link, q, o, o', hlink, hparse, ho, hsame.trans ho', hstream, hstream'⟩
  · obtain ⟨link, q, hlink, hparse, hread⟩ := hysteria2_read plainPlatform.toASCII
      (hysteria2Server_addressed (some "100")) (List.Perm.refl _)
    have hread' : ReadHysteria2 (hysteria2Server none) "example.com" 443 q := { hread with }
    have hsame := @convert_hysteria2 _ _ _ (plainEnv [] []) q (hysteria2Server_addressed none) rfl
      rfl hread' (hysteria2Server_carried _)
    obtain ⟨o, ho, hup⟩ : ∃ o, convert (plainEnv [] []) (hysteria2Server (some "100")) =
        .ok (some o) ∧ brutalUp o = some "100" := ⟨_, rfl, rfl⟩
    obtain ⟨o', ho', hup'⟩ : ∃ o, convert (plainEnv [] []) (hysteria2Server none) =
        .ok (some o) ∧ brutalUp o = none := ⟨_, rfl, rfl⟩
    exact ⟨link, q, o, o', hlink, hparse, ho, hsame.trans ho', hup, hup'⟩

end UdpLink
end ZeroVpn
