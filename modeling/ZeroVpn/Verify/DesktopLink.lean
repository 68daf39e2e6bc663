import ZeroVpn.Desktop.XrayConfig
import ZeroVpn.Verify.LinkRoundTrip

/-!
# Links between Android and desktop

The desktop builds an outbound from the link that Android writes for a VLESS or Trojan profile.
`Connection` lists what the two outbounds are compared by. They agree (`desktop_connection`) up to
the texts of white space that a link drops, if the profile uses nothing that the desktop does not
read (`Understood`).
-/

namespace ZeroVpn.Link

open FmtBase CoreOutboundBuilder XrayConfig Text Option Utils AppConfig List

/-! ## Connections -/

/-- The transport of an outbound. An empty host is none. -/
structure Transport where
  network : String
  security : String
  path : List String
  host : List String
  serviceName : String
  multiMode : Bool
  deriving DecidableEq

/-- What an outbound connects to, and how. -/
structure Connection where
  address : String
  port : Option String
  /-- The user id of VLESS, the password of Trojan. -/
  secret : String
  flow : String
  encryption : Option String
  transport : Transport
  deriving DecidableEq

namespace Transport

def ofBean (s : StreamSettingsBean) : Transport where
  network := orEmpty s.network
  security := orEmpty s.security
  path := ((s.tcpSettings.bind (·.header.request)).map (·.path)).getD [] ++
    (s.wsSettings.bind (·.path)).toList ++ (s.httpupgradeSettings.bind (·.path)).toList ++
    (s.xhttpSettings.bind (·.path)).toList
  host := ((s.tcpSettings.bind (·.header.request)).bind (·.headers.host)).getD [] ++
    ((s.wsSettings.bind (·.host)).toList ++ (s.httpupgradeSettings.bind (·.host)).toList ++
      (s.xhttpSettings.bind (·.host)).toList).filter (· ≠ "")
  serviceName := (s.grpcSettings.map (·.serviceName)).getD ""
  multiMode := s.grpcSettings.bind (·.multiMode) == some true

/-- The member of an object at a path. -/
def member (j : Json) : List String → Option Json
  | [] => some j
  | key :: keys => do
    let members ← j.asObject
    let value ← JsonObject.get members key
    member value keys

def text (j : Json) (keys : List String) : Option String := (member j keys).bind Json.asString

def texts (j : Json) (keys : List String) : List String :=
  (((member j keys).bind Json.asArray).getD []).filterMap Json.asString

def ofJson (stream : Json) : Transport where
  network := orEmpty (text stream ["network"])
  security := orEmpty (text stream ["security"])
  path := texts stream ["tcpSettings", "header", "request", "path"] ++
    (text stream ["wsSettings", "path"]).toList ++
    (text stream ["httpupgradeSettings", "path"]).toList ++
    (text stream ["xhttpSettings", "path"]).toList
  host := texts stream ["tcpSettings", "header", "request", "headers", "Host"] ++
    ((text stream ["wsSettings", "headers", "Host"]).toList ++
      (text stream ["httpupgradeSettings", "host"]).toList ++
      (text stream ["xhttpSettings", "host"]).toList).filter (· ≠ "")
  serviceName := orEmpty (text stream ["grpcSettings", "serviceName"])
  multiMode := match member stream ["grpcSettings", "multiMode"] with
    | some (.bool b) => b
    | _ => false

end Transport

namespace Connection

/-- The connection of an outbound of Android. -/
def ofBean (o : OutboundBean) : Option Connection := do
  let settings ← o.settings
  let stream ← o.streamSettings
  return {
    address := match settings.address with
      | some (.host address) => address
      | _ => ""
    port := settings.port.map toString
    secret := orEmpty (settings.id.or settings.password)
    flow := orEmpty settings.flow
    encryption := settings.encryption
    transport := .ofBean stream }

/-- The first element of an array. -/
def first (j : Json) : Option Json := j.asArray.bind (·.head?)

/-- The connection of an outbound of the desktop; a VLESS server has a list of users. -/
def ofJson (outbound : Json) : Option Connection := do
  let servers ← (Transport.member outbound ["settings", "vnext"]).or
    (Transport.member outbound ["settings", "servers"])
  let server ← first servers
  let user := ((Transport.member server ["users"]).bind first).getD server
  let stream ← Transport.member outbound ["streamSettings"]
  return {
    address := orEmpty (Transport.text server ["address"])
    port := match Transport.member server ["port"] with
      | some (.num literal) => some literal
      | _ => none
    secret := orEmpty ((Transport.text user ["id"]).or (Transport.text user ["password"]))
    flow := orEmpty (Transport.text user ["flow"])
    encryption := Transport.text user ["encryption"]
    transport := .ofJson stream }

end Connection

/-! ## What is shared, and what the desktop reads -/

/-- The profiles whose links are used on the desktop. -/
structure Exported (fmt : Format) (networkType : NetworkType) (p : ProfileItem) : Prop where
  configType : p.configType = fmt.configType
  password : ∃ password, p.password = some password ∧ password ≠ ""
  server : ∃ server, p.server = some server ∧ Uri.isPlainHost false server.toList = true
  port : ∃ port n, p.serverPort = some port ∧ port.toList.all Char.isDigit = true ∧
    toIntOrNull port = some n ∧ 1 ≤ n ∧ n ≤ 65535
  network : p.network = some networkType.type
  transport : networkType ∈ [NetworkType.tcp, .ws, .httpUpgrade, .xhttp, .grpc]
  security : p.security = some tls ∨ p.security = some reality

/-- The header of TCP is read alike: one host, and no path but the default. -/
def PlainHeader (p : ProfileItem) : Prop :=
  equalsIgnoreAsciiCase (noneIfEmpty p.headerType) "http" = true →
    p.headerType = some headerTypeHttp ∧
      splitTrimmed (orEmpty (nullIfBlank p.path)) ∈ [[], ["/"]] ∧
      ∃ host, nullIfBlank p.host = some host ∧ splitTrimmed host = [host]

/-- The profile uses nothing that the desktop does not read, and Android does not resolve its
server. -/
structure Understood (env : AppEnv) (fmt : Format) (networkType : NetworkType) (p : ProfileItem) :
    Prop where
  encryption : fmt = .vless → p.method = some "none"
  flow : fmt = .trojan → nullIfBlank p.flow = none
  mode : networkType = .grpc → p.mode ≠ some "multi"
  header : networkType = .tcp → PlainHeader p
  address : Utils.isPureIpAddress (orEmpty p.server) = true ∨
    env.decodeSettingsStringOr prefOutboundDomainResolveMethod
      defaultOutboundDomainResolveMethod ≠ "2"

/-- The transport of a profile that both sides read. -/
def transportOf (p : ProfileItem) (networkType : NetworkType) : Transport where
  network := networkType.type
  security := orEmpty p.security
  path := match networkType with
    | .tcp => if p.headerType = some headerTypeHttp then ["/"] else []
    | .ws | .httpUpgrade | .xhttp => [(nullIfBlank p.path).getD "/"]
    | _ => []
  host := match networkType with
    | .tcp => if p.headerType = some headerTypeHttp then (nullIfBlank p.host).toList
      else []
    | .ws | .httpUpgrade | .xhttp => (nullIfBlank p.host).toList
    | _ => []
  serviceName := match networkType with
    | .grpc => orEmpty (nullIfBlank p.serviceName)
    | _ => ""
  multiMode := false

/-! ## Android -/

variable (s : Option String) {key : String} {a : XrayConfig.StreamArgs}
  (vmess : String → Option Json)

variable {p : ProfileItem} {networkType : NetworkType} {fmt : Format}
  {order : List (String × String)}

section android
variable {env : AppEnv}

theorem ofBean_updateOutboundFragment (s : StreamSettingsBean) :
    Transport.ofBean (updateOutboundFragment env s) = Transport.ofBean s := by
  rw [updateOutboundFragment]
  split
  · rfl
  split
  · rfl
  split <;> rfl

theorem ofBean_populateTlsSettings (hsecurity : p.security = some security)
    (hblank : isBlank security = false) (s : StreamSettingsBean) (sni : Option String) :
    Transport.ofBean (populateTlsSettings env s p sni) =
      Transport.ofBean { s with security := some security } := by
  have hsome : nullIfBlank (some (orEmpty p.security)) = some security := by
    rw [hsecurity, nullIfBlank, orEmpty, getD_some, filter_some, hblank]
    rfl
  rw [populateTlsSettings, hsome]
  dsimp only
  split
  · rw [ofBean_updateOutboundFragment]
    split
    · rfl
    split <;> rfl
  · split
    · rfl
    split <;> rfl

/-- A host is written as it is, and none as an empty text. -/
theorem filter_orEmpty_nullIfBlank :
    [orEmpty (nullIfBlank s)].filter (· ≠ "") = (nullIfBlank s).toList := by
  cases hs : nullIfBlank s with
  | none => rfl
  | some t =>
    have hne := (ne_empty_of_nullIfBlank hs).1
    simp [orEmpty, hne]

section transport
variable (htransport : networkType ∈ [NetworkType.tcp, .ws, .httpUpgrade, .xhttp, .grpc])
  (hmode : networkType = .grpc → p.mode ≠ some "multi")
  (hheader : networkType = .tcp → PlainHeader p)
include htransport hmode hheader

theorem ofBean_transportSettings :
    Transport.ofBean { (transportSettings env { network := some networkType.type } (dropBlank p)
      (some networkType)).1 with security := p.security } = transportOf p networkType := by
  have hhost := filter_orEmpty_nullIfBlank p.host
  cases networkType with
  | tcp =>
    have htype : (dropBlank p).headerType = p.headerType := rfl
    rw [transportSettings, htype, transportOf]
    by_cases hhttp : p.headerType = some headerTypeHttp
    · obtain ⟨-, hpath, host, hhost, hsplit⟩ := hheader rfl (by rw [hhttp]; decide)
      have hrequest : createTcpHttpRequest (dropBlank p).host none =
          createTcpHttpRequest (dropBlank p).host (dropBlank p).path :=
        createTcpHttpRequest_congr hpath
      have hdrop : (dropBlank p).host = some host := hhost
      have hreqPath : (createTcpHttpRequest (some host) none).path = ["/"] := by
        have hnone : splitTrimmed (orEmpty none) = [] := by decide
        rfl
      have hreqHost : (createTcpHttpRequest (some host) none).headers.host = some [host] := by
        have horEmpty : orEmpty (some host) = host := rfl
        rw [createTcpHttpRequest, horEmpty, hsplit]
        rfl
      rw [if_pos hhttp, ← hrequest, hdrop]
      rw [if_pos hhttp, if_pos hhttp, hhost]
      generalize createTcpHttpRequest (some host) none = request at hreqPath hreqHost
      obtain ⟨path, ⟨hosts, _, _, _, _⟩, _, _⟩ := request
      subst hreqPath hreqHost
      rfl
    · rw [if_neg hhttp]
      rw [if_neg hhttp, if_neg hhttp]
      rfl
  | ws | httpUpgrade | xhttp =>
    rw [transportOf]
    rw [← hhost]
    rfl
  | grpc =>
    have hmulti : ((nullIfBlank p.mode == some "multi") == true) = false := by
      rw [beq_true, beq_eq_false_iff_ne]
      intro hmode'
      exact hmode rfl (filter_eq_some_iff.mp hmode').1
    rw [transportOf, ← hmulti]
    rfl
  | _ => simp at htransport

/-- Android builds the transport that both sides read. -/
theorem ofBean_populateStream (hsecurity : p.security = some security)
    (hblank : isBlank security = false) (hnetwork : p.network = some networkType.type) :
    Transport.ofBean (populateStream env {} (dropBlank p)) = transportOf p networkType := by
  have hsecurity' : (dropBlank p).security = some security := hsecurity
  have hnetwork' : (dropBlank p).network = some networkType.type := hnetwork
  have hmask (s : StreamSettingsBean) :
      Transport.ofBean { updateOutboundFinalMask env s (dropBlank p) with security := p.security } =
        Transport.ofBean { s with security := p.security } := by
    rw [updateOutboundFinalMask]
    split <;> rfl
  rw [populateStream, populateTransportSettings_eq hnetwork']
  rw [ofBean_populateTlsSettings hsecurity' hblank, ← hsecurity, hmask]
  exact ofBean_transportSettings htransport hmode hheader

end transport

theorem getServerAddress_plain {server : String} (hserver : p.server = some server)
    (hascii : ∀ c ∈ server.toList, c.toNat < 128)
    (haddress : isPureIpAddress (orEmpty p.server) = true ∨
      env.decodeSettingsStringOr prefOutboundDomainResolveMethod
        defaultOutboundDomainResolveMethod ≠ "2") :
    getServerAddress env p = .ok server := by
  rw [hserver, orEmpty] at haddress
  rw [getServerAddress, hserver, orEmpty, getD_some]
  by_cases hip : isPureIpAddress server = true
  · rw [if_pos hip]
    rfl
  · rw [if_neg hip, toIdnDomain_ascii env.platform.toASCII hascii]
    dsimp only [bind, Except.bind]
    rw [if_pos (haddress.resolve_left hip)]
    rfl

/-- The connection that Android makes of a profile. -/
def connectionOf (fmt : Format) (networkType : NetworkType) (p : ProfileItem) (server : String)
    (port : Int) : Connection where
  address := server
  port := some (toString port)
  secret := orEmpty p.password
  flow := orEmpty (nullIfBlank p.flow)
  encryption := match fmt with
    | .vless => some "none"
    | .trojan => none
  transport := transportOf p networkType

theorem ofBean_convert {fmt : Format} (h : Exported fmt networkType p)
    (hunderstood : Understood env fmt networkType p) {server port : String}
    (hserver : p.server = some server) (hhost : Uri.isPlainHost false server.toList = true)
    (hport : p.serverPort = some port) (hn : toIntOrNull port = some n)
    (ho : convert env (dropBlank p) = .ok (some o)) :
    Connection.ofBean o = some (connectionOf fmt networkType p server n) := by
  have hascii : ∀ c ∈ server.toList, c.toNat < 128 := fun c hc =>
    Uri.toNat_lt_of_isHostChar (Uri.isHostChar_of_mem hhost c hc)
  have hstrip : stripBrackets server = server :=
    strip_of_notMem (Uri.notMem_plainHost hhost (by decide))
      (Uri.notMem_plainHost hhost (by decide))
  have hdrop : (dropBlank p).server = some server := by
    have hmap : (dropBlank p).server = p.server.map stripBrackets := rfl
    rw [hmap, hserver, map_some, hstrip]
  have haddress : getServerAddress env (dropBlank p) = .ok server := by
    refine getServerAddress_plain hdrop hascii ?_
    rw [hdrop, ← hserver]
    exact hunderstood.address
  have hint : toInt (orEmpty (dropBlank p).serverPort) = .ok n := by
    have hsame : (dropBlank p).serverPort = some port := hport
    rw [hsame, toInt, orEmpty, getD_some, hn]
  have hstream :
      Transport.ofBean (populateStream env {} (dropBlank p)) = transportOf p networkType := by
    have hread := @ofBean_populateStream p _ env h.transport hunderstood.mode hunderstood.header
    rcases h.security with hsecurity | hsecurity
    · exact hread hsecurity (by decide) h.network
    · exact hread hsecurity (by decide) h.network
  have htype : (dropBlank p).configType = fmt.configType := h.configType
  rw [convert, toOutbound, htype] at ho
  cases fmt with
  | vless =>
    have hmethod : (dropBlank p).method = some "none" := hunderstood.encryption rfl
    rw [toOutboundVless, toOutboundStream, toOutboundServer, haddress, hint, hmethod] at ho
    obtain ⟨mux, rfl⟩ := updateOutboundWithGlobalSettings_eq_some (Except.ok.inj ho)
    rw [connectionOf, ← hstream]
    rfl
  | trojan =>
    rw [toOutboundTrojan, toOutboundStream, toOutboundServer, haddress, hint] at ho
    obtain ⟨mux, rfl⟩ := updateOutboundWithGlobalSettings_eq_some (Except.ok.inj ho)
    rw [connectionOf, ← hstream]
    rfl

end android

/-! ## Desktop -/

theorem encodeURIComponent_key (h : IsKey key) : encodeURIComponent key = key := by
  rw [← String.toList_inj, encodeURIComponent_toList]
  refine Percent.encode_of_safe fun c hc => ?_
  rw [URLEncoder.isSafe, h c hc]
  rfl

/-- The desktop reads the parameters as they were written. -/
theorem query_queryString (hne : order ≠ []) (hkeys : ∀ e ∈ order, IsKey e.1 ∧ e.1 ≠ "") :
    query (some (queryString order)) = order := by
  have hblank : isNullOrBlank (some (queryString order)) = false := by
    refine Bool.eq_false_iff.mpr fun hall => ?_
    have hspace := all_eq_true.mp hall '=' (equals_mem_queryString hne)
    revert hspace
    decide
  rw [query, hblank, if_neg Bool.false_ne_true, orEmpty, getD_some,
    split_queryString hne fun e he => (hkeys e he).1.isSafeKey, filterMap_map]
  clear hne hblank
  induction order with
  | nil => rfl
  | cons e order ih =>
    obtain ⟨hkey, hempty⟩ := hkeys e mem_cons_self
    have hnot : '=' ∉ e.1.toList := by
      intro hmem
      have := hkey '=' hmem
      revert this
      decide
    have hcut : splitFirst '=' (e.1 ++ "=" ++ encodeURIComponent e.2) =
        (e.1, some (encodeURIComponent e.2)) := splitFirst_append (by decide) hnot
    have hdecode : URLDecoder.decode e.1 = some e.1 := by
      have := Utils.URLDecoder_encodeURIComponent e.1
      rwa [encodeURIComponent_key hkey] at this
    rw [filterMap_cons, Function.comp_apply, hcut]
    dsimp only
    rw [if_neg hempty, hdecode, Utils.URLDecoder_encodeURIComponent,
      ih fun e' he' => hkeys e' (mem_cons_of_mem _ he')]
    rfl

/-- What `streamSettings` is given for a profile. -/
structure ArgsOf (p : ProfileItem) (networkType : NetworkType) (a : XrayConfig.StreamArgs) :
    Prop where
  net : a.net = networkType.type
  security : a.security = orEmpty p.security
  type : a.type = orEmpty ((transportFields p networkType).lookup "headerType").join
  host : a.host = orEmpty ((transportFields p networkType).lookup "host").join
  path : a.path = orEmpty ((transportFields p networkType).lookup "path").join
  serviceName :
    a.serviceName = orEmpty ((transportFields p networkType).lookup "serviceName").join

theorem ifBlank_nullIfBlank :
    ifBlank (orEmpty (nullIfBlank s)) "/" = (nullIfBlank s).getD "/" := by
  cases hs : nullIfBlank s with
  | none => rfl
  | some t =>
    have hblank := (ne_empty_of_nullIfBlank hs).2
    rw [ifBlank, orEmpty, getD_some, hblank]
    rfl

theorem unlessBlank_of_nullIfBlank {s : Option String} (hs : nullIfBlank s = some t) :
    unlessBlank t member = [member] := by
  rw [unlessBlank, (ne_empty_of_nullIfBlank hs).2]
  rfl

theorem securityMembers_eq (h : a.security = tls ∨ a.security = reality) :
    ∃ value, securityMembers a = [("tlsSettings", value)] ∨
      securityMembers a = [("realitySettings", value)] := by
  rcases h with h | h
  · exact ⟨_, .inl (by rw [securityMembers, h]; rfl)⟩
  · exact ⟨_, .inr (by rw [securityMembers, h]; rfl)⟩

/-- A member of the stream settings that belongs to the transport. -/
theorem member_streamSettings (h : a.security = tls ∨ a.security = reality)
    (hkey : key ∉ ["network", "security", "tlsSettings", "realitySettings"]) (keys : List String) :
    Transport.member (streamSettings a) (key :: keys) =
      Transport.member (.obj (transportMembers a)) (key :: keys) := by
  obtain ⟨value, hmembers⟩ := securityMembers_eq h
  have hget : JsonObject.get ([("network", str (networkName a.net)),
      ("security", str a.security)] ++ securityMembers a ++
      transportMembers a) key = JsonObject.get (transportMembers a) key := by
    rw [JsonObject.get, lookup_append, JsonObject.get, lookup_eq_none_of_notMem,
      none_or]
    rcases hmembers with hmembers | hmembers
    · rw [hmembers]
      simp only [mem_cons, not_or] at hkey
      simp [hkey]
    · rw [hmembers]
      simp only [mem_cons, not_or] at hkey
      simp [hkey]
  rw [streamSettings, Transport.member, Transport.member]
  dsimp only [Json.asObject]
  rw [bind_eq_bind, bind_some, bind_some, hget]

/-- The transport is read from the members of the transport alone. -/
theorem ofJson_streamSettings (h : a.security = tls ∨ a.security = reality) :
    Transport.ofJson (streamSettings a) =
      { Transport.ofJson (.obj (transportMembers a)) with
        network := networkName a.net, security := a.security } := by
  have hmember {key : String}
      (hkey : key ∉ ["network", "security", "tlsSettings", "realitySettings"])
      (keys : List String) := member_streamSettings h hkey keys
  have htcp := hmember (show "tcpSettings" ∉ _ by decide)
  have hws := hmember (show "wsSettings" ∉ _ by decide)
  have hupgrade := hmember (show "httpupgradeSettings" ∉ _ by decide)
  have hxhttp := hmember (show "xhttpSettings" ∉ _ by decide)
  have hgrpc := hmember (show "grpcSettings" ∉ _ by decide)
  simp only [Transport.ofJson, Transport.text, Transport.texts, htcp, hws, hupgrade, hxhttp, hgrpc]
  rfl

theorem ofJson_args (ha : ArgsOf p networkType a)
    (hsecurity : p.security = some tls ∨ p.security = some reality)
    (htransport : networkType ∈ [NetworkType.tcp, .ws, .httpUpgrade, .xhttp, .grpc])
    (hheader : networkType = .tcp → PlainHeader p) :
    Transport.ofJson (streamSettings a) = transportOf p networkType := by
  have hsec : a.security = tls ∨ a.security = reality := by
    rw [ha.security]
    rcases hsecurity with h | h <;> rw [h]
    · exact .inl rfl
    · exact .inr rfl
  have hnet := ha.net
  rw [ofJson_streamSettings hsec, ha.security, transportMembers, hnet]
  cases networkType with
  | tcp =>
    have htype : a.type = noneIfEmpty p.headerType := ha.type
    have hhost : a.host = orEmpty (nullIfBlank p.host) := ha.host
    have hpath : a.path = "" := ha.path
    rw [htype, transportOf]
    by_cases hhttp : equalsIgnoreAsciiCase (noneIfEmpty p.headerType) "http" = true
    · obtain ⟨hexact, -, host, hsome, -⟩ := hheader rfl hhttp
      have hblank := (ne_empty_of_nullIfBlank hsome).2
      have hifBlank (default : String) : ifBlank a.host default = host := by
        rw [hhost, hsome, orEmpty, getD_some, ifBlank, hblank]
        rfl
      rw [hhttp]
      rw [if_pos hexact, if_pos hexact, hsome, tcpHttpHeader, hifBlank, hpath]
      rfl
    · have hne : p.headerType ≠ some headerTypeHttp := by
        intro hexact
        rw [hexact] at hhttp
        exact hhttp (by decide)
      rw [Bool.not_eq_true _ |>.mp hhttp]
      rw [if_neg hne, if_neg hne]
      rfl
  | ws | httpUpgrade | xhttp =>
    have hhost : a.host = orEmpty (nullIfBlank p.host) := ha.host
    have hpath : a.path = orEmpty (nullIfBlank p.path) := ha.path
    rw [hhost, hpath, ifBlank_nullIfBlank, transportOf]
    cases hsome : nullIfBlank p.host with
    | none => rfl
    | some host =>
      have hfilter := filter_orEmpty_nullIfBlank p.host
      rw [hsome] at hfilter
      simp only [orEmpty, getD_some, unlessBlank_of_nullIfBlank hsome]
      exact congrArg (fun hosts => Transport.mk _ _ _ hosts _ _) hfilter
  | grpc =>
    have hservice : a.serviceName = orEmpty (nullIfBlank p.serviceName) := ha.serviceName
    rw [hservice]
    rfl
  | _ => simp at htransport

section read
variable (h : Exported fmt networkType p) (hperm : order.Perm (fmt.dicQuery p))
include h hperm

theorem param_type : XrayConfig.param order "type" = some networkType.type := by
  have hread : XrayConfig.param order "type" =
      some (linkType (NetworkType.fromString p.network)) := param_order hperm "type"
  rw [hread, h.network]
  have htransport := h.transport
  cases networkType with
  | h2 => simp at htransport
  | _ => rfl

omit h in
theorem param_security : XrayConfig.param order "security" = some (noneIfEmpty p.security) :=
  param_order hperm "security"

theorem param_field (hbase : key ∉ baseKeys) (hformat : key ≠ "encryption") :
    XrayConfig.param order key = ((transportFields p networkType).lookup key).join := by
  have hread : XrayConfig.param order key =
      ((transportFields p (NetworkType.fromString p.network)).lookup key).join := by
    refine param_transport hperm hbase ?_
    cases fmt with
    | vless => exact fun hmem => hformat (mem_singleton.mp hmem)
    | trojan => exact not_mem_nil
  rw [hread, h.network, fromString_type]

omit hperm in
theorem noneIfEmpty_security : noneIfEmpty p.security = orEmpty p.security := by
  rcases h.security with hsecurity | hsecurity <;> rw [hsecurity] <;> decide

end read

/-- `String.lowercase` leaves lower-case ASCII text as it is. -/
def KeepsLower (lowercase : String → String) : Prop :=
  ∀ s, (∀ c ∈ s.toList, c.isLower = true) → lowercase s = s

theorem lowercase_type (hlower : KeepsLower lowercase) (networkType : NetworkType)
    (hne : networkType ≠ .h2) :
    lowercase networkType.type = networkType.type := by
  refine hlower _ (all_eq_true.mp ?_)
  cases networkType with
  | h2 => exact absurd rfl hne
  | _ => decide

/-- The desktop finds the pieces of the link as they were written. -/
theorem readUri_linkText_some {password server port remarks : String} {m : Nat}
    (hhost : Uri.isPlainHost false server.toList = true)
    (hdigits : port.toList.all Char.isDigit = true) (hm : digitsToNat port.toList = some m)
    (hbound : m ≤ 2147483647) (hkeys : ∀ e ∈ order, IsKey e.1) :
    XrayConfig.readUri (fmt.protocolScheme ++ linkText password server port remarks (some order)) =
      some (uriOf fmt.toLinkFormat.scheme password server remarks m (some order)) := by
  have hchars : ∀ c ∈ server.toList, Uri.isAddressChar c = true := fun c hc =>
    Uri.isAddressChar_of_isHostChar (Uri.isHostChar_of_mem hhost c hc)
  have hsafe : ∀ order', some order = some order' → ∀ e ∈ order', IsSafeKey e.1 := by
    rintro _ ⟨⟩ e he
    exact (hkeys e he).isSafeKey
  have hspace :
      ' ' ∉ (fmt.protocolScheme ++ linkText password server port remarks (some order)).toList := by
    rw [String.toList_append, mem_append]
    intro hmem
    have hlink : isLinkChar ' ' = true :=
      hmem.elim (fmt.toLinkFormat.isLinkChar_protocolScheme ' ')
        (isLinkChar_linkText hchars hdigits hsafe ' ')
    revert hlink
    decide
  have hauthority : Uri.parseAuthority false (authority password server port) =
      some (some ⟨some (encodeURIComponent password).toList, server.toList, m⟩) :=
    Uri.parseAuthority_plain (isUserInfoText_encodeURIComponent password) hdigits hm hbound hhost
  rw [XrayConfig.readUri, replaceChar_of_notMem hspace, Format.protocolScheme,
    parse_linkText fmt.toLinkFormat.protocolScheme_toList fmt.toLinkFormat.isScheme_scheme hchars
      hdigits hsafe, hauthority]
  rfl

section build
variable {lowercase : String → String} (hlower : KeepsLower lowercase)
  (h : Exported fmt networkType p) (hperm : order.Perm (fmt.dicQuery p)) {uri : Uri}
  (hquery : uri.rawQuery = some (queryString order))

include hperm in
theorem query_rawQuery (hquery : uri.rawQuery = some (queryString order)) :
    query uri.rawQuery = order := by
  rw [hquery]
  exact query_queryString (order_ne_nil hperm) fun e he =>
    ⟨isKey_order hperm e he, key_order_ne_empty hperm e he⟩

include hlower h hperm in
/-- The arguments of both readers. -/
theorem argsOf_params
    (hnet : a.net = lowercase (((XrayConfig.param order "type").or network).getD "tcp"))
    (hsecurity : a.security = lowercase ((XrayConfig.param order "security").getD
      (orEmpty security))) (htype : a.type = orEmpty (XrayConfig.param order "headerType"))
    (hhost : a.host = orEmpty (XrayConfig.param order "host"))
    (hpath : a.path = orEmpty (XrayConfig.param order "path"))
    (hservice : a.serviceName = orEmpty (XrayConfig.param order "serviceName")) :
    ArgsOf p networkType a where
  net := by
    have hne : networkType ≠ .h2 := by
      rintro rfl
      have htransport := h.transport
      simp at htransport
    rw [hnet, param_type h hperm, some_or, getD_some, lowercase_type hlower _ hne]
  security := by
    rw [hsecurity, param_security hperm, getD_some, noneIfEmpty_security h]
    refine hlower _ (all_eq_true.mp ?_)
    rcases h.security with hsec | hsec <;> rw [hsec] <;> decide
  type := by rw [htype, param_field h hperm (by decide) (by decide)]
  host := by rw [hhost, param_field h hperm (by decide) (by decide)]
  path := by rw [hpath, param_field h hperm (by decide) (by decide)]
  serviceName := by rw [hservice, param_field h hperm (by decide) (by decide)]

variable {link password server : String} {n : Int} (huri : XrayConfig.readUri link = some uri)
  (huser : URLDecoder.decode (Text.orEmpty uri.rawUserInfo) = some password)
  (hpassword : p.password = some password) (hhost : uri.host = some server) (hport : uri.port = n)
  (hpos : 0 < n) (hheader : networkType = .tcp → PlainHeader p)
include hlower h hperm hquery huri huser hpassword hhost hport hpos hheader

theorem ofJson_vless (hfmt : fmt = .vless) : ∃ j, XrayConfig.vless lowercase link = some j ∧
    Connection.ofJson j = some (connectionOf fmt networkType p server n) := by
  have hq := query_rawQuery hperm hquery
  have hflow : XrayConfig.param order "flow" = nullIfBlank p.flow := param_order hperm "flow"
  have hportOf : portOf uri = n := by
    rw [portOf, hport, if_pos hpos]
  rw [XrayConfig.vless, huri]
  simp only [bind_eq_bind, bind_some, hq, huser, hhost, hportOf, hflow]
  refine ⟨_, rfl, ?_⟩
  change some ({ transport := Transport.ofJson (XrayConfig.streamSettings _), .. } : Connection) = _
  rw [ofJson_args ?_ h.security h.transport hheader, hfmt, connectionOf, hpassword]
  · rfl
  · exact @argsOf_params _ p networkType fmt order lowercase hlower h hperm
      (XrayConfig.param order "network") (some (if n = 443 then "tls" else "none"))
      rfl rfl rfl rfl rfl rfl

/-- Trojan outbounds of the desktop have no flow. -/
theorem ofJson_trojan (hfmt : fmt = .trojan) (hflow : nullIfBlank p.flow = none) :
    ∃ j, XrayConfig.trojan lowercase link = some j ∧
      Connection.ofJson j = some (connectionOf fmt networkType p server n) := by
  have hq := query_rawQuery hperm hquery
  have hportOf : portOf uri = n := by
    rw [portOf, hport, if_pos hpos]
  rw [XrayConfig.trojan, huri]
  simp only [bind_eq_bind, bind_some, hq, huser, hhost, hportOf]
  refine ⟨_, rfl, ?_⟩
  change some ({ transport := Transport.ofJson (XrayConfig.streamSettings _), .. } : Connection) = _
  rw [ofJson_args ?_ h.security h.transport hheader, hfmt, connectionOf, hpassword, hflow]
  · rfl
  · refine @argsOf_params _ p networkType fmt order lowercase hlower h hperm none (some "tls")
      ?_ rfl rfl rfl rfl rfl
    rw [or_none]

end build

/-! ## Both -/

theorem buildOutbound_vless (lowercase : String → String) (link : String) :
    buildOutbound vmess lowercase (Format.vless.protocolScheme ++ link) =
      vless lowercase (Format.vless.protocolScheme ++ link) := by
  have hvmess : startsWith (Format.vless.protocolScheme ++ link) "vmess://" = false :=
    startsWith_append_eq_false (by decide) link
  have hvless : startsWith (Format.vless.protocolScheme ++ link) "vless://" = true :=
    startsWith_iff.mpr ⟨link, rfl⟩
  rw [buildOutbound, hvmess, if_neg Bool.false_ne_true, if_pos hvless]

theorem buildOutbound_trojan (lowercase : String → String) (link : String) :
    buildOutbound vmess lowercase (Format.trojan.protocolScheme ++ link) =
      trojan lowercase (Format.trojan.protocolScheme ++ link) := by
  have hvmess : startsWith (Format.trojan.protocolScheme ++ link) "vmess://" = false :=
    startsWith_append_eq_false (by decide) link
  have hvless : startsWith (Format.trojan.protocolScheme ++ link) "vless://" = false :=
    startsWith_append_eq_false (by decide) link
  have htrojan : startsWith (Format.trojan.protocolScheme ++ link) "trojan://" = true :=
    startsWith_iff.mpr ⟨link, rfl⟩
  rw [buildOutbound, hvmess, if_neg Bool.false_ne_true, hvless,
    if_neg Bool.false_ne_true, if_pos htrojan]

section both
variable (h : Exported fmt networkType p) (hperm : order.Perm (fmt.dicQuery p))

include h hperm

/-- What the desktop makes of the link. -/
theorem exists_desktop_connection (vmess : String → Option Json) {lowercase : String → String}
    (hlower : KeepsLower lowercase) (toASCII : String → Except String String)
    (hflow : fmt = .trojan → nullIfBlank p.flow = none)
    (hheader : networkType = .tcp → PlainHeader p) :
    ∃ server port n link j, p.server = some server ∧ Uri.isPlainHost false server.toList = true ∧
      p.serverPort = some port ∧ toIntOrNull port = some n ∧
      fmt.toUri toASCII p order = .ok link ∧
      buildOutbound vmess lowercase (fmt.protocolScheme ++ link) = some j ∧
      Connection.ofJson j = some (connectionOf fmt networkType p server n) := by
  obtain ⟨password, hpassword, -⟩ := h.password
  obtain ⟨server, hserver, hhost⟩ := h.server
  obtain ⟨port, n, hport, hdigits, hint, hmin, -⟩ := h.port
  obtain ⟨m, hm, rfl, hbound⟩ := digitsToNat_of_toIntOrNull hdigits hint
  have hlink : fmt.toUri toASCII p order =
      .ok (linkText password server port p.remarks (some order)) := by
    have hidn : HttpUtil.toIdnDomain toASCII (orEmpty p.server) = .ok server := by
      rw [hserver]
      exact toIdnDomain_plainHost hhost toASCII
    rw [Format.toUri, LinkFormat.toUri_eq, Format.userInfo_toLinkFormat, Format.query_toLinkFormat,
      toUri_eq_ok hidn, hpassword, hport, getIpv6Address_plainHost hhost]
    rfl
  have huri := @readUri_linkText_some fmt order password server port p.remarks m hhost hdigits hm
    hbound (isKey_order hperm)
  have hquery : some (String.ofList (queryString order).toList) = some (queryString order) :=
    congrArg some String.ofList_toList
  have huser : URLDecoder.decode (String.ofList (encodeURIComponent password).toList) =
      some password := by
    rw [String.ofList_toList, Utils.URLDecoder_encodeURIComponent]
  have hhostText : some (String.ofList server.toList) = some server :=
    congrArg some String.ofList_toList
  have hpos : 0 < (m : Int) := by omega
  obtain ⟨j, hj, hconnection⟩ : ∃ j,
      buildOutbound vmess lowercase
          (fmt.protocolScheme ++ linkText password server port p.remarks (some order)) = some j ∧
        Connection.ofJson j = some (connectionOf fmt networkType p server m) := by
    cases fmt with
    | vless =>
      rw [buildOutbound_vless]
      exact ofJson_vless hlower h hperm hquery huri huser hpassword hhostText rfl hpos hheader rfl
    | trojan =>
      rw [buildOutbound_trojan]
      exact ofJson_trojan hlower h hperm hquery huri huser hpassword hhostText rfl hpos hheader rfl
        (hflow rfl)
  exact ⟨server, port, m, _, j, hserver, hhost, hport, hint, hlink, hj, hconnection⟩

end both

/-- The outbound that the desktop builds from the link of a VLESS or Trojan profile makes the
connection of the outbound that Android builds of the profile without its texts of white space, if
the desktop reads all that the profile uses. -/
theorem desktop_connection {env : AppEnv} {fmt : Format} {networkType : NetworkType}
    {p : ProfileItem} {order : List (String × String)} (vmess : String → Option Json)
    {lowercase : String → String} (hlower : KeepsLower lowercase) (h : Exported fmt networkType p)
    (hunderstood : Understood env fmt networkType p) (hperm : order.Perm (fmt.dicQuery p)) :
    ∃ link j connection, fmt.toUri env.platform.toASCII p order = .ok link ∧
      XrayConfig.buildOutbound vmess lowercase (fmt.protocolScheme ++ link) = some j ∧
      Connection.ofJson j = some connection ∧
      ∀ o, convert env (dropBlank p) = .ok (some o) → Connection.ofBean o = some connection := by
  obtain ⟨server, port, n, link, j, hserver, hhost, hport, hint, hlink, hj, hconnection⟩ :=
    exists_desktop_connection h hperm vmess hlower env.platform.toASCII hunderstood.flow
      hunderstood.header
  exact ⟨link, j, _, hlink, hj, hconnection, fun o ho =>
    ofBean_convert h hunderstood hserver hhost hport hint ho⟩

/-! ## An empty path -/

theorem wsServer_exported (path : Option String) :
    Exported .vless .ws { wsServer none with path } where
  configType := rfl
  password := ⟨"u", rfl, by decide⟩
  server := ⟨"example.com", rfl, by decide⟩
  port := ⟨"443", 443, rfl, by decide, by decide, by decide, by decide⟩
  network := rfl
  transport := by decide
  security := .inl rfl

theorem wsServer_understood (path : Option String) :
    Understood (plainEnv [] []) .vless .ws { wsServer none with path } where
  encryption := fun _ => rfl
  flow := nofun
  mode := nofun
  header := nofun
  address := .inr (by decide)

theorem wsServer_desktop : ∃ link j connection,
    Format.vless.toUri plainPlatform.toASCII (wsServer none)
        (Format.vless.dicQuery (wsServer none)) = .ok link ∧
      buildOutbound (fun _ => none) id ("vless://" ++ link) = some j ∧
      Connection.ofJson j = some connection ∧
      ∀ o, convert (plainEnv [] []) (dropBlank (wsServer none)) = .ok (some o) →
        Connection.ofBean o = some connection :=
  @desktop_connection (plainEnv [] []) .vless .ws (wsServer none) _ (fun _ => none) id
    (fun _ _ => rfl) (wsServer_exported (some "/p")) (wsServer_understood (some "/p")) .rfl

/-- Android keeps an empty path, for which the desktop has the default. -/
theorem empty_path_differs : ∃ link j connection o connection',
    Format.vless.toUri plainPlatform.toASCII { wsServer none with path := some "" }
        (Format.vless.dicQuery { wsServer none with path := some "" }) = .ok link ∧
      XrayConfig.buildOutbound (fun _ => none) id ("vless://" ++ link) = some j ∧
      Connection.ofJson j = some connection ∧
      convert (plainEnv [] []) { wsServer none with path := some "" } = .ok (some o) ∧
      Connection.ofBean o = some connection' ∧
      connection.transport.path = ["/"] ∧ connection'.transport.path = [""] := by
  obtain ⟨server, port, n, link, j, -, -, -, -, hlink, hj, hconnection⟩ :=
    exists_desktop_connection (wsServer_exported (some "")) (List.Perm.refl _) (fun _ => none)
      (fun _ _ => rfl : KeepsLower id) plainPlatform.toASCII nofun nofun
  obtain ⟨o, ho, connection', hconnection', hpath⟩ : ∃ o,
      convert (plainEnv [] []) { wsServer none with path := some "" } = .ok (some o) ∧
      ∃ connection, Connection.ofBean o = some connection ∧ connection.transport.path = [""] :=
    ⟨_, rfl, _, rfl, rfl⟩
  exact ⟨link, j, _, o, connection', hlink, hj, hconnection, ho, hconnection', rfl, hpath⟩

end ZeroVpn.Link
