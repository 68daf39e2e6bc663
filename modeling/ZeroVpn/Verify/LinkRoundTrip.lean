import ZeroVpn.Fmt.Relinked
import ZeroVpn.Verify.DefaultOutbound

/-!
# The way of a profile through its link

A VLESS or Trojan profile is written to a link and read back. The link drops texts of white space
and the brackets of an address by design; up to that the profile read back converts to the same
outbound (`convert_of_link`), if it has nothing that the link leaves out (`Carried`): the paths of an
HTTP header, the domain of a KCP header, the fields of a Hysteria transport and the insecure flag of
REALITY.
-/

namespace ZeroVpn.Link

open FmtBase CoreOutboundBuilder Text Utils AppConfig

/-! ## Reading the link -/

/-- The profiles that are shared as links. -/
structure Shareable (fmt : Format) (networkType : NetworkType) (p : ProfileItem) : Prop where
  configType : p.configType = fmt.configType
  method : p.configType = .vless → p.method.isSome = true
  password : ∃ password, p.password = some password ∧ password ≠ ""
  server : ∃ server, p.server = some server ∧ Uri.IsHost server
  port : ∃ port n, p.serverPort = some port ∧ port.toList.all Char.isDigit = true ∧
    toIntOrNull port = some n ∧ 1 ≤ n ∧ n ≤ 65535
  network : p.network = some networkType.type
  security : p.security = none ∨ p.security = some tls ∨
    p.security = some reality
  kcpMtu : InRange p.kcpMtu
  kcpTti : InRange p.kcpTti

theorem fromString_type (networkType : NetworkType) :
    NetworkType.fromString (some networkType.type) = networkType := by
  cases networkType <;> decide

theorem equals_mem_queryString (hne : order ≠ []) :
    '=' ∈ (queryString order).toList := by
  have heq : "=".toList = ['='] := by decide
  cases order with
  | nil => exact absurd rfl hne
  | cons e order =>
    rw [queryString, String.toList_intercalate, List.map_cons]
    cases order with
    | nil => simp [heq]
    | cons e' order => simp [heq]

theorem queryString_ne_empty (hne : order ≠ []) :
    queryString order ≠ "" := by
  intro hempty
  have hmem := equals_mem_queryString hne
  rw [hempty] at hmem
  cases hmem

variable {networkType : NetworkType} {p : ProfileItem} {env : AppEnv} {p' : ProfileItem}

section read
variable {fmt : Format} {order : List (String × String)} (h : Shareable fmt networkType p)
  (hperm : order.Perm (fmt.dicQuery p))
include h hperm

/-- The link of a profile is written, and the profile read from it has what the link carries. -/
theorem parse_toUri (toASCII : String → Except String String)
    (hknown : ∀ server, p.server = some server → KnownHost server) :
    ∃ link p', fmt.toUri toASCII p order = .ok link ∧
      fmt.parse (fmt.protocolScheme ++ link) = .ok (some p') ∧ Relinked p networkType p' ∧
      p'.server = p.server.map stripBrackets ∧
      toInt (orEmpty p'.serverPort) = toInt (orEmpty p.serverPort) := by
  obtain ⟨password, hpassword, -⟩ := h.password
  obtain ⟨server, hserver, hhost⟩ := h.server
  obtain ⟨port, n, hport, hdigits, hint, hmin, hmax⟩ := h.port
  have hkeys : ∀ e ∈ order, IsSafeKey e.1 := fun e he => (isKey_order hperm e he).isSafeKey
  have hidn : HttpUtil.toIdnDomain toASCII (orEmpty p.server) = .ok server := by
    rw [hserver]
    exact toIdnDomain_ascii toASCII fun c hc =>
      Uri.toNat_lt_of_isAddressChar (hhost.isAddressChar c hc)
  obtain ⟨link, uri, hlink, huri, hpieces⟩ :=
    @LinkFormat.readUri_toUri toASCII p order fmt.toLinkFormat server n hidn
      (acceptsHost_hostOf hhost (hknown server hserver)) ⟨port, hport, hdigits, hint⟩ hkeys
  rw [Format.userInfo_toLinkFormat, Format.query_toLinkFormat] at hpieces
  have huser : uri.userInfo = p.password := by
    rw [hpieces.userInfo, hpassword]
    rfl
  have hne := order_ne_nil hperm
  refine ⟨link, _, hlink, Format.parse_eq_ok huri hpieces.rawQuery (queryString_ne_empty hne)
    (getQueryParam_queryString hne hkeys) fmt, ?_, ?_, ?_⟩
  · have hrelinked := relinked_profile hperm h.configType h.security h.kcpMtu h.kcpTti huser
    rw [h.network, fromString_type] at hrelinked
    exact hrelinked
  · have hread : (fmt.profile uri order).server = some uri.idnHost := by
      cases fmt <;> rfl
    rw [hread, hpieces.idnHost, stripBrackets_hostOf, hserver]
    rfl
  · have hread : (fmt.profile uri order).serverPort = some (toString uri.port) := by
      cases fmt <;> rfl
    have htext : toIntOrNull (toString n) = some n := toIntOrNull_toString ⟨by omega, by omega⟩
    rw [hread, hpieces.port, hport, toInt, toInt, orEmpty, orEmpty, Option.getD_some,
      Option.getD_some, htext, hint]

end read

/-! ## Converting the profile -/

/-- The profile without what a link drops by design: texts of white space, and the brackets of its
server. -/
def dropBlank (p : ProfileItem) : ProfileItem :=
  { p with
    server := p.server.map stripBrackets
    flow := nullIfBlank p.flow
    host := nullIfBlank p.host
    path := nullIfBlank p.path
    seed := nullIfBlank p.seed
    mode := nullIfBlank p.mode
    serviceName := nullIfBlank p.serviceName
    authority := nullIfBlank p.authority
    xhttpMode := nullIfBlank p.xhttpMode
    xhttpExtra := nullIfBlank p.xhttpExtra
    finalMask := nullIfBlank p.finalMask
    sni := nullIfBlank p.sni
    alpn := nullIfBlank p.alpn
    fingerPrint := nullIfBlank p.fingerPrint
    cipherSuites := nullIfBlank p.cipherSuites
    echConfigList := nullIfBlank p.echConfigList
    verifyPeerCertByName := nullIfBlank p.verifyPeerCertByName
    pinnedCA256 := nullIfBlank p.pinnedCA256
    publicKey := nullIfBlank p.publicKey
    shortId := nullIfBlank p.shortId
    spiderX := nullIfBlank p.spiderX
    mldsa65Verify := nullIfBlank p.mldsa65Verify }

section carried
variable (env : AppEnv) (p : ProfileItem)

/-- The profile has a mask of its own, which replaces the one of the transport. -/
def HasMask : Prop := ((nullIfBlank p.finalMask).bind env.platform.parseString).isSome = true

/-- The transport has no settings that the link leaves out. -/
def TransportCarried : NetworkType → Prop
  | .tcp => p.headerType = some headerTypeHttp →
      splitTrimmed (orEmpty (nullIfBlank p.path)) ∈ [[], ["/"]]
  | .kcp => HasMask env p ∨ p.headerType ≠ some "dns" ∨ nullIfBlank p.host = none
  | .hysteria => HasMask env p ∨ nullIfBlank p.bandwidthUp = none ∧
      nullIfBlank p.bandwidthDown = none ∧ isNullOrBlank p.portHopping = true ∧
      isNullOrBlank p.obfsPassword = true
  | _ => True

/-- The profile has nothing that the link leaves out. -/
structure Carried (networkType : NetworkType) : Prop where
  server : ∀ server, p.server = some server → KnownHost server
  transport : TransportCarried env p networkType
  insecure : p.security = some reality → p.insecure = some true →
    (nullIfBlank p.pinnedCA256).isSome = true

end carried

theorem updateOutboundFinalMask_of_hasMask (hmask : HasMask env p)
    (hfinal : p'.finalMask = nullIfBlank p.finalMask)
    (h : { s with finalmask := none } = { s' with finalmask := none }) :
    updateOutboundFinalMask env s p' = updateOutboundFinalMask env s' (dropBlank p) := by
  obtain ⟨mask, hmask⟩ := Option.isSome_iff_exists.mp hmask
  rw [updateOutboundFinalMask, updateOutboundFinalMask, hfinal, dropBlank, hmask]
  exact congrArg (fun s : StreamSettingsBean => { s with finalmask := some (.json mask) }) h

theorem updateOutboundFinalMask_congr (hfinal : p'.finalMask = nullIfBlank p.finalMask)
    (h : s = s') :
    updateOutboundFinalMask env s p' = updateOutboundFinalMask env s' (dropBlank p) := by
  rw [h, updateOutboundFinalMask, hfinal]
  rfl

theorem noneIfEmpty_some (h : t ≠ "") : noneIfEmpty (some t) = t := if_neg h

/-- A header other than `dns` has no domain. -/
theorem kcpMasks_congr (h : headerType ≠ some "dns" ∨ host = none) :
    kcpMasks (some (noneIfEmpty headerType)) none seed = kcpMasks headerType host seed := by
  cases headerType with
  | none => rfl
  | some t =>
    by_cases hempty : t = ""
    · rw [hempty]
      rfl
    · rw [noneIfEmpty_some hempty]
      rcases h with hdns | hhost
      · have hne : (t = "dns") = False := eq_false fun heq => hdns (congrArg some heq)
        simp only [kcpMasks, hne, decide_false, Bool.false_and, Bool.false_eq_true, if_false]
      · rw [hhost]

theorem headerType_http_iff :
    some (noneIfEmpty headerType) = some headerTypeHttp ↔
      headerType = some headerTypeHttp := by
  cases headerType with
  | none => exact iff_of_false (by decide) nofun
  | some t =>
    by_cases hempty : t = ""
    · rw [hempty]
      exact iff_of_false (by decide) (by decide)
    · rw [noneIfEmpty_some hempty]

/-- The paths that the link leaves out are the default. -/
theorem createTcpHttpRequest_congr (h : splitTrimmed (orEmpty path) ∈ [[], ["/"]]) :
    createTcpHttpRequest host none = createTcpHttpRequest host path := by
  have hnone : splitTrimmed (orEmpty none) = [] := by decide
  rw [createTcpHttpRequest, createTcpHttpRequest, hnone]
  rw [List.mem_cons, List.mem_singleton] at h
  rcases h with h | h
  · rw [h]
  · rw [h]
    rfl

/-- Nothing is left of the masks of a Hysteria transport. -/
theorem hysteriaFinalMask_eq {q : ProfileItem} (hup : nullIfBlank q.bandwidthUp = none)
    (hdown : nullIfBlank q.bandwidthDown = none)
    (hports : isNullOrBlank q.portHopping = true)
    (hobfs : isNullOrBlank q.obfsPassword = true) :
    hysteriaFinalMask q = { quicParams := some {}, udp := none } := by
  rw [hysteriaFinalMask, hup, hdown, if_pos hports, if_pos hobfs]
  rfl

/-- The settings of the transport and the server name it suggests. -/
theorem transportSettings_relinked (h : Relinked p networkType p')
    (hcarried : TransportCarried env p networkType) (s : StreamSettingsBean) :
    updateOutboundFinalMask env (transportSettings env s p' (some networkType)).1 p' =
        updateOutboundFinalMask env (transportSettings env s (dropBlank p) (some networkType)).1
          (dropBlank p) ∧
      (transportSettings env s p' (some networkType)).2 =
        (transportSettings env s (dropBlank p) (some networkType)).2 := by
  have hsame {x y : StreamSettingsBean × Option String} (heq : x = y) :
      updateOutboundFinalMask env x.1 p' = updateOutboundFinalMask env y.1 (dropBlank p) ∧
        x.2 = y.2 :=
    ⟨updateOutboundFinalMask_congr h.finalMask (congrArg Prod.fst heq), congrArg Prod.snd heq⟩
  cases networkType with
  | tcp =>
    have hheader : p'.headerType = some (noneIfEmpty p.headerType) := h.headerType
    have hhost : p'.host = nullIfBlank p.host := h.host
    have hpath : p'.path = none := h.path
    refine hsame ?_
    rw [transportSettings, transportSettings, hheader, hhost, hpath, dropBlank]
    by_cases hhttp : p.headerType = some headerTypeHttp
    · rw [if_pos (headerType_http_iff.mpr hhttp), if_pos hhttp,
        createTcpHttpRequest_congr (hcarried hhttp)]
    · rw [if_neg (mt headerType_http_iff.mp hhttp), if_neg hhttp]
  | kcp =>
    have hheader : p'.headerType = some (noneIfEmpty p.headerType) := h.headerType
    have hhost : p'.host = none := h.host
    have hseed : p'.seed = nullIfBlank p.seed := h.seed
    rcases hcarried with hmask | hcarried
    · refine ⟨updateOutboundFinalMask_of_hasMask hmask h.finalMask ?_, rfl⟩
      rw [transportSettings, h.kcpMtu, h.kcpTti]
      rfl
    · refine hsame ?_
      rw [transportSettings, transportSettings, hheader, hhost, hseed, h.kcpMtu, h.kcpTti,
        kcpMasks_congr hcarried]
      rfl
  | ws | httpUpgrade | http | h2 =>
    have hhost : p'.host = nullIfBlank p.host := h.host
    have hpath : p'.path = nullIfBlank p.path := h.path
    refine hsame ?_
    rw [transportSettings, hhost, hpath]
    rfl
  | xhttp =>
    have hhost : p'.host = nullIfBlank p.host := h.host
    have hpath : p'.path = nullIfBlank p.path := h.path
    have hmode : p'.xhttpMode = nullIfBlank p.xhttpMode := h.xhttpMode
    have hextra : p'.xhttpExtra = nullIfBlank p.xhttpExtra := h.xhttpExtra
    refine hsame ?_
    rw [transportSettings, hhost, hpath, hmode, hextra]
    rfl
  | grpc =>
    have hmode : p'.mode = nullIfBlank p.mode := h.mode
    have hauthority : p'.authority = nullIfBlank p.authority := h.authority
    have hservice : p'.serviceName = nullIfBlank p.serviceName := h.serviceName
    refine hsame ?_
    rw [transportSettings, hmode, hauthority, hservice]
    rfl
  | hysteria =>
    rcases hcarried with hmask | ⟨hup, hdown, hports, hobfs⟩
    · refine ⟨updateOutboundFinalMask_of_hasMask hmask h.finalMask ?_, rfl⟩
      rw [transportSettings, h.password]
      rfl
    · refine hsame ?_
      have hmask : hysteriaFinalMask p' = { quicParams := some {}, udp := none } := by
        refine hysteriaFinalMask_eq ?_ ?_ ?_ ?_
        · rw [h.bandwidthUp]
          rfl
        · rw [h.bandwidthDown]
          rfl
        · rw [h.portHopping]
          rfl
        · rw [h.obfsPassword]
          rfl
      have hmask' : hysteriaFinalMask (dropBlank p) = { quicParams := some {}, udp := none } :=
        hysteriaFinalMask_eq hup hdown hports hobfs
      rw [transportSettings, transportSettings, hmask, hmask', h.password]
      rfl

section convert

theorem find?_type (networkType : NetworkType) :
    NetworkType.find? networkType.type = some networkType := by
  cases networkType <;> decide

theorem populateTransportSettings_eq (hnetwork : p.network = some networkType.type)
    (s : StreamSettingsBean) :
    populateTransportSettings env s p =
      (updateOutboundFinalMask env (transportSettings env
          { s with network := some networkType.type } p (some networkType)).1 p,
        (transportSettings env { s with network := some networkType.type } p
          (some networkType)).2) := by
  have htext : ifEmpty (orEmpty p.network) NetworkType.tcp.type = networkType.type := by
    rw [hnetwork]
    cases networkType <;> decide
  rw [populateTransportSettings, htext, find?_type]

theorem populateTransportSettings_relinked (h : Relinked p networkType p')
    (hnetwork : p.network = some networkType.type) (hcarried : TransportCarried env p networkType)
    (s : StreamSettingsBean) :
    populateTransportSettings env s p' = populateTransportSettings env s (dropBlank p) := by
  have hnetwork' : (dropBlank p).network = some networkType.type := hnetwork
  have hlink := h.network
  rw [populateTransportSettings_eq hnetwork']
  by_cases hh2 : networkType = .h2
  · rw [hh2] at h hcarried hlink ⊢
    have hhttp : p'.network = some NetworkType.http.type := hlink
    obtain ⟨hstream, hsni⟩ :=
      transportSettings_relinked h hcarried { s with network := some NetworkType.h2.type }
    rw [populateTransportSettings_eq hhttp, ← hstream, ← hsni]
    rfl
  · have htype : linkType networkType = networkType.type := by
      cases networkType with
      | h2 => exact absurd rfl hh2
      | _ => rfl
    rw [htype] at hlink
    obtain ⟨hstream, hsni⟩ :=
      transportSettings_relinked h hcarried { s with network := some networkType.type }
    rw [populateTransportSettings_eq hlink, hstream, hsni]

variable (hserver : p'.server = p.server.map stripBrackets)
include hserver

theorem serverName_relinked (h : Relinked p networkType p') (sni : Option String) :
    serverName env p' sni = serverName env (dropBlank p) sni := by
  rw [serverName, h.sni, hserver]
  rfl

theorem tlsSettings_relinked (h : Relinked p networkType p')
    (hinsecure : p'.insecure = some true ∧ nullIfBlank p.pinnedCA256 = none ↔
      p.insecure = some true ∧ nullIfBlank p.pinnedCA256 = none) (sni : Option String) :
    tlsSettings env p' sni = tlsSettings env (dropBlank p) sni := by
  have hallow : (p'.insecure == some true && isNullOrEmpty (nullIfBlank p.pinnedCA256)) =
      (p.insecure == some true && isNullOrEmpty (nullIfBlank p.pinnedCA256)) := by
    have hnone : isNullOrEmpty (nullIfBlank p.pinnedCA256) = true ↔
        nullIfBlank p.pinnedCA256 = none := isNullOrEmpty_nullIfBlank
    rw [Bool.eq_iff_iff, Bool.and_eq_true, Bool.and_eq_true, beq_iff_eq, beq_iff_eq, hnone]
    exact hinsecure
  rw [tlsSettings, tlsSettings, h.pinnedCA256, hallow, serverName_relinked hserver h, h.fingerPrint,
    h.alpn, h.cipherSuites, h.echConfigList, h.verifyPeerCertByName, h.publicKey, h.shortId,
    h.spiderX, h.mldsa65Verify]
  rfl

theorem populateTlsSettings_relinked (h : Relinked p networkType p')
    (hsecurity : p.security = none ∨ p.security = some tls ∨
      p.security = some reality)
    (hinsecure : p.security = some reality → p.insecure = some true →
      (nullIfBlank p.pinnedCA256).isSome = true)
    (s : StreamSettingsBean) (sni : Option String) :
    populateTlsSettings env s p' sni = populateTlsSettings env s (dropBlank p) sni := by
  have hdrop : (dropBlank p).security = p.security := rfl
  have hmask : (dropBlank p).finalMask = nullIfBlank p.finalMask := rfl
  rw [populateTlsSettings, populateTlsSettings, h.security, hdrop]
  rcases hsecurity with hnone | htls | hreality
  · rw [hnone]
    rfl
  · have hflag : p'.insecure = some (p.insecure == some true) := by
      rw [h.insecure, htls]
      rfl
    rw [tlsSettings_relinked hserver h ?_, h.finalMask, hmask]
    rw [hflag, Option.some.injEq, beq_iff_eq]
  · have hflag : p'.insecure = some false := by
      rw [h.insecure, hreality]
      rfl
    rw [tlsSettings_relinked hserver h ?_, h.finalMask, hmask]
    refine iff_of_false (fun hp' => ?_) fun hp => ?_
    · rw [hflag] at hp'
      cases hp'.1
    · have hpinned := hinsecure hreality hp.1
      rw [hp.2] at hpinned
      cases hpinned

theorem convert_relinked (hshare : Shareable fmt networkType p)
    (hcarried : Carried env p networkType) (h : Relinked p networkType p')
    (hport : toInt (orEmpty p'.serverPort) = toInt (orEmpty p.serverPort)) :
    convert env p' = convert env (dropBlank p) := by
  have hstream (s : StreamSettingsBean) :
      populateStream env s p' = populateStream env s (dropBlank p) := by
    rw [populateStream, populateStream,
      populateTransportSettings_relinked h hshare.network hcarried.transport]
    exact populateTlsSettings_relinked hserver h hshare.security hcarried.insecure _ _
  have haddress : getServerAddress env p' = getServerAddress env (dropBlank p) := by
    rw [getServerAddress, hserver]
    rfl
  have hbean (configType : EConfigType) (fill : OutSettingsBean → OutSettingsBean) :
      toOutboundStream env configType p' fill =
        toOutboundStream env configType (dropBlank p) fill := by
    have hport' : toInt (orEmpty p'.serverPort) =
        toInt (orEmpty (dropBlank p).serverPort) := hport
    rw [toOutboundStream, toOutboundStream, toOutboundServer, toOutboundServer, haddress, hport',
      funext hstream]
  have htype : p'.configType = fmt.configType := h.configType.trans hshare.configType
  have htype' : (dropBlank p).configType = fmt.configType := hshare.configType
  have hout : toOutbound env p' = toOutbound env (dropBlank p) := by
    rw [toOutbound, toOutbound, htype, htype']
    cases fmt with
    | vless =>
      obtain ⟨method, hmethod⟩ := Option.isSome_iff_exists.mp (hshare.method hshare.configType)
      have hsame : p'.method = (dropBlank p).method := by
        rw [h.method hshare.configType, hmethod]
        exact hmethod.symm
      rw [toOutboundVless, hbean, h.password, hsame, h.flow]
      rfl
    | trojan =>
      rw [toOutboundTrojan, hbean, h.password, h.flow]
      rfl
  rw [convert, convert, hout]

end convert

/-- A VLESS or Trojan profile is read back from its link, and converts to the outbound of the
profile without its texts of white space, if it has nothing that the link leaves out. -/
theorem convert_of_link {env : AppEnv} {fmt : Format} {networkType : NetworkType} {p : ProfileItem}
    {order : List (String × String)} (h : Shareable fmt networkType p)
    (hcarried : Carried env p networkType) (hperm : order.Perm (fmt.dicQuery p)) :
    ∃ link p', fmt.toUri env.platform.toASCII p order = .ok link ∧
      fmt.parse (fmt.protocolScheme ++ link) = .ok (some p') ∧
      convert env p' = convert env (dropBlank p) := by
  obtain ⟨link, p', hlink, hparse, hrelinked, hserver, hport⟩ :=
    parse_toUri h hperm env.platform.toASCII hcarried.server
  exact ⟨link, p', hlink, hparse, convert_relinked hserver h hcarried hrelinked hport⟩

/-! ## An empty flow -/

/-- A server over WebSocket. -/
def wsServer (flow : Option String) : ProfileItem :=
  { vlessServer with
    password := some "u"
    method := some "none"
    flow
    network := some "ws"
    path := some "/p"
    security := some "tls" }

theorem wsServer_shareable (flow : Option String) : Shareable .vless .ws (wsServer flow) where
  configType := rfl
  method := fun _ => rfl
  password := ⟨"u", rfl, by decide⟩
  server := ⟨"example.com", rfl, .plain (by decide)⟩
  port := ⟨"443", 443, rfl, by decide, by decide, by decide, by decide⟩
  network := rfl
  security := .inr (.inl rfl)
  kcpMtu := nofun
  kcpTti := nofun

theorem wsServer_carried (env : AppEnv) (flow : Option String) :
    Carried env (wsServer flow) .ws where
  server := by
    intro server hserver
    cases hserver
    decide
  transport := trivial
  insecure := nofun

theorem wsServer_of_link : ∃ link p',
    Format.vless.toUri plainPlatform.toASCII (wsServer none)
        (Format.vless.dicQuery (wsServer none)) = .ok link ∧
      Format.vless.parse ("vless://" ++ link) = .ok (some p') ∧
      convert (plainEnv [] []) p' = convert (plainEnv [] []) (dropBlank (wsServer none)) :=
  @convert_of_link (plainEnv [] []) _ _ _ _ (wsServer_shareable none) (wsServer_carried _ none) .rfl

/-- The editor stores an empty flow, which the profile read back does not have. -/
theorem empty_flow_dropped : ∃ link p' o o',
    Format.vless.toUri plainPlatform.toASCII (wsServer (some ""))
        (Format.vless.dicQuery (wsServer (some ""))) = .ok link ∧
      Format.vless.parse ("vless://" ++ link) = .ok (some p') ∧
      convert (plainEnv [] []) (wsServer (some "")) = .ok (some o) ∧
      convert (plainEnv [] []) p' = .ok (some o') ∧
      o.settings.bind (·.flow) = some "" ∧ o'.settings.bind (·.flow) = none := by
  have h := wsServer_shareable (some "")
  have hcarried := wsServer_carried (plainEnv [] []) (some "")
  obtain ⟨link, p', hlink, hparse, hrelinked, hserver, hport⟩ :=
    parse_toUri h (List.Perm.refl _) plainPlatform.toASCII hcarried.server
  obtain ⟨o, ho, hflow⟩ : ∃ o, convert (plainEnv [] []) (wsServer (some "")) = .ok (some o) ∧
      o.settings.bind (·.flow) = some "" := ⟨_, rfl, rfl⟩
  obtain ⟨o', ho', hflow'⟩ : ∃ o, convert (plainEnv [] []) (dropBlank (wsServer (some ""))) =
      .ok (some o) ∧ o.settings.bind (·.flow) = none := ⟨_, rfl, rfl⟩
  have hsame := convert_relinked hserver h hcarried hrelinked hport
  exact ⟨link, p', o, o', hlink, hparse, ho, hsame.trans ho', hflow, hflow'⟩

end ZeroVpn.Link
