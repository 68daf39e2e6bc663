import ZeroVpn.Fmt.VmessFmt
import ZeroVpn.Verify.UdpLinks

/-!
# VMess links

The record of a VMess link has no place for several settings: the mode of XHTTP, the numbers of KCP,
the settings of Hysteria, a final mask, ECH and the keys of REALITY. A host or a path also replaces
what KCP and gRPC keep in its place. A profile without these converts to the same outbound after its
link was read (`convert_of_vmess_link`), up to an empty path in the place of a slash.
-/

namespace ZeroVpn

/-! ## An empty path is a slash -/

def slashPath (path : Option String) : Option String :=
  path.map fun path => Text.ifEmpty path "/"

def StreamSettingsBean.slash (s : StreamSettingsBean) : StreamSettingsBean :=
  { s with
    wsSettings := s.wsSettings.map fun b => { b with path := slashPath b.path }
    httpupgradeSettings := s.httpupgradeSettings.map fun b => { b with path := slashPath b.path }
    xhttpSettings := s.xhttpSettings.map fun b => { b with path := slashPath b.path }
    httpSettings := s.httpSettings.map fun b => { b with path := slashPath b.path } }

/-- An outbound with a slash for an empty path. -/
def OutboundBean.slash (o : OutboundBean) : OutboundBean :=
  { o with streamSettings := o.streamSettings.map (·.slash) }

namespace VmessLink

open CoreOutboundBuilder Link VmessFmt AppConfig Text

variable {env : AppEnv} {p : ProfileItem} {networkType : NetworkType} {q : ProfileItem}

/-- The global settings do not depend on paths. -/
theorem slash_updateOutbound (o : OutboundBean) :
    (updateOutboundWithGlobalSettings env o).map (·.slash) =
      updateOutboundWithGlobalSettings env o.slash := by
  have hnetwork : o.slash.streamSettings.bind (·.network) = o.streamSettings.bind (·.network) := by
    rw [OutboundBean.slash]
    cases o.streamSettings <;> rfl
  have hmux : muxEnabled env o.slash = muxEnabled env o := by
    rw [muxEnabled, muxEnabled, hnetwork]
    rfl
  rw [updateOutboundWithGlobalSettings, updateOutboundWithGlobalSettings, hmux]
  cases muxEnabled env o with
  | false => rfl
  | true =>
    dsimp only [if_true]
    cases toIntOrNull (env.decodeSettingsStringOr prefMuxConcurrency "8") with
    | none => rfl
    | some concurrency =>
      cases toIntOrNull (env.decodeSettingsStringOr
          prefMuxXudpConcurrency defaultMuxXudpConcurrency) <;> rfl

theorem slash_updateOutboundFragment (s : StreamSettingsBean) :
    (updateOutboundFragment env s).slash = updateOutboundFragment env s.slash := by
  have hsecurity : s.slash.security = s.security := rfl
  have hsockopt : s.slash.sockopt = s.sockopt := rfl
  have hmask : s.slash.finalmask = s.finalmask := rfl
  rw [updateOutboundFragment, updateOutboundFragment, hsecurity, hsockopt, hmask]
  split
  · rfl
  · split
    · rfl
    · split <;> rfl

/-- Nor do the TLS settings. -/
theorem slash_populateTlsSettings (s : StreamSettingsBean) (p : ProfileItem)
    (sni : Option String) :
    (populateTlsSettings env s p sni).slash = populateTlsSettings env s.slash p sni := by
  have hfragment (s : StreamSettingsBean) :
      (if isNullOrEmpty p.finalMask then updateOutboundFragment env s else s).slash =
        if isNullOrEmpty p.finalMask then updateOutboundFragment env s.slash else s.slash := by
    split
    · exact slash_updateOutboundFragment s
    · rfl
  rw [populateTlsSettings, populateTlsSettings]
  cases nullIfBlank (some (orEmpty p.security)) with
  | none => rfl
  | some security =>
    dsimp only
    rw [hfragment]
    by_cases htls : security = tls
    · rw [if_pos htls, if_pos htls]
      rfl
    · rw [if_neg htls, if_neg htls]
      by_cases hreality : security = reality
      · rw [if_pos hreality, if_pos hreality]
        rfl
      · rw [if_neg hreality, if_neg hreality]
        rfl

/-! ## Reading the link -/

/-- A VMess profile that can be shared. -/
structure Shareable (p : ProfileItem) (networkType : NetworkType) : Prop where
  configType : p.configType = .vmess
  server : ∃ server, p.server = some server ∧ server ≠ ""
  port : ∃ port, p.serverPort = some port ∧ port ≠ ""
  password : ∃ password, p.password = some password ∧ password ≠ ""
  method : ∃ method, p.method = some method ∧ method ≠ ""
  network : p.network = some networkType.type

/-- What the reader makes of the link of a VMess profile. -/
structure ReadVmess (p : ProfileItem) (networkType : NetworkType) (q : ProfileItem) : Prop where
  configType : q.configType = .vmess
  server : q.server = p.server
  serverPort : q.serverPort = p.serverPort
  password : q.password = p.password
  method : q.method = p.method
  network : q.network = some networkType.type
  headerType : networkType ≠ .grpc → q.headerType = some (orEmpty p.headerType)
  host : q.host = some ((nullIfBlank p.host).getD (VmessFmt.hostText p networkType))
  path : q.path = some ((nullIfBlank p.path).getD (VmessFmt.pathText p networkType))
  seed : networkType = .kcp → q.seed = q.path
  mode : networkType = .grpc → q.mode = some (orEmpty p.mode)
  serviceName : networkType = .grpc → q.serviceName = q.path
  authority : networkType = .grpc → q.authority = q.host
  kcpMtu : q.kcpMtu = none
  kcpTti : q.kcpTti = none
  xhttpMode : q.xhttpMode = none
  xhttpExtra : q.xhttpExtra = none
  bandwidthUp : q.bandwidthUp = none
  bandwidthDown : q.bandwidthDown = none
  portHopping : q.portHopping = none
  obfsPassword : q.obfsPassword = none
  finalMask : q.finalMask = none
  security : q.security = some (orEmpty p.security)
  insecure : q.insecure = some (p.insecure == some true)
  sni : q.sni = some (orEmpty p.sni)
  fingerPrint : q.fingerPrint = some (orEmpty p.fingerPrint)
  alpn : q.alpn = some (orEmpty p.alpn)
  cipherSuites : q.cipherSuites = nullIfBlank p.cipherSuites
  verifyPeerCertByName : q.verifyPeerCertByName = some (orEmpty p.verifyPeerCertByName)
  pinnedCA256 : q.pinnedCA256 = some (orEmpty p.pinnedCA256)
  echConfigList : q.echConfigList = none
  publicKey : q.publicKey = none
  shortId : q.shortId = none
  spiderX : q.spiderX = none
  mldsa65Verify : q.mldsa65Verify = none

/-- Gson reads back a record without nulls that it has written. -/
def ReadsWritten (fromJson : String → Except String (Option VmessQRCode)) : Prop :=
  ∀ code : VmessQRCode, (∀ e ∈ code.fields, e.2.isSome = true) →
    fromJson code.toJson = .ok (some code)

theorem isSome_toQRCode : ∀ e ∈ (toQRCode p).fields, e.2.isSome = true := by
  rw [toQRCode, VmessQRCode.fields]
  simp only [List.forall_mem_cons, Option.isSome_some, List.not_mem_nil, true_and, false_imp_iff,
    implies_true]

theorem toJson_ne_empty (code : VmessQRCode) : code.toJson ≠ "" := by
  intro hempty
  have hlist := congrArg String.toList hempty
  rw [VmessQRCode.toJson, JsonText.printObject, String.toList_ofList] at hlist
  cases hlist

theorem hasAfterStart_eq_false {str : String} (h : c ∉ str.toList) :
    hasAfterStart c str = false := by
  rw [hasAfterStart, List.idxOf?_eq_none_iff.mpr h]
  rfl

/-- The text of a link is taken for a record, and the record is read. -/
theorem parse_eq_readQRCode (h : ReadsWritten fromJson) (p : ProfileItem) :
    parse fromJson (vmess ++ toUri p) =
      readQRCode (toQRCode p) := by
  have hnot {c : Char} (hscheme : c ∉ vmess.toList) (hpad : c ≠ '=')
      (hchar : ∀ n : Fin 64, Base64.char false n ≠ c) :
      c ∉ (vmess ++ toUri p).toList := by
    rw [String.toList_append, List.mem_append, not_or]
    exact ⟨hscheme, Utils.notMem_encode hpad hchar _ false⟩
  have hquery : hasAfterStart '?' (vmess ++ toUri p) = false :=
    hasAfterStart_eq_false (hnot (by decide) (by decide) (by decide +kernel))
  have htext : removeAll vmess (vmess ++ toUri p) =
      toUri p :=
    removeAll_append_self (by decide : ':' ∈ vmess.toList)
      (Utils.notMem_encode (by decide) (by decide +kernel) _ false)
  have hdecode : Utils.decode (some (toUri p)) = (toQRCode p).toJson :=
    Utils.decode_encode (toJson_ne_empty _) false
  rw [parse, hquery, Bool.false_and, if_neg Bool.false_ne_true, htext, hdecode]
  dsimp only
  rw [if_neg (toJson_ne_empty _), h _ isSome_toQRCode]
  rfl

/-- KCP and gRPC take their settings from the places of others. -/
theorem readTransport_eq (config : ProfileItem) (code : VmessQRCode) (networkType : NetworkType) :
    readTransport config code networkType =
      { config with
        seed := if networkType = .kcp then code.path else config.seed
        mode := if networkType = .grpc then code.type else config.mode
        serviceName := if networkType = .grpc then code.path else config.serviceName
        authority := if networkType = .grpc then code.host else config.authority } := by
  cases networkType <;> rfl

theorem readQRCode_toQRCode (h : Shareable p networkType) :
    ∃ q, readQRCode (toQRCode p) = .ok (some q) ∧ ReadVmess p networkType q := by
  obtain ⟨server, hserver, hserverNe⟩ := h.server
  obtain ⟨port, hport, hportNe⟩ := h.port
  obtain ⟨password, hpassword, hpasswordNe⟩ := h.password
  obtain ⟨method, hmethod, hmethodNe⟩ := h.method
  have htype : NetworkType.fromString p.network = networkType := by
    rw [h.network, fromString_type]
  have hnet : NetworkType.fromString (toQRCode p).net = networkType := by
    rw [toQRCode, h.network]
    exact fromString_type networkType
  have hfilled {s : String} (hne : s ≠ "") : isNullOrEmpty (some (orEmpty (some s))) =
      false := by
    simpa [isNullOrEmpty, orEmpty] using hne
  have hnetwork : networkType.type ≠ "" := by
    cases networkType <;> decide
  have hall : ¬(isNullOrEmpty (toQRCode p).add ||
      isNullOrEmpty (toQRCode p).port ||
      isNullOrEmpty (toQRCode p).id ||
      isNullOrEmpty (toQRCode p).net) = true := by
    rw [toQRCode, hserver, hport, hpassword, h.network]
    simp only [hfilled hserverNe, hfilled hportNe, hfilled hpasswordNe, hfilled hnetwork,
      Bool.or_self, Bool.false_eq_true, not_false_eq_true]
  rw [readQRCode, if_neg hall]
  refine ⟨_, rfl, ?_⟩
  rw [hnet, readTransport_eq]
  constructor
  case configType => rfl
  case server =>
    dsimp only [toQRCode]
    rw [hserver]
    rfl
  case serverPort =>
    dsimp only [toQRCode]
    rw [hport]
    rfl
  case password =>
    dsimp only [toQRCode]
    rw [hpassword]
    rfl
  case method =>
    have hscy : (toQRCode p).scy = some method := by
      rw [toQRCode, hmethod]
      rfl
    have hnot : ¬isNullOrEmpty (toQRCode p).scy = true := by
      rw [hscy]
      exact Bool.eq_false_iff.mp (hfilled hmethodNe)
    exact (if_neg hnot).trans (hscy.trans hmethod.symm)
  case network =>
    dsimp only [toQRCode]
    rw [h.network]
    rfl
  case headerType =>
    intro hgrpc
    dsimp only [toQRCode]
    rw [htype]
    cases networkType with
    | grpc => exact absurd rfl hgrpc
    | _ => rfl
  case host =>
    dsimp only [toQRCode]
    rw [htype]
  case path =>
    dsimp only [toQRCode]
    rw [htype]
  case seed => exact fun hkcp => if_pos hkcp
  case mode =>
    intro hgrpc
    dsimp only [toQRCode]
    rw [if_pos hgrpc, htype, hgrpc]
    rfl
  case serviceName => exact fun hgrpc => if_pos hgrpc
  case authority => exact fun hgrpc => if_pos hgrpc
  case cipherSuites => exact nullIfBlank_orEmpty
  case insecure =>
    dsimp only [toQRCode]
    cases p.insecure with
    | none => decide
    | some b => cases b <;> decide
  -- the other fields are copied, or not written at all
  all_goals rfl

/-! ## What the record has a place for -/

/-- The transport has no settings that the record leaves out or replaces. -/
def TransportCarried (env : AppEnv) (p : ProfileItem) : NetworkType → Prop
  | .tcp => True
  | .kcp => p.kcpMtu.getD 1350 = 1350 ∧ p.kcpTti.getD 50 = 50 ∧
      (nullIfBlank p.path).getD (orEmpty p.seed) = orEmpty p.seed ∧
      (p.headerType = some "dns" → orEmpty (nullIfBlank p.host) = orEmpty p.host)
  | .ws | .httpUpgrade => orEmpty (nullIfBlank p.host) = orEmpty p.host ∧
      orEmpty (nullIfBlank p.path) = orEmpty p.path
  | .xhttp => orEmpty (nullIfBlank p.host) = orEmpty p.host ∧
      orEmpty (nullIfBlank p.path) = orEmpty p.path ∧ p.xhttpMode = none ∧
      p.xhttpExtra.bind env.platform.parseString = none
  | .http | .h2 => orEmpty (nullIfBlank p.path) = orEmpty p.path
  | .grpc =>
      (nullIfBlank p.host).getD (orEmpty p.authority) = orEmpty p.authority ∧
      (nullIfBlank p.path).getD (orEmpty p.serviceName) = orEmpty p.serviceName
  | .hysteria => nullIfBlank p.bandwidthUp = none ∧ nullIfBlank p.bandwidthDown = none ∧
      isNullOrBlank p.portHopping = true ∧ isNullOrBlank p.obfsPassword = true

/-- The profile has nothing that the record leaves out or replaces. -/
structure Carried (env : AppEnv) (p : ProfileItem) (networkType : NetworkType) : Prop where
  transport : TransportCarried env p networkType
  finalMask : isNullOrEmpty p.finalMask = true
  noMask : p.finalMask.bind env.platform.parseString = none
  tls : p.security = some tls ∨ p.security = some reality →
    ∀ text ∈ [p.echConfigList, p.publicKey, p.shortId, p.spiderX, p.mldsa65Verify],
      nullIfBlank text = none

/-- A path that the record keeps is the same up to the slash. -/
theorem slashPath_congr {path path' : Option String} (h : orEmpty path = orEmpty path') :
    slashPath (some (path.getD "/")) = slashPath (some (path'.getD "/")) := by
  have hslash (path : Option String) :
      slashPath (some (path.getD "/")) = some (ifEmpty (orEmpty path) "/") := by
    cases path <;> rfl
  rw [hslash, hslash, h]

theorem splitTrimmed_of_isBlank (h : isBlank s = true) : splitTrimmed s = [] := by
  have hcomma : ',' ∉ s.toList := by
    intro hmem
    have hws := List.all_eq_true.mp h ',' hmem
    revert hws
    decide
  rw [splitTrimmed, split_of_notMem hcomma, List.map_singleton, trim_eq_empty_iff.mpr h]
  rfl

theorem splitTrimmed_nullIfBlank (s : Option String) :
    splitTrimmed (orEmpty (nullIfBlank s)) = splitTrimmed (orEmpty s) := by
  cases hblank : isNullOrBlank s with
  | false => rw [nullIfBlank_of_not_isNullOrBlank hblank]
  | true =>
    rw [nullIfBlank_of_isNullOrBlank hblank]
    cases s with
    | none => rfl
    | some s =>
      have hempty : splitTrimmed (orEmpty none) = [] := by decide
      rw [hempty]
      exact (splitTrimmed_of_isBlank hblank).symm

/-- A null text and an empty one are the same, and only a `dns` header has a domain. -/
theorem kcpMasks_read (hhost : headerType = some "dns" → orEmpty host' = orEmpty host) :
    kcpMasks (some (orEmpty headerType)) host' (some (orEmpty seed)) =
      kcpMasks headerType host seed := by
  have hseed : (if isNullOrEmpty (some (orEmpty seed)) then { type := "mkcp-legacy" }
      else { type := "mkcp-legacy", settings := some { value := some (orEmpty seed) } } :
        MaskBean) =
      if isNullOrEmpty seed then { type := "mkcp-legacy" }
      else { type := "mkcp-legacy", settings := some { value := seed } } := by
    cases seed <;> rfl
  unfold kcpMasks
  rw [hseed]
  cases headerType with
  | none => rfl
  | some t =>
    have hdomain : (if t = "dns" && !isNullOrEmpty host' then host' else none) =
        if t = "dns" && !isNullOrEmpty host then host else none := by
      by_cases hdns : t = "dns"
      · have hsame := hhost (congrArg some hdns)
        have hfilled (host : Option String) : (if !isNullOrEmpty host then host else none) =
            if orEmpty host = "" then none else some (orEmpty host) := by
          cases host with
          | none => rfl
          | some t => by_cases ht : t = "" <;> simp [isNullOrEmpty, orEmpty, ht]
        simp only [hdns, decide_true, Bool.true_and, hfilled, hsame]
      · simp only [hdns, decide_false, Bool.false_and, Bool.false_eq_true, if_false]
    dsimp only [orEmpty, Option.getD_some]
    rw [hdomain]

/-- The settings of the transport up to the slash, and the server name it suggests up to blanks. -/
theorem transportSettings_read (hq : ReadVmess p networkType q)
    (hcarried : TransportCarried env p networkType) (s : StreamSettingsBean) :
    (transportSettings env s q (some networkType)).1.slash =
        (transportSettings env s p (some networkType)).1.slash ∧
      nullIfBlank (transportSettings env s q (some networkType)).2 =
        nullIfBlank (transportSettings env s p (some networkType)).2 := by
  -- the transports that read the host and the path under these names
  have hblank (hhost : q.host = some (orEmpty (nullIfBlank p.host))) :
      nullIfBlank q.host = nullIfBlank p.host := by
    rw [hhost]
    exact nullIfBlank_orEmpty_nullIfBlank
  have hname (hhost : q.host = some (orEmpty (nullIfBlank p.host)))
      (hsame : orEmpty (nullIfBlank p.host) = orEmpty p.host) :
      orEmpty q.host = orEmpty p.host := by
    rw [hhost]
    exact hsame
  have hslash (hpath : q.path = some (orEmpty (nullIfBlank p.path)))
      (hkept : orEmpty (nullIfBlank p.path) = orEmpty p.path) :
      slashPath (some (q.path.getD "/")) = slashPath (some (p.path.getD "/")) := by
    rw [hpath]
    exact slashPath_congr hkept
  cases networkType with
  | tcp =>
    have hrequest : createTcpHttpRequest q.host q.path = createTcpHttpRequest p.host p.path := by
      rw [createTcpHttpRequest, createTcpHttpRequest, hq.host, hq.path]
      change createTcpHttpRequest (nullIfBlank p.host) (nullIfBlank p.path) = _
      rw [createTcpHttpRequest, splitTrimmed_nullIfBlank, splitTrimmed_nullIfBlank]
    have hhttp : q.headerType = some headerTypeHttp ↔
        p.headerType = some headerTypeHttp := by
      rw [hq.headerType (by decide)]
      cases p.headerType with
      | none => exact iff_of_false (by decide) (by decide)
      | some t => rfl
    rw [transportSettings, transportSettings, hrequest]
    by_cases h : p.headerType = some headerTypeHttp
    · rw [if_pos (hhttp.mpr h), if_pos h]
      exact ⟨rfl, rfl⟩
    · rw [if_neg (mt hhttp.mp h), if_neg h]
      exact ⟨rfl, hblank hq.host⟩
  | kcp =>
    obtain ⟨hmtu, htti, hseedPath, hdns⟩ := hcarried
    have hseed : q.seed = some (orEmpty p.seed) := by
      rw [hq.seed rfl, hq.path]
      exact congrArg some hseedPath
    have hmasks : kcpMasks q.headerType q.host q.seed = kcpMasks p.headerType p.host p.seed := by
      rw [hq.headerType (by decide), hq.host, hseed]
      exact kcpMasks_read hdns
    rw [transportSettings, transportSettings, hmasks, hq.kcpMtu, hq.kcpTti, hmtu, htti]
    exact ⟨rfl, rfl⟩
  | ws | httpUpgrade =>
    rw [transportSettings, transportSettings, hname hq.host hcarried.1]
    dsimp only [StreamSettingsBean.slash, Option.map_some]
    rw [hslash hq.path hcarried.2]
    exact ⟨rfl, hblank hq.host⟩
  | xhttp =>
    obtain ⟨hsame, hkept, hmode, hextra⟩ := hcarried
    rw [transportSettings, transportSettings, hname hq.host hsame, hq.xhttpMode, hq.xhttpExtra,
      hmode, hextra]
    dsimp only [StreamSettingsBean.slash, Option.map_some]
    rw [hslash hq.path hkept]
    exact ⟨rfl, hblank hq.host⟩
  | http | h2 =>
    have hhosts : splitTrimmed (orEmpty q.host) = splitTrimmed (orEmpty p.host) := by
      rw [hq.host]
      exact splitTrimmed_nullIfBlank p.host
    rw [transportSettings, transportSettings, hhosts]
    dsimp only [StreamSettingsBean.slash, Option.map_some]
    rw [hslash hq.path hcarried]
    exact ⟨rfl, rfl⟩
  | grpc =>
    have hauthority : q.authority = some (orEmpty p.authority) := by
      rw [hq.authority rfl, hq.host]
      exact congrArg some hcarried.1
    have hservice : q.serviceName = some (orEmpty p.serviceName) := by
      rw [hq.serviceName rfl, hq.path]
      exact congrArg some hcarried.2
    have hmulti : (q.mode == some "multi") = (p.mode == some "multi") := by
      rw [hq.mode rfl]
      cases p.mode with
      | none => decide
      | some m => rfl
    rw [transportSettings, transportSettings, hmulti, hauthority, hservice]
    exact ⟨rfl, nullIfBlank_orEmpty⟩
  | hysteria =>
    obtain ⟨hup, hdown, hports, hobfs⟩ := hcarried
    have hmask : hysteriaFinalMask q = { quicParams := some {}, udp := none } := by
      refine hysteriaFinalMask_eq ?_ ?_ ?_ ?_
      · rw [hq.bandwidthUp]
        rfl
      · rw [hq.bandwidthDown]
        rfl
      · rw [hq.portHopping]
        rfl
      · rw [hq.obfsPassword]
        rfl
    rw [transportSettings, transportSettings, hmask, hysteriaFinalMask_eq hup hdown hports hobfs,
      hq.password]
    exact ⟨rfl, rfl⟩

section convert
variable (hq : ReadVmess p networkType q) (hcarried : Carried env p networkType)

theorem isNullOrBlank_congr (h : nullIfBlank s = nullIfBlank t) :
    isNullOrBlank s = isNullOrBlank t := by
  rw [← isNullOrBlank_nullIfBlank, h, isNullOrBlank_nullIfBlank]

include hq

/-- A suggested name of white space is not used. -/
theorem serverName_read (hsni : nullIfBlank sni' = nullIfBlank sni) :
    nullIfBlank (serverName env q sni') = nullIfBlank (serverName env p sni) := by
  have hempty : isNullOrEmpty q.sni = isNullOrEmpty p.sni := by
    rw [hq.sni, isNullOrEmpty_orEmpty]
  rw [serverName, serverName, hempty, hq.server, isNullOrBlank_congr hsni]
  cases isNullOrEmpty p.sni with
  | false =>
    change nullIfBlank q.sni = nullIfBlank p.sni
    rw [hq.sni, nullIfBlank_orEmpty]
  | true =>
    simp only [Bool.not_true, Bool.false_eq_true, if_false]
    cases hblank : isNullOrBlank sni with
    | true =>
      simp only [Bool.not_true, Bool.false_and, Bool.false_eq_true, if_false]
      split
      · rfl
      · exact hsni
    | false =>
      have hsame : sni' = sni := by
        rw [← nullIfBlank_of_not_isNullOrBlank hblank, ← hsni,
          nullIfBlank_of_not_isNullOrBlank ((isNullOrBlank_congr hsni).trans hblank)]
      rw [hsame]

include hcarried

theorem tlsSettings_read (hsecurity : p.security = some tls ∨ p.security = some reality)
    (hsni : nullIfBlank sni' = nullIfBlank sni) :
    tlsSettings env q sni' = tlsSettings env p sni := by
  have hnone := hcarried.tls hsecurity
  simp only [List.forall_mem_cons] at hnone
  obtain ⟨hech, hpbk, hsid, hspx, hpqv, -⟩ := hnone
  have halpn : (q.alpn.map splitTrimmed).filter (· ≠ []) =
      (p.alpn.map splitTrimmed).filter (· ≠ []) := by
    rw [hq.alpn]
    cases p.alpn with
    | none => decide
    | some a => rfl
  have hallow : (q.insecure == some true) = (p.insecure == some true) := by
    rw [hq.insecure]
    cases p.insecure with
    | none => rfl
    | some b => cases b <;> rfl
  rw [tlsSettings, tlsSettings, serverName_read hq hsni, halpn, hallow]
  simp only [hq.fingerPrint, hq.cipherSuites, hq.echConfigList, hq.verifyPeerCertByName,
    hq.pinnedCA256, hq.publicKey, hq.shortId, hq.spiderX, hq.mldsa65Verify, hech, hpbk, hsid, hspx,
    hpqv, nullIfBlank_orEmpty, nullIfBlank_nullIfBlank, isNullOrEmpty_orEmpty]
  rfl

theorem populateTlsSettings_read (s : StreamSettingsBean)
    (hsni : nullIfBlank sni' = nullIfBlank sni) :
    populateTlsSettings env s q sni' = populateTlsSettings env s p sni := by
  have hmask : isNullOrEmpty q.finalMask = true := by
    rw [hq.finalMask]
    rfl
  have hsecurity : orEmpty q.security = orEmpty p.security := by
    rw [hq.security]
    rfl
  rw [populateTlsSettings, populateTlsSettings, hsecurity, hmask, hcarried.finalMask]
  cases hname : nullIfBlank (some (orEmpty p.security)) with
  | none => rfl
  | some security =>
    have hsome : p.security = some security := by
      rw [nullIfBlank_orEmpty] at hname
      exact (Option.filter_eq_some_iff.mp hname).1
    dsimp only
    by_cases htls : security = tls
    · rw [tlsSettings_read hq hcarried (.inl (hsome.trans (congrArg some htls))) hsni]
    · by_cases hreality : security = reality
      · rw [tlsSettings_read hq hcarried (.inr (hsome.trans (congrArg some hreality))) hsni]
      · simp only [if_neg htls, if_neg hreality]

theorem slash_populateStream (hnetwork : p.network = some networkType.type)
    (s : StreamSettingsBean) :
    (populateStream env s q).slash = (populateStream env s p).slash := by
  have hmask : q.finalMask.bind env.platform.parseString = none := by rw [hq.finalMask]; rfl
  obtain ⟨hslash, hsni⟩ := transportSettings_read hq hcarried.transport
    { s with network := some networkType.type }
  rw [populateStream, populateStream, populateTransportSettings_eq hq.network,
    populateTransportSettings_eq hnetwork,
    updateOutboundFinalMask_eq_self _ hmask, updateOutboundFinalMask_eq_self _ hcarried.noMask]
  dsimp only
  rw [slash_populateTlsSettings, slash_populateTlsSettings, hslash,
    populateTlsSettings_read hq hcarried _ hsni]

theorem slash_toOutbound (h : Shareable p networkType) :
    (toOutbound env q).map (·.map (·.slash)) = (toOutbound env p).map (·.map (·.slash)) := by
  have hserver (fill : OutSettingsBean → OutSettingsBean) :
      toOutboundServer env .vmess q fill = toOutboundServer env .vmess p fill := by
    rw [toOutboundServer, toOutboundServer, getServerAddress, getServerAddress, hq.server,
      hq.serverPort]
  have hstream (s : Option StreamSettingsBean) :
      (s.map (populateStream env · q)).map (·.slash) =
        (s.map (populateStream env · p)).map (·.slash) := by
    cases s with
    | none => rfl
    | some s => exact congrArg some (slash_populateStream hq hcarried h.network s)
  rw [toOutbound, toOutbound, hq.configType, h.configType]
  dsimp only
  rw [toOutboundVmess, toOutboundVmess, hq.password, hq.method, toOutboundStream, toOutboundStream,
    hserver]
  cases toOutboundServer env .vmess p _ with
  | error e => rfl
  | ok outbound =>
    cases outbound with
    | none => rfl
    | some outbound =>
      exact congrArg (fun s => Except.ok (some { outbound with streamSettings := s }))
        (hstream outbound.streamSettings)

theorem slash_convert (h : Shareable p networkType) :
    (convert env q).map (·.map (·.slash)) = (convert env p).map (·.map (·.slash)) := by
  have hglobal (p : ProfileItem) : (convert env p).map (·.map (·.slash)) =
      ((toOutbound env p).map (·.map (·.slash))).map
        (·.bind (updateOutboundWithGlobalSettings env)) := by
    rw [convert]
    cases toOutbound env p with
    | error e => rfl
    | ok outbound =>
      cases outbound with
      | none => rfl
      | some outbound => exact congrArg Except.ok (slash_updateOutbound outbound)
  rw [hglobal, hglobal, slash_toOutbound hq hcarried h]

end convert

/-- The link of a VMess profile is read, and the profile read back converts to the same outbound up
to the slash if the record has a place for all its settings. -/
theorem convert_of_vmess_link (env : AppEnv)
    {fromJson : String → Except String (Option VmessQRCode)} (hjson : ReadsWritten fromJson)
    {p : ProfileItem} {networkType : NetworkType} (h : Shareable p networkType) :
    ∃ q, VmessFmt.parse fromJson (vmess ++ VmessFmt.toUri p) = .ok (some q) ∧
      (Carried env p networkType →
        (convert env q).map (·.map (·.slash)) = (convert env p).map (·.map (·.slash))) := by
  obtain ⟨q, hread, hq⟩ := readQRCode_toQRCode h
  exact ⟨q, (parse_eq_readQRCode hjson p).trans hread, fun hcarried => slash_convert hq hcarried h⟩

/-! ## A server with and without a lost setting -/

/-- Gson on the texts it writes itself; a field that is not there keeps its default. -/
def flatGson (text : String) : Except String (Option VmessQRCode) :=
  match JsonText.readObject text with
  | none => .error "JsonSyntaxException"
  | some members =>
    let field (key : String) (default : Option String) := (FmtBase.param members key).or default
    .ok (some {
      v := field "v" (some "")
      ps := field "ps" (some "")
      add := field "add" (some "")
      port := field "port" (some "")
      id := field "id" (some "")
      aid := field "aid" (some "0")
      scy := field "scy" (some "")
      net := field "net" (some "")
      type := field "type" (some "")
      host := field "host" (some "")
      path := field "path" (some "")
      tls := field "tls" (some "")
      sni := field "sni" (some "")
      alpn := field "alpn" (some "")
      fp := field "fp" (some "")
      cs := field "cs" (some "")
      insecure := field "insecure" (some "")
      vcn := field "vcn" (some "")
      pcs := field "pcs" (some "") })

theorem flatGson_readsWritten : ReadsWritten flatGson := by
  intro code hsome
  have hnodup : (code.fields.map Prod.fst).Nodup :=
    (by decide : (["v", "ps", "add", "port", "id", "aid", "scy", "net", "type", "host", "path",
      "tls", "sni", "alpn", "fp", "cs", "insecure", "vcn", "pcs"] : List String).Nodup)
  have hfield {key : String} {value default : Option String} (hmem : (key, value) ∈ code.fields) :
      (FmtBase.param (present code.fields) key).or default = value := by
    rw [param_of_perm (List.Perm.refl _) hnodup, (lookup_eq_some_iff_mem hnodup).mpr hmem]
    exact Option.or_of_isSome (hsome _ hmem)
  rw [flatGson, VmessQRCode.toJson, JsonText.readObject_printObject]
  dsimp only
  cases code
  congr 3
  all_goals
    refine hfield ?_
    simp [VmessQRCode.fields]

def xhttpServer (xhttpMode : Option String) : ProfileItem :=
  { ProfileItem.create .vmess with
    remarks := "Home"
    server := some "example.com"
    serverPort := some "443"
    password := some "u"
    method := some "auto"
    network := some "xhttp"
    path := some ""
    security := some "tls"
    xhttpMode }

theorem xhttpServer_shareable (xhttpMode : Option String) :
    Shareable (xhttpServer xhttpMode) .xhttp where
  configType := rfl
  server := ⟨"example.com", rfl, by decide⟩
  port := ⟨"443", rfl, by decide⟩
  password := ⟨"u", rfl, by decide⟩
  method := ⟨"auto", rfl, by decide⟩
  network := rfl

theorem xhttpServer_carried (env : AppEnv) : Carried env (xhttpServer none) .xhttp where
  transport := ⟨rfl, by decide, rfl, rfl⟩
  finalMask := rfl
  noMask := rfl
  tls := fun _ => by decide

theorem xhttpServer_of_link :
    ∃ q, VmessFmt.parse flatGson (vmess ++ VmessFmt.toUri (xhttpServer none)) =
        .ok (some q) ∧
      (convert (plainEnv [] []) q).map (·.map (·.slash)) =
        (convert (plainEnv [] []) (xhttpServer none)).map (·.map (·.slash)) := by
  obtain ⟨q, hparse, hsame⟩ :=
    convert_of_vmess_link (plainEnv [] []) flatGson_readsWritten (xhttpServer_shareable none)
  exact ⟨q, hparse, hsame (xhttpServer_carried _)⟩

/-- The mode of XHTTP in an outbound. -/
def xhttpModeOf (o : OutboundBean) : Option String := do
  (← (← o.streamSettings).xhttpSettings).mode

theorem xhttpModeOf_slash (o : OutboundBean) : xhttpModeOf o.slash = xhttpModeOf o := by
  rw [xhttpModeOf, xhttpModeOf, OutboundBean.slash]
  cases o.streamSettings with
  | none => rfl
  | some s =>
    cases hxhttp : s.xhttpSettings <;> simp [StreamSettingsBean.slash, hxhttp]

/-- The mode of XHTTP is lost. -/
theorem xhttp_mode_lost :
    ∃ q o o', VmessFmt.parse flatGson
          (vmess ++ VmessFmt.toUri (xhttpServer (some "packet-up"))) = .ok (some q) ∧
      convert (plainEnv [] []) (xhttpServer (some "packet-up")) = .ok (some o) ∧
      convert (plainEnv [] []) q = .ok (some o') ∧
      xhttpModeOf o = some "packet-up" ∧ xhttpModeOf o' = none := by
  obtain ⟨q, hread, hq⟩ := readQRCode_toQRCode (xhttpServer_shareable (some "packet-up"))
  have hparse := (parse_eq_readQRCode flatGson_readsWritten _).trans hread
  -- the link is that of the server without the mode
  have hq' : ReadVmess (xhttpServer none) .xhttp q := { hq with }
  have hsame :=
    slash_convert hq' (xhttpServer_carried (plainEnv [] [])) (xhttpServer_shareable none)
  obtain ⟨o, ho, hmode⟩ : ∃ o, convert (plainEnv [] []) (xhttpServer (some "packet-up")) =
      .ok (some o) ∧ xhttpModeOf o = some "packet-up" := ⟨_, rfl, rfl⟩
  obtain ⟨o', ho', hmode'⟩ : ∃ o, convert (plainEnv [] []) (xhttpServer none) =
      .ok (some o) ∧ xhttpModeOf o = none := ⟨_, rfl, rfl⟩
  rw [ho'] at hsame
  cases hconvert : convert (plainEnv [] []) q with
  | error e =>
    rw [hconvert] at hsame
    cases hsame
  | ok outbound =>
    cases outbound with
    | none =>
      rw [hconvert] at hsame
      cases hsame
    | some o'' =>
      rw [hconvert] at hsame
      have hslash : o''.slash = o'.slash := Option.some.inj (Except.ok.inj hsame)
      have hlost : xhttpModeOf o'' = none := by
        rw [← xhttpModeOf_slash, hslash, xhttpModeOf_slash, hmode']
      exact ⟨q, o, o'', hparse, ho, hconvert, hmode, hlost⟩

end VmessLink
end ZeroVpn
