import ZeroVpn.Fmt.LinkFormat

/-!
# A profile read back from its link

`Relinked` lists the fields of a profile that its link carries: texts of white space are dropped,
and each transport has its own fields. `relinked_profile` shows that the readers give them back.
-/

namespace ZeroVpn.Link

open FmtBase NetworkType List Text

/-- The formats whose query has the transport. -/
inductive Format
  | vless | trojan
deriving DecidableEq

namespace Format

def configType : Format → EConfigType
  | vless => .vless
  | trojan => .trojan

/-- The format among all that have a name after the number sign. -/
def toLinkFormat : Format → LinkFormat
  | vless => .vless
  | trojan => .trojan

def protocolScheme (fmt : Format) : String := fmt.toLinkFormat.protocolScheme

/-- The entries of the query. -/
def dicQuery : Format → ProfileItem → List (String × String)
  | vless => VlessFmt.dicQuery
  | trojan => TrojanFmt.dicQuery

def toUri (toASCII : String → Except String String) (fmt : Format) (p : ProfileItem)
    (order : List (String × String)) : Except String String :=
  fmt.toLinkFormat.toUri toASCII p order

def parse (str : String) : Format → Except String (Option ProfileItem)
  | vless => VlessFmt.parse str
  | trojan => (TrojanFmt.parse str).map some

/-- What the reader makes of an address and the parameters of a query. -/
def profile (uri : Uri) (queryParam : List (String × String)) : Format → ProfileItem
  | vless => getItemFormQuery { readServer (.create .vless) uri with
      method := some ((param queryParam "encryption").getD "none") } queryParam
  | trojan => { getItemFormQuery (readServer (.create .trojan) uri) queryParam with
      security := some ((param queryParam "security").getD AppConfig.tls) }

variable (p : ProfileItem) (order : List (String × String))

theorem userInfo_toLinkFormat (fmt : Format) : fmt.toLinkFormat.userInfo p = p.password := by
  cases fmt <;> rfl

theorem query_toLinkFormat (fmt : Format) : fmt.toLinkFormat.query order = some order := by
  cases fmt <;> rfl

theorem parse_eq_ok {uri : Uri} (huri : readUri str = .ok uri)
    (hquery : uri.rawQuery = some rawQuery) (hne : rawQuery ≠ "")
    (hparam : getQueryParam rawQuery = .ok queryParam) (fmt : Format) :
    fmt.parse str = .ok (some (fmt.profile uri queryParam)) := by
  cases fmt with
  | vless =>
    rw [parse, VlessFmt.parse, huri]
    dsimp only [bind, Except.bind]
    rw [hquery]
    dsimp only
    rw [if_neg hne, hparam]
    rfl
  | trojan =>
    have hnot : ¬isNullOrEmpty uri.rawQuery = true := by
      rw [hquery]
      simpa [isNullOrEmpty] using hne
    rw [parse, TrojanFmt.parse, huri]
    dsimp only [bind, Except.bind]
    rw [if_neg hnot, hquery, orEmpty, Option.getD_some, hparam]
    rfl

end Format

/-! ## The entries of the query -/

def baseKeys : List String :=
  ["security", "sni", "alpn", "cs", "ech", "vcn", "pcs", "fp", "pbk", "sid", "spx", "pqv", "flow",
    "fm", "mtu", "tti", "insecure", "allowInsecure", "type"]

def transportKeys : NetworkType → List String
  | .tcp => ["headerType", "host"]
  | .kcp => ["headerType", "seed"]
  | .ws | .httpUpgrade | .http | .h2 => ["host", "path"]
  | .xhttp => ["host", "path", "mode", "extra"]
  | .grpc => ["mode", "authority", "serviceName"]
  | .hysteria => []

/-- The keys that only one format has. -/
def formatKeys : Format → List String
  | .vless => ["encryption"]
  | .trojan => []

/-- The entries that only one format has. -/
def formatFields (p : ProfileItem) : Format → List (String × Option String)
  | .vless => [("encryption", some (p.method.getD "none"))]
  | .trojan => []

/-- The entries of a format, with those that have no value. -/
def fields (fmt : Format) (p : ProfileItem) : List (String × Option String) :=
  queryFields p ++ formatFields p fmt

theorem dicQuery_eq (fmt : Format) (p : ProfileItem) : fmt.dicQuery p = present (fields fmt p) := by
  cases fmt with
  | vless =>
    rw [fields, present, filterMap_append]
    rfl
  | trojan =>
    rw [fields, formatFields, append_nil]
    rfl

theorem keys_fields (fmt : Format) (p : ProfileItem) : (fields fmt p).map Prod.fst =
    baseKeys ++ transportKeys (fromString p.network) ++ formatKeys fmt := by
  have htransport : (transportFields p (fromString p.network)).map Prod.fst =
      transportKeys (fromString p.network) := by
    cases fromString p.network <;> rfl
  have hformat : (formatFields p fmt).map Prod.fst = formatKeys fmt := by
    cases fmt <;> rfl
  rw [fields, queryFields, map_append, map_append, htransport, hformat]
  rfl

theorem nodup_fields (fmt : Format) (p : ProfileItem) : ((fields fmt p).map Prod.fst).Nodup := by
  rw [keys_fields]
  generalize fromString p.network = networkType
  cases fmt <;> cases networkType <;> decide

theorem key_ne_empty (he : e ∈ fields fmt p) : e.1 ≠ "" := by
  have hmem : e.1 ∈ (fields fmt p).map Prod.fst := mem_map_of_mem he
  have hkeys (networkType : NetworkType) :
      ∀ key ∈ baseKeys ++ transportKeys networkType ++ formatKeys fmt, key ≠ "" := by
    cases fmt <;> cases networkType <;> decide
  rw [keys_fields] at hmem
  exact hkeys _ e.1 hmem

theorem isKey_fields (he : e ∈ fields fmt p) : IsKey e.1 := by
  have hmem : e.1 ∈ (fields fmt p).map Prod.fst := mem_map_of_mem he
  have hkeys (networkType : NetworkType) :
      ∀ key ∈ baseKeys ++ transportKeys networkType ++ formatKeys fmt,
        key.toList.all Char.isAlphanum = true := by
    cases fmt <;> cases networkType <;> decide
  rw [keys_fields] at hmem
  exact all_eq_true.mp (hkeys _ e.1 hmem)

variable {fmt : Format} {p : ProfileItem} {order : List (String × String)}

section order
variable (hperm : order.Perm (fmt.dicQuery p))
include hperm

theorem isKey_order : ∀ e ∈ order, IsKey e.1 := by
  intro e he
  have hmem := hperm.mem_iff.mp he
  rw [dicQuery_eq] at hmem
  exact isKey_fields (mem_present.mp hmem)

theorem key_order_ne_empty : ∀ e ∈ order, e.1 ≠ "" := by
  intro e he
  have hmem := hperm.mem_iff.mp he
  rw [dicQuery_eq] at hmem
  exact key_ne_empty (mem_present.mp hmem)

theorem param_order (key : String) : param order key = ((fields fmt p).lookup key).join := by
  rw [dicQuery_eq] at hperm
  exact param_of_perm hperm (nodup_fields fmt p) key

theorem order_ne_nil : order ≠ [] := by
  rintro rfl
  have hsecurity := param_order hperm "security"
  cases hsecurity

end order

/-! ## The profile -/

/-- What a link carries of a profile, for a transport. -/
structure Relinked (p : ProfileItem) (networkType : NetworkType) (p' : ProfileItem) : Prop where
  configType : p'.configType = p.configType
  password : p'.password = p.password
  method : p.configType = .vless → p'.method = some (p.method.getD "none")
  flow : p'.flow = nullIfBlank p.flow
  network : p'.network = some (linkType networkType)
  security : orEmpty p'.security = orEmpty p.security
  insecure : p'.insecure = some (p.security == some AppConfig.tls && p.insecure == some true)
  sni : p'.sni = nullIfBlank p.sni
  alpn : p'.alpn = nullIfBlank p.alpn
  cipherSuites : p'.cipherSuites = nullIfBlank p.cipherSuites
  echConfigList : p'.echConfigList = nullIfBlank p.echConfigList
  verifyPeerCertByName : p'.verifyPeerCertByName = nullIfBlank p.verifyPeerCertByName
  pinnedCA256 : p'.pinnedCA256 = nullIfBlank p.pinnedCA256
  fingerPrint : p'.fingerPrint = nullIfBlank p.fingerPrint
  publicKey : p'.publicKey = nullIfBlank p.publicKey
  shortId : p'.shortId = nullIfBlank p.shortId
  spiderX : p'.spiderX = nullIfBlank p.spiderX
  mldsa65Verify : p'.mldsa65Verify = nullIfBlank p.mldsa65Verify
  finalMask : p'.finalMask = nullIfBlank p.finalMask
  kcpMtu : p'.kcpMtu = p.kcpMtu
  kcpTti : p'.kcpTti = p.kcpTti
  headerType : p'.headerType = ((transportFields p networkType).lookup "headerType").join
  host : p'.host = ((transportFields p networkType).lookup "host").join
  path : p'.path = ((transportFields p networkType).lookup "path").join
  seed : p'.seed = ((transportFields p networkType).lookup "seed").join
  mode : p'.mode = ((transportFields p networkType).lookup "mode").join
  xhttpMode : p'.xhttpMode = ((transportFields p networkType).lookup "mode").join
  xhttpExtra : p'.xhttpExtra = ((transportFields p networkType).lookup "extra").join
  serviceName : p'.serviceName = ((transportFields p networkType).lookup "serviceName").join
  authority : p'.authority = ((transportFields p networkType).lookup "authority").join
  bandwidthUp : p'.bandwidthUp = none
  bandwidthDown : p'.bandwidthDown = none
  portHopping : p'.portHopping = none
  obfsPassword : p'.obfsPassword = none

/-- The numbers of a profile are 32-bit integers. -/
def InRange (n : Option Int) : Prop := ∀ m, n = some m → -2147483648 ≤ m ∧ m ≤ 2147483647

theorem toIntOrNull_map_toString {n : Option Int} (h : InRange n) :
    (n.map toString).bind toIntOrNull = n := by
  cases n with
  | none => rfl
  | some m => exact toIntOrNull_toString (h m rfl)

def withSecurity (p : ProfileItem) (security : Option String) : ProfileItem := { p with security }

theorem withSecurity_security (p : ProfileItem) : withSecurity p p.security = p := rfl

section read
variable (hperm : order.Perm (fmt.dicQuery p))
include hperm

/-- A key of the transport has the value that the transport gives it. -/
theorem param_transport (hbase : key ∉ baseKeys) (hformat : key ∉ formatKeys fmt) :
    param order key =
      ((transportFields p (fromString p.network)).lookup key).join := by
  have hkeys : (formatFields p fmt).map Prod.fst = formatKeys fmt := by
    cases fmt <;> rfl
  have hnone : (baseFields p).lookup key = none := lookup_eq_none_of_notMem hbase
  have hnone' : (formatFields p fmt).lookup key = none := by
    refine lookup_eq_none_of_notMem ?_
    rw [hkeys]
    exact hformat
  rw [param_order hperm, fields, queryFields, lookup_append, lookup_append, hnone, hnone',
    Option.none_or, Option.or_none]

/-- The flag is read back from either of its keys. -/
theorem insecure_read :
    (["insecure", "allowInsecure", "allow_insecure"].any fun key => param order key == some "1") =
      (p.security == some AppConfig.tls && p.insecure == some true) := by
  have hflag : param order "insecure" = insecureFlag p := param_order hperm "insecure"
  have hflag' : param order "allowInsecure" = insecureFlag p := param_order hperm "allowInsecure"
  have hother : param order "allow_insecure" = none := by
    rw [param_transport hperm (by decide) (by cases fmt <;> decide)]
    cases fromString p.network <;> rfl
  rw [any_cons, any_cons, any_cons, any_nil, hflag, hflag', hother,
    insecureFlag]
  by_cases htls : p.security = some AppConfig.tls
  · rw [htls]
    by_cases hinsecure : p.insecure = some true
    · rw [hinsecure]
      decide
    · rw [if_neg hinsecure]
      have : (p.insecure == some true) = false := beq_eq_false_iff_ne.mpr hinsecure
      rw [this]
      decide
  · rw [if_neg htls]
    have : (p.security == some AppConfig.tls) = false := beq_eq_false_iff_ne.mpr htls
    rw [this]
    rfl

omit hperm in
theorem param_encryption (hperm : order.Perm (Format.vless.dicQuery p)) :
    param order "encryption" = some (p.method.getD "none") := by
  have hkeys : "encryption" ∉ baseKeys := by decide
  have hbase : (baseFields p).lookup "encryption" = none := lookup_eq_none_of_notMem hkeys
  have htransport :
      (transportFields p (fromString p.network)).lookup "encryption" = none := by
    cases fromString p.network <;> rfl
  rw [param_order hperm, fields, queryFields, lookup_append, lookup_append, hbase,
    htransport]
  rfl

/-- What both readers take from a query. -/
theorem relinked_getItemFormQuery (hmtu : InRange p.kcpMtu) (htti : InRange p.kcpTti)
    {base : ProfileItem} (hconfig : base.configType = p.configType)
    (hpassword : base.password = p.password)
    (hmethod : p.configType = .vless → base.method = some (p.method.getD "none"))
    (hsecurity : orEmpty security = orEmpty p.security)
    (hnone : base.bandwidthUp = none ∧ base.bandwidthDown = none ∧ base.portHopping = none ∧
      base.obfsPassword = none) :
    Relinked p (fromString p.network)
      (withSecurity (getItemFormQuery base order) security) := by
  have htransport {key : String} (hbase : key ∉ baseKeys) (hformat : key ≠ "encryption") :
      param order key =
        ((transportFields p (fromString p.network)).lookup key).join := by
    refine param_transport hperm hbase ?_
    cases fmt with
    | vless => exact fun h => hformat (mem_singleton.mp h)
    | trojan => exact not_mem_nil
  have hread (key : String) := param_order hperm key
  constructor
  case configType => exact hconfig
  case password => exact hpassword
  case method => exact hmethod
  case security => exact hsecurity
  case insecure => exact congrArg some (insecure_read hperm)
  case network =>
    exact congrArg (fun type => some (type.getD tcp.type)) (hread "type")
  case flow => exact hread "flow"
  case sni => exact hread "sni"
  case alpn => exact hread "alpn"
  case cipherSuites => exact hread "cs"
  case echConfigList => exact hread "ech"
  case verifyPeerCertByName => exact hread "vcn"
  case pinnedCA256 => exact hread "pcs"
  case fingerPrint => exact hread "fp"
  case publicKey => exact hread "pbk"
  case shortId => exact hread "sid"
  case spiderX => exact hread "spx"
  case mldsa65Verify => exact hread "pqv"
  case finalMask => exact hread "fm"
  case kcpMtu =>
    exact (congrArg (·.bind toIntOrNull) (hread "mtu")).trans (toIntOrNull_map_toString hmtu)
  case kcpTti =>
    exact (congrArg (·.bind toIntOrNull) (hread "tti")).trans (toIntOrNull_map_toString htti)
  case bandwidthUp => exact hnone.1
  case bandwidthDown => exact hnone.2.1
  case portHopping => exact hnone.2.2.1
  case obfsPassword => exact hnone.2.2.2
  -- the fields of the transport
  all_goals exact htransport (by decide) (by decide)

/-- The readers of both formats give back what the link carries. -/
theorem relinked_profile (hconfig : p.configType = fmt.configType)
    (hsecurity : p.security = none ∨ p.security = some AppConfig.tls ∨
      p.security = some AppConfig.reality)
    (hmtu : InRange p.kcpMtu) (htti : InRange p.kcpTti) {uri : Uri}
    (huser : uri.userInfo = p.password) :
    Relinked p (fromString p.network) (fmt.profile uri order) := by
  have hread : param order "security" = some (noneIfEmpty p.security) :=
    param_order hperm "security"
  cases fmt with
  | vless =>
    rw [Format.profile, ← withSecurity_security (getItemFormQuery _ order)]
    refine relinked_getItemFormQuery hperm hmtu htti ?_ ?_ ?_ ?_ ?_
    · exact hconfig.symm
    · exact huser
    · intro _
      exact congrArg (fun method => some (method.getD "none")) (param_encryption hperm)
    · rw [getItemFormQuery]
      dsimp only
      rw [hread]
      rcases hsecurity with h | h | h <;> rw [h] <;> decide
    · exact ⟨rfl, rfl, rfl, rfl⟩
  | trojan =>
    refine relinked_getItemFormQuery hperm hmtu htti ?_ ?_ ?_ ?_ ?_
    · exact hconfig.symm
    · exact huser
    · intro h
      rw [hconfig] at h
      cases h
    · rw [hread]
      rcases hsecurity with h | h | h <;> rw [h] <;> decide
    · exact ⟨rfl, rfl, rfl, rfl⟩

end read
end ZeroVpn.Link
