import ZeroVpn.Desktop.XrayConfig
import ZeroVpn.Fmt.FmtBase
import ZeroVpn.Util.HostSpec

/-!
# Shadowsocks links between Android and desktop

Android writes the credentials in standard Base64 and percent-encodes them; the desktop decodes
Base64 without undoing the escapes. They agree on a link exactly when its Base64 text has letters
and digits only.
-/

namespace ZeroVpn.XrayConfig

open Text Utils List Base64 Option

/-- The first of the servers of an outbound. -/
def serverEntry (outbound : Json) : Option JsonObject := do
  let settings ← JsonObject.get (← outbound.asObject) "settings"
  let servers ← JsonObject.get (← settings.asObject) "servers"
  let entry ← (← servers.asArray).head?
  entry.asObject

/-- The outbound that the desktop makes of the link of a Shadowsocks profile has the address, the
port, the method and the password of the profile. -/
def ReadsShadowsocks (toASCII : String → Except String String) (vmess : String → Option Json)
    (lowercase : String → String) (p : ProfileItem) : Prop :=
  ∃ link outbound entry, ShadowsocksFmt.toUri toASCII p = .ok link ∧
    buildOutbound vmess lowercase ("ss://" ++ link) = some outbound ∧
    serverEntry outbound = some entry ∧
    entry.get "address" = p.server.map Json.str ∧
    entry.get "port" = (p.serverPort.bind Text.toIntOrNull).map Json.int ∧
    entry.get "method" = p.method.map Json.str ∧
    entry.get "password" = p.password.map Json.str

section credentials
variable {credentials : String}

/-- The user information of a link. -/
def linkUserInfo (credentials : String) : String :=
  Utils.encodeURIComponent (Utils.encode credentials true)

theorem linkUserInfo_toList (credentials : String) : (linkUserInfo credentials).toList =
    Percent.encode URLEncoder.isSafe (body false (utf8 credentials.toList)) := by
  rw [linkUserInfo, encodeURIComponent_toList, encode_toList]

theorem linkUserInfo_ne_nil (h : credentials ≠ "") : (linkUserInfo credentials).toList ≠ [] := by
  rw [linkUserInfo_toList, Ne, Percent.encode_eq_nil]
  intro hnil
  have hbytes : utf8 credentials.toList = [] := by
    rw [← bytes_sextets (utf8 credentials.toList), map_eq_nil_iff.mp hnil]
    rfl
  have hchars : credentials.toList = [] := by
    rw [← ofUtf8_utf8 credentials.toList, hbytes]
    rfl
  exact h (String.toList_inj.mp hchars)

/-- No character of the user information is white space. -/
theorem filter_linkUserInfo (credentials : String) :
    (linkUserInfo credentials).toList.filter (!isSpace ·) = (linkUserInfo credentials).toList := by
  rw [filter_eq_self]
  intro c hc
  have hcomponent := isComponentChar_of_mem hc
  by_contra hspace
  simp only [Bool.not_eq_true, Bool.not_eq_false', isSpace, Bool.or_eq_true, beq_iff_eq,
    Bool.and_eq_true, decide_eq_true_eq] at hspace
  rcases hspace with rfl | ⟨hlo, hhi⟩
  · cases hcomponent
  · have hsmall : ∀ n : Fin 14, 9 ≤ n.val → isComponentChar (Char.ofNat n) = false := by decide
    have hhi : c.toNat ≤ 13 := hhi
    have := hsmall ⟨c.toNat, by omega⟩ hlo
    rw [Char.ofNat_toNat, hcomponent] at this
    cases this

/-- Letters and digits are their own escapes and read the same in both alphabets. -/
theorem tryDecodeBase64_linkUserInfo
    (h : ∀ n ∈ sextets (utf8 credentials.toList), n.val < 62) :
    tryDecodeBase64 (linkUserInfo credentials) = some credentials := by
  have hsafe : ∀ c ∈ body false (utf8 credentials.toList), URLEncoder.isSafe c = true := by
    intro c hc
    obtain ⟨n, hn, rfl⟩ := mem_map.mp hc
    rw [URLEncoder.isSafe, isAlphanum_char.mpr (h n hn)]
    rfl
  have htext : (linkUserInfo credentials).toList = body true (utf8 credentials.toList) := by
    rw [linkUserInfo_toList, Percent.encode_of_safe hsafe, body_eq_body h]
  have hencode : body true (utf8 credentials.toList) ++
      replicate (padding (body true (utf8 credentials.toList)).length) '=' =
      encode true (utf8 credentials.toList) := rfl
  rw [tryDecodeBase64, filter_linkUserInfo, htext, hencode, Base64.decode_encode, some_or,
    map_some, ofUtf8_utf8, String.ofList_toList]

theorem isSafe_char {n : Fin 64} (h : 62 ≤ n.val) :
    URLEncoder.isSafe (char false n) = false := by
  revert n
  decide +kernel

/-- An escape is no Base64, in either alphabet. -/
theorem tryDecodeBase64_linkUserInfo_eq_none
    (h : ¬ ∀ n ∈ sextets (utf8 credentials.toList), n.val < 62) :
    tryDecodeBase64 (linkUserInfo credentials) = none := by
  push Not at h
  obtain ⟨n, hn, hlarge⟩ := h
  have hpercent : '%' ∈ (linkUserInfo credentials).toList := by
    rw [linkUserInfo_toList]
    exact Percent.percent_mem_encode (mem_map_of_mem hn) (isSafe_char hlarge)
  have hpad : '=' ∉ (linkUserInfo credentials).toList := notMem_encodeURIComponent (by decide)
  have hnone (url : Bool) : value? url '%' = none := by
    cases url <;> decide +kernel
  rw [tryDecodeBase64, filter_linkUserInfo, decode_eq_none hpad hpercent (hnone true),
    decode_eq_none hpad hpercent (hnone false)]
  rfl

end credentials

variable {method password host port : String} {n : Int}

section link

/-- The parts of a numeral are no separators of a link. -/
theorem notMem_numeral (hport : toIntOrNull port = some n) (hminus : c ≠ '-') (hplus : c ≠ '+')
    (hdigit : digitOf c = none) : c ∉ port.toList := by
  intro hc
  rcases mem_of_toBounded hport c hc with h | h | h
  · exact hminus h
  · exact hplus h
  · rw [hdigit] at h
    cases h

/-- The part of a link in front of its name. -/
def linkMain (credentials host port : String) : String :=
  linkUserInfo credentials ++ "@" ++ (host ++ ":" ++ port)

variable (hhost : Uri.isPlainHost true host.toList = true)
  (hport : Text.toIntOrNull port = some n)
include hhost hport

theorem notMem_hostPort (hchar : Uri.isHostChar c = false) (hcolon : c ≠ ':') (hplus : c ≠ '+')
    (hdigit : digitOf c = none) : c ∉ (host ++ ":" ++ port).toList := by
  have hminus : c ≠ '-' := by
    rintro rfl
    cases hchar
  have hmid : ":".toList = [':'] := by decide
  rw [String.toList_append, String.toList_append, hmid, mem_append, mem_append,
    mem_singleton]
  rintro ((h | h) | h)
  · exact Uri.notMem_plainHost hhost hchar h
  · exact hcolon h
  · exact notMem_numeral hport hminus hplus hdigit h

theorem readServer_linkMain (h : credentials ≠ "") :
    readServer (linkMain credentials host port) =
      readUserInfo (linkUserInfo credentials) (host ++ ":" ++ port) := by
  have hat : "@".toList = ['@'] := by decide
  have hserver : '@' ∉ (host ++ ":" ++ port).toList :=
    notMem_hostPort hhost hport (by decide) (by decide) (by decide) (by decide)
  have hlater : (linkMain credentials host port).toList.tail.contains '@' = true := by
    rw [linkMain, String.toList_append, String.toList_append, append_assoc]
    cases hinfo : (linkUserInfo credentials).toList with
    | nil => exact absurd hinfo (linkUserInfo_ne_nil h)
    | cons c cs => simp
  rw [readServer, if_pos hlater, linkMain, substringBeforeLast_append hat hserver,
    substringAfterLast_append hat hserver]

/-- The host and the port are read as they were written, whatever the credentials. -/
theorem readUserInfo_hostPort (userInfo : String) :
    (readUserInfo userInfo (host ++ ":" ++ port)).host = host ∧
      (readUserInfo userInfo (host ++ ":" ++ port)).port = n := by
  have hcolon : ":".toList = [':'] := by decide
  have hquery : splitFirst '?' (host ++ ":" ++ port) = (host ++ ":" ++ port, none) :=
    splitFirst_of_notMem
      (notMem_hostPort hhost hport (by decide) (by decide) (by decide) (by decide))
  have hlast : ':' ∉ port.toList := notMem_numeral hport (by decide) (by decide) (by decide)
  unfold readUserInfo
  rw [hquery]
  dsimp only
  rw [substringBeforeLast_append hcolon hlast, substringAfterLast_append hcolon hlast,
    portOr443, hport]
  exact ⟨rfl, rfl⟩

end link

/-- The user information with `:` in its decoded text. -/
theorem readUserInfo_decoded {userInfo server method password : String}
    (h : tryDecodeBase64 userInfo = some (method ++ ":" ++ password)) (hmethod : ':' ∉ method.toList) :
    (readUserInfo userInfo server).method = method ∧
      (readUserInfo userInfo server).password = password := by
  unfold readUserInfo
  dsimp only
  rw [h, getD_some, splitFirst_append (by decide) hmethod]
  exact ⟨rfl, rfl⟩

/-- Credentials that cannot be decoded have no password. -/
theorem readUserInfo_undecoded (h : tryDecodeBase64 (linkUserInfo credentials) = none) :
    (readUserInfo (linkUserInfo credentials) server).password = "" := by
  have hcolon : ':' ∉ (linkUserInfo credentials).toList :=
    notMem_encodeURIComponent (by decide)
  unfold readUserInfo
  dsimp only
  rw [h, getD_none, splitFirst_of_notMem hcolon]
  rfl

/-! ## The link of a profile -/

/-- The JSON of a server, as `shadowsocks` puts it into the outbound. -/
def entryOf (server : SsServer) (name : String) : JsonObject :=
  [("address", str server.host), ("port", .int server.port), ("method", str server.method),
    ("password", str server.password), ("ota", .bool false), ("level", .int 0), ("name", str name)]

variable (server : SsServer)

@[simp] theorem entryOf_address (name : String) :
    (entryOf server name).get "address" = some (.str server.host) := rfl

@[simp] theorem entryOf_port (name : String) :
    (entryOf server name).get "port" = some (.int server.port) := rfl

@[simp] theorem entryOf_method (name : String) :
    (entryOf server name).get "method" = some (.str server.method) := rfl

@[simp] theorem entryOf_password (name : String) :
    (entryOf server name).get "password" = some (.str server.password) := rfl

theorem serverEntry_shadowsocks {main : String} (h : '#' ∉ main.toList) (hash : String) :
    ∃ name, serverEntry (shadowsocks ("ss://" ++ (main ++ "#" ++ hash))) =
      some (entryOf (readServer main) name) := by
  have hbody (body : String) :
      String.ofList (("ss://" ++ body).toList.drop "ss://".length) = body := by
    rw [String.toList_append, ← String.length_toList, drop_left, String.ofList_toList]
  have hcut : splitFirst '#' (main ++ "#" ++ hash) = (main, some hash) :=
    splitFirst_append (by decide) h
  unfold shadowsocks
  dsimp only
  rw [hbody, hcut]
  exact ⟨_, rfl⟩

theorem buildOutbound_shadowsocks (vmess : String → Option Json) (lowercase : String → String)
    (body : String) :
    buildOutbound vmess lowercase ("ss://" ++ body) = some (shadowsocks ("ss://" ++ body)) := by
  have hstart : startsWith ("ss://" ++ body) "ss://" = true :=
    startsWith_iff.mpr ⟨body, rfl⟩
  have hvmess : startsWith ("ss://" ++ body) "vmess://" = false :=
    startsWith_append_eq_false (by decide) body
  have hvless : startsWith ("ss://" ++ body) "vless://" = false :=
    startsWith_append_eq_false (by decide) body
  have htrojan : startsWith ("ss://" ++ body) "trojan://" = false :=
    startsWith_append_eq_false (by decide) body
  simp only [buildOutbound, hvmess, hvless, htrojan, hstart, Bool.false_eq_true, if_false, if_true]

section profile
variable {p : ProfileItem} (hmethod : p.method = some method)
  (hpassword : p.password = some password) (hserver : p.server = some host)
  (hhost : Uri.isPlainHost true host.toList = true) (hserverPort : p.serverPort = some port)
  (hport : Text.toIntOrNull port = some n)
include hmethod hpassword hserver hhost hserverPort

variable (toASCII : String → Except String String)

theorem shadowsocks_toUri :
    ShadowsocksFmt.toUri toASCII p = .ok (linkMain (method ++ ":" ++ password) host port ++
      "#" ++ encodeURIComponent p.remarks) := by
  have hidn : HttpUtil.toIdnDomain toASCII (orEmpty p.server) = .ok host := by
    rw [hserver]
    exact toIdnDomain_plainHost hhost toASCII
  rw [ShadowsocksFmt.toUri, FmtBase.toUri_eq_ok hidn, getIpv6Address_plainHost hhost,
    hmethod, hpassword, hserverPort]
  simp only [getD_some, orEmpty, FmtBase.queryText, linkMain, linkUserInfo,
    String.append_assoc, String.append_empty]

include hport

/-- What the desktop makes of the link of a profile. -/
theorem readsShadowsocks_iff (vmess : String → Option Json) (lowercase : String → String) :
    ReadsShadowsocks toASCII vmess lowercase p ↔
      (readUserInfo (linkUserInfo (method ++ ":" ++ password)) (host ++ ":" ++ port)).method =
        method ∧
      (readUserInfo (linkUserInfo (method ++ ":" ++ password)) (host ++ ":" ++ port)).password =
        password := by
  have hcred : method ++ ":" ++ password ≠ "" := by
    intro h
    have := congrArg String.toList h
    simp at this
  have hhash : '#' ∉ (linkMain (method ++ ":" ++ password) host port).toList := by
    have hat : "@".toList = ['@'] := by decide
    rw [linkMain, String.toList_append, String.toList_append, mem_append, mem_append]
    rintro ((h | h) | h)
    · exact notMem_encodeURIComponent (by decide) h
    · cases mem_singleton.mp h
    · exact notMem_hostPort hhost hport (by decide) (by decide) (by decide) (by decide) h
  have hlink := shadowsocks_toUri hmethod hpassword hserver hhost hserverPort toASCII
  obtain ⟨name, hentry⟩ := serverEntry_shadowsocks hhash (encodeURIComponent p.remarks)
  obtain ⟨haddress, hportRead⟩ := readUserInfo_hostPort hhost hport
    (linkUserInfo (method ++ ":" ++ password))
  rw [readServer_linkMain hhost hport hcred] at hentry
  constructor
  · rintro ⟨link, outbound, entry, hto, hout, hread, -, -, hm, hpw⟩
    obtain rfl := Except.ok.inj (hto.symm.trans hlink)
    rw [buildOutbound_shadowsocks, some.injEq] at hout
    rw [← hout, hentry, some.injEq] at hread
    rw [← hread, entryOf_method, hmethod, map_some, some.injEq] at hm
    rw [← hread, entryOf_password, hpassword, map_some, some.injEq] at hpw
    exact ⟨Json.str.inj hm, Json.str.inj hpw⟩
  · rintro ⟨hm, hpw⟩
    refine ⟨_, _, _, hlink, buildOutbound_shadowsocks .., hentry, ?_, ?_, ?_, ?_⟩
    · rw [entryOf_address, haddress, hserver, map_some]
    · rw [entryOf_port, hportRead, hserverPort, bind_some, hport, map_some]
    · rw [entryOf_method, hm, hmethod, map_some]
    · rw [entryOf_password, hpw, hpassword, map_some]

end profile

/-- Android and desktop agree on the link of a Shadowsocks server exactly when no group of six bits
of its credentials is one of the last two of the alphabet. -/
theorem readsShadowsocks_iff_sextets (toASCII : String → Except String String)
    (vmess : String → Option Json) (lowercase : String → String) {p : ProfileItem}
    {method password host port : String} {n : Int}
    (hmethod : p.method = some method) (hcolon : ':' ∉ method.toList)
    (hpassword : p.password = some password) (hne : password ≠ "")
    (hserver : p.server = some host) (hhost : Uri.isPlainHost true host.toList = true)
    (hserverPort : p.serverPort = some port) (hport : Text.toIntOrNull port = some n) :
    ReadsShadowsocks toASCII vmess lowercase p ↔
      ∀ s ∈ sextets (utf8 (method ++ ":" ++ password).toList), s.val < 62 := by
  rw [readsShadowsocks_iff hmethod hpassword hserver hhost hserverPort hport]
  constructor
  · rintro ⟨-, hread⟩
    by_contra hlarge
    rw [readUserInfo_undecoded (tryDecodeBase64_linkUserInfo_eq_none hlarge)] at hread
    exact hne hread.symm
  · intro hsmall
    exact readUserInfo_decoded (tryDecodeBase64_linkUserInfo hsmall) hcolon

/-- A Shadowsocks server with a password. -/
def ssServer (password : String) : ProfileItem :=
  { ProfileItem.create .shadowsocks with
    remarks := "home"
    method := some "aes-256-gcm"
    password := some password
    server := some "example.org"
    serverPort := some "8388" }

theorem readsShadowsocks_secret :
    ReadsShadowsocks Except.ok (fun _ => none) Text.lowercaseAscii (ssServer "secret") :=
  (readsShadowsocks_iff_sextets _ _ _ (n := 8388) rfl (by decide) rfl (by decide) rfl
    (by decide +kernel) rfl (by decide +kernel)).mpr (by decide +kernel)

-- `aes-256-gcm:pa>ss` is `YWVzLTI1Ni1nY206cGE+c3M`
theorem not_readsShadowsocks_plus :
    ¬ ReadsShadowsocks Except.ok (fun _ => none) Text.lowercaseAscii (ssServer "pa>ss") := by
  have hlarge : ¬ ∀ s ∈ sextets (utf8 ("aes-256-gcm" ++ ":" ++ "pa>ss").toList),
      s.val < 62 := by decide +kernel
  rw [readsShadowsocks_iff (n := 8388) rfl rfl rfl (by decide +kernel) rfl (by decide +kernel)]
  rintro ⟨-, hread⟩
  rw [readUserInfo_undecoded (tryDecodeBase64_linkUserInfo_eq_none hlarge)] at hread
  exact absurd hread (by decide)

end ZeroVpn.XrayConfig
