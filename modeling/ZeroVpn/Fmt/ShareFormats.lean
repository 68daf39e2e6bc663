import ZeroVpn.Fmt.FmtBase

/-!
# The other link formats

`ShadowsocksFmt`, `SocksFmt`, `WireguardFmt` and `Hysteria2Fmt`. The credentials of Shadowsocks and
SOCKS links are Base64; the decoder of Android skips characters outside the alphabet, and its regular
expressions have the digits and the line terminators of Unicode.
-/

namespace ZeroVpn

open List

variable {c : Char}

namespace Text

/-- `replace(sub, "")`; the first `skip` characters belong to an occurrence. -/
def removeAllAux (sub : List Char) : Nat → List Char → List Char
  | _, [] => []
  | skip + 1, _ :: cs => removeAllAux sub skip cs
  | 0, c :: cs =>
    if sub.isPrefixOf (c :: cs) then removeAllAux sub (sub.length - 1) cs
    else c :: removeAllAux sub 0 cs

def removeAll (sub s : String) : String := String.ofList (removeAllAux sub.toList 0 s.toList)

variable {sub : List Char}

/-- A mark that is not part of the text to remove separates the texts around it. -/
theorem removeAllAux_append_cons (hmark : mark ∉ sub) (hsub : sub ≠ []) {a : List Char}
    (hskip : skip ≤ a.length) (b : List Char) :
    removeAllAux sub skip (a ++ mark :: b) =
      removeAllAux sub skip a ++ mark :: removeAllAux sub 0 b := by
  have hstart (cs : List Char) :
      sub.isPrefixOf (cs ++ mark :: b) = true ↔ sub.isPrefixOf cs = true := by
    rw [List.isPrefixOf_iff_prefix, List.isPrefixOf_iff_prefix]
    constructor
    · intro h
      by_cases hlen : sub.length ≤ cs.length
      · exact prefix_of_prefix_length_le h (prefix_append ..) hlen
      · -- the mark would be in the text to remove
        have hfront : cs ++ [mark] <+: cs ++ mark :: b :=
          ⟨b, by rw [append_assoc, singleton_append]⟩
        have hcs : cs ++ [mark] <+: sub := by
          refine prefix_of_prefix_length_le hfront h ?_
          rw [length_append, length_singleton]
          omega
        exact absurd (hcs.subset (mem_append_right _ mem_cons_self)) hmark
    · exact fun h => h.trans (prefix_append ..)
  induction a generalizing skip with
  | nil =>
    obtain rfl : skip = 0 := Nat.le_zero.mp hskip
    have hnot : ¬sub.isPrefixOf (mark :: b) = true := by
      intro h
      have := (hstart []).mp h
      rw [List.isPrefixOf_iff_prefix, prefix_nil] at this
      exact hsub this
    have hnil : removeAllAux sub 0 [] = [] := rfl
    rw [nil_append, hnil, removeAllAux, if_neg hnot]
    rfl
  | cons c a ih =>
    cases skip with
    | succ skip =>
      exact ih (Nat.le_of_succ_le_succ hskip)
    | zero =>
      have hiff := hstart (c :: a)
      rw [cons_append] at hiff
      rw [cons_append, removeAllAux, removeAllAux]
      by_cases h : sub.isPrefixOf (c :: a) = true
      · have hlen := (List.isPrefixOf_iff_prefix.mp h).length_le
        rw [length_cons] at hlen
        rw [if_pos h, if_pos (hiff.mpr h)]
        exact ih (by omega)
      · rw [if_neg h, if_neg (mt hiff.mp h), ih (Nat.zero_le _)]
        rfl

/-- A text that lacks a character of `sub` keeps everything. -/
theorem removeAllAux_of_notMem (hc : c ∈ sub) (h : c ∉ cs) :
    removeAllAux sub 0 cs = cs := by
  induction cs with
  | nil => rfl
  | cons d cs ih =>
    have hnot : ¬sub.isPrefixOf (d :: cs) = true := fun hpre =>
      h ((List.isPrefixOf_iff_prefix.mp hpre).subset hc)
    rw [removeAllAux, if_neg hnot, ih fun hmem => h (mem_cons_of_mem _ hmem)]

theorem mem_of_mem_removeAllAux (h : c ∈ removeAllAux sub skip cs) :
    c ∈ cs := by
  fun_induction removeAllAux sub skip cs with
  | case1 => exact h
  | case2 skip d cs ih => exact mem_cons_of_mem _ (ih h)
  | case3 d cs hpre ih => exact mem_cons_of_mem _ (ih h)
  | case4 d cs hpre ih =>
    rcases mem_cons.mp h with rfl | h
    · exact mem_cons_self
    · exact mem_cons_of_mem _ (ih h)

theorem removeAllAux_append_length (sub xs cs : List Char) :
    removeAllAux sub xs.length (xs ++ cs) = removeAllAux sub 0 cs := by
  induction xs with
  | nil => rfl
  | cons x xs ih =>
    exact ih

/-- The occurrence at the front is removed. -/
theorem removeAllAux_append_self (hsub : sub ≠ []) (cs : List Char) :
    removeAllAux sub 0 (sub ++ cs) = removeAllAux sub 0 cs := by
  cases sub with
  | nil => exact absurd rfl hsub
  | cons d ds =>
    have hfront : (d :: ds).isPrefixOf (d :: (ds ++ cs)) = true :=
      isPrefixOf_iff_prefix.mpr (prefix_append (d :: ds) cs)
    rw [cons_append, removeAllAux, if_pos hfront]
    exact removeAllAux_append_length (d :: ds) ds cs

/-- The only occurrence is the one at the front. -/
theorem removeAll_append_self {sub s : String} (hc : c ∈ sub.toList) (h : c ∉ s.toList) :
    removeAll sub (sub ++ s) = s := by
  rw [removeAll, String.toList_append, removeAllAux_append_self (ne_nil_of_mem hc),
    removeAllAux_of_notMem hc h, String.ofList_toList]

/-- `removeSurrounding` with brackets. -/
def removeBrackets (s : String) : String :=
  if 2 ≤ s.toList.length ∧ startsWith s "[" = true ∧ endsWith s "]" = true then
    String.ofList s.toList.tail.dropLast
  else s

/-- The extension `removeWhiteSpace`. -/
def removeWhiteSpace (s : String) : String := replaceChar ' ' "" s

end Text

namespace Utils

def tryDecodeBase64 (text : Option String) : Option String :=
  match text with
  | none => none
  | some text =>
    if text = "" then none
    else ((Base64.decodeLenient false text.toList).or (Base64.decodeLenient true text.toList)).map
      fun bytes => String.ofList (ofUtf8 bytes)

def decode (text : Option String) : String :=
  match tryDecodeBase64 text with
  | some decoded => decoded
  | none =>
    Text.orEmpty (text.bind fun text =>
      tryDecodeBase64 (some (String.ofList (text.toList.rdropWhile (· == '=')))))

theorem encode_toList_padded (text : String) :
    (encode text false).toList = Base64.encode false (utf8 text.toList) := by
  rw [encode, if_neg Bool.false_ne_true, String.toList_ofList]

theorem encode_ne_empty (h : text ≠ "") (removePadding : Bool) :
    encode text removePadding ≠ "" := by
  intro hempty
  have hbody : Base64.body false (utf8 text.toList) = [] := by
    cases removePadding with
    | true => rw [← encode_toList, hempty, String.toList_empty]
    | false =>
      have hpadded := encode_toList_padded text
      rw [hempty] at hpadded
      exact (append_eq_nil_iff.mp hpadded.symm).1
  have hbytes : utf8 text.toList = [] := by
    rw [← Base64.bytes_sextets (utf8 text.toList), map_eq_nil_iff.mp hbody]
    rfl
  have hchars := ofUtf8_utf8 text.toList
  rw [hbytes] at hchars
  exact h (String.toList_inj.mp hchars.symm)

/-- What was encoded is decoded again. -/
theorem decode_encode (h : text ≠ "") (removePadding : Bool) :
    decode (some (encode text removePadding)) = text := by
  have hlenient : Base64.decodeLenient false (encode text removePadding).toList =
      some (utf8 text.toList) := by
    cases removePadding with
    | true => rw [encode_toList, Base64.decodeLenient_body]
    | false => rw [encode_toList_padded, Base64.decodeLenient_encode]
  have htry : tryDecodeBase64 (some (encode text removePadding)) = some text := by
    rw [tryDecodeBase64, if_neg (encode_ne_empty h removePadding), hlenient, Option.some_or,
      Option.map_some, ofUtf8_utf8, String.ofList_toList]
  rw [decode, htry]

theorem notMem_encode (hpad : c ≠ '=') (hchar : ∀ n : Fin 64, Base64.char false n ≠ c)
    (text : String) (removePadding : Bool) : c ∉ (encode text removePadding).toList := by
  have hbody : c ∉ Base64.body false (utf8 text.toList) := by
    intro hmem
    obtain ⟨n, -, hn⟩ := mem_map.mp hmem
    exact hchar n hn
  cases removePadding with
  | true =>
    rw [encode_toList]
    exact hbody
  | false =>
    rw [encode_toList_padded, Base64.encode, mem_append, not_or]
    exact ⟨hbody, fun hmem => hpad (eq_of_mem_replicate hmem)⟩

end Utils

namespace FmtBase

theorem credentials_ne_empty (name password : String) : name ++ ":" ++ password ≠ "" := by
  intro hempty
  have hlist := congrArg String.toList hempty
  simp at hlist

/-- The two parts of credentials, which are Base64 unless they have a colon. -/
def readCredentials (userInfo : String) : String × Option String :=
  Text.splitFirst ':'
    (if Text.containsChar userInfo ':' then userInfo else Utils.decode (some userInfo))

/-- What the readers take from a link with an address; `password` is left to them. -/
def readAddress (config : ProfileItem) (uri : Uri) : ProfileItem :=
  { config with
    remarks := Text.ifEmpty (Utils.decodeURIComponent (Text.orEmpty uri.fragment)) "none"
    server := some uri.idnHost
    serverPort := some (toString uri.port) }

end FmtBase

open FmtBase Text

namespace ShadowsocksFmt

/-- The pairs of a plugin's options. -/
def queryPairs (plugin : String) : List (String × String) :=
  (split ';' plugin).filterMap fun pair =>
    match split '=' pair with
    | [k, v] => some (k, v)
    | _ => none

/-- The options of a plugin for HTTP obfuscation. -/
def readPlugin (config : ProfileItem) (queryParam : List (String × String)) : ProfileItem :=
  match param queryParam "plugin" with
  | none => config
  | some plugin =>
    if contains plugin "obfs=http" then
      { config with
        network := some NetworkType.tcp.type
        headerType := some "http"
        host := param (queryPairs plugin) "obfs-host"
        path := param (queryPairs plugin) "path" }
    else config

def parseSip002 (str : String) : Except String (Option ProfileItem) := do
  let uri ← readUri str
  if uri.idnHost = "" then return none
  else if uri.port ≤ 0 then return none
  else
    match uri.userInfo with
    | none => return none
    | some userInfo =>
      if userInfo = "" then return none
      else
        let config := readAddress (.create .shadowsocks) uri
        let config := match readCredentials userInfo with
          | (method, some password) =>
            { config with method := some method, password := some password }
          | _ => config
        if isNullOrEmpty uri.rawQuery then return some config
        else
          let queryParam ← getQueryParam (orEmpty uri.rawQuery)
          return some (readPlugin config queryParam)

def isLineTerminator (c : Char) : Bool :=
  "\n\u000B\u000C\r\u0085\u2028\u2029".toList.contains c

/-- The places of a character. -/
def places (c : Char) (cs : List Char) : List Nat :=
  (range cs.length).filter fun i => cs[i]? == some c

/-- The group `\d+?` in front of an optional slash and the end. -/
def portGroup (cs : List Char) : Option (List Char) :=
  let digits := if cs.getLast? = some '/' then cs.dropLast else cs
  if digits ≠ [] && digits.all fun c => (digitOf c).isSome then some digits else none

/-- The groups of `^(.+?):(.*)@(.+?):(\d+?)/?$`: the method and the host as short, the password as
long as possible. -/
def matchLegacy (cs : List Char) : Option (List Char × List Char × List Char × List Char) :=
  (places ':' cs).findSome? fun i =>
    let method := cs.take i
    let rest := cs.drop (i + 1)
    if method = [] || method.any isLineTerminator then none
    else (places '@' rest).reverse.findSome? fun j =>
      let password := rest.take j
      let server := rest.drop (j + 1)
      if password.any isLineTerminator then none
      else (places ':' server).findSome? fun l =>
        let host := server.take l
        if host = [] || host.any isLineTerminator then none
        else (portGroup (server.drop (l + 1))).map fun port => (method, password, host, port)

section
-- `String.lowercase`
variable (lowercase : String → String)

/-- The name of a legacy link, and the text in front of it. -/
def splitRemarks (text : String) : String × Option String :=
  match splitFirst '#' text with
  | (main, some fragment) => if main = "" then (text, none) else (main, some fragment)
  | _ => (text, none)

/-- The credentials and the address of a legacy link. -/
def decodeLegacy (text : String) : String :=
  match splitFirst '@' text with
  | (userInfo, some server) =>
    if userInfo = "" then Utils.decode (some text)
    else Utils.decode (some userInfo) ++ "@" ++ server
  | _ => Utils.decode (some text)

def parseLegacy (str : String) : Option ProfileItem :=
  let (text, fragment) := splitRemarks (removeAll AppConfig.shadowsocks str)
  let config : ProfileItem := { ProfileItem.create .shadowsocks with
    remarks := (fragment.map Utils.decodeURIComponent).getD "" }
  (matchLegacy (decodeLegacy text).toList).map fun (method, password, host, port) =>
    { config with
      server := some (removeBrackets (String.ofList host))
      serverPort := some (String.ofList port)
      password := some (String.ofList password)
      method := some (lowercase (String.ofList method)) }

def parse (str : String) : Except String (Option ProfileItem) := do
  match ← parseSip002 str with
  | some config => return some config
  | none => return parseLegacy lowercase str

end
end ShadowsocksFmt

namespace SocksFmt

def parse (str : String) : Except String (Option ProfileItem) := do
  let uri ← readUri str
  if uri.idnHost = "" then return none
  else if uri.port ≤ 0 then return none
  else
    let config := readAddress (.create .socks) uri
    match uri.userInfo with
    | none => return some config
    | some userInfo =>
      if userInfo = "" then return some config
      else
        match readCredentials userInfo with
        | (username, some password) =>
          return some { config with username := some username, password := some password }
        | _ => return some config

/-- A null password is printed as `null`. -/
def toUri (toASCII : String → Except String String) (config : ProfileItem) :
    Except String String :=
  let pw :=
    if isNullOrBlank config.username then ":"
    else orEmpty config.username ++ ":" ++ config.password.getD "null"
  FmtBase.toUri toASCII config (some (Utils.encode pw true)) none

end SocksFmt

namespace WireguardFmt

/-- What the reader makes of an address and the parameters of a query. -/
def readQuery (uri : Uri) (queryParam : List (String × String)) : ProfileItem :=
  { readAddress (.create .wireguard) uri with
    secretKey := some (orEmpty uri.userInfo)
    localAddress := some ((param queryParam "address").getD AppConfig.wireguardLocalAddressV4)
    publicKey := some (orEmpty (param queryParam "publickey"))
    preSharedKey := nullIfBlank (param queryParam "presharedkey")
    mtu := some (Utils.parseInt (some ((param queryParam "mtu").getD AppConfig.wireguardLocalMtu)) 0)
    reserved := some ((param queryParam "reserved").getD "0,0,0") }

def parse (str : String) : Except String (Option ProfileItem) := do
  let uri ← readUri str
  if isNullOrEmpty uri.rawQuery then return none
  else
    let queryParam ← getQueryParam (orEmpty uri.rawQuery)
    return some (readQuery uri queryParam)

/-- The entries of the query; an absent value is not written. -/
def queryFields (config : ProfileItem) : List (String × Option String) :=
  [("publickey", some (orEmpty config.publicKey)),
    ("reserved", config.reserved.map removeWhiteSpace),
    ("address", some (orEmpty (config.localAddress.map removeWhiteSpace))),
    ("mtu", config.mtu.map toString),
    ("presharedkey", config.preSharedKey.map removeWhiteSpace)]

def dicQuery (config : ProfileItem) : List (String × String) := present (queryFields config)

/-- `order` is the order in which the hash map of `dicQuery` is walked. -/
def toUri (toASCII : String → Except String String) (config : ProfileItem)
    (order : List (String × String)) : Except String String :=
  FmtBase.toUri toASCII config config.secretKey (some order)

end WireguardFmt

namespace Hysteria2Fmt

/-- What the reader makes of a link without a query. -/
def readLink (uri : Uri) : ProfileItem :=
  { readServer (.create .hysteria2) uri with
    security := some AppConfig.tls
    network := some NetworkType.hysteria.type }

def readQuery (uri : Uri) (queryParam : List (String × String)) : ProfileItem :=
  { getItemFormQuery (readLink uri) queryParam with
    security := some ((param queryParam "security").getD AppConfig.tls)
    obfsPassword := param queryParam "obfs-password"
    portHopping := param queryParam "mport"
    pinnedCA256 := param queryParam "pinSHA256" }

def parse (str : String) : Except String ProfileItem := do
  let uri ← readUri str
  if isNullOrEmpty uri.rawQuery then return readLink uri
  else
    let queryParam ← getQueryParam (orEmpty uri.rawQuery)
    return readQuery uri queryParam

/-- The entries of the query; an absent value is not written. -/
def queryFields (config : ProfileItem) : List (String × Option String) :=
  let obfsPassword := nullIfBlank config.obfsPassword
  [("security", config.security),
    ("sni", nullIfBlank config.sni),
    ("alpn", nullIfBlank config.alpn),
    ("insecure", some (if config.insecure = some true then "1" else "0")),
    ("obfs", obfsPassword.map fun _ => "salamander"),
    ("obfs-password", obfsPassword),
    ("mport", nullIfBlank config.portHopping),
    ("pinSHA256", nullIfBlank config.pinnedCA256)]

def dicQuery (config : ProfileItem) : List (String × String) := present (queryFields config)

/-- `order` is the order in which the hash map of `dicQuery` is walked. -/
def toUri (toASCII : String → Except String String) (config : ProfileItem)
    (order : List (String × String)) : Except String String :=
  FmtBase.toUri toASCII config config.password (some order)

end Hysteria2Fmt
end ZeroVpn
