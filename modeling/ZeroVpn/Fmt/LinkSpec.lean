import ZeroVpn.Fmt.FmtBase
import ZeroVpn.Util.HostSpec

/-!
# What a link keeps of a profile

The link of a VLESS or Trojan profile is read piece by piece: the address, the query and the name.
-/

namespace ZeroVpn

open FmtBase Utils Uri String Text List

/-! ## The text of a link -/

variable {c : Char}

namespace Link

/-- The characters of links. -/
def isLinkChar (c : Char) : Bool := Utils.isComponentChar c || "@:/?#=&[]".toList.contains c

theorem isLinkChar_of_isComponentChar (h : isComponentChar c = true) :
    isLinkChar c = true := by
  rw [isLinkChar, h, Bool.true_or]

theorem isLinkChar_of_isAddressChar (h : isAddressChar c = true) : isLinkChar c = true := by
  rw [isAddressChar, Bool.or_eq_true, contains_iff_mem] at h
  rcases h with h | h
  · simp only [isHostChar, Bool.or_eq_true, beq_iff_eq] at h
    rcases h with ((h | rfl) | rfl) | rfl
    · rw [isLinkChar, isComponentChar, URLEncoder.isSafe, h]
      rfl
    · decide
    · decide
    · decide
  · have hall : ":%[]".toList.all isLinkChar = true := by decide
    exact all_eq_true.mp hall c h

theorem isAddressChar_of_isDigit (h : c.isDigit = true) : isAddressChar c = true :=
  isAddressChar_of_isHostChar (isHostChar_of_isAlphanum (isAlphanum_of_isDigit h))

/-- Nothing in a link is illegal. -/
theorem fixIllegalUrl_of_isLinkChar {s : String} (h : ∀ c ∈ s.toList, isLinkChar c = true) :
    fixIllegalUrl s = s := by
  have hnot {c : Char} (hc : isLinkChar c = false) : c ∉ s.toList := by
    intro hmem
    rw [h c hmem] at hc
    cases hc
  rw [fixIllegalUrl, replaceChar_of_notMem (hnot (by decide)),
    replaceChar_of_notMem (hnot (by decide))]

variable (s : String) {fields : List (String × Option String)}

theorem fixIllegalUrl_append (t : String) :
    fixIllegalUrl (s ++ t) = fixIllegalUrl s ++ fixIllegalUrl t := by
  unfold fixIllegalUrl
  rw [replaceChar_append, replaceChar_append]

theorem fixIllegalUrl_encodeURIComponent :
    fixIllegalUrl (encodeURIComponent s) = encodeURIComponent s :=
  fixIllegalUrl_of_isLinkChar fun _ hc =>
    isLinkChar_of_isComponentChar (isComponentChar_of_mem hc)

theorem isUnreserved_of_isSafe (h : URLEncoder.isSafe c = true) :
    c ≠ '%' ∧ isUnreserved c = true := by
  simp only [URLEncoder.isSafe, Bool.or_eq_true, beq_iff_eq] at h
  rcases h with (((h | rfl) | rfl) | rfl) | rfl
  · refine ⟨?_, ?_⟩
    · rintro rfl
      cases h
    · rw [isUnreserved, h, Bool.true_or]
  · decide
  · decide
  · decide
  · decide

/-- A component is legal wherever the unreserved characters are. -/
theorem isLegal_encodeURIComponent (h : ∀ c, isUnreserved c = true → cls c = true) (s : String) :
    isLegal cls (encodeURIComponent s).toList = true := by
  rw [encodeURIComponent_toList]
  refine isLegal_encode (fun c hc => ?_) _
  obtain ⟨hne, hunreserved⟩ := isUnreserved_of_isSafe hc
  exact ⟨hne, h c hunreserved⟩

theorem isUric_of_isUnreserved (c : Char) (h : isUnreserved c = true) : isUric c = true := by
  rw [isUric, h, Bool.true_or]

theorem isUserInfoText_encodeURIComponent :
    Uri.IsUserInfoText (encodeURIComponent s).toList where
  legal := isLegal_encodeURIComponent (fun c h => by rw [isUserInfo, h, Bool.true_or]) s
  regName := isLegal_encodeURIComponent (fun c h => by rw [isRegName, h, Bool.true_or]) s
  noAt := notMem_encodeURIComponent (by decide)
  server := by
    intro c hc
    have hcomponent := isComponentChar_of_mem hc
    rw [isComponentChar, Bool.or_eq_true, beq_iff_eq] at hcomponent
    rcases hcomponent with h | rfl
    · rw [isServer, isUserInfo, (isUnreserved_of_isSafe h).2]
      rfl
    · decide

/-! ## The query -/

/-- A key that needs no escapes. -/
def IsKey (key : String) : Prop := ∀ c ∈ key.toList, c.isAlphanum = true

/-- A key that the encoder would leave alone; one of Hysteria2 has a hyphen. -/
def IsSafeKey (key : String) : Prop := ∀ c ∈ key.toList, URLEncoder.isSafe c = true

theorem IsKey.isSafeKey (h : IsKey key) : IsSafeKey key := by
  intro c hc
  rw [URLEncoder.isSafe, h c hc]
  rfl

/-- The text of a query. -/
def queryString (order : List (String × String)) : String :=
  "&".intercalate (order.map fun it => it.1 ++ "=" ++ Utils.encodeURIComponent it.2)

variable {order : List (String × String)} {scheme : List Char}
  {front password host port remarks : String}

theorem isComponentChar_of_isSafe (h : URLEncoder.isSafe c = true) :
    isComponentChar c = true := by
  rw [isComponentChar, h, Bool.true_or]

theorem notMem_part {e : String × String} (he : IsSafeKey e.1) (heq : c ≠ '=')
    (hvalue : isComponentChar c = false) :
    c ∉ (e.1 ++ "=" ++ encodeURIComponent e.2).toList := by
  rw [toList_append, toList_append, mem_append, mem_append]
  rintro ((h | h) | h)
  · rw [isComponentChar_of_isSafe (he c h)] at hvalue
    cases hvalue
  · exact heq (mem_singleton.mp h)
  · exact notMem_encodeURIComponent hvalue h

theorem readParam_part (he : IsSafeKey e.1) :
    readParam (e.1 ++ "=" ++ encodeURIComponent e.2) = .ok e := by
  have hkey : '=' ∉ e.1.toList := by
    intro h
    have := he '=' h
    revert this
    decide
  have hvalue : '=' ∉ (encodeURIComponent e.2).toList :=
    notMem_encodeURIComponent (by decide)
  have hsplit : Text.split '=' (e.1 ++ "=" ++ encodeURIComponent e.2) =
      [e.1, encodeURIComponent e.2] := by
    rw [split_append (by decide) hkey, split_of_notMem hvalue]
  rw [readParam, hsplit]
  dsimp only
  rw [decodeURIComponent_encodeURIComponent]

theorem split_queryString (hne : order ≠ []) (hkeys : ∀ e ∈ order, IsSafeKey e.1) :
    Text.split '&' (queryString order) =
      order.map fun it => it.1 ++ "=" ++ encodeURIComponent it.2 := by
  refine split_intercalate (by decide) (by simpa using hne) fun part hpart => ?_
  obtain ⟨e, he, rfl⟩ := mem_map.mp hpart
  exact notMem_part (hkeys e he) (by decide) (by decide)

/-- The parameters are read as they were written. -/
theorem getQueryParam_queryString (hne : order ≠ []) (hkeys : ∀ e ∈ order, IsSafeKey e.1) :
    getQueryParam (queryString order) = .ok order := by
  rw [getQueryParam, split_queryString hne hkeys, mapM_map]
  clear hne
  induction order with
  | nil => rfl
  | cons e order ih =>
    rw [mapM_cons, Function.comp_apply, readParam_part (hkeys e mem_cons_self),
      ih fun e' he' => hkeys e' (mem_cons_of_mem _ he')]
    rfl

theorem isLegal_queryString (hkeys : ∀ e ∈ order, IsSafeKey e.1) :
    isLegal isUric (queryString order).toList = true := by
  have hsep : "&".toList = ['&'] := by decide
  have heq : "=".toList = ['='] := by decide
  rw [queryString, toList_intercalate]
  refine isLegal_intercalate (by decide) (by decide) fun part hpart => ?_
  obtain ⟨text, htext, rfl⟩ := mem_map.mp hpart
  obtain ⟨e, he, rfl⟩ := mem_map.mp htext
  have hkey : isLegal isUric e.1.toList = true := by
    refine isLegal_of_forall fun c hc => ?_
    obtain ⟨hne, hunreserved⟩ := isUnreserved_of_isSafe (hkeys e he c hc)
    exact ⟨hne, isUric_of_isUnreserved c hunreserved⟩
  rw [toList_append, toList_append]
  exact isLegal_append
    (isLegal_append hkey (isLegal_singleton (by decide) (by decide)))
    (isLegal_encodeURIComponent isUric_of_isUnreserved _)

theorem isLinkChar_queryString (hkeys : ∀ e ∈ order, IsSafeKey e.1) :
    ∀ c ∈ (queryString order).toList, isLinkChar c = true ∧ c ≠ '#' := by
  have hcomponent {c : Char} (h : isComponentChar c = true) :
      isLinkChar c = true ∧ c ≠ '#' := by
    refine ⟨isLinkChar_of_isComponentChar h, ?_⟩
    rintro rfl
    cases h
  have hsep : "&".toList = ['&'] := by decide
  have heq : "=".toList = ['='] := by decide
  intro c hc
  rw [queryString, toList_intercalate] at hc
  rcases mem_of_mem_intercalate hc with rfl | ⟨part, hpart, hc⟩
  · decide
  · obtain ⟨text, htext, rfl⟩ := mem_map.mp hpart
    obtain ⟨e, he, rfl⟩ := mem_map.mp htext
    rw [toList_append, toList_append, heq, mem_append, mem_append,
      mem_singleton] at hc
    rcases hc with (hc | rfl) | hc
    · exact hcomponent (isComponentChar_of_isSafe (hkeys e he c hc))
    · decide
    · exact hcomponent (isComponentChar_of_mem hc)

/-- A parameter has the value of its entry, in whatever order the entries are written. -/
theorem param_of_perm (hperm : order.Perm (present fields)) (hnodup : (fields.map Prod.fst).Nodup)
    (key : String) :
    param order key = (fields.lookup key).join := by
  have hkeys : ((present fields).map Prod.fst).Nodup := (keys_present_sublist _).nodup hnodup
  rw [param, lookup_eq_of_perm ((reverse_perm order).trans hperm) hkeys,
    lookup_present hnodup]

theorem isSafeKey_of_perm (hperm : order.Perm (present fields))
    (hkeys : ∀ key ∈ fields.map Prod.fst, key.toList.all URLEncoder.isSafe = true) :
    ∀ e ∈ order, IsSafeKey e.1 := by
  intro e he
  have hmem := mem_present.mp (hperm.mem_iff.mp he)
  exact all_eq_true.mp (hkeys e.1 (mem_map_of_mem hmem))

/-! ## The address -/

/-- The authority of a link: the password, the host and the port. -/
def authority (password host port : String) : List Char :=
  Uri.authorityText (Utils.encodeURIComponent password).toList host.toList port.toList

/-- The text of a link after its scheme; not every format has a query. -/
def linkText (password host port remarks : String) (query : Option (List (String × String))) :
    String :=
  Utils.encodeURIComponent password ++ "@" ++ host ++ ":" ++ port ++ queryText query ++ "#" ++
    Utils.encodeURIComponent remarks

/-- The characters of a scheme. -/
def isSchemeChar (c : Char) : Bool := c.isAlphanum || c == '+' || c == '-' || c == '.'

theorem isSchemeChar_of_mem (h : isScheme scheme = true) :
    ∀ c ∈ scheme, isSchemeChar c = true := by
  cases scheme with
  | nil => cases h
  | cons c cs =>
    rw [isScheme, Bool.and_eq_true, all_eq_true] at h
    refine forall_mem_cons.mpr ⟨?_, h.2⟩
    rw [isSchemeChar, Char.isAlphanum, h.1]
    rfl

/-- The characters of the query of a link. -/
def queryChars (query : Option (List (String × String))) : Option (List Char) :=
  query.map fun order => (queryString order).toList

section address
variable {query : Option (List (String × String))}
  (hfront : front.toList = scheme ++ [':', '/', '/'])
include hfront

theorem linkText_eq_serverText : front ++ linkText password host port remarks query =
    ofList (serverText scheme (authority password host port) (queryChars query)
      (encodeURIComponent remarks).toList) := by
  have hmark : "?".toList = ['?'] := by decide
  have hhash : "#".toList = ['#'] := by decide
  have hat : "@".toList = ['@'] := by decide
  have hcolon : ":".toList = [':'] := by decide
  have hquery : (queryText query).toList = queryPart (queryChars query) := by
    cases query with
    | none => rfl
    | some order =>
      have htext : queryText (some order) = "?" ++ queryString order := rfl
      rw [htext, toList_append]
      rfl
  rw [← toList_inj, toList_ofList]
  simp only [linkText, authority, authorityText, serverText, hquery, toList_append,
    hfront, hhash, hat, hcolon, List.append_assoc, List.cons_append, List.nil_append]

omit hfront

/-- The characters of an authority, by the piece they are in. -/
theorem mem_authority (hhost : ∀ c ∈ host.toList, isAddressChar c = true)
    (hport : port.toList.all Char.isDigit = true) (hc : c ∈ authority password host port) :
    isComponentChar c = true ∨ c = '@' ∨ isAddressChar c = true := by
  rw [authority, authorityText, mem_append, mem_cons, mem_append,
    mem_cons] at hc
  rcases hc with hc | hc | hc | rfl | hc
  · exact .inl (isComponentChar_of_mem hc)
  · exact .inr (.inl hc)
  · exact .inr (.inr (hhost c hc))
  · exact .inr (.inr (by decide))
  · exact .inr (.inr (isAddressChar_of_isDigit (all_eq_true.mp hport c hc)))

variable (hscheme : Uri.isScheme scheme = true)
  (hhost : ∀ c ∈ host.toList, Uri.isAddressChar c = true)
  (hport : port.toList.all Char.isDigit = true)
  (hkeys : ∀ order, query = some order → ∀ e ∈ order, IsSafeKey e.1)
include hhost hport hkeys

theorem isLinkChar_linkText :
    ∀ c ∈ (linkText password host port remarks query).toList, isLinkChar c = true := by
  have hcomponent (s : String) : ∀ c ∈ (encodeURIComponent s).toList, isLinkChar c = true :=
    fun c hc => isLinkChar_of_isComponentChar (isComponentChar_of_mem hc)
  have hdigits : ∀ c ∈ port.toList, isLinkChar c = true := fun c hc =>
    isLinkChar_of_isAddressChar (isAddressChar_of_isDigit (all_eq_true.mp hport c hc))
  have hquery : ∀ c ∈ (queryText query).toList, isLinkChar c = true := by
    cases query with
    | none => exact fun c hc => absurd hc not_mem_nil
    | some order =>
      have htext : queryText (some order) = "?" ++ queryString order := rfl
      rw [htext, toList_append, forall_mem_append]
      exact ⟨by simp [isLinkChar], fun c hc => (isLinkChar_queryString (hkeys order rfl) c hc).1⟩
  rw [linkText]
  simp only [toList_append, forall_mem_append]
  exact ⟨⟨⟨⟨⟨⟨⟨hcomponent password, by simp [isLinkChar]⟩,
    fun c hc => isLinkChar_of_isAddressChar (hhost c hc)⟩, by simp [isLinkChar]⟩, hdigits⟩, hquery⟩,
    by simp [isLinkChar]⟩, hcomponent remarks⟩

include hfront hscheme

theorem fixIllegalUrl_linkText :
    fixIllegalUrl (front ++ linkText password host port remarks query) =
      front ++ linkText password host port remarks query := by
  have hnot {c : Char} (hc : isSchemeChar c = false) (hmark : c ∉ [':', '/', '/']) :
      c ∉ front.toList := by
    rw [hfront, mem_append, not_or]
    refine ⟨fun hmem => ?_, hmark⟩
    rw [isSchemeChar_of_mem hscheme c hmem] at hc
    cases hc
  have hscheme : fixIllegalUrl front = front := by
    rw [fixIllegalUrl, replaceChar_of_notMem (hnot (by decide) (by decide)),
      replaceChar_of_notMem (hnot (by decide) (by decide))]
  rw [fixIllegalUrl_append, hscheme,
    fixIllegalUrl_of_isLinkChar (isLinkChar_linkText hhost hport hkeys)]

/-- Reading a link is reading its authority; the query and the fragment are as they were written. -/
theorem parse_linkText (underscore : Bool) :
    parse underscore (front ++ linkText password host port remarks query) =
      (parseAuthority underscore (authority password host port)).map
        (ofServer scheme (queryChars query) (encodeURIComponent remarks).toList) := by
  have hchars : ∀ c ∈ authority password host port, c ≠ '/' ∧ c ≠ '?' ∧ c ≠ '#' := by
    intro c hc
    have hnot {d : Char} (hcomponent : isComponentChar d = false) (hat : d ≠ '@')
        (haddress : isAddressChar d = false) : c ≠ d := by
      rintro rfl
      rcases mem_authority hhost hport hc with h | h | h
      · rw [h] at hcomponent
        cases hcomponent
      · exact hat h
      · rw [h] at haddress
        cases haddress
    exact ⟨hnot (by decide) (by decide) (by decide), hnot (by decide) (by decide) (by decide),
      hnot (by decide) (by decide) (by decide)⟩
  rw [linkText_eq_serverText hfront]
  refine parse_serverText hscheme ?_ hchars ?_
    (isLegal_encodeURIComponent isUric_of_isUnreserved remarks)
  · intro hnil
    exact absurd hnil (by simp [authority, authorityText])
  · intro text htext
    obtain ⟨order, rfl, rfl⟩ := Option.map_eq_some_iff.mp htext
    have hsafe := hkeys order rfl
    exact ⟨isLegal_queryString hsafe, fun hmem => (isLinkChar_queryString hsafe '#' hmem).2 rfl⟩

end address

/-! ## Links that are read -/

/-- `java.net.URI` accepts the text as a host. -/
def AcceptsHost (host : String) : Prop :=
  Uri.parseHost true host.toList = some (host.toList, [])

instance (host : String) : Decidable (AcceptsHost host) := inferInstanceAs (Decidable (_ = _))

theorem AcceptsHost.isAddressChar {host : String} (h : AcceptsHost host) :
    ∀ c ∈ host.toList, isAddressChar c = true := by
  rcases cases_of_parseHost h with hplain | ⟨inside, heq, hinside⟩
  · exact fun c hc => isAddressChar_of_isHostChar (isHostChar_of_mem hplain c hc)
  · intro c hc
    rw [heq, cons_append, mem_cons, mem_append, mem_singleton] at hc
    rcases hc with rfl | hc | rfl
    · decide
    · exact (isAddressChar_of_reference hinside c hc).1
    · decide

/-- The host of the link of a server. -/
def hostOf (server : String) : String := Utils.getIpv6Address (some server)

/-- An IPv6 address is in brackets, or the address utilities know it. -/
def KnownHost (server : String) : Prop :=
  ':' ∈ server.toList → '[' ∈ server.toList ∨ Utils.isIpv6Address server = true

instance (server : String) : Decidable (KnownHost server) := inferInstanceAs (Decidable (_ → _))

/-- What the readers make of a host. -/
def stripBrackets (host : String) : String :=
  Text.replaceChar ']' "" (Text.replaceChar '[' "" host)

/-- The URI of a link. -/
def uriOf (scheme : List Char) (password host remarks : String) (n : Int)
    (query : Option (List (String × String))) : Uri :=
  Uri.ofServer scheme (queryChars query) (Utils.encodeURIComponent remarks).toList
    (some ⟨some (Utils.encodeURIComponent password).toList, host.toList, n⟩)

/-- What the readers take from the URI of a link; `host` is the one written in it. -/
structure Pieces (uri : Uri) (password host : String) (n : Int)
    (query : Option (List (String × String))) : Prop where
  userInfo : uri.userInfo = some password
  idnHost : uri.idnHost = stripBrackets host
  port : uri.port = n
  rawQuery : uri.rawQuery = query.map queryString

theorem pieces_uriOf (scheme : List Char) (password host remarks : String) (n : Int)
    (query : Option (List (String × String))) :
    Pieces (uriOf scheme password host remarks n query) password host n query where
  userInfo := by
    rw [Uri.userInfo, uriOf, ofServer]
    simp only [Option.bind_some, Option.map_some, ofList_toList,
      uriDecode_encodeURIComponent]
  idnHost := by
    rw [Uri.idnHost, uriOf, ofServer]
    simp only [Option.map_some, ofList_toList, orEmpty, Option.getD_some,
      stripBrackets]
  port := rfl
  rawQuery := by
    rw [uriOf, ofServer, queryChars, Option.map_map]
    refine congrArg (fun f => query.map f) (funext fun order => ?_)
    exact ofList_toList

/-- The link of an accepted host is read as it was written. -/
theorem readUri_linkText {front password host port remarks : String}
    (hfront : front.toList = scheme ++ [':', '/', '/']) (hscheme : isScheme scheme = true)
    (hhost : AcceptsHost host) (hport : port.toList.all Char.isDigit = true)
    (hn : digitsToNat port.toList = some n) (hmax : n ≤ 2147483647)
    (hkeys : ∀ order, query = some order → ∀ e ∈ order, IsSafeKey e.1) :
    readUri (front ++ linkText password host port remarks query) =
      .ok (uriOf scheme password host remarks n query) := by
  have hauthority : parseAuthority true (authority password host port) =
      some (some ⟨some (encodeURIComponent password).toList, host.toList, n⟩) :=
    parseAuthority_of_parseHost (isUserInfoText_encodeURIComponent password) hport hn hmax hhost
  rw [readUri, fixIllegalUrl_linkText hfront hscheme hhost.isAddressChar hport hkeys,
    parse_linkText hfront hscheme hhost.isAddressChar hport hkeys, hauthority]
  rfl

section host
variable {server : String}

/-- The brackets that the writer adds are those the readers drop. -/
theorem stripBrackets_hostOf (server : String) :
    stripBrackets (hostOf server) = stripBrackets server := by
  rw [hostOf, getIpv6Address]
  split
  · rw [stripBrackets, replaceChar_append, replaceChar_append, replaceChar_append,
      replaceChar_append]
    exact append_empty.trans empty_append
  · rfl

theorem hostOf_ipv6 (h : isIpv6Address server = true) (hopen : '[' ∉ server.toList)
    (hclose : ']' ∉ server.toList) : hostOf server = "[" ++ server ++ "]" := by
  rw [hostOf, getIpv6Address]
  simp [h, containsChar, hopen, hclose]

theorem hostOf_of_bracket (h : '[' ∈ server.toList) : hostOf server = server := by
  rw [hostOf, getIpv6Address]
  simp [containsChar, h]

theorem isAddressChar_hostOf (h : Uri.IsHost server) :
    ∀ c ∈ (hostOf server).toList, isAddressChar c = true := by
  intro c hc
  rw [hostOf, getIpv6Address] at hc
  split at hc
  · rw [toList_append, toList_append, mem_append, mem_append] at hc
    rcases hc with (hc | hc) | hc
    · rw [mem_singleton.mp hc]
      decide
    · exact h.isAddressChar c hc
    · rw [mem_singleton.mp hc]
      decide
  · exact h.isAddressChar c hc

theorem strip_of_notMem (hopen : '[' ∉ server.toList) (hclose : ']' ∉ server.toList) :
    stripBrackets server = server := by
  rw [stripBrackets, replaceChar_of_notMem hopen, replaceChar_of_notMem hclose]

/-- An accepted host is not empty, with its brackets or without. -/
theorem stripBrackets_ne_empty (h : AcceptsHost server) : stripBrackets server ≠ "" := by
  rcases Uri.cases_of_parseHost h with hplain | ⟨inside, heq, hinside⟩
  · rw [strip_of_notMem (Uri.notMem_plainHost hplain (by decide))
      (Uri.notMem_plainHost hplain (by decide))]
    rintro rfl
    exact absurd hplain (by decide)
  · -- the colon of the address stays
    have hcolon : ':' ∈ server.toList := by
      rw [heq]
      exact List.mem_append_left _ (List.mem_cons_of_mem _ (Uri.colon_mem_of_reference hinside))
    have hkept : ':' ∈ (stripBrackets server).toList :=
      mem_replaceChar (mem_replaceChar hcolon (by decide)) (by decide)
    intro hempty
    rw [hempty] at hkept
    exact absurd hkept (by decide)

/-- `java.net.URI` accepts the host that the writer makes of a known server. -/
theorem acceptsHost_hostOf (h : Uri.IsHost server) (hknown : KnownHost server) :
    AcceptsHost (hostOf server) := by
  have haccepts {inside : String} (hinside : isIPv6Reference inside.toList = true) :
      AcceptsHost ("[" ++ inside ++ "]") := by
    have htext : ("[" ++ inside ++ "]").toList = '[' :: (inside.toList ++ [']']) := by
      rw [toList_append, toList_append]
      rfl
    rw [AcceptsHost, htext]
    exact parseHost_bracket hinside
      (fun hmem => (isAddressChar_of_reference hinside ']' hmem).2.2 rfl) []
  cases h with
  | plain h =>
    rw [hostOf, getIpv6Address_plainHost h]
    exact parseHost_self h (notMem_plainHost h (by decide)) (notMem_plainHost h (by decide))
  | ipv6 h =>
    have hchars := isAddressChar_of_reference h
    have hopen : '[' ∉ server.toList := fun hmem => (hchars '[' hmem).2.1 rfl
    have hclose : ']' ∉ server.toList := fun hmem => (hchars ']' hmem).2.2 rfl
    have hipv6 : isIpv6Address server = true :=
      (hknown (colon_mem_of_reference h)).resolve_left hopen
    rw [hostOf_ipv6 hipv6 hopen hclose]
    exact haccepts h
  | bracketed inside heq h =>
    have hbracket : '[' ∈ server.toList := by
      rw [heq, toList_append]
      simp
    rw [hostOf_of_bracket hbracket, heq]
    exact haccepts h

end host
end Link
end ZeroVpn
