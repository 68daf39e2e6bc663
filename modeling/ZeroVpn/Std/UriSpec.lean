import ZeroVpn.Std.Uri

/-!
# Reading a URI piece by piece

A text that is written as scheme, authority, query and fragment is read as these pieces. The
characters of each piece are those its grammar allows, so that no piece ends another.
-/

namespace ZeroVpn.Uri

open List

/-! ## Legal texts -/

variable {xs cs : List Char} {c : Char}

section legal
variable {cls : Char → Bool}

/-- A legal start of a text is skipped. -/
theorem scan_append (h : isLegal cls xs = true) (ys : List Char) :
    scan cls (xs ++ ys) = scan cls ys := by
  rw [isLegal] at h
  induction xs using scan.induct cls with
  | case1 => rfl
  | case2 a b cs hhex ih =>
    rw [scan, if_pos hhex] at h
    rw [cons_append, cons_append, cons_append, scan, if_pos hhex, ih h]
  | case3 a b cs hhex =>
    rw [scan, if_neg hhex] at h
    cases h
  | case4 cs hshort =>
    rw [scan] at h
    · cases h
    · exact hshort
  | case5 c cs hshort hc hcls ih =>
    rw [scan, if_neg hc, if_pos hcls] at h
    · rw [cons_append, scan, if_neg hc, if_pos hcls, ih h]
      exact fun _ _ _ heq => absurd heq hc
    · exact hshort
  | case6 c cs hshort hc hcls =>
    rw [scan, if_neg hc, if_neg hcls] at h
    · cases h
    · exact hshort

theorem isLegal_append (hx : isLegal cls xs = true) (hy : isLegal cls ys = true) :
    isLegal cls (xs ++ ys) = true := by
  rw [isLegal, scan_append hx]
  exact hy

theorem isLegal_singleton (hc : c ≠ '%') (hcls : cls c = true) : isLegal cls [c] = true := by
  rw [isLegal, scan, if_neg hc, hcls, Bool.true_or]
  · rfl
  · exact fun _ _ _ heq => absurd heq hc

theorem isLegal_of_forall (h : ∀ c ∈ xs, c ≠ '%' ∧ cls c = true) : isLegal cls xs = true := by
  induction xs with
  | nil => rfl
  | cons c cs ih =>
    obtain ⟨hc, hcls⟩ := h c mem_cons_self
    exact isLegal_append (isLegal_singleton hc hcls) (ih fun d hd => h d (mem_cons_of_mem _ hd))

theorem isLegal_flatMap {α : Type} {f : α → List Char} {l : List α}
    (h : ∀ a ∈ l, isLegal cls (f a) = true) : isLegal cls (l.flatMap f) = true := by
  induction l with
  | nil => rfl
  | cons a l ih =>
    exact isLegal_append (h a mem_cons_self) (ih fun b hb => h b (mem_cons_of_mem _ hb))

theorem isLegal_intercalate (hne : sep ≠ '%') (hsep : cls sep = true)
    (h : ∀ part ∈ parts, isLegal cls part = true) :
    isLegal cls ([sep].intercalate parts) = true := by
  induction parts with
  | nil => rfl
  | cons part parts ih =>
    have hpart := h part mem_cons_self
    cases parts with
    | nil =>
      rw [intercalate_singleton]
      exact hpart
    | cons next parts =>
      rw [intercalate_cons_cons]
      exact isLegal_append (isLegal_append hpart (isLegal_singleton hne hsep))
        (ih fun p hp => h p (mem_cons_of_mem _ hp))

theorem isHex_hexDigit (n : Fin 16) : isHex (Percent.hexDigit n) = true := by
  rw [isHex, Percent.hexValue?_hexDigit]
  rfl

theorem isLegal_escape (b : UInt8) : isLegal cls (Percent.escape b) = true := by
  rw [Percent.escape, isLegal, scan, isHex_hexDigit, isHex_hexDigit]
  rfl

/-- An encoded text is legal where its safe characters are. -/
theorem isLegal_encode (h : ∀ c, safe c = true → c ≠ '%' ∧ cls c = true) (cs : List Char) :
    isLegal cls (Percent.encode safe cs) = true := by
  refine isLegal_flatMap fun c _ => ?_
  split
  · next hsafe => exact isLegal_singleton (h c hsafe).1 (h c hsafe).2
  · exact isLegal_flatMap fun b _ => isLegal_escape b

/-- A character outside the class is nowhere in a legal text. -/
theorem notMem_of_isLegal (hcls : cls c = false) (hother : isOther c = false)
    (hhex : isHex c = false) (hpercent : c ≠ '%') (h : isLegal cls cs = true) : c ∉ cs := by
  rw [isLegal] at h
  fun_induction scan cls cs with
  | case1 => exact not_mem_nil
  | case2 d l cs hescape ih =>
    rw [Bool.and_eq_true] at hescape
    have hne {x : Char} (hx : isHex x = true) : c ≠ x := by
      rintro rfl
      rw [hx] at hhex
      cases hhex
    simp [hpercent, hne hescape.1, hne hescape.2, ih h]
  | case3 => cases h
  | case4 => cases h
  | case5 d cs hescape hd hlegal ih =>
    have hne : c ≠ d := by
      rintro rfl
      rw [hcls, hother] at hlegal
      cases hlegal
    simp [hne, ih h]
  | case6 => cases h

end legal

/-! ## Hosts -/

/-- The characters of host names and IPv4 addresses. -/
def isHostChar (c : Char) : Bool := c.isAlphanum || c == '-' || c == '.' || c == '_'

theorem isHostChar_of_isAlphanum (h : c.isAlphanum = true) : isHostChar c = true := by
  rw [isHostChar, h, Bool.true_or, Bool.true_or, Bool.true_or]

theorem isAlphanum_of_isDigit (h : c.isDigit = true) : c.isAlphanum = true := by
  rw [Char.isAlphanum, h, Bool.or_true]

theorem isHostChar_of_mem_label (h : isLabel underscore label = true) (hc : c ∈ label) :
    isHostChar c = true := by
  cases label with
  | nil => cases hc
  | cons d ds =>
    rw [isLabel, Bool.and_eq_true, Bool.and_eq_true, all_eq_true] at h
    obtain ⟨⟨hfirst, hrest⟩, -⟩ := h
    rcases mem_cons.mp hc with rfl | hc
    · exact isHostChar_of_isAlphanum hfirst
    · have hd := hrest c hc
      simp only [isHostChar, Bool.or_eq_true]
      grind

theorem isHostChar_of_mem_hostname {host : List Char} (h : isHostname underscore host = true)
    (hc : c ∈ host) : isHostChar c = true := by
  unfold isHostname at h
  rw [Bool.and_eq_true, all_eq_true] at h
  obtain ⟨hlabels, -⟩ := h
  have hlabel {cs : List Char} (hcs : ∀ label ∈ cs.splitOn '.', isLabel underscore label = true)
      (hc : c ∈ cs) : isHostChar c = true := by
    rcases mem_splitOn_of_mem '.' hc with rfl | ⟨label, hlabel, hc⟩
    · decide
    · exact isHostChar_of_mem_label (hcs label hlabel) hc
  split at hlabels
  · next hdot =>
    -- the dot at the end belongs to no label
    obtain ⟨init, rfl⟩ := getLast?_eq_some_iff.mp hdot
    rw [dropLast_concat] at hlabels
    rcases mem_append.mp hc with hc | hc
    · exact hlabel hlabels hc
    · rw [mem_singleton.mp hc]
      decide
  · exact hlabel hlabels hc

theorem isHostChar_of_mem_ipv4 {host : List Char} (h : isIPv4 host = true) (hc : c ∈ host) :
    isHostChar c = true := by
  unfold isIPv4 at h
  rw [Bool.and_eq_true, all_eq_true] at h
  rcases mem_splitOn_of_mem '.' hc with rfl | ⟨part, hpart, hc⟩
  · decide
  · have hdigits := h.2 part hpart
    rw [Bool.and_eq_true, all_eq_true] at hdigits
    exact isHostChar_of_isAlphanum (isAlphanum_of_isDigit (hdigits.1 c hc))

theorem isHostChar_of_mem {host : List Char} (h : isPlainHost underscore host = true) :
    ∀ c ∈ host, isHostChar c = true := by
  intro c hc
  rw [isPlainHost, Bool.or_eq_true] at h
  rcases h with h | h
  · exact isHostChar_of_mem_ipv4 h hc
  · exact isHostChar_of_mem_hostname h hc

theorem notMem_plainHost {host : List Char} (h : isPlainHost underscore host = true)
    (hc : isHostChar c = false) : c ∉ host := by
  intro hmem
  rw [isHostChar_of_mem h c hmem] at hc
  cases hc

/-- ASCII letters and digits have small code points. -/
theorem toNat_lt_of_isAlphanum (h : c.isAlphanum = true) : c.toNat < 128 := by
  delta Char.isAlphanum Char.isAlpha Char.isUpper Char.isLower Char.isDigit at h
  simp only [Bool.or_eq_true, Bool.and_eq_true, decide_eq_true_eq, ge_iff_le,
    UInt32.le_iff_toNat_le] at h
  have hval : c.val.toNat = c.toNat := rfl
  have hZ : 'Z'.val.toNat = 90 := rfl
  have hz : 'z'.val.toNat = 122 := rfl
  have h9 : '9'.val.toNat = 57 := rfl
  omega

theorem toNat_lt_of_isHostChar (h : isHostChar c = true) : c.toNat < 128 := by
  simp only [isHostChar, Bool.or_eq_true, beq_iff_eq] at h
  rcases h with ((h | rfl) | rfl) | rfl
  · exact toNat_lt_of_isAlphanum h
  · decide
  · decide
  · decide

/-! ## IPv6 addresses -/

theorem isAlphanum_of_isHex (h : isHex c = true) : c.isAlphanum = true := by
  have hcases : c.isAlphanum = (c.isUpper || c.isLower || c.isDigit) := rfl
  rw [isHex, Percent.hexValue?] at h
  split at h
  · next hdigit => exact isAlphanum_of_isDigit hdigit
  · split at h
    · next hupper =>
      have hup : c.isUpper = true := by
        delta Char.isUpper
        simp only [decide_eq_true_eq, ge_iff_le]
        exact ⟨hupper.1, UInt32.le_trans hupper.2 (by decide)⟩
      rw [hcases, hup, Bool.true_or, Bool.true_or]
    · split at h
      · next hlower =>
        have hlow : c.isLower = true := by
          delta Char.isLower
          simp only [Bool.and_eq_true, decide_eq_true_eq, ge_iff_le]
          exact ⟨hlower.1, UInt32.le_trans hlower.2 (by decide)⟩
        rw [hcases, hlow, Bool.or_true, Bool.true_or]
      · cases h

theorem isHostChar_of_hexGroup (h : isHexGroup group = true) :
    ∀ c ∈ group, isHostChar c = true := by
  rw [isHexGroup, Bool.and_eq_true, all_eq_true] at h
  exact fun c hc => isHostChar_of_isAlphanum (isAlphanum_of_isHex (h.2 c hc))

theorem isHostChar_of_groupCount (h : groupCount groups = some n) :
    ∀ group ∈ groups, ∀ c ∈ group, isHostChar c = true := by
  induction groups generalizing n with
  | nil => exact fun _ hg => absurd hg not_mem_nil
  | cons g gs ih =>
    cases gs with
    | nil =>
      intro group hg
      rw [mem_singleton.mp hg]
      rw [groupCount] at h
      split at h
      · next hhex => exact isHostChar_of_hexGroup hhex
      · split at h
        · next hipv4 => exact fun c hc => isHostChar_of_mem_ipv4 hipv4 hc
        · cases h
    | cons g' gs =>
      rw [groupCount] at h
      · split at h
        · next hhex =>
          obtain ⟨m, hm, -⟩ := Option.map_eq_some_iff.mp h
          exact forall_mem_cons.mpr ⟨isHostChar_of_hexGroup hhex, ih hm⟩
        · cases h
      · exact cons_ne_nil g' gs

theorem splitColons_eq_some (h : splitColons cs = some (l, r)) :
    cs = l ++ ':' :: ':' :: r := by
  induction cs using splitColons.induct generalizing l with
  | case1 cs =>
    cases h
    rfl
  | case2 c cs hne ih =>
    rw [splitColons] at h
    · obtain ⟨⟨l', r'⟩, hcs, heq⟩ := Option.map_eq_some_iff.mp h
      cases heq
      rw [ih hcs, cons_append]
    · exact hne
  | case3 => cases h

/-- The groups between the colons of a part of an address. -/
theorem isHostChar_or_colon_of_groups (hgroups : groups = if cs = [] then [] else cs.splitOn ':')
    (h : ∀ group ∈ groups, ∀ c ∈ group, isHostChar c = true) :
    ∀ c ∈ cs, isHostChar c = true ∨ c = ':' := by
  intro c hc
  rw [if_neg (ne_nil_of_mem hc)] at hgroups
  rcases mem_splitOn_of_mem ':' hc with rfl | ⟨group, hgroup, hc⟩
  · exact .inr rfl
  · exact .inl (h group (hgroups ▸ hgroup) c hc)

theorem colon_mem_of_isIPv6 (h : isIPv6 cs = true) : ':' ∈ cs := by
  by_contra hcolon
  rw [isIPv6] at h
  split at h
  · have hone : cs.splitOn ':' = [cs] := by
      have hjoin : splitOn ':' ([':'].intercalate [cs]) = [cs] :=
        splitOn_intercalate ':' (by simpa using hcolon) (by simp)
      simpa using hjoin
    rw [hone, groupCount] at h
    revert h
    split <;> [decide; (split <;> decide)]
  · next l r heq =>
    rw [splitColons_eq_some heq] at hcolon
    simp at hcolon

theorem isHostChar_or_colon_of_isIPv6 (h : isIPv6 cs = true) :
    ∀ c ∈ cs, isHostChar c = true ∨ c = ':' := by
  have hne : cs ≠ [] := ne_nil_of_mem (colon_mem_of_isIPv6 h)
  rw [isIPv6] at h
  split at h
  · refine isHostChar_or_colon_of_groups (if_neg hne).symm ?_
    exact isHostChar_of_groupCount (of_decide_eq_true h)
  · next l r heq =>
    rw [Bool.and_eq_true, all_eq_true] at h
    obtain ⟨n, hn, -⟩ := (Option.any_eq_true _ _).mp h.2
    intro c hc
    rw [splitColons_eq_some heq, mem_append, mem_cons, mem_cons] at hc
    rcases hc with hc | hc | hc | hc
    · exact isHostChar_or_colon_of_groups rfl
        (fun group hgroup => isHostChar_of_hexGroup (h.1 group hgroup)) c hc
    · exact .inr hc
    · exact .inr hc
    · exact isHostChar_or_colon_of_groups rfl (isHostChar_of_groupCount hn) c hc

/-- The characters of hosts of all kinds. -/
def isAddressChar (c : Char) : Bool := isHostChar c || ":%[]".toList.contains c

theorem isAddressChar_of_isHostChar (h : isHostChar c = true) : isAddressChar c = true := by
  rw [isAddressChar, h, Bool.true_or]

theorem isAddressChar_of_reference (h : isIPv6Reference cs = true) :
    ∀ c ∈ cs, isAddressChar c = true ∧ c ≠ '[' ∧ c ≠ ']' := by
  rw [isIPv6Reference, Bool.and_eq_true] at h
  obtain ⟨haddress, hscope⟩ := h
  have hhost {c : Char} (hc : isHostChar c = true) :
      isAddressChar c = true ∧ c ≠ '[' ∧ c ≠ ']' := by
    refine ⟨isAddressChar_of_isHostChar hc, ?_, ?_⟩
    · rintro rfl
      cases hc
    · rintro rfl
      cases hc
  intro c hc
  rw [← takeWhile_append_dropWhile (p := (· ≠ '%')) (l := cs)] at hc
  rcases mem_append.mp hc with hc | hc
  · rcases isHostChar_or_colon_of_isIPv6 haddress c hc with h | rfl
    · exact hhost h
    · decide
  · split at hscope
    · next heq =>
      rw [heq] at hc
      cases hc
    · next d scope heq =>
      have hd : d = '%' := by
        have := head?_dropWhile_not (fun x => decide (x ≠ '%')) cs
        rw [heq] at this
        simpa using this
      rw [heq] at hc
      rcases mem_cons.mp hc with rfl | hc
      · rw [hd]
        decide
      · rw [Bool.and_eq_true, all_eq_true] at hscope
        have := hscope.2 c hc
        refine hhost ?_
        simp only [isHostChar, Bool.or_eq_true]
        grind

theorem colon_mem_of_reference (h : isIPv6Reference cs = true) : ':' ∈ cs := by
  rw [isIPv6Reference, Bool.and_eq_true] at h
  exact (takeWhile_subset _) (colon_mem_of_isIPv6 h.1)

/-- The servers that the URI grammar has as hosts; an IPv6 address with or without its brackets. -/
inductive IsHost (server : String) : Prop
  | plain (h : isPlainHost true server.toList = true)
  | ipv6 (h : isIPv6Reference server.toList = true)
  | bracketed (inside : String) (heq : server = "[" ++ inside ++ "]")
    (h : isIPv6Reference inside.toList = true)

theorem IsHost.isAddressChar {server : String} (h : IsHost server) :
    ∀ c ∈ server.toList, isAddressChar c = true := by
  cases h with
  | plain h => exact fun c hc => isAddressChar_of_isHostChar (isHostChar_of_mem h c hc)
  | ipv6 h => exact fun c hc => (isAddressChar_of_reference h c hc).1
  | bracketed inside heq h =>
    intro c hc
    rw [heq, String.toList_append, String.toList_append, mem_append, mem_append] at hc
    rcases hc with (hc | hc) | hc
    · rw [mem_singleton.mp hc]
      decide
    · exact (isAddressChar_of_reference h c hc).1
    · rw [mem_singleton.mp hc]
      decide

theorem toNat_lt_of_isAddressChar (h : isAddressChar c = true) : c.toNat < 128 := by
  rw [Uri.isAddressChar, Bool.or_eq_true, contains_iff_mem] at h
  rcases h with h | h
  · exact toNat_lt_of_isHostChar h
  · have hall : (":%[]".toList.all fun d => decide (d.toNat < 128)) = true := by decide
    exact of_decide_eq_true (all_eq_true.mp hall c h)

/-! ## The authority -/

variable {underscore : Bool}

section authority

theorem takeWhile_append_cons (h : ∀ c ∈ xs, p c = true) (hc : p c = false) (ys : List Char) :
    (xs ++ c :: ys).takeWhile p = xs := by
  rw [takeWhile_append_of_pos h, takeWhile_cons, hc, if_neg Bool.false_ne_true,
    append_nil]

theorem dropWhile_append_cons (h : ∀ c ∈ xs, p c = true) (hc : p c = false) (ys : List Char) :
    (xs ++ c :: ys).dropWhile p = c :: ys := by
  rw [dropWhile_append_of_pos h, dropWhile_cons, hc, if_neg Bool.false_ne_true]

theorem ne_of_notMem (h : c ∉ xs) : ∀ d ∈ xs, decide (d ≠ c) = true := by
  intro d hd
  refine decide_eq_true ?_
  rintro rfl
  exact h hd

theorem parseHost_plain {host : List Char} (h : isPlainHost underscore host = true)
    (hcolon : ':' ∉ host) (hbracket : '[' ∉ host) (rest : List Char) :
    parseHost underscore (host ++ ':' :: rest) = some (host, ':' :: rest) := by
  have htake : (host ++ ':' :: rest).takeWhile (· ≠ ':') = host :=
    takeWhile_append_cons (ne_of_notMem hcolon) (by decide) rest
  have hdrop : (host ++ ':' :: rest).dropWhile (· ≠ ':') = ':' :: rest :=
    dropWhile_append_cons (ne_of_notMem hcolon) (by decide) rest
  rw [parseHost]
  · rw [htake, hdrop, if_pos h]
  · intro cs heq
    cases host with
    | nil => cases heq
    | cons c host => exact hbracket ((List.cons.inj heq).1 ▸ mem_cons_self)

/-- A plain host is all of its text. -/
theorem parseHost_self {host : List Char} (h : isPlainHost underscore host = true)
    (hcolon : ':' ∉ host) (hbracket : '[' ∉ host) :
    parseHost underscore host = some (host, []) := by
  rw [parseHost]
  · rw [takeWhile_eq_self_iff.mpr (ne_of_notMem hcolon),
      dropWhile_eq_nil_iff.mpr (ne_of_notMem hcolon), if_pos h]
  · rintro cs rfl
    exact hbracket mem_cons_self

theorem parseHost_bracket {inside : List Char} (h : isIPv6Reference inside = true)
    (hbracket : ']' ∉ inside) (rest : List Char) :
    parseHost underscore ('[' :: (inside ++ ']' :: rest)) =
      some ('[' :: inside ++ [']'], rest) := by
  have htake : (inside ++ ']' :: rest).takeWhile (· ≠ ']') = inside :=
    takeWhile_append_cons (ne_of_notMem hbracket) (by decide) rest
  have hdrop : (inside ++ ']' :: rest).dropWhile (· ≠ ']') = ']' :: rest :=
    dropWhile_append_cons (ne_of_notMem hbracket) (by decide) rest
  rw [parseHost, hdrop, htake]
  exact if_pos h

/-- A host that fills its text is a plain one or an IPv6 address in brackets. -/
theorem cases_of_parseHost {host : List Char} (h : parseHost underscore host = some (host, [])) :
    isPlainHost underscore host = true ∨
      ∃ inside, host = '[' :: inside ++ [']'] ∧ isIPv6Reference inside = true := by
  rw [parseHost.eq_def] at h
  split at h
  · next cs =>
    split at h
    · next rest hrest =>
      dsimp only at h
      split at h
      · next hinside =>
        exact .inr ⟨_, (Prod.mk.inj (Option.some.inj h)).1.symm, hinside⟩
      · cases h
    · cases h
  · dsimp only at h
    split at h
    · next hplain =>
      rw [(Prod.mk.inj (Option.some.inj h)).1] at hplain
      exact .inl hplain
    · cases h

theorem parsePort_digits {port : List Char} (hdigits : port.all Char.isDigit = true)
    (hn : Text.digitsToNat port = some n) (hmax : n ≤ 2147483647) :
    parsePort (':' :: port) = some (n : Int) := by
  have hne : port ≠ [] := by
    rintro rfl
    cases hn
  rw [parsePort, if_neg hne, if_pos hdigits, hn, Option.filter_some, decide_eq_true hmax]
  rfl

/-- The text of an authority with user information, a host and a port. -/
def authorityText (userInfo host port : List Char) : List Char :=
  userInfo ++ '@' :: (host ++ ':' :: port)

variable {userInfo host port : List Char}

section
variable (hlegal : isLegal isUserInfo userInfo = true) (hat : '@' ∉ userInfo)
include hlegal hat

theorem parseServer_authorityText :
    parseServer underscore (authorityText userInfo host port) =
      (parseHost underscore (host ++ ':' :: port)).bind fun found =>
        (parsePort found.2).map fun n => ⟨some userInfo, found.1, n⟩ := by
  have htake : (authorityText userInfo host port).takeWhile (· ≠ '@') = userInfo :=
    takeWhile_append_cons (ne_of_notMem hat) (by decide) _
  have hdrop : (authorityText userInfo host port).dropWhile (· ≠ '@') =
      '@' :: (host ++ ':' :: port) := dropWhile_append_cons (ne_of_notMem hat) (by decide) _
  have hmem : '@' ∈ authorityText userInfo host port :=
    mem_append_right _ mem_cons_self
  rw [parseServer, if_pos hmem, htake, hdrop, if_pos hlegal, tail_cons]
  cases parseHost underscore (host ++ ':' :: port) with
  | none => rfl
  | some found =>
    exact (Option.map_eq_bind ..).symm

end

/-- A text that can stand in front of the `@` of an authority. -/
structure IsUserInfoText (cs : List Char) : Prop where
  legal : isLegal isUserInfo cs = true
  regName : isLegal isRegName cs = true
  noAt : '@' ∉ cs
  server : ∀ c ∈ cs, isServer c = true

theorem parseAuthority_of_parseServer (hscan : scan isRegName cs ≠ none)
    (hchars : ∀ c ∈ cs, isServer c = true) (h : parseServer underscore cs = some server) :
    parseAuthority underscore cs = some (some server) := by
  rw [parseAuthority]
  cases hleft : scan isRegName cs with
  | none => exact absurd hleft hscan
  | some left =>
    rw [if_pos (all_eq_true.mpr hchars), h]

theorem isUnreserved_of_isHostChar (h : isHostChar c = true) : isUnreserved c = true := by
  simp only [isHostChar, Bool.or_eq_true, beq_iff_eq] at h
  rcases h with ((h | rfl) | rfl) | rfl
  · rw [isUnreserved, h, Bool.true_or]
  · decide
  · decide
  · decide

theorem isServer_of_isAddressChar (h : isAddressChar c = true) : isServer c = true := by
  rw [isAddressChar, Bool.or_eq_true, contains_iff_mem] at h
  rcases h with h | h
  · rw [isServer, isUserInfo, isUnreserved_of_isHostChar h, Bool.true_or, Bool.true_or, Bool.true_or]
  · have hall : ":%[]".toList.all isServer = true := by decide
    exact all_eq_true.mp hall c h

theorem isRegName_of_isHostChar (h : isHostChar c = true) : c ≠ '%' ∧ isRegName c = true := by
  refine ⟨?_, ?_⟩
  · rintro rfl
    cases h
  · rw [isRegName, isUnreserved_of_isHostChar h, Bool.true_or]

section
variable {n : Nat} (hui : IsUserInfoText userInfo) (hdigits : port.all Char.isDigit = true)
include hui hdigits

theorem isServer_authorityText (hhost : ∀ c ∈ host, isAddressChar c = true) :
    ∀ c ∈ authorityText userInfo host port, isServer c = true := by
  intro c hc
  rw [authorityText, mem_append, mem_cons, mem_append, mem_cons] at hc
  rcases hc with hc | rfl | hc | rfl | hc
  · exact hui.server c hc
  · decide
  · exact isServer_of_isAddressChar (hhost c hc)
  · decide
  · exact isServer_of_isAddressChar (isAddressChar_of_isHostChar (isHostChar_of_isAlphanum
      (isAlphanum_of_isDigit (all_eq_true.mp hdigits c hc))))

variable (hn : Text.digitsToNat port = some n) (hmax : n ≤ 2147483647)
include hn hmax

theorem parseAuthority_plain (hhost : isPlainHost underscore host = true) :
    parseAuthority underscore (authorityText userInfo host port) =
      some (some ⟨some userInfo, host, n⟩) := by
  have hrest : ∀ c ∈ '@' :: (host ++ ':' :: port), c ≠ '%' ∧ isRegName c = true := by
    intro c hc
    rw [mem_cons, mem_append, mem_cons] at hc
    rcases hc with rfl | hc | rfl | hc
    · decide
    · exact isRegName_of_isHostChar (isHostChar_of_mem hhost c hc)
    · decide
    · exact isRegName_of_isHostChar (isHostChar_of_isAlphanum
        (isAlphanum_of_isDigit (all_eq_true.mp hdigits c hc)))
  have hscan : scan isRegName (authorityText userInfo host port) ≠ none := by
    rw [authorityText, scan_append hui.regName, of_decide_eq_true (isLegal_of_forall hrest)]
    exact Option.some_ne_none []
  refine parseAuthority_of_parseServer hscan ?_ ?_
  · exact isServer_authorityText hui hdigits fun c hc =>
      isAddressChar_of_isHostChar (isHostChar_of_mem hhost c hc)
  · rw [parseServer_authorityText hui.legal hui.noAt,
      parseHost_plain hhost (notMem_plainHost hhost (by decide)) (notMem_plainHost hhost (by decide)),
      Option.bind_some, parsePort_digits hdigits hn hmax, Option.map_some]

theorem parseAuthority_bracket (hinside : isIPv6Reference inside = true) :
    parseAuthority underscore (authorityText userInfo ('[' :: inside ++ [']']) port) =
      some (some ⟨some userInfo, '[' :: inside ++ [']'], n⟩) := by
  have hchars := isAddressChar_of_reference hinside
  have hscan : scan isRegName (authorityText userInfo ('[' :: inside ++ [']']) port) ≠ none := by
    have hat : isRegName '@' = true := by decide
    have hopen : isRegName '[' = false ∧ isOther '[' = false := by decide
    have hstop (rest : List Char) : scan isRegName ('@' :: '[' :: rest) = some ('[' :: rest) := by
      simp [scan, hat, hopen]
    rw [authorityText, scan_append hui.regName, cons_append, cons_append]
    exact Option.some_ne_none _
  refine parseAuthority_of_parseServer hscan ?_ ?_
  · refine isServer_authorityText hui hdigits fun c hc => ?_
    rw [cons_append, mem_cons, mem_append, mem_singleton] at hc
    rcases hc with rfl | hc | rfl
    · decide
    · exact (hchars c hc).1
    · decide
  · have hhost : parseHost underscore ('[' :: inside ++ [']'] ++ ':' :: port) =
        some ('[' :: inside ++ [']'], ':' :: port) := by
      rw [append_assoc]
      exact parseHost_bracket hinside (fun hmem => (hchars ']' hmem).2.2 rfl) (':' :: port)
    rw [parseServer_authorityText hui.legal hui.noAt, hhost, Option.bind_some,
      parsePort_digits hdigits hn hmax, Option.map_some]

/-- A host that the grammar accepts is read, and nothing of it is lost. -/
theorem parseAuthority_of_parseHost (hhost : parseHost underscore host = some (host, [])) :
    parseAuthority underscore (authorityText userInfo host port) =
      some (some ⟨some userInfo, host, n⟩) := by
  rcases cases_of_parseHost hhost with hplain | ⟨inside, rfl, hinside⟩
  · exact parseAuthority_plain hui hdigits hn hmax hplain
  · exact parseAuthority_bracket hui hdigits hn hmax hinside

end

/-- A host with a colon outside brackets leaves no port. -/
theorem parsePort_of_colon {host port found rest : List Char} (hcolon : ':' ∈ host)
    (hbracket : '[' ∉ host) (h : parseHost underscore (host ++ ':' :: port) = some (found, rest)) :
    parsePort rest = none := by
  obtain ⟨front, back, rfl, hfront⟩ := eq_append_cons_of_mem hcolon
  have hdrop : (front ++ ':' :: back ++ ':' :: port).dropWhile (· ≠ ':') =
      ':' :: (back ++ ':' :: port) := by
    rw [append_assoc]
    exact dropWhile_append_cons (ne_of_notMem hfront) (by decide) _
  have hrest : rest = ':' :: (back ++ ':' :: port) := by
    rw [parseHost] at h
    · rw [hdrop] at h
      split at h
      · exact (Prod.mk.inj (Option.some.inj h)).2.symm
      · cases h
    · intro cs heq
      cases front with
      | nil => cases heq
      | cons c front => exact hbracket ((List.cons.inj heq).1 ▸ mem_cons_self)
  have hdigits : (back ++ ':' :: port).all Char.isDigit = false := by
    rw [all_eq_false]
    exact ⟨':', mem_append_right _ mem_cons_self, by decide⟩
  rw [hrest, parsePort, hdigits, if_neg (by simp), if_neg Bool.false_ne_true]

/-- Such an authority is not server-based. -/
theorem parseAuthority_of_colon {userInfo host port : List Char} (hui : IsUserInfoText userInfo)
    (hcolon : ':' ∈ host) (hbracket : '[' ∉ host) {server : Option Server}
    (h : parseAuthority underscore (authorityText userInfo host port) = some server) :
    server = none := by
  have hnone : parseServer underscore (authorityText userInfo host port) = none := by
    rw [parseServer_authorityText hui.legal hui.noAt]
    cases hhost : parseHost underscore (host ++ ':' :: port) with
    | none => rfl
    | some found => rw [Option.bind_some, parsePort_of_colon hcolon hbracket hhost, Option.map_none]
  rw [parseAuthority, hnone, ite_self] at h
  cases hscan : scan isRegName (authorityText userInfo host port) with
  | none =>
    rw [hscan] at h
    cases h
  | some left =>
    rw [hscan] at h
    dsimp only at h
    split at h
    · exact (Option.some.inj h).symm
    · cases h

end authority

/-! ## The whole text -/

section
variable {scheme authority query fragment : List Char}

/-- The characters of a scheme end it nowhere. -/
theorem parseScheme_append (h : isScheme scheme = true) (rest : List Char) :
    parseScheme (scheme ++ ':' :: rest) = some (some scheme, rest) := by
  have hstop : ∀ c ∈ scheme, (!":/?#".toList.contains c) = true := by
    intro c hc
    rw [Bool.not_eq_true', Bool.eq_false_iff, Ne, contains_iff_mem]
    intro hmem
    have hnot : (":/?#".toList.all fun d =>
        !(d.isAlpha || d.isAlphanum || d == '+' || d == '-' || d == '.')) = true := by decide
    have hd := all_eq_true.mp hnot c hmem
    cases scheme with
    | nil => cases hc
    | cons first rest =>
      rw [isScheme, Bool.and_eq_true, all_eq_true] at h
      rcases mem_cons.mp hc with rfl | hc
      · simp [h.1] at hd
      · have := h.2 c hc
        simp_all
  have htake : (scheme ++ ':' :: rest).takeWhile (fun c => !":/?#".toList.contains c) = scheme :=
    takeWhile_append_cons hstop (by decide) rest
  have hdrop : (scheme ++ ':' :: rest).dropWhile (fun c => !":/?#".toList.contains c) =
      ':' :: rest := dropWhile_append_cons hstop (by decide) rest
  rw [parseScheme, hdrop, htake]
  exact if_pos h

/-- The query as it stands in a text. -/
def queryPart : Option (List Char) → List Char
  | none => []
  | some query => '?' :: query

/-- A text of a scheme, an authority, a fragment and maybe a query, without a path. -/
def serverText (scheme authority : List Char) (query : Option (List Char))
    (fragment : List Char) : List Char :=
  scheme ++ ':' :: ('/' :: '/' :: (authority ++ queryPart query) ++ '#' :: fragment)

/-- The URI of the pieces; a registry-based authority has no server. -/
def ofServer (scheme : List Char) (query : Option (List Char)) (fragment : List Char)
    (server : Option Server) : Uri where
  scheme := some (String.ofList scheme)
  rawUserInfo := (server.bind (·.userInfo)).map String.ofList
  host := server.map fun s => String.ofList s.host
  port := (server.map (·.port)).getD (-1)
  rawPath := some ""
  rawQuery := query.map String.ofList
  rawFragment := some (String.ofList fragment)

theorem parsePathQuery_queryPart {query : Option (List Char)}
    (h : ∀ text, query = some text → isLegal isUric text = true) :
    parsePathQuery (queryPart query) = some ([], query) := by
  cases query with
  | none => rfl
  | some text =>
    rw [queryPart, parsePathQuery]
    simp [h text rfl]
    rfl

theorem parseBody_server {query : Option (List Char)} (hne : authority ≠ [])
    (hauthority : ∀ c ∈ authority, c ≠ '/' ∧ c ≠ '?')
    (hquery : ∀ text, query = some text → isLegal isUric text = true) :
    parseBody underscore (some scheme) (some fragment)
        ('/' :: '/' :: (authority ++ queryPart query)) =
      (parseAuthority underscore authority).map (ofServer scheme query fragment) := by
  have hstop : ∀ c ∈ authority, (!"/?".toList.contains c) = true := by
    intro c hc
    obtain ⟨hslash, hmark⟩ := hauthority c hc
    have hsep : "/?".toList = ['/', '?'] := by decide
    simp [hsep, hslash, hmark]
  have htake : (authority ++ queryPart query).takeWhile (fun c => !"/?".toList.contains c) =
      authority := by
    rw [takeWhile_append_of_pos hstop]
    cases query with
    | none => exact append_nil _
    | some text => exact append_nil _
  have hdrop : (authority ++ queryPart query).dropWhile (fun c => !"/?".toList.contains c) =
      queryPart query := by
    rw [dropWhile_append_of_pos hstop]
    cases query with
    | none => rfl
    | some text => rfl
  rw [parseBody, htake, hdrop, if_neg (fun h => hne h.1), if_neg hne]
  cases parseAuthority underscore authority with
  | none => rfl
  | some server =>
    rw [parsePathQuery_queryPart hquery]
    rfl

theorem parse_serverText {query : Option (List Char)} (hscheme : isScheme scheme = true)
    (hne : authority ≠ []) (hauthority : ∀ c ∈ authority, c ≠ '/' ∧ c ≠ '?' ∧ c ≠ '#')
    (hquery : ∀ text, query = some text → isLegal isUric text = true ∧ '#' ∉ text)
    (hfragment : isLegal isUric fragment = true) :
    parse underscore (String.ofList (serverText scheme authority query fragment)) =
      (parseAuthority underscore authority).map (ofServer scheme query fragment) := by
  have hfront : parseScheme (serverText scheme authority query fragment) =
      some (some scheme, '/' :: '/' :: (authority ++ queryPart query) ++ '#' :: fragment) :=
    parseScheme_append hscheme _
  have hpart : '#' ∉ queryPart query := by
    cases query with
    | none => exact not_mem_nil
    | some text =>
      rw [queryPart, mem_cons, not_or]
      exact ⟨by decide, (hquery text rfl).2⟩
  have hrest : ∀ c ∈ '/' :: '/' :: (authority ++ queryPart query), decide (c ≠ '#') = true := by
    refine ne_of_notMem fun hmem => ?_
    rw [mem_cons, mem_cons, mem_append] at hmem
    rcases hmem with h | h | h | h
    · cases h
    · cases h
    · exact (hauthority '#' h).2.2 rfl
    · exact hpart h
  have htake : ('/' :: '/' :: (authority ++ queryPart query) ++ '#' :: fragment).takeWhile
      (· ≠ '#') = '/' :: '/' :: (authority ++ queryPart query) :=
    takeWhile_append_cons hrest (by decide) fragment
  have hdrop : ('/' :: '/' :: (authority ++ queryPart query) ++ '#' :: fragment).dropWhile
      (· ≠ '#') = '#' :: fragment := dropWhile_append_cons hrest (by decide) fragment
  rw [parse, String.toList_ofList, hfront, Option.bind_eq_bind, Option.bind_some]
  dsimp only
  rw [htake, hdrop, tail?_cons, Option.all_some, if_pos hfragment,
    parseBody_server hne (fun c hc => ⟨(hauthority c hc).1, (hauthority c hc).2.1⟩)
      fun text htext => (hquery text htext).1]

/-! ## The fragment -/

theorem rawFragment_of_parseBody {scheme fragment : Option (List Char)} {uri : Uri}
    (h : parseBody underscore scheme fragment cs = some uri) :
    uri.rawFragment = fragment.map String.ofList := by
  unfold parseBody at h
  dsimp only at h
  split at h
  · split at h
    · cases h
    · split at h
      all_goals
        obtain ⟨server, -, h⟩ := Option.bind_eq_some_iff.mp h
        obtain ⟨pieces, -, h⟩ := Option.bind_eq_some_iff.mp h
        cases h
        rfl
  · split at h
    · split at h
      · cases h
        rfl
      · cases h
    · obtain ⟨pieces, -, h⟩ := Option.bind_eq_some_iff.mp h
      cases h
      rfl

/-- The fragment is what follows the only number sign. -/
theorem rawFragment_of_parse {text : String} {uri : Uri}
    (htext : text.toList = scheme ++ ':' :: (mid ++ '#' :: fragment))
    (hscheme : isScheme scheme = true) (h : parse underscore text = some uri) :
    uri.rawFragment = some (String.ofList fragment) ∧ '#' ∉ mid := by
  rw [parse, htext, parseScheme_append hscheme] at h
  dsimp only [bind, Option.bind] at h
  split at h
  · next hlegal =>
    have hmid : '#' ∉ mid := by
      intro hmem
      obtain ⟨front, rest, rfl, hfront⟩ := eq_append_cons_of_mem hmem
      have hdrop : ((front ++ '#' :: rest) ++ '#' :: fragment).dropWhile (· ≠ '#') =
          '#' :: (rest ++ '#' :: fragment) := by
        rw [append_assoc]
        exact dropWhile_append_cons (ne_of_notMem hfront) (by decide) _
      rw [hdrop] at hlegal
      exact notMem_of_isLegal (by decide) (by decide) (by decide) (by decide) hlegal
        (mem_append_right _ mem_cons_self)
    have hdrop : (mid ++ '#' :: fragment).dropWhile (· ≠ '#') = '#' :: fragment :=
      dropWhile_append_cons (ne_of_notMem hmid) (by decide) _
    rw [hdrop] at h
    exact ⟨rawFragment_of_parseBody h, hmid⟩
  · cases h

end
end ZeroVpn.Uri
