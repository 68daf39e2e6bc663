import ZeroVpn.Util.IpSpec

/-!
# IP literals

The expression for IPv6 bounds neither the groups around `::` nor where the colons stand, and what
follows a closing bracket is dropped.
-/

namespace ZeroVpn.Utils

open List

/-- Eight groups, or groups around a `::` that stands for at least one. -/
def IsIpv6Text (cs : List Char) : Prop :=
  ∃ left right, (∀ g ∈ left ++ right, IsGroup g) ∧
    (cs = [':'].intercalate (left ++ right) ∧ (left ++ right).length = 8 ∨
      cs = [':'].intercalate left ++ ':' :: ':' :: [':'].intercalate right ∧
        (left ++ right).length ≤ 7)

/-- A dotted quad, or an IPv6 address with or without its brackets. -/
def IsIpLiteral (value : String) : Prop :=
  IsIpv4Text value.toList ∨ IsIpv6Text value.toList ∨
    ∃ addr, value.toList = '[' :: (addr ++ [']']) ∧ IsIpv6Text addr

/-- At most seven groups stand next to a `::`, and no colons but those of `::` stand together or at
the start. -/
structure Tidy (cs : List Char) : Prop where
  start : [':'] <+: cs → [':', ':'] <+: cs
  colons : ¬[':', ':', ':'] <:+: cs
  groups : [':', ':'] <:+: cs → ((cs.splitOn ':').filter (· ≠ [])).length ≤ 7

/-- A text in brackets ends with the bracket; the address is tidy. -/
def TidyAddress (value : String) : Prop :=
  match value.toList with
  | '[' :: rest => rest.getLast? = some ']' ∧ Tidy rest.dropLast
  | addr => Tidy addr

theorem colon_notMem (h : g = [] ∨ IsGroup g) : ':' ∉ g := by
  rcases h with rfl | h
  · exact not_mem_nil
  · intro hin
    exact absurd (h.2.2 _ hin) (by decide)

/-- A side of the `::` without its empty group is the same text. -/
theorem side_filter (ha : a = [] ∨ IsGroup a) (hgs : ∀ g ∈ gs, IsGroup g)
    (hempty : a = [] → gs = []) :
    (∀ g ∈ (a :: gs).filter (· ≠ []), IsGroup g) ∧
      [':'].intercalate ((a :: gs).filter (· ≠ [])) = [':'].intercalate (a :: gs) := by
  rcases ha with rfl | ha
  · rw [hempty rfl]
    exact ⟨forall_mem_nil _, rfl⟩
  · have hall := forall_mem_cons.mpr ⟨ha, hgs⟩
    rw [filter_eq_self.mpr fun g hg => decide_eq_true (hall g hg).1]
    exact ⟨hall, rfl⟩

theorem isIpv6Text_of_tidy (h : ipv6Regex.rmatch cs = true) (htidy : Tidy cs) :
    IsIpv6Text cs := by
  rcases exists_of_ipv6 h with ⟨gs, hlength, hgs, rfl⟩ | ⟨a, gs, b, hs, ha, hb, hall, rfl⟩
  · exact ⟨gs, [], by simpa using hgs, .inl ⟨by simp, by simpa using hlength⟩⟩
  obtain ⟨hgs, hhs⟩ := forall_mem_append.mp hall
  have hleft : a = [] → gs = [] := by
    rintro rfl
    rcases gs with _ | ⟨g, gs⟩
    · rfl
    -- a colon alone at the start
    have hstart := htidy.start (by simp [intercalate_cons])
    obtain ⟨hne, -, hhex⟩ := hgs g mem_cons_self
    rcases g with _ | ⟨c, g⟩
    · exact absurd rfl hne
    · simp only [intercalate_cons, flatMap_cons, nil_append, cons_append,
        cons_prefix_cons] at hstart
      exact absurd (hstart.2.1 ▸ hhex c mem_cons_self) (by decide)
  have hright : b = [] → hs = [] := by
    rintro rfl
    rcases hs with _ | ⟨g, hs⟩
    · rfl
    · refine absurd ⟨[':'].intercalate (a :: gs), g ++ hs.flatMap (':' :: ·), ?_⟩ htidy.colons
      simp [intercalate_cons [] (g :: hs)]
  have htext : [':'].intercalate (a :: gs ++ [] :: b :: hs) =
      [':'].intercalate (a :: gs) ++ ':' :: ':' :: [':'].intercalate (b :: hs) := by
    simp [intercalate_cons]
  have hcount := htidy.groups ⟨[':'].intercalate (a :: gs), [':'].intercalate (b :: hs), by simp⟩
  rw [← htext, splitOn_intercalate, filter_append] at hcount
  · obtain ⟨hl, hltext⟩ := side_filter ha hgs hleft
    obtain ⟨hr, hrtext⟩ := side_filter hb hhs hright
    exact ⟨_, _, forall_mem_append.mpr ⟨hl, hr⟩, .inr ⟨by rw [hltext, hrtext], hcount⟩⟩
  · intro g hg
    refine colon_notMem ?_
    simp only [cons_append, mem_cons, mem_append] at hg
    rcases hg with rfl | hg | rfl | rfl | hg
    · exact ha
    · exact .inr (hgs g hg)
    · exact .inl rfl
    · exact hb
    · exact .inr (hhs g hg)
  · exact cons_ne_nil _ _

/-! ## Addresses are tidy -/

theorem splitOn_append_colon (s t : List Char) :
    (s ++ ':' :: t).splitOn ':' = s.splitOn ':' ++ t.splitOn ':' :=
  splitOnP_append_cons s t (beq_self_eq_true ':')

theorem splitOn_cons_colon (t : List Char) : (':' :: t).splitOn ':' = [] :: t.splitOn ':' :=
  splitOn_append_colon [] t

/-- The groups on one side of the `::`, as the text is split at its colons. -/
def sidePieces (gs : List (List Char)) : List (List Char) := if gs = [] then [[]] else gs

section
variable {gs : List (List Char)} (h : ∀ g ∈ gs, IsGroup g)
include h

theorem splitOn_groups : ([':'].intercalate gs).splitOn ':' = sidePieces gs := by
  unfold sidePieces
  split
  · next hnil =>
    rw [hnil]
    rfl
  · next hne => exact splitOn_intercalate ':' (fun g hg => colon_notMem (.inr (h g hg))) hne

theorem filter_sidePieces : (sidePieces gs).filter (· ≠ []) = gs := by
  unfold sidePieces
  split
  · next hnil =>
    rw [hnil]
    rfl
  · exact filter_eq_self.mpr fun g hg => decide_eq_true (h g hg).1

/-- Only the first and the last piece may be empty. -/
theorem nil_notMem_sidePieces : [] ∉ (sidePieces gs).tail ∧ [] ∉ (sidePieces gs).dropLast := by
  unfold sidePieces
  split
  · exact ⟨not_mem_nil, not_mem_nil⟩
  · exact ⟨fun hmem => (h [] (mem_of_mem_tail hmem)).1 rfl,
      fun hmem => (h [] (mem_of_mem_dropLast hmem)).1 rfl⟩

/-- No piece of the full form is empty. -/
theorem tidy_groups (hne : gs ≠ []) : Tidy ([':'].intercalate gs) := by
  have hnil : [] ∉ ([':'].intercalate gs).splitOn ':' := by
    rw [splitOn_groups h, sidePieces, if_neg hne]
    exact fun hmem => (h [] hmem).1 rfl
  have hcolons : ¬[':', ':'] <:+: [':'].intercalate gs := by
    rintro ⟨s, t, heq⟩
    refine hnil ?_
    rw [← heq, append_assoc, cons_append, cons_append, nil_append, splitOn_append_colon,
      splitOn_cons_colon]
    simp
  refine ⟨?_, fun h => hcolons (IsInfix.trans ⟨[], [':'], rfl⟩ h), fun h => absurd h hcolons⟩
  rintro ⟨t, heq⟩
  refine absurd ?_ hnil
  rw [← heq, singleton_append, splitOn_cons_colon]
  exact mem_cons_self

end

section
variable {left right : List (List Char)} (hleft : ∀ g ∈ left, IsGroup g)
  (hright : ∀ g ∈ right, IsGroup g)
include hleft hright

theorem splitOn_shortened :
    ([':'].intercalate left ++ ':' :: ':' :: [':'].intercalate right).splitOn ':' =
      sidePieces left ++ [] :: sidePieces right := by
  rw [splitOn_append_colon, splitOn_cons_colon, splitOn_groups hleft, splitOn_groups hright]

/-- The second of three colons has an empty piece on either side. -/
theorem colons_shortened :
    ¬[':', ':', ':'] <:+: [':'].intercalate left ++ ':' :: ':' :: [':'].intercalate right := by
  rintro ⟨s, t, heq⟩
  have hpieces := splitOn_shortened hleft hright
  rw [← heq, append_assoc, cons_append, cons_append, cons_append, nil_append,
    splitOn_append_colon, splitOn_cons_colon, splitOn_cons_colon] at hpieces
  have hs : s.splitOn ':' ≠ [] := splitOnP_ne_nil _ s
  have ht : t.splitOn ':' ≠ [] := splitOnP_ne_nil _ t
  generalize s.splitOn ':' = a at hpieces hs
  generalize t.splitOn ':' = b at hpieces ht
  have hlast {x : List (List Char)} (h : sidePieces right = x ++ [] :: b) : False := by
    refine (nil_notMem_sidePieces hright).2 ?_
    rw [h, dropLast_append_of_ne_nil (cons_ne_nil _ _), dropLast_cons_of_ne_nil ht]
    simp
  rcases append_eq_append_iff.mp hpieces with ⟨x, hx, hrest⟩ | ⟨x, rfl, hrest⟩
  · rcases x with _ | ⟨y, x⟩
    · exact hlast (x := []) (cons.inj hrest).2.symm
    · refine (nil_notMem_sidePieces hleft).1 ?_
      rw [hx, tail_append_of_ne_nil hs, (cons.inj hrest).1]
      simp
  · rcases x with _ | ⟨y, x⟩
    · exact hlast (x := []) (cons.inj hrest).2
    · exact hlast (x := x ++ [[]]) ((cons.inj hrest).2.trans (by simp))

end

theorem tidy_of_isIpv6Text (h : IsIpv6Text cs) : Tidy cs := by
  obtain ⟨left, right, hall, ⟨rfl, hlength⟩ | ⟨rfl, hlength⟩⟩ := h
  · refine tidy_groups hall fun hnil => ?_
    rw [hnil] at hlength
    cases hlength
  · obtain ⟨hleft, hright⟩ := forall_mem_append.mp hall
    have hpieces := splitOn_shortened hleft hright
    refine ⟨?_, colons_shortened hleft hright, fun _ => ?_⟩
    · rintro ⟨t, heq⟩
      rw [← heq, singleton_append, splitOn_cons_colon] at hpieces
      rcases left with _ | ⟨g, left⟩
      · exact prefix_append [':', ':'] _
      · rw [sidePieces, if_neg (cons_ne_nil _ _), cons_append, cons.injEq] at hpieces
        exact absurd hpieces.1.symm (hleft g mem_cons_self).1
    · rw [hpieces, filter_append, filter_cons_of_neg (by simp), filter_sidePieces hleft,
        filter_sidePieces hright]
      exact hlength

theorem mem_of_isIpv6Text (h : IsIpv6Text cs) (hc : c ∈ cs) :
    c = ':' ∨ c ∈ "0123456789ABCDEFabcdef".toList := by
  have hside {gs : List (List Char)} (hgs : ∀ g ∈ gs, IsGroup g) (hc : c ∈ [':'].intercalate gs) :
      c = ':' ∨ c ∈ "0123456789ABCDEFabcdef".toList := by
    rcases gs with _ | ⟨g, gs⟩
    · cases hc
    simp only [intercalate_cons, mem_append, mem_flatMap, mem_cons] at hc
    rcases hc with hc | ⟨g', hg', rfl | hc⟩
    · exact .inr ((hgs g mem_cons_self).2.2 c hc)
    · exact .inl rfl
    · exact .inr ((hgs g' (mem_cons_of_mem _ hg')).2.2 c hc)
  obtain ⟨left, right, hall, ⟨rfl, -⟩ | ⟨rfl, -⟩⟩ := h
  · exact hside hall hc
  · obtain ⟨hleft, hright⟩ := forall_mem_append.mp hall
    simp only [mem_append, mem_cons] at hc
    rcases hc with hc | rfl | rfl | hc
    · exact hside hleft hc
    · exact .inl rfl
    · exact .inl rfl
    · exact hside hright hc

theorem tidyAddress_of_isIpLiteral (h : IsIpLiteral value) :
    TidyAddress value := by
  have hplain (hopen : '[' ∉ value.toList) (htidy : Tidy value.toList) : TidyAddress value := by
    unfold TidyAddress
    split
    · next rest htext =>
      rw [htext] at hopen
      exact absurd mem_cons_self hopen
    · exact htidy
  rcases h with h | h | ⟨addr, htext, h⟩
  · have hcolon : ':' ∉ value.toList := fun hc => absurd (mem_of_isIpv4Text h hc) (by decide)
    refine hplain (fun hc => absurd (mem_of_isIpv4Text h hc) (by decide)) ⟨?_, ?_, ?_⟩
    · exact fun hin => absurd (hin.subset mem_cons_self) hcolon
    · exact fun hin => hcolon (hin.subset mem_cons_self)
    · exact fun hin => absurd (hin.subset mem_cons_self) hcolon
  · exact hplain (fun hc => absurd (mem_of_isIpv6Text h hc) (by decide)) (tidy_of_isIpv6Text h)
  · unfold TidyAddress
    rw [htext]
    exact ⟨getLast?_concat, dropLast_concat ▸ tidy_of_isIpv6Text h⟩

/-- A text taken for an IP address is one if and only if it is a dotted quad or tidy. -/
theorem ipLiteral_of_isPureIpAddress {value : String} (h : isPureIpAddress value = true) :
    IsIpLiteral value ↔ isIpv4Address value = true ∨ TidyAddress value := by
  refine ⟨fun hip => .inr (tidyAddress_of_isIpLiteral hip), fun htidy => ?_⟩
  cases hv4 : isIpv4Address value with
  | true => exact .inl (isIpv4Text_of_isIpv4Address hv4)
  | false =>
    rw [hv4, or_iff_right Bool.false_ne_true] at htidy
    rw [isPureIpAddress, hv4, isIpv6Address] at h
    unfold TidyAddress at htidy
    split at h
    · next rest htext =>
      rw [htext] at htidy
      obtain ⟨hlast, htidy⟩ := htidy
      obtain ⟨addr, rfl⟩ := List.getLast?_eq_some_iff.mp hlast
      rw [List.rdropWhile_concat_neg _ _ _ (by decide)] at h
      dsimp only at h
      split at h
      · cases h
      · rw [List.dropLast_concat] at h htidy
        exact .inr (.inr ⟨addr, htext, isIpv6Text_of_tidy h htidy⟩)
    · next addr hbracket =>
      refine .inr (.inl (isIpv6Text_of_tidy h ?_))
      split at htidy
      · next rest htext => exact absurd htext (hbracket rest)
      · exact htidy

theorem ipLiteral_bracketed : IsIpLiteral "[fe80::1]" := by
  refine (ipLiteral_of_isPureIpAddress (by decide +kernel)).mpr (.inr ⟨rfl, ?_, ?_, ?_⟩)
  all_goals decide +kernel

theorem junk_after_bracket :
    isPureIpAddress "[::1]junk" = true ∧ ¬IsIpLiteral "[::1]junk" :=
  ⟨by decide +kernel, fun h => absurd (tidyAddress_of_isIpLiteral h).1 (by decide)⟩

end ZeroVpn.Utils
