import ZeroVpn.Util.Utils

/-!
# What the expressions for IP addresses accept
-/

namespace ZeroVpn.Utils
open Regex RegularExpression List

/-- A decimal number up to 255. -/
def isOctet (cs : List Char) : Bool :=
  cs.all Char.isDigit && (Text.digitsToNat cs).any (· ≤ 255)

def IsIpv4Text (cs : List Char) : Prop :=
  ∃ a b c d, cs = a ++ '.' :: b ++ '.' :: c ++ '.' :: d ∧ ∀ o ∈ [a, b, c, d], isOctet o = true

/-- A group of 16 bits. -/
def IsGroup (cs : List Char) : Prop :=
  cs ≠ [] ∧ cs.length ≤ 4 ∧ ∀ c ∈ cs, c ∈ "0123456789ABCDEFabcdef".toList

theorem isOctet_of_mem (h : cs ∈ octetRegex.matches') : isOctet cs = true := by
  have hshort : "01".toList.all fun a => "0123456789".toList.all fun b => "0123456789".toList.all
      fun c => isOctet [c] && isOctet [b, c] && isOctet [a, c] && isOctet [a, b, c] := by decide
  have hlong : ("01234".toList.all fun b => "0123456789".toList.all fun c => isOctet ['2', b, c]) ∧
      "012345".toList.all fun c => isOctet ['2', '5', c] := by decide
  simp only [all_eq_true, Bool.and_eq_true, and_assoc] at hshort hlong
  rcases h with (⟨_, ⟨_, hl, _, hm, rfl⟩, _, hr, rfl⟩ | ⟨_, ⟨_, rfl, _, hm, rfl⟩, _, hr, rfl⟩) |
    ⟨_, ⟨_, rfl, _, rfl, rfl⟩, _, hr, rfl⟩
  · obtain ⟨c, hc, rfl⟩ := mem_oneOf.mp hr
    rcases mem_opt.mp hl with rfl | hl
    · rcases mem_opt.mp hm with rfl | hm
      · exact (hshort '0' (by decide) c hc c hc).1
      · obtain ⟨b, hb, rfl⟩ := mem_oneOf.mp hm
        exact (hshort '0' (by decide) b hb c hc).2.1
    · obtain ⟨a, ha, rfl⟩ := mem_oneOf.mp hl
      rcases mem_opt.mp hm with rfl | hm
      · exact (hshort a ha c hc c hc).2.2.1
      · obtain ⟨b, hb, rfl⟩ := mem_oneOf.mp hm
        exact (hshort a ha b hb c hc).2.2.2
  · obtain ⟨c, hc, rfl⟩ := mem_oneOf.mp hr
    obtain ⟨b, hb, rfl⟩ := mem_oneOf.mp hm
    exact hlong.1 b hb c hc
  · obtain ⟨c, hc, rfl⟩ := mem_oneOf.mp hr
    exact hlong.2 c hc

theorem isIpv4Text_of_isIpv4Address {value : String} (h : isIpv4Address value = true) :
    IsIpv4Text value.toList := by
  rw [isIpv4Address, matchesAll, rmatch_iff_matches', ipv4Regex] at h
  obtain ⟨_, ⟨_, ⟨_, ⟨_, ⟨_, ⟨a, ha, _, rfl, rfl⟩, b, hb, rfl⟩, _, rfl, rfl⟩, c, hc, rfl⟩, _, rfl,
    rfl⟩, d, hd, htext⟩ := h
  refine ⟨a, b, c, d, ?_, ?_⟩
  · rw [← htext]
    simp
  · simp only [forall_mem_cons]
    exact ⟨isOctet_of_mem ha, isOctet_of_mem hb, isOctet_of_mem hc, isOctet_of_mem hd,
      forall_mem_nil _⟩

/-- The characters of a dotted quad. -/
theorem mem_of_isIpv4Text (h : IsIpv4Text cs) {c : Char} (hc : c ∈ cs) :
    c = '.' ∨ c.isDigit = true := by
  obtain ⟨a, b, d, e, rfl, hoctets⟩ := h
  have hdigit {o : List Char} (ho : o ∈ [a, b, d, e]) (hc : c ∈ o) : c.isDigit = true :=
    all_eq_true.mp (Bool.and_eq_true_iff.mp (hoctets o ho)).1 c hc
  simp only [mem_append, mem_cons] at hc
  rcases hc with ((hc | rfl | hc) | rfl | hc) | rfl | hc
  · exact .inr (hdigit (by simp) hc)
  · exact .inl rfl
  · exact .inr (hdigit (by simp) hc)
  · exact .inl rfl
  · exact .inr (hdigit (by simp) hc)
  · exact .inl rfl
  · exact .inr (hdigit (by simp) hc)

theorem intercalate_cons (g : List Char) (gs : List (List Char)) :
    [':'].intercalate (g :: gs) = g ++ gs.flatMap (':' :: ·) := by
  induction gs generalizing g with
  | nil => simp [intercalate]
  | cons h gs ih => simpa [intercalate] using ih h

theorem of_mem_colonGroup {w : List Char} (h : w ∈ colonGroupRegex.matches') :
    IsGroup w.tail ∧ ':' :: w.tail = w := by
  obtain ⟨_, rfl, g, hg, rfl⟩ := Language.mem_mul.mp h
  exact ⟨of_mem_upTo hg, rfl⟩

/-- Words that are groups after a colon. -/
theorem exists_groups {words : List (List Char)} (h : ∀ w ∈ words, w ∈ colonGroupRegex.matches') :
    ∃ gs : List (List Char), gs.length = words.length ∧ (∀ g ∈ gs, IsGroup g) ∧
      words.flatten = gs.flatMap (':' :: ·) := by
  refine ⟨words.map tail, length_map _, ?_, ?_⟩
  · rintro _ hg
    obtain ⟨w, hw, rfl⟩ := mem_map.mp hg
    exact (of_mem_colonGroup (h w hw)).1
  · rw [flatMap_map, flatten_eq_flatMap]
    exact flatMap_congr fun w hw => (of_mem_colonGroup (h w hw)).2.symm

theorem exists_of_ipv6 (h : ipv6Regex.rmatch cs = true) :
    (∃ gs : List (List Char), gs.length = 8 ∧ (∀ g ∈ gs, IsGroup g) ∧
      cs = [':'].intercalate gs) ∨
    ∃ a gs b hs, (a = [] ∨ IsGroup a) ∧ (b = [] ∨ IsGroup b) ∧ (∀ g ∈ gs ++ hs, IsGroup g) ∧
      cs = [':'].intercalate (a :: gs) ++ ':' :: ':' :: [':'].intercalate (b :: hs) := by
  rw [rmatch_iff_matches', ipv6Regex, matches'_add] at h
  rcases h with h | h
  · obtain ⟨_, ⟨_, ⟨_, ⟨_, ⟨a, ha, _, ⟨ws, rfl, hws⟩, rfl⟩, _, rfl, rfl⟩, _, rfl, rfl⟩, b, hb, rfl⟩,
      _, ⟨vs, rfl, hvs⟩, rfl⟩ := h
    obtain ⟨gs, -, hgs, hws⟩ := exists_groups hws
    obtain ⟨hs, -, hhs, hvs⟩ := exists_groups hvs
    refine .inr ⟨a, gs, b, hs, (mem_opt.mp ha).imp_right of_mem_upTo,
      (mem_opt.mp hb).imp_right of_mem_upTo, ?_, ?_⟩
    · exact forall_mem_append.mpr ⟨hgs, hhs⟩
    · rw [intercalate_cons, intercalate_cons, hws, hvs]
      simp
  · obtain ⟨g, hg, _, hrest, rfl⟩ := Language.mem_mul.mp h
    obtain ⟨ws, hlength, hws, rfl⟩ := of_mem_times hrest
    obtain ⟨gs, hgs, hgroups, hws⟩ := exists_groups hws
    refine .inl ⟨g :: gs, ?_, forall_mem_cons.mpr ⟨of_mem_upTo hg, hgroups⟩, ?_⟩
    · rw [length_cons, hgs, hlength]
    · rw [intercalate_cons, hws]

/-- An IPv6 address has a colon. -/
theorem colon_mem_of_ipv6 (h : ipv6Regex.rmatch cs = true) : ':' ∈ cs := by
  rcases exists_of_ipv6 h with ⟨gs, hlength, -, rfl⟩ | ⟨a, gs, b, hs, -, -, -, rfl⟩
  · rcases gs with _ | ⟨g, _ | ⟨g', gs⟩⟩
    · cases hlength
    · cases hlength
    · simp [intercalate_cons]
  · simp

end ZeroVpn.Utils
