import Mathlib.Data.List.Perm.Basic

/-!
# The order in which groups are preloaded

From the selected group outwards, the right neighbour first.
-/

namespace ZeroVpn.MainViewModel
open List

structure GroupMapItem where
  id : String

/-- `groups[index].id` if the index is one of the list. -/
def idAt (groups : List GroupMapItem) (index : Int) : List String :=
  if 0 ≤ index ∧ index < groups.length then (groups[index.toNat]?.map (·.id)).toList else []

def radialPreloadOrder (groups : List GroupMapItem) (selectedIndex : Int) : List String :=
  if groups.isEmpty then []
  else (range' 1 (groups.length - 1)).flatMap fun distance : Nat =>
    idAt groups (selectedIndex + distance) ++ idAt groups (selectedIndex - distance)

/-- A position comes first if it is nearer to `i`, or as near and on the right. -/
def Nearer (i p q : Nat) : Prop :=
  ((p : Int) - i).natAbs < ((q : Int) - i).natAbs ∨
    ((p : Int) - i).natAbs = ((q : Int) - i).natAbs ∧ q < p

variable {groups : List GroupMapItem} {n i p : Nat}

/-- The positions in the order of the loop, with those after the end. -/
def positions (n i : Nat) : List Nat :=
  (range' 1 (n - 1)).flatMap fun d => [i + d] ++ if d ≤ i then [i - d] else []

theorem mem_positions (hi : i < n) (hp : p < n) : p ∈ positions n i ↔ p ≠ i := by
  simp only [positions, mem_flatMap, mem_range'_1, mem_append, mem_ite_nil_right,
    mem_singleton]
  constructor
  · rintro ⟨d, hd, h | h⟩ <;> omega
  · intro h
    rcases Nat.lt_or_ge i p with hlt | hge
    · exact ⟨p - i, by omega, .inl (by omega)⟩
    · exact ⟨i - p, by omega, .inr (by omega)⟩

theorem pairwise_positions (n i : Nat) : (positions n i).Pairwise (Nearer i) := by
  have hlt : (range' 1 (n - 1)).Pairwise (· < ·) := pairwise_lt_range'
  rw [positions, pairwise_flatMap]
  constructor
  · intro d hd
    rw [mem_range'_1] at hd
    split <;> simp [Nearer]
    omega
  · refine hlt.imp_of_mem fun {d e} hd he hde p hp q hq => ?_
    simp only [mem_append, mem_ite_nil_right, mem_singleton] at hp hq
    rw [Nearer]
    omega

theorem idAt_natCast (p : Nat) :
    idAt groups p = [p].filterMap fun p => (groups.map (·.id))[p]? := by
  by_cases h : p < groups.length
  · simp [idAt, h]
  · simp [idAt, h]

theorem radialPreloadOrder_eq (hi : i < groups.length) : radialPreloadOrder groups i =
    (positions groups.length i).filterMap fun p => (groups.map (·.id))[p]? := by
  have hne : groups.isEmpty = false := by
    rw [isEmpty_eq_false_iff]
    exact ne_nil_of_length_pos (by omega)
  rw [radialPreloadOrder, hne, positions, filterMap_flatMap]
  refine flatMap_congr fun d _ => ?_
  rw [filterMap_append, ← Int.natCast_add, idAt_natCast]
  split
  · next h => rw [← Int.natCast_sub h, idAt_natCast]
  · next h => rw [idAt, if_neg (by omega), filterMap_nil]

/-- The order has the ID of every group but the selected one, each once, from the nearest to the
farthest position, on the right before the left. -/
theorem radialPreloadOrder_sorted (hnodup : (groups.map (·.id)).Nodup) (hi : i < groups.length) :
    (radialPreloadOrder groups i).Perm ((groups.map (·.id)).eraseIdx i) ∧
      (radialPreloadOrder groups i).Pairwise fun a b =>
        Nearer i ((groups.map (·.id)).idxOf a) ((groups.map (·.id)).idxOf b) := by
  rw [radialPreloadOrder_eq hi]
  generalize hids : groups.map (·.id) = ids at hnodup
  have hlt {p : Nat} {a : String} (h : ids[p]? = some a) : p < groups.length := by
    rw [← hids] at h
    simpa using (List.getElem?_eq_some_iff.mp h).1
  have hsorted : ((positions groups.length i).filterMap fun p => ids[p]?).Pairwise fun a b =>
      Nearer i (ids.idxOf a) (ids.idxOf b) := by
    rw [pairwise_filterMap]
    refine (pairwise_positions groups.length i).imp fun {p q} h a ha b hb => ?_
    obtain ⟨hp, rfl⟩ := List.getElem?_eq_some_iff.mp ha
    obtain ⟨hq, rfl⟩ := List.getElem?_eq_some_iff.mp hb
    rwa [hnodup.idxOf_getElem p hp, hnodup.idxOf_getElem q hq]
  refine ⟨(perm_ext_iff_of_nodup ?_ (hnodup.eraseIdx i)).mpr fun a => ?_, hsorted⟩
  · refine hsorted.imp fun {a b} h heq => ?_
    rw [heq, Nearer] at h
    omega
  · rw [mem_filterMap, mem_eraseIdx_iff_getElem?]
    constructor
    · rintro ⟨p, hp, ha⟩
      exact ⟨p, (mem_positions hi (hlt ha)).mp hp, ha⟩
    · rintro ⟨p, hp, ha⟩
      exact ⟨p, (mem_positions hi (hlt ha)).mpr hp, ha⟩

theorem radialPreloadOrder_of_four : (radialPreloadOrder
    [⟨"a"⟩, ⟨"b"⟩, ⟨"c"⟩, ⟨"d"⟩] 1).Perm ["a", "c", "d"] :=
  (@radialPreloadOrder_sorted [⟨"a"⟩, ⟨"b"⟩, ⟨"c"⟩, ⟨"d"⟩] 1 (by decide)
    (by decide)).1

end ZeroVpn.MainViewModel
