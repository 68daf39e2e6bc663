import Mathlib.Data.List.Perm.Basic
import Mathlib.Data.List.Nodup

/-!
# Association lists

In a list of pairs with distinct keys a lookup does not depend on the order of the pairs.
-/

namespace ZeroVpn

open List

variable {κ α : Type}

theorem lookup_map {β : Type} [BEq κ] (f : β → κ × α) (l : List β) (k : κ) :
    (l.map f).lookup k = (l.find? fun b => k == (f b).1).map fun b => (f b).2 := by
  induction l with
  | nil => rfl
  | cons b l ih =>
    rw [map_cons, lookup_cons, find?_cons]
    cases k == (f b).1 with
    | true => rfl
    | false => exact ih

section lookup
variable [BEq κ] [LawfulBEq κ]

theorem lookup_eq_some_iff_mem {l : List (κ × α)} (h : (l.map Prod.fst).Nodup) :
    l.lookup k = some v ↔ (k, v) ∈ l := by
  constructor
  · intro hl
    obtain ⟨l₁, l₂, rfl, -⟩ := lookup_eq_some_iff.mp hl
    exact mem_append_right _ mem_cons_self
  · intro hmem
    obtain ⟨l₁, l₂, rfl⟩ := append_of_mem hmem
    refine lookup_eq_some_iff.mpr ⟨l₁, l₂, rfl, fun e he => ?_⟩
    rw [bne_iff_ne]
    rintro rfl
    rw [map_append, nodup_append] at h
    exact h.2.2 e.1 (mem_map_of_mem he) e.1 mem_cons_self rfl

theorem lookup_eq_none_of_notMem {l : List (κ × α)} (h : k ∉ l.map Prod.fst) :
    l.lookup k = none := by
  refine lookup_eq_none_iff.mpr fun e he => ?_
  rw [bne_iff_ne]
  rintro rfl
  exact h (mem_map_of_mem he)

theorem lookup_eq_of_perm {l₁ l₂ : List (κ × α)} (hperm : l₁.Perm l₂)
    (h : (l₂.map Prod.fst).Nodup) (k : κ) : l₁.lookup k = l₂.lookup k := by
  have h₁ : (l₁.map Prod.fst).Nodup := (hperm.map Prod.fst).nodup_iff.mpr h
  ext v
  rw [lookup_eq_some_iff_mem h₁, lookup_eq_some_iff_mem h, hperm.mem_iff]

end lookup

/-- Of pairs without a value nothing is left. -/
def present (l : List (κ × Option α)) : List (κ × α) :=
  l.filterMap fun e => e.2.map fun v => (e.1, v)

theorem mem_present {k : κ} :
    (k, v) ∈ present l ↔ (k, some v) ∈ l := by
  simp only [present, mem_filterMap, Option.map_eq_some_iff, Prod.mk.injEq]
  constructor
  · rintro ⟨⟨k', o⟩, hmem, v', rfl, rfl, rfl⟩
    exact hmem
  · exact fun hmem => ⟨(k, some v), hmem, v, rfl, rfl, rfl⟩

theorem keys_present_sublist (l : List (κ × Option α)) :
    ((present l).map Prod.fst).Sublist (l.map Prod.fst) := by
  induction l with
  | nil => exact List.Sublist.slnil
  | cons e l ih =>
    obtain ⟨k, o⟩ := e
    cases o with
    | none => exact ih.cons k
    | some v => exact ih.cons_cons k

theorem lookup_present [BEq κ] [LawfulBEq κ] {l : List (κ × Option α)}
    (h : (l.map Prod.fst).Nodup) (k : κ) : (present l).lookup k = (l.lookup k).join := by
  have hpresent : ((present l).map Prod.fst).Nodup := (keys_present_sublist l).nodup h
  ext v
  rw [lookup_eq_some_iff_mem hpresent, mem_present, ← lookup_eq_some_iff_mem h,
    Option.join_eq_some_iff]

end ZeroVpn
