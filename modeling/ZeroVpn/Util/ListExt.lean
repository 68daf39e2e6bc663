import Mathlib.Data.List.InsertIdx
import Mathlib.Data.List.Perm.Basic

/-!
# Moving an element of a list
-/

namespace ZeroVpn

variable {α : Type}

/-- `MutableList.moveItem`; `none` if it returns false. -/
def moveItem (l : List α) (fromIndex toIndex : Nat) : Option (List α) :=
  match l[fromIndex]? with
  | some a =>
    if toIndex < l.length ∧ fromIndex ≠ toIndex then
      some ((l.eraseIdx fromIndex).insertIdx toIndex a)
    else none
  | none => none

theorem moveItem_perm {l l' : List α} {fromIndex toIndex : Nat}
    (h : moveItem l fromIndex toIndex = some l') : l'.Perm l := by
  unfold moveItem at h
  split at h
  · next a ha =>
    split at h
    · next hbounds =>
      cases h
      obtain ⟨hlt, rfl⟩ := List.getElem?_eq_some_iff.mp ha
      have hlength : (l.eraseIdx fromIndex).length = l.length - 1 := List.length_eraseIdx_of_lt hlt
      refine (List.perm_insertIdx _ _ (by omega)).trans ?_
      exact List.getElem_cons_eraseIdx_perm hlt
    · cases h
  · cases h

end ZeroVpn
