import Mathlib.Algebra.Order.BigOperators.Group.List
import Mathlib.Algebra.Order.Ring.Nat

/-!
# Sums over the parts of a state

A system of threads is a list of parts. A step puts something else in the place of one of them, or
takes it away. `tally w` sums a weight over the parts, and `tally_set` and `tally_replace` say how a
step changes the sum.
-/

namespace ZeroVpn.Tally

open List

variable {α : Type} {w w' : α → Nat} {l : List α} {i : Nat} {a b : α}

def tally (w : α → Nat) (l : List α) : Nat := (l.map w).sum

/-- Put what is left of a part in its place. -/
def replace (l : List α) (i : Nat) : Option α → List α
  | some a => l.set i a
  | none => l.eraseIdx i

@[simp] theorem tally_nil : tally w [] = 0 := rfl

@[simp] theorem tally_cons : tally w (a :: l) = w a + tally w l := by
  rfl

@[simp] theorem tally_append (l₁ l₂ : List α) : tally w (l₁ ++ l₂) = tally w l₁ + tally w l₂ := by
  rw [tally, map_append, sum_append]
  rfl

/-- A part in the middle of the others. -/
theorem exists_split (h : l[i]? = some a) (next : Option α) :
    ∃ pre post, l = pre ++ a :: post ∧ replace l i next = pre ++ next.toList ++ post := by
  obtain ⟨hi, rfl⟩ := List.getElem?_eq_some_iff.mp h
  refine ⟨l.take i, l.drop (i + 1), ?_, ?_⟩
  · rw [getElem_cons_drop, take_append_drop]
  · cases next with
    | none =>
      rw [Option.toList_none, append_nil]
      exact eraseIdx_eq_take_drop_succ _ _
    | some b =>
      rw [replace, Option.toList_some, append_assoc, set_eq_take_append_cons_drop,
        if_pos hi]
      rfl

theorem tally_replace (w : α → Nat) (h : l[i]? = some a) (next : Option α) :
    tally w (replace l i next) + w a = tally w l + next.elim 0 w := by
  obtain ⟨pre, post, hl, hnext⟩ := exists_split h next
  rw [hnext, hl]
  cases next with
  | none => simp; omega
  | some b => simp; omega

theorem tally_set (w : α → Nat) (h : l[i]? = some a) (b : α) :
    tally w (l.set i b) + w a = tally w l + w b :=
  tally_replace w h (some b)

theorem mem_replace {next : Option α} (h : b ∈ replace l i next) : b ∈ l ∨ next = some b := by
  cases next with
  | none => exact .inl (mem_of_mem_eraseIdx h)
  | some c => exact (mem_or_eq_of_mem_set h).imp_right fun heq => congrArg some heq.symm

theorem mem_replace_of_ne {next : Option α} (h : l[i]? = some a) (hb : b ∈ l) (hne : b ≠ a) :
    b ∈ replace l i next := by
  obtain ⟨pre, post, hl, hnext⟩ := exists_split h next
  rw [hl, mem_append, mem_cons] at hb
  rw [hnext, mem_append, mem_append]
  rcases hb with hpre | heq | hpost
  · exact .inl (.inl hpre)
  · exact absurd heq hne
  · exact .inr hpost

theorem mem_replace_some (h : l[i]? = some a) : b ∈ replace l i (some b) := by
  obtain ⟨pre, post, -, hnext⟩ := exists_split h (some b)
  rw [hnext, mem_append, mem_append]
  exact .inl (.inr mem_cons_self)

theorem tally_eq_zero (h : ∀ a ∈ l, w a = 0) : tally w l = 0 := by
  refine sum_eq_zero fun n hn => ?_
  obtain ⟨a, ha, rfl⟩ := mem_map.mp hn
  exact h a ha

theorem tally_mono (h : ∀ a, w a ≤ w' a) : tally w l ≤ tally w' l :=
  sum_le_sum fun a _ => h a

theorem le_tally (h : a ∈ l) : w a ≤ tally w l := by
  obtain ⟨pre, post, rfl⟩ := append_of_mem h
  rw [tally_append, tally_cons]
  omega

theorem countP_le_tally {p : α → Bool} (h : ∀ a, p a = true → 1 ≤ w a) : l.countP p ≤ tally w l := by
  induction l with
  | nil => exact Nat.zero_le _
  | cons a l ih =>
    rw [countP_cons, tally_cons]
    split
    · next ha => have := h a ha; omega
    · omega

end ZeroVpn.Tally
