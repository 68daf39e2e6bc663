import Mathlib.Computability.RegularExpressions

/-!
# Regular expressions over characters

The operators of the usual regular expression notation on top of Mathlib's `RegularExpression`;
`matchesAll` is a match of the whole text.
-/

namespace ZeroVpn.Regex
open RegularExpression

/-- `[…]` -/
def oneOf (cs : List Char) : RegularExpression Char := cs.foldr (fun c r => char c + r) 0

/-- `r?` -/
def opt (r : RegularExpression Char) : RegularExpression Char := 1 + r

/-- `r{n}` -/
def times (r : RegularExpression Char) : Nat → RegularExpression Char
  | 0 => 1
  | n + 1 => r * times r n

/-- `r{1,n}` -/
def upTo (r : RegularExpression Char) : Nat → RegularExpression Char
  | 0 => 0
  | 1 => r
  | n + 1 => r * opt (upTo r n)

/-- `[0-9]` -/
def digit : RegularExpression Char := oneOf "0123456789".toList

/-- `[0-9A-Fa-f]` -/
def hexDigit : RegularExpression Char := oneOf "0123456789ABCDEFabcdef".toList

def matchesAll (r : RegularExpression Char) (s : String) : Bool := r.rmatch s.toList

section
variable {r : RegularExpression Char} {cs l : List Char}

theorem mem_oneOf : l ∈ (oneOf cs).matches' ↔ ∃ c ∈ cs, l = [c] := by
  induction cs with
  | nil => simp [oneOf]
  | cons c cs ih =>
    rw [oneOf, List.foldr_cons, matches'_add, Language.mem_add, ← oneOf, ih]
    simp only [List.mem_cons, exists_eq_or_imp]
    rfl

theorem mem_opt : l ∈ (opt r).matches' ↔ l = [] ∨ l ∈ r.matches' := by
  rw [opt, matches'_add, Language.mem_add, matches'_epsilon, Language.mem_one]

/-- A text of `[…]{1,n}` is not empty, not longer than `n`, and of these characters. -/
theorem of_mem_upTo {n : Nat} (h : l ∈ (upTo (oneOf cs) n).matches') :
    l ≠ [] ∧ l.length ≤ n ∧ ∀ c ∈ l, c ∈ cs := by
  induction n generalizing l with
  | zero => cases h
  | succ n ih =>
    cases n with
    | zero =>
      obtain ⟨c, hc, rfl⟩ := mem_oneOf.mp h
      simpa using hc
    | succ n =>
      obtain ⟨_, hhead, rest, hrest, rfl⟩ := Language.mem_mul.mp h
      obtain ⟨c, hc, rfl⟩ := mem_oneOf.mp hhead
      rcases mem_opt.mp hrest with rfl | hrest
      · simpa using hc
      · obtain ⟨-, hlength, hall⟩ := ih hrest
        simpa [hc] using ⟨hlength, hall⟩

theorem of_mem_times {n : Nat} (h : l ∈ (times r n).matches') :
    ∃ ls : List (List Char), ls.length = n ∧ (∀ w ∈ ls, w ∈ r.matches') ∧ l = ls.flatten := by
  induction n generalizing l with
  | zero => exact ⟨[], rfl, List.forall_mem_nil _, h⟩
  | succ n ih =>
    obtain ⟨w, hw, rest, hrest, rfl⟩ := h
    obtain ⟨ls, hlength, hls, rfl⟩ := ih hrest
    exact ⟨w :: ls, congrArg (· + 1) hlength, List.forall_mem_cons.mpr ⟨hw, hls⟩, rfl⟩

end

end ZeroVpn.Regex
