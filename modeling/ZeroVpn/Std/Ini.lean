import ZeroVpn.Std.KV
import Mathlib.Data.List.ModifyLast

/-!
# Sectioned texts

A text of section headers and `key = value` entries, given line by line. `sections` cuts it at the
headers; what stands before the first header belongs to no section. Two ways of reading it are
described: sections of one name may be collected into one map (`entriesOf`), or each into its own
(`mapsOf`).
-/

namespace ZeroVpn.Ini

open List

variable {σ : Type}

inductive Line (σ : Type) where
  | header (section_ : σ)
  | entry (key value : String)
  | other
  deriving DecidableEq

/-- The entries before the next header. -/
def leading : List (Line σ) → List (String × String)
  | [] => []
  | .header _ :: _ => []
  | .entry key value :: lines => (key, value) :: leading lines
  | .other :: lines => leading lines

def sections : List (Line σ) → List (σ × List (String × String))
  | [] => []
  | .header s :: lines => (s, leading lines) :: sections lines
  | .entry _ _ :: lines => sections lines
  | .other :: lines => sections lines

section
variable [DecidableEq σ]

/-- The sections of a name, each with its entries. -/
def named (s : σ) (lines : List (Line σ)) : List (List (String × String)) :=
  ((sections lines).filter (·.1 = s)).map (·.2)

/-- The entries of all sections of a name. -/
def entriesOf (s : σ) (lines : List (Line σ)) : List (String × String) := (named s lines).flatten

/-- What the section that is being read, if it has this name, still gets. -/
def leadingOf (s : σ) (current : Option σ) (lines : List (Line σ)) : List (String × String) :=
  if current = some s then leading lines else []

theorem named_header (s s' : σ) (lines : List (Line σ)) :
    named s (.header s' :: lines) =
      if s' = s then leading lines :: named s lines else named s lines := by
  unfold named
  rw [sections, filter_cons]
  split
  · next h => rw [map_cons, if_pos (of_decide_eq_true h)]
  · next h => rw [if_neg fun heq => h (decide_eq_true heq)]

/-! ## One map for each name -/

/-- Reading into one map for the sections of the name `s`. -/
def collect (s : σ) (st : Option σ × LinkedMap String String) : Line σ →
    Option σ × LinkedMap String String
  | .header s' => (some s', st.2)
  | .entry key value => (st.1, if st.1 = some s then st.2.put key value else st.2)
  | .other => st

theorem foldl_collect (s : σ) (lines : List (Line σ)) (current : Option σ)
    (m : LinkedMap String String) :
    (lines.foldl (collect s) (current, m)).2 =
      m.putAll (leadingOf s current lines ++ entriesOf s lines) := by
  induction lines generalizing current m with
  | nil =>
    unfold leadingOf entriesOf
    split <;> rfl
  | cons line lines ih =>
    rw [foldl_cons]
    cases line with
    | header s' =>
      rw [collect, ih]
      have hnone : leadingOf s current (.header s' :: lines) = [] := by
        unfold leadingOf
        split <;> rfl
      rw [hnone, nil_append]
      unfold leadingOf entriesOf
      rw [named_header]
      by_cases hs : s' = s
      · rw [if_pos hs, if_pos (congrArg some hs), flatten_cons]
      · rw [if_neg hs, if_neg fun h => hs (Option.some.inj h), nil_append]
    | entry key value =>
      rw [collect, ih]
      unfold leadingOf
      split
      · rfl
      · rfl
    | other => exact ih current m

/-! ## One map for each section -/

end
end ZeroVpn.Ini
