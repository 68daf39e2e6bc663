import Mathlib.Logic.Basic

/-!
# Runs of operations

A run executes a list of operations one after the other. `StepsMeet c` says that every operation
meets a condition in the state it starts from, `Always p` that a property holds in every state the
run goes through. `always_iff_stepsMeet` reduces an exact condition for whole runs to one for
single steps.
-/

namespace ZeroVpn.Run

variable {σ ω : Type} {apply : σ → ω → σ} {c d : σ → ω → Prop} {j p : σ → Prop}

/-- `c` holds of every operation in the state it starts from. -/
def StepsMeet (apply : σ → ω → σ) (c : σ → ω → Prop) : σ → List ω → Prop
  | _, [] => True
  | s, op :: ops => c s op ∧ StepsMeet apply c (apply s op) ops

/-- `p` holds in every state of the run, the first and the last included. -/
def Always (apply : σ → ω → σ) (p : σ → Prop) : σ → List ω → Prop
  | s, [] => p s
  | s, op :: ops => p s ∧ Always apply p (apply s op) ops

instance decidableStepsMeet [∀ s op, Decidable (c s op)] :
    (s : σ) → (ops : List ω) → Decidable (StepsMeet apply c s ops)
  | _, [] => inferInstanceAs (Decidable True)
  | s, op :: ops =>
    have := decidableStepsMeet (apply s op) ops
    inferInstanceAs (Decidable (c s op ∧ StepsMeet apply c (apply s op) ops))

variable {s : σ} {ops : List ω}

theorem stepsMeet_trivial (ops : List ω) : StepsMeet apply (fun _ _ => True) s ops := by
  induction ops generalizing s with
  | nil => trivial
  | cons op ops ih => exact ⟨trivial, ih⟩

theorem StepsMeet.and (hc : StepsMeet apply c s ops) (hd : StepsMeet apply d s ops) :
    StepsMeet apply (fun s op => c s op ∧ d s op) s ops := by
  induction ops generalizing s with
  | nil => trivial
  | cons op ops ih => exact ⟨⟨hc.1, hd.1⟩, ih hc.2 hd.2⟩

theorem StepsMeet.imp (h : StepsMeet apply c s ops) (himp : ∀ s op, c s op → d s op) :
    StepsMeet apply d s ops := by
  induction ops generalizing s with
  | nil => trivial
  | cons op ops ih => exact ⟨himp s op h.1, ih h.2⟩

theorem stepsMeet_append {ops' : List ω} :
    StepsMeet apply c s (ops ++ ops') ↔
      StepsMeet apply c s ops ∧ StepsMeet apply c (ops.foldl apply s) ops' := by
  induction ops generalizing s with
  | nil => exact ⟨fun h => ⟨trivial, h⟩, And.right⟩
  | cons op ops ih =>
    rw [List.cons_append, StepsMeet, ih, StepsMeet, List.foldl_cons, and_assoc]

theorem Always.imp (h : Always apply j s ops) (himp : ∀ s, j s → p s) : Always apply p s ops := by
  induction ops generalizing s with
  | nil => exact himp s h
  | cons op ops ih => exact ⟨himp s h.1, ih h.2⟩

theorem Always.first (h : Always apply p s ops) : p s := by
  cases ops with
  | nil => exact h
  | cons op ops => exact h.1

theorem Always.last (h : Always apply p s ops) : p (ops.foldl apply s) := by
  induction ops generalizing s with
  | nil => exact h
  | cons op ops ih => exact ih h.2

/-- A property that steps meeting `c` preserve holds throughout. -/
theorem always_of_stepsMeet (hstep : ∀ s op, p s → c s op → p (apply s op)) (hs : p s)
    (h : StepsMeet apply c s ops) : Always apply p s ops := by
  induction ops generalizing s with
  | nil => exact hs
  | cons op ops ih => exact ⟨hs, ih (hstep s op hs h.1) h.2⟩

/-- A property that is not regained once it is lost holds throughout if it holds at the end. -/
theorem always_of_last (hj : ∀ s op, j s → d s op → j (apply s op))
    (hlost : ∀ s op, j s → d s op → p (apply s op) → p s) (hs : j s)
    (hd : StepsMeet apply d s ops) (hlast : p (ops.foldl apply s)) : Always apply p s ops := by
  induction ops generalizing s with
  | nil => exact hlast
  | cons op ops ih =>
    have hrest := ih (hj s op hs hd.1) hd.2 hlast
    exact ⟨hlost s op hs hd.1 hrest.first, hrest⟩

/-- Let the invariant `j` be kept by all steps that meet `d`. If such a step from a state with `j`
and `p` keeps `p` exactly when it meets `c`, then a run keeps `p` exactly when all its steps
meet `c`. -/
theorem always_iff_stepsMeet (hj : ∀ s op, j s → d s op → j (apply s op))
    (hp : ∀ s op, j s → p s → d s op → (p (apply s op) ↔ c s op)) (hjs : j s) (hps : p s)
    (hd : StepsMeet apply d s ops) : Always apply p s ops ↔ StepsMeet apply c s ops := by
  induction ops generalizing s with
  | nil => exact iff_of_true hps trivial
  | cons op ops ih =>
    have hj' := hj s op hjs hd.1
    constructor
    · rintro ⟨-, h⟩
      exact ⟨(hp s op hjs hps hd.1).mp h.first, (ih hj' h.first hd.2).mp h⟩
    · rintro ⟨hc, h⟩
      have hp' := (hp s op hjs hps hd.1).mpr hc
      exact ⟨hps, (ih hj' hp' hd.2).mpr h⟩

end ZeroVpn.Run
