import ZeroVpn.Std.List

/-!
# Computations that may fail

Inversion of a successful `bind`, when a `bind` or a traversal succeeds, and two rules for a loop
that may fail. Simulation: if every round keeps a relation to a loop that cannot fail, so does the
whole loop. Invariance: if every round keeps a property, so does the whole loop.
-/

namespace ZeroVpn

open List

variable {ε α β γ : Type}
variable {x : Except ε α} {f : α → Except ε β} {b : β} {l : List α}

theorem bind_eq_ok : x >>= f = .ok b ↔ ∃ a, x = .ok a ∧ f a = .ok b := by
  cases x with
  | error e =>
    constructor
    · intro h
      cases h
    · rintro ⟨_, h, _⟩
      cases h
  | ok a =>
    constructor
    · exact fun h => ⟨a, rfl, h⟩
    · rintro ⟨_, h, hf⟩
      cases h
      exact hf

theorem exists_ok_of_isOk (h : x.isOk = true) : ∃ a, x = .ok a := by
  cases x with
  | error e => cases h
  | ok a => exact ⟨a, rfl⟩

theorem exists_bind_of_ok (hx : x = .ok a) (hf : ∃ b, f a = .ok b) :
    ∃ b, x >>= f = .ok b := by
  obtain ⟨b, hb⟩ := hf
  exact ⟨b, bind_eq_ok.mpr ⟨a, hx, hb⟩⟩

theorem exists_bind_eq_ok (hf : ∀ a, ∃ b, f a = .ok b) :
    (∃ b, x >>= f = .ok b) ↔ ∃ a, x = .ok a := by
  constructor
  · rintro ⟨b, hb⟩
    obtain ⟨a, ha, -⟩ := bind_eq_ok.mp hb
    exact ⟨a, ha⟩
  · rintro ⟨a, ha⟩
    exact exists_bind_of_ok ha (hf a)

theorem exists_mapM_iff : (∃ bs, l.mapM f = .ok bs) ↔ ∀ a ∈ l, ∃ b, f a = .ok b := by
  induction l with
  | nil => exact iff_of_true ⟨[], rfl⟩ (forall_mem_nil _)
  | cons a l ih =>
    rw [mapM_cons, forall_mem_cons, ← ih]
    constructor
    · rintro ⟨bs, hbs⟩
      obtain ⟨b, hb, hbs⟩ := bind_eq_ok.mp hbs
      obtain ⟨rest, hrest, -⟩ := bind_eq_ok.mp hbs
      exact ⟨⟨b, hb⟩, ⟨rest, hrest⟩⟩
    · rintro ⟨⟨b, hb⟩, ⟨rest, hrest⟩⟩
      exact ⟨_, bind_eq_ok.mpr ⟨b, hb, bind_eq_ok.mpr ⟨rest, hrest, rfl⟩⟩⟩

/-- A traversal that succeeds, element by element. -/
theorem forall₂_of_mapM (h : l.mapM f = .ok bs) :
    Forall₂ (fun a b => f a = .ok b) l bs := by
  induction l generalizing bs with
  | nil =>
    cases h
    exact .nil
  | cons a l ih =>
    rw [mapM_cons] at h
    obtain ⟨b, hb, h⟩ := bind_eq_ok.mp h
    obtain ⟨rest, hrest, h⟩ := bind_eq_ok.mp h
    cases h
    exact .cons hb (ih hrest)

/-- The results of a traversal that raises nothing come from its elements. -/
theorem mem_of_mapM_eq_ok {bs : List β} (h : l.mapM f = .ok bs) (hb : b ∈ bs) :
    ∃ a ∈ l, f a = .ok b :=
  exists_right_of_forall₂ (forall₂_of_mapM h).flip hb

/-- A traversal succeeds, and its results are related to its elements, if each step does so. -/
theorem exists_mapM_forall₂ (h : ∀ a ∈ l, ∃ b, f a = .ok b ∧ P a b) :
    ∃ bs, l.mapM f = .ok bs ∧ Forall₂ P l bs := by
  induction l with
  | nil => exact ⟨[], rfl, .nil⟩
  | cons a l ih =>
    obtain ⟨b, hb, hab⟩ := h a mem_cons_self
    obtain ⟨bs, hbs, hall⟩ := ih fun a' ha' => h a' (mem_cons_of_mem _ ha')
    refine ⟨b :: bs, ?_, .cons hab hall⟩
    rw [mapM_cons]
    exact bind_eq_ok.mpr ⟨b, hb, bind_eq_ok.mpr ⟨bs, hbs, rfl⟩⟩

theorem foldlM_simulates {f : β → α → Except ε β} {R : β → γ → Prop}
    (step : ∀ a ∈ l, ∀ b c b', R b c → f b a = .ok b' → R b' (g c a)) (h : R b c)
    (hf : l.foldlM f b = .ok b') : R b' (l.foldl g c) := by
  induction l generalizing b c with
  | nil =>
    cases hf
    exact h
  | cons a l ih =>
    obtain ⟨b₁, hb₁, hrest⟩ := bind_eq_ok.mp hf
    exact ih (fun a' ha' => step a' (mem_cons_of_mem _ ha'))
      (step a mem_cons_self b c b₁ h hb₁) hrest

theorem foldlM_invariant {f : β → α → Except ε β} {P : β → Prop}
    (step : ∀ a ∈ l, ∀ b b', P b → f b a = .ok b' → P b') {b' : β} (h : P b)
    (hf : l.foldlM f b = .ok b') : P b' :=
  foldlM_simulates (g := fun c _ => c) (R := fun b (_ : Unit) => P b)
    (fun a ha b _ b' => step a ha b b') (c := ()) h hf

end ZeroVpn
