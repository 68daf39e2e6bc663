import Mathlib.Logic.Relation

/-!
# Programs of atomic steps

A `Prog σ ε α` is the text of an operation on a shared state `σ`: atomic reads and writes, writes
that report whether they succeeded (`guarded`), and sections run under a lock (`locked`); it ends
with a value or raises an `ε`. The text is given three meanings:

* `run`, one thread and every write succeeds;
* `runFault`, one thread and one chosen guarded write fails without effect;
* `step`, one scheduling step, in which a locked section is a single step.
-/

namespace ZeroVpn

inductive Prog (σ ε : Type) : Type → Type 1 where
  | ret {α : Type} (a : α) : Prog σ ε α
  | fail {α : Type} (e : ε) : Prog σ ε α
  | atomic {α β : Type} (f : σ → β × σ) (k : β → Prog σ ε α) : Prog σ ε α
  | guarded {α : Type} (f : σ → σ) (k : Bool → Prog σ ε α) : Prog σ ε α
  | locked {α β : Type} (body : Prog σ ε β) (k : Except ε β → Prog σ ε α) : Prog σ ε α

namespace Prog

variable {σ ε α β γ : Type}

def bind : Prog σ ε α → (α → Prog σ ε β) → Prog σ ε β
  | .ret a, f => f a
  | .fail e, _ => .fail e
  | .atomic g k, f => .atomic g fun b => (k b).bind f
  | .guarded g k, f => .guarded g fun ok => (k ok).bind f
  | .locked body k, f => .locked body fun r => (k r).bind f

instance : Monad (Prog σ ε) where
  pure := .ret
  bind := .bind

def tryCatch : Prog σ ε α → (ε → Prog σ ε α) → Prog σ ε α
  | .ret a, _ => .ret a
  | .fail e, h => h e
  | .atomic g k, h => .atomic g fun b => (k b).tryCatch h
  | .guarded g k, h => .guarded g fun ok => (k ok).tryCatch h
  | .locked body k, h => .locked body fun r => (k r).tryCatch h

def ofExcept : Except ε α → Prog σ ε α
  | .ok a => .ret a
  | .error e => .fail e

/-- An atomic read. -/
def read (f : σ → α) : Prog σ ε α := .atomic (fun s => (f s, s)) .ret

/-- An atomic write whose outcome is not checked. -/
def write (f : σ → σ) : Prog σ ε Unit := .atomic (fun s => ((), f s)) .ret

/-- A write whose failure is raised. -/
def require (f : σ → σ) (e : ε) : Prog σ ε Unit :=
  .guarded f fun
    | true => .ret ()
    | false => .fail e

def withLock (body : Prog σ ε α) : Prog σ ε α := .locked body ofExcept

def run : {α : Type} → Prog σ ε α → σ → Except ε α × σ
  | _, .ret a, s => (.ok a, s)
  | _, .fail e, s => (.error e, s)
  | _, .atomic f k, s => (k (f s).1).run (f s).2
  | _, .guarded f k, s => (k true).run (f s)
  | _, .locked body k, s => (k (body.run s).1).run (body.run s).2

/-- The state after a run. -/
def exec (p : Prog σ ε α) (s : σ) : σ := (p.run s).2

/-- The run in which the guarded write preceded by `n` others fails, for a countdown `some n`; with
`none` no write fails. Returns what is left of the countdown. -/
def runFault : {α : Type} → Prog σ ε α → Option Nat → σ → Except ε α × Option Nat × σ
  | _, .ret a, n, s => (.ok a, n, s)
  | _, .fail e, n, s => (.error e, n, s)
  | _, .atomic f k, n, s => (k (f s).1).runFault n (f s).2
  | _, .guarded f k, none, s => (k true).runFault none (f s)
  | _, .guarded _ k, some 0, s => (k false).runFault none s
  | _, .guarded f k, some (n + 1), s => (k true).runFault (some n) (f s)
  | _, .locked body k, n, s =>
    let r := body.runFault n s
    (k r.1).runFault r.2.1 r.2.2

/-- One scheduling step. A finished program has none. -/
def step : Prog σ ε α → σ → Option (Prog σ ε α × σ)
  | .ret _, _ => none
  | .fail _, _ => none
  | .atomic f k, s => some (k (f s).1, (f s).2)
  | .guarded f k, s => some (k true, f s)
  | .locked body k, s => some (k (body.run s).1, (body.run s).2)

variable {p : Prog σ ε α} (f : σ → σ)

@[simp] theorem run_pure (a : α) (s : σ) :
    (pure a : Prog σ ε α).run s = (.ok a, s) := rfl

theorem run_bind (p : Prog σ ε α) (f : α → Prog σ ε β) (s : σ) :
    (p >>= f).run s = match p.run s with
      | (.ok a, s') => (f a).run s'
      | (.error e, s') => (.error e, s') := by
  induction p generalizing s with
  | ret a => rfl
  | fail e => rfl
  | atomic g k ih => exact ih (g s).1 f (g s).2
  | guarded g k ih => exact ih true f (g s)
  | locked body k _ ih => exact ih (body.run s).1 f (body.run s).2

theorem bind_assoc (p : Prog σ ε α) (f : α → Prog σ ε β) (g : β → Prog σ ε γ) :
    (p >>= f) >>= g = p >>= fun a => f a >>= g := by
  induction p with
  | ret a => rfl
  | fail e => rfl
  | atomic h k ih => exact congrArg (Prog.atomic h) (funext fun b => ih b f)
  | guarded h k ih => exact congrArg (Prog.guarded h) (funext fun ok => ih ok f)
  | locked body k _ ih => exact congrArg (Prog.locked body) (funext fun r => ih r f)

theorem bind_pure (p : Prog σ ε α) : p >>= pure = p := by
  induction p with
  | ret a => rfl
  | fail e => rfl
  | atomic h k ih => exact congrArg (Prog.atomic h) (funext ih)
  | guarded h k ih => exact congrArg (Prog.guarded h) (funext ih)
  | locked body k _ ih => exact congrArg (Prog.locked body) (funext ih)

theorem run_tryCatch (p : Prog σ ε α) (h : ε → Prog σ ε α) (s : σ) :
    (p.tryCatch h).run s = match p.run s with
      | (.ok a, s') => (.ok a, s')
      | (.error e, s') => (h e).run s' := by
  induction p generalizing s with
  | ret a => rfl
  | fail e => rfl
  | atomic g k ih => exact ih (g s).1 h (g s).2
  | guarded g k ih => exact ih true h (g s)
  | locked body k _ ih => exact ih (body.run s).1 h (body.run s).2

@[simp] theorem run_write (s : σ) : (write f : Prog σ ε Unit).run s = (.ok (), f s) := rfl

@[simp] theorem run_withLock (body : Prog σ ε α) (s : σ) : (withLock body).run s = body.run s := by
  simp only [withLock, run]
  rcases body.run s with ⟨_ | b, s'⟩ <;> rfl

@[simp] theorem run_read_bind (f : σ → α) (k : α → Prog σ ε β) (s : σ) :
    (read f >>= k).run s = (k (f s)).run s := rfl

@[simp] theorem run_write_bind (k : Unit → Prog σ ε β) (s : σ) :
    (write f >>= k).run s = (k ()).run (f s) := rfl

@[simp] theorem run_require_bind (e : ε) (k : Unit → Prog σ ε β) (s : σ) :
    (require f e >>= k).run s = (k ()).run (f s) := rfl

/-- A loop whose body updates the state by `g` runs as a fold. -/
theorem run_forM {f : α → Prog σ ε PUnit} (h : ∀ a s, (f a).run s = (.ok ⟨⟩, g s a)) (l : List α)
    (s : σ) :
    (l.forM f).run s = (.ok ⟨⟩, l.foldl g s) := by
  induction l generalizing s with
  | nil => rfl
  | cons a l ih =>
    change (f a >>= fun _ => l.forM f).run s = _
    rw [run_bind, h]
    exact ih _

section leads

/-- A run from a state with `P` ends, with a value or an exception, in a state with `Q`. -/
def Leads (P : σ → Prop) (p : Prog σ ε α) (Q : σ → Prop) : Prop := ∀ s, P s → Q (p.exec s)

variable {P Q R : σ → Prop}

theorem leads_pure (a : α) : Leads P (pure a : Prog σ ε α) P := fun _ h => h

theorem Leads.imp (h : Leads P p R) (himp : ∀ s, R s → Q s) : Leads P p Q :=
  fun s hs => himp _ (h s hs)

/-- An exception of the first part ends the run, so the middle assertion must imply the last. -/
theorem Leads.bind {f : α → Prog σ ε β} (hp : Leads P p R) (hf : ∀ a, Leads R (f a) Q)
    (himp : ∀ s, R s → Q s) : Leads P (p >>= f) Q := by
  intro s hs
  have hR := hp s hs
  unfold exec at hR ⊢
  rw [run_bind]
  obtain ⟨r, hr⟩ : ∃ r, p.run s = r := ⟨_, rfl⟩
  rw [hr] at hR ⊢
  obtain ⟨e | a, s'⟩ := r
  · exact himp s' hR
  · exact hf a s' hR

theorem Leads.tryCatch (hp : Leads P p Q) (hh : ∀ e, Leads Q (h e) Q) :
    Leads P (p.tryCatch h) Q := by
  intro s hs
  have hQ := hp s hs
  unfold exec at hQ ⊢
  rw [run_tryCatch]
  obtain ⟨r, hr⟩ : ∃ r, p.run s = r := ⟨_, rfl⟩
  rw [hr] at hQ ⊢
  obtain ⟨e | a, s'⟩ := r
  · exact hh e s' hQ
  · exact hQ

end leads

section meets

/-- A run from a state with `P` ends with a value and a state in `Q`, or with an exception and a
state in `E`. -/
def Meets (P : σ → Prop) (p : Prog σ ε α) (Q : α → σ → Prop) (E : σ → Prop) : Prop :=
  ∀ s, P s → match p.run s with
    | (.ok a, s') => Q a s'
    | (.error _, s') => E s'

variable {P P' : σ → Prop} {Q Q' : α → σ → Prop} {E E' : σ → Prop}

theorem meets_pure (h : ∀ s, P s → Q a s) : Meets P (pure a : Prog σ ε α) Q E := h

theorem meets_fail (h : ∀ s, P s → E s) : Meets P (.fail e : Prog σ ε α) Q E := h

theorem meets_read {f : σ → α} (h : ∀ s, P s → Q (f s) s) : Meets P (read f : Prog σ ε α) Q E := h

theorem meets_atomic {f : σ → α × σ} (h : ∀ s, P s → Q (f s).1 (f s).2) :
    Meets P (.atomic f .ret : Prog σ ε α) Q E := h

theorem Meets.imp (h : Meets P p Q E) (hP : ∀ s, P' s → P s) (hQ : ∀ a s, Q a s → Q' a s)
    (hE : ∀ s, E s → E' s) : Meets P' p Q' E' := by
  intro s hs
  have hrun := h s (hP s hs)
  obtain ⟨r, hr⟩ : ∃ r, p.run s = r := ⟨_, rfl⟩
  rw [hr] at hrun ⊢
  obtain ⟨e | a, s'⟩ := r
  · exact hE s' hrun
  · exact hQ a s' hrun

theorem Meets.bind {f : α → Prog σ ε β} (hp : Meets P p Q E) (hf : ∀ a, Meets (Q a) (f a) R E) :
    Meets P (p >>= f) R E := by
  intro s hs
  have hrun := hp s hs
  rw [run_bind]
  obtain ⟨r, hr⟩ : ∃ r, p.run s = r := ⟨_, rfl⟩
  rw [hr] at hrun ⊢
  obtain ⟨e | a, s'⟩ := r
  · exact hrun
  · exact hf a s' hrun

theorem Meets.tryCatch (hp : Meets P p Q E) (hh : ∀ e, Meets E (h e) Q E') :
    Meets P (p.tryCatch h) Q E' := by
  intro s hs
  have hrun := hp s hs
  rw [run_tryCatch]
  obtain ⟨r, hr⟩ : ∃ r, p.run s = r := ⟨_, rfl⟩
  rw [hr] at hrun ⊢
  obtain ⟨e | a, s'⟩ := r
  · exact hh e s' hrun
  · exact hrun

/-- A result that does not depend on the state. -/
theorem meets_ofExcept (hok : ∀ a, r = .ok a → ∀ s, P s → Q a s) (herr : ∀ s, P s → E s) :
    Meets P (ofExcept r : Prog σ ε α) Q E := by
  intro s hs
  cases r with
  | error e => exact herr s hs
  | ok a => exact hok a rfl s hs

end meets

theorem runFault_bind (p : Prog σ ε α) (f : α → Prog σ ε β) (n : Option Nat) (s : σ) :
    (p >>= f).runFault n s = match p.runFault n s with
      | (.ok a, n', s') => (f a).runFault n' s'
      | (.error e, n', s') => (.error e, n', s') := by
  induction p generalizing n s with
  | ret a => rfl
  | fail e => rfl
  | atomic g k ih => exact ih (g s).1 f n (g s).2
  | guarded g k ih =>
    match n with
    | none => exact ih true f none (g s)
    | some 0 => exact ih false f none s
    | some (n + 1) => exact ih true f (some n) (g s)
  | locked body k _ ih => exact ih (body.runFault n s).1 f _ _

@[simp] theorem runFault_read_bind (f : σ → α) (k : α → Prog σ ε β) (n : Option Nat) (s : σ) :
    (read f >>= k).runFault n s = (k (f s)).runFault n s := rfl

/-- A checked write is the failing one, or it has its effect and the countdown goes on. -/
theorem runFault_require_bind (e : ε) (k : Unit → Prog σ ε β) (n : Nat) (s : σ) :
    (require f e >>= k).runFault (some n) s =
      match n with
      | 0 => (.error e, none, s)
      | n + 1 => (k ()).runFault (some n) (f s) := by
  cases n <;> rfl

@[simp] theorem runFault_withLock (body : Prog σ ε α) (n : Option Nat) (s : σ) :
    (withLock body).runFault n s = body.runFault n s := by
  simp only [withLock, runFault]
  rcases body.runFault n s with ⟨_ | b, n', s'⟩ <;> rfl

end Prog
end ZeroVpn
