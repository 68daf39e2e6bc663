import ZeroVpn.Std.Prog

/-!
# Two programs on one state

`Pair.exec` runs two programs by a schedule, one scheduling step at a time. When the right program
is a single locked section, a complete schedule amounts to a number of left steps, the section, and
the rest of the left program (`Pair.exec_oneShot`). For a left program that reads something, computes
and writes it back, `late_keeps` and `early_exec` treat the schedules in which the section runs
after the write or before the read. Programs of several steps are followed step by step:
`Pair.exec_leftSteps` and `Pair.exec_next_right` cut a schedule before and at a step of the right
program, and `Pair.exec_quiet` is for a left program that only looks on (`Prog.Within`).
-/

namespace ZeroVpn
open Option
namespace Prog

variable {σ ε α β γ τ υ : Type}

/-- No step is left. -/
def isDone : Prog σ ε α → Bool
  | .ret _ | .fail _ => true
  | _ => false

/-- The program and the state after a number of steps, if there are so many. -/
def stepN : Nat → Prog σ ε α → σ → Option (Prog σ ε α × σ)
  | 0, p, s => some (p, s)
  | n + 1, p, s => (p.step s).bind fun c => stepN n c.1 c.2

/-- The number of steps of an undisturbed run. -/
def stepCount : Prog σ ε α → σ → Nat
  | .ret _, _ => 0
  | .fail _, _ => 0
  | .atomic f k, s => (k (f s).1).stepCount (f s).2 + 1
  | .guarded f k, s => (k true).stepCount (f s) + 1
  | .locked body k, s => (k (body.run s).1).stepCount (body.run s).2 + 1

theorem step_isDone {p : Prog σ ε α} (h : p.isDone = true) (s : σ) : p.step s = none := by
  cases p with
  | ret a => rfl
  | fail e => rfl
  | _ => cases h

theorem exec_isDone {p : Prog σ ε α} (h : p.isDone = true) (s : σ) : p.exec s = s := by
  cases p with
  | ret a => rfl
  | fail e => rfl
  | _ => cases h

variable {p' : Prog σ ε α} {f : α → Prog σ ε β}

/-- A scheduling step is the beginning of the run. -/
theorem run_of_step {p : Prog σ ε α} (h : p.step s = some (p', s')) :
    p.run s = p'.run s' := by
  cases p with
  | ret a => cases h
  | fail e => cases h
  | atomic f k => cases h; rfl
  | guarded f k => cases h; rfl
  | locked body k => cases h; rfl

theorem step_bind {p : Prog σ ε α} (h : p.step s = some (p', s')) (f : α → Prog σ ε β) :
    (p >>= f).step s = some (p' >>= f, s') := by
  cases p with
  | ret a => cases h
  | fail e => cases h
  | atomic g k => cases h; rfl
  | guarded g k => cases h; rfl
  | locked body k => cases h; rfl

theorem stepN_bind {p : Prog σ ε α} (h : p.stepN n s = some (p', s')) (f : α → Prog σ ε β) :
    (p >>= f).stepN n s = some (p' >>= f, s') := by
  induction n generalizing p s with
  | zero => cases h; rfl
  | succ n ih =>
    obtain ⟨⟨q, t⟩, hstep, hrest⟩ := bind_eq_some_iff.mp h
    change ((p >>= f).step s).bind _ = _
    rw [step_bind hstep f]
    exact ih hrest

theorem exists_stepN {p : Prog σ ε α} (h : n ≤ p.stepCount s) :
    ∃ p' s', p.stepN n s = some (p', s') := by
  induction p generalizing n s with
  | ret a =>
    rw [Nat.le_zero.mp h]
    exact ⟨_, _, rfl⟩
  | fail e =>
    rw [Nat.le_zero.mp h]
    exact ⟨_, _, rfl⟩
  | atomic f k ih =>
    cases n with
    | zero => exact ⟨_, _, rfl⟩
    | succ n => exact ih (f s).1 (Nat.le_of_succ_le_succ h)
  | guarded f k ih =>
    cases n with
    | zero => exact ⟨_, _, rfl⟩
    | succ n => exact ih true (Nat.le_of_succ_le_succ h)
  | locked body k _ ih =>
    cases n with
    | zero => exact ⟨_, _, rfl⟩
    | succ n => exact ih (body.run s).1 (Nat.le_of_succ_le_succ h)

/-- After the steps of its first part a program goes on with the second. -/
theorem stepN_bind_add {p : Prog σ ε α} (h : p.run s = (.ok a, s')) (n : Nat) :
    (p >>= f).stepN (p.stepCount s + n) s = (f a).stepN n s' := by
  induction p generalizing s with
  | ret a' =>
    cases h
    rw [stepCount, Nat.zero_add]
    rfl
  | fail e => cases h
  | atomic g k ih =>
    rw [stepCount, Nat.add_right_comm]
    exact ih (g s).1 h
  | guarded g k ih =>
    rw [stepCount, Nat.add_right_comm]
    exact ih true h
  | locked body k _ ih =>
    rw [stepCount, Nat.add_right_comm]
    exact ih (body.run s).1 h

variable {v : σ → γ} {p : Prog σ ε α}

/-- No step changes the view `v` of the state. -/
def Keeps (v : σ → γ) : Prog σ ε α → Prop
  | .ret _ => True
  | .fail _ => True
  | .atomic f k => (∀ s, v (f s).2 = v s) ∧ ∀ b, Keeps v (k b)
  | .guarded f k => (∀ s, v (f s) = v s) ∧ ∀ b, Keeps v (k b)
  | .locked body k => (∀ s, v (body.exec s) = v s) ∧ ∀ r, Keeps v (k r)

theorem Keeps.exec (h : p.Keeps v) (s : σ) : v (p.exec s) = v s := by
  induction p generalizing s with
  | ret a => rfl
  | fail e => rfl
  | atomic f k ih => exact (ih (f s).1 (h.2 _) (f s).2).trans (h.1 s)
  | guarded f k ih => exact (ih true (h.2 _) (f s)).trans (h.1 s)
  | locked body k _ ih => exact (ih (body.run s).1 (h.2 _) (body.run s).2).trans (h.1 s)

theorem Keeps.step {p : Prog σ ε α} (h : p.Keeps v) (hstep : p.step s = some (p', s')) :
    p'.Keeps v ∧ v s' = v s := by
  cases p with
  | ret a => cases hstep
  | fail e => cases hstep
  | atomic f k => cases hstep; exact ⟨h.2 _, h.1 s⟩
  | guarded f k => cases hstep; exact ⟨h.2 _, h.1 s⟩
  | locked body k => cases hstep; exact ⟨h.2 _, h.1 s⟩

theorem Keeps.stepN {p : Prog σ ε α} (h : p.Keeps v) (hstep : p.stepN n s = some (p', s')) :
    p'.Keeps v ∧ v s' = v s := by
  induction n generalizing p s with
  | zero => cases hstep; exact ⟨h, rfl⟩
  | succ n ih =>
    obtain ⟨⟨q, t⟩, hq, hrest⟩ := bind_eq_some_iff.mp hstep
    obtain ⟨hkeep, hv⟩ := h.step hq
    obtain ⟨hkeep', hv'⟩ := ih hkeep hrest
    exact ⟨hkeep', hv'.trans hv⟩

theorem Keeps.bind (hp : p.Keeps v) (hf : ∀ a, (f a).Keeps v) : (p >>= f).Keeps v := by
  induction p with
  | ret a => exact hf a
  | fail e => trivial
  | atomic g k ih => exact ⟨hp.1, fun b => ih b (hp.2 b) hf⟩
  | guarded g k ih => exact ⟨hp.1, fun b => ih b (hp.2 b) hf⟩
  | locked body k _ ih => exact ⟨hp.1, fun r => ih r (hp.2 r) hf⟩

theorem keeps_pure (a : α) : (pure a : Prog σ ε α).Keeps v := trivial

theorem keeps_read (f : σ → α) : (read f : Prog σ ε α).Keeps v :=
  ⟨fun _ => rfl, fun _ => trivial⟩

theorem keeps_write {f : σ → σ} (h : ∀ s, v (f s) = v s) : (write f : Prog σ ε Unit).Keeps v :=
  ⟨h, fun _ => trivial⟩

theorem keeps_withLock {body : Prog σ ε α} (h : ∀ s, v (body.exec s) = v s) :
    (withLock body).Keeps v :=
  ⟨h, fun r => by cases r <;> trivial⟩

theorem Keeps.tryCatch (hp : p.Keeps v) (hh : ∀ e, (h e).Keeps v) :
    (p.tryCatch h).Keeps v := by
  induction p with
  | ret a => trivial
  | fail e => exact hh e
  | atomic g k ih => exact ⟨hp.1, fun b => ih b (hp.2 b) hh⟩
  | guarded g k ih => exact ⟨hp.1, fun b => ih b (hp.2 b) hh⟩
  | locked body k _ ih => exact ⟨hp.1, fun r => ih r (hp.2 r) hh⟩

theorem keeps_forM {f : α → Prog σ ε PUnit} (hf : ∀ a, (f a).Keeps v) (l : List α) :
    (l.forM f).Keeps v := by
  induction l with
  | nil => exact keeps_pure _
  | cons a l ih => exact (hf a).bind fun _ => ih

section window
variable {pre : Prog σ ε τ} {upd : τ → Prog σ ε υ} {post : υ → Prog σ ε α} {n : Nat} {s s' : σ}

/-- Once the first two parts are over, only steps of the last part are left. -/
theorem late_keeps (hrun : (pre >>= upd).run s = (.ok a, s₁)) (hpost : (post a).Keeps v)
    (hn : (pre >>= upd).stepCount s ≤ n)
    (hstep : ((pre >>= upd) >>= post).stepN n s = some (p, s')) : p.Keeps v ∧ v s' = v s₁ := by
  obtain ⟨m, rfl⟩ := Nat.exists_eq_add_of_le hn
  rw [stepN_bind_add hrun] at hstep
  exact hpost.stepN hstep

/-- While a first part that only reads is not over, the state is the initial one, and what is left
ends like the other two parts, whatever state it goes on from. -/
theorem early_exec (hpre : pre.Keeps (fun s : σ => s)) (hn : n ≤ pre.stepCount s)
    (hstep : ((pre >>= upd) >>= post).stepN n s = some (p, s')) :
    s' = s ∧ ∀ t, p.exec t = t ∨ ∃ a, p.exec t = (upd a >>= post).exec t := by
  obtain ⟨pre', t, hpre'⟩ := exists_stepN hn
  rw [stepN_bind (stepN_bind hpre' upd) post] at hstep
  cases hstep
  obtain ⟨hkeep, rfl⟩ := hpre.stepN hpre'
  refine ⟨rfl, fun t => ?_⟩
  have hstate := hkeep.exec t
  rw [bind_assoc]
  unfold Prog.exec at hstate ⊢
  rw [run_bind]
  obtain ⟨r, hr⟩ : ∃ r, pre'.run t = r := ⟨_, rfl⟩
  rw [hr] at hstate ⊢
  obtain ⟨e | a, t'⟩ := r
  · exact .inl hstate
  · cases hstate
    exact .inr ⟨a, rfl⟩

end window

/-- The same under a handler. -/
theorem stepN_tryCatch_add {p : Prog σ ε α} (hrun : p.run s = (.ok a, s')) (n : Nat) :
    ((p >>= f).tryCatch h).stepN (p.stepCount s + n) s = ((f a).tryCatch h).stepN n s' := by
  induction p generalizing s with
  | ret a' =>
    cases hrun
    rw [stepCount, Nat.zero_add]
    rfl
  | fail e => cases hrun
  | atomic g k ih =>
    rw [stepCount, Nat.add_right_comm]
    exact ih (g s).1 hrun
  | guarded g k ih =>
    rw [stepCount, Nat.add_right_comm]
    exact ih true hrun
  | locked body k _ ih =>
    rw [stepCount, Nat.add_right_comm]
    exact ih (body.run s).1 hrun

section within

/-- Among the steps of others that keep `I`, the program makes only steps in `R`, and a value it
returns satisfies `Q`. -/
def Within (I : σ → Prop) (R : σ → σ → Prop) : Prog σ ε α → (α → Prop) → Prop
  | .ret a, Q => Q a
  | .fail _, _ => True
  | .atomic f k, Q => ∀ s, I s → R s (f s).2 ∧ Within I R (k (f s).1) Q
  | .guarded f k, Q => ∀ s, I s → R s (f s) ∧ Within I R (k true) Q
  | .locked body k, Q => ∀ s, I s → R s (body.run s).2 ∧ Within I R (k (body.run s).1) Q

variable {I : σ → Prop} {R : σ → σ → Prop}

theorem Within.step {p : Prog σ ε α} (h : p.Within I R Q) (hI : I s)
    (hstep : p.step s = some (p', s')) : R s s' ∧ p'.Within I R Q := by
  cases p with
  | ret a => cases hstep
  | fail e => cases hstep
  | atomic f k => cases hstep; exact h s hI
  | guarded f k => cases hstep; exact h s hI
  | locked body k => cases hstep; exact h s hI

theorem Within.bind (hp : p.Within I R P) (hf : ∀ a, P a → (f a).Within I R Q) :
    (p >>= f).Within I R Q := by
  induction p with
  | ret a => exact hf a hp
  | fail e => trivial
  | atomic g k ih => exact fun s hI => ⟨(hp s hI).1, ih _ (hp s hI).2 hf⟩
  | guarded g k ih => exact fun s hI => ⟨(hp s hI).1, ih _ (hp s hI).2 hf⟩
  | locked body k _ ih => exact fun s hI => ⟨(hp s hI).1, ih _ (hp s hI).2 hf⟩

theorem Within.tryCatch (hp : p.Within I R Q) (hh : ∀ e, (h e).Within I R Q) :
    (p.tryCatch h).Within I R Q := by
  induction p with
  | ret a => exact hp
  | fail e => exact hh e
  | atomic g k ih => exact fun s hI => ⟨(hp s hI).1, ih _ (hp s hI).2 hh⟩
  | guarded g k ih => exact fun s hI => ⟨(hp s hI).1, ih _ (hp s hI).2 hh⟩
  | locked body k _ ih => exact fun s hI => ⟨(hp s hI).1, ih _ (hp s hI).2 hh⟩

theorem within_read_bind {f : σ → α} {k : α → Prog σ ε β}
    (h : ∀ s, I s → R s s ∧ (k (f s)).Within I R Q) : (read f >>= k).Within I R Q := h

/-- What keeps the view `I` depends on keeps `I`. -/
theorem Keeps.within {v : σ → γ} (hp : p.Keeps v) (hI : ∀ s s', v s' = v s → I s → I s') :
    p.Within I (fun _ s' => I s') fun _ => True := by
  induction p with
  | ret a => trivial
  | fail e => trivial
  | atomic f k ih => exact fun s hs => ⟨hI _ _ (hp.1 s) hs, ih _ (hp.2 _)⟩
  | guarded f k ih => exact fun s hs => ⟨hI _ _ (hp.1 s) hs, ih _ (hp.2 _)⟩
  | locked body k _ ih => exact fun s hs => ⟨hI _ _ (hp.1 s) hs, ih _ (hp.2 _)⟩

end within

/-- A program that is over after one step. -/
def OneShot (q : Prog σ ε α) : Prop :=
  ∀ s, ∃ q', q.step s = some (q', q.exec s) ∧ q'.isDone = true

theorem oneShot_withLock_bind (body : Prog σ ε α) (f : α → β) :
    (withLock body >>= fun a => pure (f a)).OneShot := by
  intro s
  refine ⟨ofExcept (body.run s).1 >>= fun a => pure (f a), ?_, ?_⟩
  · rw [exec, run_bind, run_withLock]
    change some (_, (body.run s).2) = _
    rcases body.run s with ⟨_ | a, s'⟩ <;> rfl
  · rcases (body.run s).1 with _ | a <;> rfl

theorem oneShot_withLock (body : Prog σ ε α) : (withLock body).OneShot := by
  intro s
  refine ⟨ofExcept (body.run s).1, ?_, ?_⟩
  · rw [exec, run_withLock]
    rfl
  · rcases (body.run s).1 with _ | a <;> rfl

end Prog

inductive Side
  | left | right
deriving DecidableEq

structure Pair (σ ε α β : Type) where
  left : Prog σ ε α
  right : Prog σ ε β
  state : σ

namespace Pair

variable {σ ε α β : Type}

def step (c : Pair σ ε α β) : Side → Option (Pair σ ε α β)
  | .left => (c.left.step c.state).map fun d => ⟨d.1, c.right, d.2⟩
  | .right => (c.right.step c.state).map fun d => ⟨c.left, d.1, d.2⟩

/-- Run a schedule; `none` if it asks a finished program for a step. -/
def exec (c : Pair σ ε α β) : List Side → Option (Pair σ ε α β)
  | [] => some c
  | side :: rest => (c.step side).bind fun c => c.exec rest

/-- Both programs are over. -/
def isDone (c : Pair σ ε α β) : Bool := c.left.isDone && c.right.isDone

/-- The number of left steps before the first right one. -/
def leftSteps (schedule : List Side) : Nat := (schedule.takeWhile (· = .left)).length

variable {c c' : Pair σ ε α β} {schedule : List Side}

/-- With the right program over, the schedule is a run of the left one. -/
theorem exec_left (hright : c.right.isDone = true) (h : c.exec schedule = some c')
    (hdone : c'.left.isDone = true) : c'.state = c.left.exec c.state := by
  induction schedule generalizing c with
  | nil =>
    cases h
    rw [Prog.exec_isDone hdone]
  | cons side rest ih =>
    obtain ⟨d, hd, hrest⟩ := bind_eq_some_iff.mp h
    cases side with
    | left =>
      obtain ⟨⟨p, s⟩, hstep, rfl⟩ := map_eq_some_iff.mp hd
      rw [ih (c := ⟨p, c.right, s⟩) hright hrest, Prog.exec, Prog.exec, Prog.run_of_step hstep]
    | right =>
      rw [step, Prog.step_isDone hright] at hd
      cases hd

/-- With the left program asked for no step, the schedule is a run of the right one. -/
theorem exec_right (hleft : .left ∉ schedule) (h : c.exec schedule = some c')
    (hdone : c'.right.isDone = true) : c'.state = c.right.exec c.state := by
  induction schedule generalizing c with
  | nil =>
    cases h
    rw [Prog.exec_isDone hdone]
  | cons side rest ih =>
    obtain ⟨d, hd, hrest⟩ := bind_eq_some_iff.mp h
    cases side with
    | left => exact absurd (List.mem_cons_self) hleft
    | right =>
      obtain ⟨⟨q, s⟩, hstep, rfl⟩ := map_eq_some_iff.mp hd
      rw [ih (fun hin => hleft (List.mem_cons_of_mem _ hin)) hrest,
        Prog.exec, Prog.exec, Prog.run_of_step hstep]

/-- A left program that never changes the state leaves the run of the right one. -/
theorem exec_quiet (hleft : c.left.Within I (fun s s' => s' = s) P)
    (hright : c.right.Within I (fun _ s' => I s') Q) (hI : I c.state)
    (h : c.exec schedule = some c') (hdone : c'.right.isDone = true) :
    c'.state = c.right.exec c.state := by
  induction schedule generalizing c with
  | nil =>
    cases h
    rw [Prog.exec_isDone hdone]
  | cons side rest ih =>
    obtain ⟨d, hd, hrest⟩ := bind_eq_some_iff.mp h
    cases side with
    | left =>
      obtain ⟨⟨p, s⟩, hstep, rfl⟩ := map_eq_some_iff.mp hd
      obtain ⟨rfl, hp⟩ := hleft.step hI hstep
      exact ih (c := ⟨p, c.right, c.state⟩) hp hright hI hrest
    | right =>
      obtain ⟨⟨q, s⟩, hstep, rfl⟩ := map_eq_some_iff.mp hd
      obtain ⟨hs, hq⟩ := hright.step hI hstep
      rw [ih (c := ⟨c.left, q, s⟩) hleft hq hs hrest, Prog.exec, Prog.exec, Prog.run_of_step hstep]

/-- What a schedule asks for after `n` steps of the right program. -/
def afterRight : Nat → List Side → List Side
  | 0, schedule => schedule
  | _ + 1, [] => []
  | n + 1, .left :: rest => afterRight (n + 1) rest
  | n + 1, .right :: rest => afterRight n rest

@[simp] theorem afterRight_zero (schedule : List Side) : afterRight 0 schedule = schedule := by
  cases schedule <;> rfl

/-- A schedule begins with its left steps. -/
theorem exec_leftSteps (h : c.exec schedule = some c') :
    ∃ p s rest, c.left.stepN (leftSteps schedule) c.state = some (p, s) ∧
      Pair.exec ⟨p, c.right, s⟩ rest = some c' ∧ rest.head? ≠ some .left ∧
      ∀ n, afterRight (n + 1) schedule = afterRight (n + 1) rest := by
  induction schedule generalizing c with
  | nil => exact ⟨_, _, [], rfl, h, nofun, fun _ => rfl⟩
  | cons side rest ih =>
    obtain ⟨d, hd, hrest⟩ := bind_eq_some_iff.mp h
    cases side with
    | right => exact ⟨_, _, .right :: rest, rfl, h, nofun, fun _ => rfl⟩
    | left =>
      obtain ⟨⟨p, s⟩, hstep, rfl⟩ := map_eq_some_iff.mp hd
      obtain ⟨p', s', rest', hsteps, hrest⟩ := ih hrest
      refine ⟨p', s', rest', ?_, hrest⟩
      change (c.left.step c.state).bind _ = _
      rw [hstep]
      exact hsteps

/-- The next step of the right program comes after left steps that keep a view. -/
theorem exec_next_right {v : σ → γ} (hkeep : c.left.Keeps v) (h : c.exec schedule = some c')
    (hdone : c'.right.isDone = true) (hright : c.right.isDone = false) :
    ∃ p s q t rest, p.Keeps v ∧ v s = v c.state ∧ c.right.step s = some (q, t) ∧
      Pair.exec ⟨p, q, t⟩ rest = some c' ∧
      ∀ n, afterRight (n + 1) schedule = afterRight n rest := by
  induction schedule generalizing c with
  | nil =>
    cases h
    rw [hdone] at hright
    cases hright
  | cons side rest ih =>
    obtain ⟨d, hd, hrest⟩ := bind_eq_some_iff.mp h
    cases side with
    | left =>
      obtain ⟨⟨p, s⟩, hstep, rfl⟩ := map_eq_some_iff.mp hd
      obtain ⟨hp, hv⟩ := hkeep.step hstep
      obtain ⟨p', s', q, t, rest', hp', hv', hq, hexec, hafter⟩ :=
        ih hp hrest hright
      exact ⟨p', s', q, t, rest', hp', hv'.trans hv, hq, hexec, hafter⟩
    | right =>
      obtain ⟨⟨q, t⟩, hstep, rfl⟩ := map_eq_some_iff.mp hd
      exact ⟨c.left, c.state, q, t, rest, hkeep, rfl, hstep, hrest, fun _ => rfl⟩

/-- A complete schedule of a program with a single locked section. -/
theorem exec_oneShot (hright : c.right.OneShot) (h : c.exec schedule = some c')
    (hdone : c'.isDone = true) :
    ∃ p s, c.left.stepN (leftSteps schedule) c.state = some (p, s) ∧
      c'.state = p.exec (c.right.exec s) := by
  obtain ⟨hleft, hr⟩ := Bool.and_eq_true_iff.mp hdone
  obtain ⟨p, s, rest, hsteps, hexec, hhead, -⟩ := exec_leftSteps h
  obtain ⟨q, hq, hqdone⟩ := hright s
  refine ⟨p, s, hsteps, ?_⟩
  match rest with
  | [] =>
    cases hexec
    rw [Prog.step_isDone hr] at hq
    cases hq
  | .left :: _ => exact absurd rfl hhead
  | .right :: rest =>
    rw [exec, step, hq] at hexec
    exact exec_left hqdone hexec hleft

end Pair
end ZeroVpn
