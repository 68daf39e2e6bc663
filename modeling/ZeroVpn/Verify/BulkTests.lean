import ZeroVpn.Service.CoreTestSpec

/-!
# One terminal answer per bulk test

The terminal answers that were sent for a request and those still owed for it are one together. The
Finish handler checks `activeWorkers`, sends and then removes, and `cancelWorkers` removes and then
sends: when the removal falls between the check and the removal of the other, both send. The Result
handler checks and sends, so that a result can follow the cancellation.
-/

namespace ZeroVpn.CoreTestService
open Tally List

/-- The finishing coroutine passes its check only for a worker that is entered. -/
theorem finisherStep_held {k : Worker}
    (h : k.finisher.isFinishing = true → k.entry.isSome = true) :
    (finisherStep k).1.finisher.isFinishing = true → (finisherStep k).1.entry.isSome = true := by
  unfold finisherStep
  cases hstep : k.finisher with
  | unlaunched | done => exact h
  | joinAll =>
    dsimp only
    split
    · exact fun hfinishing => by cases hfinishing
    · split
      · exact fun hfinishing => by cases hfinishing
      · exact h
  | checkActive =>
    dsimp only
    split <;> exact fun hfinishing => by cases hfinishing
  | containsFinish =>
    dsimp only
    split
    · next hentry => exact fun _ => hentry
    · exact fun hfinishing => by cases hfinishing
  | tidyGroup | sendFinish => exact fun _ => h (by rw [hstep]; rfl)
  | removeWorker | checkEmpty | close => exact fun hfinishing => by cases hfinishing

namespace State

/-- One terminal answer for every request was sent or is owed, and no result comes after it. -/
def Balanced (s : State) : Prop := ∀ r ∈ s.requested, s.total r = 1 ∧ s.debt r = 0

/-- A worker is entered while its Finish event is past its check. -/
def Held (s : State) : Prop := ∀ k ∈ s.workers, k.finisher.isFinishing = true → k.entry.isSome = true

/-- The request was handled, and its worker has finished or was cancelled. -/
def Settled (s : State) (r : String) : Prop :=
  (∀ c ∈ s.queue, r ∉ requestOf c) ∧ (∀ m ∈ s.main, m.owes r = 0) ∧
    ∀ k ∈ s.workers, k.requestId = r → k.cancelled = true ∨ k.finisher = .done

/-- No command is left, and every coroutine has ended. -/
def IsOver (s : State) : Prop :=
  s.queue = [] ∧ s.main = none ∧
    ∀ k ∈ s.workers, k.finisher = .done ∧ ∀ j ∈ k.jobs, j.step = .done

instance (s : State) : Decidable s.IsOver := by
  unfold IsOver
  infer_instance

section
variable {s s' : State} {action : Action} {r : String} {k k' : Worker} {w : Nat}

theorem inv_initial : ({} : State).Inv where
  ok := forall_mem_nil _
  launching := fun _ _ _ h => by cases h
  cancelling := fun _ _ _ _ h => by cases h
  ids := nodup_nil
  known := forall_mem_nil _
  answered := forall_mem_nil _
  silent := fun _ _ => rfl

theorem Inv.cancels_known (hinv : s.Inv) (h : s.cancels? action = some r) : r ∈ s.requested := by
  by_contra hr
  have hmain := main_owes_of_cancels? h
  have hle := main_owes_le_total (s := s) (r := r)
  have hsilent := hinv.silent r hr
  omega

theorem added_of_inTime (htime : s.InTime action) :
    s.added r action = action.requests.count r := by
  unfold added
  cases hremoved : s.removed? action with
  | none => rfl
  | some k =>
    rw [Option.elim_some, if_neg, Nat.add_zero]
    rintro ⟨-, hfinishing⟩
    rw [htime.1 k hremoved] at hfinishing
    cases hfinishing

theorem Balanced.of_step (hinv : s.Inv) (hb : (s.step action).Balanced) : s.Balanced := by
  intro r hr
  have hmoves := s.step_moves action
  obtain ⟨htotal, hdebt⟩ := hb r (by rw [hmoves.requested]; exact mem_append_left _ hr)
  have hanswered := hinv.answered r hr
  have hle := debt_le_step (s := s) (r := r) action
  rw [hmoves.total hinv] at htotal
  exact ⟨by omega, by omega⟩

/-- Exactly the removals and the cancellations that come too late break the balance. -/
theorem balanced_step_iff (hinv : s.Inv) (hb : s.Balanced) (hfresh : s.Fresh action) :
    (s.step action).Balanced ↔ s.InTime action := by
  have hmoves := s.step_moves action
  have hkept {r : String} (hr : r ∈ s.requested) : r ∈ (s.step action).requested := by
    rw [hmoves.requested]
    exact mem_append_left _ hr
  constructor
  · intro hb'
    refine ⟨fun k hremoved => ?_, fun q hcancels => ?_⟩
    · have hknown := hinv.worker_known (mem_workers_of_removed? hremoved)
      have hone := (hb' _ (hkept hknown)).1
      rw [hmoves.total hinv, (hb _ hknown).1, added, hremoved, Option.elim_some] at hone
      by_contra hfinishing
      rw [if_pos ⟨rfl, Bool.not_eq_false _ ▸ hfinishing⟩] at hone
      omega
    · have hknown := hinv.cancels_known hcancels
      obtain ⟨htotal, hdebt⟩ := hb q hknown
      exact (hinv.debt_step_iff htotal hdebt action).mp (hb' q (hkept hknown)).2 hcancels
  · intro htime r hr
    rw [hmoves.requested, mem_append] at hr
    rw [hmoves.total hinv, added_of_inTime htime]
    rcases hr with hold | hnew
    · obtain ⟨htotal, hdebt⟩ := hb r hold
      refine ⟨?_, (hinv.debt_step_iff htotal hdebt action).mpr fun h => htime.2 r h⟩
      rw [htotal, count_eq_zero.mpr fun hmem => hfresh r hmem hold]
    · have hsilent := hinv.silent r (hfresh r hnew)
      have hanswers : s.answers r = 0 := by
        have hle := main_owes_le_total (s := s) (r := r)
        omega
      cases action with
      | command c =>
        refine ⟨?_, debt_of_no_answer hanswers⟩
        cases c with
        | start message q =>
          rw [mem_singleton.mp hnew] at hsilent ⊢
          rw [hsilent]
          simp [Action.requests, requestOf]
        | cancel | destroy => cases hnew
      | main | job | finisher => cases hnew

theorem held_set (h : s.Held) (hk' : k'.finisher.isFinishing = true → k'.entry.isSome = true) :
    ∀ x ∈ s.workers.set w k', x.finisher.isFinishing = true → x.entry.isSome = true := by
  intro x hx
  rcases mem_or_eq_of_mem_set hx with hold | rfl
  · exact h x hold
  · exact hk'

theorem Held.step (h : s.Held) (htime : s.InTime action) :
    (s.step action).Held := by
  have hmoves := s.step_moves action
  generalize s.step action = s' at hmoves ⊢
  have hheld {w : Nat} {k : Worker} (hk : s.workers[w]? = some k) := h k (mem_of_getElem? hk)
  cases hmoves with
  | idle | arrives | refuses | cancelsAll | passes | replies => exact h
  | accepts guids hmain hqueue =>
    intro k hk
    rcases mem_append.mp hk with hold | hlast
    · exact h k hold
    · rw [mem_singleton.mp hlast]
      exact fun _ => rfl
  | launches hmain hk | cancels hmain hk =>
    have hold := hheld hk
    exact held_set h hold
  | awaits hmain hk => exact held_set h fun hfinishing => by cases hfinishing
  | @removes stored w q entries k hmain hk hentry =>
    have hremoved : s.removed? (.main stored) = some k := by simp [removed?, hmain, hk, hentry]
    refine held_set h fun hfinishing => ?_
    rw [htime.1 k hremoved] at hfinishing
    cases hfinishing
  | job measured delays hk hj =>
    refine held_set h ?_
    rw [(Worker.afterJob_finisher _ _ _).1, (Worker.afterJob_finisher _ _ _).2]
    exact hheld hk
  | finisher hk => exact held_set h (finisherStep_held (hheld hk))

theorem tally_queue_eq_zero (h : ∀ c ∈ s.queue, r ∉ requestOf c) :
    tally (Command.owes r) s.queue = 0 := by
  apply tally_eq_zero
  intro c hc
  have hne := h c hc
  cases c with
  | start message q => exact if_neg fun heq => hne (mem_singleton.mpr heq.symm)
  | cancel | destroy => rfl

/-- A worker that is not entered owes nothing, unless its Finish event is past its check. -/
theorem owed_of_not_entered (hentry : k.entry = none) (hfinishing : k.finisher.isFinishing ≠ true) :
    k.owed = 0 := by
  unfold Worker.owed
  split
  · next heq => exact absurd (by rw [heq]; rfl) hfinishing
  · next heq => exact absurd (by rw [heq]; rfl) hfinishing
  · rfl
  · rw [hentry]
    rfl

theorem Settled.total (h : s.Settled r) (hinv : s.Inv) (hheld : s.Held) :
    s.total r = s.answers r := by
  obtain ⟨hqueue, hmain, hworkers⟩ := h
  have hmain' : s.main.elim 0 (MainStep.owes r) = 0 := by
    cases hm : s.main with
    | none => rfl
    | some m => exact hmain m hm
  have hworkers' : tally (Worker.owes r) s.workers = 0 := by
    apply tally_eq_zero
    intro k hk
    by_cases hid : k.requestId = r
    · have hentry : k.entry = none := by
        rcases hworkers k hk hid with hcancelled | hdone
        · exact (hinv.ok k hk).cancelled hcancelled
        · exact (hinv.ok k hk).closing (.inr (.inr hdone))
      have hfinishing : k.finisher.isFinishing ≠ true := by
        intro hf
        have hsome := hheld k hk hf
        rw [hentry] at hsome
        cases hsome
      rw [Worker.owes, owed_of_not_entered hentry hfinishing, ite_self]
    · rw [Worker.owes, if_neg hid]
  rw [State.total, tally_queue_eq_zero hqueue, hmain', hworkers']
  rfl

theorem IsOver.total (h : s.IsOver) (hinv : s.Inv) : s.total r = s.answers r := by
  obtain ⟨hqueue, hmain, hworkers⟩ := h
  have hworkers' : tally (Worker.owes r) s.workers = 0 := by
    apply tally_eq_zero
    intro k hk
    have hdone := (hworkers k hk).1
    have hentry := (hinv.ok k hk).closing (.inr (.inr hdone))
    rw [Worker.owes, owed_of_not_entered hentry (by rw [hdone]; exact Bool.false_ne_true), ite_self]
  rw [State.total, hqueue, hmain, hworkers']
  rfl

theorem IsOver.debt (h : s.IsOver) : s.debt r = lateResults r s.sent := by
  have hreporting : tally (Worker.reporting r) s.workers = 0 :=
    tally_eq_zero fun k hk => Worker.reporting_of_done (h.2.2 k hk).2
  rw [State.debt, hreporting, ite_self, Nat.add_zero]

end

/-- Runs of bulk tests whose requests have distinct ids. If no removal and no cancellation comes too
late, then at any time a request has at most one terminal answer, and one when its worker has finished
or was cancelled, and no result comes after it. When everything has ended, that this holds for every
request is equivalent to the condition. -/
theorem one_terminal_answer_iff (actions : List Action)
    (hfresh : Run.StepsMeet step Fresh {} actions) :
    (Run.StepsMeet step InTime {} actions →
      Run.Always step (fun s => ∀ r ∈ s.requested, s.answers r ≤ 1 ∧ lateResults r s.sent = 0 ∧
        (s.Settled r → s.answers r = 1)) {} actions) ∧
    ((actions.foldl step {}).IsOver →
      ((∀ r ∈ (actions.foldl step {}).requested, (actions.foldl step {}).answers r = 1 ∧
          lateResults r (actions.foldl step {}).sent = 0) ↔
        Run.StepsMeet step InTime {} actions)) := by
  have hinitial : ({} : State).Balanced := forall_mem_nil _
  refine ⟨fun htime => ?_, fun hover => ?_⟩
  · have hkept : Run.Always step (fun s => s.Inv ∧ s.Balanced ∧ s.Held) {} actions := by
      refine Run.always_of_stepsMeet ?_
        ⟨inv_initial, hinitial, forall_mem_nil _⟩ (hfresh.and htime)
      rintro s action ⟨hinv, hb, hheld⟩ ⟨hf, ht⟩
      exact ⟨hinv.step action hf, (balanced_step_iff hinv hb hf).mpr ht, hheld.step ht⟩
    refine hkept.imp fun s hs r hr => ?_
    obtain ⟨hinv, hb, hheld⟩ := hs
    obtain ⟨htotal, hdebt⟩ := hb r hr
    have hle := main_owes_le_total (s := s) (r := r)
    refine ⟨by omega, ?_, fun hsettled => ?_⟩
    · unfold State.debt at hdebt
      omega
    · rw [← hsettled.total hinv hheld, htotal]
  · have hinv := (Run.always_of_stepsMeet (fun s action (h : s.Inv) => h.step action)
      inv_initial hfresh).last
    have hbalanced : (actions.foldl step {}).Balanced ↔
        ∀ r ∈ (actions.foldl step {}).requested, (actions.foldl step {}).answers r = 1 ∧
          lateResults r (actions.foldl step {}).sent = 0 := by
      unfold Balanced
      simp only [hover.total hinv, hover.debt]
    rw [← hbalanced, ← Run.always_iff_stepsMeet (j := Inv)
      (fun s action hinv hf => hinv.step action hf)
      (fun s action hinv hb hf => balanced_step_iff hinv hb hf) inv_initial hinitial hfresh]
    refine ⟨fun hb => ?_, fun h => h.last⟩
    exact Run.always_of_last (fun s action hinv hf => hinv.step action hf)
      (fun s action hinv _ hb => hb.of_step hinv) inv_initial hfresh hb

/-! ## Cancellations that cross a report -/

def mainSteps (n : Nat) : List Action := replicate n (.main { allServers := [] })

/-- The worker tests its only server. -/
def jobSteps (w n : Nat) : List Action := replicate n (.job w 0 (some 80))

def finisherSteps (w n : Nat) : List Action := replicate n (.finisher w)

/-- A request for one server, until its coroutines are launched. -/
def request (requestId : String) : List Action :=
  .command (.start { serverGuids := ["g"] } requestId) :: mainSteps 3

/-- A request that runs to its end, one that is cancelled meanwhile, and one without servers. -/
theorem tests_in_turn_one_terminal :
    let actions := request "a" ++ jobSteps 0 11 ++ finisherSteps 0 8 ++ request "b" ++
      jobSteps 1 2 ++ [.command .cancel] ++ mainSteps 5 ++ jobSteps 1 4 ++ finisherSteps 1 2 ++
      [.command (.start {} "c")] ++ mainSteps 3
    let s := actions.foldl step {}
    s.IsOver ∧ s.requested = ["a", "b", "c"] ∧
      ∀ r ∈ s.requested, s.answers r = 1 ∧ lateResults r s.sent = 0 := by
  intro actions s
  have hover : s.IsOver := by decide
  refine ⟨hover, by decide, ?_⟩
  exact ((one_terminal_answer_iff actions (by decide)).2 hover).mpr (by decide)

/-- The Finish handler has passed its check when the worker is cancelled: both answers are sent. And
the Result handler has passed its check when the worker is cancelled: the result comes after the
answer. -/
theorem cancelled_while_reporting :
    (let actions := request "a" ++ jobSteps 0 11 ++ finisherSteps 0 3 ++ [.command .cancel] ++
        mainSteps 5 ++ finisherSteps 0 5
      let s := actions.foldl step {}
      Run.StepsMeet step Fresh {} actions ∧ s.IsOver ∧ s.requested = ["a"] ∧ s.answers "a" = 2 ∧
        (s.sent.map (·.message)).filter (·.isTerminal) = [.cancel, .finish "0"]) ∧
    (let actions := request "a" ++ jobSteps 0 4 ++ [.command .cancel] ++ mainSteps 5 ++
        jobSteps 0 7 ++ finisherSteps 0 2
      let s := actions.foldl step {}
      Run.StepsMeet step Fresh {} actions ∧ s.IsOver ∧ s.requested = ["a"] ∧ s.answers "a" = 1 ∧
        s.sent.map (·.message) = [.cancel, .success "g" 80]) := by
  decide

/-- When everything has ended, exactly the requests have been answered. -/
theorem answered_iff_requested (actions : List Action)
    (hfresh : Run.StepsMeet step Fresh {} actions) (hover : (actions.foldl step {}).IsOver)
    (r : String) : 1 ≤ (actions.foldl step {}).answers r ↔ r ∈ (actions.foldl step {}).requested := by
  have hinv := (Run.always_of_stepsMeet (fun s action (h : s.Inv) => h.step action) inv_initial
    hfresh).last
  rw [← hover.total hinv]
  refine ⟨fun h => ?_, hinv.answered r⟩
  by_contra hr
  rw [hinv.silent r hr] at h
  cases h

theorem cancelled_request_answered :
    1 ≤ ((request "a" ++ jobSteps 0 2 ++ [Action.command .cancel] ++ mainSteps 5 ++ jobSteps 0 4 ++
      finisherSteps 0 2).foldl step {}).answers "a" :=
  (answered_iff_requested _ (by decide) (by decide) "a").mpr (by decide)

end State
end ZeroVpn.CoreTestService
