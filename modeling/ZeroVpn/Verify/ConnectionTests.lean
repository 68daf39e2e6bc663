import ZeroVpn.Core.ConnectionTestSpec
import ZeroVpn.Std.Run

/-!
# One answer per connection test

The answers that were sent for a request and those still owed for it are one together, from the
request on. Only a cancellation that reaches a coroutine between the start of its reporting block and
its completion adds another one: the block does not look for it, and the completion handler answers
again.
-/

namespace ZeroVpn.ConnectionTests
open Tally ConnectionTest

/-- One answer for every request was sent or is owed. -/
def Balanced (s : ConnectionTests) : Prop := ∀ r ∈ s.requested, s.total r = 1

section
variable {s : ConnectionTests} {action : Action}

theorem Balanced.of_step (h : s.Inv) (hproper : s.Proper action) (hb : (s.step action).Balanced) :
    s.Balanced := by
  intro r hr
  have hone := hb r (mem_requested_step.mpr (.inl hr))
  have hle := h.answered r hr
  rw [total_step hproper.1] at hone
  omega

/-- Exactly the cancellations that come too late break the balance. -/
theorem balanced_step_iff (h : s.Inv) (hb : s.Balanced) (hproper : s.Proper action) :
    (s.step action).Balanced ↔ s.CancelsInTime action := by
  constructor
  · intro hb' t ht
    have hknown := h.tests t (mem_tests_of_cancelled? ht)
    have hone := hb' t.requestId (mem_requested_step.mpr (.inl hknown))
    rw [total_step hproper.1, hb _ hknown] at hone
    unfold added at hone
    rw [ht, Option.elim_some, Test.adds] at hone
    by_contra hlate
    rw [if_pos ⟨rfl, Bool.not_eq_false _ ▸ hlate⟩] at hone
    omega
  · intro htime r hr
    have hcancelled : (s.cancelled? action).elim 0 (Test.adds r) = 0 := by
      cases hc : s.cancelled? action with
      | none => rfl
      | some t =>
        rw [Option.elim_some, Test.adds, if_neg]
        rintro ⟨-, hlate⟩
        rw [htime t hc] at hlate
        cases hlate
    rw [total_step hproper.1]
    unfold added
    rw [hcancelled]
    rcases mem_requested_step.mp hr with hold | rfl
    · rw [hb r hold]
      split
      · next q =>
        rw [if_neg]
        rintro rfl
        exact hproper.2 hold
      · rfl
    · dsimp only
      rw [h.silent r hproper.2, if_pos rfl]

theorem IsOver.total (h : s.IsOver) (r : String) : s.total r = s.answers r := by
  unfold ConnectionTests.total
  rw [h.1, tally_nil, tally_eq_zero, Nat.add_zero]
  intro t ht
  unfold Test.owes
  rw [h.2 t ht]
  exact ite_self _

end

theorem inv_initial (core : Lifecycle) : ({ core := core } : ConnectionTests).Inv where
  tests := List.forall_mem_nil _
  calls := List.forall_mem_nil _
  waiting := fun i t ht => by cases ht
  answered := List.forall_mem_nil _
  silent := fun _ _ => rfl

/-- A run of requests with distinct ids, of stops, reloads and tests, with the service attached: what
is pending can be brought to its end; and at the end every request has exactly one answer if and only
if no cancellation reached a coroutine between the start of its reporting block and its completion. -/
theorem one_answer_iff (core : Lifecycle) (actions : List Action)
    (hproper : Run.StepsMeet step Proper { core := core } actions)
    (hattached : (actions.foldl step { core := core }).core.manager.hasService = true) :
    (∃ rest : List Action, (∀ action ∈ rest, action.isInternal = true) ∧
      ((actions ++ rest).foldl step { core := core }).IsOver) ∧
    ((actions.foldl step { core := core }).IsOver →
      ((∀ r ∈ (actions.foldl step { core := core }).requested,
          (actions.foldl step { core := core }).answers r = 1) ↔
        Run.StepsMeet step CancelsInTime { core := core } actions)) := by
  have hinv := Run.always_of_stepsMeet (fun s action (hinv : s.Inv) => hinv.step action)
    (inv_initial core) hproper
  refine ⟨?_, fun hover => ?_⟩
  · obtain ⟨rest, hinternal, hend⟩ := hinv.last.exists_over hattached
    exact ⟨rest, hinternal, by rwa [List.foldl_append]⟩
  · have hbalanced : (actions.foldl step { core := core }).Balanced ↔
        ∀ r ∈ (actions.foldl step { core := core }).requested,
          (actions.foldl step { core := core }).answers r = 1 := by
      unfold Balanced
      simp only [hover.total]
    have hinitial : ({ core := core } : ConnectionTests).Balanced := List.forall_mem_nil _
    rw [← hbalanced, ← Run.always_iff_stepsMeet (j := Inv)
      (fun s action hinv hp => hinv.step action hp)
      (fun s action hinv hb hp => balanced_step_iff hinv hb hp) (inv_initial core) hinitial hproper]
    refine ⟨fun hb => ?_, fun h => h.last⟩
    exact Run.always_of_last (fun s action hinv hp => hinv.step action hp)
      (fun s action hinv hp hb => hb.of_step hinv hp) (inv_initial core) hproper hb

/-! ## A cancellation after the report -/

/-- The core runs. -/
def runningCore : Lifecycle := { manager := { hasService := true, coreRunning := true } }

/-- A request whose call launches a test. -/
def request (requestId : String) (steps : Nat) : List Action :=
  .measureV2rayDelay requestId :: List.replicate steps (.call 0)

def testSteps (i n : Nat) : List Action :=
  List.replicate n (.test i { measured := .ok 80, endpoint := some (some "DE", some "192.0.2.1") })

/-- Two tests, one after the other, and the core is stopped during the second one. -/
theorem tests_in_turn_one_answer :
    let actions := request "a" 7 ++ testSteps 0 11 ++ request "b" 8 ++ testSteps 1 5 ++
      [.core .stopCoreLoop, .call 0, .call 0, .call 0, .call 0] ++ testSteps 1 3
    let s := actions.foldl step { core := runningCore }
    s.IsOver ∧ s.requested = ["a", "b"] ∧ ∀ r ∈ s.requested, s.answers r = 1 := by
  intro actions s
  have hover : s.IsOver := by decide
  refine ⟨hover, by decide, ?_⟩
  exact ((one_answer_iff runningCore actions (by decide) (by decide)).2 hover).mpr (by decide)

/-- The result of the first test is sent. Before its coroutine completes, the second request cancels
it; the completion handler answers once more. -/
theorem cancelled_after_report_two_answers :
    let actions := request "a" 7 ++ testSteps 0 8 ++ request "b" 8 ++ testSteps 0 3 ++ testSteps 1 11
    let s := actions.foldl step { core := runningCore }
    Run.StepsMeet step Proper { core := runningCore } actions ∧
      s.core.manager.hasService = true ∧ s.IsOver ∧ s.requested = ["a", "b"] ∧
      s.answers "a" = 2 ∧ s.answers "b" = 1 ∧
      s.sent.map (fun m => (m.requestId, decide (m.answer = .cancel))) =
        [("a", false), ("a", true), ("b", false)] := by
  decide

/-! ## Schedules of what is pending -/

/-- A statement of a call or of a test that changes the state. -/
def Effective (s : ConnectionTests) (action : Action) : Prop :=
  action.isInternal = true ∧ s.step action ≠ s

theorem Effective.rank_lt {s : ConnectionTests} {action : Action} (h : s.Effective action) :
    (s.step action).rank < s.rank := by
  obtain ⟨hinternal, hne⟩ := h
  cases action with
  | core | measureV2rayDelay => cases hinternal
  | call i =>
    cases hc : s.calls[i]? with
    | none => exact absurd (by rw [step, hc]) hne
    | some c => exact rank_call hc
  | test i input =>
    cases ht : s.tests[i]? with
    | none => exact absurd (by rw [step, ht]) hne
    | some t =>
      refine rank_test ht (by_contra fun hwaits => hne ?_) input
      have hadvance : t.advance s.core.manager.isRunning input = (t, []) := by
        unfold Test.canAdvance at hwaits
        split at hwaits <;> simp_all [Test.advance]
      obtain ⟨hi, rfl⟩ := List.getElem?_eq_some_iff.mp ht
      rw [step, ht]
      dsimp only
      rw [hadvance, List.append_nil, List.set_getElem_self]

/-- After any run what is pending ends, in whatever order it goes on; when nothing can go on, every
request has been answered. -/
theorem tests_end (core : Lifecycle) (actions rest : List Action) {s s' : ConnectionTests}
    (hproper : Run.StepsMeet step Proper { core := core } actions)
    (hs : actions.foldl step { core := core } = s) (hattached : s.core.manager.hasService = true)
    (hrest : Run.StepsMeet step Effective s rest) (hs' : rest.foldl step s = s') :
    rest.length ≤ s.rank ∧ ((∀ action, ¬s'.Effective action) →
      s'.IsOver ∧ ∀ r ∈ s'.requested, 1 ≤ s'.answers r) := by
  have hinv := (Run.always_of_stepsMeet (fun s action (hinv : s.Inv) => hinv.step action)
    (inv_initial core) hproper).last
  rw [hs] at hinv
  clear hs
  induction rest generalizing s with
  | nil =>
    obtain rfl : s = s' := hs'
    refine ⟨Nat.zero_le _, fun hnone => ?_⟩
    have hover : s.IsOver := by
      by_contra hover
      obtain ⟨action, hinternal, hlt⟩ := hinv.exists_enabled hover
      exact hnone action ⟨hinternal, fun heq => absurd (congrArg rank heq) hlt.ne⟩
    refine ⟨hover, fun r hr => ?_⟩
    rw [← hover.total]
    exact hinv.answered r hr
  | cons action rest ih =>
    have hinternal := hrest.1.1
    have hproper : s.Proper action := ⟨hattached, by cases action <;> trivial⟩
    obtain ⟨hlength, hend⟩ := ih (by rwa [core_step hinternal]) hrest.2 hs' (hinv.step _ hproper)
    exact ⟨Nat.lt_of_le_of_lt hlength hrest.1.rank_lt, hend⟩

/-- The test of a request runs to its end, and the request is answered. -/
theorem pending_request_ends :
    let s := (request "a" 7).foldl step { core := runningCore }
    let s' := (testSteps 0 11).foldl step s
    11 ≤ s.rank ∧ s'.IsOver ∧ s'.requested = ["a"] ∧ ∀ r ∈ s'.requested, 1 ≤ s'.answers r := by
  intro s s'
  have hfall : Run.StepsMeet step
      (fun s action => action.isInternal = true ∧ (s.step action).rank < s.rank) s (testSteps 0 11) := by
    decide
  have hrest : Run.StepsMeet step Effective s (testSteps 0 11) :=
    hfall.imp fun s action h => ⟨h.1, fun heq => absurd (congrArg rank heq) h.2.ne⟩
  have hdone : s'.rank = 0 := by decide
  obtain ⟨hlength, hend⟩ :=
    tests_end runningCore (request "a" 7) (testSteps 0 11) (by decide) rfl rfl hrest rfl
  obtain ⟨hover, hanswers⟩ := hend fun action h =>
    absurd h.rank_lt (by rw [hdone]; exact Nat.not_lt_zero _)
  exact ⟨hlength, hover, by decide, hanswers⟩

end ZeroVpn.ConnectionTests
