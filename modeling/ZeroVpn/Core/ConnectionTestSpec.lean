import ZeroVpn.Core.ConnectionTest

/-!
# The answers that connection tests owe

`total` counts the answers that were sent for a request, and those that its call or its test still
sends if nothing cancels it. A request adds one (`total_step`), and so does a cancellation that comes
too late; every other step only moves them. `rank` bounds the statements that are left, so that what
is pending comes to its end (`Inv.exists_over`).
-/

namespace ZeroVpn
open Tally List ConnectionTest
variable {t' : Test} {next : Step} (isRunning : Bool) (i : Nat) {f : Test → Test} (c : Call)
  {action : ConnectionTests.Action} {n : Nat}

namespace ConnectionTest

/-- The answers that the coroutine still sends. -/
def Step.owed (cancelled : Bool) : Step → Nat
  | .readRunning _ | .sendResult _ | .sendCancel => 1 + cancelled.toNat
  | .leaveMain | .complete => cancelled.toNat
  | .completed cancelled => cancelled.toNat
  | .over => 0
  | _ => 1

/-- From the start of the reporting block to the completion. -/
def Step.isReporting : Step → Bool
  | .readRunning _ | .sendResult _ | .sendCancel | .leaveMain | .complete => true
  | _ => false

namespace Test

def owes (requestId : String) (t : Test) : Nat :=
  if t.requestId = requestId then t.step.owed t.cancelled else 0

/-- A cancellation would come too late. -/
def isLate (t : Test) : Bool := t.step.isReporting && !t.cancelled

/-- The answers that a cancellation adds. -/
def adds (requestId : String) (t : Test) : Nat :=
  if t.requestId = requestId ∧ t.isLate = true then 1 else 0

end Test

namespace Call

/-- The request of a call that has neither answered nor launched its test. -/
def request? : Call → Option String
  | .readAwg requestId | .readRunning requestId | .readReloading requestId | .sendCancel requestId
  | .launch requestId => some requestId
  | .cancelChildren request | .cancel _ request => request
  | .register _ => none

def owes (requestId : String) (c : Call) : Nat := if c.request? = some requestId then 1 else 0

/-- The child that the call cancels next. -/
def child? : Call → Option Nat
  | .cancel (child :: _) _ => some child
  | _ => none

end Call

section
variable {t : Test} {r : String}

theorem Test.owes_of_eq (hid : t'.requestId = t.requestId)
    (howed : t'.step.owed t'.cancelled = t.step.owed t.cancelled) : t'.owes r = t.owes r := by
  unfold Test.owes
  rw [hid, howed]

theorem Test.unlessCancelled_owes (hnext : next.owed false = 1)
    (howed : t.step.owed t.cancelled = 1) : (t.unlessCancelled next).owes r = t.owes r := by
  refine Test.owes_of_eq rfl ?_
  rw [howed]
  unfold Test.unlessCancelled
  cases t.cancelled with
  | false => exact hnext
  | true => rfl

/-- A statement that sends an answer. -/
theorem Test.send_owes (howed : next.owed t.cancelled + 1 = t.step.owed t.cancelled) :
    [(⟨t.requestId, answer⟩ : SentAnswer)].countP (·.requestId = r) +
      ({ t with step := next } : Test).owes r = t.owes r := by
  unfold Test.owes
  rw [← howed]
  by_cases hid : t.requestId = r
  · simp [hid, Nat.add_comm]
  · simp [hid]

/-- What a statement of a coroutine sends is not owed any more. -/
theorem Test.advance_owes (input : Input) :
    (t.advance isRunning input).2.countP (·.requestId = r) +
      (t.advance isRunning input).1.owes r = t.owes r := by
  have hquiet {t' : Test} (hid : t'.requestId = t.requestId)
      (howed : t'.step.owed t'.cancelled = t.step.owed t.cancelled) :
      ([] : List SentAnswer).countP (·.requestId = r) + t'.owes r = t.owes r := by
    rw [countP_nil, Nat.zero_add, Test.owes_of_eq hid howed]
  unfold Test.advance
  cases hstep : t.step with
  | launched | checkRetry _ | checkActive _ _ | enterMain _ | startBlock _ =>
    rw [countP_nil, Nat.zero_add]
    exact Test.unlessCancelled_owes rfl (by rw [hstep]; rfl)
  | measure =>
    dsimp only
    split
    · refine hquiet rfl ?_
      rw [hstep]
      split <;> rfl
    · exact hquiet rfl (by rw [hstep]; rfl)
  | measureAgain errorStr =>
    dsimp only
    split <;> exact hquiet rfl (by rw [hstep]; rfl)
  | lookup time errorStr => exact hquiet rfl (by rw [hstep]; rfl)
  | readRunning result =>
    refine hquiet rfl ?_
    rw [hstep]
    cases isRunning <;> rfl
  | sendResult result => exact Test.send_owes (by rw [hstep]; exact Nat.add_comm _ _)
  | sendCancel => exact Test.send_owes (by rw [hstep]; exact Nat.add_comm _ _)
  | leaveMain => exact hquiet rfl (by rw [hstep]; rfl)
  | complete => exact hquiet rfl (by rw [hstep]; rfl)
  | completed cancelled =>
    dsimp only
    split
    · cases cancelled with
      | true => exact Test.send_owes (by rw [hstep]; rfl)
      | false => exact hquiet rfl (by rw [hstep]; rfl)
    · exact hquiet rfl rfl
  | «over» => exact hquiet rfl rfl

theorem Test.advance_keeps (input : Input) :
    (t.advance isRunning input).1.requestId = t.requestId ∧
      (t.advance isRunning input).1.registered = t.registered := by
  unfold Test.advance
  split
  case h_2 | h_4 => split <;> exact ⟨rfl, rfl⟩
  case h_14 => split <;> exact ⟨rfl, rfl⟩
  all_goals exact ⟨rfl, rfl⟩

/-- A cancellation that comes too late adds an answer. -/
theorem Test.cancel_owes :
    t.cancel.owes r = t.owes r + t.adds r := by
  unfold Test.cancel Test.owes Test.adds Test.isLate
  by_cases hid : t.requestId = r
  · cases hstep : t.step <;> cases t.cancelled <;>
      simp [hid, hstep, Step.owed, Step.isReporting]
  · cases hstep : t.step <;> simp [hid]

end
end ConnectionTest

namespace ConnectionTests

/-- The answers for a request. -/
def answers (s : ConnectionTests) (requestId : String) : Nat :=
  s.sent.countP (·.requestId = requestId)

/-- The answers for a request that were sent or are owed. -/
def total (s : ConnectionTests) (requestId : String) : Nat :=
  s.answers requestId + tally (Call.owes requestId) s.calls + tally (Test.owes requestId) s.tests

/-- The test that an action cancels. -/
def cancelled? (s : ConnectionTests) : Action → Option Test
  | .call i => (s.calls[i]?.bind Call.child?).bind (s.tests[·]?)
  | _ => none

/-- No test is cancelled between the start of its reporting block and its completion. -/
def CancelsInTime (s : ConnectionTests) (action : Action) : Prop :=
  ∀ t ∈ s.cancelled? action, t.isLate = false

/-- A request has a new id. -/
def Fresh (s : ConnectionTests) : Action → Prop
  | .measureV2rayDelay requestId => requestId ∉ s.requested
  | _ => True

/-- The service is attached, and requests have new ids. -/
def Proper (s : ConnectionTests) (action : Action) : Prop :=
  s.core.manager.hasService = true ∧ s.Fresh action

instance (s : ConnectionTests) (action : Action) : Decidable (s.CancelsInTime action) := by
  unfold CancelsInTime
  infer_instance

instance (s : ConnectionTests) (action : Action) : Decidable (s.Proper action) := by
  unfold Proper Fresh
  cases action <;> infer_instance

/-- The answers that an action adds. -/
def added (s : ConnectionTests) (requestId : String) (action : Action) : Nat :=
  (s.cancelled? action).elim 0 (Test.adds requestId) +
    match action with
    | .measureV2rayDelay q => if q = requestId then 1 else 0
    | _ => 0

section
variable {s : ConnectionTests} {r : String}

theorem total_update (hf : ∀ t, (f t).owes r = t.owes r) : (s.update i f).total r = s.total r := by
  unfold update
  split
  · rfl
  · next t ht =>
    have hset := tally_set (Test.owes r) ht (f t)
    rw [hf] at hset
    unfold total answers
    dsimp only
    omega

theorem total_update_cancel :
    (s.update i .cancel).total r = s.total r + s.tests[i]?.elim 0 (Test.adds r) := by
  unfold update
  cases ht : s.tests[i]? with
  | none => rfl
  | some t =>
    have hset := tally_set (Test.owes r) ht t.cancel
    rw [Test.cancel_owes] at hset
    unfold total answers
    dsimp only [Option.elim_some]
    omega

theorem update_calls (f : Test → Test) : (s.update i f).calls = s.calls := by
  unfold update
  split <;> rfl

theorem update_requested (f : Test → Test) : (s.update i f).requested = s.requested := by
  unfold update
  split <;> rfl

theorem callStep_calls : (s.callStep c).1.calls = s.calls := by
  cases c with
  | cancel children request =>
    cases children with
    | nil => rfl
    | cons i children => exact update_calls i _
  | register i => exact update_calls i _
  | _ => rfl

/-- A call keeps what it owes, answers, or hands it on to the test it launches. -/
theorem callStep_total :
    (s.callStep c).1.total r + (s.callStep c).2.elim 0 (Call.owes r) =
      s.total r + c.owes r + (c.child?.bind (s.tests[·]?)).elim 0 (Test.adds r) := by
  cases c with
  | readAwg q | readRunning q | readReloading q =>
    rw [callStep]
    split <;> rfl
  | sendCancel q =>
    rw [callStep]
    unfold total answers
    by_cases hid : q = r
    · simp [Call.owes, Call.request?, Call.child?, hid]
      omega
    · simp [Call.owes, Call.request?, Call.child?, hid]
  | cancelChildren request => rfl
  | cancel children request =>
    cases children with
    | nil =>
      cases request with
      | none => rfl
      | some q => rfl
    | cons i children =>
      rw [callStep]
      rw [total_update_cancel]
      change _ + Call.owes r (.cancel (i :: children) request) =
        _ + _ + s.tests[i]?.elim 0 (Test.adds r)
      omega
  | launch q =>
    rw [callStep]
    unfold total answers
    by_cases hid : q = r <;>
      simp [hid, Call.owes, Call.request?, Call.child?, Test.owes, Step.owed, Nat.add_assoc]
  | register i =>
    exact total_update i fun t =>
      Test.owes_of_eq rfl rfl

/-- Requests and late cancellations apart, the total stays. -/
theorem total_step (hservice : s.core.manager.hasService = true) (action : Action) :
    (s.step action).total r = s.total r + s.added r action := by
  cases action with
  | core action =>
    rw [step]
    unfold total answers
    split <;> simp [added, cancelled?, Call.owes, Call.request?]
  | measureV2rayDelay q =>
    rw [step, if_pos hservice]
    unfold total answers
    by_cases hid : q = r <;>
      simp [added, cancelled?, Call.owes, Call.request?, hid]
    omega
  | call i =>
    rw [step]
    unfold added cancelled?
    dsimp only
    cases hc : s.calls[i]? with
    | none => rfl
    | some c =>
      have hreplace := tally_replace (Call.owes r) hc (s.callStep c).2
      have hcall := s.callStep_total (r := r) c
      unfold total at hcall ⊢
      rw [callStep_calls] at hcall
      change (s.callStep c).1.answers r + tally (Call.owes r) (replace s.calls i (s.callStep c).2) +
        tally (Test.owes r) (s.callStep c).1.tests =
          _ + ((c.child?.bind (s.tests[·]?)).elim 0 (Test.adds r) + 0)
      omega
  | test i input =>
    rw [step]
    cases ht : s.tests[i]? with
    | none => rfl
    | some t =>
      have hset := tally_set (Test.owes r) ht (t.advance s.core.manager.isRunning input).1
      have hadvance := t.advance_owes (r := r) s.core.manager.isRunning input
      unfold total answers
      dsimp only
      rw [countP_append]
      change _ = _ + 0
      omega

/-! ## What every run keeps -/

structure Inv (s : ConnectionTests) : Prop where
  /-- The requests of the tests and of the calls came before. -/
  tests : ∀ t ∈ s.tests, t.requestId ∈ s.requested
  calls : ∀ c ∈ s.calls, ∀ r ∈ c.request?, r ∈ s.requested
  /-- A test without completion handler gets one. -/
  waiting : ∀ (i : Nat) (t : Test), s.tests[i]? = some t → t.registered = false →
    Call.register i ∈ s.calls
  answered : ∀ r ∈ s.requested, 1 ≤ s.total r
  silent : ∀ r, r ∉ s.requested → s.total r = 0

theorem mem_update {i : Nat} (h : t' ∈ (s.update i f).tests) :
    ∃ t ∈ s.tests, t' = t ∨ t' = f t := by
  unfold update at h
  split at h
  · exact ⟨t', h, .inl rfl⟩
  · next t ht =>
    rcases mem_or_eq_of_mem_set h with hold | hnew
    · exact ⟨t', hold, .inl rfl⟩
    · exact ⟨t, mem_of_getElem? ht, .inr hnew⟩

theorem callStep_requested : (s.callStep c).1.requested = s.requested := by
  cases c with
  | cancel children request =>
    cases children with
    | nil => rfl
    | cons i children => exact update_requested i _
  | register i => exact update_requested i _
  | _ => rfl

theorem requestId_cancel (t : Test) : t.cancel.requestId = t.requestId := by
  unfold Test.cancel
  split <;> rfl

/-- The tests after a statement of a call are those before, or one for its request. -/
theorem mem_callStep_tests {c : Call} (h : t' ∈ (s.callStep c).1.tests) :
    (∃ t ∈ s.tests, t'.requestId = t.requestId) ∨ c.request? = some t'.requestId := by
  have hupdate {i : Nat} {f : Test → Test} (hf : ∀ t, (f t).requestId = t.requestId)
      (h : t' ∈ (s.update i f).tests) : ∃ t ∈ s.tests, t'.requestId = t.requestId := by
    obtain ⟨t, ht, rfl | rfl⟩ := mem_update h
    · exact ⟨_, ht, rfl⟩
    · exact ⟨t, ht, hf t⟩
  cases c with
  | cancel children request =>
    cases children with
    | nil => exact .inl ⟨t', h, rfl⟩
    | cons i children => exact .inl (hupdate requestId_cancel h)
  | register i => exact .inl (hupdate (f := fun t => { t with registered := true }) (fun _ => rfl) h)
  | launch q =>
    rcases mem_append.mp h with hold | hnew
    · exact .inl ⟨t', hold, rfl⟩
    · rw [mem_singleton.mp hnew]
      exact .inr rfl
  | _ => exact .inl ⟨t', h, rfl⟩

/-- What is left of a call has its request, if any. -/
theorem request?_callStep {c c' : Call} (h : (s.callStep c).2 = some c') {r : String}
    (hr : c'.request? = some r) : c.request? = some r := by
  cases c with
  | readAwg q | readRunning q | readReloading q =>
    cases h
    split at hr <;> exact hr
  | sendCancel q => cases h
  | cancelChildren request => cases h; exact hr
  | cancel children request =>
    cases children with
    | nil =>
      obtain ⟨q, hq, rfl⟩ := Option.map_eq_some_iff.mp h
      exact hq.trans hr
    | cons i children => cases h; exact hr
  | launch q => cases h; cases hr
  | register i => cases h

theorem getElem?_update (j : Nat) (f : Test → Test) :
    (s.update i f).tests[j]? = s.tests[j]?.map fun t => if j = i then f t else t := by
  unfold update
  by_cases hij : j = i
  · subst hij
    cases ht : s.tests[j]? with
    | none => simpa using ht
    | some t =>
      obtain ⟨hlt, -⟩ := List.getElem?_eq_some_iff.mp ht
      simp [hlt]
  · split
    · simp [hij]
    · next t ht =>
      rw [getElem?_set_ne (Ne.symm hij)]
      simp [hij]

/-- A test without completion handler had none before, or was launched by the call. -/
theorem unregistered_callStep {c : Call} (h : (s.callStep c).1.tests[j]? = some t')
    (hnone : t'.registered = false) :
    (c ≠ .register j ∧ ∃ t, s.tests[j]? = some t ∧ t.registered = false) ∨
      (s.callStep c).2 = some (.register j) := by
  cases c with
  | cancel children request =>
    refine .inl ⟨nofun, ?_⟩
    cases children with
    | nil => exact ⟨t', h, hnone⟩
    | cons i children =>
      rw [callStep] at h
      rw [getElem?_update] at h
      obtain ⟨t, ht, rfl⟩ := Option.map_eq_some_iff.mp h
      refine ⟨t, ht, ?_⟩
      split at hnone
      · unfold Test.cancel at hnone
        split at hnone <;> exact hnone
      · exact hnone
  | register i =>
    rw [callStep] at h
    rw [getElem?_update] at h
    obtain ⟨t, ht, rfl⟩ := Option.map_eq_some_iff.mp h
    split at hnone
    · cases hnone
    · next hij =>
      refine .inl ⟨?_, t, ht, hnone⟩
      rintro ⟨⟩
      exact hij rfl
  | launch q =>
    rw [callStep] at h ⊢
    rcases Nat.lt_or_ge j s.tests.length with hlt | hge
    · rw [getElem?_append_left hlt] at h
      exact .inl ⟨nofun, t', h, hnone⟩
    · have hj : j < s.tests.length + 1 := by
        obtain ⟨hlt, -⟩ := List.getElem?_eq_some_iff.mp h
        simpa using hlt
      have hlast : j = s.tests.length := by omega
      exact .inr (by rw [hlast])
  | _ => exact .inl ⟨nofun, t', h, hnone⟩

theorem mem_requested_step :
    r ∈ (s.step action).requested ↔ r ∈ s.requested ∨ action = .measureV2rayDelay r := by
  cases action with
  | core action => exact ⟨.inl, fun h => h.resolve_right nofun⟩
  | measureV2rayDelay q =>
    rw [step, mem_append, mem_singleton]
    exact or_congr_right ⟨fun h => congrArg _ h.symm, fun h => (Action.measureV2rayDelay.inj h).symm⟩
  | call i =>
    refine Iff.trans (Eq.to_iff (congrArg (r ∈ ·) ?_)) ⟨.inl, fun h => h.resolve_right nofun⟩
    rw [step]
    split
    · rfl
    · exact callStep_requested _
  | test i input =>
    refine Iff.trans (Eq.to_iff (congrArg (r ∈ ·) ?_)) ⟨.inl, fun h => h.resolve_right nofun⟩
    rw [step]
    split <;> rfl

theorem mem_tests_of_cancelled? (h : s.cancelled? action = some t) : t ∈ s.tests := by
  unfold cancelled? at h
  split at h
  · obtain ⟨child, -, hchild⟩ := Option.bind_eq_some_iff.mp h
    exact mem_of_getElem? hchild
  · cases h

theorem Inv.answered_step (h : s.Inv) (hproper : s.Proper action)
    (hr : r ∈ (s.step action).requested) : 1 ≤ (s.step action).total r := by
  rw [total_step hproper.1]
  rcases mem_requested_step.mp hr with hold | rfl
  · exact Nat.le_trans (h.answered r hold) (Nat.le_add_right _ _)
  · unfold added
    dsimp only
    rw [if_pos rfl]
    omega

theorem Inv.silent_step (h : s.Inv) (hproper : s.Proper action)
    (hr : r ∉ (s.step action).requested) : (s.step action).total r = 0 := by
  rw [mem_requested_step, not_or] at hr
  have hcancelled : (s.cancelled? action).elim 0 (Test.adds r) = 0 := by
    cases hc : s.cancelled? action with
    | none => rfl
    | some t =>
      have hknown := h.tests t (mem_tests_of_cancelled? hc)
      rw [Option.elim_some, Test.adds, if_neg]
      rintro ⟨hid, -⟩
      exact hr.1 (hid ▸ hknown)
  rw [total_step hproper.1, h.silent r hr.1, Nat.zero_add]
  unfold added
  rw [hcancelled, Nat.zero_add]
  split
  · exact if_neg fun hq => hr.2 (congrArg _ hq)
  · rfl

theorem Inv.step (h : s.Inv) (action : Action) (hproper : s.Proper action) :
    (s.step action).Inv := by
  have hold {r : String} (hr : r ∈ s.requested) : r ∈ (s.step action).requested :=
    mem_requested_step.mpr (.inl hr)
  suffices hrest : (∀ t ∈ (s.step action).tests, t.requestId ∈ (s.step action).requested) ∧
      (∀ c ∈ (s.step action).calls, ∀ r ∈ c.request?, r ∈ (s.step action).requested) ∧
      ∀ (i : Nat) (t : Test), (s.step action).tests[i]? = some t → t.registered = false →
        Call.register i ∈ (s.step action).calls from
    ⟨hrest.1, hrest.2.1, hrest.2.2, fun _ => h.answered_step hproper,
      fun _ => h.silent_step hproper⟩
  cases action with
  | core action =>
    refine ⟨fun t ht => hold (h.tests t ht), fun c hc r hr => ?_, fun i t ht hnone => ?_⟩
    · rcases mem_append.mp hc with hc | hc
      · exact hold (h.calls c hc r hr)
      · split at hc
        · rw [mem_singleton.mp hc] at hr
          cases hr
        · cases hc
    · exact mem_append_left _ (h.waiting i t ht hnone)
  | measureV2rayDelay q =>
    refine ⟨fun t ht => hold (h.tests t ht), fun c hc r hr => ?_, fun i t ht hnone => ?_⟩
    · rcases mem_append.mp hc with hc | hc
      · exact hold (h.calls c hc r hr)
      · rw [if_pos hproper.1, mem_singleton] at hc
        rw [hc] at hr
        cases hr
        exact mem_requested_step.mpr (.inr rfl)
    · exact mem_append_left _ (h.waiting i t ht hnone)
  | call i =>
    rw [ConnectionTests.step] at hold ⊢
    cases hc : s.calls[i]? with
    | none => exact ⟨h.tests, h.calls, h.waiting⟩
    | some c =>
      have hin := mem_of_getElem? hc
      rw [hc] at hold
      refine ⟨fun t ht => hold ?_, fun c' hc' r hr => hold ?_, fun j t ht hnone => ?_⟩
      · rcases mem_callStep_tests ht with ⟨t₀, ht₀, hid⟩ | hnew
        · exact hid ▸ h.tests t₀ ht₀
        · exact h.calls c hin _ hnew
      · rcases mem_replace hc' with hc' | hnext
        · exact h.calls c' hc' r hr
        · exact h.calls c hin r (request?_callStep hnext hr)
      · rcases unregistered_callStep ht hnone with ⟨hne, t₀, ht₀, hnone₀⟩ | hnew
        · exact mem_replace_of_ne hc (h.waiting j t₀ ht₀ hnone₀) (Ne.symm hne)
        · dsimp only
          rw [hnew]
          exact mem_replace_some hc
  | test i input =>
    rw [ConnectionTests.step] at hold ⊢
    cases ht : s.tests[i]? with
    | none => exact ⟨h.tests, h.calls, h.waiting⟩
    | some t =>
      rw [ht] at hold
      refine ⟨fun t' ht' => hold ?_, fun c hc r hr => hold (h.calls c hc r hr),
        fun j t' ht' hnone => ?_⟩
      · rcases mem_or_eq_of_mem_set ht' with hin | rfl
        · exact h.tests t' hin
        · rw [(t.advance_keeps _ input).1]
          exact h.tests t (mem_of_getElem? ht)
      · rw [getElem?_set] at ht'
        split at ht'
        · next hij =>
          subst hij
          split at ht'
          · cases ht'
            rw [(t.advance_keeps _ input).2] at hnone
            exact h.waiting i t ht hnone
          · cases ht'
        · exact h.waiting j t' ht' hnone

/-! ## Every call and every test comes to its end -/

/-- Nothing is pending. -/
def IsOver (s : ConnectionTests) : Prop := s.calls = [] ∧ ∀ t ∈ s.tests, t.step = .over

instance (s : ConnectionTests) : Decidable s.IsOver := inferInstanceAs (Decidable (_ ∧ _))

/-- A statement of a call or of a test. -/
def Action.isInternal : Action → Bool
  | .call _ | .test _ _ => true
  | .core _ | .measureV2rayDelay _ => false

/-- A bound for the number of tests when all calls have launched theirs. -/
def bound (s : ConnectionTests) : Nat :=
  s.tests.length + tally (fun c => c.request?.elim 0 fun _ => 1) s.calls

end
end ConnectionTests

namespace ConnectionTest

/-- A bound for the statements that are left. -/
def Step.rank : Step → Nat
  | .launched => 13
  | .measure => 12
  | .checkRetry _ => 11
  | .measureAgain _ => 10
  | .checkActive _ _ => 9
  | .lookup _ _ => 8
  | .enterMain _ => 7
  | .startBlock _ => 6
  | .readRunning _ => 5
  | .sendResult _ | .sendCancel => 4
  | .leaveMain => 3
  | .complete => 2
  | .completed _ => 1
  | .over => 0

/-- The same for a call, those of the test it launches included; there are at most `n` tests. -/
def Call.rank (n : Nat) : Call → Nat
  | .readAwg _ => n + 20
  | .readRunning _ => n + 19
  | .readReloading _ => n + 18
  | .cancelChildren _ => n + 17
  | .cancel children _ => children.length + 16
  | .launch _ => 15
  | .sendCancel _ | .register _ => 1

theorem Call.rank_mono (h : m ≤ n) (c : Call) : c.rank m ≤ c.rank n := by
  cases c <;> simp only [Call.rank] <;> omega

/-- The coroutine can go on: it is not over, nor does it wait for its handler. -/
def Test.canAdvance (t : Test) : Bool :=
  match t.step with
  | .completed _ => t.registered
  | .over => false
  | _ => true

theorem Test.unlessCancelled_rank {t : Test} (hnext : next.rank < n) (hn : 2 < n) :
    (t.unlessCancelled next).step.rank < n := by
  unfold Test.unlessCancelled
  cases t.cancelled with
  | false => exact hnext
  | true => exact hn

theorem Test.advance_rank {t : Test} (input : Input) (h : t.canAdvance = true) :
    (t.advance isRunning input).1.step.rank < t.step.rank := by
  unfold Test.canAdvance at h
  unfold Test.advance
  cases hstep : t.step with
  | launched | checkRetry _ | checkActive _ _ | enterMain _ | startBlock _ =>
    exact Test.unlessCancelled_rank (by simp [Step.rank]) (by simp [Step.rank])
  | measure =>
    cases input.measured with
    | error message => simp [Step.rank]
    | ok time =>
      dsimp only
      split <;> simp [Step.rank]
  | measureAgain errorStr => cases input.measured <;> simp [Step.rank]
  | readRunning result => cases isRunning <;> simp [Step.rank]
  | completed cancelled =>
    rw [hstep] at h
    dsimp only at h ⊢
    rw [if_pos h]
    simp [Step.rank]
  | «over» =>
    rw [hstep] at h
    cases h
  | lookup _ _ | sendResult _ | sendCancel | leaveMain | complete => simp [Step.rank]

end ConnectionTest

namespace ConnectionTests

section
variable {s : ConnectionTests}

def rank (s : ConnectionTests) : Nat :=
  tally (Call.rank s.bound) s.calls + tally (·.step.rank) s.tests

theorem tally_rank_update (hf : ∀ t, (f t).step = t.step) :
    tally (·.step.rank) (s.update i f).tests = tally (·.step.rank) s.tests := by
  unfold update
  split
  · rfl
  · next t ht =>
    have hset := tally_set (·.step.rank) ht (f t)
    simp only [hf] at hset
    exact Nat.add_right_cancel hset

theorem length_update (f : Test → Test) : (s.update i f).tests.length = s.tests.length := by
  unfold update
  split
  · rfl
  · exact length_set

theorem step_cancel (t : Test) : t.cancel.step = t.step := by
  unfold Test.cancel
  split <;> rfl

/-- A statement of a call brings no test that its request did not stand for. -/
theorem callStep_bound :
    (s.callStep c).1.tests.length + (s.callStep c).2.elim 0 (fun c => c.request?.elim 0 fun _ => 1) ≤
      s.tests.length + c.request?.elim 0 fun _ => 1 := by
  cases c with
  | readAwg q | readRunning q | readReloading q =>
    rw [callStep]
    split <;> exact Nat.le_refl _
  | cancel children request =>
    cases children with
    | nil => cases request <;> exact Nat.le_refl _
    | cons i children =>
      rw [callStep]
      rw [length_update]
      exact Nat.le_refl _
  | launch q =>
    rw [callStep]
    rw [length_append]
    exact Nat.le_refl _
  | register i =>
    rw [callStep]
    rw [length_update]
    exact Nat.le_refl _
  | sendCancel q => exact Nat.le_add_right _ _
  | cancelChildren request => exact Nat.le_refl _

theorem callStep_rank (hn : s.tests.length ≤ n) :
    tally (·.step.rank) (s.callStep c).1.tests + (s.callStep c).2.elim 0 (Call.rank n) <
      tally (·.step.rank) s.tests + c.rank n := by
  cases c with
  | readAwg q | readRunning q | readReloading q =>
    rw [callStep]
    dsimp only [Option.elim_some]
    split <;> (simp only [Call.rank]; omega)
  | sendCancel q => exact Nat.lt_succ_self _
  | cancelChildren request =>
    rw [callStep]
    dsimp only [Option.elim_some]
    simp only [Call.rank, length_range]
    omega
  | cancel children request =>
    cases children with
    | nil =>
      cases request with
      | none => simp [callStep, Call.rank]
      | some q => simp [callStep, Call.rank]
    | cons i children =>
      rw [callStep]
      dsimp only [Option.elim_some]
      rw [tally_rank_update i step_cancel]
      simp only [Call.rank, length_cons]
      omega
  | launch q =>
    rw [callStep]
    simp [Call.rank, Step.rank]
  | register i =>
    have hsame := s.tally_rank_update i (f := fun t => { t with registered := true }) fun _ => rfl
    rw [callStep]
    rw [hsame]
    exact Nat.lt_succ_self _

theorem rank_call {i : Nat} {c : Call} (h : s.calls[i]? = some c) :
    (s.step (.call i)).rank < s.rank := by
  have hn : s.tests.length ≤ s.bound := Nat.le_add_right _ _
  have hrank := s.callStep_rank c hn
  have hreplace := tally_replace (Call.rank s.bound) h (s.callStep c).2
  have hbound : (s.step (.call i)).bound ≤ s.bound := by
    have hstep := s.callStep_bound c
    have hcalls := tally_replace (fun c : Call => c.request?.elim 0 fun _ => 1) h (s.callStep c).2
    rw [step, h]
    unfold bound
    dsimp only
    omega
  have hmono := tally_mono (l := replace s.calls i (s.callStep c).2) (Call.rank_mono hbound)
  unfold rank
  rw [step, h] at hmono ⊢
  dsimp only at hmono ⊢
  omega

theorem rank_test {i : Nat} {t : Test} (h : s.tests[i]? = some t) (hadvance : t.canAdvance = true)
    (input : ConnectionTest.Input) : (s.step (.test i input)).rank < s.rank := by
  have hrank := t.advance_rank s.core.manager.isRunning input hadvance
  have hset := tally_set (·.step.rank) h (t.advance s.core.manager.isRunning input).1
  unfold rank bound
  rw [step, h]
  dsimp only
  rw [length_set]
  omega

/-- Some call or some test can go on, unless all are over. -/
theorem Inv.exists_enabled (h : s.Inv) (hover : ¬s.IsOver) :
    ∃ action : Action, action.isInternal = true ∧ (s.step action).rank < s.rank := by
  cases hcalls : s.calls with
  | cons c calls => exact ⟨.call 0, rfl, rank_call (by rw [hcalls]; rfl)⟩
  | nil =>
    obtain ⟨t, ht, hstep⟩ : ∃ t ∈ s.tests, t.step ≠ .over := by
      by_contra hall
      push Not at hall
      exact hover ⟨hcalls, hall⟩
    obtain ⟨i, hi⟩ := getElem?_of_mem ht
    refine ⟨.test i {}, rfl, rank_test hi ?_ {}⟩
    have hregistered : t.registered = true := by
      by_contra hnone
      have hwaiting := h.waiting i t hi (Bool.eq_false_iff.mpr hnone)
      rw [hcalls] at hwaiting
      cases hwaiting
    unfold Test.canAdvance
    split
    · exact hregistered
    · next hover => exact absurd hover hstep
    · rfl

theorem core_update (f : Test → Test) : (s.update i f).core = s.core := by
  unfold update
  split <;> rfl

theorem core_step (hinternal : action.isInternal = true) : (s.step action).core = s.core := by
  cases action with
  | core action => cases hinternal
  | measureV2rayDelay q => cases hinternal
  | test i input =>
    rw [step]
    split <;> rfl
  | call i =>
    rw [step]
    split
    · rfl
    · next c hc =>
      cases c with
      | cancel children request =>
        cases children with
        | nil => rfl
        | cons i children => exact core_update i _
      | register i => exact core_update i _
      | _ => rfl

/-- The calls and tests can always be brought to their end. -/
theorem Inv.exists_over (h : s.Inv) (hservice : s.core.manager.hasService = true) :
    ∃ rest : List Action, (∀ action ∈ rest, action.isInternal = true) ∧
      (rest.foldl ConnectionTests.step s).IsOver := by
  induction hrank : s.rank using Nat.strong_induction_on generalizing s with
  | _ n ih =>
    by_cases hover : s.IsOver
    · exact ⟨[], forall_mem_nil _, hover⟩
    · obtain ⟨action, hinternal, hlt⟩ := h.exists_enabled hover
      have hproper : s.Proper action := by
        refine ⟨hservice, ?_⟩
        cases action with
        | measureV2rayDelay q => cases hinternal
        | _ => trivial
      obtain ⟨rest, hrest, hend⟩ := ih _ (hrank ▸ hlt) (h.step action hproper)
        (by rw [core_step hinternal]; exact hservice) rfl
      exact ⟨action :: rest, forall_mem_cons.mpr ⟨hinternal, hrest⟩, hend⟩

end

end ConnectionTests
end ZeroVpn
