import ZeroVpn.Service.CoreTestService

/-!
# The steps of bulk tests

What one statement of a coroutine does to its worker, and what a step does to the state (`Moves`):
the results about runs go by its cases.
-/

namespace ZeroVpn.CoreTestService
open Tally List Worker

/-! ## Messages -/

def ConfigMessage.isTerminal : ConfigMessage → Bool
  | .finish _ | .cancel => true
  | .success _ _ | .notify _ => false

def ConfigMessage.isSuccess : ConfigMessage → Bool
  | .success _ _ => true
  | _ => false

/-- A terminal answer for the request. -/
def Sent.answers (requestId : String) (m : Sent) : Bool :=
  m.requestId = requestId && m.message.isTerminal

/-- A result for the request. -/
def Sent.reports (requestId : String) (m : Sent) : Bool :=
  m.requestId = requestId && m.message.isSuccess

/-- The results that were sent after a terminal answer. -/
def lateResults (requestId : String) : List Sent → Nat
  | [] => 0
  | m :: sent =>
    if m.answers requestId then sent.countP (Sent.reports requestId)
    else lateResults requestId sent

section
variable {r : String} {sent new : List Sent}

theorem lateResults_append :
    lateResults r (sent ++ new) = lateResults r sent +
      if sent.countP (Sent.answers r) = 0 then lateResults r new
      else new.countP (Sent.reports r) := by
  induction sent with
  | nil => simp [lateResults]
  | cons m sent ih =>
    rw [cons_append, lateResults, lateResults]
    by_cases hm : m.answers r = true
    · simp [hm, countP_append]
    · simp [hm, ih]

theorem lateResults_of_no_answer (h : sent.countP (Sent.answers r) = 0) : lateResults r sent = 0 := by
  induction sent with
  | nil => rfl
  | cons m sent ih =>
    rw [countP_cons] at h
    have hm : ¬m.answers r = true := by
      intro hm
      rw [if_pos hm] at h
      omega
    rw [lateResults, if_neg hm]
    exact ih (by omega)

end

/-! ## What is owed -/

/-- The handler of the Finish event is past its check, and has not removed the worker. -/
def FinisherStep.isFinishing : FinisherStep → Bool
  | .tidyGroup | .sendFinish | .removeWorker => true
  | _ => false

/-- The handler of the Result event is past its check, and has not sent the result. -/
def JobStep.isReporting : JobStep → Bool
  | .storeDelay _ | .sendSuccess _ => true
  | _ => false

namespace Worker

/-- The terminal answers that the worker still sends, or that its entry stands for. -/
def owed (k : Worker) : Nat :=
  match k.finisher with
  | .tidyGroup | .sendFinish => 1
  | .removeWorker => 0
  | _ => if k.entry.isSome then 1 else 0

def owes (requestId : String) (k : Worker) : Nat := if k.requestId = requestId then k.owed else 0

/-- The results of the worker that are past their check. -/
def reporting (requestId : String) (k : Worker) : Nat :=
  if k.requestId = requestId then tally (fun j => j.step.isReporting.toNat) k.jobs else 0

end Worker

def MainStep.owes (requestId : String) : MainStep → Nat
  | .cancelWorker _ q _ | .sendCancel q _ => if q = requestId then 1 else 0
  | .launch _ _ | .removeEntries _ => 0

def Command.owes (requestId : String) : Command → Nat
  | .start _ q => if q = requestId then 1 else 0
  | .cancel | .destroy => 0

namespace State

/-- The terminal answers for a request. -/
def answers (s : State) (requestId : String) : Nat := s.sent.countP (Sent.answers requestId)

/-- The terminal answers for a request that were sent or are owed. -/
def total (s : State) (requestId : String) : Nat :=
  s.answers requestId + tally (Command.owes requestId) s.queue +
    s.main.elim 0 (MainStep.owes requestId) + tally (owes requestId) s.workers

/-- The results that are sent after a terminal answer. -/
def debt (s : State) (requestId : String) : Nat :=
  lateResults requestId s.sent +
    if s.answers requestId = 0 then 0 else tally (reporting requestId) s.workers

end State

/-! ## A statement of a coroutine -/

/-- What holds of every worker. -/
structure Worker.Ok (k : Worker) : Prop where
  entry : ∀ q, k.entry = some q → q = k.requestId
  cancelled : k.cancelled = true → k.entry = none
  /-- A coroutine that is at its end has removed the worker, or found it removed. -/
  closing : (k.finisher = .checkEmpty ∨ k.finisher = .close ∨ k.finisher = .done) → k.entry = none
  /-- The end is reported when every server is tested. -/
  joined : (k.finisher = .checkActive ∨ k.finisher = .containsFinish ∨
    k.finisher.isFinishing = true) → ∀ j ∈ k.jobs, j.step = .done

section
variable {k k' : Worker} {r : String}

theorem Worker.owes_of_eq (hid : k'.requestId = k.requestId) (howed : k'.owed = k.owed) :
    k'.owes r = k.owes r := by
  unfold owes
  rw [hid, howed]

theorem Worker.reporting_of_eq (hid : k'.requestId = k.requestId) (hjobs : k'.jobs = k.jobs) :
    k'.reporting r = k.reporting r := by
  unfold reporting
  rw [hid, hjobs]

theorem Worker.reporting_of_done (h : ∀ j ∈ k.jobs, j.step = .done) : k.reporting r = 0 := by
  unfold reporting
  split
  · apply tally_eq_zero
    intro j hj
    rw [h j hj]
    rfl
  · rfl

/-- The coroutine of a server changes the counters of its worker only. -/
theorem jobStep_worker (j : Job) (measured : Option Int) (step : JobStep) :
    ∃ total running, (jobStep k j measured step).1 =
      { k with totalCount := total, runningCount := running } := by
  cases step with
  | launched =>
    rw [jobStep]
    split
    · exact ⟨_, _, rfl⟩
    · exact ⟨_, _, rfl⟩
  | measure => cases measured <;> exact ⟨_, _, rfl⟩
  | _ => exact ⟨_, _, rfl⟩

/-- The result passes the check of `activeWorkers`. -/
def JobStep.enters (k : Worker) : JobStep → Bool
  | .containsResult _ => k.entry.isSome
  | _ => false

/-- The coroutine of a server sends one message at a time, and no terminal answer. -/
theorem jobStep_sent (j : Job) (measured : Option Int) (step : JobStep) :
    (jobStep k j measured step).2.2 = [] ∨
      ∃ m, (jobStep k j measured step).2.2 = [⟨k.requestId, m⟩] ∧ m.isTerminal = false := by
  cases step with
  | launched =>
    rw [jobStep]
    split <;> exact .inl rfl
  | measure => cases measured <;> exact .inl rfl
  | sendSuccess d => exact .inr ⟨_, rfl, rfl⟩
  | sendNotify text => exact .inr ⟨_, rfl, rfl⟩
  | _ => exact .inl rfl

theorem jobStep_answers (j : Job) (measured : Option Int) (step : JobStep) :
    (jobStep k j measured step).2.2.countP (Sent.answers r) = 0 := by
  rcases jobStep_sent j measured step with hnone | ⟨m, hsent, hm⟩
  · rw [hnone, countP_nil]
  · simp [hsent, Sent.answers, hm]

/-- A result that is sent is past its check no more. -/
theorem jobStep_reporting (j : Job) (measured : Option Int) (step : JobStep) :
    (jobStep k j measured step).2.2.countP (Sent.reports k.requestId) +
      (jobStep k j measured step).2.1.isReporting.toNat =
        step.isReporting.toNat + (step.enters k).toNat := by
  cases step with
  | launched =>
    rw [jobStep]
    split <;> rfl
  | measure => cases measured <;> rfl
  | checkActive d | checkProgress text =>
    rw [jobStep]
    cases k.cancelled <;> rfl
  | containsResult d =>
    rw [jobStep, JobStep.enters]
    cases k.entry <;> rfl
  | containsProgress text =>
    rw [jobStep]
    cases k.entry <;> rfl
  | sendSuccess d | sendNotify text =>
    simp [jobStep, Sent.reports, ConfigMessage.isSuccess, JobStep.isReporting, JobStep.enters]
  | storeDelay d | decrementTotal | decrementRunning count | done => rfl

theorem jobStep_reports_of_ne (hid : k.requestId ≠ r) (j : Job) (measured : Option Int)
    (step : JobStep) : (jobStep k j measured step).2.2.countP (Sent.reports r) = 0 := by
  rcases jobStep_sent j measured step with hnone | ⟨m, hsent, -⟩
  · rw [hnone, countP_nil]
  · simp [hsent, Sent.reports, hid]

/-- What a worker is after a statement of the coroutine of one of its servers. -/
def Worker.afterJob (k : Worker) (i : Nat) (j : Job) (measured : Option Int) : Worker :=
  { (jobStep k j measured j.step).1 with
    jobs := k.jobs.set i { j with step := (jobStep k j measured j.step).2.1 } }

section
variable {i : Nat} {j : Job} (measured : Option Int)

theorem Worker.afterJob_owes : (k.afterJob i j measured).owes r = k.owes r := by
  obtain ⟨total, running, hk⟩ := jobStep_worker j measured j.step
  unfold afterJob
  rw [hk]
  exact owes_of_eq rfl rfl

theorem Worker.afterJob_reporting (hj : k.jobs[i]? = some j) :
    (jobStep k j measured j.step).2.2.countP (Sent.reports r) +
      (k.afterJob i j measured).reporting r =
        k.reporting r + if k.requestId = r then (j.step.enters k).toNat else 0 := by
  obtain ⟨total, running, hk⟩ := jobStep_worker j measured j.step
  unfold afterJob reporting
  rw [hk]
  dsimp only
  by_cases hid : k.requestId = r
  · subst hid
    rw [if_pos rfl, if_pos rfl, if_pos rfl]
    have hset := tally_set (fun j : Job => j.step.isReporting.toNat) hj
      { j with step := (jobStep k j measured j.step).2.1 }
    have hsent := jobStep_reporting (k := k) j measured j.step
    dsimp only at hset
    omega
  · rw [if_neg hid, if_neg hid, if_neg hid, jobStep_reports_of_ne hid]

theorem Worker.Ok.afterJob (h : k.Ok) (hj : k.jobs[i]? = some j) : (k.afterJob i j measured).Ok := by
  obtain ⟨total, running, hk⟩ := jobStep_worker j measured j.step
  have hjobs (hdone : ∀ j ∈ k.jobs, j.step = .done) :
      ∀ j' ∈ (k.afterJob i j measured).jobs, j'.step = .done := by
    intro j' hj'
    rcases mem_or_eq_of_mem_set hj' with hold | rfl
    · exact hdone j' hold
    · rw [hdone j (mem_of_getElem? hj)]
      rfl
  refine ⟨?_, ?_, ?_, fun hfinisher => hjobs (h.joined ?_)⟩
  · unfold Worker.afterJob
    rw [hk]
    exact h.entry
  · unfold Worker.afterJob
    rw [hk]
    exact h.cancelled
  · unfold Worker.afterJob
    rw [hk]
    exact h.closing
  · unfold Worker.afterJob at hfinisher
    rw [hk] at hfinisher
    exact hfinisher

end

/-- What the finishing coroutine sends is not owed any more. -/
theorem finisherStep_owes :
    (finisherStep k).2.countP (Sent.answers r) + (finisherStep k).1.owes r = k.owes r := by
  have hquiet {k' : Worker} (hid : k'.requestId = k.requestId) (howed : k'.owed = k.owed) :
      ([] : List Sent).countP (Sent.answers r) + k'.owes r = k.owes r := by
    rw [countP_nil, Nat.zero_add, owes_of_eq hid howed]
  unfold finisherStep
  cases hstep : k.finisher with
  | unlaunched | done => exact hquiet rfl rfl
  | joinAll =>
    dsimp only
    split
    · exact hquiet rfl (by simp only [owed, hstep])
    · split
      · exact hquiet rfl (by simp only [owed, hstep])
      · exact hquiet rfl rfl
  | checkActive =>
    refine hquiet rfl ?_
    cases k.cancelled <;> simp only [owed, hstep] <;> rfl
  | containsFinish =>
    refine hquiet rfl ?_
    cases hentry : k.entry <;> simp [owed, hstep, hentry]
  | tidyGroup => exact hquiet rfl (by simp only [owed, hstep])
  | sendFinish =>
    by_cases hid : k.requestId = r
    · simp [owes, owed, Sent.answers, ConfigMessage.isTerminal, hid, hstep]
    · simp [owes, Sent.answers, hid]
  | removeWorker => exact hquiet rfl (by simp [owed, hstep])
  | checkEmpty | close => exact hquiet rfl (by simp only [owed, hstep])

/-- The finishing coroutine removes the entry at most, and moves on. -/
theorem finisherStep_worker :
    ∃ entry finisher, (finisherStep k).1 = { k with entry := entry, finisher := finisher } ∧
      (entry = k.entry ∨ entry = none) := by
  unfold finisherStep
  cases hstep : k.finisher with
  | joinAll =>
    dsimp only
    split
    · exact ⟨_, _, rfl, .inl rfl⟩
    · split
      · exact ⟨_, _, rfl, .inl rfl⟩
      · exact ⟨k.entry, k.finisher, rfl, .inl rfl⟩
  | unlaunched | done => exact ⟨k.entry, k.finisher, rfl, .inl rfl⟩
  | removeWorker => exact ⟨_, _, rfl, .inr rfl⟩
  | _ => exact ⟨_, _, rfl, .inl rfl⟩

/-- Only the end is sent. -/
theorem finisherStep_sent :
    (finisherStep k).2 = [] ∨
      k.finisher = .sendFinish ∧ (finisherStep k).2 = [⟨k.requestId, .finish "0"⟩] := by
  unfold finisherStep
  cases k.finisher with
  | joinAll =>
    dsimp only
    split
    · exact .inl rfl
    · split <;> exact .inl rfl
  | sendFinish => exact .inr ⟨rfl, rfl⟩
  | _ => exact .inl rfl

theorem finisherStep_unlaunched (h : k.finisher = .unlaunched) : (finisherStep k).1 = k := by
  unfold finisherStep
  rw [h]

theorem Worker.Ok.finisherStep (h : k.Ok) : (finisherStep k).1.Ok := by
  unfold CoreTestService.finisherStep
  cases hstep : k.finisher with
  | unlaunched | done => exact h
  | joinAll =>
    dsimp only
    split
    · next hcancelled => exact ⟨h.entry, h.cancelled, fun _ => h.cancelled hcancelled, by simp
        [FinisherStep.isFinishing]⟩
    · split
      · next hdone =>
        refine ⟨h.entry, h.cancelled, by simp, fun _ j hj => ?_⟩
        exact of_decide_eq_true (all_eq_true.mp hdone j hj)
      · exact h
  | checkActive =>
    have hdone := h.joined (.inl hstep)
    refine ⟨h.entry, h.cancelled, fun hclosing => ?_, fun _ => hdone⟩
    cases hcancelled : k.cancelled with
    | true => exact h.cancelled hcancelled
    | false => simp [hcancelled] at hclosing
  | containsFinish =>
    have hdone := h.joined (.inr (.inl hstep))
    refine ⟨h.entry, h.cancelled, fun hclosing => ?_, fun _ => hdone⟩
    cases hentry : k.entry with
    | none => rfl
    | some q => simp [hentry] at hclosing
  | tidyGroup | sendFinish =>
    have hdone := h.joined (.inr (.inr (by rw [hstep]; rfl)))
    exact ⟨h.entry, h.cancelled, by simp, fun _ => hdone⟩
  | removeWorker =>
    have hdone := h.joined (.inr (.inr (by rw [hstep]; rfl)))
    exact ⟨by simp, fun _ => rfl, fun _ => rfl, fun _ => hdone⟩
  | checkEmpty =>
    have hnone := h.closing (.inl hstep)
    exact ⟨h.entry, h.cancelled, fun _ => hnone, by simp [FinisherStep.isFinishing]⟩
  | close =>
    have hnone := h.closing (.inr (.inl hstep))
    exact ⟨h.entry, h.cancelled, fun _ => hnone, by simp [FinisherStep.isFinishing]⟩

theorem Worker.afterJob_requestId (i : Nat) (j : Job) (measured : Option Int) :
    (k.afterJob i j measured).requestId = k.requestId := by
  obtain ⟨total, running, hk⟩ := jobStep_worker j measured j.step
  rw [afterJob, hk]

theorem finisherStep_requestId : (finisherStep k).1.requestId = k.requestId := by
  obtain ⟨entry, finisher, hk, -⟩ := finisherStep_worker
  rw [hk]

theorem Worker.Ok.removed_owes (h : k.Ok) (hentry : k.entry = some q) :
    ({ k with entry := none } : Worker).owes r + (if q = r then 1 else 0) =
      k.owes r + if k.requestId = r ∧ k.finisher.isFinishing = true then 1 else 0 := by
  rw [h.entry q hentry]
  unfold owes owed
  by_cases hid : k.requestId = r
  · cases k.finisher <;> simp [hid, hentry, FinisherStep.isFinishing]
  · simp [hid]

theorem Worker.afterJob_finisher (i : Nat) (j : Job) (measured : Option Int) :
    (k.afterJob i j measured).finisher = k.finisher ∧
      (k.afterJob i j measured).entry = k.entry := by
  obtain ⟨total, running, hk⟩ := jobStep_worker j measured j.step
  unfold afterJob
  rw [hk]
  exact ⟨rfl, rfl⟩

theorem JobStep.enters_spec {j : Job} (h : 0 < (j.step.enters k).toNat) :
    k.entry.isSome = true ∧ j.step ≠ .done := by
  cases hstep : j.step with
  | containsResult d =>
    rw [hstep, JobStep.enters] at h
    cases hentry : k.entry with
    | none => simp [hentry] at h
    | some q => simp
  | _ => simp [hstep, JobStep.enters] at h

/-- A worker that is entered and tests its servers owes an answer. -/
theorem Worker.Ok.owes_of_testing (h : k.Ok) (hentry : k.entry.isSome = true)
    (hjobs : ∃ j ∈ k.jobs, j.step ≠ .done) : k.owes k.requestId = 1 := by
  obtain ⟨j, hj, hstep⟩ := hjobs
  have hfinishing : k.finisher.isFinishing ≠ true := fun hf => hstep (h.joined (.inr (.inr hf)) j hj)
  unfold owes owed
  rw [if_pos rfl]
  split
  · next heq => exact absurd (by rw [heq]; rfl) hfinishing
  · next heq => exact absurd (by rw [heq]; rfl) hfinishing
  · next heq => exact absurd (by rw [heq]; rfl) hfinishing
  · rw [if_pos hentry]

end

/-! ## The conditions on a step -/

namespace State

/-- The worker whose entry `cancelWorkers` removes. -/
def removed? (s : State) : Action → Option Worker
  | .main _ =>
    match s.main with
    | some (.removeEntries ((w, q) :: _)) => s.workers[w]?.filter (·.entry = some q)
    | _ => none
  | _ => none

/-- The request for which `MSG_MEASURE_CONFIG_CANCEL` is sent. -/
def cancels? (s : State) : Action → Option String
  | .main _ =>
    match s.main with
    | some (.sendCancel q _) => some q
    | _ => none
  | _ => none

/-- A worker is not removed while its Finish event is past its check, and a cancellation is not
reported while a result of its request is. -/
def InTime (s : State) (action : Action) : Prop :=
  (∀ k ∈ s.removed? action, k.finisher.isFinishing = false) ∧
    ∀ q ∈ s.cancels? action, ∀ k ∈ s.workers, k.reporting q = 0

end State

/-- The ids that an action brings. -/
def Action.requests : Action → List String
  | .command c => State.requestOf c
  | _ => []

namespace State

/-- A request has a new id. -/
def Fresh (s : State) (action : Action) : Prop := ∀ r ∈ action.requests, r ∉ s.requested

instance (s : State) (action : Action) : Decidable (s.InTime action) := by
  unfold InTime
  infer_instance

instance (s : State) (action : Action) : Decidable (s.Fresh action) := by
  unfold Fresh
  infer_instance

/-- The terminal answers that an action adds. -/
def added (s : State) (requestId : String) (action : Action) : Nat :=
  action.requests.count requestId +
    (s.removed? action).elim 0 fun k =>
      if k.requestId = requestId ∧ k.finisher.isFinishing = true then 1 else 0

/-- The ids of the workers, and of the requests that wait. -/
def ids (s : State) : List String :=
  s.workers.map (·.requestId) ++ s.queue.flatMap requestOf

/-- What every run keeps. -/
structure Inv (s : State) : Prop where
  ok : ∀ k ∈ s.workers, k.Ok
  launching : ∀ w guids k, s.main = some (.launch w guids) → s.workers[w]? = some k →
    k.finisher = .unlaunched
  cancelling : ∀ w q entries k, s.main = some (.cancelWorker w q entries) →
    s.workers[w]? = some k → k.entry = none
  ids : s.ids.Nodup
  known : ∀ r ∈ s.ids, r ∈ s.requested
  answered : ∀ r ∈ s.requested, 1 ≤ s.total r
  silent : ∀ r, r ∉ s.requested → s.total r = 0

/-! ## What a step does -/

/-- The effects of an action, with what decides between them. -/
inductive Moves (s : State) : Action → State → Prop
  | idle {action : Action} (hrequests : action.requests = []) (hremoved : s.removed? action = none)
    (hcancels : s.cancels? action = none) : Moves s action s
  | arrives (c : Command) :
    Moves s (.command c)
      { s with queue := s.queue ++ [c], requested := s.requested ++ requestOf c }
  -- the main thread begins a command
  | refuses {stored : Stored} {message : TestServiceMessage} {q : String} {queue : List Command}
    (hmain : s.main = none) (hqueue : s.queue = .start message q :: queue) :
    Moves s (.main stored) { s with queue := queue, main := some (.sendCancel q []) }
  | accepts {stored : Stored} {message : TestServiceMessage} {q : String} {queue : List Command}
    (guids : List String) (hmain : s.main = none) (hqueue : s.queue = .start message q :: queue) :
    Moves s (.main stored)
      { s with
        queue := queue
        workers := s.workers ++ [{ requestId := q, entry := some q }]
        main := some (.launch s.workers.length guids) }
  | cancelsAll {stored : Stored} {c : Command} {queue : List Command}
    (hmain : s.main = none) (hqueue : s.queue = c :: queue) (hc : c = .cancel ∨ c = .destroy) :
    Moves s (.main stored) { s with queue := queue, main := some (.removeEntries s.entries) }
  -- the main thread goes on with a command
  | passes {stored : Stored} {m : MainStep} {next : Option MainStep} (hmain : s.main = some m)
    (howes : ∀ r, next.elim 0 (MainStep.owes r) = m.owes r)
    (hlaunch : ∀ w guids, next = some (.launch w guids) → s.workers[w]? = none)
    (hcancel : ∀ w q entries, next ≠ some (.cancelWorker w q entries))
    (hremoved : s.removed? (.main stored) = none) (hcancels : s.cancels? (.main stored) = none) :
    Moves s (.main stored) { s with main := next }
  | launches {stored : Stored} {w : Nat} {guid : String} {guids : List String} {k : Worker}
    (hmain : s.main = some (.launch w (guid :: guids))) (hk : s.workers[w]? = some k) :
    Moves s (.main stored)
      { s with
        workers := s.workers.set w
          { k with totalCount := k.totalCount + 1, jobs := k.jobs ++ [{ guid := guid }] }
        main := some (.launch w guids) }
  | awaits {stored : Stored} {w : Nat} {k : Worker}
    (hmain : s.main = some (.launch w [])) (hk : s.workers[w]? = some k) :
    Moves s (.main stored)
      { s with workers := s.workers.set w { k with finisher := .joinAll }, main := none }
  | removes {stored : Stored} {w : Nat} {q : String} {entries : List (Nat × String)} {k : Worker}
    (hmain : s.main = some (.removeEntries ((w, q) :: entries))) (hk : s.workers[w]? = some k)
    (hentry : k.entry = some q) :
    Moves s (.main stored)
      { s with
        workers := s.workers.set w { k with entry := none }
        main := some (.cancelWorker w q entries) }
  | cancels {stored : Stored} {w : Nat} {q : String} {entries : List (Nat × String)} {k : Worker}
    (hmain : s.main = some (.cancelWorker w q entries)) (hk : s.workers[w]? = some k) :
    Moves s (.main stored)
      { s with
        workers := s.workers.set w { k with cancelled := true }
        main := some (.sendCancel q entries) }
  | replies {stored : Stored} {q : String} {entries : List (Nat × String)}
    (hmain : s.main = some (.sendCancel q entries)) :
    Moves s (.main stored)
      { s with sent := s.sent ++ [⟨q, .cancel⟩], main := some (.removeEntries entries) }
  -- the coroutines of a worker
  | job {w i : Nat} {k : Worker} {j : Job} (measured : Option Int) (delays : List (String × Int))
    (hk : s.workers[w]? = some k) (hj : k.jobs[i]? = some j) :
    Moves s (.job w i measured)
      { s with
        workers := s.workers.set w (k.afterJob i j measured)
        sent := s.sent ++ (jobStep k j measured j.step).2.2
        delays := delays }
  | finisher {w : Nat} {k : Worker} (hk : s.workers[w]? = some k) :
    Moves s (.finisher w)
      { s with
        workers := s.workers.set w (finisherStep k).1
        sent := s.sent ++ (finisherStep k).2 }

section
variable {s s' : State} {action : Action} {r : String} {w : Nat} {k k' : Worker}

theorem update_of_none (h : s.workers[w]? = none) (f : Worker → Worker) : s.update w f = s := by
  rw [update, h]

theorem update_of_some (h : s.workers[w]? = some k) (f : Worker → Worker) :
    s.update w f = { s with workers := s.workers.set w (f k) } := by
  rw [update, h]

theorem begin_moves {queue : List Command} (hmain : s.main = none) (hqueue : s.queue = c :: queue) :
    s.Moves (.main stored) ({ s with queue := queue }.begin stored c) := by
  cases c with
  | start message q =>
    rw [begin]
    split
    · exact .refuses hmain hqueue
    · exact .accepts _ hmain hqueue
  | cancel => exact .cancelsAll hmain hqueue (.inl rfl)
  | destroy => exact .cancelsAll hmain hqueue (.inr rfl)

theorem mainStep_moves (hmain : s.main = some m) :
    s.Moves (.main stored) (s.mainStep m) := by
  cases m with
  | launch w guids =>
    have hremoved : s.removed? (.main stored) = none := by rw [removed?, hmain]
    have hcancels : s.cancels? (.main stored) = none := by rw [cancels?, hmain]
    cases hk : s.workers[w]? with
    | none =>
      cases guids with
      | nil =>
        rw [mainStep, update_of_none hk]
        exact .passes hmain (fun _ => rfl) (by simp) (by simp) hremoved hcancels
      | cons guid guids =>
        rw [mainStep, update_of_none hk]
        refine .passes hmain (fun _ => rfl) ?_ (by simp) hremoved hcancels
        rintro w' guids' heq
        cases heq
        exact hk
    | some k =>
      cases guids with
      | nil =>
        rw [mainStep, update_of_some hk]
        exact .awaits hmain hk
      | cons guid guids =>
        rw [mainStep, update_of_some hk]
        exact .launches hmain hk
  | removeEntries entries =>
    have hcancels : s.cancels? (.main stored) = none := by rw [cancels?, hmain]
    cases entries with
    | nil =>
      exact .passes hmain (fun _ => rfl) (by simp) (by simp) (by rw [removed?, hmain]) hcancels
    | cons entry entries =>
      obtain ⟨w, q⟩ := entry
      rw [mainStep]
      cases hk : s.workers[w]? with
      | none =>
        exact .passes hmain (fun _ => rfl) (by simp) (by simp) (by simp [removed?, hmain, hk])
          hcancels
      | some k =>
        dsimp only
        split
        · next hentry => exact .removes hmain hk hentry
        · next hentry =>
          exact .passes hmain (fun _ => rfl) (by simp) (by simp)
            (by simp [removed?, hmain, hk, hentry]) hcancels
  | cancelWorker w q entries =>
    cases hk : s.workers[w]? with
    | none =>
      rw [mainStep, update_of_none hk]
      exact .passes hmain (fun _ => rfl) (by simp) (by simp) (by rw [removed?, hmain])
        (by rw [cancels?, hmain])
    | some k =>
      rw [mainStep, update_of_some hk]
      exact .cancels hmain hk
  | sendCancel q entries => exact .replies hmain

theorem step_moves (action : Action) : s.Moves action (s.step action) := by
  cases action with
  | command c => exact .arrives c
  | main stored =>
    rw [step]
    cases hmain : s.main with
    | some m => exact mainStep_moves hmain
    | none =>
      cases hqueue : s.queue with
      | nil => exact .idle rfl (by rw [removed?, hmain]) (by rw [cancels?, hmain])
      | cons c queue => exact begin_moves hmain hqueue
  | job w i measured =>
    rw [step]
    cases hk : s.workers[w]? with
    | none => exact .idle rfl rfl rfl
    | some k =>
      dsimp only
      cases hj : k.jobs[i]? with
      | none => exact .idle rfl rfl rfl
      | some j => exact .job measured _ hk hj
  | finisher w =>
    rw [step]
    cases hk : s.workers[w]? with
    | none => exact .idle rfl rfl rfl
    | some k => exact .finisher hk

theorem Moves.requested (h : s.Moves action s') :
    s'.requested = s.requested ++ action.requests := by
  cases h with
  | idle hrequests => rw [hrequests, append_nil]
  | arrives c => rfl
  | _ => exact (append_nil _).symm

theorem map_requestId_set (hk : s.workers[w]? = some k) (hid : k'.requestId = k.requestId) :
    (s.workers.set w k').map (·.requestId) = s.workers.map (·.requestId) := by
  have hget : (s.workers.map (·.requestId))[w]? = some k.requestId := by
    rw [getElem?_map, hk, Option.map_some]
  obtain ⟨hw, heq⟩ := List.getElem?_eq_some_iff.mp hget
  rw [map_set, hid, ← heq, set_getElem_self]

/-- Ids are not used twice. -/
theorem Moves.ids (h : s.Moves action s') : s'.ids.Sublist (s.ids ++ action.requests) := by
  have hset {w : Nat} {k k' : Worker} (hk : s.workers[w]? = some k)
      (hid : k'.requestId = k.requestId) :
      ((s.workers.set w k').map (·.requestId) ++ s.queue.flatMap requestOf).Sublist
        (s.ids ++ []) := by
    rw [map_requestId_set hk hid, append_nil]
    exact List.Sublist.refl _
  cases h with
  | idle hrequests => exact sublist_append_left _ _
  | arrives c =>
    unfold State.ids
    rw [flatMap_append, flatMap_singleton, ← append_assoc]
    exact List.Sublist.refl _
  | refuses hmain hqueue =>
    unfold State.ids
    rw [hqueue]
    exact ((sublist_append_right _ _).append_left _).trans (sublist_append_left _ _)
  | accepts guids hmain hqueue =>
    unfold State.ids
    rw [hqueue, map_append, append_assoc]
    exact sublist_append_left _ _
  | cancelsAll hmain hqueue hc =>
    unfold State.ids
    rw [hqueue]
    exact ((sublist_append_right _ _).append_left _).trans (sublist_append_left _ _)
  | passes | replies => exact sublist_append_left _ _
  | launches hmain hk | awaits hmain hk | removes hmain hk | cancels hmain hk => exact hset hk rfl
  | job measured delays hk hj => exact hset hk (afterJob_requestId _ _ _)
  | finisher hk => exact hset hk finisherStep_requestId

end
end State
end ZeroVpn.CoreTestService
