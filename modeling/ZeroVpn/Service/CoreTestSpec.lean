import Mathlib.Data.List.Nodup
import ZeroVpn.Service.CoreTestMoves

/-!
# The answers that bulk tests owe

`total` counts the terminal answers that were sent for a request, and those that the main thread or
the worker still sends. A request adds one; so does a removal of its entry while its Finish handler is
past the check of `activeWorkers`. `debt` counts the results that were sent after an answer, and those
that are past their check when there is an answer.
-/

namespace ZeroVpn.CoreTestService
open Tally Worker State List Option

namespace State

section
variable {s s' : State} {action : Action} {r : String} {w : Nat} {k k' : Worker}

/-! ## The balance of a step -/

theorem tally_owes_set (hk : s.workers[w]? = some k) (howes : k'.owes r = k.owes r) :
    tally (owes r) (s.workers.set w k') = tally (owes r) s.workers := by
  have hset := tally_set (owes r) hk k'
  omega

/-- The main thread goes on, and the worker it works on owes the same. -/
theorem total_set {next : Option MainStep} (hk : s.workers[w]? = some k)
    (howes : k'.owes r = k.owes r)
    (hnext : next.elim 0 (MainStep.owes r) = s.main.elim 0 (MainStep.owes r)) :
    total { s with workers := s.workers.set w k', main := next } r = s.total r := by
  unfold total answers
  rw [hnext, tally_owes_set hk howes]

/-- Requests and removals that come too late apart, the total stays. -/
theorem Moves.total (h : s.Moves action s') (hinv : s.Inv) :
    s'.total r = s.total r + s.added r action := by
  have hadded {stored : Stored} (hremoved : s.removed? (.main stored) = none) :
      s.added r (.main stored) = 0 := by
    rw [added, hremoved]
    rfl
  cases h with
  | idle hrequests hremoved hcancels =>
    rw [added, hrequests, hremoved]
    rfl
  | arrives c =>
    have hc : c.owes r = (requestOf c).count r := by
      cases c with
      | start message q => simp [Command.owes, requestOf, count_singleton]
      | cancel | destroy => rfl
    unfold total answers
    dsimp only
    rw [tally_append, tally_cons, tally_nil, added]
    change _ = _ + ((requestOf c).count r + 0)
    omega
  | refuses hmain hqueue =>
    rw [hadded (by rw [removed?, hmain])]
    unfold total answers
    rw [hmain, hqueue, tally_cons]
    dsimp only [elim_some, elim_none]
    rw [MainStep.owes, Command.owes]
    omega
  | @accepts stored message q queue guids hmain hqueue =>
    have howes : ({ requestId := q, entry := some q } : Worker).owes r =
        Command.owes r (.start message q) := rfl
    rw [hadded (by rw [removed?, hmain])]
    unfold total answers
    rw [hmain, hqueue, tally_cons]
    dsimp only [elim_some, elim_none]
    rw [tally_append, tally_cons, tally_nil, howes, MainStep.owes]
    omega
  | cancelsAll hmain hqueue hc =>
    have howes : ∀ c : Command, c = .cancel ∨ c = .destroy → c.owes r = 0 := by
      rintro c (rfl | rfl) <;> rfl
    rw [hadded (by rw [removed?, hmain])]
    unfold total answers
    rw [hmain, hqueue, tally_cons, howes _ hc]
    dsimp only [elim_some, elim_none]
    rw [MainStep.owes]
    omega
  | passes hmain howes hlaunch hcancel hremoved hcancels =>
    rw [hadded hremoved]
    unfold total answers
    rw [hmain]
    dsimp only [elim_some]
    rw [howes]
    rfl
  | launches hmain hk =>
    rw [hadded (by rw [removed?, hmain])]
    exact total_set hk (owes_of_eq rfl rfl) (by rw [hmain]; rfl)
  | awaits hmain hk =>
    have hstep := hinv.launching _ _ _ hmain hk
    rw [hadded (by rw [removed?, hmain])]
    refine total_set hk (owes_of_eq rfl ?_) (by rw [hmain]; rfl)
    simp only [owed, hstep]
  | @removes stored w q entries k hmain hk hentry =>
    have hset := tally_set (owes r) hk { k with entry := none }
    have hremoved := (hinv.ok k (mem_of_getElem? hk)).removed_owes (r := r) hentry
    have hsome : s.removed? (.main stored) = some k := by simp [removed?, hmain, hk, hentry]
    unfold total answers
    rw [added, hsome, hmain]
    dsimp only [elim_some]
    rw [MainStep.owes, MainStep.owes]
    change _ = _ + (0 + _)
    omega
  | cancels hmain hk =>
    rw [hadded (by rw [removed?, hmain])]
    exact total_set hk (owes_of_eq rfl rfl) (by rw [hmain]; rfl)
  | @replies stored q entries hmain =>
    have hanswer : [(⟨q, .cancel⟩ : Sent)].countP (Sent.answers r) = if q = r then 1 else 0 := by
      simp [Sent.answers, ConfigMessage.isTerminal]
    rw [hadded (by rw [removed?, hmain])]
    unfold total answers
    rw [hmain, countP_append, hanswer]
    dsimp only [elim_some]
    rw [MainStep.owes, MainStep.owes]
    omega
  | job measured delays hk hj =>
    unfold total answers
    dsimp only
    rw [tally_owes_set hk (afterJob_owes measured), countP_append, jobStep_answers]
    rfl
  | @finisher w k hk =>
    have hset := tally_set (owes r) hk (finisherStep k).1
    have howes := finisherStep_owes (k := k) (r := r)
    unfold total answers
    dsimp only
    rw [countP_append]
    change _ = _ + 0
    omega

/-! ## What every run keeps -/

theorem forall_mem_set_ok (hok : ∀ k ∈ s.workers, k.Ok) (hk' : k'.Ok) :
    ∀ x ∈ s.workers.set w k', x.Ok := by
  intro x hx
  rcases mem_or_eq_of_mem_set hx with hold | rfl
  · exact hok x hold
  · exact hk'

theorem Moves.ok (h : s.Moves action s') (hinv : s.Inv) : ∀ k ∈ s'.workers, k.Ok := by
  have hok {w : Nat} {k : Worker} (hk : s.workers[w]? = some k) : k.Ok :=
    hinv.ok k (mem_of_getElem? hk)
  cases h with
  | idle | arrives | refuses | cancelsAll | passes | replies => exact hinv.ok
  | @accepts stored message q queue guids hmain hqueue =>
    have hnew : ({ requestId := q, entry := some q } : Worker).Ok :=
      ⟨fun q' heq => (some.inj heq).symm, by simp, by simp,
        fun _ => forall_mem_nil _⟩
    intro k hk
    rcases mem_append.mp hk with hold | hlast
    · exact hinv.ok k hold
    · rw [mem_singleton.mp hlast]
      exact hnew
  | launches hmain hk =>
    have hstep := hinv.launching _ _ _ hmain hk
    obtain ⟨hentry, hcancelled, hclosing, -⟩ := hok hk
    exact forall_mem_set_ok hinv.ok
      ⟨hentry, hcancelled, hclosing, by simp [hstep, FinisherStep.isFinishing]⟩
  | awaits hmain hk =>
    obtain ⟨hentry, hcancelled, -, -⟩ := hok hk
    exact forall_mem_set_ok hinv.ok
      ⟨hentry, hcancelled, by simp, by simp [FinisherStep.isFinishing]⟩
  | removes hmain hk hentry =>
    exact forall_mem_set_ok hinv.ok
      ⟨by simp, fun _ => rfl, fun _ => rfl, (hok hk).joined⟩
  | cancels hmain hk =>
    have hnone := hinv.cancelling _ _ _ _ hmain hk
    exact forall_mem_set_ok hinv.ok
      ⟨(hok hk).entry, fun _ => hnone, (hok hk).closing, (hok hk).joined⟩
  | job measured delays hk hj =>
    exact forall_mem_set_ok hinv.ok ((hok hk).afterJob measured hj)
  | finisher hk => exact forall_mem_set_ok hinv.ok (hok hk).finisherStep

/-- A worker in its place after a change to one of them. -/
theorem getElem?_set_cases {v : Nat} {x : Worker} (hx : (s.workers.set w k')[v]? = some x) :
    s.workers[v]? = some x ∨ v = w ∧ x = k' := by
  rw [getElem?_set] at hx
  split at hx
  · next heq =>
    split at hx
    · exact .inr ⟨heq.symm, (some.inj hx).symm⟩
    · cases hx
  · exact .inl hx

theorem Moves.launching (h : s.Moves action s') (hinv : s.Inv) :
    ∀ w guids k, s'.main = some (.launch w guids) → s'.workers[w]? = some k →
      k.finisher = .unlaunched := by
  intro v guids x hmain' hx
  cases h with
  | idle | arrives => exact hinv.launching v guids x hmain' hx
  | refuses | cancelsAll | awaits | removes | cancels | replies => cases hmain'
  | accepts guids hmain hqueue =>
    cases hmain'
    rw [getElem?_append_right (Nat.le_refl _), Nat.sub_self] at hx
    cases hx
    rfl
  | passes hmain howes hlaunch hcancel hremoved hcancels =>
    rw [hlaunch v guids hmain'] at hx
    cases hx
  | launches hmain hk =>
    cases hmain'
    have hstep := hinv.launching _ _ _ hmain hk
    rcases getElem?_set_cases hx with hold | ⟨-, rfl⟩
    · exact hinv.launching _ _ x hmain hold
    · exact hstep
  | job measured delays hk hj =>
    rcases getElem?_set_cases hx with hold | ⟨rfl, rfl⟩
    · exact hinv.launching v guids x hmain' hold
    · rw [(afterJob_finisher _ _ _).1]
      exact hinv.launching v guids _ hmain' hk
  | finisher hk =>
    rcases getElem?_set_cases hx with hold | ⟨rfl, rfl⟩
    · exact hinv.launching v guids x hmain' hold
    · have hstep := hinv.launching v guids _ hmain' hk
      rw [finisherStep_unlaunched hstep]
      exact hstep

theorem Moves.cancelling (h : s.Moves action s') (hinv : s.Inv) :
    ∀ w q entries k, s'.main = some (.cancelWorker w q entries) → s'.workers[w]? = some k →
      k.entry = none := by
  intro v q entries x hmain' hx
  cases h with
  | idle | arrives => exact hinv.cancelling v q entries x hmain' hx
  | refuses | accepts | cancelsAll | launches | awaits | cancels | replies => cases hmain'
  | passes hmain howes hlaunch hcancel hremoved hcancels =>
    exact absurd hmain' (hcancel v q entries)
  | removes hmain hk hentry =>
    cases hmain'
    rw [List.getElem?_set_self (List.getElem?_eq_some_iff.mp hk).1] at hx
    cases hx
    rfl
  | job measured delays hk hj =>
    rcases getElem?_set_cases hx with hold | ⟨rfl, rfl⟩
    · exact hinv.cancelling v q entries x hmain' hold
    · rw [(afterJob_finisher _ _ _).2]
      exact hinv.cancelling v q entries _ hmain' hk
  | @finisher w k hk =>
    rcases getElem?_set_cases hx with hold | ⟨rfl, rfl⟩
    · exact hinv.cancelling v q entries x hmain' hold
    · obtain ⟨entry, finisher, hstep, hentry⟩ := finisherStep_worker
      have hnone := hinv.cancelling v q entries _ hmain' hk
      rw [hstep]
      rcases hentry with heq | heq
      · exact heq.trans hnone
      · exact heq

theorem mem_workers_of_removed? (h : s.removed? action = some k) : k ∈ s.workers := by
  unfold removed? at h
  split at h
  · split at h
    · exact mem_of_getElem? (filter_eq_some_iff.mp h).1
    · cases h
  · cases h

theorem Inv.worker_known (hinv : s.Inv) (hk : k ∈ s.workers) : k.requestId ∈ s.requested :=
  hinv.known _ (mem_append_left _ (mem_map_of_mem hk))

/-- A request has one worker. -/
theorem Inv.worker_unique (hinv : s.Inv) (hk : k ∈ s.workers) (hk' : k' ∈ s.workers)
    (hid : k.requestId = k'.requestId) : k = k' :=
  inj_on_of_nodup_map (nodup_append.mp hinv.ids).1 hk hk' hid

theorem Inv.step (hinv : s.Inv) (action : Action) (hfresh : s.Fresh action) :
    (s.step action).Inv := by
  have h := s.step_moves action
  have hids := h.ids
  refine ⟨h.ok hinv, h.launching hinv, h.cancelling hinv, ?_, ?_, ?_, ?_⟩
  · refine hids.nodup (nodup_append.mpr ⟨hinv.ids, ?_, ?_⟩)
    · cases action with
      | command c => cases c <;> simp [Action.requests, requestOf]
      | _ => exact nodup_nil
    · intro q hq q' hq' heq
      exact hfresh q' hq' (heq ▸ hinv.known q hq)
  · intro q hq
    rw [h.requested]
    exact (mem_append.mp (hids.subset hq)).elim
      (fun hold => mem_append_left _ (hinv.known q hold)) (mem_append_right _)
  · intro q hq
    rw [h.total hinv, added]
    rw [h.requested, mem_append] at hq
    rcases hq with hold | hnew
    · have := hinv.answered q hold
      omega
    · have := count_pos_iff.mpr hnew
      omega
  · intro q hq
    rw [h.requested, mem_append, not_or] at hq
    rw [h.total hinv, hinv.silent q hq.1, added, count_eq_zero.mpr hq.2]
    cases hremoved : s.removed? action with
    | none => rfl
    | some k =>
      rw [elim_some, if_neg]
      rintro ⟨rfl, -⟩
      exact hq.1 (hinv.worker_known (mem_workers_of_removed? hremoved))

/-! ## Results after an answer -/

/-- What a step sends, and how many results it takes past their check. -/
structure Delivers (s : State) (action : Action) (s' : State) (r : String) (new : List Sent)
    (entering : Nat) : Prop where
  sent : s'.sent = s.sent ++ new
  single : new.length ≤ 1
  reports : new.countP (Sent.reports r) + tally (Worker.reporting r) s'.workers =
    tally (Worker.reporting r) s.workers + entering
  entering : 0 < entering → ∃ k ∈ s.workers, k.requestId = r ∧ k.entry.isSome = true ∧
    ∃ j ∈ k.jobs, j.step ≠ .done
  cancels : s.cancels? action = some r → 0 < new.countP (Sent.answers r)
  terminal : 0 < new.countP (Sent.answers r) →
    tally (Worker.reporting r) s'.workers = tally (Worker.reporting r) s.workers ∧
      (s.cancels? action = some r ∨ ∃ k ∈ s.workers, k.requestId = r ∧ k.finisher = .sendFinish)

theorem Delivers.quiet (hsent : s'.sent = s.sent) (hcancels : s.cancels? action = none)
    (hreports : tally (reporting r) s'.workers = tally (reporting r) s.workers) :
    s.Delivers action s' r [] 0 where
  sent := by rw [hsent, append_nil]
  single := Nat.zero_le _
  reports := by rw [hreports, countP_nil, Nat.zero_add, Nat.add_zero]
  entering := fun h => absurd h (Nat.lt_irrefl 0)
  cancels := by simp [hcancels]
  terminal := fun h => absurd h (Nat.lt_irrefl 0)

theorem tally_reporting_set (hk : s.workers[w]? = some k) (h : k'.reporting r = k.reporting r) :
    tally (reporting r) (s.workers.set w k') = tally (reporting r) s.workers := by
  have hset := tally_set (reporting r) hk k'
  omega

theorem Moves.delivers (h : s.Moves action s') (r : String) :
    ∃ new entering, s.Delivers action s' r new entering := by
  cases h with
  | idle hrequests hremoved hcancels => exact ⟨[], 0, .quiet rfl hcancels rfl⟩
  | arrives c => exact ⟨[], 0, .quiet rfl rfl rfl⟩
  | refuses hmain | cancelsAll hmain =>
    exact ⟨[], 0, .quiet rfl (by rw [cancels?, hmain]) rfl⟩
  | accepts guids hmain hqueue =>
    refine ⟨[], 0, .quiet rfl (by rw [cancels?, hmain]) ?_⟩
    rw [tally_append, tally_cons, reporting_of_done (forall_mem_nil _)]
    rfl
  | passes hmain howes hlaunch hcancel hremoved hcancels => exact ⟨[], 0, .quiet rfl hcancels rfl⟩
  | launches hmain hk =>
    refine ⟨[], 0, .quiet rfl (by rw [cancels?, hmain]) (tally_reporting_set hk ?_)⟩
    unfold reporting
    rw [tally_append]
    rfl
  | awaits hmain hk | removes hmain hk | cancels hmain hk =>
    refine ⟨[], 0, .quiet rfl (by rw [cancels?, hmain]) (tally_reporting_set hk ?_)⟩
    exact reporting_of_eq rfl rfl
  | @replies stored q entries hmain =>
    have hcancels : s.cancels? (.main stored) = some q := by rw [cancels?, hmain]
    refine ⟨[⟨q, .cancel⟩], 0, rfl, Nat.le_refl 1, ?_, fun h => absurd h (Nat.lt_irrefl 0), ?_, ?_⟩
    · simp [Sent.reports, ConfigMessage.isSuccess]
    · rw [hcancels]
      rintro heq
      cases heq
      simp [Sent.answers, ConfigMessage.isTerminal]
    · intro hpos
      refine ⟨rfl, .inl ?_⟩
      by_contra hid
      rw [hcancels, some.injEq] at hid
      simp [Sent.answers, hid] at hpos
  | @job w i k j measured delays hk hj =>
    have hset := tally_set (reporting r) hk (k.afterJob i j measured)
    have hreports := afterJob_reporting (r := r) measured hj
    refine ⟨_, if k.requestId = r then (j.step.enters k).toNat else 0, rfl, ?_, ?_, ?_, ?_, ?_⟩
    · rcases jobStep_sent j measured j.step with hnone | ⟨m, hsent, -⟩
      · rw [hnone]
        exact Nat.zero_le _
      · rw [hsent]
        exact Nat.le_refl 1
    · dsimp only
      omega
    · intro hpos
      by_cases hid : k.requestId = r
      · rw [if_pos hid] at hpos
        obtain ⟨hentry, hstep⟩ := JobStep.enters_spec hpos
        exact ⟨k, mem_of_getElem? hk, hid, hentry, j, mem_of_getElem? hj, hstep⟩
      · rw [if_neg hid] at hpos
        exact absurd hpos (Nat.lt_irrefl 0)
    · simp [cancels?]
    · rw [jobStep_answers]
      exact fun h => absurd h (Nat.lt_irrefl 0)
  | @finisher w k hk =>
    have hkept : tally (reporting r) (s.workers.set w (finisherStep k).1) =
        tally (reporting r) s.workers := by
      obtain ⟨entry, finisher, hstep, -⟩ := finisherStep_worker
      refine tally_reporting_set hk ?_
      rw [hstep]
      exact reporting_of_eq rfl rfl
    refine ⟨_, 0, rfl, ?_, ?_, fun h => absurd h (Nat.lt_irrefl 0), by simp [cancels?], ?_⟩
    · rcases finisherStep_sent with hnone | ⟨-, hsent⟩
      · rw [hnone]
        exact Nat.zero_le _
      · rw [hsent]
        exact Nat.le_refl 1
    · rcases finisherStep_sent with hnone | ⟨-, hsent⟩
      · rw [hnone, hkept, countP_nil, Nat.zero_add, Nat.add_zero]
      · simp [hsent, hkept, Sent.reports, ConfigMessage.isSuccess]
    · intro hpos
      refine ⟨hkept, .inr ⟨k, mem_of_getElem? hk, ?_⟩⟩
      rcases finisherStep_sent with hnone | ⟨hstep, hsent⟩
      · rw [hnone] at hpos
        exact absurd hpos (Nat.lt_irrefl 0)
      · refine ⟨?_, hstep⟩
        by_contra hid
        simp [hsent, Sent.answers, hid] at hpos

theorem debt_of_no_answer (h : s.answers r = 0) : s.debt r = 0 := by
  rw [debt, if_pos h, lateResults_of_no_answer h]

/-- The debt grows with the first answer by what is past its check, and later by what passes it. -/
theorem Delivers.debt_eq {new : List Sent} {entering : Nat}
    (h : s.Delivers action s' r new entering) :
    s'.debt r = s.debt r +
      if s.answers r = 0 then
        if new.countP (Sent.answers r) = 0 then 0 else tally (reporting r) s'.workers
      else entering := by
  have hanswers : s'.answers r = s.answers r + new.countP (Sent.answers r) := by
    unfold answers
    rw [h.sent, countP_append]
  have hreports := h.reports
  have hnew : lateResults r new = 0 := by
    have hsingle := h.single
    cases new with
    | nil => rfl
    | cons m new =>
      have : new = [] := eq_nil_of_length_eq_zero (by simpa using hsingle)
      subst this
      simp [lateResults]
  rw [debt, h.sent, lateResults_append, hnew, hanswers]
  by_cases hzero : s.answers r = 0
  · rw [debt_of_no_answer hzero, lateResults_of_no_answer hzero, hzero, if_pos rfl, Nat.zero_add,
      if_pos (show s.sent.countP (Sent.answers r) = 0 from hzero)]
    simp
  · have hsum : ¬s.answers r + new.countP (Sent.answers r) = 0 := by omega
    rw [debt, if_neg hzero, if_neg hzero, if_neg hsum,
      if_neg (show ¬s.sent.countP (Sent.answers r) = 0 from hzero)]
    omega

theorem debt_le_step (action : Action) : s.debt r ≤ (s.step action).debt r := by
  obtain ⟨new, entering, h⟩ := (s.step_moves action).delivers r
  rw [h.debt_eq]
  exact Nat.le_add_right _ _

theorem main_owes_le_total : s.answers r + s.main.elim 0 (MainStep.owes r) ≤ s.total r := by
  unfold total
  omega

theorem worker_owes_le_total (hk : k ∈ s.workers) : s.answers r + k.owes r ≤ s.total r := by
  have hle := le_tally (w := owes r) hk
  unfold total
  omega

theorem main_owes_of_cancels? (h : s.cancels? action = some r) :
    s.main.elim 0 (MainStep.owes r) = 1 := by
  unfold cancels? at h
  split at h
  · split at h
    · next q entries hmain =>
      rw [hmain, elim_some, MainStep.owes, if_pos (some.inj h)]
    · cases h
  · cases h

/-- A step leaves no result behind an answer, unless it cancels a request with a result past its
check. -/
theorem Inv.debt_step_iff (hinv : s.Inv) (hone : s.total r = 1) (hdebt : s.debt r = 0)
    (action : Action) :
    (s.step action).debt r = 0 ↔
      (s.cancels? action = some r → ∀ k ∈ s.workers, k.reporting r = 0) := by
  obtain ⟨new, entering, h⟩ := (s.step_moves action).delivers r
  rw [h.debt_eq, hdebt, Nat.zero_add]
  constructor
  · intro hzero hcancels k hk
    have hmain := main_owes_of_cancels? hcancels
    have hle := main_owes_le_total (s := s) (r := r)
    have hnew := h.cancels hcancels
    rw [if_pos (by omega), if_neg (by omega), (h.terminal hnew).1] at hzero
    have hreporting := le_tally (w := reporting r) hk
    omega
  · intro hcancels
    by_cases hanswers : s.answers r = 0
    · rw [if_pos hanswers]
      by_cases hnew : new.countP (Sent.answers r) = 0
      · rw [if_pos hnew]
      · obtain ⟨hkept, hterminal⟩ := h.terminal (Nat.pos_of_ne_zero hnew)
        rw [if_neg hnew, hkept]
        apply tally_eq_zero
        rcases hterminal with hcancel | ⟨k, hk, rfl, hstep⟩
        · exact hcancels hcancel
        · -- every server of the worker that reports its end is tested
          intro k' hk'
          by_cases hid : k'.requestId = k.requestId
          · obtain rfl := hinv.worker_unique hk' hk hid
            exact reporting_of_done
              ((hinv.ok k' hk).joined (.inr (.inr (by rw [hstep]; rfl))))
          · rw [reporting, if_neg hid]
    · rw [if_neg hanswers]
      by_contra hentering
      obtain ⟨k, hk, rfl, hentry, hjobs⟩ := h.entering (Nat.pos_of_ne_zero hentering)
      have howes := (hinv.ok k hk).owes_of_testing hentry hjobs
      have hle := worker_owes_le_total (r := k.requestId) hk
      omega

end
end State
end ZeroVpn.CoreTestService
