import ZeroVpn.Desktop.Connector

/-!
# The connection state at rest

If the user waits until the earlier calls have made their last assignment, but for clicks that find the
status CONNECTING, then status, engine and proxy agree whenever nothing is pending
(`rest_consistent_of_settled`). `connect` does not look at the
status again after it has set it, so that a `disconnect` in between ends with the status CONNECTED
and the system proxy on, but no engine.
-/

namespace ZeroVpn.Connector

open Connector.Task List

/-- Connected exactly if the engine runs, and no proxy without a connection. -/
structure Shared.AtRest (s : Shared) : Prop where
  engine : s.status = .connected ↔ s.engine = true
  proxy : s.proxyOn = true → s.status = .connected

/-- At rest, and nothing in progress. -/
structure Shared.Consistent (isWindows : Bool) (s : Shared) : Prop extends s.AtRest where
  settled : s.status ≠ .connecting
  windows : s.proxyOn = true → isWindows = true

/-- `connect` is on its way. -/
structure Shared.Connecting (engine : Bool) (s : Shared) : Prop where
  status : s.status = .connecting
  engine : s.engine = engine
  proxy : s.proxyOn = false

/-- What holds before a statement, if no other call interferes. -/
def Task.Phase (isWindows : Bool) (s : Shared) : Task → Prop
  | .readStatus | .stopEngine => s.Consistent isWindows
  | .readProfile | .setConnecting => s.Consistent isWindows ∧ s.status = .disconnected
  | .buildConfig | .startEngine | .setFailed => s.Connecting false
  | .waitForPort | .stopFailed | .readAutoProxy => s.Connecting true
  | .enableProxy | .setProxyOn _ => s.Connecting true ∧ isWindows = true
  | .setConnected => s.engine = true ∧ (s.proxyOn = true → isWindows = true)
  | .ping => True
  | .readProxyOn => s.engine = false ∧ (s.proxyOn = true → isWindows = true)
  | .disableProxy | .clearProxyOn => s.engine = false
  | .setDisconnected => s.engine = false ∧ s.proxyOn = false

/-- The call has begun, apart from reading the status, and has not made its last assignment. -/
def Task.active (t : Task) : Bool := t ≠ .ping && t ≠ .readStatus

/-- No call is under way. -/
def System.Settled (s : System) : Prop := ∀ t ∈ s.tasks, t.active = false

instance (s : System) : Decidable s.Settled :=
  inferInstanceAs (Decidable (∀ t ∈ s.tasks, t.active = false))

/-- A click of the connect button reads the status, unless it is CONNECTING, only when no call is
under way, and the profiles are cleared only then. -/
def ActsSettled (s : System) : Action → Prop
  | .toggle => True
  | .disconnect => s.Settled
  | .task i _ => s.tasks[i]? = some .readStatus → s.shared.status ≠ .connecting → s.Settled

instance (s : System) (action : Action) : Decidable (ActsSettled s action) := by
  cases action <;> unfold ActsSettled <;> infer_instance

/-! ## One statement -/

section
variable {isWindows : Bool} {s : Shared}

theorem consistent_of_stopped (hengine : s.engine = false) (hproxy : s.proxyOn = false) :
    { s with status := ConnStatus.disconnected }.Consistent isWindows := by
  refine ⟨⟨?_, ?_⟩, ?_, ?_⟩ <;> simp [hengine, hproxy]

/-- The result of a statement: the phase of the next one, or a consistent state if there is none
but the ping test. -/
structure Task.Leads (isWindows : Bool) (r : Shared × Option Task) : Prop where
  next : ∀ t, r.2 = some t → t.active = true → t.Phase isWindows r.1
  last : (∀ t, r.2 = some t → t.active = false) → r.1.Consistent isWindows

theorem Task.leads_some {t : Task} (hactive : t.active = true) (h : t.Phase isWindows s) :
    Task.Leads isWindows (s, some t) :=
  ⟨fun _ ht _ => Option.some.inj ht ▸ h, fun hidle => absurd (hidle t rfl) (by simp [hactive])⟩

theorem Task.leads_none (h : s.Consistent isWindows) : Task.Leads isWindows (s, none) :=
  ⟨nofun, fun _ => h⟩

theorem Task.step_leads {t : Task} (hne : t ≠ .ping) (h : t.Phase isWindows s) (input : Input) :
    Task.Leads isWindows (t.step isWindows input s) := by
  cases t with
  | readStatus =>
    rw [Task.step]
    cases hstatus : s.status with
    | disconnected => exact leads_some rfl ⟨h, hstatus⟩
    | connected => exact leads_some rfl h
    | connecting => exact absurd hstatus h.settled
  | readProfile =>
    rw [Task.step]
    split
    · exact leads_some rfl h
    · exact leads_none h.1
  | setConnecting =>
    obtain ⟨h, hstatus⟩ := h
    refine leads_some rfl ⟨rfl, ?_, ?_⟩
    · refine Bool.eq_false_iff.mpr fun hengine => ?_
      exact absurd (hstatus.symm.trans (h.engine.mpr hengine)) nofun
    · refine Bool.eq_false_iff.mpr fun hproxy => ?_
      exact absurd (hstatus.symm.trans (h.proxy hproxy)) nofun
  | buildConfig =>
    rw [Task.step]
    split <;> exact leads_some rfl h
  | startEngine =>
    rw [Task.step]
    cases input.starts <;> exact leads_some rfl ⟨h.status, rfl, h.proxy⟩
  | waitForPort =>
    rw [Task.step]
    split <;> exact leads_some rfl h
  | stopFailed => exact leads_some rfl ⟨h.status, rfl, h.proxy⟩
  | setFailed => exact leads_none (consistent_of_stopped h.engine h.proxy)
  | readAutoProxy =>
    rw [Task.step]
    split
    · next hauto => exact leads_some rfl ⟨h, (Bool.and_eq_true_iff.mp hauto).2⟩
    · refine leads_some rfl ⟨h.engine, fun hproxy => ?_⟩
      exact absurd (h.proxy.symm.trans hproxy) nofun
  | enableProxy => exact leads_some rfl ⟨⟨h.1.status, h.1.engine, h.1.proxy⟩, h.2⟩
  | setProxyOn ok => exact leads_some rfl ⟨h.1.engine, fun _ => h.2⟩
  | setConnected =>
    refine ⟨fun t ht hactive => ?_, fun _ => ?_⟩
    · cases ht
      cases hactive
    · exact ⟨⟨iff_of_true rfl h.1, fun _ => rfl⟩, nofun, h.2⟩
  | ping => exact absurd rfl hne
  | stopEngine => exact leads_some rfl ⟨rfl, h.windows⟩
  | readProxyOn =>
    rw [Task.step]
    split
    · exact leads_some rfl h.1
    · next hproxy =>
      refine leads_some rfl ⟨h.1, Bool.eq_false_iff.mpr fun hon => hproxy ?_⟩
      exact Bool.and_eq_true_iff.mpr ⟨hon, h.2 hon⟩
  | disableProxy => exact leads_some rfl h
  | clearProxyOn => exact leads_some rfl ⟨h, rfl⟩
  | setDisconnected => exact leads_none (consistent_of_stopped h.1 h.2)

end

/-! ## Runs -/

/-- At most one call is under way, and the state is that of its phase. -/
structure System.Inv (isWindows : Bool) (s : System) : Prop where
  one : s.tasks.countP Task.active ≤ 1
  phase : ∀ t ∈ s.tasks, t.active = true → t.Phase isWindows s.shared
  rest : s.Settled → s.shared.Consistent isWindows

section
variable {isWindows : Bool} {s : System}

theorem countP_eq_zero_iff {tasks : List Task} :
    tasks.countP Task.active = 0 ↔ ∀ t ∈ tasks, t.active = false := by
  simp

/-- A step replaces one of the pending calls by what is left of it. -/
theorem exists_split (h : tasks[i]? = some t) (next : Option Task) :
    ∃ pre post, tasks = pre ++ t :: post ∧
      replace tasks i next = pre ++ next.toList ++ post := by
  obtain ⟨hi, rfl⟩ := List.getElem?_eq_some_iff.mp h
  refine ⟨tasks.take i, tasks.drop (i + 1), ?_, ?_⟩
  · rw [getElem_cons_drop, take_append_drop]
  · cases next with
    | none =>
      rw [Option.toList_none, append_nil]
      exact eraseIdx_eq_take_drop_succ _ _
    | some t' =>
      rw [replace, Option.toList_some, append_assoc, set_eq_take_append_cons_drop,
        if_pos hi]
      rfl

/-- A call that is not under way starts or ends. -/
theorem System.Inv.congr {tasks : List Task} (h : s.Inv isWindows)
    (hmem : ∀ t, t.active = true → (t ∈ tasks ↔ t ∈ s.tasks))
    (hcount : tasks.countP Task.active = s.tasks.countP Task.active) :
    ({ s with tasks } : System).Inv isWindows where
  one := by rw [hcount]; exact h.one
  phase t ht hactive := h.phase t ((hmem t hactive).mp ht) hactive
  rest := by
    intro hsettled
    refine h.rest (countP_eq_zero_iff.mp ?_)
    rw [← hcount]
    exact countP_eq_zero_iff.mpr hsettled

/-- A statement of a call while no other is under way. -/
theorem System.inv_of_leads (hpre : ∀ t ∈ pre, t.active = false)
    (hpost : ∀ t ∈ post, t.active = false) (hr : Task.Leads isWindows r) :
    ({ shared := r.1, tasks := pre ++ r.2.toList ++ post } : System).Inv isWindows := by
  refine ⟨?_, fun t' ht' hactive => ?_, fun hsettled => hr.last fun t' ht' => ?_⟩
  · rw [countP_append, countP_append, countP_eq_zero_iff.mpr hpre,
      countP_eq_zero_iff.mpr hpost, Nat.zero_add, Nat.add_zero]
    refine Nat.le_trans countP_le_length ?_
    cases r.2 <;> simp
  · rcases mem_append.mp ht' with hleft | hright
    · rcases mem_append.mp hleft with hmem | hmem
      · exact absurd hactive (by simp [hpre t' hmem])
      · exact hr.next t' (Option.mem_toList.mp hmem) hactive
    · exact absurd hactive (by simp [hpost t' hright])
  · exact hsettled t' (mem_append_left _ (mem_append_right _ (Option.mem_toList.mpr ht')))

theorem System.Inv.step (h : s.Inv isWindows) (action : Action) (hacts : ActsSettled s action) :
    (s.step isWindows action).Inv isWindows := by
  cases action with
  | toggle =>
    refine h.congr (fun t hactive => ?_) (by simp [countP_append, Task.active])
    rw [mem_append, mem_singleton, or_iff_left]
    rintro rfl
    cases hactive
  | disconnect =>
    have hleads : Task.Leads isWindows (s.shared, some .stopEngine) := leads_some rfl (h.rest hacts)
    have hinv := inv_of_leads hacts (forall_mem_nil _) hleads
    rw [append_nil] at hinv
    exact hinv
  | task i input =>
    rw [System.step]
    cases ht : s.tasks[i]? with
    | none => exact h
    | some t =>
      obtain ⟨pre, post, htasks, hnext⟩ := exists_split ht (t.step isWindows input s.shared).2
      dsimp only
      rw [hnext]
      have hends (hidle : t.active = false) :
          ({ s with tasks := pre ++ post } : System).Inv isWindows := by
        refine h.congr (fun t' hactive => ?_) (by simp [htasks, countP_append, hidle])
        have hne : t' ≠ t := by
          rintro rfl
          rw [hidle] at hactive
          cases hactive
        simp [htasks, hne]
      cases hactive : t.active with
      | true =>
        have hone := h.one
        rw [htasks, countP_append, countP_cons, if_pos hactive] at hone
        exact inv_of_leads (countP_eq_zero_iff.mp (by omega)) (countP_eq_zero_iff.mp (by omega))
          (step_leads (by rintro rfl; cases hactive) (h.phase t (mem_of_getElem? ht) hactive) input)
      | false =>
        obtain rfl | rfl : t = .ping ∨ t = .readStatus := by
          revert hactive
          cases t <;> simp [Task.active]
        · simpa [Task.step] using hends rfl
        · by_cases hconnecting : s.shared.status = .connecting
          · simpa [Task.step, hconnecting] using hends rfl
          · have hsettled := hacts ht hconnecting
            have hleads := step_leads nofun (h.rest hsettled) input (t := .readStatus)
            rw [System.Settled, htasks, forall_mem_append, forall_mem_cons] at hsettled
            exact inv_of_leads hsettled.1 hsettled.2.2 hleads

end

/-- If the user acts only when the earlier calls have made their last assignment, but for clicks that
find the status CONNECTING: whenever nothing is pending, the status is CONNECTED exactly if the engine
runs, and the proxy is on only then. -/
theorem rest_consistent_of_settled (isWindows : Bool) (actions : List Action)
    (h : Run.StepsMeet (System.step isWindows) ActsSettled {} actions) :
    Run.Always (System.step isWindows) (fun s => s.tasks = [] → s.shared.AtRest) {} actions := by
  have hinit : ({} : System).Inv isWindows :=
    ⟨Nat.zero_le _, List.forall_mem_nil _, fun _ =>
      ⟨⟨iff_of_false nofun nofun, nofun⟩, nofun, nofun⟩⟩
  refine (Run.always_of_stepsMeet (fun s action hinv => hinv.step action) hinit h).imp ?_
  intro s hinv hnil
  have hsettled : s.Settled := by
    unfold System.Settled
    rw [hnil]
    exact List.forall_mem_nil _
  exact (hinv.rest hsettled).toAtRest

/-! ## A disconnect in between -/

/-- The call at the front runs for some steps. -/
def steps (n : Nat) : List Action := List.replicate n (.task 0 {})

/-- Connect, click once more in the meantime, and disconnect when it is done. -/
theorem connect_disconnect_consistent :
    let actions := .toggle :: steps 3 ++ [.toggle, .task 1 {}] ++ steps 8 ++ .toggle :: steps 6
    (actions.foldl (System.step true) {}).tasks = [] ∧
      Run.Always (System.step true) (fun s => s.tasks = [] → s.shared.AtRest) {} actions :=
  ⟨by decide, rest_consistent_of_settled true _ (by decide)⟩

/-- The port is open when the row of the settings screen is clicked; its coroutine runs at once, and
the coroutine of `connect` after it. -/
def clickInBetween : List Action :=
  .toggle :: steps 6 ++ .disconnect :: List.replicate 3 (.task 1 {}) ++ steps 5

theorem disconnect_in_between_inconsistent :
    clickInBetween.foldl (System.step true) {} =
        { shared := { status := .connected, proxyOn := true, engine := false, systemProxy := true } } ∧
      ¬Run.Always (System.step true) (fun s => s.tasks = [] → s.shared.AtRest) {} clickInBetween := by
  have hfinal : clickInBetween.foldl (System.step true) {} =
      { shared := { status := .connected, proxyOn := true, engine := false, systemProxy := true } } := by
    decide
  refine ⟨hfinal, fun h => ?_⟩
  have hlast := h.last
  exact absurd ((hlast rfl).engine.mp rfl) nofun

end ZeroVpn.Connector
