import ZeroVpn.Core.CoreLifecycle
import ZeroVpn.Std.Run
import ZeroVpn.Verify.DefaultOutbound

/-!
# A stopped core stays stopped

A reload that has found the core running stops it and launches it again, whatever the service thread
does meanwhile. If stops and reloads keep out of each other's way, a core that was stopped does not
run again before the next start.
-/

namespace ZeroVpn
open Lifecycle List

/-- The job is between its check that the core runs and the end of its launch. -/
def JobStep.isLive : JobStep → Bool
  | .readInterface | .setReloading _ | .stopLoop _ | .launch _ _ => true
  | _ => false

namespace ServiceStep

def inStart : ServiceStep → Bool
  | startService _ | startInterface _ | startLaunch _ _ | startMonitorCheck | startMonitor => true
  | _ => false

def inStop : ServiceStep → Bool
  | stopUnregister | stopMonitor | stopInterface | stopAwg | stopCore | stopRest => true
  | _ => false

end ServiceStep

namespace Lifecycle

/-- A call of `stopCoreLoop`, or the `stopLoop` of the last one, has not finished. -/
def stopUnderWay (s : Lifecycle) : Bool :=
  s.service.inStop || s.stopped.any fun call => call ∈ s.stops

/-- `stopCoreLoop` is called with a service and while no reload is under way, and no reload finds the
core running while a stop is under way. -/
def KeepsApart (s : Lifecycle) : Action → Prop
  | .stopCoreLoop => s.manager.hasService = true ∧ ∀ job ∈ s.jobs, job.isLive = false
  | .job i _ => s.jobs[i]? = some .checkRunning → s.manager.isRunning = true → s.stopUnderWay = false
  | _ => True

instance (s : Lifecycle) : DecidablePred s.KeepsApart
  | .stopCoreLoop => inferInstanceAs (Decidable (_ ∧ _))
  | .job i _ => inferInstanceAs (Decidable (s.jobs[i]? = some .checkRunning →
      s.manager.isRunning = true → s.stopUnderWay = false))
  | .startCoreLoop _ | .service _ | .scheduleHandover | .stopLoop _ | .setService _ | .coreExits =>
    inferInstanceAs (Decidable True)

/-- After a stop and its `stopLoop` have finished, the core does not run. -/
def StaysStopped (s : Lifecycle) : Prop :=
  ∀ call, s.stopped = some call → call ∉ s.stops → s.manager.isRunning = false

structure Inv (s : Lifecycle) : Prop where
  /-- There is no AmneziaWG engine. -/
  awg : s.manager.awgHandle = 0
  start : s.service.inStart = true → s.stopped = none
  quiet : s.service.inStop = true ∨ s.stopped.isSome = true → ∀ job ∈ s.jobs, job.isLive = false
  /-- A core that still runs after a stop has its `stopLoop` to come. -/
  rest : s.service = .stopRest → s.manager.coreRunning = true → s.stopCalls ∈ s.stops
  stopped : ∀ call, s.stopped = some call → s.manager.coreRunning = true → call ∈ s.stops

end Lifecycle

section
variable {s : Lifecycle}
variable {m : Manager} {input : Input}

theorem Manager.isRunning_eq (h : m.awgHandle = 0) : m.isRunning = m.coreRunning := by
  unfold isRunning awgIsActive
  rw [h]
  rfl

theorem Lifecycle.Inv.staysStopped (h : s.Inv) : s.StaysStopped := by
  intro call hcall hdone
  rw [Manager.isRunning_eq h.awg]
  exact Bool.eq_false_iff.mpr fun hrunning => hdone (h.stopped call hcall hrunning)

theorem launchCoreStep_awgHandle {vpnInterface : Option Nat} (h : m.awgHandle = 0)
    (step : LaunchStep) : (launchCoreStep vpnInterface input m step).1.awgHandle = 0 := by
  cases step with
  | prepare =>
    dsimp only [launchCoreStep]
    split
    · exact h
    · split <;> exact h
    · exact h
  | startLoop =>
    dsimp only [launchCoreStep]
    split <;> exact h
  | checkRunning =>
    dsimp only [launchCoreStep]
    split <;> exact h
  | startAwg => rfl

theorem jobStep_awgHandle (h : m.awgHandle = 0) (job : JobStep) :
    (jobStep input m job).1.awgHandle = 0 := by
  cases job with
  | launch tunFd step => exact launchCoreStep_awgHandle h step
  | _ => exact h

/-- A job that is not live leaves the core, and becomes live only by finding it running. -/
theorem jobStep_of_not_live (input : Input) (m : Manager) {job : JobStep} (h : job.isLive = false) :
    (jobStep input m job).1.coreRunning = m.coreRunning ∧
      ((jobStep input m job).2.isLive = true → job = .checkRunning ∧ m.isRunning = true) := by
  cases job with
  | readInterface | setReloading tunFd | stopLoop tunFd | launch tunFd step => cases h
  | delayed | clearReloading | done => exact ⟨rfl, nofun⟩
  | checkReloading =>
    refine ⟨rfl, fun hlive => ?_⟩
    unfold jobStep at hlive
    cases hm : m.isReloading <;> rw [hm] at hlive <;> cases hlive
  | checkService =>
    refine ⟨rfl, fun hlive => ?_⟩
    unfold jobStep at hlive
    cases hm : m.hasService <;> rw [hm] at hlive <;> cases hlive
  | checkRunning =>
    refine ⟨rfl, fun hlive => ⟨rfl, ?_⟩⟩
    unfold jobStep at hlive
    cases hm : m.isRunning with
    | true => rfl
    | false =>
      rw [hm] at hlive
      cases hlive

theorem cancel_isLive (job : JobStep) : job.cancel.isLive = job.isLive := by cases job <;> rfl

theorem cancel_quiet {jobs : List JobStep} (h : ∀ job ∈ jobs, job.isLive = false) :
    ∀ job ∈ jobs.map JobStep.cancel, job.isLive = false := by
  intro job hin
  obtain ⟨job', hin', rfl⟩ := mem_map.mp hin
  rw [cancel_isLive]
  exact h job' hin'

/-- A thread in `startCoreLoop` keeps the invariant wherever it goes on, short of `stopCoreLoop`. -/
theorem inv_of_start (h : s.Inv) (hstart : s.service.inStart = true) (hm : m.awgHandle = 0)
    {service : ServiceStep} (hservice : service.inStop = false) :
    { s with manager := m, service := service }.Inv := by
  have hnone := h.start hstart
  refine ⟨hm, fun _ => hnone, fun hstop => ?_, fun hrest => ?_, fun call hcall => ?_⟩
  · rcases hstop with hstop | hsome
    · rw [hservice] at hstop
      cases hstop
    · rw [hnone] at hsome
      cases hsome
  · change service = .stopRest at hrest
    rw [hrest] at hservice
    cases hservice
  · rw [hnone] at hcall
    cases hcall

theorem inv_serviceStep (h : s.Inv) (input : Input) : (s.serviceStep input).Inv := by
  unfold serviceStep
  cases hs : s.service with
  | idle => exact h
  | startService vpnInterface =>
    have hstart : s.service.inStart = true := by rw [hs]; rfl
    dsimp only
    split <;> exact inv_of_start h hstart h.awg (by rfl)
  | startInterface vpnInterface =>
    have hstart : s.service.inStart = true := by rw [hs]; rfl
    refine inv_of_start h hstart ?_ ?_
    · exact h.awg
    · rfl
  | startLaunch vpnInterface step =>
    have hstart : s.service.inStart = true := by rw [hs]; rfl
    refine inv_of_start h hstart (launchCoreStep_awgHandle h.awg step) ?_
    cases (launchCoreStep vpnInterface input s.manager step).2 <;> rfl
  | startMonitorCheck =>
    have hstart : s.service.inStart = true := by rw [hs]; rfl
    dsimp only
    split <;> exact inv_of_start h hstart h.awg (by rfl)
  | startMonitor =>
    have hstart : s.service.inStart = true := by rw [hs]; rfl
    refine inv_of_start h hstart ?_ ?_
    · exact h.awg
    · rfl
  | stopUnregister =>
    have hquiet := h.quiet (.inl (by rw [hs]; rfl))
    refine ⟨h.awg, nofun, fun _ => ?_, nofun, h.stopped⟩
    dsimp only
    split
    · exact cancel_quiet hquiet
    · exact hquiet
  | stopMonitor | stopInterface =>
    have hquiet := h.quiet (.inl (by rw [hs]; rfl))
    exact ⟨h.awg, nofun, fun _ => hquiet, nofun, h.stopped⟩
  | stopAwg =>
    have hquiet := h.quiet (.inl (by rw [hs]; rfl))
    exact ⟨rfl, nofun, fun _ => hquiet, nofun, h.stopped⟩
  | stopCore =>
    have hquiet := h.quiet (.inl (by rw [hs]; rfl))
    refine ⟨h.awg, nofun, fun _ => hquiet, fun _ hrunning => ?_, fun call hcall hrunning => ?_⟩
    · dsimp only
      rw [if_pos hrunning]
      exact mem_cons_self
    · dsimp only
      rw [if_pos hrunning]
      exact mem_cons_of_mem _ (h.stopped call hcall hrunning)
  | stopRest =>
    have hquiet := h.quiet (.inl (by rw [hs]; rfl))
    refine ⟨h.awg, nofun, fun _ => hquiet, nofun, fun call hcall hrunning => ?_⟩
    cases hcall
    exact h.rest hs hrunning

theorem inv_job (h : s.Inv) {i : Nat} (happart : s.KeepsApart (.job i input)) :
    (s.step (.job i input)).Inv := by
  unfold Lifecycle.step
  dsimp only
  cases hjob : s.jobs[i]? with
  | none => exact h
  | some job =>
    have hin : job ∈ s.jobs := mem_of_getElem? hjob
    have hawg : (jobStep input s.manager job).1.awgHandle = 0 := jobStep_awgHandle h.awg job
    by_cases hstop : s.service.inStop = true ∨ s.stopped.isSome = true
    · -- no job is live: this one neither launches the core nor finds it running
      have hquiet := h.quiet hstop
      obtain ⟨hsame, hbecomes⟩ := jobStep_of_not_live input s.manager (hquiet job hin)
      have hnew : (jobStep input s.manager job).2.isLive = false := by
        refine Bool.eq_false_iff.mpr fun hlive => ?_
        obtain ⟨rfl, hrunning⟩ := hbecomes hlive
        have hfree := happart hjob hrunning
        unfold stopUnderWay at hfree
        rw [Bool.or_eq_false_iff] at hfree
        rcases hstop with hstop | hsome
        · rw [hstop] at hfree
          cases hfree.1
        · obtain ⟨call, hcall⟩ := Option.isSome_iff_exists.mp hsome
          rw [Manager.isRunning_eq h.awg] at hrunning
          have hpending := h.stopped call hcall hrunning
          rw [hcall] at hfree
          exact of_decide_eq_false hfree.2 hpending
      refine ⟨hawg, h.start, fun _ job' hin' => ?_, fun hrest hrunning => ?_,
        fun call hcall hrunning => ?_⟩
      · rcases mem_or_eq_of_mem_set hin' with hold | rfl
        · exact hquiet job' hold
        · exact hnew
      · exact h.rest hrest (hsame ▸ hrunning)
      · exact h.stopped call hcall (hsame ▸ hrunning)
    · refine ⟨hawg, h.start, fun hstop' => absurd hstop' hstop, fun hrest _ => ?_,
        fun call hcall _ => ?_⟩
      · exact absurd (.inl (by rw [hrest]; rfl)) hstop
      · exact absurd (.inr (by rw [hcall]; rfl)) hstop

theorem inv_step (h : s.Inv) {a : Action} (happart : s.KeepsApart a) : (s.step a).Inv := by
  cases a with
  | startCoreLoop vpnInterface =>
    unfold Lifecycle.step
    cases hs : s.service with
    | idle =>
      dsimp only
      split
      · refine ⟨h.awg, fun _ => rfl, fun hstop => ?_, nofun, nofun⟩
        rcases hstop with hstop | hsome
        · cases hstop
        · cases hsome
      · exact ⟨h.awg, fun _ => rfl, nofun, nofun, nofun⟩
    | _ => exact h
  | stopCoreLoop =>
    obtain ⟨hservice, hquiet⟩ := happart
    unfold Lifecycle.step
    cases hs : s.service with
    | idle =>
      rw [if_pos hservice]
      exact ⟨h.awg, nofun, fun _ => hquiet, nofun, h.stopped⟩
    | _ => exact h
  | service input => exact inv_serviceStep h input
  | scheduleHandover =>
    refine ⟨h.awg, h.start, fun hstop job hin => ?_, h.rest, h.stopped⟩
    rcases mem_append.mp hin with hold | hnew
    · exact cancel_quiet (h.quiet hstop) job hold
    · rw [mem_singleton.mp hnew]
      rfl
  | job i input => exact inv_job h happart
  | stopLoop call =>
    unfold Lifecycle.step
    dsimp only
    split
    · exact ⟨h.awg, h.start, h.quiet, fun _ => Bool.noConfusion, fun _ _ => Bool.noConfusion⟩
    · exact h
  | setService attached => exact ⟨h.awg, h.start, h.quiet, h.rest, h.stopped⟩
  | coreExits =>
    exact ⟨h.awg, h.start, h.quiet, fun _ => Bool.noConfusion, fun _ _ => Bool.noConfusion⟩

end

/-- In every run that keeps stops and reloads apart, a core that was stopped does not run until the
next call of `startCoreLoop`. -/
theorem stopped_core_stays_stopped (actions : List Action)
    (h : Run.StepsMeet Lifecycle.step KeepsApart {} actions) :
    Run.Always Lifecycle.step StaysStopped {} actions := by
  have hfirst : Inv {} := ⟨rfl, fun _ => rfl, nofun, nofun, nofun⟩
  have hinv : Run.Always Lifecycle.step Inv {} actions :=
    Run.always_of_stepsMeet (fun _ _ hs happart => inv_step hs happart) hfirst h
  exact hinv.imp fun _ => Inv.staysStopped

/-- The store has one server, which is selected, and the core accepts its configuration. -/
def serverInput : Input where
  env := { plainEnv [("s", vlessServer)] [] with
    store := { (plainEnv [("s", vlessServer)] []).store with selected := some "s" } }
  starts := true

/-- The core is started and the monitor registered. -/
def startRun : List Action :=
  [.setService true, .startCoreLoop (some 42)] ++ replicate 7 (.service serverInput)

/-- The service thread stops the core. -/
def stopRun : List Action := .stopCoreLoop :: replicate 6 (.service serverInput)

/-- A handover is scheduled, and the job takes some steps. -/
def handoverRun (steps : Nat) : List Action :=
  .scheduleHandover :: replicate steps (.job 0 serverInput)

/-- The core is reloaded once and then stopped. -/
theorem reloaded_core_stays_stopped :
    Run.Always Lifecycle.step StaysStopped {}
      (startRun ++ handoverRun 11 ++ stopRun ++ [.stopLoop 1]) :=
  stopped_core_stays_stopped _ (by decide)

/-- The core is stopped while a reload is between its `stopLoop` and its launch: the stop finishes
without a `stopLoop` of its own, and then the core runs. -/
theorem reload_resurrects_core :
    ¬Run.Always Lifecycle.step StaysStopped {}
      (startRun ++ handoverRun 7 ++ stopRun ++ replicate 2 (Action.job 0 serverInput)) := by
  intro h
  have hstopped := h.last 1 rfl (by decide)
  cases hstopped

end ZeroVpn
