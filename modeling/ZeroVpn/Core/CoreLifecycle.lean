import ZeroVpn.Core.CoreServiceManager

/-!
# The life of the core

`startCoreLoop` and `stopCoreLoop` run on the service thread, `reloadCore` in jobs of the network
monitor, and the `stopLoop` that `stopCoreLoop` launches in a coroutine of its own. Every check,
assignment and call of the core is a step; the steps of the threads interleave freely.

What a step finds outside the manager is its `Input`: the store and the settings as they are then,
and whether the core accepts its configuration.
-/

namespace ZeroVpn

/-- The fields of `CoreServiceManager` that its threads share, with those of the engines. -/
structure Manager where
  /-- `getService()` is not null. -/
  hasService : Bool := false
  currentVpnInterface : Option Nat := none
  /-- `networkMonitor` is not null. -/
  hasMonitor : Bool := false
  isReloading : Bool := false
  /-- `coreController.isRunning` -/
  coreRunning : Bool := false
  /-- `AwgManager.handle` -/
  awgHandle : Nat := 0

namespace Manager

def awgIsActive (m : Manager) : Bool := m.awgHandle != 0

def isRunning (m : Manager) : Bool := m.awgIsActive || m.coreRunning

def awgStop (m : Manager) : Manager := { m with awgHandle := 0 }

def stopLoop (m : Manager) : Manager := { m with coreRunning := false }

end Manager

structure Input where
  env : AppEnv
  /-- `startLoop` starts the core; otherwise it throws. -/
  starts : Bool

/-- Where a thread is in `launchCore`. -/
inductive LaunchStep
  | prepare | startLoop | checkRunning | startAwg
deriving DecidableEq

/-- A thread goes on in `launchCore`, leaves it, or leaves it with an exception. -/
inductive LaunchResult
  | next (step : LaunchStep) | done | failed

/-- A step of `launchCore` on the given interface. This build has no AmneziaWG engine: its `start`
stops it and throws. -/
def launchCoreStep (vpnInterface : Option Nat) (input : Input) (m : Manager) :
    LaunchStep → Manager × LaunchResult
  | .prepare =>
    match CoreServiceManager.launchCore input.env with
    | .error _ => (m, .failed)
    | .ok (.awg _) => if vpnInterface.isSome then (m, .next .startAwg) else (m, .failed)
    | .ok (.core _ _) => (m, .next .startLoop)
  | .startLoop =>
    if input.starts then ({ m with coreRunning := true }, .next .checkRunning) else (m, .failed)
  | .checkRunning => if m.isRunning then (m, .done) else (m, .failed)
  | .startAwg => (m.awgStop, .failed)

/-- Where the service thread is. -/
inductive ServiceStep
  | idle
  -- in `startCoreLoop`
  | startService (vpnInterface : Option Nat)
  | startInterface (vpnInterface : Option Nat)
  | startLaunch (vpnInterface : Option Nat) (step : LaunchStep)
  | startMonitorCheck | startMonitor
  -- in `stopCoreLoop`
  | stopUnregister | stopMonitor | stopInterface | stopAwg | stopCore | stopRest

/-- Where a job of the network monitor is. -/
inductive JobStep
  /-- In the debounce delay; only here it can be cancelled. -/
  | delayed
  -- in `reloadCore`
  | checkReloading | checkService | checkRunning | readInterface
  | setReloading (tunFd : Option Nat)
  | stopLoop (tunFd : Option Nat)
  | launch (tunFd : Option Nat) (step : LaunchStep)
  | clearReloading
  | done
deriving DecidableEq

/-- The threads. The calls of `stopCoreLoop` are numbered; `stops` has the numbers of those whose
`stopLoop` was launched and has not run, and `stopped` the number of the last call that finished,
if no `startCoreLoop` was called since. -/
structure Lifecycle where
  manager : Manager := {}
  service : ServiceStep := .idle
  jobs : List JobStep := []
  stopCalls : Nat := 0
  stops : List Nat := []
  stopped : Option Nat := none

/-- `handoverJob.cancel()` -/
def JobStep.cancel : JobStep → JobStep
  | .delayed => .done
  | step => step

namespace Lifecycle

/-- The next step of `startCoreLoop` or `stopCoreLoop`. -/
def serviceStep (input : Input) (s : Lifecycle) : Lifecycle :=
  match s.service with
  | .idle => s
  | .startService vpnInterface =>
    if s.manager.hasService then { s with service := .startInterface vpnInterface }
    else { s with service := .idle }
  | .startInterface vpnInterface =>
    { s with
      manager := { s.manager with currentVpnInterface := vpnInterface }
      service := .startLaunch vpnInterface .prepare }
  | .startLaunch vpnInterface step =>
    let r := launchCoreStep vpnInterface input s.manager step
    { s with
      manager := r.1
      service := match r.2 with
        | .next step => .startLaunch vpnInterface step
        | .done => .startMonitorCheck
        | .failed => .idle }
  | .startMonitorCheck =>
    if input.env.platform.sdkInt < 28 ∨ s.manager.hasMonitor = true then { s with service := .idle }
    else { s with service := .startMonitor }
  | .startMonitor => { s with manager := { s.manager with hasMonitor := true }, service := .idle }
  | .stopUnregister =>
    { s with
      jobs := if s.manager.hasMonitor then s.jobs.map JobStep.cancel else s.jobs
      service := .stopMonitor }
  | .stopMonitor =>
    { s with manager := { s.manager with hasMonitor := false }, service := .stopInterface }
  | .stopInterface =>
    { s with manager := { s.manager with currentVpnInterface := none }, service := .stopAwg }
  | .stopAwg => { s with manager := s.manager.awgStop, service := .stopCore }
  | .stopCore =>
    { s with
      stops := if s.manager.coreRunning then s.stopCalls :: s.stops else s.stops
      service := .stopRest }
  | .stopRest => { s with service := .idle, stopped := some s.stopCalls }

/-- The next step of a job. -/
def jobStep (input : Input) (m : Manager) : JobStep → Manager × JobStep
  | .delayed => (m, .checkReloading)
  | .checkReloading => (m, if m.isReloading then .done else .checkService)
  | .checkService => (m, if m.hasService then .checkRunning else .done)
  | .checkRunning => (m, if m.isRunning then .readInterface else .done)
  | .readInterface => (m, .setReloading m.currentVpnInterface)
  | .setReloading tunFd => ({ m with isReloading := true }, .stopLoop tunFd)
  | .stopLoop tunFd => (m.stopLoop, .launch tunFd .prepare)
  | .launch tunFd step =>
    let r := launchCoreStep tunFd input m step
    (r.1, match r.2 with
      | .next step => .launch tunFd step
      | .done | .failed => .clearReloading)
  | .clearReloading => ({ m with isReloading := false }, .done)
  | .done => (m, .done)

inductive Action
  /-- The idle service thread calls `startCoreLoop`, which looks whether the core runs. -/
  | startCoreLoop (vpnInterface : Option Nat)
  /-- The idle service thread calls `stopCoreLoop`, which looks for the service. -/
  | stopCoreLoop
  | service (input : Input)
  /-- A callback of the monitor schedules a handover. -/
  | scheduleHandover
  | job (i : Nat) (input : Input)
  /-- The `stopLoop` that a call launched. -/
  | stopLoop (call : Nat)
  /-- `serviceControl` is set or cleared. -/
  | setService (attached : Bool)
  | coreExits

/-- An action that is not possible changes nothing. -/
def step (s : Lifecycle) : Action → Lifecycle
  | .startCoreLoop vpnInterface =>
    match s.service with
    | .idle =>
      if s.manager.isRunning then { s with stopped := none }
      else { s with service := .startService vpnInterface, stopped := none }
    | _ => s
  | .stopCoreLoop =>
    match s.service with
    | .idle =>
      if s.manager.hasService then { s with service := .stopUnregister, stopCalls := s.stopCalls + 1 }
      else { s with stopCalls := s.stopCalls + 1, stopped := some (s.stopCalls + 1) }
    | _ => s
  | .service input => s.serviceStep input
  | .scheduleHandover => { s with jobs := s.jobs.map JobStep.cancel ++ [.delayed] }
  | .job i input =>
    match s.jobs[i]? with
    | none => s
    | some job =>
      let r := jobStep input s.manager job
      { s with manager := r.1, jobs := s.jobs.set i r.2 }
  | .stopLoop call =>
    if call ∈ s.stops then { s with manager := s.manager.stopLoop, stops := s.stops.erase call }
    else s
  | .setService attached => { s with manager := { s.manager with hasService := attached } }
  | .coreExits => { s with manager := s.manager.stopLoop }

end Lifecycle
end ZeroVpn
