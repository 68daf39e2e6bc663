import ZeroVpn.Std.Run
import Mathlib.Data.List.Basic

/-!
# The connector of the desktop app

`toggle`, `connect` and `disconnect` of `Connector`, cut into steps: every call of `Engine` and
`SysProxy` and every reading or assignment of a field of the store is one. The steps of different
calls interleave freely. The engine only ends when it is stopped.
-/

namespace ZeroVpn.Connector

inductive ConnStatus where
  | disconnected
  | connecting
  | connected
  deriving DecidableEq

/-- What the calls share: fields of the store, whether `Engine.process` is alive, and whether the
system proxy points at the app. -/
structure Shared where
  status : ConnStatus := .disconnected
  proxyOn : Bool := false
  engine : Bool := false
  systemProxy : Bool := false
  deriving DecidableEq

/-- What a step finds outside. -/
structure Input where
  /-- `Store.selectedProfile` is not null. -/
  hasProfile : Bool := true
  /-- The configuration is built and written. -/
  configOk : Bool := true
  /-- `Engine.start` starts the process. -/
  starts : Bool := true
  /-- `waitForPort` reaches the port. -/
  portOpen : Bool := true
  autoProxy : Bool := true
  /-- `reg` succeeds. -/
  regOk : Bool := true
  deriving DecidableEq

/-- The next statement of a call. -/
inductive Task where
  -- `toggle` and `connect`
  | readStatus
  | readProfile
  | setConnecting
  -- the coroutine of `connect`
  | buildConfig
  | startEngine
  | waitForPort
  | stopFailed
  | setFailed
  | readAutoProxy
  | enableProxy
  | setProxyOn (ok : Bool)
  | setConnected
  | ping
  -- the coroutine of `disconnect`
  | stopEngine
  | readProxyOn
  | disableProxy
  | clearProxyOn
  | setDisconnected
  deriving DecidableEq

section
variable (isWindows : Bool)

/-- A statement, and the one after it. -/
def Task.step (input : Input) (s : Shared) : Task → Shared × Option Task
  | .readStatus =>
    match s.status with
    | .disconnected => (s, some .readProfile)
    | .connected => (s, some .stopEngine)
    | .connecting => (s, none)
  | .readProfile => (s, if input.hasProfile then some .setConnecting else none)
  | .setConnecting => ({ s with status := .connecting }, some .buildConfig)
  | .buildConfig => (s, some (if input.configOk then .startEngine else .setFailed))
  | .startEngine =>
    -- `start` stops an engine that is running first
    ({ s with engine := input.starts }, some (if input.starts then .waitForPort else .setFailed))
  | .waitForPort => (s, some (if input.portOpen then .readAutoProxy else .stopFailed))
  | .stopFailed => ({ s with engine := false }, some .setFailed)
  | .setFailed => ({ s with status := .disconnected }, none)
  | .readAutoProxy =>
    (s, some (if input.autoProxy && isWindows then .enableProxy else .setConnected))
  | .enableProxy => ({ s with systemProxy := s.systemProxy || input.regOk },
      some (.setProxyOn input.regOk))
  | .setProxyOn ok => ({ s with proxyOn := ok }, some .setConnected)
  | .setConnected => ({ s with status := .connected }, some .ping)
  | .ping => (s, none)
  | .stopEngine => ({ s with engine := false }, some .readProxyOn)
  | .readProxyOn => (s, some (if s.proxyOn && isWindows then .disableProxy else .setDisconnected))
  | .disableProxy => ({ s with systemProxy := s.systemProxy && !input.regOk }, some .clearProxyOn)
  | .clearProxyOn => ({ s with proxyOn := false }, some .setDisconnected)
  | .setDisconnected => ({ s with status := .disconnected }, none)

/-- The shared state and the calls that have not finished. -/
structure System where
  shared : Shared := {}
  tasks : List Task := []
  deriving DecidableEq

/-- What is left of a call takes its place. -/
def replace (tasks : List Task) (i : Nat) : Option Task → List Task
  | some t => tasks.set i t
  | none => tasks.eraseIdx i

inductive Action where
  /-- The connect button. -/
  | toggle
  /-- The row of the settings screen that clears all profiles. -/
  | disconnect
  | task (i : Nat) (input : Input)

/-- An action that is not possible changes nothing. -/
def System.step (s : System) : Action → System
  | .toggle => { s with tasks := s.tasks ++ [.readStatus] }
  | .disconnect => { s with tasks := s.tasks ++ [.stopEngine] }
  | .task i input =>
    match s.tasks[i]? with
    | none => s
    | some t =>
      let r := t.step isWindows input s.shared
      { shared := r.1, tasks := replace s.tasks i r.2 }

end
end ZeroVpn.Connector
