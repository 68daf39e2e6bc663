import ZeroVpn.Core.CoreLifecycle
import ZeroVpn.Service.TunnelInterface

/-!
# Start commands of the VPN service

`onStartCommand` of `CoreVpnService` with everything it calls on the service thread: the start lock,
the interface, and the core. A descriptor is a number; the service keeps the one it established last
in `mInterface`, and the manager the one it gave to the core in `currentVpnInterface`.
-/

namespace ZeroVpn

/-- The intent of a delivery: an ordinary one, none at all, or one of the system. -/
inductive StartIntent
  | ordinary | null | serviceInterface
deriving DecidableEq

def StartIntent.isSystemVpnStart : StartIntent → Bool
  | .ordinary => false
  | .null | .serviceInterface => true

/-- A delivery with what it finds outside the service. -/
structure Delivery where
  intent : StartIntent
  input : Input
  /-- `prepare` returns null: the permission is granted. -/
  prepared : Bool := true
  /-- The builder takes the network settings and the applications; otherwise it throws. -/
  configures : Bool := true
  /-- The same for the features of the platform, after the old interface is closed. -/
  configuresPlatform : Bool := true
  /-- The descriptor of `establish`; without one it fails. -/
  established : Option Nat
  /-- A `stopLoop` that was launched before has run by now. -/
  stopFinished : Bool := false

structure VpnService where
  manager : Manager
  isStartingLock : Bool
  isRunning : Bool
  mInterface : Option Nat
  /-- The descriptors that are open. -/
  openInterfaces : List Nat
  /-- `tun2SocksService` is not null. -/
  hasTun2Socks : Bool := false
  /-- `stopCoreLoop` has launched a `stopLoop` that has not run. -/
  stopping : Bool := false
  /-- `stopSelf` was called. -/
  stopsSelf : Bool := false

inductive StartResult
  | sticky | notSticky
deriving DecidableEq

namespace VpnService

def closeInterface (s : VpnService) : VpnService :=
  { s with openInterfaces := s.openInterfaces.filter fun fd => some fd ≠ s.mInterface }

/-- `CoreServiceManager.stopCoreLoop`. -/
def stopCoreLoop (s : VpnService) : VpnService :=
  if s.manager.hasService then
    { s with
      manager := { s.manager with hasMonitor := false, currentVpnInterface := none }.awgStop
      stopping := s.stopping || s.manager.coreRunning }
  else s

/-- `stopAllService`, which is only called forced. -/
def stopAllService (s : VpnService) : VpnService :=
  let s := { s with isStartingLock := false, isRunning := false, hasTun2Socks := false }.stopCoreLoop
  { s with stopsSelf := true }.closeInterface

/-- `none` stands for an exception. -/
def configureVpnService (d : Delivery) (s : VpnService) : VpnService × Option Bool :=
  if d.configures = false then (s, none)
  else
    let s := s.closeInterface
    if d.configuresPlatform = false then (s, none)
    else match d.established with
      | some fd =>
        ({ s with mInterface := some fd, openInterfaces := fd :: s.openInterfaces, isRunning := true },
          some true)
      | none => (s.stopAllService, some false)

def setupVpnService (d : Delivery) (s : VpnService) : VpnService × Option Bool :=
  if d.prepared = false then (s, some false)
  else match configureVpnService d s with
    | (s, some true) =>
      if AwgManager.isAwgProfileSelected d.input.env then (s, some true)
      else ({ s with hasTun2Socks := d.input.env.isUsingHevTun }, some true)
    | r => r

/-- `launchCore` to its end. -/
def launchCore (vpnInterface : Option Nat) (input : Input) (m : Manager) : Manager × LaunchResult :=
  match launchCoreStep vpnInterface input m .prepare with
  | (m, .next step) =>
    match launchCoreStep vpnInterface input m step with
    | (m, .next step) => launchCoreStep vpnInterface input m step
    | r => r
  | r => r

/-- `CoreServiceManager.startCoreLoop`. -/
def startCoreLoop (vpnInterface : Option Nat) (input : Input) (m : Manager) : Manager × Bool :=
  if m.isRunning then (m, false)
  else if m.hasService = false then (m, false)
  else
    match launchCore vpnInterface input { m with currentVpnInterface := vpnInterface } with
    | (m, .done) =>
      ({ m with hasMonitor := m.hasMonitor || decide (28 ≤ input.env.platform.sdkInt) }, true)
    | (m, _) => (m, false)

def startService (input : Input) (s : VpnService) : VpnService :=
  match s.mInterface with
  | none => s
  | some fd =>
    match startCoreLoop (some fd) input s.manager with
    | (m, true) => { s with manager := m }
    | (m, false) => { s with manager := m }.stopAllService

/-- What a start command makes of the outcome of `setupVpnService`. -/
def afterSetup (input : Input) : VpnService × Option Bool → VpnService × Option StartResult
  | (s, none) => (s, none)
  | (s, some false) => ({ s with isStartingLock := false, stopsSelf := true }, some .notSticky)
  | (s, some true) => (s.startService input, some .sticky)

def doStartCommand (d : Delivery) (s : VpnService) : VpnService × Option StartResult :=
  let s := if d.intent.isSystemVpnStart then { s with isStartingLock := false } else s
  if s.isStartingLock then (s, some .notSticky)
  else afterSetup d.input (setupVpnService d { s with isStartingLock := true })

def onStartCommand (d : Delivery) (s : VpnService) : VpnService × StartResult :=
  match doStartCommand d s with
  | (s, some result) => (s, result)
  | (s, none) => ({ s.stopAllService with isStartingLock := false, stopsSelf := true }, .notSticky)

/-- A `stopLoop` that runs in the background. -/
def finishStop (s : VpnService) : VpnService :=
  if s.stopping then { s with manager := s.manager.stopLoop, stopping := false } else s

/-- A delivery on the service thread. -/
def deliver (s : VpnService) (d : Delivery) : VpnService :=
  (onStartCommand d (if d.stopFinished then s.finishStop else s)).1

end VpnService
end ZeroVpn
