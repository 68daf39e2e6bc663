import ZeroVpn.Service.StartCommand
import ZeroVpn.Std.Run
import ZeroVpn.Verify.DefaultOutbound

/-!
# Start commands and a running VPN

While the core runs, a start command should do nothing. The start lock sees to that for ordinary
intents; a start by the system resets the lock, replaces the interface, and then takes the answer that
the core is already running for a failure, which stops everything.
-/

namespace ZeroVpn
namespace VpnService

variable {s : VpnService} {d : Delivery}

/-- The core runs and the interface it was given is open. -/
def Serving (s : VpnService) : Prop :=
  s.manager.isRunning = true ∧
    ∃ fd, s.manager.currentVpnInterface = some fd ∧ fd ∈ s.openInterfaces

/-- The core runs on the interface of the service, which is open, and nothing is being stopped. -/
structure Running (s : VpnService) : Prop where
  running : s.manager.isRunning = true
  given : ∃ fd, s.manager.currentVpnInterface = some fd ∧ s.mInterface = some fd ∧
    fd ∈ s.openInterfaces
  stopping : s.stopping = false

theorem Running.serving (h : s.Running) : s.Serving := by
  obtain ⟨fd, hgiven, -, hopen⟩ := h.given
  exact ⟨h.running, fd, hgiven, hopen⟩

/-- If the interface of the core is still open, it is the one of the service. -/
def Holds (s : VpnService) : Prop :=
  ∀ fd, s.manager.currentVpnInterface = some fd → fd ∈ s.openInterfaces → s.mInterface = some fd

theorem Running.holds (h : s.Running) : s.Holds := by
  intro fd hfd _
  obtain ⟨fd', hgiven, hown, -⟩ := h.given
  rw [hgiven] at hfd
  rw [hown, hfd]

/-! ## What stops the service -/

theorem mem_closeInterface {fd : Nat} :
    fd ∈ s.closeInterface.openInterfaces ↔ fd ∈ s.openInterfaces ∧ some fd ≠ s.mInterface := by
  unfold closeInterface
  rw [List.mem_filter, decide_eq_true_eq]

theorem not_serving_stopAllService (h : s.Holds) : ¬s.stopAllService.Serving := by
  rintro ⟨-, fd, hgiven, hopen⟩
  unfold stopAllService stopCoreLoop at hgiven hopen
  obtain ⟨hopen, hother⟩ := mem_closeInterface.mp hopen
  split at hgiven
  · cases hgiven
  · next hservice =>
    rw [if_neg hservice] at hopen hother
    exact hother (h fd hgiven hopen).symm

theorem Holds.closeInterface (h : s.Holds) : s.closeInterface.Holds := by
  intro fd hgiven hopen
  exact h fd hgiven (mem_closeInterface.mp hopen).1

/-- Replacing the interface leaves the one of the core closed. -/
theorem Holds.establish (h : s.Holds) (fd : Nat) :
    ({ s.closeInterface with mInterface := some fd, isRunning := true
                             openInterfaces := fd :: s.closeInterface.openInterfaces } :
      VpnService).Holds := by
  intro fd' hgiven hopen
  rcases List.mem_cons.mp hopen with rfl | hopen
  · rfl
  · obtain ⟨hopen, hother⟩ := mem_closeInterface.mp hopen
    exact absurd (h fd' hgiven hopen).symm hother

/-- The core is already running, which counts as a failure. -/
theorem not_serving_startService {input : Input} (hrunning : s.manager.isRunning = true)
    (h : s.Holds) {fd : Nat} (hinterface : s.mInterface = some fd) :
    ¬(s.startService input).Serving := by
  unfold startService
  split
  · next hnone =>
    rw [hinterface] at hnone
    cases hnone
  · rw [startCoreLoop, if_pos hrunning]
    exact not_serving_stopAllService h

/-- Setting up the service again either stops it or replaces its interface. -/
theorem setupVpnService_cases (hprepared : d.prepared = true) (hrunning : s.manager.isRunning = true)
    (h : s.Holds) : ∃ s', (setupVpnService d s = (s', none) ∧ s'.Holds) ∨
      (setupVpnService d s = (s', some false) ∧ ¬s'.Serving) ∨
      (setupVpnService d s = (s', some true) ∧ s'.Holds ∧ s'.manager.isRunning = true ∧
        ∃ fd, s'.mInterface = some fd) := by
  unfold setupVpnService configureVpnService
  rw [hprepared, if_neg (by decide)]
  cases hconfigures : d.configures with
  | false => exact ⟨s, .inl ⟨rfl, h⟩⟩
  | true =>
    rw [if_neg (by decide)]
    cases hplatform : d.configuresPlatform with
    | false => exact ⟨s.closeInterface, .inl ⟨rfl, h.closeInterface⟩⟩
    | true =>
      rw [if_neg (by decide)]
      cases d.established with
      | none =>
        exact ⟨_, .inr (.inl ⟨rfl, not_serving_stopAllService h.closeInterface⟩)⟩
      | some fd =>
        dsimp only
        split
        · exact ⟨_, .inr (.inr ⟨rfl, h.establish fd, hrunning, fd, rfl⟩)⟩
        · exact ⟨_, .inr (.inr ⟨rfl, h.establish fd, hrunning, fd, rfl⟩)⟩

/-- A start command that gets the lock ends the service. -/
theorem not_serving_unlocked (hprepared : d.prepared = true) (hrunning : s.manager.isRunning = true)
    (h : s.Holds)
    (hlock : (d.intent.isSystemVpnStart = false ∧ s.isStartingLock = true) → False) :
    ¬(onStartCommand d s).1.Serving := by
  obtain ⟨s', hcases⟩ := setupVpnService_cases (s := { s with isStartingLock := true }) hprepared
    hrunning h
  have hdo : doStartCommand d s =
      afterSetup d.input (setupVpnService d { s with isStartingLock := true }) := by
    unfold doStartCommand
    cases hsystem : d.intent.isSystemVpnStart with
    | true => rfl
    | false =>
      have hfree : ¬s.isStartingLock = true := fun hheld => hlock ⟨hsystem, hheld⟩
      exact if_neg hfree
  unfold onStartCommand
  rw [hdo]
  rcases hcases with ⟨hsetup, hholds⟩ | ⟨hsetup, hstopped⟩ | ⟨hsetup, hholds, hruns, fd, hfd⟩
  · rw [hsetup]
    exact not_serving_stopAllService hholds
  · rw [hsetup]
    exact hstopped
  · rw [hsetup]
    exact not_serving_startService hruns hholds hfd

/-- A start command that finds the lock held does nothing. -/
theorem onStartCommand_locked (hintent : d.intent = .ordinary) (hlock : s.isStartingLock = true) :
    onStartCommand d s = (s, .notSticky) := by
  have hdo : doStartCommand d s = (s, some .notSticky) := by
    unfold doStartCommand
    rw [hintent]
    exact if_pos hlock
  unfold onStartCommand
  rw [hdo]

theorem isSystemVpnStart_eq_false {intent : StartIntent} :
    intent.isSystemVpnStart = false ↔ intent = .ordinary := by
  cases intent <;> decide

/-- One delivery to a running VPN. -/
theorem deliver_cases (h : s.Running) (hprepared : d.prepared = true) :
    (d.intent = .ordinary ∧ s.isStartingLock = true ∧ s.deliver d = s) ∨
      (¬(d.intent = .ordinary ∧ s.isStartingLock = true) ∧ ¬(s.deliver d).Serving) := by
  have hsame : (if d.stopFinished then s.finishStop else s) = s := by
    unfold finishStop
    rw [h.stopping, if_neg Bool.false_ne_true, ite_self]
  unfold deliver
  rw [hsame]
  by_cases hlocked : d.intent = .ordinary ∧ s.isStartingLock = true
  · exact .inl ⟨hlocked.1, hlocked.2, by rw [onStartCommand_locked hlocked.1 hlocked.2]⟩
  · refine .inr ⟨hlocked, not_serving_unlocked hprepared h.running h.holds ?_⟩
    rw [isSystemVpnStart_eq_false]
    exact hlocked

end VpnService

open VpnService

/-- With the permission granted, start commands leave a running VPN running after each of them if and
only if the start lock is held at the beginning and all of them are ordinary intents. -/
theorem start_commands_keep_vpn_iff (s : VpnService) (h : s.Running) (deliveries : List Delivery)
    (hprepared : ∀ d ∈ deliveries, d.prepared = true) :
    Run.Always deliver Serving s deliveries ↔
      deliveries = [] ∨ (s.isStartingLock = true ∧ ∀ d ∈ deliveries, d.intent = .ordinary) := by
  induction deliveries with
  | nil => exact iff_of_true h.serving (.inl rfl)
  | cons d deliveries ih =>
    rw [List.forall_mem_cons] at hprepared
    rw [or_iff_right (List.cons_ne_nil _ _), List.forall_mem_cons]
    rcases deliver_cases h hprepared.1 with ⟨hintent, hlock, hsame⟩ | ⟨hfree, hstopped⟩
    · rw [Run.Always, hsame, ih hprepared.2]
      constructor
      · rintro ⟨-, rfl | ⟨-, hrest⟩⟩
        · exact ⟨hlock, hintent, List.forall_mem_nil _⟩
        · exact ⟨hlock, hintent, hrest⟩
      · rintro ⟨-, -, hrest⟩
        exact ⟨h.serving, .inr ⟨hlock, hrest⟩⟩
    · refine iff_of_false ?_ ?_
      · rintro ⟨-, hafter⟩
        exact hstopped hafter.first
      · rintro ⟨hlock, hintent, -⟩
        exact hfree ⟨hintent, hlock⟩

/-- A service on which the core runs. -/
def onlineVpn : VpnService where
  manager := { hasService := true, currentVpnInterface := some 1, coreRunning := true }
  isStartingLock := true
  isRunning := true
  mInterface := some 1
  openInterfaces := [1]

theorem onlineVpn_running : onlineVpn.Running :=
  ⟨rfl, ⟨1, rfl, rfl, List.mem_cons_self⟩, rfl⟩

/-- A delivery for which everything outside works. -/
def workingDelivery (intent : StartIntent) : Delivery where
  intent := intent
  input := { env := plainEnv [] [], starts := true }
  established := some 2

/-- The system starts an always-on VPN that is running: no interface is left open. -/
theorem null_intent_stops : onlineVpn.Running ∧
    ¬(onlineVpn.deliver (workingDelivery .null)).Serving ∧
    (onlineVpn.deliver (workingDelivery .null)).openInterfaces = [] := by
  refine ⟨onlineVpn_running, ?_, rfl⟩
  rcases deliver_cases (d := workingDelivery .null) onlineVpn_running rfl with
    ⟨hintent, -⟩ | ⟨-, hstopped⟩
  · cases hintent
  · exact hstopped

theorem ordinary_intents_keep : Run.Always deliver Serving onlineVpn
    [workingDelivery .ordinary, workingDelivery .ordinary] := by
  refine (start_commands_keep_vpn_iff onlineVpn onlineVpn_running _ ?_).mpr (.inr ⟨rfl, ?_⟩)
  · simp [workingDelivery]
  · simp [workingDelivery]

end ZeroVpn
