import ZeroVpn.Service.DialerNativeService

/-!
# One idle control socket

`controlSocketState` works like a permit. A coroutine takes it with `compareAndSet` and hands it on
to the socket it creates; the socket keeps it while it is idle, and hands it on to the callback that
accepts a task or cleans up, which gives it back. At every moment the holders are at most as many as
the permits taken, so that there are no two idle sockets, and none while the state is IDLE.

`onMessage` does not look at `closed`. A first text after the `cleanup` of its socket would give a
permit back that another socket may have by then.
-/

namespace ZeroVpn.DialerNativeService
open Tally ControlSocket Coroutine

/-- The permits that are taken. -/
def ControlSocketState.taken : ControlSocketState → Nat
  | .idle => 0
  | .opening => 1

theorem ControlSocketState.taken_le (state : ControlSocketState) : state.taken ≤ 1 := by
  cases state <;> decide

/-- The permits a coroutine holds. -/
def Coroutine.holds : Coroutine → Nat
  | .buildRequest _ | .newWebSocket _ | .resetState _ => 1
  | _ => 0

def Accepting.holds : Accepting → Nat
  | .resetState => 1
  | .openNext => 0

/-- A `cleanup` gives back the permit of a socket without a task only. -/
def Cleaning.holds (taskAccepted : Bool) : Cleaning → Nat
  | .removeSocket | .readAccepted => if taskAccepted then 0 else 1
  | .resetState => 1
  | .openNext => 0

/-- The permits a socket and its callbacks hold. -/
def ControlSocket.holds (k : ControlSocket) : Nat :=
  (if k.isIdle then 1 else 0) + k.accepting.elim 0 Accepting.holds +
    k.cleaning.elim 0 (Cleaning.holds k.taskAccepted)

namespace State

def holders (s : State) : Nat := tally ControlSocket.holds s.sockets + tally Coroutine.holds s.coroutines

def Inv (s : State) : Prop := s.holders ≤ s.controlSocketState.taken

/-- No socket gets its first text when it is being cleaned up, or later. -/
def InTime (s : State) : Action → Prop
  | .onText socket => ∀ k ∈ s.sockets[socket]?, k.closed = true → k.taskAccepted = true
  | _ => True

instance (s : State) (action : Action) : Decidable (s.InTime action) := by
  unfold InTime
  cases action <;> infer_instance

end State

/-! ## One step -/

section
variable {s : State} {i n : Nat} {k : ControlSocket}

theorem Caller.next_holds (caller : Caller) : caller.next.elim 0 Coroutine.holds = 0 := by
  cases caller <;> rfl

/-- A coroutine passes its permit on, or gives it back; `n` are the permits of the others. -/
theorem Coroutine.step_holds (input : Input) (c : Coroutine)
    (h : tally ControlSocket.holds s.sockets + c.holds + n ≤ s.controlSocketState.taken) :
    tally ControlSocket.holds (c.step input s).1.sockets +
        (c.step input s).2.elim 0 Coroutine.holds + n ≤
      (c.step input s).1.controlSocketState.taken := by
  cases c with
  | resolve =>
    rw [step]
    split <;> exact h
  | loop | launched =>
    rw [step]
    split <;> exact h
  | readClient caller | readRunning caller | readUrl caller =>
    rw [step]
    split
    · exact h
    · rw [caller.next_holds]
      exact h
  | compareAndSet caller =>
    rw [step]
    cases hstate : s.controlSocketState with
    | idle =>
      rw [hstate] at h
      change _ + 0 + n ≤ 0 at h
      change tally ControlSocket.holds s.sockets + 1 + n ≤ 1
      omega
    | opening =>
      rw [caller.next_holds]
      exact h
  | buildRequest caller =>
    rw [step]
    split
    · exact h
    · exact le_trans (by simp [Coroutine.holds]) h
  | newWebSocket caller =>
    rw [step]
    split
    · -- the new socket has the permit
      rw [tally_append]
      exact h
    · exact h
  | addSocket caller socket =>
    rw [step]
    rw [caller.next_holds]
    exact h
  | resetState caller =>
    rw [step]
    dsimp only
    rw [caller.next_holds]
    have hone := s.controlSocketState.taken_le
    change _ + 1 + n ≤ _ at h
    omega

/-- A socket passes its permit on when it accepts a task, unless it is cleaned up. -/
theorem ControlSocket.onText_holds (h : k.closed = true → k.taskAccepted = true) :
    k.onText.holds ≤ k.holds := by
  unfold onText
  split
  · exact Nat.le_refl _
  · next haccepted =>
    have hopen : k.closed = false := Bool.eq_false_iff.mpr fun hclosed => haccepted (h hclosed)
    have hidle : k.isIdle = true := by simp [isIdle, haccepted, hopen]
    have hcleaning : k.cleaning.elim 0 (Cleaning.holds true) ≤
        k.cleaning.elim 0 (Cleaning.holds k.taskAccepted) := by
      rcases k.cleaning with _ | (_ | _ | _ | _) <;> simp [Cleaning.holds]
    unfold holds
    rw [hidle]
    change 0 + 1 + k.cleaning.elim 0 (Cleaning.holds true) ≤ 1 + _ + _
    omega

theorem ControlSocket.onBinary_holds : k.onBinary.holds = k.holds := by
  unfold onBinary
  split <;> rfl

/-- And so it does when it is cleaned up. -/
theorem ControlSocket.cleanup_holds : k.cleanup.holds ≤ k.holds := by
  unfold cleanup
  split
  · exact Nat.le_refl _
  · next hopen =>
    unfold holds isIdle
    cases haccepted : k.taskAccepted <;> simp [hopen, Cleaning.holds]
    omega

end

namespace State

section
variable {s : State} {i : Nat} {k k' : ControlSocket}

/-- A step of a callback: what the socket gives up may be given back. -/
theorem Inv.of_socket {s' : State} (h : s.Inv) (hk : s.sockets[i]? = some k)
    (hsockets : s'.sockets = s.sockets.set i k')
    (hcoroutines : tally Coroutine.holds s'.coroutines = tally Coroutine.holds s.coroutines)
    (hholds : k'.holds + s.controlSocketState.taken ≤ k.holds + s'.controlSocketState.taken) :
    s'.Inv := by
  have hset := tally_set ControlSocket.holds hk k'
  unfold Inv holders at h ⊢
  rw [hsockets]
  omega

theorem tally_launch (s : State) :
    tally Coroutine.holds (s.coroutines ++ [.launched]) = tally Coroutine.holds s.coroutines :=
  tally_append _ _

theorem Inv.call (h : s.Inv) (i : Nat) {callback : ControlSocket → ControlSocket}
    (hholds : ∀ k ∈ s.sockets[i]?, (callback k).holds ≤ k.holds) : (s.call i callback).Inv := by
  unfold State.call
  split
  · exact h
  · next k hk => exact h.of_socket hk rfl rfl (Nat.add_le_add_right (hholds k hk) _)

theorem Inv.accept (h : s.Inv) (hk : s.sockets[i]? = some k) : (s.accept i k).Inv := by
  have htaken := s.controlSocketState.taken_le
  unfold State.accept
  split
  · exact h
  · next haccepting =>
    -- the permit is given back
    refine h.of_socket hk rfl rfl ?_
    unfold ControlSocket.holds
    rw [haccepting]
    change _ + 0 + k.cleaning.elim 0 (Cleaning.holds k.taskAccepted) + _ ≤ _ + 1 + _ + 0
    change (if k.isIdle then 1 else 0) + 0 + _ + _ ≤ _
    omega
  · next haccepting =>
    refine h.of_socket hk rfl (tally_launch s) ?_
    unfold ControlSocket.holds
    rw [haccepting]
    exact Nat.le_refl _

theorem Inv.clean (h : s.Inv) (hk : s.sockets[i]? = some k) : (s.clean i k).Inv := by
  have htaken := s.controlSocketState.taken_le
  unfold State.clean
  split
  · exact h
  · next hcleaning =>
    refine h.of_socket hk rfl rfl ?_
    unfold ControlSocket.holds
    rw [hcleaning]
    exact Nat.le_refl _
  · next hcleaning =>
    refine h.of_socket hk rfl rfl ?_
    unfold ControlSocket.holds
    rw [hcleaning]
    cases haccepted : k.taskAccepted <;> simp [isIdle, haccepted, Cleaning.holds]
  · next hcleaning =>
    refine h.of_socket hk rfl rfl ?_
    unfold ControlSocket.holds
    rw [hcleaning]
    change (if k.isIdle then 1 else 0) + _ + 0 + _ ≤ _ + _ + 1 + 0
    dsimp only
    omega
  · next hcleaning =>
    refine h.of_socket hk rfl (tally_launch s) ?_
    unfold ControlSocket.holds
    rw [hcleaning]
    exact Nat.le_refl _

theorem Inv.step (h : s.Inv) (action : Action) (htime : s.InTime action) : (s.step action).Inv := by
  cases action with
  | coroutine i input =>
    rw [State.step]
    cases hc : s.coroutines[i]? with
    | none => exact h
    | some c =>
      have hreplace := tally_replace Coroutine.holds hc (c.step input s).2
      have hle := le_tally (w := Coroutine.holds) (List.mem_of_getElem? hc)
      unfold Inv holders at h ⊢
      have hbefore : tally ControlSocket.holds s.sockets + c.holds +
          (tally Coroutine.holds s.coroutines - c.holds) ≤ s.controlSocketState.taken := by omega
      have hstep := step_holds input c hbefore
      dsimp only
      omega
  | onText socket => exact h.call socket fun k hk => onText_holds (htime k hk)
  | onBinary socket => exact h.call socket fun k _ => Nat.le_of_eq onBinary_holds
  | onClosed socket | onFailure socket =>
    exact h.call socket fun k _ => cleanup_holds
  | accept socket =>
    rw [State.step]
    split
    · exact h
    · next k hk => exact h.accept hk
  | clean socket =>
    rw [State.step]
    split
    · exact h
    · next k hk => exact h.clean hk

end
end State

/-! ## Runs -/

/-- At most one socket is idle, and none while the state is IDLE. -/
def State.OneIdle (s : State) : Prop :=
  s.sockets.countP isIdle ≤ 1 ∧
    (s.controlSocketState = .idle → s.sockets.countP isIdle = 0)

instance (s : State) : Decidable s.OneIdle := inferInstanceAs (Decidable (_ ∧ _))

/-- Over every interleaving in which no socket gets its first text after its `onClosed` or
`onFailure`, at every moment at most one control socket has neither accepted a task nor been cleaned
up, and while the state is IDLE there is none. -/
theorem one_idle_socket (dialerAddr : String) (actions : List State.Action)
    (htime : Run.StepsMeet State.step State.InTime (start dialerAddr) actions) :
    Run.Always State.step State.OneIdle (start dialerAddr) actions := by
  have hinit : (start dialerAddr).Inv := by
    unfold start
    split <;> exact Nat.le_refl _
  refine (Run.always_of_stepsMeet (fun s action hinv => hinv.step action) hinit htime).imp
    fun s hinv => ?_
  have hcount : s.sockets.countP ControlSocket.isIdle ≤ tally ControlSocket.holds s.sockets := by
    refine countP_le_tally fun k hk => ?_
    unfold ControlSocket.holds
    rw [hk]
    change 1 ≤ 1 + _ + _
    omega
  have htaken := s.controlSocketState.taken_le
  unfold State.Inv State.holders at hinv
  refine ⟨by omega, fun hidle => ?_⟩
  rw [hidle] at hinv
  change _ ≤ 0 at hinv
  omega

/-- The loop opens a socket: its first seven steps. -/
def openFirst : List State.Action :=
  List.replicate 7 (.coroutine 0 { resolved := some "ws://127.0.0.1:8080/websocket?token=t" })

/-- Bytes come first and the client closes the socket; the task that was on its way is accepted, and
then the socket is closed. -/
theorem task_after_close_one_idle :
    Run.Always State.step State.OneIdle (start "127.0.0.1:8080")
      (openFirst ++ [.onBinary 0, .onText 0, .accept 0, .onClosed 0, .clean 0, .clean 0]) :=
  one_idle_socket _ _ (by decide)

/-- The client closes the first socket, which fails, and the coroutine that its `cleanup` launches
opens another one. Then the text that was on its way on the first socket is delivered. -/
def textAfterFailure : List State.Action :=
  openFirst ++ [.onBinary 0, .onFailure 0, .clean 0, .clean 0, .clean 0, .clean 0] ++
    List.replicate 7 (.coroutine 1 {}) ++ [.onText 0, .accept 0]

/-- The state is IDLE while the second socket is idle, and the loop opens a third one. -/
theorem text_after_failure_two_idle :
    let s := textAfterFailure.foldl State.step (start "127.0.0.1:8080")
    s.controlSocketState = .idle ∧ s.sockets.countP isIdle = 1 ∧
      ((List.replicate 8 (.coroutine 0 {})).foldl State.step s).sockets.countP
        isIdle = 2 := by
  decide

end ZeroVpn.DialerNativeService
