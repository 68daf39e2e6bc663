import ZeroVpn.Std.Run
import ZeroVpn.Std.Tally

/-!
# The control sockets of the browser dialer

`DialerNativeService` keeps one idle control socket, on which the core sends a task. The coroutines
that call `openControlSocket` and the callbacks of the sockets run at the same time: every access to
an atomic field, to the set of sockets and to the client is a step, and the steps interleave freely.
The callbacks of a socket come in any order. What the handlers of an accepted task do is left out;
they touch none of these fields.
-/

namespace ZeroVpn.DialerNativeService
open Tally

/-- `controlSocketState` -/
inductive ControlSocketState
  | idle | opening
deriving DecidableEq

/-- The next statement of an `onMessage` that has accepted its task. -/
inductive Accepting
  | resetState | openNext
deriving DecidableEq

/-- The next statement of a `cleanup` that has set `closed`. -/
inductive Cleaning
  | removeSocket | readAccepted | resetState | openNext
deriving DecidableEq

/-- A control socket with its listener. -/
structure ControlSocket where
  taskAccepted : Bool := false
  closed : Bool := false
  /-- The client called `close` on the socket. -/
  closeCalled : Bool := false
  accepting : Option Accepting := none
  cleaning : Option Cleaning := none
deriving DecidableEq

/-- Neither accepted nor cleaned up. -/
def ControlSocket.isIdle (k : ControlSocket) : Bool := !k.taskAccepted && !k.closed

/-- Who called `openControlSocket`: the loop of `start`, or a coroutine of
`tryOpenNextControlSocket`. -/
inductive Caller
  | loop | launched
deriving DecidableEq

/-- The next statement of a coroutine. -/
inductive Coroutine
  /-- `resolveControlWsUrl` -/
  | resolve
  /-- `while (isActive && running.get())` -/
  | loop
  /-- `if (running.get())` -/
  | launched
  -- in `openControlSocket`
  | readClient (caller : Caller)
  | readRunning (caller : Caller)
  | readUrl (caller : Caller)
  | compareAndSet (caller : Caller)
  | buildRequest (caller : Caller)
  | newWebSocket (caller : Caller)
  | addSocket (caller : Caller) (socket : Nat)
  | resetState (caller : Caller)
deriving DecidableEq

/-- The loop goes on after `openControlSocket`. -/
def Caller.next : Caller → Option Coroutine
  | .loop => some .loop
  | .launched => none

/-- The sockets are numbered in the order in which they were created. -/
structure State where
  running : Bool := false
  /-- `client` is not null. -/
  client : Bool := false
  controlUrl : Option String := none
  controlSocketState : ControlSocketState := .idle
  controlSockets : List Nat := []
  sockets : List ControlSocket := []
  coroutines : List Coroutine := []
deriving DecidableEq

/-- What a coroutine finds outside. -/
structure Input where
  /-- The control URL, if the dialer's page has one. -/
  resolved : Option String := none
  /-- The URL is one of a request; otherwise an exception ends the coroutine. -/
  urlValid : Bool := true
  /-- `newWebSocket` does not throw. -/
  created : Bool := true

/-- `start` of a new instance, whose `stop` finds nothing to stop. -/
def start (dialerAddr : String) : State :=
  if dialerAddr = "" then {} else { running := true, client := true, coroutines := [.resolve] }

def Coroutine.step (input : Input) (s : State) : Coroutine → State × Option Coroutine
  | .resolve =>
    match input.resolved with
    | none => ({ s with running := false }, none)
    | some url => ({ s with controlUrl := some url }, some (.readClient .loop))
  | .loop => (s, if s.running then some (.readClient .loop) else none)
  | .launched => (s, if s.running then some (.readClient .launched) else none)
  | .readClient caller => (s, if s.client then some (.readRunning caller) else caller.next)
  | .readRunning caller => (s, if s.running then some (.readUrl caller) else caller.next)
  | .readUrl caller => (s, if s.controlUrl.isSome then some (.compareAndSet caller) else caller.next)
  | .compareAndSet caller =>
    match s.controlSocketState with
    | .idle => ({ s with controlSocketState := .opening }, some (.buildRequest caller))
    | .opening => (s, caller.next)
  | .buildRequest caller => (s, if input.urlValid then some (.newWebSocket caller) else none)
  | .newWebSocket caller =>
    if input.created then
      ({ s with sockets := s.sockets ++ [{}] }, some (.addSocket caller s.sockets.length))
    else (s, some (.resetState caller))
  | .addSocket caller socket =>
    ({ s with controlSockets := s.controlSockets ++ [socket] }, caller.next)
  | .resetState caller => ({ s with controlSocketState := .idle }, caller.next)

/-- `onMessage` of a text, up to `taskAccepted.compareAndSet`. -/
def ControlSocket.onText (k : ControlSocket) : ControlSocket :=
  if k.taskAccepted then k else { k with taskAccepted := true, accepting := some .resetState }

/-- `onMessage` of bytes: a socket that waits for a task is closed. -/
def ControlSocket.onBinary (k : ControlSocket) : ControlSocket :=
  if k.taskAccepted then k else { k with closeCalled := true }

/-- `cleanup`, which `onClosed` and `onFailure` call, up to `closed.compareAndSet`. -/
def ControlSocket.cleanup (k : ControlSocket) : ControlSocket :=
  if k.closed then k else { k with closed := true, cleaning := some .removeSocket }

namespace State

/-- A call of the listener of a socket. -/
def call (s : State) (i : Nat) (callback : ControlSocket → ControlSocket) : State :=
  match s.sockets[i]? with
  | none => s
  | some k => { s with sockets := s.sockets.set i (callback k) }

/-- The next statement of `onMessage`. -/
def accept (s : State) (i : Nat) (k : ControlSocket) : State :=
  match k.accepting with
  | none => s
  | some .resetState =>
    { s with
      controlSocketState := .idle
      sockets := s.sockets.set i { k with accepting := some .openNext } }
  | some .openNext =>
    { s with
      sockets := s.sockets.set i { k with accepting := none }
      coroutines := s.coroutines ++ [.launched] }

/-- The next statement of `cleanup`. -/
def clean (s : State) (i : Nat) (k : ControlSocket) : State :=
  match k.cleaning with
  | none => s
  | some .removeSocket =>
    { s with
      controlSockets := s.controlSockets.erase i
      sockets := s.sockets.set i { k with cleaning := some .readAccepted } }
  | some .readAccepted =>
    let next := if k.taskAccepted then none else some .resetState
    { s with sockets := s.sockets.set i { k with cleaning := next } }
  | some .resetState =>
    { s with
      controlSocketState := .idle
      sockets := s.sockets.set i { k with cleaning := some .openNext } }
  | some .openNext =>
    { s with
      sockets := s.sockets.set i { k with cleaning := none }
      coroutines := s.coroutines ++ [.launched] }

inductive Action
  /-- The next statement of a coroutine; each tick of the maintenance loop is a sequence of them. -/
  | coroutine (i : Nat) (input : Input)
  | onText (socket : Nat)
  | onBinary (socket : Nat)
  | onClosed (socket : Nat)
  | onFailure (socket : Nat)
  /-- A callback goes on. -/
  | accept (socket : Nat)
  | clean (socket : Nat)

/-- An action that is not possible changes nothing. -/
def step (s : State) : Action → State
  | .coroutine i input =>
    match s.coroutines[i]? with
    | none => s
    | some c =>
      let r := c.step input s
      { r.1 with coroutines := replace s.coroutines i r.2 }
  | .onText socket => s.call socket .onText
  | .onBinary socket => s.call socket .onBinary
  | .onClosed socket | .onFailure socket => s.call socket .cleanup
  | .accept socket => match s.sockets[socket]? with | none => s | some k => s.accept socket k
  | .clean socket => match s.sockets[socket]? with | none => s | some k => s.clean socket k

end State
end ZeroVpn.DialerNativeService
