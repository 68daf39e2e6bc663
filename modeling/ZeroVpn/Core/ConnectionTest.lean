import ZeroVpn.Core.CoreLifecycle
import ZeroVpn.Std.Tally

/-!
# Connection tests

`measureV2rayDelay` answers a request at once, or cancels the running tests and launches a coroutine
that measures the delay. A stop and a reload of the core cancel the tests, too. The statements of the
requests, of the cancellations and of the coroutines interleave freely with each other and with the
steps of `Lifecycle`.

A cancelled coroutine goes on to its next check (`ensureActive`, or the entry into `withContext`). One
that is cancelled at any time before it completes completes with a `CancellationException`, also if a
`catch` clause in it has swallowed the exception; its completion handler answers then.
-/

namespace ZeroVpn
open Tally

structure ConnectionTestResult where
  delayMillis : Int
  errorMessage : String
  country : Option String
  ipAddress : Option String
deriving DecidableEq

/-- What is sent to the user interface for a request: `MSG_MEASURE_DELAY_RESULT` or
`MSG_MEASURE_DELAY_CANCEL`. -/
inductive DelayAnswer
  | result (result : ConnectionTestResult)
  | cancel
deriving DecidableEq

structure SentAnswer where
  requestId : String
  answer : DelayAnswer
deriving DecidableEq

namespace ConnectionTest

/-- The text after the first occurrence of the separator, or the whole text if there is none. -/
def substringAfter (sep : List Char) (cs : List Char) : List Char :=
  match cs.tails.find? sep.isPrefixOf with
  | some rest => rest.drop sep.length
  | none => cs

/-- The error text of an exception. -/
def errorText (message : Option String) : String :=
  Text.orEmpty (message.map fun text => String.ofList (substringAfter ['"', ':'] text.toList))

/-- What a statement of a test finds outside. -/
structure Input where
  /-- The delay, or the message of the exception of `measureDelay`. -/
  measured : Except (Option String) Int := .ok 0
  /-- The country and the address that `getRemoteIPInfo` returns, if it does. -/
  endpoint : Option (Option String × Option String) := none

/-- The next statement of the coroutine of a test. -/
inductive Step
  /-- Launched, and not started. -/
  | launched
  | measure
  /-- `ensureActive`, before the second URL. -/
  | checkRetry (errorStr : String)
  | measureAgain (errorStr : String)
  /-- `ensureActive` -/
  | checkActive (time : Int) (errorStr : String)
  | lookup (time : Int) (errorStr : String)
  -- `withContext`: the entry, and the start of the block on the main thread
  | enterMain (result : ConnectionTestResult)
  | startBlock (result : ConnectionTestResult)
  -- in the block
  | readRunning (result : ConnectionTestResult)
  | sendResult (result : ConnectionTestResult)
  | sendCancel
  /-- The return from `withContext`; an exception there is caught. -/
  | leaveMain
  | complete
  /-- Completed, because of a cancellation or not; the completion handler is to be called. -/
  | completed (cancelled : Bool)
  | over
deriving DecidableEq

/-- A child of `connectionTestScope`. -/
structure Test where
  requestId : String
  step : Step := .launched
  cancelled : Bool := false
  /-- `invokeOnCompletion` was called. -/
  registered : Bool := false
deriving DecidableEq

namespace Test

/-- A completed coroutine is not cancelled. -/
def cancel (t : Test) : Test :=
  match t.step with
  | .completed _ | .over => t
  | _ => { t with cancelled := true }

/-- The statement after a check for cancellation. -/
def unlessCancelled (t : Test) (next : Step) : Test :=
  { t with step := if t.cancelled then .complete else next }

/-- The statement of the coroutine, and what it sends. -/
def advance (isRunning : Bool) (input : Input) (t : Test) : Test × List SentAnswer :=
  match t.step with
  | .launched => (t.unlessCancelled .measure, [])
  | .measure =>
    match input.measured with
    | .ok time => ({ t with step := if time = -1 then .checkRetry "" else .checkActive time "" }, [])
    | .error message => ({ t with step := .checkRetry (errorText message) }, [])
  | .checkRetry errorStr => (t.unlessCancelled (.measureAgain errorStr), [])
  | .measureAgain errorStr =>
    match input.measured with
    | .ok time => ({ t with step := .checkActive time errorStr }, [])
    | .error message => ({ t with step := .checkActive (-1) (errorText message) }, [])
  | .checkActive time errorStr => (t.unlessCancelled (.lookup time errorStr), [])
  | .lookup time errorStr =>
    let endpoint := if 0 ≤ time then input.endpoint else none
    let result : ConnectionTestResult :=
      { delayMillis := time
        errorMessage := errorStr
        country := endpoint.bind (·.1)
        ipAddress := endpoint.bind (·.2) }
    ({ t with step := .enterMain result }, [])
  | .enterMain result => (t.unlessCancelled (.startBlock result), [])
  | .startBlock result => (t.unlessCancelled (.readRunning result), [])
  | .readRunning result =>
    ({ t with step := if isRunning then .sendResult result else .sendCancel }, [])
  | .sendResult result => ({ t with step := .leaveMain }, [⟨t.requestId, .result result⟩])
  | .sendCancel => ({ t with step := .leaveMain }, [⟨t.requestId, .cancel⟩])
  | .leaveMain => ({ t with step := .complete }, [])
  | .complete => ({ t with step := .completed t.cancelled }, [])
  | .completed cancelled =>
    if t.registered then
      ({ t with step := .over }, if cancelled then [⟨t.requestId, .cancel⟩] else [])
    else (t, [])
  | .over => (t, [])

end Test

/-- The next statement of a `measureV2rayDelay`, or of a `cancelChildren` of another function. -/
inductive Call
  | readAwg (requestId : String)
  | readRunning (requestId : String)
  | readReloading (requestId : String)
  | sendCancel (requestId : String)
  /-- `cancelChildren`; a request goes on with `launch`. -/
  | cancelChildren (request : Option String)
  /-- The children that are not cancelled yet. -/
  | cancel (children : List Nat) (request : Option String)
  | launch (requestId : String)
  /-- `invokeOnCompletion` -/
  | register (test : Nat)
deriving DecidableEq

end ConnectionTest

/-- The core, the tests in the order in which they were launched, the calls that have not finished, the
requests that came, and the answers that were sent. -/
structure ConnectionTests where
  core : Lifecycle := { manager := { hasService := true } }
  tests : List ConnectionTest.Test := []
  calls : List ConnectionTest.Call := []
  requested : List String := []
  sent : List SentAnswer := []

namespace ConnectionTests
open ConnectionTest

/-- Something happens to a test. -/
def update (s : ConnectionTests) (i : Nat) (f : Test → Test) : ConnectionTests :=
  match s.tests[i]? with
  | none => s
  | some t => { s with tests := s.tests.set i (f t) }

/-- A statement of a call, and the one after it. -/
def callStep (s : ConnectionTests) : Call → ConnectionTests × Option Call
  | .readAwg requestId =>
    (s, some (if s.core.manager.awgIsActive then .sendCancel requestId else .readRunning requestId))
  | .readRunning requestId =>
    (s, some (if s.core.manager.isRunning then .readReloading requestId else .sendCancel requestId))
  | .readReloading requestId =>
    (s, some (if s.core.manager.isReloading then .sendCancel requestId
      else .cancelChildren (some requestId)))
  | .sendCancel requestId => ({ s with sent := s.sent ++ [⟨requestId, .cancel⟩] }, none)
  | .cancelChildren request => (s, some (.cancel (List.range s.tests.length) request))
  | .cancel [] request => (s, request.map .launch)
  | .cancel (i :: children) request => (s.update i .cancel, some (.cancel children request))
  | .launch requestId =>
    ({ s with tests := s.tests ++ [{ requestId := requestId }] }, some (.register s.tests.length))
  | .register i => (s.update i fun t => { t with registered := true }, none)

/-- The step of the core is the one before a `cancelChildren`: the call of `stopCoreLoop`, or the
assignment of `isReloading` in `reloadCore`. -/
def cancelsTests (core : Lifecycle) : Lifecycle.Action → Bool
  | .stopCoreLoop => match core.service with | .idle => true | _ => false
  | .job i _ => match core.jobs[i]? with | some (.setReloading _) => true | _ => false
  | _ => false

inductive Action
  | core (action : Lifecycle.Action)
  | measureV2rayDelay (requestId : String)
  | call (i : Nat)
  | test (i : Nat) (input : ConnectionTest.Input)

/-- An action that is not possible changes nothing. -/
def step (s : ConnectionTests) : Action → ConnectionTests
  | .core action =>
    { s with
      core := s.core.step action
      calls := s.calls ++ if cancelsTests s.core action then [.cancelChildren none] else [] }
  | .measureV2rayDelay requestId =>
    { s with
      requested := s.requested ++ [requestId]
      calls := s.calls ++ if s.core.manager.hasService then [.readAwg requestId] else [] }
  | .call i =>
    match s.calls[i]? with
    | none => s
    | some call =>
      let r := s.callStep call
      { r.1 with calls := replace s.calls i r.2 }
  | .test i input =>
    match s.tests[i]? with
    | none => s
    | some t =>
      let r := t.advance s.core.manager.isRunning input
      { s with tests := s.tests.set i r.1, sent := s.sent ++ r.2 }

end ConnectionTests
end ZeroVpn
