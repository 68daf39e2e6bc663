import ZeroVpn.Std.Run
import ZeroVpn.Std.Tally

/-!
# Bulk tests

`CoreTestService` runs a worker for each request. The main thread handles the commands one after the
other; a worker has a coroutine for every server and one that waits for them and reports the end.
Every operation on `activeWorkers`, every message and every check is a step, and the steps of the main
thread and of the coroutines interleave freely.

`activeWorkers` maps a worker to the id of its request. It is kept as a field of the worker.
-/

namespace ZeroVpn.CoreTestService
open Tally

structure TestServiceMessage where
  subscriptionId : String := ""
  serverGuids : List String := []
deriving DecidableEq

/-- What is sent to the user interface. -/
inductive ConfigMessage
  /-- `MSG_MEASURE_CONFIG_SUCCESS` -/
  | success (guid : String) (delayMillis : Int)
  /-- `MSG_MEASURE_CONFIG_NOTIFY` -/
  | notify (text : String)
  /-- `MSG_MEASURE_CONFIG_FINISH` -/
  | finish (status : String)
  /-- `MSG_MEASURE_CONFIG_CANCEL` -/
  | cancel
deriving DecidableEq

structure Sent where
  requestId : String
  message : ConfigMessage
deriving DecidableEq

/-- The next statement of the coroutine of a server. -/
inductive JobStep
  /-- Launched, and not started. -/
  | launched
  /-- `startTcping` or `startRealPing` -/
  | measure
  /-- `if (scope.isActive)` -/
  | checkActive (delayMillis : Int)
  -- `onEvent(Result)`: `containsKey`, and the handler
  | containsResult (delayMillis : Int)
  | storeDelay (delayMillis : Int)
  | sendSuccess (delayMillis : Int)
  -- the `finally` clause
  | decrementTotal
  | decrementRunning (count : Int)
  | checkProgress (text : String)
  -- `onEvent(Progress)`
  | containsProgress (text : String)
  | sendNotify (text : String)
  | done
deriving DecidableEq

structure Job where
  guid : String
  step : JobStep := .launched
deriving DecidableEq

/-- The next statement of the coroutine that reports the end. -/
inductive FinisherStep
  | unlaunched
  | joinAll
  /-- `if (isActive)` -/
  | checkActive
  -- `onEvent(Finish)`: `containsKey`, and the handler
  | containsFinish
  /-- The group is cleaned up and sorted, if the settings say so. -/
  | tidyGroup
  | sendFinish
  | removeWorker
  | checkEmpty
  | close
  | done
deriving DecidableEq

structure Worker where
  requestId : String
  /-- The value in `activeWorkers`. -/
  entry : Option String
  /-- `cancel` was called. -/
  cancelled : Bool := false
  totalCount : Int := 0
  runningCount : Int := 0
  jobs : List Job := []
  finisher : FinisherStep := .unlaunched
deriving DecidableEq

inductive Command
  | start (message : TestServiceMessage) (requestId : String)
  /-- `handleMeasureCancel` -/
  | cancel
  | destroy
deriving DecidableEq

/-- The next statement of the command that the main thread handles. -/
inductive MainStep
  /-- `worker.start()`: the servers that have no coroutine yet. -/
  | launch (worker : Nat) (guids : List String)
  -- `cancelWorkers`: `remove`, `cancel` and the message, with the entries left
  | removeEntries (entries : List (Nat × String))
  | cancelWorker (worker : Nat) (requestId : String) (entries : List (Nat × String))
  | sendCancel (requestId : String) (entries : List (Nat × String))
deriving DecidableEq

structure State where
  workers : List Worker := []
  main : Option MainStep := none
  queue : List Command := []
  /-- The ids of the requests that came. -/
  requested : List String := []
  sent : List Sent := []
  /-- `encodeServerTestDelayMillis` -/
  delays : List (String × Int) := []
deriving DecidableEq

/-- The servers in the store. -/
structure Stored where
  groupServers : List String := []
  allServers : List String := []

def guidsList (message : TestServiceMessage) (stored : Stored) : List String :=
  if message.serverGuids ≠ [] then message.serverGuids
  else if message.subscriptionId ≠ "" then stored.groupServers
  else stored.allServers

namespace State

/-- `activeWorkers.entries` -/
def entries (s : State) : List (Nat × String) :=
  s.workers.zipIdx.filterMap fun (k, w) => k.entry.map (w, ·)

/-- Something happens to a worker. -/
def update (s : State) (w : Nat) (f : Worker → Worker) : State :=
  match s.workers[w]? with
  | none => s
  | some k => { s with workers := s.workers.set w (f k) }

def send (s : State) (requestId : String) (message : ConfigMessage) : State :=
  { s with sent := s.sent ++ [⟨requestId, message⟩] }

/-- The main thread begins a command. A request with servers gets a worker, which is entered in
`activeWorkers`; one without is answered at once. -/
def begin (s : State) (stored : Stored) : Command → State
  | .start message requestId =>
    match guidsList message stored with
    | [] => { s with main := some (.sendCancel requestId []) }
    | guids =>
      { s with
        workers := s.workers ++ [{ requestId := requestId, entry := some requestId }]
        main := some (.launch s.workers.length guids) }
  | .cancel | .destroy => { s with main := some (.removeEntries s.entries) }

/-- A statement of the main thread. -/
def mainStep (s : State) : MainStep → State
  | .launch w (guid :: guids) =>
    { s.update w fun k =>
        { k with totalCount := k.totalCount + 1, jobs := k.jobs ++ [{ guid := guid }] } with
      main := some (.launch w guids) }
  | .launch w [] => { s.update w fun k => { k with finisher := .joinAll } with main := none }
  | .removeEntries [] => { s with main := none }
  | .removeEntries ((w, requestId) :: entries) =>
    match s.workers[w]? with
    | none => { s with main := some (.removeEntries entries) }
    | some k =>
      if k.entry = some requestId then
        { s with
          workers := s.workers.set w { k with entry := none }
          main := some (.cancelWorker w requestId entries) }
      else { s with main := some (.removeEntries entries) }
  | .cancelWorker w requestId entries =>
    { s.update w fun k => { k with cancelled := true } with
      main := some (.sendCancel requestId entries) }
  | .sendCancel requestId entries =>
    { s.send requestId .cancel with main := some (.removeEntries entries) }

end State

/-- A statement of the coroutine of a server; `measured` is its delay, if no exception came. The
worker is the one it belongs to. -/
def jobStep (k : Worker) (j : Job) (measured : Option Int) : JobStep → Worker × JobStep × List Sent
  | .launched => if k.cancelled then (k, .done, []) else
    ({ k with runningCount := k.runningCount + 1 }, .measure, [])
  | .measure =>
    match measured with
    | some delayMillis => (k, .checkActive delayMillis, [])
    | none => (k, .decrementTotal, [])
  | .checkActive delayMillis =>
    (k, if k.cancelled then .decrementTotal else .containsResult delayMillis, [])
  | .containsResult delayMillis =>
    (k, if k.entry.isSome then .storeDelay delayMillis else .decrementTotal, [])
  | .storeDelay delayMillis => (k, .sendSuccess delayMillis, [])
  | .sendSuccess delayMillis => (k, .decrementTotal, [⟨k.requestId, .success j.guid delayMillis⟩])
  | .decrementTotal =>
    ({ k with totalCount := k.totalCount - 1 }, .decrementRunning (k.totalCount - 1), [])
  | .decrementRunning count =>
    ({ k with runningCount := k.runningCount - 1 },
      .checkProgress (toString (k.runningCount - 1) ++ " / " ++ toString count), [])
  | .checkProgress text => (k, if k.cancelled then .done else .containsProgress text, [])
  | .containsProgress text => (k, if k.entry.isSome then .sendNotify text else .done, [])
  | .sendNotify text => (k, .done, [⟨k.requestId, .notify text⟩])
  | .done => (k, .done, [])

/-- A statement of the coroutine that reports the end. -/
def finisherStep (k : Worker) : Worker × List Sent :=
  match k.finisher with
  | .unlaunched | .done => (k, [])
  | .joinAll =>
    if k.cancelled then ({ k with finisher := .close }, [])
    else if k.jobs.all (·.step = .done) then ({ k with finisher := .checkActive }, [])
    else (k, [])
  | .checkActive => ({ k with finisher := if k.cancelled then .close else .containsFinish }, [])
  | .containsFinish => ({ k with finisher := if k.entry.isSome then .tidyGroup else .close }, [])
  | .tidyGroup => ({ k with finisher := .sendFinish }, [])
  | .sendFinish => ({ k with finisher := .removeWorker }, [⟨k.requestId, .finish "0"⟩])
  | .removeWorker => ({ k with entry := none, finisher := .checkEmpty }, [])
  | .checkEmpty => ({ k with finisher := .close }, [])
  | .close => ({ k with finisher := .done }, [])

inductive Action
  | command (command : Command)
  | main (stored : Stored)
  | job (worker job : Nat) (measured : Option Int)
  | finisher (worker : Nat)

namespace State

/-- The id that a command brings. -/
def requestOf : Command → List String
  | .start _ requestId => [requestId]
  | .cancel | .destroy => []

/-- An action that is not possible changes nothing. -/
def step (s : State) : Action → State
  | .command command =>
    { s with queue := s.queue ++ [command], requested := s.requested ++ requestOf command }
  | .main stored =>
    match s.main with
    | some m => s.mainStep m
    | none =>
      match s.queue with
      | [] => s
      | command :: queue => { s with queue := queue }.begin stored command
  | .job w i measured =>
    match s.workers[w]? with
    | none => s
    | some k =>
      match k.jobs[i]? with
      | none => s
      | some j =>
        let r := jobStep k j measured j.step
        { s with
          workers := s.workers.set w { r.1 with jobs := k.jobs.set i { j with step := r.2.1 } }
          sent := s.sent ++ r.2.2
          delays := match j.step with
            | .storeDelay delayMillis => s.delays ++ [(j.guid, delayMillis)]
            | _ => s.delays }
  | .finisher w =>
    match s.workers[w]? with
    | none => s
    | some k =>
      let r := finisherStep k
      { s with workers := s.workers.set w r.1, sent := s.sent ++ r.2 }

end State
end ZeroVpn.CoreTestService
