import ZeroVpn.Std.List

/-!
# The store of the desktop app

The mutations of `Store` and the calls that load subscriptions, cut into steps: every reading and
every assignment of `Store.data` is one, and so is entering or leaving a `synchronized(Store)`
block. The steps of different calls interleave freely; a block only keeps other blocks out.
-/

namespace ZeroVpn.DesktopStore

structure ProfileRec where
  id : String
  name : String
  proto : String
  link : String
  sub : Option String := none
  deriving DecidableEq

structure SubRec where
  url : String
  name : String
  lastFetch : Int := 0
  used : Int := 0
  total : Int := 0
  expire : Int := 0
  deriving DecidableEq

structure DataFile where
  profiles : List ProfileRec := []
  subscriptions : List SubRec := []
  selected : Option String := none
  pings : List (String × Int) := []
  deriving DecidableEq

structure ParsedLink where
  name : String
  proto : String
  link : String
  deriving DecidableEq

/-- The header `subscription-userinfo`. -/
structure Info where
  used : Int
  total : Int
  expire : Int
  deriving DecidableEq

/-- What a subscription answers. -/
structure Fetched where
  links : List ParsedLink
  info : Option Info := none
  deriving DecidableEq

/-- What a step finds outside of the store. -/
structure Input where
  /-- `fetchWithInfo` and `parseBody`; `none` is an exception. -/
  fetched : Option Fetched := none
  /-- `System.currentTimeMillis()`. -/
  now : Int := 0
  /-- The positive entries of `pingMap`. -/
  pings : List (String × Int) := []
  deriving DecidableEq

/-! ## Assignments -/

/-- What is assigned to `Store.data`. -/
inductive Change where
  | pings (positive : List (String × Int))
  | select (id : Option String)
  | selectFirst
  | upsert (rec : ProfileRec)
  | delete (id : String)
  | addSubscription (rec : SubRec)
  | removeSubscription (url : String)
  | removeProfiles (url : String)
  | updateInfo (url : String) (lastFetch : Option Int) (info : Option Info)
  | replaceProfiles (url : String) (fresh : List ProfileRec)
  deriving DecidableEq

def SubRec.withInfo (sub : SubRec) (lastFetch : Option Int) (info : Option Info) : SubRec :=
  { sub with
    lastFetch := lastFetch.getD sub.lastFetch
    used := (info.map Info.used).getD sub.used
    total := (info.map Info.total).getD sub.total
    expire := (info.map Info.expire).getD sub.expire }

/-- The value of an assignment: a copy of `base`, with a field made from that of `source`. The two
are read one after the other. -/
def Change.value (source base : DataFile) : Change → DataFile
  | pings positive => { base with pings := positive }
  | select id => { base with selected := id }
  | selectFirst => { base with selected := source.profiles.head?.map (·.id) }
  | upsert rec => { base with profiles := source.profiles.filter (·.id ≠ rec.id) ++ [rec] }
  | delete id => { base with profiles := source.profiles.filter (·.id ≠ id) }
  | addSubscription rec =>
    { base with subscriptions := source.subscriptions.filter (·.url ≠ rec.url) ++ [rec] }
  | removeSubscription url =>
    { base with subscriptions := source.subscriptions.filter (·.url ≠ url) }
  | removeProfiles url => { base with profiles := source.profiles.filter (·.sub ≠ some url) }
  | updateInfo url lastFetch info =>
    { base with subscriptions := source.subscriptions.map fun sub =>
        if sub.url = url then sub.withInfo lastFetch info else sub }
  | replaceProfiles url fresh =>
    { base with profiles := source.profiles.filter (·.sub ≠ some url) ++ fresh }

/-! ## Calls -/

/-- What is left of a call. -/
inductive Call where
  | done
  | read (next : DataFile → Call)
  | outside (next : Input → Call)
  | write (change : Change) (source base : DataFile) (next : Call)
  | lock (next : Call)
  | unlock (next : Call)

/-- The setter of a property of `Store` whose new value is made from the old one. -/
def assign (change : Change) (next : Call) : Call :=
  .read fun source => .read fun base => .write change source base next

/-- `data = data.copy(…)` with a field that is made from `data` again. -/
def assignCopy (change : Change) (next : Call) : Call :=
  .read fun base => .read fun source => .write change source base next

def save (next : Call) : Call :=
  .read fun base => .outside fun input => .write (.pings input.pings) base base next

def select (id : Option String) : Call :=
  .read fun base => .write (.select id) base base (save .done)

def upsertProfile (rec : ProfileRec) (next : Call) : Call := assign (.upsert rec) (save next)

def deleteProfile (id : String) : Call :=
  assign (.delete id) <| .read fun data =>
    if data.selected = some id then assign .selectFirst (save .done) else save .done

def addSubscription (url name : String) (next : Call) : Call :=
  assignCopy (.addSubscription { url, name }) (save next)

def removeSubscription (url : String) : Call :=
  assignCopy (.removeSubscription url) <| assign (.removeProfiles url) (save .done)

/-- `profiles.none { it.id == selectedId }`, where each profile reads the selection again. -/
def noneSelected (next : Bool → Call) : List ProfileRec → Call
  | [] => next true
  | p :: ps => .read fun data =>
    if data.selected = some p.id then next false else noneSelected next ps

/-- Selects the first profile if nothing, or a profile that is gone, is selected. `first` raises an
exception if the list has become empty since. -/
def repairSelection (failed next : Call) : Call :=
  let selectFirst : Call := .read fun data =>
    if data.profiles = [] then next
    else .read fun base => .read fun source =>
      if source.profiles = [] then failed else .write .selectFirst source base next
  .read fun data =>
    if data.selected = none then selectFirst
    else .read fun data =>
      noneSelected (fun none => if none then selectFirst else next) data.profiles

section
variable (stableId : String → String)

def subId (subUrl link : String) : String := stableId (subUrl ++ "|" ++ link)

def fresh (url : String) (links : List ParsedLink) : List ProfileRec :=
  distinctBy ProfileRec.id <| links.map fun p =>
    { id := subId stableId url p.link, name := p.name, proto := p.proto, link := p.link,
      sub := some url }

/-- One subscription of `updateSubscriptions`, and all of `refreshSingleSub`. -/
def refresh (sub : SubRec) (next : Call) : Call :=
  .outside fun input =>
    match input.fetched with
    | none => next
    | some fetched =>
      .lock <| assign (.replaceProfiles sub.url (fresh stableId sub.url fetched.links)) <|
        .read fun base => .read fun source => .outside fun input =>
          .write (.updateInfo sub.url (some input.now) fetched.info) source base <|
            repairSelection (.unlock next) (save (.unlock next))

def refreshAll : List SubRec → Call
  | [] => .done
  | sub :: subs => refresh stableId sub (refreshAll subs)

def updateSubscriptions : Call := .read fun data => refreshAll stableId data.subscriptions

def refreshSingleSub (url : String) : Call :=
  .read fun data =>
    match data.subscriptions.find? (·.url = url) with
    | none => .done
    | some sub => refresh stableId sub .done

def addSub (url : String) : Call :=
  .outside fun input =>
    match input.fetched with
    | none => .done
    | some fetched =>
      if fetched.links = [] then .done
      else
        let replace : Call :=
          .lock <| assign (.replaceProfiles url (fresh stableId url fetched.links)) <|
            repairSelection (.unlock .done) (save (.unlock .done))
        .read fun data =>
          addSubscription url ("اشتراک " ++ toString (data.subscriptions.length + 1)) <|
            match fetched.info with
            | none => replace
            | some info => assignCopy (.updateInfo url none (some info)) (save replace)

def importText : List ParsedLink → Call
  | [] => .done
  | p :: links =>
    upsertProfile { id := stableId p.link, name := p.name, proto := p.proto, link := p.link } <|
      importText links

/-! ## The system -/

inductive Request where
  | updateSubscriptions
  | refreshSingleSub (url : String)
  | addSub (url : String)
  | removeSubscription (url : String)
  | deleteProfile (id : String)
  | importText (links : List ParsedLink)
  | select (id : Option String)

def Request.call : Request → Call
  | updateSubscriptions => DesktopStore.updateSubscriptions stableId
  | refreshSingleSub url => DesktopStore.refreshSingleSub stableId url
  | addSub url => DesktopStore.addSub stableId url
  | removeSubscription url => DesktopStore.removeSubscription url
  | deleteProfile id => DesktopStore.deleteProfile id
  | importText links => DesktopStore.importText stableId links
  | select id => DesktopStore.select id

structure System where
  data : DataFile := {}
  /-- A call is in a `synchronized(Store)` block. -/
  locked : Bool := false
  calls : List Call := []

inductive Action where
  | request (request : Request)
  | step (i : Nat) (input : Input)

/-- One step of the call at position `i`. An action that is not possible changes nothing. -/
def System.advance (s : System) (i : Nat) (input : Input) : Call → System
  | .done => s
  | .read next => { s with calls := s.calls.set i (next s.data) }
  | .outside next => { s with calls := s.calls.set i (next input) }
  | .write change source base next =>
    { s with data := change.value source base, calls := s.calls.set i next }
  | .lock next => if s.locked then s else { s with locked := true, calls := s.calls.set i next }
  | .unlock next => { s with locked := false, calls := s.calls.set i next }

def System.step (s : System) : Action → System
  | .request request => { s with calls := s.calls ++ [request.call stableId] }
  | .step i input => s.advance i input (s.calls.getD i .done)

end
end ZeroVpn.DesktopStore
