import ZeroVpn.Handler.StoreSpec
import ZeroVpn.Util.ListExt

/-!
# The server lists of the main screen

What the main view model shows of a group, how it removes duplicates and how it moves servers. A
shown list is read from the store (`buildServersCache`) and filtered by the keyword of the search box;
`shown` stands for this filter, which looks at the profile only. `ListState` is the state that the
search box, the loads, the refreshes and the drags share; each step of a coroutine between two
suspension points is one `ListEvent`.
-/

namespace ZeroVpn
open MmkvManager

deriving instance DecidableEq for ProfileItem

/-- The profile without the metadata that does not affect the connection. -/
def ProfileItem.duplicateIdentity (p : ProfileItem) : ProfileItem :=
  { p with configVersion := 0, subscriptionId := "", addedTime := 0, remarks := "",
           description := none }

structure ServersCache where
  guid : String
  profile : ProfileItem
  testDelayMillis : Int

namespace Store

/-- `getServerGuidList`: the empty ID stands for all groups. -/
def serverGuidList (s : Store) (groupId : String) : List String :=
  if groupId = "" then s.allServerList else s.serverList groupId

/-- The row of one server, if its profile is readable. -/
def cacheOf (s : Store) (guid : String) : Option ServersCache :=
  (s.serverConfig guid).map fun profile =>
    { guid, profile
      testDelayMillis := ((s.serverAffiliationInfo guid).map (·.testDelayMillis)).getD 0 }

/-- `buildServersCache`. -/
def serversCache (s : Store) (guids : List String) : List ServersCache := guids.filterMap s.cacheOf

/-- The list that is shown for a group. -/
def shownServers (s : Store) (shown : ProfileItem → Bool) (groupId : String) : List ServersCache :=
  (s.serversCache (s.serverGuidList groupId)).filter fun server => shown server.profile

end Store

namespace MainViewModel

/-- The servers whose identity was seen before; types without a server of their own are passed
over. -/
def findDuplicates (seen : List ProfileItem) : List ServersCache → List String
  | [] => []
  | server :: servers =>
    if server.profile.configType.isComplexType then findDuplicates seen servers
    else if server.profile.duplicateIdentity ∈ seen then
      server.guid :: findDuplicates seen servers
    else findDuplicates (server.profile.duplicateIdentity :: seen) servers

/-- `removeDuplicateServerAsync` for the shown list; it reports the number of duplicates. -/
def removeDuplicateServer (currentServers : List ServersCache) : StoreM Nat := do
  let duplicates := findDuplicates [] currentServers
  duplicates.forM removeServer
  pure duplicates.length

end MainViewModel

/-! ## The lists as a state machine -/

/-- A group that is being loaded: its index has been read, or its rows are to be shown. -/
inductive Load where
  | guids (groupId : String) (guids : List String)
  | servers (groupId : String) (servers : List ServersCache)

/-- The coroutine of the search box: it waits, then shows the groups of a snapshot one by one. -/
inductive FilterJob where
  | none
  | delayed
  | updating (rest : List (String × List ServersCache))

/-- An order that a drag has to persist; `written` once the index is stored and the cache is not. -/
structure OrderJob where
  groupId : String
  servers : List ServersCache
  written : Bool := false

structure ListState where
  store : Store
  keywordFilter : String := ""
  filterJob : FilterJob := .none
  groupDataCache : KV String (List ServersCache) := ∅
  loads : List Load := []
  /-- `groupUiFlows`. -/
  shown : String → List ServersCache := fun _ => []
  /-- `serverOrderPersistenceJobs`, each of which waits for those before it of its group. -/
  orderJobs : List OrderJob := []

inductive ListEvent where
  | filterConfig (keyword : String)
  | filterStep
  | clearCache
  | startLoad (groupId : String) (forceRefresh : Bool)
  | loadStep (n : Nat)
  /-- A subscription refresh in the background. -/
  | refresh (profiles : LinkedMap String ProfileItem) (rawConfigs : KV String String)
    (subscriptionId : String) (append : Bool)
  | moveServer (groupId : String) (fromPosition toPosition : Nat)
  | persistStep (groupId : String)

/-- The first job of the group has stored its index. -/
def markWritten (groupId : String) : List OrderJob → List OrderJob
  | [] => []
  | job :: jobs =>
    if job.groupId = groupId then { job with written := true } :: jobs
    else job :: markWritten groupId jobs

namespace ListState

section
-- The keyword, trimmed and not empty, as a pattern for the texts of a profile; a keyword that is no
-- valid pattern matches every profile.
variable (matchesKeyword : String → ProfileItem → Bool)

def applyKeywordFilter (st : ListState) (servers : List ServersCache) : List ServersCache :=
  if Text.trim st.keywordFilter = "" then servers
  else servers.filter fun server => matchesKeyword (Text.trim st.keywordFilter) server.profile

def setShown (st : ListState) (groupId : String) (servers : List ServersCache) : ListState :=
  { st with shown := Function.update st.shown groupId servers }

def updateGroupUi (st : ListState) (groupId : String) (servers : List ServersCache) : ListState :=
  st.setShown groupId (st.applyKeywordFilter matchesKeyword servers)

def filterStep (st : ListState) : ListState :=
  match st.filterJob with
  | .none => st
  | .delayed =>
    { st with filterJob := .updating (st.groupDataCache.allKeys.filterMap fun groupId =>
        (st.groupDataCache.get groupId).map fun servers => (groupId, servers)) }
  | .updating [] => { st with filterJob := .none }
  | .updating ((groupId, servers) :: rest) =>
    { st.updateGroupUi matchesKeyword groupId servers with filterJob := .updating rest }

def startLoad (st : ListState) (groupId : String) (forceRefresh : Bool) : ListState :=
  match if forceRefresh then none else st.groupDataCache.get groupId with
  | some servers => { st with loads := st.loads ++ [.servers groupId servers] }
  | none => { st with loads := st.loads ++ [.guids groupId (st.store.serverGuidList groupId)] }

def loadStep (st : ListState) (n : Nat) : ListState :=
  match st.loads[n]? with
  | none => st
  | some (.guids groupId guids) =>
    let servers := st.store.serversCache guids
    { st with
      groupDataCache := st.groupDataCache.set groupId servers
      loads := st.loads.set n (.servers groupId servers) }
  | some (.servers groupId servers) =>
    { st.updateGroupUi matchesKeyword groupId servers with loads := st.loads.eraseIdx n }

/-- The screen allows a drag in a group while the search box is empty. -/
def canReorder (st : ListState) (groupId : String) : Bool :=
  groupId != "" && st.keywordFilter == ""

def moveServer (st : ListState) (groupId : String) (fromPosition toPosition : Nat) : ListState :=
  if st.canReorder groupId then
    match moveItem (st.shown groupId) fromPosition toPosition with
    | some servers =>
      { st.setShown groupId servers with orderJobs := st.orderJobs ++ [{ groupId, servers }] }
    | none => st
  else st

/-- The job of the group that is next. -/
def nextOrder (st : ListState) (groupId : String) : Option OrderJob :=
  st.orderJobs.find? fun job => job.groupId = groupId

def persistStep (st : ListState) (groupId : String) : ListState :=
  match st.nextOrder groupId with
  | none => st
  | some job =>
    if job.written then
      { st with
        groupDataCache := st.groupDataCache.set groupId job.servers
        orderJobs := st.orderJobs.eraseP fun job => job.groupId = groupId }
    else
      { st with
        store := st.store.setServerList groupId (job.servers.map (·.guid))
        orderJobs := markWritten groupId st.orderJobs }

def step (fold : Char → Char) (st : ListState) : ListEvent → ListState
  | .filterConfig keyword =>
    if keyword = st.keywordFilter then st
    else { st with keywordFilter := keyword, filterJob := .delayed }
  | .filterStep => st.filterStep matchesKeyword
  | .clearCache => { st with groupDataCache := ∅ }
  | .startLoad groupId forceRefresh => st.startLoad groupId forceRefresh
  | .loadStep n => st.loadStep matchesKeyword n
  | .refresh profiles rawConfigs subscriptionId append =>
    { st with store :=
        (saveServerProfiles fold profiles rawConfigs subscriptionId append).exec st.store }
  | .moveServer groupId fromPosition toPosition =>
    st.moveServer groupId fromPosition toPosition
  | .persistStep groupId => st.persistStep groupId

end

/-- The index that an event stores for a group. -/
def writes (st : ListState) : ListEvent → Option (String × List String)
  | .persistStep groupId =>
    match st.nextOrder groupId with
    | some job => if job.written then none else some (groupId, job.servers.map (·.guid))
    | none => none
  | _ => none

end ListState
end ZeroVpn
