import ZeroVpn.Handler.ProfileReplacement
import ZeroVpn.Std.Prog
import Mathlib.Data.List.Sort

/-!
# The profile store

`Store` is the content of the MMKV storages that hold profiles and subscriptions. The main storage
is split by key: `selected` is `SELECTED_SERVER`, `subIds` is `SUB_IDS`, and `subServers` holds
the `SUB_SERVERS_*` entries by the text after the prefix. The operations of `MmkvManager` are
programs over the store (`StoreM`): one atomic step per read or write of a storage,
`requireStorageWrite` for a checked write and `withProfileIndexLock` for a locked section.
-/

namespace ZeroVpn

/-- What a stored JSON text reads as: blank, not readable as an `α`, or a value. -/
inductive Stored (α : Type) where
  | blank
  | unreadable
  | json (a : α)

namespace Stored

/-- `JsonUtil.fromJsonSafe`, with a blank text read as missing. -/
def decode {α : Type} : Stored α → Option α
  | .json a => some a
  | _ => none

@[simp] theorem decode_json {α : Type} (a : α) : (Stored.json a).decode = some a := rfl

end Stored

structure Store where
  selected : Option String := none
  subIds : Option (Stored (List String)) := none
  subServers : KV String (Stored (List String)) := ∅
  profileFull : KV String (Stored ProfileItem) := ∅
  serverRaw : KV String String := ∅
  serverAff : KV String (Stored ServerAffiliationInfo) := ∅
  sub : KV String (Stored SubscriptionItem) := ∅

/-- What an operation raises: a `ProfileStorageException`, or any other exception. -/
inductive StoreException where
  | profileStorage (message : String)
  | other (message : String)

abbrev StoreM := Prog Store StoreException

namespace MmkvManager

def getSubscriptionId (subscriptionId : Option String) : String :=
  match subscriptionId with
  | some id => Text.ifEmpty id AppConfig.defaultSubscriptionId
  | none => AppConfig.defaultSubscriptionId

end MmkvManager

open MmkvManager

namespace Store

/-! ## What the storages hold -/

/-- The servers of the index whose key ends in `group`; an unreadable index has none. -/
def listed (s : Store) (group : String) : List String :=
  ((s.subServers.get group).bind Stored.decode).getD []

/-- `decodeServerList`. -/
def serverList (s : Store) (subscriptionId : String) : List String :=
  s.listed (getSubscriptionId subscriptionId)

/-- `decodeServerConfig`. -/
def serverConfig (s : Store) (guid : String) : Option ProfileItem :=
  if Text.isBlank guid then none else (s.profileFull.get guid).bind Stored.decode

/-- `decodeServerAffiliationInfo`. -/
def serverAffiliationInfo (s : Store) (guid : String) : Option ServerAffiliationInfo :=
  if Text.isBlank guid then none else (s.serverAff.get guid).bind Stored.decode

/-- `decodeSubsList`: the first occurrence of each ID. -/
def subsList (s : Store) : List String :=
  ((s.subIds.bind Stored.decode).getD []).eraseDups

/-- `decodeSubscription`. -/
def subscription (s : Store) (subscriptionId : String) : Option SubscriptionItem :=
  (s.sub.get subscriptionId).bind Stored.decode

/-- `decodeAllServerList`. -/
def allServerList (s : Store) : List String :=
  let ungrouped := if AppConfig.defaultSubscriptionId ∈ s.subsList then []
    else s.serverList AppConfig.defaultSubscriptionId
  ungrouped ++ s.subsList.flatMap s.serverList

/-- `decodeServersReferencedByOtherGroups`: the servers of every index but the target's, or `none`
if one of them is blank or unreadable. -/
def serversReferencedByOtherGroups (s : Store) (subscriptionId : String) : Option (List String) :=
  let target := getSubscriptionId subscriptionId
  if target ∈ s.subServers.allKeys then
    ((s.subServers.allKeys.filter (· ≠ target)).mapM fun key =>
      (s.subServers.get key).bind Stored.decode).map List.flatten
  else none

/-! ## Writes of single entries -/

def setServerList (s : Store) (subscriptionId : String) (servers : List String) : Store :=
  { s with subServers := s.subServers.set (getSubscriptionId subscriptionId) (.json servers) }

def setServerConfig (s : Store) (guid : String) (config : ProfileItem) : Store :=
  { s with profileFull := s.profileFull.set guid (.json config) }

def setServerRaw (s : Store) (guid raw : String) : Store :=
  { s with serverRaw := s.serverRaw.set guid raw }

def setSelected (s : Store) (guid : String) : Store := { s with selected := some guid }

def clearSelected (s : Store) : Store := { s with selected := none }

def setSubsList (s : Store) (subsList : List String) : Store :=
  { s with subIds := some (.json subsList) }

def removeProfile (s : Store) (guid : String) : Store :=
  { s with profileFull := s.profileFull.remove guid }

def removeAff (s : Store) (guid : String) : Store :=
  { s with serverAff := s.serverAff.remove guid }

def removeRaw (s : Store) (guid : String) : Store :=
  { s with serverRaw := s.serverRaw.remove guid }

/-- `removeProfilePayloads`. -/
def removeProfilePayloads (s : Store) (guids : List String) : Store :=
  { s with
    profileFull := s.profileFull.removeValuesForKeys guids
    serverAff := s.serverAff.removeValuesForKeys guids
    serverRaw := s.serverRaw.removeValuesForKeys guids }

end Store

namespace MmkvManager

/-! ## Reads -/

def getSelectServer : StoreM (Option String) := .read (·.selected)

def decodeServerList (subscriptionId : String) : StoreM (List String) :=
  .read (·.serverList subscriptionId)

def decodeServerConfig (guid : String) : StoreM (Option ProfileItem) := .read (·.serverConfig guid)

def decodeServerAffiliationInfo (guid : String) : StoreM (Option ServerAffiliationInfo) :=
  .read (·.serverAffiliationInfo guid)

def decodeSubsList : StoreM (List String) := .read (·.subsList)

def decodeSubscription (subscriptionId : String) : StoreM (Option SubscriptionItem) :=
  .read (·.subscription subscriptionId)

/-! ## Writes -/

def withProfileIndexLock {α : Type} (block : StoreM α) : StoreM α := .withLock block

def requireStorageWrite (f : Store → Store) (message : String) : StoreM Unit :=
  .require f (.profileStorage message)

def encodeServerList (serverList : List String) (subscriptionId : String) : StoreM Unit :=
  withProfileIndexLock (.write (·.setServerList subscriptionId serverList))

def setSelectServer (guid : String) : StoreM Unit :=
  withProfileIndexLock (.write (·.setSelected guid))

def encodeSubsList (subsList : List String) : StoreM Unit := .write (·.setSubsList subsList)

def encodeServerRaw (guid config : String) : StoreM Unit := .write (·.setServerRaw guid config)

/-- The locked section of `encodeServerConfig`. -/
def publishServerConfig (key : String) (config : ProfileItem) : StoreM Unit := do
  requireStorageWrite (·.setServerConfig key config) "Failed to save profile payload"
  let subId := getSubscriptionId config.subscriptionId
  let serverList ← decodeServerList subId
  if key ∈ serverList then pure () else do
    requireStorageWrite (·.setServerList subId (key :: serverList)) "Failed to publish profile index"
    let selected ← getSelectServer
    if Text.isNullOrBlank selected then
      requireStorageWrite (·.setSelected key) "Failed to update selected profile"
    else pure ()

/-- `uuid` is the value of `Utils.getUuid`, used when `guid` is blank. -/
def encodeServerConfig (guid uuid : String) (config : ProfileItem) : StoreM String := do
  let key := if Text.isBlank guid then uuid else guid
  withProfileIndexLock (publishServerConfig key config)
  pure key

/-- Put the new keys that are not indexed yet in front, one after the other. -/
def publishKeys (serverList keys : List String) : List String :=
  keys.foldl (fun list guid => if guid ∈ list then list else guid :: list) serverList

/-- The payload writes of `saveServerProfiles`. -/
def savePayloads (rawConfigs : KV String String) : List (String × ProfileItem) → StoreM Unit
  | [] => pure ()
  | (guid, profile) :: rest => do
    requireStorageWrite (·.setServerConfig guid profile) "Failed to save profile payload"
    match rawConfigs.get guid with
    | some raw => requireStorageWrite (·.setServerRaw guid raw) "Failed to save raw profile payload"
    | none => pure ()
    savePayloads rawConfigs rest

/-- The selection write of `saveServerProfiles`. -/
def selectReplacement : Option String → StoreM Unit
  | some guid => requireStorageWrite (·.setSelected guid) "Failed to update selected profile"
  | none => pure ()

/-- The servers a batch replaces. -/
def decodeReplacedServers (subscriptionId : String) (append : Bool) : StoreM (List String) :=
  if append then pure [] else decodeServerList subscriptionId

/-- The profile of the selected server, if the batch replaces it. -/
def decodeSelectedProfile (replacedServers : List String) (append : Bool) :
    Option String → StoreM (Option ProfileItem)
  | some guid =>
    if append = false ∧ guid ∈ replacedServers then decodeServerConfig guid else pure none
  | none => pure none

/-- The servers that stay indexed when a batch is published. -/
def decodeKeptServers (subscriptionId : String) (append : Bool) : StoreM (List String) :=
  if append then decodeServerList subscriptionId else pure []

/-- The locked section of `saveServerProfiles`. -/
def replaceServerProfiles (fold : Char → Char) (profiles : LinkedMap String ProfileItem)
    (rawConfigs : KV String String) (subscriptionId : String) (append : Bool) : StoreM Unit := do
  let replacedServers ← decodeReplacedServers subscriptionId append
  let previousSelection ← getSelectServer
  let selectedProfile ← decodeSelectedProfile replacedServers append previousSelection
  let replacementSelection :=
    ProfileReplacement.findSelectedReplacement fold profiles previousSelection selectedProfile
  savePayloads rawConfigs profiles.entries
  let kept ← decodeKeptServers subscriptionId append
  let serverList := publishKeys kept profiles.keys
  requireStorageWrite (·.setServerList subscriptionId serverList) "Failed to publish profile index"
  selectReplacement replacementSelection
  if replacedServers = [] then pure () else do
    let protectedServer := replacementSelection <|> previousSelection
    let referencedByOtherGroups ← .read (·.serversReferencedByOtherGroups subscriptionId)
    let removablePayloads := ProfileReplacement.findRemovablePayloads replacedServers profiles.keys
      protectedServer referencedByOtherGroups
    .write (·.removeProfilePayloads removablePayloads)

def saveServerProfiles (fold : Char → Char) (profiles : LinkedMap String ProfileItem)
    (rawConfigs : KV String String) (subscriptionId : String) (append : Bool) : StoreM Unit :=
  if profiles.entries = [] then pure ()
  else withProfileIndexLock
    (replaceServerProfiles fold profiles rawConfigs subscriptionId append)

/-! ## Removals -/

/-- Clear the selection if the value read for it is `guid`. -/
def clearSelectedServer (selected : Option String) (guid : String) : StoreM Unit :=
  if selected = some guid then .write Store.clearSelected else pure ()

def removeServer (guid : String) : StoreM Unit :=
  if Text.isBlank guid then pure () else do
    let config ← decodeServerConfig guid
    let subId := getSubscriptionId (config.map (·.subscriptionId))
    let serverList ← decodeServerList subId
    encodeServerList (serverList.erase guid) subId
    let selected ← getSelectServer
    clearSelectedServer selected guid
    .write (·.removeProfile guid)
    .write (·.removeAff guid)

/-- The loop body of `removeServerViaSubid`. -/
def removeListed (guid : String) : StoreM Unit := do
  let selected ← getSelectServer
  clearSelectedServer selected guid
  .write (·.removeProfile guid)
  .write (·.removeAff guid)

def removeServerViaSubid (subscriptionId : Option String) : StoreM Unit := do
  let subId := getSubscriptionId subscriptionId
  let serverList ← decodeServerList subId
  serverList.forM removeListed
  encodeServerList [] subId

/-- The loop body of `removeServers`; the selection was read before the loop. -/
def removePayloads (selectedServer : Option String) (guid : String) : StoreM Unit := do
  clearSelectedServer selectedServer guid
  .write (·.removeProfile guid)
  .write (·.removeAff guid)
  .write (·.removeRaw guid)

/-- `serverList.removeAll(guids)`, written back if it removed something. -/
def unlistServers (serverList guids : List String) (subId : String) : StoreM Unit :=
  if serverList.any (· ∈ guids) then encodeServerList (serverList.filter (· ∉ guids)) subId
  else pure ()

def removeServers (guids : List String) (subscriptionId : String) : StoreM Unit :=
  if guids = [] then pure () else do
    let subId := getSubscriptionId subscriptionId
    let serverList ← decodeServerList subId
    unlistServers serverList guids subId
    let selectedServer ← getSelectServer
    guids.forM (removePayloads selectedServer)

def initSubsList : StoreM Unit := do
  let subsList ← decodeSubsList
  if subsList = [] then do
    let keys ← .read (·.sub.allKeys)
    encodeSubsList keys
  else pure ()

/-- Read the subscriptions of a list of IDs one after the other; an unreadable entry reads as the
default item. -/
def readSubscriptions : List String → StoreM (List (String × SubscriptionItem))
  | [] => pure []
  | key :: keys => do
    let json ← .read (·.sub.get key)
    let rest ← readSubscriptions keys
    match json with
    | some (.json item) => pure ((key, item) :: rest)
    | some .unreadable => pure ((key, {}) :: rest)
    | _ => pure rest

def decodeSubscriptions : StoreM (List (String × SubscriptionItem)) := do
  initSubsList
  let subsList ← decodeSubsList
  readSubscriptions subsList

def removeAllServer : StoreM Nat := do
  let count ← .read (·.profileFull.allKeys.length)
  .write fun s => { s with profileFull := ∅ }
  .write fun s => { s with serverAff := ∅ }
  .write fun s => { s with serverRaw := ∅ }
  let subs ← decodeSubscriptions
  subs.forM fun sub => encodeServerList [] sub.1
  pure count

/-- The loop of `removeInvalidServer` over the given affiliation keys. -/
def removeInvalid : List String → StoreM Nat
  | [] => pure 0
  | guid :: guids => do
    let aff ← decodeServerAffiliationInfo guid
    match aff with
    | some aff =>
      if aff.testDelayMillis < 0 then do
        removeServer guid
        let count ← removeInvalid guids
        pure (count + 1)
      else removeInvalid guids
    | none => removeInvalid guids

def removeInvalidServer (guid : String) : StoreM Nat :=
  if guid ≠ "" then removeInvalid [guid] else do
    let keys ← .read (·.serverAff.allKeys)
    removeInvalid keys

end MmkvManager

namespace Store

/-- The group indexes as the orphan classification sees them. -/
def indexedServersBySubscription (s : Store) : List (String × Option (List String)) :=
  s.subServers.allKeys.map fun key => (key, (s.subServers.get key).bind Stored.decode)

/-- The stored payloads with the subscription of each readable one. -/
def profileReferences (s : Store) : List StoredProfileReference :=
  s.profileFull.allKeys.map fun guid => ⟨guid, (s.serverConfig guid).map (·.subscriptionId)⟩

def orphans (s : Store) : Option (List String) :=
  OrphanProfileCleaner.findOrphans s.profileReferences s.indexedServersBySubscription s.selected

end Store

namespace MmkvManager

def removeOrphanedServerProfiles : StoreM (Option Nat) :=
  withProfileIndexLock do
    let orphans ← .read Store.orphans
    match orphans with
    | none => pure none
    | some orphans => do
      .write (·.removeProfilePayloads orphans)
      pure (some orphans.length)

/-! ## Subscriptions and test results -/

def removeSubscription (subid : String) : StoreM Unit := do
  .write fun s => { s with sub := s.sub.remove subid }
  let subsList ← decodeSubsList
  encodeSubsList (subsList.erase subid)
  removeServerViaSubid subid

/-- `uuid` is the value of `Utils.getUuid`, used when `guid` is blank. -/
def encodeSubscription (guid uuid : String) (subItem : SubscriptionItem) : StoreM Unit := do
  let key := if Text.isBlank guid then uuid else guid
  .write fun s => { s with sub := s.sub.set key (.json subItem) }
  let subsList ← decodeSubsList
  if key ∈ subsList then pure () else encodeSubsList (subsList ++ [key])

def encodeServerTestDelayMillis (guid : String) (testResult : Int) : StoreM Unit :=
  if Text.isBlank guid then pure () else do
    let aff ← decodeServerAffiliationInfo guid
    let aff := { aff.getD {} with testDelayMillis := testResult }
    .write fun s => { s with serverAff := s.serverAff.set guid (.json aff) }

end MmkvManager
end ZeroVpn
