import ZeroVpn.Handler.StoreViews
import ZeroVpn.Std.Run

/-!
# The store as a state machine

`StoreOp` lists the operations that change profiles, indexes or the selection, and `StoreOp.apply`
runs one of them to its end with every write succeeding. A generated guid carries the proof that
it is not blank.
-/

namespace ZeroVpn
open MmkvManager Prog Store AngConfigManager

/-- A value of `Utils.getUuid`. -/
structure Uuid where
  text : String
  nonblank : Text.isBlank text = false

/-- A short one, for the histories on fixed inputs. -/
def Uuid.sample : Uuid := ⟨"u", by decide⟩

/-- The arguments of `saveServerProfiles`, with generated guids as keys. -/
structure ProfileBatch where
  profiles : LinkedMap String ProfileItem
  rawConfigs : KV String String
  subscriptionId : String
  append : Bool
  nonblank : ∀ guid ∈ profiles.keys, Text.isBlank guid = false

inductive StoreOp where
  | encodeServerConfig (guid : String) (uuid : Uuid) (config : ProfileItem)
  | saveServerProfiles (batch : ProfileBatch)
  | setSelectServer (guid : String)
  | removeServer (guid : String)
  | removeServers (guids : List String) (subscriptionId : String)
  | removeServerViaSubid (subscriptionId : Option String)
  | removeSubscription (subid : String)
  | removeAllServer
  | removeInvalidServer (guid : String)
  /-- `AngConfigManager.removeInvalidServer`. -/
  | removeInvalidServersOf (subId : String)
  | removeOrphanedServerProfiles
  | sortByTestResultsForSub (subId : String)
  | encodeServerTestDelayMillis (guid : String) (testResult : Int)
  | encodeSubscription (guid : String) (uuid : Uuid) (item : SubscriptionItem)
  /-- The effect of a call of `decodeSubscriptions`. -/
  | initSubsList

namespace StoreOp

/-- Run an operation to its end. -/
def apply (fold : Char → Char) (s : Store) : StoreOp → Store
  | encodeServerConfig guid uuid config =>
    (MmkvManager.encodeServerConfig guid uuid.text config).exec s
  | saveServerProfiles b =>
    (MmkvManager.saveServerProfiles fold b.profiles b.rawConfigs b.subscriptionId b.append).exec s
  | setSelectServer guid => (MmkvManager.setSelectServer guid).exec s
  | removeServer guid => (MmkvManager.removeServer guid).exec s
  | removeServers guids id => (MmkvManager.removeServers guids id).exec s
  | removeServerViaSubid id => (MmkvManager.removeServerViaSubid id).exec s
  | removeSubscription id => (MmkvManager.removeSubscription id).exec s
  | removeAllServer => MmkvManager.removeAllServer.exec s
  | removeInvalidServer guid => (MmkvManager.removeInvalidServer guid).exec s
  | removeInvalidServersOf id => (AngConfigManager.removeInvalidServer id).exec s
  | removeOrphanedServerProfiles => MmkvManager.removeOrphanedServerProfiles.exec s
  | sortByTestResultsForSub id => (AngConfigManager.sortByTestResultsForSub id).exec s
  | encodeServerTestDelayMillis guid delay =>
    (MmkvManager.encodeServerTestDelayMillis guid delay).exec s
  | encodeSubscription guid uuid item =>
    (MmkvManager.encodeSubscription guid uuid.text item).exec s
  | initSubsList => MmkvManager.initSubsList.exec s

end StoreOp

/-! ## Group operations of `AngConfigManager` -/

namespace Store

/-- The sort key of a server. -/
def delayRank (s : Store) (guid : String) : Int :=
  let delay := ((s.serverAffiliationInfo guid).map (·.testDelayMillis)).getD 0
  if delay ≤ 0 then 9223372036854775807 else delay

/-- The servers of a group in the order of their test results. -/
def sortedServers (s : Store) (servers : List String) : List String :=
  sortByDelay (servers.map fun guid => (guid, s.delayRank guid))

theorem sortedServers_perm (s : Store) (servers : List String) :
    (s.sortedServers servers).Perm servers := by
  refine ((List.perm_insertionSort _ _).map Prod.fst).trans ?_
  rw [List.map_map]
  exact .of_eq (List.map_id _)

/-- The ranking permutes the index of its group and leaves the others alone. -/
theorem listed_sorted (s : Store) (id group : String) :
    ((if s.serverList id = [] then s
      else s.setServerList id (s.sortedServers (s.serverList id))).listed group).Perm
        (s.listed group) := by
  split
  · exact .refl _
  · rw [listed_setServerList]
    split
    · next h => rw [h]; exact s.sortedServers_perm _
    · exact .refl _

end Store

variable (guids : List String) (id : String)

theorem run_readDelays (s : Store) :
    (readDelays guids).run s =
      (.ok (guids.map fun guid => (guid, s.delayRank guid)), s) := by
  induction guids with
  | nil => rfl
  | cons guid guids ih =>
    unfold readDelays
    dsimp only [decodeServerAffiliationInfo]
    rw [run_read_bind, run_bind, ih]
    rfl

theorem run_sortByTestResultsForSub (s : Store) :
    (sortByTestResultsForSub id).run s =
      (.ok (), if s.serverList id = [] then s
        else s.setServerList id (s.sortedServers (s.serverList id))) := by
  unfold sortByTestResultsForSub
  dsimp only [decodeServerList]
  rw [run_read_bind]
  split
  · rfl
  · rw [run_bind, run_readDelays]
    exact run_encodeServerList _ _ _

theorem run_readInvalid (s : Store) :
    (readInvalid guids).run s = (.ok (guids.filter s.isInvalid), s) := by
  induction guids with
  | nil => rfl
  | cons guid guids ih =>
    unfold readInvalid
    dsimp only [decodeServerAffiliationInfo]
    rw [run_read_bind, run_bind, ih, List.filter_cons]
    have hiff : s.isInvalid guid =
        (s.serverAffiliationInfo guid).any (·.testDelayMillis < 0) := by
      unfold isInvalid
      cases s.serverAffiliationInfo guid <;> rfl
    rw [hiff]
    rfl

theorem exec_removeInvalidServersOf (s : Store) :
    (AngConfigManager.removeInvalidServer id).exec s =
      (removeServers ((s.serverList id).filter s.isInvalid) id).exec s := by
  unfold AngConfigManager.removeInvalidServer exec
  dsimp only [decodeServerList]
  rw [run_read_bind, run_bind, run_readInvalid]

/-! ## The effect of each operation -/

namespace StoreOp

variable {fold : Char → Char} {s : Store}
variable {guid : String}

theorem apply_encodeServerConfig {uuid : Uuid} {config : ProfileItem} :
    (encodeServerConfig guid uuid config).apply fold s =
      s.publish (if Text.isBlank guid then uuid.text else guid) config := by
  rw [apply, exec, run_encodeServerConfig]

/-- The guid an editor saves under is not blank. -/
theorem saveKey_nonblank (guid : String) (uuid : Uuid) :
    Text.isBlank (if Text.isBlank guid then uuid.text else guid) = false := by
  split
  · exact uuid.nonblank
  · next h => simpa using h

theorem apply_saveServerProfiles {b : ProfileBatch} :
    (saveServerProfiles b).apply fold s =
      if b.profiles.entries = [] then s
      else s.replaceAll fold b.profiles b.rawConfigs b.subscriptionId b.append := by
  rw [apply, exec, run_saveServerProfiles]

theorem apply_removeServer :
    (removeServer guid).apply fold s =
      if Text.isBlank guid then s else s.dropServer guid := by
  rw [apply, exec, run_removeServer_ite]

theorem exec_removeServers :
    (MmkvManager.removeServers guids id).exec s =
      if guids = [] then s else s.dropServers guids (getSubscriptionId id) := by
  rw [exec]
  split
  · next h => rw [MmkvManager.removeServers, if_pos h]; rfl
  · next h => rw [run_removeServers h]

theorem apply_removeServers {guids : List String} {id : String} :
    (removeServers guids id).apply fold s =
      if guids = [] then s else s.dropServers guids (getSubscriptionId id) :=
  exec_removeServers guids id

theorem apply_removeInvalidServersOf {id : String} :
    (removeInvalidServersOf id).apply fold s =
      if (s.serverList id).filter s.isInvalid = [] then s
      else s.dropServers ((s.serverList id).filter s.isInvalid) (getSubscriptionId id) := by
  rw [apply, exec_removeInvalidServersOf, exec_removeServers]

theorem apply_removeServerViaSubid {id : Option String} :
    (removeServerViaSubid id).apply fold s = s.dropGroup (getSubscriptionId id) := by
  rw [apply, exec, run_removeServerViaSubid]

theorem apply_removeSubscription (fold : Char → Char) (s : Store) (id : String) :
    ∃ sub subIds, (removeSubscription id).apply fold s =
      ({ s with sub := sub, subIds := subIds } : Store).dropGroup (getSubscriptionId id) :=
  exec_removeSubscription id s

theorem apply_removeAllServer : removeAllServer.apply fold s = s.dropAll := by
  rw [apply, exec, run_removeAllServer]

theorem apply_removeInvalidServer :
    (removeInvalidServer guid).apply fold s = s.dropInvalid (s.testedServers guid) :=
  exec_removeInvalidServer guid s

theorem apply_removeOrphanedServerProfiles :
    removeOrphanedServerProfiles.apply fold s = s.dropOrphans :=
  exec_removeOrphanedServerProfiles s

theorem apply_sortByTestResultsForSub {id : String} :
    (sortByTestResultsForSub id).apply fold s =
      if s.serverList id = [] then s
      else s.setServerList id (s.sortedServers (s.serverList id)) := by
  rw [apply, exec, run_sortByTestResultsForSub]

/-- The operations that leave profiles, indexes and the selection alone. -/
def isBookkeeping : StoreOp → Bool
  | encodeServerTestDelayMillis .. | encodeSubscription .. | initSubsList => true
  | _ => false

/-- They keep what does not depend on the records they write. -/
theorem keeps_bookkeeping {P : Store → Prop} {op : StoreOp} (h : op.isBookkeeping = true)
    (hs : ∀ sub subIds serverAff,
      P { s with sub := sub, subIds := subIds, serverAff := serverAff }) :
    P (op.apply fold s) := by
  cases op with
  | encodeServerTestDelayMillis guid delay =>
    obtain ⟨serverAff, heq⟩ := exec_encodeServerTestDelayMillis guid delay s
    rw [apply, heq]
    exact hs _ _ _
  | encodeSubscription guid uuid item =>
    obtain ⟨sub, subIds, heq⟩ := exec_encodeSubscription guid uuid.text item s
    rw [apply, heq]
    exact hs _ _ _
  | initSubsList =>
    rw [apply, exec, run_initSubsList, initSubs]
    split
    · exact hs _ _ _
    · exact hs _ _ _
  | _ => cases h

/-- Sorting permutes one index. -/
theorem listed_sort (group : String) :
    ((sortByTestResultsForSub id).apply fold s).listed group |>.Perm (s.listed group) := by
  rw [apply_sortByTestResultsForSub]
  exact s.listed_sorted id group

/-- Every operation keeps the indexes free of duplicates. -/
theorem listsNodup_apply (op : StoreOp) (h : s.ListsNodup) : (op.apply fold s).ListsNodup := by
  cases op with
  | encodeServerConfig guid uuid config =>
    rw [apply_encodeServerConfig]
    exact h.publish _ _
  | saveServerProfiles b =>
    rw [apply_saveServerProfiles]
    split
    · exact h
    · exact h.replaceAll
  | setSelectServer guid =>
    exact h
  | removeServer guid =>
    rw [apply_removeServer]
    split
    · exact h
    · exact h.dropServer guid
  | removeServers guids id =>
    rw [apply_removeServers]
    split
    · exact h
    · exact h.dropServers _ _
  | removeServerViaSubid id =>
    rw [apply_removeServerViaSubid]
    exact h.dropGroup id
  | removeSubscription id =>
    obtain ⟨sub, subIds, heq⟩ := apply_removeSubscription fold s id
    rw [heq]
    exact Store.ListsNodup.dropGroup h id
  | removeAllServer =>
    rw [apply_removeAllServer]
    exact h.dropAll
  | removeInvalidServer guid =>
    rw [apply_removeInvalidServer]
    exact h.dropInvalid _
  | removeInvalidServersOf id =>
    rw [apply_removeInvalidServersOf]
    split
    · exact h
    · exact h.dropServers _ _
  | removeOrphanedServerProfiles =>
    rw [apply_removeOrphanedServerProfiles]
    exact h
  | sortByTestResultsForSub id =>
    intro group
    exact (listed_sort id group).nodup_iff.mpr (h group)
  | encodeServerTestDelayMillis | encodeSubscription | initSubsList =>
    exact keeps_bookkeeping rfl fun _ _ _ => h

/-- The operations that store a profile. -/
def isSave : StoreOp → Bool
  | encodeServerConfig .. => true
  | saveServerProfiles _ => true
  | _ => false

/-- An operation that stores no profile lists no server either. -/
theorem shrinksTo_apply (op : StoreOp) (h : op.isSave = false) : s.ShrinksTo (op.apply fold s) := by
  cases op with
  | encodeServerConfig => cases h
  | saveServerProfiles => cases h
  | setSelectServer guid =>
    exact ⟨id, id⟩
  | removeServer guid =>
    rw [apply_removeServer]
    split
    · exact .refl s
    · exact shrinksTo_dropServer guid
  | removeServers guids id =>
    rw [apply_removeServers]
    split
    · exact .refl s
    · exact shrinksTo_dropServers guids id
  | removeServerViaSubid id =>
    rw [apply_removeServerViaSubid]
    exact shrinksTo_dropGroup id
  | removeSubscription id =>
    obtain ⟨sub, subIds, heq⟩ := apply_removeSubscription fold s id
    rw [heq]
    have h := shrinksTo_dropGroup (s := { s with sub := sub, subIds := subIds }) id
    exact ⟨h.listed, h.config⟩
  | removeAllServer =>
    rw [apply_removeAllServer]
    exact shrinksTo_dropAll
  | removeInvalidServer guid =>
    rw [apply_removeInvalidServer]
    exact shrinksTo_dropInvalid _
  | removeInvalidServersOf id =>
    rw [apply_removeInvalidServersOf]
    split
    · exact .refl s
    · exact shrinksTo_dropServers _ id
  | removeOrphanedServerProfiles =>
    rw [apply_removeOrphanedServerProfiles]
    exact shrinksTo_dropOrphans
  | sortByTestResultsForSub id =>
    refine ⟨fun {group guid} => (listed_sort id group).mem_iff.mp, fun {guid profile} hp => ?_⟩
    rw [apply_sortByTestResultsForSub] at hp
    split at hp
    · exact hp
    · exact hp
  | encodeServerTestDelayMillis | encodeSubscription | initSubsList =>
    exact keeps_bookkeeping rfl fun _ _ _ => ⟨id, id⟩

end StoreOp
end ZeroVpn
