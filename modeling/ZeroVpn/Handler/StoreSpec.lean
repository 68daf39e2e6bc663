import ZeroVpn.Handler.MmkvManager

/-!
# What the store operations do

With every write succeeding, a program of `MmkvManager` is a function of the store. This file
names that function for each operation (`run_*`) and says what it does to the three views the
invariants are stated in: the servers a group lists (`Store.listed`), the readable profile of a
guid (`Store.serverConfig`) and the selection.
-/

namespace ZeroVpn
open MmkvManager Prog List Text

@[simp] theorem MmkvManager.getSubscriptionId_idem (id : Option String) :
    getSubscriptionId (some (getSubscriptionId id)) = getSubscriptionId id := by
  cases id with
  | none => decide
  | some id =>
    by_cases h : id = ""
    · subst h; decide
    · simp [getSubscriptionId, ifEmpty, h]

variable {guid : String} (selected : Option String) (guids : List String)

namespace Store

variable {s : Store}

theorem serverConfig_eq_some_iff :
    s.serverConfig guid = some profile ↔
      isBlank guid = false ∧ (s.profileFull.get guid).bind Stored.decode = some profile := by
  unfold serverConfig
  cases isBlank guid with
  | true => simp
  | false => simp

/-! ## Views after single writes -/

theorem listed_setServerList (s : Store) (id : String) (servers : List String) (group : String) :
    (s.setServerList id servers).listed group =
      if group = getSubscriptionId id then servers else s.listed group := by
  simp only [listed, setServerList, KV.get_set]
  split <;> rfl

@[simp] theorem serverConfig_setServerList (s : Store) (id : String) (servers : List String)
    (guid : String) : (s.setServerList id servers).serverConfig guid = s.serverConfig guid := rfl

@[simp] theorem listed_setServerConfig (s : Store) (guid : String) (config : ProfileItem)
    (group : String) : (s.setServerConfig guid config).listed group = s.listed group := rfl

theorem serverConfig_setServerConfig (s : Store) (hkey : isBlank key = false)
    (config : ProfileItem) (guid : String) :
    (s.setServerConfig key config).serverConfig guid =
      if guid = key then some config else s.serverConfig guid := by
  simp only [serverConfig, setServerConfig, KV.get_set]
  split
  · next hb =>
    rw [if_neg]
    rintro rfl
    rw [hkey] at hb; cases hb
  · split <;> rfl

/-- Select `guid`, if there is one. -/
def select (s : Store) (guid : Option String) : Store := { s with selected := guid <|> s.selected }

@[simp] theorem listed_select (s : Store) (guid : Option String) (group : String) :
    (s.select guid).listed group = s.listed group := rfl

@[simp] theorem serverConfig_select (s : Store) (guid : Option String) (g : String) :
    (s.select guid).serverConfig g = s.serverConfig g := rfl

/-- Drop the profiles and test results of `guids`, and the selection if it is one of them. -/
def forget (s : Store) (guids : List String) : Store :=
  { s with
    selected := s.selected.filter (· ∉ guids)
    profileFull := s.profileFull.removeValuesForKeys guids
    serverAff := s.serverAff.removeValuesForKeys guids }

@[simp] theorem listed_forget (s : Store) (guids : List String) (group : String) :
    (s.forget guids).listed group = s.listed group := rfl

theorem serverConfig_forget (s : Store) (guids : List String) (guid : String) :
    (s.forget guids).serverConfig guid = if guid ∈ guids then none else s.serverConfig guid := by
  simp only [serverConfig, forget, KV.get_removeValuesForKeys]
  by_cases hg : guid ∈ guids
  · simp [hg]
  · simp only [hg, if_false]

theorem forget_forget (s : Store) (guids guids' : List String) :
    (s.forget guids).forget guids' = s.forget (guids ++ guids') := by
  simp only [forget, KV.removeValuesForKeys_append, Option.filter_filter, mk.injEq,
    and_true]
  cases s.selected with
  | none => rfl
  | some guid => simp [Option.filter, not_or]

theorem serverConfig_removeProfilePayloads (s : Store) (guids : List String) (guid : String) :
    (s.removeProfilePayloads guids).serverConfig guid =
      if guid ∈ guids then none else s.serverConfig guid := serverConfig_forget s guids guid

@[simp] theorem listed_removeProfilePayloads (s : Store) (guids : List String) (group : String) :
    (s.removeProfilePayloads guids).listed group = s.listed group := rfl

end Store

/-! ## Saving profiles -/

namespace Store

/-- The effect of `publishServerConfig`. -/
def publish (s : Store) (key : String) (config : ProfileItem) : Store :=
  let subId := getSubscriptionId config.subscriptionId
  let saved := s.setServerConfig key config
  if key ∈ s.listed subId then saved
  else (saved.setServerList subId (key :: s.listed subId)).select
    (if isNullOrBlank s.selected then some key else none)

end Store

theorem run_publishServerConfig (key : String) (config : ProfileItem) (s : Store) :
    (publishServerConfig key config).run s = (.ok (), s.publish key config) := by
  simp only [publishServerConfig, Store.publish, requireStorageWrite, decodeServerList,
    getSelectServer, run_require_bind, run_read_bind, Store.serverList,
    getSubscriptionId_idem]
  by_cases hk : key ∈ s.listed (getSubscriptionId config.subscriptionId)
  · rw [if_pos hk]
    change run (if key ∈ s.listed _ then _ else _) _ = _
    rw [if_pos hk]
    rfl
  · rw [if_neg hk]
    change run (if key ∈ s.listed _ then _ else _) _ = _
    rw [if_neg hk]
    change run (if isNullOrBlank s.selected then _ else _) _ = _
    by_cases hsel : isNullOrBlank s.selected = true
    · rw [if_pos hsel, if_pos hsel]
      rfl
    · rw [if_neg hsel, if_neg hsel]
      rfl

theorem run_encodeServerConfig (guid uuid : String) (config : ProfileItem) (s : Store) :
    (encodeServerConfig guid uuid config).run s =
      let key := if isBlank guid then uuid else guid
      (.ok key, s.publish key config) := by
  unfold encodeServerConfig withProfileIndexLock
  rw [run_bind, run_withLock, run_publishServerConfig]
  rfl

/-! ## Replacing a group -/

namespace Store

variable {s : Store}

/-- The effect of the payload writes of `saveServerProfiles`. -/
def savePayloads (s : Store) (rawConfigs : KV String String)
    (entries : List (String × ProfileItem)) : Store :=
  { s with
    profileFull := s.profileFull.setAll (entries.map fun e => (e.1, .json e.2))
    serverRaw := s.serverRaw.setAll
      (entries.filterMap fun e => (rawConfigs.get e.1).map fun raw => (e.1, raw)) }

@[simp] theorem listed_savePayloads (s : Store) (rawConfigs : KV String String)
    (entries : List (String × ProfileItem)) (group : String) :
    (s.savePayloads rawConfigs entries).listed group = s.listed group := rfl

theorem profileFull_savePayloads_of_notMem {entries : List (String × ProfileItem)}
    (h : guid ∉ entries.map Prod.fst) :
    (s.savePayloads rawConfigs entries).profileFull.get guid = s.profileFull.get guid := by
  refine KV.get_setAll_of_notMem ?_
  rwa [map_map]

theorem profileFull_savePayloads_of_mem {profiles : LinkedMap String ProfileItem}
    (h : (guid, profile) ∈ profiles.entries) :
    (s.savePayloads rawConfigs profiles.entries).profileFull.get guid = some (.json profile) := by
  refine KV.get_setAll_of_mem ?_ (mem_map.mpr ⟨_, h, rfl⟩)
  rw [map_map]
  exact profiles.nodup

section
variable (fold : Char → Char) (profiles : LinkedMap String ProfileItem)
  (rawConfigs : KV String String) (id : String) (append : Bool)

def replacedServers (s : Store) : List String := if append then [] else s.serverList id

def selectedProfile (s : Store) : Option ProfileItem :=
  match s.selected with
  | some guid =>
    if append = false ∧ guid ∈ s.replacedServers id append then s.serverConfig guid else none
  | none => none

def replacementSelection (s : Store) : Option String :=
  ProfileReplacement.findSelectedReplacement fold profiles s.selected (s.selectedProfile id append)

/-- The index a batch publishes. -/
def newServerList (s : Store) : List String :=
  publishKeys (if append then s.serverList id else []) profiles.keys

/-- The store after the payloads, the index and the selection of a batch are written. -/
def publishAll (s : Store) : Store :=
  ((s.savePayloads rawConfigs profiles.entries).setServerList id
    (s.newServerList profiles id append)).select (s.replacementSelection fold profiles id append)

def removablePayloads (s : Store) : List String :=
  let published := s.publishAll fold profiles rawConfigs id append
  ProfileReplacement.findRemovablePayloads (s.replacedServers id append) profiles.keys
    published.selected (published.serversReferencedByOtherGroups id)

/-- The effect of the locked section of `saveServerProfiles`. -/
def replaceAll (s : Store) : Store :=
  (s.publishAll fold profiles rawConfigs id append).removeProfilePayloads
    (s.removablePayloads fold profiles rawConfigs id append)

end
end Store

theorem run_savePayloads (rawConfigs : KV String String) (entries : List (String × ProfileItem))
    (s : Store) :
    (savePayloads rawConfigs entries).run s = (.ok (), s.savePayloads rawConfigs entries) := by
  induction entries generalizing s with
  | nil => rfl
  | cons e entries ih =>
    obtain ⟨guid, profile⟩ := e
    simp only [savePayloads, requireStorageWrite, run_require_bind]
    cases hraw : rawConfigs.get guid with
    | none =>
      refine (ih _).trans ?_
      simp only [Store.savePayloads, hraw, map_cons, filterMap_cons, Option.map_none]
      rfl
    | some raw =>
      refine (ih _).trans ?_
      simp only [Store.savePayloads, hraw, map_cons, filterMap_cons, Option.map_some]
      rfl

section
variable (fold : Char → Char) (profiles : LinkedMap String ProfileItem)
  (rawConfigs : KV String String) (id : String) (append : Bool) (s : Store)

theorem run_selectReplacement (guid : Option String) :
    (selectReplacement guid).run s = (.ok (), s.select guid) := by
  cases guid <;> rfl

theorem run_decodeReplacedServers :
    (decodeReplacedServers id append).run s = (.ok (s.replacedServers id append), s) := by
  cases append <;> rfl

theorem run_decodeSelectedProfile :
    (decodeSelectedProfile (s.replacedServers id append) append s.selected).run s =
      (.ok (s.selectedProfile id append), s) := by
  unfold Store.selectedProfile
  cases s.selected with
  | none => rfl
  | some guid => dsimp only [decodeSelectedProfile]; split <;> rfl

theorem run_decodeKeptServers :
    (decodeKeptServers id append).run s = (.ok (if append then s.serverList id else []), s) := by
  cases append <;> rfl

theorem run_replaceServerProfiles :
    (replaceServerProfiles fold profiles rawConfigs id append).run s =
      (.ok (), s.replaceAll fold profiles rawConfigs id append) := by
  unfold replaceServerProfiles
  rw [run_bind, run_decodeReplacedServers]
  dsimp only [getSelectServer]
  rw [run_read_bind, run_bind, run_decodeSelectedProfile]
  dsimp only
  rw [run_bind, run_savePayloads]
  dsimp only
  rw [run_bind, run_decodeKeptServers]
  dsimp only [requireStorageWrite]
  rw [run_require_bind, run_bind, run_selectReplacement]
  have hpub : ((s.savePayloads rawConfigs profiles.entries).setServerList id
      (publishKeys (if append then (s.savePayloads rawConfigs profiles.entries).serverList id else [])
        profiles.keys)).select (ProfileReplacement.findSelectedReplacement fold profiles s.selected
          (s.selectedProfile id append)) = s.publishAll fold profiles rawConfigs id append := rfl
  by_cases hnil : s.replacedServers id append = []
  · simp only [Store.replaceAll, Store.removablePayloads, hnil,
      ProfileReplacement.findRemovablePayloads_nil]
    rfl
  · rw [if_neg hnil]
    rfl

theorem run_saveServerProfiles :
    (saveServerProfiles fold profiles rawConfigs id append).run s =
      (.ok (), if profiles.entries = [] then s
        else s.replaceAll fold profiles rawConfigs id append) := by
  unfold saveServerProfiles withProfileIndexLock
  split
  · rfl
  · rw [run_withLock, run_replaceServerProfiles]

end

/-! ## Removals -/

namespace Store

/-- The group `removeServer` looks a server up in: its payload's, or the default group. -/
def homeGroup (s : Store) (guid : String) : String :=
  getSubscriptionId ((s.serverConfig guid).map (·.subscriptionId))

/-- The effect of `removeServer` on a non-blank guid. -/
def dropServer (s : Store) (guid : String) : Store :=
  (s.setServerList (s.homeGroup guid) ((s.listed (s.homeGroup guid)).erase guid)).forget [guid]

/-- The effect of `removeServerViaSubid`. -/
def dropGroup (s : Store) (id : String) : Store := (s.forget (s.listed id)).setServerList id []

/-- The effect of `unlistServers` with the current index. -/
def unlist (s : Store) (guids : List String) (id : String) : Store :=
  if (s.listed id).any (· ∈ guids) then s.setServerList id ((s.listed id).filter (· ∉ guids)) else s

end Store

theorem run_encodeServerList (servers : List String) (id : String) (s : Store) :
    (encodeServerList servers id).run s = (.ok (), s.setServerList id servers) :=
  run_withLock _ _

theorem run_clearSelectedServer (guid : String) (s : Store) :
    (clearSelectedServer selected guid).run s =
      (.ok (), if selected = some guid then s.clearSelected else s) := by
  unfold clearSelectedServer
  split <;> rfl

theorem Store.filter_selected (guid : String) :
    selected.filter (· ∉ [guid]) = if selected = some guid then none else selected := by
  cases selected with
  | none => rfl
  | some g => by_cases h : g = guid <;> simp [Option.filter, h]

theorem run_removeListed (guid : String) (s : Store) :
    (removeListed guid).run s = (.ok (), s.forget [guid]) := by
  unfold removeListed
  dsimp only [getSelectServer]
  rw [run_read_bind, run_bind, run_clearSelectedServer]
  simp only [run_write_bind, run_write, Store.forget, Store.filter_selected]
  split <;> rfl

theorem run_removeServer (hguid : isBlank guid = false) (s : Store) :
    (removeServer guid).run s = (.ok (), s.dropServer guid) := by
  unfold removeServer
  rw [if_neg (by rw [hguid]; decide)]
  dsimp only [decodeServerConfig, decodeServerList]
  rw [run_read_bind, run_read_bind, run_bind, run_encodeServerList]
  refine (run_removeListed guid _).trans ?_
  simp only [Store.dropServer, Store.homeGroup, Store.serverList, getSubscriptionId_idem]

/-- A blank guid is ignored. -/
theorem run_removeServer_ite (guid : String) (s : Store) : (removeServer guid).run s =
    (.ok (), if isBlank guid then s else s.dropServer guid) := by
  cases hblank : isBlank guid with
  | true =>
    rw [removeServer, if_pos hblank]
    rfl
  | false => exact run_removeServer hblank s

theorem foldl_forget (s : Store) :
    guids.foldl (fun s guid => s.forget [guid]) s = s.forget guids := by
  induction guids generalizing s with
  | nil => cases s with | mk selected _ _ _ _ _ _ => cases selected <;> rfl
  | cons guid guids ih => rw [foldl_cons, ih, Store.forget_forget, singleton_append]

theorem run_removeServerViaSubid (id : Option String) (s : Store) :
    (removeServerViaSubid id).run s = (.ok (), s.dropGroup (getSubscriptionId id)) := by
  unfold removeServerViaSubid
  dsimp only [decodeServerList]
  rw [run_read_bind, run_bind, run_forM run_removeListed]
  simp only [foldl_forget, run_encodeServerList, Store.dropGroup, Store.serverList,
    getSubscriptionId_idem]

/-- The effect of one round of `removeServers`. -/
theorem run_removePayloads (guid : String) (s : Store) :
    (removePayloads selected guid).run s =
      (.ok (), { s with
        selected := if selected = some guid then none else s.selected
        profileFull := s.profileFull.remove guid
        serverAff := s.serverAff.remove guid
        serverRaw := s.serverRaw.remove guid }) := by
  unfold removePayloads
  rw [run_bind, run_clearSelectedServer]
  simp only [run_write_bind, run_write]
  split <;> rfl

theorem run_removePayloads_forM (s : Store) :
    (guids.forM (removePayloads selected)).run s =
      (.ok (), { s with
        selected := if selected ∈ guids.map some then none else s.selected
        profileFull := s.profileFull.removeValuesForKeys guids
        serverAff := s.serverAff.removeValuesForKeys guids
        serverRaw := s.serverRaw.removeValuesForKeys guids }) := by
  induction guids generalizing s with
  | nil => rfl
  | cons guid guids ih =>
    change (removePayloads selected guid >>= fun _ => guids.forM _).run s = _
    rw [run_bind, run_removePayloads]
    refine (ih _).trans ?_
    by_cases h : selected = some guid
    · simp only [h, map_cons, mem_cons, true_or, if_true, ite_self]
      rfl
    · simp only [h, map_cons, mem_cons, false_or, if_false]
      rfl

/-- The effect of `removeServers`. -/
def Store.dropServers (s : Store) (guids : List String) (id : String) : Store :=
  { (s.unlist guids id).forget guids with serverRaw := s.serverRaw.removeValuesForKeys guids }

theorem Store.selected_forget (s : Store) (guids : List String) :
    (s.forget guids).selected = if s.selected ∈ guids.map some then none else s.selected := by
  change s.selected.filter (· ∉ guids) = _
  cases s.selected with
  | none => simp
  | some guid => by_cases h : guid ∈ guids <;> simp [Option.filter, h]

theorem Store.unlist_eq (s : Store) (guids : List String) (id : String) :
    ∃ subServers, s.unlist guids id = { s with subServers := subServers } := by
  unfold Store.unlist
  split
  · exact ⟨_, rfl⟩
  · exact ⟨_, rfl⟩

theorem run_unlistServers (id : String) (s : Store) :
    (unlistServers (s.listed (getSubscriptionId id)) guids (getSubscriptionId id)).run s =
      (.ok (), s.unlist guids (getSubscriptionId id)) := by
  unfold unlistServers Store.unlist
  split
  · exact run_encodeServerList _ _ _
  · rfl

theorem run_removeServers {guids : List String} (hne : guids ≠ []) (id : String) (s : Store) :
    (removeServers guids id).run s = (.ok (), s.dropServers guids (getSubscriptionId id)) := by
  unfold removeServers
  rw [if_neg hne]
  dsimp only [decodeServerList, Store.serverList, getSelectServer]
  rw [run_read_bind, getSubscriptionId_idem, run_bind, run_unlistServers]
  dsimp only
  refine (run_removePayloads_forM _ _ _).trans ?_
  obtain ⟨subServers, h⟩ := s.unlist_eq guids (getSubscriptionId id)
  simp only [Store.dropServers, h, ← Store.selected_forget]
  rfl

theorem Store.listed_unlist (s : Store) (guids : List String) (id group : String) :
    (s.unlist guids (getSubscriptionId id)).listed group =
      if group = getSubscriptionId id then (s.listed group).filter (· ∉ guids)
      else s.listed group := by
  unfold Store.unlist
  split
  · rw [Store.listed_setServerList, getSubscriptionId_idem]
    split
    · next h => rw [h]
    · rfl
  · next hany =>
    split
    · next h =>
      subst h
      rw [filter_eq_self.mpr]
      intro guid hguid
      by_contra hin
      exact hany (any_eq_true.mpr ⟨guid, hguid, by simpa using hin⟩)
    · rfl

/-! ## Clearing the store -/

namespace Store

/-- The store after `initSubsList`. -/
def initSubs (s : Store) : Store :=
  if s.subsList = [] then s.setSubsList s.sub.allKeys else s

/-- The subscriptions a list of IDs reads as. -/
def subscriptionsOf (s : Store) (ids : List String) : List (String × SubscriptionItem) :=
  ids.filterMap fun key => match s.sub.get key with
    | some (.json item) => some (key, item)
    | some .unreadable => some (key, {})
    | _ => none

/-- The result of `decodeSubscriptions`. -/
def subscriptions (s : Store) : List (String × SubscriptionItem) :=
  s.subscriptionsOf s.initSubs.subsList

/-- The effect of `removeAllServer`. -/
def dropAll (s : Store) : Store :=
  s.subscriptions.foldl (fun s sub => s.setServerList sub.1 [])
    { s.initSubs with profileFull := ∅, serverAff := ∅, serverRaw := ∅ }

end Store

theorem run_initSubsList (s : Store) : initSubsList.run s = (.ok (), s.initSubs) := by
  unfold initSubsList Store.initSubs decodeSubsList
  rw [run_read_bind]
  split <;> rfl

theorem run_readSubscriptions (ids : List String) (s : Store) :
    (readSubscriptions ids).run s = (.ok (s.subscriptionsOf ids), s) := by
  induction ids with
  | nil => rfl
  | cons key keys ih =>
    unfold readSubscriptions
    rw [run_read_bind, run_bind, ih]
    simp only [Store.subscriptionsOf, filterMap_cons]
    rcases s.sub.get key with _ | _ | _ | item <;> rfl

theorem run_decodeSubscriptions (s : Store) :
    decodeSubscriptions.run s = (.ok s.subscriptions, s.initSubs) := by
  unfold decodeSubscriptions
  rw [run_bind, run_initSubsList]
  dsimp only [decodeSubsList]
  rw [run_read_bind, run_readSubscriptions]
  have hsub : s.initSubs.sub = s.sub := by unfold Store.initSubs; split <;> rfl
  simp only [Store.subscriptions, Store.subscriptionsOf, hsub]

/-- Clearing the payload storages commutes with the subscription list's initialisation. -/
theorem Store.initSubs_clear (s : Store) :
    ({ s with profileFull := ∅, serverAff := ∅, serverRaw := ∅ } : Store).initSubs =
      { s.initSubs with profileFull := ∅, serverAff := ∅, serverRaw := ∅ } := by
  unfold Store.initSubs
  by_cases h : s.subsList = []
  · rw [if_pos h]
    change (if s.subsList = [] then _ else _) = _
    rw [if_pos h]
    rfl
  · rw [if_neg h]
    change (if s.subsList = [] then _ else _) = _
    rw [if_neg h]

theorem run_removeAllServer (s : Store) :
    removeAllServer.run s = (.ok s.profileFull.allKeys.length, s.dropAll) := by
  unfold removeAllServer
  rw [run_read_bind, run_write_bind, run_write_bind, run_write_bind,
    run_bind, run_decodeSubscriptions]
  dsimp only
  rw [run_bind, run_forM (fun sub s => run_encodeServerList [] sub.1 s)]
  simp only [Store.subscriptions, Store.initSubs_clear, run_pure, Store.dropAll]
  rfl

theorem Store.foldl_setServerList (subs : List (String × SubscriptionItem)) (s : Store) :
    ∃ subServers, subs.foldl (fun s sub => s.setServerList sub.1 []) s =
        { s with subServers := subServers } ∧
      ∀ group, ({ s with subServers := subServers } : Store).listed group =
        if ∃ sub ∈ subs, group = getSubscriptionId sub.1 then [] else s.listed group := by
  induction subs generalizing s with
  | nil => exact ⟨_, rfl, fun group => by simp⟩
  | cons sub subs ih =>
    obtain ⟨subServers, hs, hl⟩ := ih (s.setServerList sub.1 [])
    refine ⟨subServers, hs, fun group => (hl group).trans ?_⟩
    rw [Store.listed_setServerList]
    by_cases h₁ : ∃ sub ∈ subs, group = getSubscriptionId sub.1
    · rw [if_pos h₁, if_pos (by simp [h₁])]
    · by_cases h₂ : group = getSubscriptionId sub.1 <;> simp [h₁, h₂]

namespace Store

variable (s : Store)

/-- `removeAllServer` empties the groups of the subscriptions and no other. -/
theorem listed_dropAll (group : String) :
    s.dropAll.listed group =
      if ∃ sub ∈ s.subscriptions, group = getSubscriptionId sub.1 then [] else s.listed group := by
  obtain ⟨subServers, hs, hl⟩ := foldl_setServerList s.subscriptions
    { s.initSubs with profileFull := ∅, serverAff := ∅, serverRaw := ∅ }
  rw [dropAll, hs, hl]
  have hinit : s.initSubs.subServers = s.subServers := by unfold initSubs; split <;> rfl
  simp only [listed, hinit]

theorem serverConfig_dropAll (guid : String) : s.dropAll.serverConfig guid = none := by
  obtain ⟨subServers, hs, -⟩ := foldl_setServerList s.subscriptions
    { s.initSubs with profileFull := ∅, serverAff := ∅, serverRaw := ∅ }
  rw [dropAll, hs]
  simp [serverConfig]

theorem selected_dropAll : s.dropAll.selected = s.selected := by
  obtain ⟨subServers, hs, -⟩ := foldl_setServerList s.subscriptions
    { s.initSubs with profileFull := ∅, serverAff := ∅, serverRaw := ∅ }
  rw [dropAll, hs]
  unfold initSubs
  split <;> rfl

end Store

/-! ## Removing servers that failed their test -/

namespace Store

/-- The last test of `guid` failed. -/
def isInvalid (s : Store) (guid : String) : Bool :=
  match s.serverAffiliationInfo guid with
  | some aff => aff.testDelayMillis < 0
  | none => false

theorem isBlank_of_isInvalid {s : Store} (h : s.isInvalid guid = true) :
    isBlank guid = false := by
  unfold isInvalid serverAffiliationInfo at h
  cases hb : isBlank guid with
  | false => rfl
  | true => simp [hb] at h

/-- The effect of `removeInvalid`. -/
def dropInvalid (s : Store) (guids : List String) : Store :=
  guids.foldl (fun s guid => if s.isInvalid guid then s.dropServer guid else s) s

end Store

theorem exec_removeInvalid (s : Store) :
    ∃ count, (removeInvalid guids).run s = (.ok count, s.dropInvalid guids) := by
  induction guids generalizing s with
  | nil => exact ⟨0, rfl⟩
  | cons guid guids ih =>
    unfold removeInvalid
    dsimp only [decodeServerAffiliationInfo]
    rw [run_read_bind]
    simp only [Store.dropInvalid, foldl_cons]
    cases haff : s.serverAffiliationInfo guid with
    | none =>
      obtain ⟨count, hc⟩ := ih s
      have hv : s.isInvalid guid = false := by simp [Store.isInvalid, haff]
      exact ⟨count, by rw [hv]; exact hc⟩
    | some aff =>
      by_cases hneg : aff.testDelayMillis < 0
      · have hv : s.isInvalid guid = true := by simp [Store.isInvalid, haff, hneg]
        obtain ⟨count, hc⟩ := ih (s.dropServer guid)
        refine ⟨count + 1, ?_⟩
        dsimp only
        rw [if_pos hneg, if_pos hv, run_bind, run_removeServer (Store.isBlank_of_isInvalid hv)]
        dsimp only
        rw [run_bind, hc]
        rfl
      · have hv : s.isInvalid guid = false := by simp [Store.isInvalid, haff, hneg]
        obtain ⟨count, hc⟩ := ih s
        exact ⟨count, by dsimp only; rw [if_neg hneg, hv]; exact hc⟩

/-- The servers `removeInvalidServer` looks at. -/
def Store.testedServers (s : Store) (guid : String) : List String :=
  if guid ≠ "" then [guid] else s.serverAff.allKeys

theorem exec_removeInvalidServer (guid : String) (s : Store) :
    (removeInvalidServer guid).exec s = s.dropInvalid (s.testedServers guid) := by
  unfold removeInvalidServer Store.testedServers exec
  split
  · obtain ⟨count, hc⟩ := exec_removeInvalid [guid] s
    rw [hc]
  · obtain ⟨count, hc⟩ := exec_removeInvalid s.serverAff.allKeys s
    rw [run_read_bind, hc]

/-! ## Orphans, subscriptions and test results -/

namespace Store

variable (s : Store)

theorem mem_indexedServersBySubscription (h : guid ∈ s.listed group) :
    ∃ servers, (group, some servers) ∈ s.indexedServersBySubscription ∧ guid ∈ servers := by
  unfold listed at h
  cases hg : s.subServers.get group with
  | none => simp [hg] at h
  | some entry =>
    cases hd : entry.decode with
    | none => simp [hg, hd] at h
    | some servers =>
      refine ⟨servers, mem_map.mpr ⟨group, KV.mem_allKeys_of_get hg, ?_⟩, ?_⟩
      · rw [hg, Option.bind_some, hd]
      · simpa [hg, hd] using h

/-- An orphan is neither selected nor listed. -/
theorem orphans_spec {s : Store} {orphans : List String} (h : s.orphans = some orphans)
    (hg : guid ∈ orphans) : s.selected ≠ some guid ∧ ∀ group, guid ∉ s.listed group := by
  obtain ⟨hsel, hidx⟩ := OrphanProfileCleaner.findOrphans_spec h hg
  refine ⟨hsel.symm, fun group hin => ?_⟩
  obtain ⟨servers, hmem, hin⟩ := s.mem_indexedServersBySubscription hin
  exact hidx group servers hmem hin

/-- The effect of `removeOrphanedServerProfiles`. -/
def dropOrphans : Store := s.removeProfilePayloads (s.orphans.getD [])

end Store

theorem exec_removeOrphanedServerProfiles (s : Store) :
    removeOrphanedServerProfiles.exec s = s.dropOrphans := by
  unfold removeOrphanedServerProfiles withProfileIndexLock exec Store.dropOrphans
  rw [run_withLock, run_read_bind]
  cases s.orphans <;> rfl

/-- `removeSubscription` drops the group; beyond that it changes the subscription tables only. -/
theorem exec_removeSubscription (id : String) (s : Store) :
    ∃ sub subIds, (removeSubscription id).exec s =
      ({ s with sub := sub, subIds := subIds } : Store).dropGroup (getSubscriptionId id) := by
  refine ⟨s.sub.remove id, some (.json (s.subsList.erase id)), ?_⟩
  unfold removeSubscription exec
  dsimp only [decodeSubsList, encodeSubsList]
  rw [run_write_bind, run_read_bind, run_write_bind, run_removeServerViaSubid]
  rfl

theorem exec_encodeSubscription (guid uuid : String) (item : SubscriptionItem) (s : Store) :
    ∃ sub subIds, (encodeSubscription guid uuid item).exec s =
      { s with sub := sub, subIds := subIds } := by
  unfold encodeSubscription exec
  generalize (if isBlank guid then uuid else guid) = key
  dsimp only [decodeSubsList, encodeSubsList]
  rw [run_write_bind, run_read_bind]
  split
  · exact ⟨_, _, rfl⟩
  · exact ⟨_, _, rfl⟩

theorem exec_encodeServerTestDelayMillis (guid : String) (delay : Int) (s : Store) :
    ∃ serverAff, (encodeServerTestDelayMillis guid delay).exec s =
      { s with serverAff := serverAff } := by
  unfold encodeServerTestDelayMillis
  split
  · exact ⟨_, rfl⟩
  · exact ⟨_, rfl⟩

end ZeroVpn
