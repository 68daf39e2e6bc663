import ZeroVpn.Ui.MainViewModel
import ZeroVpn.Handler.StoreViews
import ZeroVpn.Std.Run

/-!
# Drags and the stored order

A drag moves a row of the shown list and has the whole list stored as the index of its group. Lists of
a group are also held by the cache, by the loads, by the snapshot of a search and by the orders to be
stored. While no refresh comes between, each of them is a permutation of the stored index, and so is
the shown list once no search and no load of the group is under way (`InStep`).
-/

namespace ZeroVpn
open MmkvManager List

/-- The groups that a search still has to show. -/
def FilterJob.rest : FilterJob → List (String × List ServersCache)
  | .updating rest => rest
  | _ => []

def Load.groupId : Load → String
  | .guids groupId _ | .servers groupId _ => groupId

def Load.index : Load → List String
  | .guids _ index => index
  | .servers _ rows => rows.map (·.guid)

/-- The servers of a group that a load has still to read. -/
def Load.unread : Load → List String
  | .guids groupId index => if groupId = "" then [] else index
  | .servers _ _ => []

namespace ListState

/-- What an event stores for a group is a permutation of the index stored before. -/
def WritesPermutation (st : ListState) (event : ListEvent) : Prop :=
  ∀ groupId guids, st.writes event = some (groupId, guids) →
    guids.Perm (st.store.serverList groupId)

/-- The group is loaded, and its list is shown without a search: the box is empty, and neither a search
nor a load of the group has still to show it. -/
structure Settled (st : ListState) (groupId : String) : Prop where
  keyword : Text.trim st.keywordFilter = ""
  notDelayed : st.filterJob ≠ .delayed
  notSearched : ∀ entry ∈ st.filterJob.rest, entry.1 ≠ groupId
  notLoading : ∀ load ∈ st.loads, load.groupId ≠ groupId
  cached : groupId ∈ st.groupDataCache.allKeys

/-- When an event may happen. `stale` are the groups that were refreshed and of which older lists may
still be held. -/
def InTime (stale : List String) (st : ListState) : ListEvent → Prop
  | .moveServer groupId _ _ => st.canReorder groupId = true →
    st.Settled groupId ∧ getSubscriptionId groupId ∉ stale
  | .refresh _ _ subscriptionId _ => ∀ job ∈ st.orderJobs,
    getSubscriptionId job.groupId ≠ getSubscriptionId subscriptionId
  | .clearCache => st.orderJobs = []
  -- a server whose profile cannot be read is left out of the list
  | .loadStep n => ∀ load ∈ st.loads[n]?, ∀ guid ∈ load.unread,
    (st.store.serverConfig guid).isSome = true
  | _ => True

/-- A refresh makes the lists of its group stale, until the cache is cleared while no load and no
search holds a list. -/
def staleAfter (stale : List String) (st : ListState) : ListEvent → List String
  | .refresh _ _ subscriptionId _ => getSubscriptionId subscriptionId :: stale
  | .clearCache => if st.loads.isEmpty && st.filterJob.rest.isEmpty then [] else stale
  | _ => stale

/-- Every event of a run happens in time. -/
def KeepsTime (matchesKeyword : String → ProfileItem → Bool) (fold : Char → Char) :
    List String → ListState → List ListEvent → Prop
  | _, _, [] => True
  | stale, st, event :: events => st.InTime stale event ∧
    KeepsTime matchesKeyword fold (st.staleAfter stale event) (st.step matchesKeyword fold event)
      events

/-- A list of a group permutes its index, unless the group is stale. The list of all groups has no
index of its own. -/
def Agrees (stale : List String) (st : ListState) (groupId : String) (guids : List String) : Prop :=
  groupId ≠ "" → getSubscriptionId groupId ∉ stale → guids.Perm (st.store.serverList groupId)

/-- The lists that the view model holds agree with the store; a shown list does once it is settled, and
an order even if its group is stale. -/
structure InStep (stale : List String) (st : ListState) : Prop where
  cached : ∀ groupId servers, st.groupDataCache.get groupId = some servers →
    st.Agrees stale groupId (servers.map (·.guid))
  loads : ∀ load ∈ st.loads, st.Agrees stale load.groupId load.index
  searched : ∀ entry ∈ st.filterJob.rest, st.Agrees stale entry.1 (entry.2.map (·.guid))
  orders : ∀ job ∈ st.orderJobs,
    (job.servers.map (·.guid)).Perm (st.store.serverList job.groupId) ∧
      job.groupId ∈ st.groupDataCache.allKeys
  shown : ∀ groupId, st.Settled groupId →
    st.Agrees stale groupId ((st.shown groupId).map (·.guid))

variable {matchesKeyword : String → ProfileItem → Bool} {fold : Char → Char} {st : ListState}
  {stale : List String}

theorem inStep_start (store : Store) : InStep [] { store } where
  cached _ _ h := by cases h
  loads _ h := by cases h
  searched _ h := by cases h
  orders _ h := by cases h
  shown _ h := by cases h.cached

theorem mem_markWritten {job : OrderJob} (h : job ∈ markWritten groupId jobs) :
    ∃ before ∈ jobs, job.groupId = before.groupId ∧ job.servers = before.servers := by
  induction jobs with
  | nil => cases h
  | cons first jobs ih =>
    rw [markWritten] at h
    split at h
    · rcases mem_cons.mp h with rfl | h
      · exact ⟨first, mem_cons_self, rfl, rfl⟩
      · exact ⟨job, mem_cons_of_mem _ h, rfl, rfl⟩
    · rcases mem_cons.mp h with rfl | h
      · exact ⟨job, mem_cons_self, rfl, rfl⟩
      · obtain ⟨before, hbefore, hjob⟩ := ih h
        exact ⟨before, mem_cons_of_mem _ hbefore, hjob⟩

theorem nextOrder_eq_some {job : OrderJob} (h : st.nextOrder groupId = some job) :
    job ∈ st.orderJobs ∧ job.groupId = groupId :=
  ⟨mem_of_find?_eq_some h, by simpa using find?_some h⟩

theorem InStep.writes (h : InStep stale st) (event : ListEvent) : st.WritesPermutation event := by
  intro groupId guids hwrites
  unfold ListState.writes at hwrites
  split at hwrites
  · split at hwrites
    · next job hnext =>
      split at hwrites
      · cases hwrites
      · cases hwrites
        obtain ⟨hmem, rfl⟩ := nextOrder_eq_some hnext
        exact (h.orders job hmem).1
    · cases hwrites
  · cases hwrites

/-! ## One step -/

/-- With no keyword the whole of a list is shown. -/
theorem agrees_shown_update {servers : List ServersCache}
    (hkeyword : Text.trim st.keywordFilter = "")
    (hnew : st.Agrees stale groupId (servers.map (·.guid)))
    (hold : groupId' ≠ groupId → st.Agrees stale groupId' ((st.shown groupId').map (·.guid))) :
    st.Agrees stale groupId'
      (((st.updateGroupUi matchesKeyword groupId servers).shown groupId').map (·.guid)) := by
  by_cases hgroup : groupId' = groupId
  · subst hgroup
    simpa only [updateGroupUi, setShown, Function.update_self, applyKeywordFilter, if_pos hkeyword]
      using hnew
  · simpa only [updateGroupUi, setShown, Function.update_of_ne hgroup] using hold hgroup

theorem InStep.agrees_of_set (h : InStep stale st) {groupId groupId' : String}
    {servers servers' : List ServersCache} (hnew : st.Agrees stale groupId (servers.map (·.guid)))
    (hget : (st.groupDataCache.set groupId servers).get groupId' = some servers') :
    st.Agrees stale groupId' (servers'.map (·.guid)) := by
  rw [KV.get_set] at hget
  split at hget
  · next hgroup =>
    cases hget
    rwa [hgroup]
  · exact h.cached groupId' servers' hget

theorem InStep.filterStep (h : InStep stale st) : InStep stale (st.filterStep matchesKeyword) := by
  unfold ListState.filterStep
  split
  · exact h
  · next hjob =>
    have hsnapshot : ∀ groupId servers, st.groupDataCache.get groupId = some servers ↔
        (groupId, servers) ∈ st.groupDataCache.allKeys.filterMap fun groupId =>
          (st.groupDataCache.get groupId).map fun servers => (groupId, servers) := by
      intro groupId servers
      simp only [mem_filterMap, Option.map_eq_some_iff, Prod.mk.injEq]
      constructor
      · exact fun hget => ⟨groupId, KV.mem_allKeys_of_get hget, servers, hget, rfl, rfl⟩
      · rintro ⟨_, -, _, hget, rfl, rfl⟩
        exact hget
    refine { h with
      searched := fun entry hentry => h.cached _ _ ((hsnapshot _ _).mpr hentry)
      shown := fun groupId hsettled => ?_ }
    -- every cached group is in the snapshot, so that none is settled
    obtain ⟨servers, hget⟩ := Option.isSome_iff_exists.mp (KV.mem_allKeys.mp hsettled.cached)
    exact absurd rfl (hsettled.notSearched _ ((hsnapshot _ _).mp hget))
  · next hjob =>
    refine { h with searched := nofun, shown := fun groupId hsettled => ?_ }
    exact h.shown groupId { hsettled with
      notDelayed := by simp [hjob], notSearched := by simp [hjob, FilterJob.rest] }
  · next groupId servers rest hjob =>
    have hrest : st.filterJob.rest = (groupId, servers) :: rest := by rw [hjob, FilterJob.rest]
    refine { h with
      searched := fun entry hentry => h.searched entry (by rw [hrest]; exact .tail _ hentry)
      shown := fun groupId' hsettled => agrees_shown_update hsettled.keyword
        (h.searched (groupId, servers) (by rw [hrest]; exact .head _)) fun hgroup => ?_ }
    refine h.shown groupId' { hsettled with notDelayed := by simp [hjob], notSearched := ?_ }
    rw [hrest]
    exact forall_mem_cons.mpr ⟨Ne.symm hgroup, hsettled.notSearched⟩

theorem InStep.clearCache (h : InStep stale st) (horders : st.orderJobs = []) :
    InStep (st.staleAfter stale .clearCache) { st with groupDataCache := ∅ } where
  cached _ _ hget := by cases hget
  loads := by
    simp only [staleAfter]
    split
    · next hidle => simp_all
    · exact h.loads
  searched := by
    simp only [staleAfter]
    split
    · next hidle => simp_all
    · exact h.searched
  orders := by simp [horders]
  shown _ hsettled := by cases hsettled.cached

/-- A settled group was settled before a load was started. -/
theorem InStep.load (h : InStep stale st) (load : Load)
    (hload : st.Agrees stale load.groupId load.index) :
    InStep stale { st with loads := st.loads ++ [load] } := by
  exact { h with
    loads := forall_mem_append.mpr ⟨h.loads, forall_mem_singleton.mpr hload⟩
    shown := fun groupId hsettled => h.shown groupId { hsettled with
      notLoading := (forall_mem_append.mp hsettled.notLoading).1 } }

theorem InStep.startLoad (h : InStep stale st) (groupId : String) (forceRefresh : Bool) :
    InStep stale (st.startLoad groupId forceRefresh) := by
  unfold ListState.startLoad
  split
  · next servers hcached =>
    refine h.load (.servers groupId servers) (h.cached groupId servers ?_)
    cases forceRefresh with
    | false => exact hcached
    | true => cases hcached
  · refine h.load (.guids groupId _) fun hgroup _ => .of_eq ?_
    exact if_neg hgroup

theorem map_guid_serversCache {s : Store} {guids : List String}
    (h : ∀ guid ∈ guids, (s.serverConfig guid).isSome = true) :
    (s.serversCache guids).map (·.guid) = guids := by
  induction guids with
  | nil => rfl
  | cons guid guids ih =>
    obtain ⟨profile, hprofile⟩ := Option.isSome_iff_exists.mp (h guid mem_cons_self)
    have hrest := ih fun guid' hguid' => h guid' (mem_cons_of_mem _ hguid')
    rw [Store.serversCache, filterMap_cons, Store.cacheOf, hprofile]
    exact congrArg (guid :: ·) hrest

theorem other_load {n : Nat} {load other : Load} (hload : st.loads[n]? = some load)
    (h : other ∈ st.loads) (hne : other.groupId ≠ load.groupId) :
    ∃ i, i ≠ n ∧ st.loads[i]? = some other := by
  obtain ⟨i, hi⟩ := mem_iff_getElem?.mp h
  refine ⟨i, ?_, hi⟩
  rintro rfl
  rw [hload] at hi
  exact hne (congrArg Load.groupId (Option.some.inj hi)).symm

theorem InStep.loadStep (h : InStep stale st) {n : Nat} (hread : st.InTime stale (.loadStep n)) :
    InStep stale (st.loadStep matchesKeyword n) := by
  unfold ListState.loadStep
  split
  · exact h
  · next groupId guids hload =>
    have hmem := List.mem_of_getElem? hload
    have hguids : st.Agrees stale groupId ((st.store.serversCache guids).map (·.guid)) := by
      intro hgroup
      rw [map_guid_serversCache]
      · exact h.loads _ hmem hgroup
      · simpa [Load.unread, hgroup] using hread _ hload
    refine { h with
      cached := fun groupId' servers hget => h.agrees_of_set hguids hget
      loads := fun load hmem' => ?_
      orders := fun job hjob => (h.orders job hjob).imp_right fun hcached =>
        KV.mem_allKeys_set.mpr (.inr hcached)
      shown := fun groupId' hsettled => ?_ }
    · rcases List.mem_or_eq_of_mem_set hmem' with hmem' | rfl
      · exact h.loads load hmem'
      · exact hguids
    · -- the rows of the loaded group are still to be shown
      have hother : groupId' ≠ groupId := fun hgroup =>
        hsettled.notLoading _ (List.mem_set (List.getElem?_eq_some_iff.mp hload).1 _) hgroup.symm
      refine h.shown groupId' { hsettled with notLoading := fun load hmem' hload' => ?_, cached := ?_ }
      · obtain ⟨i, hi, hget⟩ := other_load hload hmem' (hload' ▸ hother)
        refine hsettled.notLoading load (List.mem_of_getElem? (i := i) ?_) hload'
        rw [List.getElem?_set_ne hi.symm]
        exact hget
      · exact (KV.mem_allKeys_set.mp hsettled.cached).resolve_left hother
  · next groupId servers hload =>
    refine { h with
      loads := fun load hmem => h.loads load (List.mem_of_mem_eraseIdx hmem)
      shown := fun groupId' hsettled => agrees_shown_update hsettled.keyword
        (h.loads _ (List.mem_of_getElem? hload)) fun hgroup => ?_ }
    refine h.shown groupId' { hsettled with notLoading := fun load hmem hload' => ?_ }
    obtain ⟨i, hi, hget⟩ := other_load hload hmem (hload' ▸ hgroup)
    exact hsettled.notLoading load (List.mem_eraseIdx_iff_getElem?.mpr ⟨i, hi, hget⟩) hload'

/-- The store changes; the indexes of the groups that are not stale afterwards are permuted. -/
theorem InStep.reindex (h : InStep stale st) {store : Store}
    (hindex : ∀ groupId : String, getSubscriptionId groupId ∉ stale' →
      getSubscriptionId groupId ∉ stale ∧ (st.store.serverList groupId).Perm (store.serverList groupId))
    (horders : ∀ job ∈ st.orderJobs,
      (st.store.serverList job.groupId).Perm (store.serverList job.groupId)) :
    InStep stale' { st with store } := by
  have hagrees : ∀ {groupId guids}, st.Agrees stale groupId guids →
      Agrees stale' { st with store } groupId guids := fun hguids hgroup hfresh =>
    (hguids hgroup (hindex _ hfresh).1).trans (hindex _ hfresh).2
  exact {
    cached := fun groupId servers hget => hagrees (h.cached groupId servers hget)
    loads := fun load hload => hagrees (h.loads load hload)
    searched := fun entry hentry => hagrees (h.searched entry hentry)
    orders := fun job hjob => (h.orders job hjob).imp_left fun hperm =>
      hperm.trans (horders job hjob)
    shown := fun groupId hsettled => hagrees (h.shown groupId { hsettled with }) }

theorem InStep.refresh (h : InStep stale st) {subscriptionId : String}
    (hother : ∀ job ∈ st.orderJobs,
      getSubscriptionId job.groupId ≠ getSubscriptionId subscriptionId) :
    InStep (getSubscriptionId subscriptionId :: stale) { st with
      store := (saveServerProfiles fold profiles rawConfigs subscriptionId append).exec st.store } := by
  have hsame : ∀ groupId : String, getSubscriptionId groupId ≠ getSubscriptionId subscriptionId →
      ((saveServerProfiles fold profiles rawConfigs subscriptionId append).exec
        st.store).serverList groupId = st.store.serverList groupId := by
    intro groupId hgroup
    rw [Prog.exec, run_saveServerProfiles]
    split
    · rfl
    · rw [Store.serverList, Store.listed_replaceAll, if_neg hgroup]
      rfl
  refine h.reindex (fun groupId hfresh => ?_) fun job hjob => ?_
  · rw [mem_cons, not_or] at hfresh
    exact ⟨hfresh.2, .of_eq (hsame groupId hfresh.1).symm⟩
  · exact .of_eq (hsame job.groupId (hother job hjob)).symm

theorem InStep.moveServer (h : InStep stale st) (hsettled : st.canReorder groupId = true →
      st.Settled groupId ∧ getSubscriptionId groupId ∉ stale) :
    InStep stale (st.moveServer groupId fromPosition toPosition) := by
  unfold ListState.moveServer
  split
  · next hallowed =>
    split
    · next servers hmove =>
      obtain ⟨hsettled, hfresh⟩ := hsettled hallowed
      have hgroup : groupId ≠ "" := by
        rw [canReorder, Bool.and_eq_true, bne_iff_ne] at hallowed
        exact hallowed.1
      have hservers : (servers.map (·.guid)).Perm (st.store.serverList groupId) :=
        ((moveItem_perm hmove).map _).trans (h.shown groupId hsettled hgroup hfresh)
      refine { h with
        orders := forall_mem_append.mpr ⟨h.orders,
          forall_mem_singleton.mpr ⟨hservers, hsettled.cached⟩⟩
        shown := fun groupId' hsettled' => ?_ }
      by_cases hsame : groupId' = groupId
      · subst hsame
        simp only [setShown, Function.update_self]
        exact fun _ _ => hservers
      · simp only [setShown, Function.update_of_ne hsame]
        exact h.shown groupId' { hsettled' with }
    · exact h
  · exact h

/-- A stored order permutes the index, so that the lists that agreed with it still do. -/
theorem InStep.persistStep (h : InStep stale st) (groupId : String) :
    InStep stale (st.persistStep groupId) := by
  unfold ListState.persistStep
  split
  · exact h
  · next job hnext =>
    obtain ⟨hmem, rfl⟩ := nextOrder_eq_some hnext
    split
    · obtain ⟨hperm, hcached⟩ := h.orders job hmem
      exact { h with
        cached := fun groupId servers hget => h.agrees_of_set (fun _ _ => hperm) hget
        orders := fun job' hjob' => (h.orders job' (eraseP_subset hjob')).imp_right fun hold =>
          KV.mem_allKeys_set.mpr (.inr hold)
        shown := fun groupId hsettled => h.shown groupId { hsettled with
          cached := (KV.mem_allKeys_set.mp hsettled.cached).elim (fun hgroup => hgroup ▸ hcached) id } }
    · have hindex : ∀ groupId, (st.store.serverList groupId).Perm
          ((st.store.setServerList job.groupId (job.servers.map (·.guid))).serverList groupId) := by
        intro groupId
        rw [Store.serverList, Store.serverList, Store.listed_setServerList]
        split
        · next hgroup =>
          rw [hgroup]
          exact (h.orders job hmem).1.symm
        · rfl
      have hstored : InStep stale _ := h.reindex
        (fun groupId hfresh => ⟨hfresh, hindex groupId⟩) fun job _ => hindex job.groupId
      refine { hstored with
        orders := fun job' hjob' => ?_
        shown := fun groupId hsettled => hstored.shown groupId { hsettled with } }
      obtain ⟨before, hbefore, hgroup, hservers⟩ := mem_markWritten hjob'
      rw [hgroup, hservers]
      exact hstored.orders before hbefore

theorem InStep.step (event : ListEvent) (h : InStep stale st) (htime : st.InTime stale event) :
    InStep (st.staleAfter stale event) (st.step matchesKeyword fold event) := by
  cases event with
  | filterConfig keyword =>
    rw [ListState.step]
    split
    · exact h
    · exact { h with searched := nofun, shown := fun _ hsettled => absurd rfl hsettled.notDelayed }
  | filterStep => exact h.filterStep
  | clearCache => exact h.clearCache htime
  | startLoad groupId forceRefresh => exact h.startLoad groupId forceRefresh
  | loadStep n => exact h.loadStep htime
  | refresh profiles rawConfigs subscriptionId append => exact h.refresh htime
  | moveServer groupId fromPosition toPosition => exact h.moveServer htime
  | persistStep groupId => exact h.persistStep groupId

/-! ## Whole runs -/

theorem InStep.run (h : InStep stale st) (htime : KeepsTime matchesKeyword fold stale st events) :
    Run.StepsMeet (ListState.step matchesKeyword fold) WritesPermutation st events := by
  induction events generalizing stale st with
  | nil => trivial
  | cons event events ih => exact ⟨h.writes event, ih (h.step event htime.1) htime.2⟩

end ListState

open ListState

/-- Every order that a run of a new view model stores is a permutation of the index before, if each drag
starts with no search text, search or load of its group under way, in a group that is loaded and not
refreshed since, if each list is cached with all its servers, and if neither a refresh of a group nor
the clearing of the cache overtakes an order. -/
theorem drags_permute (matchesKeyword : String → ProfileItem → Bool) (fold : Char → Char)
    (store : Store) (events : List ListEvent)
    (htime : KeepsTime matchesKeyword fold [] { store } events) :
    Run.StepsMeet (ListState.step matchesKeyword fold) WritesPermutation { store } events :=
  (inStep_start store).run htime

/-! ## A drag in a filtered list -/

/-- A group with the servers `x`, `y` and `z`. -/
def threeServers : Store :=
  (((({} : Store).setServerConfig "x" { configType := .socks, remarks := "x1" }).setServerConfig "y"
    { configType := .socks, remarks := "x2" }).setServerConfig "z"
      { configType := .socks, remarks := "z" }).setServerList "g" ["x", "y", "z"]

/-- The search for `x` is shown, then cleared, and a row is dragged before the list is recomputed. -/
def dragAfterSearch : List ListEvent :=
  [.startLoad "g" true, .loadStep 0, .loadStep 0, .filterConfig "x", .filterStep, .filterStep,
    .filterConfig "", .moveServer "g" 0 1]

def remarksContain (keyword : String) (p : ProfileItem) : Bool := Text.contains p.remarks keyword

theorem drag_after_search_drops :
    let st := dragAfterSearch.foldl (ListState.step remarksContain id) { store := threeServers }
    st.writes (.persistStep "g") = some ("g", ["y", "x"]) ∧
      st.store.serverList "g" = ["x", "y", "z"] := by
  decide

/-- The search is shown and cleared again, and its list is recomputed before the drag. -/
theorem drag_whole_list :
    let events : List ListEvent := [.startLoad "g" true, .loadStep 0, .loadStep 0,
      .filterConfig "x", .filterStep, .filterStep, .filterStep, .filterConfig "", .filterStep,
      .filterStep, .filterStep, .moveServer "g" 0 1, .persistStep "g", .persistStep "g"]
    Run.StepsMeet (ListState.step remarksContain id) WritesPermutation { store := threeServers }
      events := by
  refine drags_permute remarksContain id threeServers _ ⟨trivial, ?_, ?_, trivial, trivial,
    trivial, trivial, trivial, trivial, trivial, trivial, fun _ => ⟨?_, nofun⟩, trivial, trivial,
    trivial⟩
  · rintro _ ⟨⟩
    decide
  · rintro _ ⟨⟩
    decide
  · exact ⟨by decide, nofun, by decide, by decide, by decide⟩

end ZeroVpn
