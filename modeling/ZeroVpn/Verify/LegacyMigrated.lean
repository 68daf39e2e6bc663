import ZeroVpn.Handler.LegacyMigration
import Mathlib.Data.List.Count

/-!
# The legacy migration and what is visible afterwards

The migration splits the legacy list by the subscription of each payload, while `decodeAllServerList`
enumerates the groups of `SUB_IDS`. A server is visible once for every time its group is enumerated.
-/

namespace ZeroVpn
open MmkvManager SettingsManager AppConfig List Prog Store

namespace Store

variable {s : Store}

/-- The group of a server with a readable payload. -/
def groupOf (s : Store) (guid : String) : Option String :=
  (s.serverConfig guid).map fun config => getSubscriptionId config.subscriptionId

/-- The servers of a list that belong to a group, in their order. -/
def membersOf (s : Store) (guids : List String) (group : String) : List String :=
  guids.filter fun guid => s.groupOf guid = some group

/-- The groups `decodeAllServerList` enumerates. -/
def enumerated (s : Store) : List String :=
  (if AppConfig.defaultSubscriptionId ∈ s.subsList then [] else [AppConfig.defaultSubscriptionId]) ++
    s.subsList.map fun id : String => getSubscriptionId (some id)

theorem allServerList_eq (s : Store) : s.allServerList = s.enumerated.flatMap s.listed := by
  have hdefault : getSubscriptionId defaultSubscriptionId =
      defaultSubscriptionId := by decide
  have hlist : s.serverList = fun id : String => s.listed (getSubscriptionId id) := rfl
  unfold allServerList enumerated
  rw [flatMap_append, flatMap_map, hlist]
  dsimp only
  split
  · rw [flatMap_nil]
  · rw [hdefault, flatMap_singleton]

theorem getSubscriptionId_ne_empty (id : Option String) : getSubscriptionId id ≠ "" := by
  cases id with
  | none => decide
  | some id =>
    rw [getSubscriptionId, Text.ifEmpty]
    split
    · decide
    · next h => exact h

/-! ## How often a group is enumerated -/

theorem subsList_nodup (s : Store) : s.subsList.Nodup := nodup_eraseDups _

/-- The default group is also enumerated for an empty ID. -/
theorem count_map_default (ids : List String) :
    (ids.map fun id : String => getSubscriptionId (some id)).count defaultSubscriptionId =
      ids.count defaultSubscriptionId + ids.count "" := by
  induction ids with
  | nil => rfl
  | cons id ids ih =>
    rw [map_cons, count_cons, count_cons, count_cons]
    by_cases hempty : id = ""
    · subst hempty
      have h₁ : (getSubscriptionId (some "") == defaultSubscriptionId) = true := by decide
      have h₂ : ("" == defaultSubscriptionId) = false := by decide
      rw [h₁, h₂]
      simp
      omega
    · have hself : getSubscriptionId (some id) = id := by simp [getSubscriptionId, Text.ifEmpty, hempty]
      have hne : (id == "") = false := by simp [hempty]
      rw [hself, hne]
      simp
      omega

theorem count_map_of_ne (hdefault : group ≠ defaultSubscriptionId) (hgroup : group ≠ "")
    (ids : List String) :
    (ids.map fun id : String => getSubscriptionId (some id)).count group = ids.count group := by
  induction ids with
  | nil => rfl
  | cons id ids ih =>
    rw [map_cons, count_cons, count_cons, ih]
    by_cases hempty : id = ""
    · subst hempty
      have h₁ : (getSubscriptionId (some "") == group) = false := by
        simpa [getSubscriptionId, Text.ifEmpty] using Ne.symm hdefault
      have h₂ : ("" == group) = false := by simpa using Ne.symm hgroup
      rw [h₁, h₂]
    · have hself : getSubscriptionId (some id) = id := by simp [getSubscriptionId, Text.ifEmpty, hempty]
      rw [hself]

theorem count_enumerated_default (s : Store) :
    s.enumerated.count defaultSubscriptionId = 1 ↔ "" ∉ s.subsList := by
  rw [enumerated, count_append, count_map_default, s.subsList_nodup.count, s.subsList_nodup.count]
  by_cases hdefault : defaultSubscriptionId ∈ s.subsList
  · by_cases hempty : "" ∈ s.subsList <;> simp [hdefault, hempty]
  · by_cases hempty : "" ∈ s.subsList <;> simp [hdefault, hempty]

theorem count_enumerated_of_ne (hne : group ≠ defaultSubscriptionId) (hgroup : group ≠ "") :
    s.enumerated.count group = 1 ↔ group ∈ s.subsList := by
  have hother : (if defaultSubscriptionId ∈ s.subsList then []
      else [defaultSubscriptionId]).count group = 0 := by
    rw [count_eq_zero]
    split
    · exact not_mem_nil
    · rw [mem_singleton]
      exact hne
  rw [enumerated, count_append, hother, count_map_of_ne hne hgroup, s.subsList_nodup.count]
  by_cases hmem : group ∈ s.subsList <;> simp [hmem]

/-- The group is shown once: the default group unless `SUB_IDS` has an empty ID, another one if
`SUB_IDS` has it. -/
def ShownOnce (s : Store) (group : String) : Prop :=
  if group = AppConfig.defaultSubscriptionId then "" ∉ s.subsList else group ∈ s.subsList

theorem count_enumerated_iff (hgroup : group ≠ "") :
    s.enumerated.count group = 1 ↔ s.ShownOnce group := by
  unfold ShownOnce
  split
  · next h => rw [h, count_enumerated_default]
  · next h => exact count_enumerated_of_ne h hgroup

/-! ## The members of the groups -/

section
variable {guids : List String} {group : String}

theorem groupOf_ne_empty (h : s.groupOf guid = some group) : group ≠ "" := by
  obtain ⟨config, -, rfl⟩ := Option.map_eq_some_iff.mp h
  exact getSubscriptionId_ne_empty _

theorem count_membersOf (hnodup : guids.Nodup) (hguid : guid ∈ guids)
    (hgroup : s.groupOf guid = some group) (groups : List String) :
    (groups.flatMap (s.membersOf guids)).count guid = groups.count group := by
  induction groups with
  | nil => rfl
  | cons other groups ih =>
    rw [flatMap_cons, count_append, ih, count_cons, Nat.add_comm]
    refine congrArg _ ?_
    have hmem : guid ∈ s.membersOf guids other ↔ other = group := by
      simp [membersOf, hguid, hgroup, eq_comm]
    have hcount : (s.membersOf guids other).Nodup := hnodup.filter _
    rw [hcount.count]
    exact if_congr (hmem.trans beq_iff_eq.symm) rfl rfl

/-- Of everything that is listed, the members of a group are its own list, once for each time it is
enumerated. -/
theorem filter_membersOf (groups : List String) :
    (groups.flatMap (s.membersOf guids)).filter (fun guid => s.groupOf guid = some group) =
      (replicate (groups.count group) (s.membersOf guids group)).flatten := by
  induction groups with
  | nil => rfl
  | cons other groups ih =>
    rw [flatMap_cons, filter_append, ih]
    have hown : (s.membersOf guids other).filter (fun guid => s.groupOf guid = some group) =
        if other = group then s.membersOf guids group else [] := by
      unfold membersOf
      rw [filter_filter]
      split
      · next h =>
        subst h
        exact filter_congr fun _ _ => Bool.and_self _
      · next h =>
        rw [filter_eq_nil_iff]
        intro guid _ hboth
        simp only [Bool.and_eq_true, decide_eq_true_eq] at hboth
        rw [hboth.1] at hboth
        exact h (Option.some.inj hboth.2).symm
    rw [hown]
    by_cases hother : other = group
    · simp [hother, replicate_succ]
    · simp [hother]

end

/-! ## The programs -/

theorem mem_subsList_setSubsList (s : Store) {id : String} :
    id ∈ (s.setSubsList ids).subsList ↔ id ∈ ids := by
  simp [subsList, setSubsList]

end Store

theorem exec_ensureDefaultSubscription (uuid : String) (s : Store) :
    ∃ sub subIds, (ensureDefaultSubscription uuid).exec s = { s with sub := sub, subIds := subIds } ∧
      ∀ id, id ≠ defaultSubscriptionId →
        (id ∈ ({ s with sub := sub, subIds := subIds } : Store).subsList ↔ id ∈ s.subsList) := by
  unfold ensureDefaultSubscription exec
  dsimp only [decodeSubscription]
  rw [run_read_bind]
  cases s.subscription defaultSubscriptionId with
  | some _ => exact ⟨s.sub, s.subIds, rfl, fun _ _ => .rfl⟩
  | none =>
    obtain ⟨sub, subIds, hencode, hids⟩ : ∃ sub subIds,
        (encodeSubscription defaultSubscriptionId uuid { remarks := "Default" }).run s =
          (.ok (), { s with sub := sub, subIds := subIds }) ∧
        ∀ id, id ≠ defaultSubscriptionId →
          (id ∈ ({ s with sub := sub, subIds := subIds } : Store).subsList ↔ id ∈ s.subsList) := by
      have hkey : (if Text.isBlank defaultSubscriptionId = true then uuid
          else defaultSubscriptionId) = defaultSubscriptionId :=
        if_neg (by decide)
      unfold encodeSubscription
      dsimp only [decodeSubsList, encodeSubsList]
      refine ⟨s.sub.set defaultSubscriptionId (.json { remarks := "Default" }), ?_⟩
      by_cases hlisted : defaultSubscriptionId ∈ s.subsList
      · refine ⟨s.subIds, ?_, fun _ _ => .rfl⟩
        exact congrArg (fun p : StoreM Unit => p.run _) (if_pos hlisted)
      · refine ⟨some (.json (s.subsList ++ [defaultSubscriptionId])), ?_, fun id hid => ?_⟩
        · exact congrArg (fun p : StoreM Unit => p.run _) (if_neg hlisted)
        · refine s.mem_subsList_setSubsList.trans ?_
          rw [mem_append, mem_singleton, or_iff_left hid]
    rw [run_bind, hencode]
    dsimp only [decodeSubsList]
    rw [run_read_bind]
    cases hmove : moveItem ({ s with sub := sub, subIds := subIds } : Store).subsList
        (({ s with sub := sub, subIds := subIds } : Store).subsList.length - 1) 0 with
    | none => exact ⟨sub, subIds, rfl, hids⟩
    | some ids =>
      refine ⟨sub, some (.json ids), rfl, fun id hid => ?_⟩
      exact s.mem_subsList_setSubsList.trans ((moveItem_perm hmove).mem_iff.trans (hids id hid))

theorem run_groupServers (s : Store) (guids : List String) (m : LinkedMap String (List String)) :
    ∃ m', (groupServers m guids).run s = (.ok m', s) ∧
      ∀ group, m'.get group = if s.membersOf guids group = [] then m.get group
        else some ((m.get group).getD [] ++ s.membersOf guids group) := by
  induction guids generalizing m with
  | nil => exact ⟨m, rfl, fun _ => rfl⟩
  | cons guid guids ih =>
    unfold groupServers
    dsimp only [decodeServerConfig]
    rw [run_read_bind]
    cases hconfig : s.serverConfig guid with
    | none =>
      have hmembers (group : String) : s.membersOf (guid :: guids) group =
          s.membersOf guids group := by
        simp [membersOf, groupOf, hconfig]
      obtain ⟨m', hrun, hget⟩ := ih m
      refine ⟨m', hrun, fun group => ?_⟩
      rw [hmembers, hget]
    | some config =>
      obtain ⟨m', hrun, hget⟩ := ih (m.put (getSubscriptionId config.subscriptionId)
        ((m.get (getSubscriptionId config.subscriptionId)).getD [] ++ [guid]))
      refine ⟨m', hrun, fun group => ?_⟩
      rw [hget, LinkedMap.get_put]
      by_cases hgroup : group = getSubscriptionId config.subscriptionId
      · subst hgroup
        have hmembers : s.membersOf (guid :: guids) (getSubscriptionId config.subscriptionId) =
            guid :: s.membersOf guids (getSubscriptionId config.subscriptionId) := by
          simp [membersOf, groupOf, hconfig]
        rw [hmembers, if_pos rfl, if_neg (cons_ne_nil _ _)]
        split
        · next hnil => rw [hnil]
        · simp
      · have hmembers : s.membersOf (guid :: guids) group = s.membersOf guids group := by
          simp [membersOf, groupOf, hconfig, Ne.symm hgroup]
        rw [hmembers, if_neg hgroup]

theorem foldl_setServerList_eq (entries : List (String × List String)) (s : Store) :
    ∃ subServers, entries.foldl (fun s e => s.setServerList e.1 e.2) s =
      { s with subServers := subServers } := by
  induction entries generalizing s with
  | nil => exact ⟨_, rfl⟩
  | cons e entries ih =>
    obtain ⟨subServers, heq⟩ := ih (s.setServerList e.1 e.2)
    exact ⟨subServers, heq⟩

theorem listed_foldl_setServerList {entries : List (String × List String)}
    (hnodup : (entries.map Prod.fst).Nodup) (hkeys : ∀ e ∈ entries, getSubscriptionId e.1 = e.1)
    (s : Store) (group : String) :
    (entries.foldl (fun s e => s.setServerList e.1 e.2) s).listed group =
      (entries.lookup group).getD (s.listed group) := by
  induction entries generalizing s with
  | nil => rfl
  | cons e entries ih =>
    rw [map_cons, nodup_cons] at hnodup
    rw [foldl_cons, ih hnodup.2 (fun e' he' => hkeys e' (mem_cons_of_mem _ he')),
      listed_setServerList, hkeys e mem_cons_self, lookup_cons]
    by_cases hgroup : group = e.1
    · subst hgroup
      have hnone : entries.lookup e.1 = none := by
        rw [lookup_eq_none_iff]
        intro e' he'
        rw [bne_iff_ne]
        intro heq
        exact hnodup.1 (mem_map.mpr ⟨e', he', heq.symm⟩)
      rw [hnone]
      simp
    · have hbeq : (group == e.1) = false := by simpa using hgroup
      rw [hbeq, if_neg hgroup]

/-- What the split leaves: each group lists its members. -/
theorem exec_splitServerList (s : Store) (guids : List String) (hnone : s.subServers = ∅) :
    ∃ subServers, (splitServerList guids).exec s = { s with subServers := subServers } ∧
      ∀ group, ({ s with subServers := subServers } : Store).listed group =
        s.membersOf guids group := by
  obtain ⟨m, hrun, hget⟩ := run_groupServers s guids .empty
  have hexec : (splitServerList guids).exec s =
      m.entries.foldl (fun s e => s.setServerList e.1 e.2) s := by
    unfold splitServerList exec
    rw [run_bind, hrun]
    dsimp only
    rw [run_forM (fun e s => run_encodeServerList e.2 e.1 s)]
  obtain ⟨subServers, heq⟩ := foldl_setServerList_eq m.entries s
  refine ⟨subServers, hexec.trans heq, fun group => ?_⟩
  have hkeys : ∀ e ∈ m.entries, getSubscriptionId e.1 = e.1 := by
    intro e he
    have hsome : m.get e.1 = some e.2 := LinkedMap.get_eq_some_iff.mpr he
    rw [hget] at hsome
    split at hsome
    · cases hsome
    · next hne =>
      obtain ⟨guid, hguid⟩ := exists_mem_of_ne_nil _ hne
      have hgroup := of_decide_eq_true (mem_filter.mp hguid).2
      obtain ⟨config, -, hid⟩ := Option.map_eq_some_iff.mp hgroup
      rw [← hid, getSubscriptionId_idem]
  rw [← heq, listed_foldl_setServerList m.nodup hkeys]
  change (m.get group).getD _ = _
  rw [hget]
  split
  · next hnil =>
    rw [hnil, listed, hnone]
    rfl
  · rfl

/-! ## The migration -/

/-- Every legacy server with a readable payload is shown exactly once, the servers of a group keep
their order, and a second migration changes nothing. -/
structure MigrationComplete (uuid : String) (l l' : LegacyStore) (guids : List String) : Prop where
  once : ∀ guid ∈ guids, (∃ config, l.store.serverConfig guid = some config) →
    l'.store.allServerList.count guid = 1
  order : ∀ group,
    (l'.store.allServerList.filter fun guid => l.store.groupOf guid = some group).Sublist guids
  again : migrateServerListToSubscriptions uuid l' = l'

/-- The migration enumerates the members of the groups; creating the default subscription does not
change which groups are enumerated once. -/
theorem exists_migrated {l : LegacyStore} {guids : List String} (hfirst : l.migrated = false)
    (hlegacy : l.angConfigs = some (.json guids)) (hnone : l.store.subServers = ∅) :
    ∃ (store : Store) (groups : List String),
      migrateServerListToSubscriptions uuid l = { l with store := store, migrated := true } ∧
      store.allServerList = groups.flatMap (l.store.membersOf guids) ∧
      ∀ group, group ≠ "" → (groups.count group = 1 ↔ l.store.ShownOnce group) := by
  obtain ⟨sub, subIds, hensure, hids⟩ := exec_ensureDefaultSubscription uuid l.store
  obtain ⟨subServers, hsplit, hlisted⟩ := exec_splitServerList
    { l.store with sub := sub, subIds := subIds } guids hnone
  refine ⟨{ l.store with sub := sub, subIds := subIds, subServers := subServers },
    ({ l.store with sub := sub, subIds := subIds } : Store).enumerated, ?_, ?_, ?_⟩
  · unfold migrateServerListToSubscriptions
    rw [hfirst, if_neg Bool.false_ne_true, hlegacy, hensure]
    dsimp only [Option.bind_some, Stored.decode_json]
    rw [hsplit]
  · rw [allServerList_eq]
    refine flatMap_congr fun group _ => ?_
    exact hlisted group
  · intro group hgroup
    rw [count_enumerated_iff hgroup]
    unfold Store.ShownOnce
    split
    · exact not_congr (hids "" (by decide))
    · next hne => exact hids group hne

/-- The migration of a legacy list hides no server if and only if each of its servers with a readable
payload belongs to the default group and `SUB_IDS` has no empty ID, or to a group that is in
`SUB_IDS`. -/
theorem migration_complete_iff (uuid : String) (l : LegacyStore) (guids : List String)
    (hfirst : l.migrated = false) (hlegacy : l.angConfigs = some (.json guids))
    (hnodup : guids.Nodup) (hnone : l.store.subServers = ∅) :
    MigrationComplete uuid l (migrateServerListToSubscriptions uuid l) guids ↔
      ∀ guid ∈ guids, ∀ group, l.store.groupOf guid = some group → l.store.ShownOnce group := by
  obtain ⟨store, groups, hmigrate, hall, hshown⟩ :=
    @exists_migrated uuid l guids hfirst hlegacy hnone
  rw [hmigrate]
  constructor
  · intro hcomplete guid hguid group hgroup
    obtain ⟨config, hconfig, -⟩ := Option.map_eq_some_iff.mp hgroup
    have hcount := hcomplete.once guid hguid ⟨config, hconfig⟩
    rw [hall, count_membersOf hnodup hguid hgroup] at hcount
    exact (hshown _ (groupOf_ne_empty hgroup)).mp hcount
  · intro hvisible
    refine ⟨?_, ?_, rfl⟩
    · rintro guid hguid ⟨config, hconfig⟩
      have hgroup : l.store.groupOf guid = some (getSubscriptionId config.subscriptionId) := by
        rw [groupOf, hconfig]
        rfl
      rw [hall, count_membersOf hnodup hguid hgroup]
      exact (hshown _ (groupOf_ne_empty hgroup)).mpr (hvisible guid hguid _ hgroup)
    · intro group
      rw [hall, filter_membersOf]
      cases hmembers : l.store.membersOf guids group with
      | nil => simp
      | cons guid rest =>
        have hguid : guid ∈ l.store.membersOf guids group := by
          rw [hmembers]
          exact List.mem_cons_self
        obtain ⟨hin, hgroup⟩ := List.mem_filter.mp hguid
        have hgroup := of_decide_eq_true hgroup
        rw [(hshown _ (groupOf_ne_empty hgroup)).mpr (hvisible guid hin group hgroup), ← hmembers]
        simp [membersOf]

/-- One server of the subscription `t`, which is stored but not in the lost `SUB_IDS`. -/
def lostIds : LegacyStore where
  store := ({ sub := (∅ : KV String (Stored SubscriptionItem)).set "t" (.json {}) } :
    Store).setServerConfig "a" { configType := .socks, subscriptionId := "t" }
  angConfigs := some (.json ["a"])

theorem lostIds_hidden :
    lostIds.store.subServers = ∅ ∧ lostIds.store.serverConfig "a" =
        some { configType := .socks, subscriptionId := "t" } ∧
      (migrateServerListToSubscriptions "u" lostIds).store.allServerList = [] := by
  refine ⟨rfl, rfl, ?_⟩
  decide

/-- With the ID listed, the server is shown. -/
theorem listedIds_complete :
    MigrationComplete "u" { lostIds with store := lostIds.store.setSubsList ["t"] }
      (migrateServerListToSubscriptions "u"
        { lostIds with store := lostIds.store.setSubsList ["t"] }) ["a"] := by
  refine (migration_complete_iff "u" { lostIds with store := lostIds.store.setSubsList ["t"] } ["a"]
    rfl rfl (List.nodup_singleton _) rfl).mpr ?_
  intro guid hguid group hgroup
  rw [List.mem_singleton.mp hguid] at hgroup
  cases hgroup
  rw [Store.ShownOnce]
  decide

end ZeroVpn
