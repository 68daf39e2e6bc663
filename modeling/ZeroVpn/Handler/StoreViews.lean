import ZeroVpn.Handler.StoreSpec
import ZeroVpn.Handler.AngConfigManager

/-!
# What the operations do to the views

For each effect of `StoreSpec`: who is listed afterwards, whose profile is readable and what is
selected.
-/

namespace ZeroVpn
open MmkvManager List

/-! ## Publishing -/

variable {servers keys : List String} {guid group : String}

theorem MmkvManager.mem_publishKeys :
    guid ∈ publishKeys servers keys ↔ guid ∈ servers ∨ guid ∈ keys := by
  unfold publishKeys
  induction keys generalizing servers with
  | nil => simp
  | cons key keys ih =>
    rw [foldl_cons, ih, mem_cons]
    split
    · next h =>
      constructor
      · rintro (h' | h')
        · exact .inl h'
        · exact .inr (.inr h')
      · rintro (h' | rfl | h')
        · exact .inl h'
        · exact .inl h
        · exact .inr h'
    · rw [mem_cons]
      tauto

theorem MmkvManager.publishKeys_nodup (h : servers.Nodup) : (publishKeys servers keys).Nodup := by
  unfold publishKeys
  induction keys generalizing servers with
  | nil => exact h
  | cons key keys ih =>
    rw [foldl_cons]
    split
    · exact ih h
    · next hk => exact ih (nodup_cons.mpr ⟨hk, h⟩)

/-- New keys end up in front, the last one first. -/
theorem MmkvManager.publishKeys_of_new (h : keys.Nodup) (hnew : ∀ key ∈ keys, key ∉ servers) :
    publishKeys servers keys = keys.reverse ++ servers := by
  unfold publishKeys
  induction keys generalizing servers with
  | nil => rfl
  | cons key keys ih =>
    obtain ⟨hkey, hnodup⟩ := nodup_cons.mp h
    rw [foldl_cons, if_neg (hnew key mem_cons_self), ih hnodup, reverse_cons,
      append_assoc]
    · rfl
    · intro key' hkey' hin
      rcases mem_cons.mp hin with rfl | hin
      · exact hkey hkey'
      · exact hnew key' (mem_cons_of_mem _ hkey') hin

namespace Store

variable {s : Store}

theorem mem_allKeys_of_listed (h : guid ∈ s.listed group) : group ∈ s.subServers.allKeys := by
  rw [KV.mem_allKeys]
  cases hg : s.subServers.get group with
  | none => simp [listed, hg] at h
  | some entry => rfl

/-- No index lists a guid twice. -/
def ListsNodup (s : Store) : Prop := ∀ group, (s.listed group).Nodup

theorem mem_listed_publish {config : ProfileItem} :
    guid ∈ (s.publish key config).listed group ↔
      guid ∈ s.listed group ∨ guid = key ∧ group = getSubscriptionId config.subscriptionId := by
  simp only [publish]
  split
  · next hk =>
    refine ⟨.inl, ?_⟩
    rintro (h | ⟨rfl, rfl⟩)
    · exact h
    · exact hk
  · rw [listed_select, listed_setServerList, getSubscriptionId_idem]
    by_cases hg : group = getSubscriptionId config.subscriptionId
    · subst hg
      simp [or_comm]
    · simp [hg]

theorem ListsNodup.publish (h : s.ListsNodup) (key : String) (config : ProfileItem) :
    (s.publish key config).ListsNodup := by
  intro group
  simp only [Store.publish]
  split
  · exact h group
  · next hk =>
    rw [listed_select, listed_setServerList, getSubscriptionId_idem]
    split
    · exact nodup_cons.mpr ⟨hk, h _⟩
    · exact h group

theorem serverConfig_publish (hkey : Text.isBlank key = false) (config : ProfileItem)
    (guid : String) :
    (s.publish key config).serverConfig guid =
      if guid = key then some config else s.serverConfig guid := by
  simp only [publish]
  split
  · exact serverConfig_setServerConfig s hkey config guid
  · rw [serverConfig_select, serverConfig_setServerList, serverConfig_setServerConfig s hkey]

theorem selected_publish (key : String) (config : ProfileItem) :
    (s.publish key config).selected = s.selected ∨ (s.publish key config).selected = some key := by
  simp only [publish]
  split
  · exact .inl rfl
  · split
    · exact .inr rfl
    · exact .inl rfl

/-! ## Replacing a group -/

/-- Some index other than the target's is blank or unreadable. -/
def OtherIndexDamaged (s : Store) (id : String) : Prop :=
  ∃ group entry, group ≠ getSubscriptionId id ∧ s.subServers.get group = some entry ∧
    entry.decode = none

theorem mem_otherKeys {id : String} :
    group ∈ s.subServers.allKeys.filter (· ≠ getSubscriptionId id) ↔
      group ≠ getSubscriptionId id ∧ ∃ entry, s.subServers.get group = some entry := by
  rw [mem_filter, KV.mem_allKeys, Option.isSome_iff_exists, and_comm]
  simp

/-- With the target's index in place the references are missing exactly if another index is
damaged. -/
theorem serversReferencedByOtherGroups_eq_none {id : String}
    (htarget : getSubscriptionId id ∈ s.subServers.allKeys) :
    s.serversReferencedByOtherGroups id = none ↔ s.OtherIndexDamaged id := by
  simp only [serversReferencedByOtherGroups, htarget, if_true, Option.map_eq_none_iff, mapM_eq_none,
    mem_otherKeys]
  constructor
  · rintro ⟨group, ⟨hne, entry, hget⟩, hd⟩
    exact ⟨group, entry, hne, hget, by simpa [hget] using hd⟩
  · rintro ⟨group, entry, hne, hget, hd⟩
    exact ⟨group, ⟨hne, entry, hget⟩, by simpa [hget] using hd⟩

/-- The references are the servers the other indexes list. -/
theorem mem_serversReferencedByOtherGroups {id : String}
    (h : s.serversReferencedByOtherGroups id = some refs) :
    guid ∈ refs ↔ ∃ group, group ≠ getSubscriptionId id ∧ guid ∈ s.listed group := by
  simp only [serversReferencedByOtherGroups] at h
  split at h
  · rw [Option.map_eq_some_iff] at h
    obtain ⟨lists, hlists, rfl⟩ := h
    simp only [mem_flatten, mem_of_mapM_eq_some hlists, mem_otherKeys]
    constructor
    · rintro ⟨servers, ⟨group, ⟨hne, -⟩, hd⟩, hguid⟩
      exact ⟨group, hne, by rw [listed, hd]; exact hguid⟩
    · rintro ⟨group, hne, hguid⟩
      unfold listed at hguid
      cases hget : (s.subServers.get group).bind Stored.decode with
      | none => rw [hget] at hguid; cases hguid
      | some servers =>
        rw [hget] at hguid
        obtain ⟨entry, hentry, -⟩ := Option.bind_eq_some_iff.mp hget
        exact ⟨servers, ⟨group, ⟨hne, entry, hentry⟩, hget⟩, hguid⟩
  · cases h

section
variable {fold : Char → Char} {profiles : LinkedMap String ProfileItem}
  {rawConfigs : KV String String} {id : String} {append : Bool}

theorem listed_replaceAll (group : String) :
    (s.replaceAll fold profiles rawConfigs id append).listed group =
      if group = getSubscriptionId id then s.newServerList profiles id append
      else s.listed group := by
  simp only [replaceAll, publishAll, listed_removeProfilePayloads, listed_select,
    listed_setServerList, listed_savePayloads]

theorem mem_newServerList :
    guid ∈ s.newServerList profiles id append ↔
      append = true ∧ guid ∈ s.serverList id ∨ guid ∈ profiles.keys := by
  unfold newServerList
  rw [mem_publishKeys]
  cases append <;> simp

theorem ListsNodup.replaceAll (h : s.ListsNodup) :
    (s.replaceAll fold profiles rawConfigs id append).ListsNodup := by
  intro group
  rw [listed_replaceAll]
  split
  · refine publishKeys_nodup ?_
    split
    · exact h _
    · exact nodup_nil
  · exact h group

theorem selected_replaceAll :
    (s.replaceAll fold profiles rawConfigs id append).selected =
      (s.replacementSelection fold profiles id append <|> s.selected) := rfl

theorem subServers_publishAll (group : String) :
    (s.publishAll fold profiles rawConfigs id append).subServers.get group =
      if group = getSubscriptionId id then some (.json (s.newServerList profiles id append))
      else s.subServers.get group := KV.get_set _ _ _ _

theorem listed_publishAll_of_ne (h : group ≠ getSubscriptionId id) :
    (s.publishAll fold profiles rawConfigs id append).listed group = s.listed group := by
  rw [listed, subServers_publishAll, if_neg h]
  rfl

theorem otherIndexDamaged_publishAll :
    (s.publishAll fold profiles rawConfigs id append).OtherIndexDamaged id ↔
      s.OtherIndexDamaged id := by
  constructor
  · rintro ⟨group, entry, hne, hget, hd⟩
    rw [subServers_publishAll, if_neg hne] at hget
    exact ⟨group, entry, hne, hget, hd⟩
  · rintro ⟨group, entry, hne, hget, hd⟩
    refine ⟨group, entry, hne, ?_, hd⟩
    rw [subServers_publishAll, if_neg hne]
    exact hget

/-- The payloads a replacement deletes, in terms of the store before it. -/
theorem mem_removablePayloads :
    guid ∈ s.removablePayloads fold profiles rawConfigs id append ↔
      guid ∈ s.replacedServers id append ∧
      (s.replaceAll fold profiles rawConfigs id append).selected ≠ some guid ∧
      guid ∉ profiles.keys ∧ ¬s.OtherIndexDamaged id ∧
      ∀ group, group ≠ getSubscriptionId id → guid ∉ s.listed group := by
  have htarget : getSubscriptionId id ∈
      (s.publishAll fold profiles rawConfigs id append).subServers.allKeys :=
    KV.mem_allKeys_of_get (by rw [subServers_publishAll, if_pos rfl])
  simp only [removablePayloads, ProfileReplacement.mem_findRemovablePayloads]
  refine and_congr_right fun _ => and_congr (by rw [ne_comm]; rfl) (and_congr_right fun _ => ?_)
  have hnone := (serversReferencedByOtherGroups_eq_none htarget).trans otherIndexDamaged_publishAll
  rw [← hnone]
  constructor
  · rintro ⟨refs, hrefs, hguid⟩
    refine ⟨by rw [hrefs]; exact Option.some_ne_none _, fun group hne hin => hguid ?_⟩
    rw [mem_serversReferencedByOtherGroups hrefs]
    exact ⟨group, hne, by rwa [listed_publishAll_of_ne hne]⟩
  · rintro ⟨hsome, hother⟩
    obtain ⟨refs, hrefs⟩ := Option.ne_none_iff_exists'.mp hsome
    refine ⟨refs, hrefs, fun hguid => ?_⟩
    obtain ⟨group, hne, hin⟩ := (mem_serversReferencedByOtherGroups hrefs).mp hguid
    rw [listed_publishAll_of_ne hne] at hin
    exact hother group hne hin

theorem profileFull_replaceAll (guid : String) :
    (s.replaceAll fold profiles rawConfigs id append).profileFull.get guid =
      if guid ∈ s.removablePayloads fold profiles rawConfigs id append then none
      else (s.savePayloads rawConfigs profiles.entries).profileFull.get guid :=
  KV.get_removeValuesForKeys _ _ _

theorem profileFull_replaceAll_of_mem (h : (guid, profile) ∈ profiles.entries) :
    (s.replaceAll fold profiles rawConfigs id append).profileFull.get guid =
      some (.json profile) := by
  rw [profileFull_replaceAll, if_neg, profileFull_savePayloads_of_mem h]
  intro hrem
  exact (mem_removablePayloads.mp hrem).2.2.1 (LinkedMap.mem_keys.mpr ⟨profile, h⟩)

theorem profileFull_replaceAll_of_notMem (h : guid ∉ profiles.keys) :
    (s.replaceAll fold profiles rawConfigs id append).profileFull.get guid =
      if guid ∈ s.removablePayloads fold profiles rawConfigs id append then none
      else s.profileFull.get guid := by
  rw [profileFull_replaceAll, profileFull_savePayloads_of_notMem h]

theorem serverConfig_replaceAll_of_mem (h : (guid, profile) ∈ profiles.entries)
    (hguid : Text.isBlank guid = false) :
    (s.replaceAll fold profiles rawConfigs id append).serverConfig guid = some profile := by
  simp [serverConfig, hguid, profileFull_replaceAll_of_mem h]

theorem serverConfig_replaceAll_of_notMem (h : guid ∉ profiles.keys) :
    (s.replaceAll fold profiles rawConfigs id append).serverConfig guid =
      if guid ∈ s.removablePayloads fold profiles rawConfigs id append then none
      else s.serverConfig guid := by
  unfold serverConfig
  rw [profileFull_replaceAll_of_notMem h]
  by_cases hrem : guid ∈ s.removablePayloads fold profiles rawConfigs id append
  · simp [hrem]
  · simp only [hrem, if_false]

end

/-! ## Removals -/

theorem listed_dropServer (guid group : String) :
    (s.dropServer guid).listed group =
      if group = s.homeGroup guid then (s.listed group).erase guid else s.listed group := by
  rw [dropServer, listed_forget, listed_setServerList, homeGroup, getSubscriptionId_idem]
  split
  · next h => rw [h]
  · rfl

theorem serverConfig_dropServer (guid g : String) :
    (s.dropServer guid).serverConfig g = if g = guid then none else s.serverConfig g := by
  rw [dropServer, serverConfig_forget]
  simp

theorem ListsNodup.dropServer (h : s.ListsNodup) (guid : String) : (s.dropServer guid).ListsNodup := by
  intro group
  rw [listed_dropServer]
  split
  · exact (h group).erase _
  · exact h group

theorem mem_listed_dropServer (h : s.ListsNodup) :
    g ∈ (s.dropServer guid).listed group ↔
      g ∈ s.listed group ∧ (g = guid → group ≠ s.homeGroup guid) := by
  rw [listed_dropServer]
  split
  · next hg =>
    rw [(h group).mem_erase_iff, and_comm]
    refine and_congr_right fun _ => ⟨fun hne heq => absurd heq hne, fun hne heq => hne heq hg⟩
  · next hg => exact ⟨fun hin => ⟨hin, fun _ => hg⟩, And.left⟩

variable {g : String} (guids : List String)

theorem listed_dropServers (id group : String) :
    (s.dropServers guids (getSubscriptionId id)).listed group =
      if group = getSubscriptionId id then (s.listed group).filter (· ∉ guids)
      else s.listed group := listed_unlist s guids id group

theorem serverConfig_dropServers (id g : String) :
    (s.dropServers guids id).serverConfig g = if g ∈ guids then none else s.serverConfig g := by
  obtain ⟨subServers, h⟩ := s.unlist_eq guids id
  refine (serverConfig_forget (s.unlist guids id) guids g).trans ?_
  rw [h]
  rfl

theorem selected_dropServers (id : String) :
    (s.dropServers guids id).selected = s.selected.filter (· ∉ guids) := by
  obtain ⟨subServers, h⟩ := s.unlist_eq guids id
  simp only [dropServers, h, forget]

theorem ListsNodup.dropServers (h : s.ListsNodup) (guids : List String) (id : String) :
    (s.dropServers guids (getSubscriptionId id)).ListsNodup := by
  intro group
  rw [listed_dropServers]
  split
  · exact (h group).filter _
  · exact h group

theorem listed_dropGroup (id : Option String) (group : String) :
    (s.dropGroup (getSubscriptionId id)).listed group =
      if group = getSubscriptionId id then [] else s.listed group := by
  rw [dropGroup, listed_setServerList, getSubscriptionId_idem, listed_forget]

theorem serverConfig_dropGroup (id g : String) :
    (s.dropGroup id).serverConfig g = if g ∈ s.listed id then none else s.serverConfig g := by
  rw [dropGroup, serverConfig_setServerList, serverConfig_forget]

theorem ListsNodup.dropGroup (h : s.ListsNodup) (id : Option String) :
    (s.dropGroup (getSubscriptionId id)).ListsNodup := by
  intro group
  rw [listed_dropGroup]
  split
  · exact nodup_nil
  · exact h group

theorem ListsNodup.dropAll (h : s.ListsNodup) : s.dropAll.ListsNodup := by
  intro group
  rw [listed_dropAll]
  split
  · exact nodup_nil
  · exact h group

theorem ListsNodup.dropInvalid (h : s.ListsNodup) (guids : List String) :
    (s.dropInvalid guids).ListsNodup := by
  unfold Store.dropInvalid
  induction guids generalizing s with
  | nil => exact h
  | cons guid guids ih =>
    rw [foldl_cons]
    split
    · exact ih (h.dropServer guid)
    · exact ih h

/-- Dropping one server leaves what is known of the others. -/
theorem serverConfig_dropServer_of_ne (h : g ≠ guid) :
    (s.dropServer guid).serverConfig g = s.serverConfig g := by
  rw [serverConfig_dropServer, if_neg h]

theorem isInvalid_dropServer_of_ne (h : g ≠ guid) :
    (s.dropServer guid).isInvalid g = s.isInvalid g := by
  have haff : (s.dropServer guid).serverAff.get g = s.serverAff.get g :=
    (KV.get_removeValuesForKeys _ _ _).trans (if_neg (by simpa using h))
  simp only [isInvalid, serverAffiliationInfo, haff]

theorem homeGroup_dropServer_of_ne (h : g ≠ guid) :
    (s.dropServer guid).homeGroup g = s.homeGroup g := by
  rw [homeGroup, serverConfig_dropServer_of_ne h, homeGroup]

/-- Dropping the invalid ones of distinct servers deletes exactly those that were invalid before. -/
theorem serverConfig_dropInvalid {guids : List String} (hnd : guids.Nodup) (g : String) :
    (s.dropInvalid guids).serverConfig g =
      if g ∈ guids ∧ s.isInvalid g = true then none else s.serverConfig g := by
  induction guids generalizing s with
  | nil => simp [dropInvalid]
  | cons guid guids ih =>
    obtain ⟨hguid, hnd⟩ := nodup_cons.mp hnd
    refine (ih hnd).trans ?_
    by_cases hg : g = guid
    · subst hg
      by_cases hv : s.isInvalid g = true
      · simp [hguid, hv, serverConfig_dropServer]
      · simp [hguid, hv]
    · by_cases hv : s.isInvalid guid = true
      · simp [hv, hg, isInvalid_dropServer_of_ne hg, serverConfig_dropServer_of_ne hg]
      · simp [hv, hg]

theorem mem_listed_dropInvalid (h : s.ListsNodup) {guids : List String} (hnd : guids.Nodup) :
    g ∈ (s.dropInvalid guids).listed group ↔
      g ∈ s.listed group ∧ (g ∈ guids ∧ s.isInvalid g = true → group ≠ s.homeGroup g) := by
  induction guids generalizing s with
  | nil => simp [dropInvalid]
  | cons guid guids ih =>
    obtain ⟨hguid, hnd⟩ := nodup_cons.mp hnd
    simp only [dropInvalid, foldl_cons]
    by_cases hv : s.isInvalid guid = true
    · rw [if_pos hv]
      refine (ih (h.dropServer guid) hnd).trans ?_
      rw [mem_listed_dropServer h]
      by_cases hg : g = guid
      · subst hg
        simp [hguid, hv]
      · simp [hg, isInvalid_dropServer_of_ne hg, homeGroup_dropServer_of_ne hg]
    · rw [if_neg hv]
      refine (ih h hnd).trans ?_
      by_cases hg : g = guid
      · subst hg
        simp [hguid, hv]
      · simp [hg]

/-- `s'` lists no server and holds no profile that `s` does not. -/
structure ShrinksTo (s s' : Store) : Prop where
  listed {group guid : String} : guid ∈ s'.listed group → guid ∈ s.listed group
  config {guid : String} {profile : ProfileItem} :
    s'.serverConfig guid = some profile → s.serverConfig guid = some profile

theorem ShrinksTo.refl (s : Store) : s.ShrinksTo s := ⟨id, id⟩

theorem ShrinksTo.trans {s₁ s₂ s₃ : Store} (h₁ : s₁.ShrinksTo s₂) (h₂ : s₂.ShrinksTo s₃) :
    s₁.ShrinksTo s₃ := ⟨fun h => h₁.listed (h₂.listed h), fun h => h₁.config (h₂.config h)⟩

theorem shrinksTo_dropServer (guid : String) : s.ShrinksTo (s.dropServer guid) := by
  constructor
  · intro group g hin
    rw [listed_dropServer] at hin
    split at hin
    · exact mem_of_mem_erase hin
    · exact hin
  · intro g profile hp
    rw [serverConfig_dropServer] at hp
    split at hp
    · cases hp
    · exact hp

theorem shrinksTo_dropServers (id : String) :
    s.ShrinksTo (s.dropServers guids (getSubscriptionId id)) := by
  constructor
  · intro group g hin
    rw [listed_dropServers] at hin
    split at hin
    · exact (mem_filter.mp hin).1
    · exact hin
  · intro g profile hp
    rw [serverConfig_dropServers] at hp
    split at hp
    · cases hp
    · exact hp

theorem shrinksTo_dropGroup (id : Option String) :
    s.ShrinksTo (s.dropGroup (getSubscriptionId id)) := by
  constructor
  · intro group g hin
    rw [listed_dropGroup] at hin
    split at hin
    · cases hin
    · exact hin
  · intro g profile hp
    rw [serverConfig_dropGroup] at hp
    split at hp
    · cases hp
    · exact hp

theorem shrinksTo_dropAll : s.ShrinksTo s.dropAll := by
  constructor
  · intro group g hin
    rw [listed_dropAll] at hin
    split at hin
    · cases hin
    · exact hin
  · intro g profile hp
    rw [serverConfig_dropAll] at hp
    cases hp

theorem shrinksTo_dropInvalid : s.ShrinksTo (s.dropInvalid guids) := by
  unfold dropInvalid
  induction guids generalizing s with
  | nil => exact .refl s
  | cons guid guids ih =>
    rw [foldl_cons]
    split
    · exact (shrinksTo_dropServer guid).trans ih
    · exact ih

theorem testedServers_nodup (guid : String) : (s.testedServers guid).Nodup := by
  unfold testedServers
  split
  · exact nodup_singleton guid
  · exact KV.allKeys_nodup _

theorem serverConfig_dropOrphans (g : String) :
    s.dropOrphans.serverConfig g =
      if g ∈ s.orphans.getD [] then none else s.serverConfig g :=
  serverConfig_removeProfilePayloads s _ g

theorem shrinksTo_dropOrphans : s.ShrinksTo s.dropOrphans := by
  refine ⟨id, fun {guid profile} hp => ?_⟩
  rw [serverConfig_dropOrphans] at hp
  split at hp
  · cases hp
  · exact hp

/-- The payloads `removeOrphanedServerProfiles` deletes are neither selected nor listed. -/
theorem notMem_orphans (s : Store) (h : s.selected = some g ∨ ∃ group, g ∈ s.listed group) :
    g ∉ s.orphans.getD [] := by
  intro hg
  cases ho : s.orphans with
  | none => rw [ho] at hg; cases hg
  | some orphans =>
    rw [ho] at hg
    obtain ⟨hsel, hlist⟩ := orphans_spec ho hg
    rcases h with h | ⟨group, h⟩
    · exact hsel h
    · exact hlist group h

end Store
end ZeroVpn
