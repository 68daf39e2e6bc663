import ZeroVpn.Handler.StoreSpec

/-!
# The cleanup of orphaned profiles

`removeOrphanedServerProfiles` on any content of the storages: when it refuses to run, which
payloads it deletes, and that a second run finds nothing.
-/

namespace ZeroVpn
open MmkvManager List Store

/-! ## The classification -/

variable {orphans : List String} {guid : String}

namespace OrphanProfileCleaner

variable {profiles : List StoredProfileReference} {indexed : List (String × Option (List String))}
  {selected : Option String}

theorem findOrphans_eq_none_iff : findOrphans profiles indexed selected = none ↔
    profiles ≠ [] ∧ (indexed = [] ∨ ∃ e ∈ indexed, e.2 = none) := by
  have hany : indexed.any (fun e => e.2.isNone) = true ↔ ∃ e ∈ indexed, e.2 = none := by
    simp only [any_eq_true, Option.isNone_iff_eq_none]
  rw [← hany]
  unfold findOrphans
  split
  · next hempty => exact iff_of_false nofun fun h => h.1 hempty
  · next hempty =>
    split
    · next hbad => exact iff_of_true rfl ⟨hempty, hbad⟩
    · next hgood => exact iff_of_false nofun fun h => hgood h.2

/-- The orphans are exactly the decoded profiles that are neither selected nor indexed and whose
group has an index. -/
theorem mem_findOrphans_iff (h : findOrphans profiles indexed selected = some orphans) :
    guid ∈ orphans ↔ ∃ profile ∈ profiles, profile.guid = guid ∧ some guid ≠ selected ∧
      (∀ e ∈ indexed, guid ∉ e.2.getD []) ∧ ∃ id, profile.subscriptionId = some id ∧
        Text.ifEmpty id AppConfig.defaultSubscriptionId ∈ indexed.map Prod.fst := by
  unfold findOrphans at h
  split at h
  · next hempty =>
    cases h
    simp [hempty]
  split at h
  · cases h
  cases h
  rw [mem_filterMap]
  refine exists_congr fun profile => and_congr_right fun _ => ?_
  have hindexed : profile.guid ∈ indexed.flatMap (fun e => e.2.getD []) ↔
      ¬∀ e ∈ indexed, profile.guid ∉ e.2.getD [] := by
    simp only [mem_flatMap, not_forall, not_not, exists_prop]
  split
  · next hkept =>
    refine iff_of_false nofun ?_
    rintro ⟨rfl, hsel, hout, -⟩
    exact hkept.elim hsel fun hin => hindexed.mp hin hout
  · next hkept =>
    rw [not_or, hindexed, not_not] at hkept
    cases hid : profile.subscriptionId with
    | none => simp
    | some id =>
      dsimp only
      split
      · next hgroup =>
        rw [Option.some_inj]
        constructor
        · rintro rfl
          exact ⟨rfl, hkept.1, hkept.2, id, rfl, hgroup⟩
        · exact fun hall => hall.1
      · next hgroup =>
        refine iff_of_false nofun ?_
        rintro ⟨-, -, -, id', hid', hin⟩
        cases hid'
        exact hgroup hin

/-- Every payload is classified once. -/
theorem findOrphans_sublist (h : findOrphans profiles indexed selected = some orphans) :
    orphans.Sublist (profiles.map (·.guid)) := by
  unfold findOrphans at h
  split at h
  · cases h
    exact nil_sublist _
  split at h
  · cases h
  cases h
  refine filterMap_sublist_map ?_ profiles
  intro profile guid hguid
  dsimp only at hguid
  split at hguid
  · cases hguid
  split at hguid
  · cases hguid
  split at hguid
  · exact (Option.some.inj hguid).symm
  · cases hguid

end OrphanProfileCleaner

namespace Store

/-- Profiles are stored, but there is no group index or one of them is blank or unreadable. -/
def IndexesUnreadable (s : Store) : Prop :=
  s.profileFull.allKeys ≠ [] ∧ (s.subServers.allKeys = [] ∨
    ∃ group ∈ s.subServers.allKeys, (s.subServers.get group).bind Stored.decode = none)

/-- The payload decodes, is not selected and in no group index, and its group has an index. -/
structure IsOrphan (s : Store) (guid : String) : Prop where
  grouped : ∃ profile, s.serverConfig guid = some profile ∧
    getSubscriptionId profile.subscriptionId ∈ s.subServers.allKeys
  unselected : s.selected ≠ some guid
  unlisted : ∀ group, guid ∉ s.listed group

/-- What a cleanup leaves: everything but the entries of `orphans`. -/
structure CleanedOf (s s' : Store) (orphans : List String) : Prop where
  profileFull : ∀ guid, s'.profileFull.get guid =
    if guid ∈ orphans then none else s.profileFull.get guid
  serverRaw : ∀ guid, s'.serverRaw.get guid = if guid ∈ orphans then none else s.serverRaw.get guid
  serverAff : ∀ guid, s'.serverAff.get guid = if guid ∈ orphans then none else s.serverAff.get guid
  selected : s'.selected = s.selected
  subServers : s'.subServers = s.subServers
  subIds : s'.subIds = s.subIds
  sub : s'.sub = s.sub

theorem cleanedOf_removeProfilePayloads (s : Store) (orphans : List String) :
    s.CleanedOf (s.removeProfilePayloads orphans) orphans where
  profileFull := fun guid => KV.get_removeValuesForKeys _ orphans guid
  serverRaw := fun guid => KV.get_removeValuesForKeys _ orphans guid
  serverAff := fun guid => KV.get_removeValuesForKeys _ orphans guid
  selected := rfl
  subServers := rfl
  subIds := rfl
  sub := rfl

variable {s : Store}

theorem mem_indexedServersBySubscription_iff {e : String × Option (List String)} :
    e ∈ s.indexedServersBySubscription ↔
      e.1 ∈ s.subServers.allKeys ∧ e.2 = (s.subServers.get e.1).bind Stored.decode := by
  unfold indexedServersBySubscription
  rw [mem_map]
  constructor
  · rintro ⟨key, hkey, rfl⟩
    exact ⟨hkey, rfl⟩
  · rintro ⟨hkey, hservers⟩
    exact ⟨e.1, hkey, Prod.ext rfl hservers.symm⟩

theorem orphans_eq_none_iff : s.orphans = none ↔ s.IndexesUnreadable := by
  unfold orphans IndexesUnreadable
  rw [OrphanProfileCleaner.findOrphans_eq_none_iff]
  refine and_congr ?_ (or_congr ?_ ?_)
  · exact not_congr map_eq_nil_iff
  · exact map_eq_nil_iff
  · constructor
    · rintro ⟨e, he, hnone⟩
      obtain ⟨hkey, hservers⟩ := mem_indexedServersBySubscription_iff.mp he
      exact ⟨e.1, hkey, hservers.symm.trans hnone⟩
    · rintro ⟨group, hkey, hnone⟩
      exact ⟨(group, none), mem_indexedServersBySubscription_iff.mpr ⟨hkey, hnone.symm⟩, rfl⟩

theorem unlisted_iff :
    (∀ e ∈ s.indexedServersBySubscription, guid ∉ e.2.getD []) ↔ ∀ group, guid ∉ s.listed group := by
  constructor
  · intro hout group hin
    obtain ⟨servers, he, hservers⟩ := s.mem_indexedServersBySubscription hin
    exact hout _ he hservers
  · intro hout e he hin
    rw [(mem_indexedServersBySubscription_iff.mp he).2] at hin
    exact hout e.1 hin

theorem mem_orphans_iff (h : s.orphans = some orphans) : guid ∈ orphans ↔ s.IsOrphan guid := by
  have hkeys : s.indexedServersBySubscription.map Prod.fst = s.subServers.allKeys := by
    unfold indexedServersBySubscription
    rw [map_map]
    exact map_id _
  rw [OrphanProfileCleaner.mem_findOrphans_iff h, hkeys]
  constructor
  · rintro ⟨reference, href, rfl, hsel, hout, id, hid, hgroup⟩
    obtain ⟨guid, hguid, rfl⟩ := mem_map.mp href
    obtain ⟨profile, hprofile, rfl⟩ := Option.map_eq_some_iff.mp hid
    exact ⟨⟨profile, hprofile, hgroup⟩, hsel.symm, unlisted_iff.mp hout⟩
  · rintro ⟨⟨profile, hprofile, hgroup⟩, hsel, hout⟩
    have hstored : guid ∈ s.profileFull.allKeys := by
      obtain ⟨-, hdecoded⟩ := serverConfig_eq_some_iff.mp hprofile
      obtain ⟨entry, hentry, -⟩ := Option.bind_eq_some_iff.mp hdecoded
      exact KV.mem_allKeys_of_get hentry
    exact ⟨_, mem_map.mpr ⟨guid, hstored, rfl⟩, rfl, hsel.symm, unlisted_iff.mpr hout, _,
      Option.map_eq_some_iff.mpr ⟨profile, hprofile, rfl⟩, hgroup⟩

theorem orphans_nodup (h : s.orphans = some orphans) : orphans.Nodup := by
  have hguids : s.profileReferences.map (·.guid) = s.profileFull.allKeys := by
    unfold profileReferences
    rw [map_map]
    exact map_id _
  have hsub := OrphanProfileCleaner.findOrphans_sublist h
  rw [hguids] at hsub
  exact hsub.nodup s.profileFull.allKeys_nodup

/-! ## After a cleanup -/

/-- A cleanup leaves no orphan. -/
theorem not_isOrphan_removeProfilePayloads (hmem : ∀ guid, guid ∈ orphans ↔ s.IsOrphan guid)
    (guid : String) : ¬(s.removeProfilePayloads orphans).IsOrphan guid := by
  rintro ⟨⟨profile, hprofile, hgroup⟩, hsel, hout⟩
  rw [serverConfig_removeProfilePayloads] at hprofile
  split at hprofile
  · cases hprofile
  · next hkept => exact hkept ((hmem guid).mpr ⟨⟨profile, hprofile, hgroup⟩, hsel, hout⟩)

/-- A cleanup that ran can run again. -/
theorem indexesUnreadable_of_removeProfilePayloads
    (h : (s.removeProfilePayloads orphans).IndexesUnreadable) : s.IndexesUnreadable := by
  refine ⟨?_, h.2⟩
  intro hempty
  refine h.1 (eq_nil_iff_forall_not_mem.mpr ?_)
  intro guid hguid
  have hstored := (KV.mem_allKeys_removeValuesForKeys.mp hguid).2
  rw [hempty] at hstored
  cases hstored

end Store

theorem run_removeOrphanedServerProfiles (s : Store) :
    removeOrphanedServerProfiles.run s =
      (.ok (s.orphans.map length), s.removeProfilePayloads (s.orphans.getD [])) := by
  unfold removeOrphanedServerProfiles withProfileIndexLock
  rw [Prog.run_withLock, Prog.run_read_bind]
  cases s.orphans <;> rfl

/-- If profiles are stored and the group indexes are missing or not all readable, the cleanup returns
nothing and changes nothing. Otherwise it deletes exactly the orphans, returns their number, and a
second run returns zero and changes nothing. -/
theorem orphan_cleanup (s : Store) :
    (s.IndexesUnreadable → removeOrphanedServerProfiles.run s = (.ok none, s)) ∧
    (¬s.IndexesUnreadable → ∃ orphans s', orphans.Nodup ∧
      (∀ guid, guid ∈ orphans ↔ s.IsOrphan guid) ∧ s.CleanedOf s' orphans ∧
      removeOrphanedServerProfiles.run s = (.ok (some orphans.length), s') ∧
      removeOrphanedServerProfiles.run s' = (.ok (some 0), s')) := by
  constructor
  · intro hbad
    rw [run_removeOrphanedServerProfiles, orphans_eq_none_iff.mpr hbad]
    rfl
  · intro hgood
    obtain ⟨orphans, horphans⟩ := Option.ne_none_iff_exists'.mp
      (mt orphans_eq_none_iff.mp hgood)
    have hmem (guid : String) : guid ∈ orphans ↔ s.IsOrphan guid := mem_orphans_iff horphans
    refine ⟨orphans, s.removeProfilePayloads orphans, orphans_nodup horphans, hmem,
      s.cleanedOf_removeProfilePayloads orphans, ?_, ?_⟩
    · rw [run_removeOrphanedServerProfiles, horphans]
      rfl
    · have hagain : ¬(s.removeProfilePayloads orphans).IndexesUnreadable := fun hbad =>
        hgood (indexesUnreadable_of_removeProfilePayloads hbad)
      obtain ⟨rest, hrest⟩ := Option.ne_none_iff_exists'.mp
        (mt orphans_eq_none_iff.mp hagain)
      have hnone : rest = [] := by
        refine eq_nil_iff_forall_not_mem.mpr ?_
        intro guid hguid
        exact not_isOrphan_removeProfilePayloads hmem guid
          ((mem_orphans_iff hrest).mp hguid)
      subst hnone
      rw [run_removeOrphanedServerProfiles, hrest]
      rfl

end ZeroVpn
