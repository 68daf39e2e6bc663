import ZeroVpn.Handler.StoreOp

/-!
# Side data of stored profiles

A profile has up to three entries: its payload, its raw configuration and its test result. No
operation should leave a raw configuration or a test result behind whose payload is gone, because
the cleanup of orphans looks at payloads only. `SideOp` are the operations that write or drop these
entries; `removeServer`, `removeServerViaSubid` and `removeSubscription` drop the payload and the
test result of a server, but not its raw configuration.
-/

namespace ZeroVpn
open MmkvManager KV

inductive SideOp where
  | encodeServerConfig (guid uuid : String) (config : ProfileItem)
  | saveServerProfiles (profiles : LinkedMap String ProfileItem) (rawConfigs : KV String String)
    (subscriptionId : String) (append : Bool)
  | encodeServerRaw (guid config : String)
  | encodeServerTestDelayMillis (guid : String) (testResult : Int)
  | removeServer (guid : String)
  | removeServers (guids : List String) (subscriptionId : String)
  | removeServerViaSubid (subscriptionId : Option String)
  | removeSubscription (subid : String)
  | removeAllServer
  | removeOrphanedServerProfiles

namespace SideOp

/-- Run an operation to its end. -/
def apply (fold : Char → Char) (s : Store) : SideOp → Store
  | encodeServerConfig guid uuid config => (MmkvManager.encodeServerConfig guid uuid config).exec s
  | saveServerProfiles profiles rawConfigs id append =>
    (MmkvManager.saveServerProfiles fold profiles rawConfigs id append).exec s
  | encodeServerRaw guid config => (MmkvManager.encodeServerRaw guid config).exec s
  | encodeServerTestDelayMillis guid delay =>
    (MmkvManager.encodeServerTestDelayMillis guid delay).exec s
  | removeServer guid => (MmkvManager.removeServer guid).exec s
  | removeServers guids id => (MmkvManager.removeServers guids id).exec s
  | removeServerViaSubid id => (MmkvManager.removeServerViaSubid id).exec s
  | removeSubscription id => (MmkvManager.removeSubscription id).exec s
  | removeAllServer => MmkvManager.removeAllServer.exec s
  | removeOrphanedServerProfiles => MmkvManager.removeOrphanedServerProfiles.exec s

/-- Side data is written for a stored profile. -/
def ForStored (s : Store) : SideOp → Prop
  | encodeServerRaw guid _ | encodeServerTestDelayMillis guid _ => guid ∈ s.profileFull.allKeys
  | _ => True

/-- No server with a raw configuration is removed by an operation that leaves this
configuration. -/
def LeavesNoRaw (s : Store) : SideOp → Prop
  | removeServer guid => Text.isBlank guid = false → guid ∉ s.serverRaw.allKeys
  | removeServerViaSubid id => ∀ guid ∈ s.listed (getSubscriptionId id), guid ∉ s.serverRaw.allKeys
  | removeSubscription id => ∀ guid ∈ s.listed (getSubscriptionId id), guid ∉ s.serverRaw.allKeys
  | _ => True

end SideOp

namespace Store

/-- Every raw configuration and every test result is one of a stored profile. -/
structure NoOrphanedSideData (s : Store) : Prop where
  raw : ∀ guid ∈ s.serverRaw.allKeys, guid ∈ s.profileFull.allKeys
  aff : ∀ guid ∈ s.serverAff.allKeys, guid ∈ s.profileFull.allKeys

variable {s : Store}

theorem noOrphanedSideData_empty : NoOrphanedSideData {} where
  raw := by simp
  aff := by simp

/-! ## One lemma per effect -/

/-- Dropping payloads and test results is safe for servers without a raw configuration, and for no
others. -/
theorem noOrphanedSideData_forget (h : s.NoOrphanedSideData) (guids : List String) :
    (s.forget guids).NoOrphanedSideData ↔ ∀ guid ∈ guids, guid ∉ s.serverRaw.allKeys := by
  constructor
  · intro hafter guid hguid hraw
    have hstored := hafter.raw guid hraw
    exact (mem_allKeys_removeValuesForKeys.mp hstored).1 hguid
  · intro hnone
    refine ⟨?_, ?_⟩
    · intro guid hraw
      exact mem_allKeys_removeValuesForKeys.mpr ⟨fun hin => hnone guid hin hraw, h.raw guid hraw⟩
    · intro guid haff
      obtain ⟨hout, haff⟩ := mem_allKeys_removeValuesForKeys.mp haff
      exact mem_allKeys_removeValuesForKeys.mpr ⟨hout, h.aff guid haff⟩

theorem NoOrphanedSideData.removeProfilePayloads (h : s.NoOrphanedSideData) (guids : List String) :
    (s.removeProfilePayloads guids).NoOrphanedSideData := by
  refine ⟨?_, ?_⟩
  · intro guid hraw
    obtain ⟨hout, hraw⟩ := mem_allKeys_removeValuesForKeys.mp hraw
    exact mem_allKeys_removeValuesForKeys.mpr ⟨hout, h.raw guid hraw⟩
  · intro guid haff
    obtain ⟨hout, haff⟩ := mem_allKeys_removeValuesForKeys.mp haff
    exact mem_allKeys_removeValuesForKeys.mpr ⟨hout, h.aff guid haff⟩

theorem NoOrphanedSideData.dropServers (h : s.NoOrphanedSideData) (guids : List String)
    (id : String) : (s.dropServers guids id).NoOrphanedSideData := by
  obtain ⟨subServers, heq⟩ := s.unlist_eq guids id
  have hafter := h.removeProfilePayloads guids
  unfold Store.dropServers
  rw [heq]
  exact ⟨hafter.raw, hafter.aff⟩

theorem NoOrphanedSideData.setServerConfig (h : s.NoOrphanedSideData) (key : String)
    (config : ProfileItem) : (s.setServerConfig key config).NoOrphanedSideData where
  raw := fun guid hraw => mem_allKeys_set.mpr (.inr (h.raw guid hraw))
  aff := fun guid haff => mem_allKeys_set.mpr (.inr (h.aff guid haff))

theorem NoOrphanedSideData.publish (h : s.NoOrphanedSideData) (key : String)
    (config : ProfileItem) : (s.publish key config).NoOrphanedSideData := by
  have hsaved := h.setServerConfig key config
  unfold Store.publish
  dsimp only
  split
  · exact hsaved
  · exact ⟨hsaved.raw, hsaved.aff⟩

/-- A raw configuration is saved together with its payload. -/
theorem NoOrphanedSideData.savePayloads (h : s.NoOrphanedSideData) (rawConfigs : KV String String)
    (entries : List (String × ProfileItem)) :
    (s.savePayloads rawConfigs entries).NoOrphanedSideData := by
  refine ⟨?_, ?_⟩
  · intro guid hraw
    refine mem_allKeys_setAll.mpr ?_
    rw [List.map_map]
    rcases mem_allKeys_setAll.mp hraw with hnew | hold
    · obtain ⟨e, he, rfl⟩ := List.mem_map.mp hnew
      obtain ⟨entry, hentry, hsome⟩ := List.mem_filterMap.mp he
      obtain ⟨raw, -, rfl⟩ := Option.map_eq_some_iff.mp hsome
      exact .inl (List.mem_map.mpr ⟨entry, hentry, rfl⟩)
    · exact .inr (h.raw guid hold)
  · intro guid haff
    exact mem_allKeys_setAll.mpr (.inr (h.aff guid haff))

theorem NoOrphanedSideData.replaceAll (h : s.NoOrphanedSideData) (fold : Char → Char)
    (profiles : LinkedMap String ProfileItem) (rawConfigs : KV String String) (id : String)
    (append : Bool) : (s.replaceAll fold profiles rawConfigs id append).NoOrphanedSideData := by
  have hsaved := h.savePayloads rawConfigs profiles.entries
  have hpublished : (s.publishAll fold profiles rawConfigs id append).NoOrphanedSideData :=
    ⟨hsaved.raw, hsaved.aff⟩
  exact hpublished.removeProfilePayloads _

theorem noOrphanedSideData_dropAll (s : Store) : s.dropAll.NoOrphanedSideData := by
  obtain ⟨subServers, heq, -⟩ := foldl_setServerList s.subscriptions
    { s.initSubs with profileFull := ∅, serverAff := ∅, serverRaw := ∅ }
  rw [Store.dropAll, heq]
  exact ⟨by simp, by simp⟩

end Store

namespace SideOp

variable {fold : Char → Char} {s : Store}

theorem exec_encodeTestDelay (guid : String) (delay : Int) (h : s.NoOrphanedSideData)
    (hstored : guid ∈ s.profileFull.allKeys) :
    ((encodeServerTestDelayMillis guid delay).apply fold s).NoOrphanedSideData := by
  rw [apply, MmkvManager.encodeServerTestDelayMillis]
  split
  · exact h
  · refine ⟨h.raw, ?_⟩
    intro key hkey
    rcases mem_allKeys_set.mp hkey with rfl | hkey
    · exact hstored
    · exact h.aff key hkey

/-- One operation keeps the side data together with the payloads exactly if it removes no server
whose raw configuration it leaves. -/
theorem noOrphanedSideData_apply_iff (op : SideOp) (h : s.NoOrphanedSideData)
    (hstored : op.ForStored s) :
    (op.apply fold s).NoOrphanedSideData ↔ op.LeavesNoRaw s := by
  cases op with
  | encodeServerConfig guid uuid config =>
    refine iff_of_true ?_ trivial
    rw [apply, Prog.exec, run_encodeServerConfig]
    exact h.publish _ config
  | saveServerProfiles profiles rawConfigs id append =>
    refine iff_of_true ?_ trivial
    rw [apply, Prog.exec, run_saveServerProfiles]
    split
    · exact h
    · exact h.replaceAll fold profiles rawConfigs id append
  | encodeServerRaw guid config =>
    refine iff_of_true ⟨?_, h.aff⟩ trivial
    intro key hkey
    rcases mem_allKeys_set.mp hkey with rfl | hkey
    · exact hstored
    · exact h.raw key hkey
  | encodeServerTestDelayMillis guid delay =>
    exact iff_of_true (exec_encodeTestDelay guid delay h hstored) trivial
  | removeServer guid =>
    have happly : (removeServer guid).apply fold s = if Text.isBlank guid then s
        else s.dropServer guid := @StoreOp.apply_removeServer fold s guid
    rw [happly, LeavesNoRaw]
    cases hblank : Text.isBlank guid with
    | true => exact iff_of_true h fun hfalse => absurd hfalse.symm Bool.false_ne_true
    | false =>
      have hunlisted : (s.setServerList (s.homeGroup guid)
          ((s.listed (s.homeGroup guid)).erase guid)).NoOrphanedSideData := ⟨h.raw, h.aff⟩
      refine (Store.noOrphanedSideData_forget hunlisted [guid]).trans ?_
      simp [Store.setServerList]
  | removeServers guids id =>
    refine iff_of_true ?_ trivial
    rw [apply, StoreOp.exec_removeServers]
    split
    · exact h
    · exact h.dropServers guids _
  | removeServerViaSubid id =>
    rw [apply, Prog.exec, run_removeServerViaSubid]
    have hiff := Store.noOrphanedSideData_forget h (s.listed (getSubscriptionId id))
    exact ⟨fun hafter => hiff.mp ⟨hafter.raw, hafter.aff⟩, fun hnone =>
      ⟨(hiff.mpr hnone).raw, (hiff.mpr hnone).aff⟩⟩
  | removeSubscription id =>
    obtain ⟨sub, subIds, heq⟩ := exec_removeSubscription id s
    rw [apply, heq]
    have hiff := Store.noOrphanedSideData_forget h (s.listed (getSubscriptionId id))
    exact ⟨fun hafter => hiff.mp ⟨hafter.raw, hafter.aff⟩, fun hnone =>
      ⟨(hiff.mpr hnone).raw, (hiff.mpr hnone).aff⟩⟩
  | removeAllServer =>
    refine iff_of_true ?_ trivial
    rw [apply, Prog.exec, run_removeAllServer]
    exact s.noOrphanedSideData_dropAll
  | removeOrphanedServerProfiles =>
    refine iff_of_true ?_ trivial
    rw [apply, exec_removeOrphanedServerProfiles]
    exact h.removeProfilePayloads _

end SideOp

/-- From the empty store, no raw configuration and no test result is ever left without its payload
if and only if `removeServer`, `removeServerViaSubid` and `removeSubscription` are only applied to
servers that have no raw configuration. -/
theorem no_orphaned_side_data_iff (fold : Char → Char) (ops : List SideOp)
    (hstored : Run.StepsMeet (SideOp.apply fold) (fun s op => op.ForStored s) {} ops) :
    Run.Always (SideOp.apply fold) Store.NoOrphanedSideData {} ops ↔
      Run.StepsMeet (SideOp.apply fold) (fun s op => op.LeavesNoRaw s) {} ops :=
  Run.always_iff_stepsMeet (j := fun _ => True) (fun _ _ _ _ => trivial)
    (fun _ op _ h hfor => op.noOrphanedSideData_apply_iff h hfor) trivial
    Store.noOrphanedSideData_empty hstored

/-- A custom profile is saved with its raw configuration and then removed. -/
def customRemoved : List SideOp :=
  [.encodeServerConfig "a" "u" { configType := .custom }, .encodeServerRaw "a" "raw", .removeServer "a"]

theorem customRemoved_leaves_raw :
    Run.StepsMeet (SideOp.apply id) (fun s op => op.ForStored s) {} customRemoved ∧
      "a" ∈ (customRemoved.foldl (SideOp.apply id) {}).serverRaw.allKeys ∧
      "a" ∉ (customRemoved.foldl (SideOp.apply id) {}).profileFull.allKeys :=
  ⟨⟨trivial, List.mem_cons_self, trivial, trivial⟩, by decide, by decide⟩

/-- `removeServers` takes the raw configuration along. -/
theorem customRemoved_together :
    Run.Always (SideOp.apply id) Store.NoOrphanedSideData {}
      [.encodeServerConfig "a" "u" { configType := .custom }, .encodeServerRaw "a" "raw",
        .removeServers ["a"] ""] := by
  refine (no_orphaned_side_data_iff id _ ?_).mpr ?_
  · exact ⟨trivial, List.mem_cons_self, trivial, trivial⟩
  · exact ⟨trivial, trivial, trivial, trivial⟩

end ZeroVpn
