import ZeroVpn.Handler.StoreOp

/-!
# The selected server

The selection should name a stored profile. Every removal but `removeAllServer` clears a selection
it would leave dangling, and a replacement moves the selection or protects its payload. A run keeps
the selection valid exactly if `removeAllServer` is only called without a selection.
-/

namespace ZeroVpn
open MmkvManager

/-- The selection is absent or blank, or names a server with a readable profile. -/
def Store.SelectionValid (s : Store) : Prop :=
  ∀ guid, s.selected = some guid → Text.isBlank guid = false →
    ∃ profile, s.serverConfig guid = some profile

namespace StoreOp

/-- `setSelectServer` is called with a stored guid. -/
def SelectsStored (s : Store) : StoreOp → Prop
  | setSelectServer guid => ∃ profile, s.serverConfig guid = some profile
  | _ => True

/-- The store is only cleared while nothing is selected. -/
def ClearsUnselected (s : Store) : StoreOp → Prop
  | removeAllServer => Text.isNullOrBlank s.selected = true
  | _ => True

end StoreOp

namespace Store

variable {s s' : Store}

/-- A step after which a selected server is one that was selected before and kept its profile. -/
theorem SelectionValid.mono (hs : s.SelectionValid)
    (h : ∀ guid, s'.selected = some guid →
      s.selected = some guid ∧ s'.serverConfig guid = s.serverConfig guid) :
    s'.SelectionValid := by
  intro guid hsel hguid
  obtain ⟨hold, hconfig⟩ := h guid hsel
  rw [hconfig]
  exact hs guid hold hguid

theorem SelectionValid.forget (hs : s.SelectionValid) (guids : List String) :
    (s.forget guids).SelectionValid := by
  refine hs.mono fun guid hsel => ?_
  obtain ⟨hold, hnot⟩ := Option.filter_eq_some_iff.mp hsel
  rw [serverConfig_forget, if_neg (by simpa using hnot)]
  exact ⟨hold, rfl⟩

theorem SelectionValid.dropServer (hs : s.SelectionValid) (guid : String) :
    (s.dropServer guid).SelectionValid :=
  SelectionValid.forget (s := s.setServerList _ _) hs [guid]

theorem SelectionValid.dropServers (hs : s.SelectionValid) (guids : List String) (id : String) :
    (s.dropServers guids id).SelectionValid := by
  refine hs.mono fun guid hsel => ?_
  rw [selected_dropServers] at hsel
  obtain ⟨hold, hnot⟩ := Option.filter_eq_some_iff.mp hsel
  rw [serverConfig_dropServers, if_neg (by simpa using hnot)]
  exact ⟨hold, rfl⟩

theorem SelectionValid.dropInvalid (hs : s.SelectionValid) (guids : List String) :
    (s.dropInvalid guids).SelectionValid := by
  unfold Store.dropInvalid
  induction guids generalizing s with
  | nil => exact hs
  | cons guid guids ih =>
    rw [List.foldl_cons]
    split
    · exact ih (hs.dropServer guid)
    · exact ih hs

theorem SelectionValid.publish (hs : s.SelectionValid) {key : String}
    (hkey : Text.isBlank key = false) (config : ProfileItem) :
    (s.publish key config).SelectionValid := by
  intro guid hsel hguid
  rw [serverConfig_publish hkey]
  by_cases hg : guid = key
  · exact ⟨config, if_pos hg⟩
  · rw [if_neg hg]
    rcases selected_publish key config with h | h
    · exact hs guid (h.symm.trans hsel) hguid
    · rw [h, Option.some.injEq] at hsel
      exact absurd hsel.symm hg

/-- The selection after a replacement is a new profile, or it is the old one, whose payload the
replacement protects. -/
theorem SelectionValid.replaceAll (hs : s.SelectionValid) (fold : Char → Char) (b : ProfileBatch) :
    (s.replaceAll fold b.profiles b.rawConfigs b.subscriptionId b.append).SelectionValid := by
  intro guid hsel hguid
  by_cases hkey : guid ∈ b.profiles.keys
  · obtain ⟨profile, hp⟩ := LinkedMap.mem_keys.mp hkey
    exact ⟨profile, serverConfig_replaceAll_of_mem hp hguid⟩
  · rw [serverConfig_replaceAll_of_notMem hkey, if_neg]
    · refine hs guid ?_ hguid
      rw [selected_replaceAll] at hsel
      cases hr : s.replacementSelection fold b.profiles b.subscriptionId b.append with
      | none => rwa [hr] at hsel
      | some g =>
        rw [hr] at hsel
        cases hsel
        exact absurd (ProfileReplacement.findSelectedReplacement_mem fold hr) hkey
    · intro hrem
      exact (mem_removablePayloads.mp hrem).2.1 hsel

end Store

namespace StoreOp

variable {fold : Char → Char} {s : Store}

/-- One step from a store with a valid selection. -/
theorem selectionValid_apply_iff (op : StoreOp) (hs : s.SelectionValid)
    (hsel : op.SelectsStored s) :
    (op.apply fold s).SelectionValid ↔ op.ClearsUnselected s := by
  cases op with
  | encodeServerConfig guid uuid config =>
    refine iff_of_true ?_ trivial
    rw [apply_encodeServerConfig]
    exact hs.publish (saveKey_nonblank guid uuid) config
  | saveServerProfiles b =>
    refine iff_of_true ?_ trivial
    rw [apply_saveServerProfiles]
    split
    · exact hs
    · exact hs.replaceAll fold b
  | setSelectServer guid =>
    refine iff_of_true ?_ trivial
    intro g hg _
    cases hg
    exact hsel
  | removeServer guid =>
    refine iff_of_true ?_ trivial
    rw [apply_removeServer]
    split
    · exact hs
    · exact hs.dropServer guid
  | removeServers guids id =>
    refine iff_of_true ?_ trivial
    rw [apply_removeServers]
    split
    · exact hs
    · exact hs.dropServers guids _
  | removeServerViaSubid id =>
    refine iff_of_true ?_ trivial
    rw [apply_removeServerViaSubid]
    exact hs.forget _
  | removeSubscription id =>
    refine iff_of_true ?_ trivial
    obtain ⟨sub, subIds, heq⟩ := apply_removeSubscription fold s id
    rw [heq]
    exact Store.SelectionValid.forget hs _
  | removeAllServer =>
    rw [apply_removeAllServer]
    have hvalid : s.dropAll.SelectionValid ↔
        ∀ guid, s.selected = some guid → Text.isBlank guid = true := by
      simp [Store.SelectionValid, Store.selected_dropAll, Store.serverConfig_dropAll]
    rw [hvalid]
    change _ ↔ s.selected.all Text.isBlank = true
    cases s.selected <;> simp
  | removeInvalidServer guid =>
    refine iff_of_true ?_ trivial
    rw [apply_removeInvalidServer]
    exact hs.dropInvalid _
  | removeInvalidServersOf id =>
    refine iff_of_true ?_ trivial
    rw [apply_removeInvalidServersOf]
    split
    · exact hs
    · exact hs.dropServers _ _
  | removeOrphanedServerProfiles =>
    refine iff_of_true ?_ trivial
    rw [apply_removeOrphanedServerProfiles]
    refine hs.mono fun guid hold => ⟨hold, ?_⟩
    rw [Store.serverConfig_dropOrphans, if_neg (s.notMem_orphans (.inl hold))]
  | sortByTestResultsForSub subId =>
    refine iff_of_true ?_ trivial
    rw [apply_sortByTestResultsForSub]
    split
    · exact hs
    · exact hs
  | encodeServerTestDelayMillis | encodeSubscription | initSubsList =>
    refine iff_of_true ?_ trivial
    exact keeps_bookkeeping rfl fun _ _ _ => hs

end StoreOp

/-- A run from the empty store that selects stored servers only keeps the selection valid exactly
if it never clears the store while a server is selected. -/
theorem run_selectionValid_iff (fold : Char → Char) (ops : List StoreOp)
    (hsel : Run.StepsMeet (StoreOp.apply fold) (fun s op => op.SelectsStored s) {} ops) :
    Run.Always (StoreOp.apply fold) Store.SelectionValid {} ops ↔
      Run.StepsMeet (StoreOp.apply fold) (fun s op => op.ClearsUnselected s) {} ops :=
  Run.always_iff_stepsMeet (j := fun _ => True) (fun _ _ _ _ => trivial)
    (fun _ op _ hs hd => op.selectionValid_apply_iff hs hd) trivial
    (fun _ h _ => by cases h) hsel

/-- Save a server, select it again, remove it, and only then clear the store. -/
def clearedAfterRemoval : List StoreOp :=
  [.encodeServerConfig "g" Uuid.sample { configType := .vless }, .setSelectServer "g",
    .removeServer "g", .removeAllServer]

theorem clearedAfterRemoval_selectionValid :
    Run.StepsMeet (StoreOp.apply id) (fun s op => op.SelectsStored s) {} clearedAfterRemoval ∧
      Run.Always (StoreOp.apply id) Store.SelectionValid {} clearedAfterRemoval := by
  have hsel : Run.StepsMeet (StoreOp.apply id) (fun s op => op.SelectsStored s) {}
      clearedAfterRemoval := ⟨trivial, ⟨_, rfl⟩, trivial, trivial, trivial⟩
  refine ⟨hsel, (run_selectionValid_iff id clearedAfterRemoval hsel).mpr
    ⟨trivial, trivial, trivial, ?_, trivial⟩⟩
  change Text.isNullOrBlank _ = true
  decide

/-- The first saved server becomes selected, and stays so when the store is cleared. -/
theorem removeAllServer_leaves_selection :
    ¬Run.Always (StoreOp.apply id) Store.SelectionValid {}
      [.encodeServerConfig "g" ⟨"u", by decide⟩ { configType := .vless }, .removeAllServer] := by
  rintro ⟨-, -, h⟩
  obtain ⟨profile, hp⟩ := h "g" (by decide) (by decide)
  exact absurd (Option.isSome_of_eq_some hp) (by decide)

end ZeroVpn
