import ZeroVpn.Verify.IndexComplete
import ZeroVpn.Verify.Selection

/-!
# Replacing the profiles of a group

`saveServerProfiles` writes the new payloads, publishes the index, moves the selection and only
then deletes replaced payloads. The first part says exactly which payloads it deletes. The second
part follows the run in which one of its checked writes fails: the order of the writes leaves a
store in which nothing that was there is lost.
-/

namespace ZeroVpn
open MmkvManager List Prog

/-! ## What a replacement deletes -/

/-- A profile, test result or raw configuration of `guid` that `s` holds is gone in `s'`. -/
def Store.Loses (s s' : Store) (guid : String) : Prop :=
  (s.profileFull.get guid).isSome = true ∧ s'.profileFull.get guid = none ∨
  (s.serverAff.get guid).isSome = true ∧ s'.serverAff.get guid = none ∨
  (s.serverRaw.get guid).isSome = true ∧ s'.serverRaw.get guid = none

theorem Store.not_loses_self (s : Store) (guid : String) : ¬s.Loses s guid := by
  rintro (⟨h, h'⟩ | ⟨h, h'⟩ | ⟨h, h'⟩) <;> rw [h'] at h <;> cases h

variable {guid : String}

namespace Store

section
variable {s : Store} {fold : Char → Char} {profiles : LinkedMap String ProfileItem}
  {rawConfigs : KV String String} {id : String} {append : Bool}

theorem serverAff_replaceAll (guid : String) :
    (s.replaceAll fold profiles rawConfigs id append).serverAff.get guid =
      if guid ∈ s.removablePayloads fold profiles rawConfigs id append then none
      else s.serverAff.get guid :=
  KV.get_removeValuesForKeys _ _ _

theorem serverRaw_replaceAll (guid : String) :
    (s.replaceAll fold profiles rawConfigs id append).serverRaw.get guid =
      if guid ∈ s.removablePayloads fold profiles rawConfigs id append then none
      else (s.savePayloads rawConfigs profiles.entries).serverRaw.get guid :=
  KV.get_removeValuesForKeys _ _ _

variable {entries : List (String × ProfileItem)}

/-- The payload writes only add. -/
theorem profileFull_savePayloads_isSome (h : (s.profileFull.get guid).isSome = true) :
    ((s.savePayloads rawConfigs entries).profileFull.get guid).isSome = true :=
  KV.get_setAll_isSome h

theorem serverRaw_savePayloads_isSome (h : (s.serverRaw.get guid).isSome = true) :
    ((s.savePayloads rawConfigs entries).serverRaw.get guid).isSome = true :=
  KV.get_setAll_isSome h

/-- A replacement loses payloads of removable guids only. -/
theorem mem_removablePayloads_of_loses
    (h : s.Loses (s.replaceAll fold profiles rawConfigs id append) guid) :
    guid ∈ s.removablePayloads fold profiles rawConfigs id append := by
  by_contra hrem
  rcases h with ⟨h, h'⟩ | ⟨h, h'⟩ | ⟨h, h'⟩
  · rw [profileFull_replaceAll, if_neg hrem] at h'
    exact absurd (profileFull_savePayloads_isSome h) (by rw [h']; exact Bool.false_ne_true)
  · rw [serverAff_replaceAll, if_neg hrem] at h'
    rw [h'] at h
    cases h
  · rw [serverRaw_replaceAll, if_neg hrem] at h'
    exact absurd (serverRaw_savePayloads_isSome h) (by rw [h']; exact Bool.false_ne_true)

/-- Outside the batch a removable guid loses everything. -/
theorem replaceAll_of_mem_removablePayloads
    (h : guid ∈ s.removablePayloads fold profiles rawConfigs id append) :
    (s.replaceAll fold profiles rawConfigs id append).profileFull.get guid = none ∧
      (s.replaceAll fold profiles rawConfigs id append).serverAff.get guid = none ∧
      (s.replaceAll fold profiles rawConfigs id append).serverRaw.get guid = none := by
  rw [profileFull_replaceAll, serverAff_replaceAll, serverRaw_replaceAll, if_pos h, if_pos h,
    if_pos h]
  exact ⟨rfl, rfl, rfl⟩

end
end Store

theorem exec_saveServerProfiles (fold : Char → Char) (profiles : LinkedMap String ProfileItem)
    (rawConfigs : KV String String) (id : String) (append : Bool) (s : Store) :
    (saveServerProfiles fold profiles rawConfigs id append).exec s =
      if profiles.entries = [] then s else s.replaceAll fold profiles rawConfigs id append := by
  rw [exec, run_saveServerProfiles]

/-- `saveServerProfiles` deletes only payloads of old servers of the group that are neither
selected, nor in the batch, nor listed by another group; it deletes nothing when the batch is
appended or another group's index is damaged. Otherwise a non-empty batch deletes all payloads of
those servers, and an empty batch changes nothing. -/
theorem saveServerProfiles_loses (fold : Char → Char) (profiles : LinkedMap String ProfileItem)
    (rawConfigs : KV String String) (id : String) (append : Bool) (s : Store) :
    let s' := (saveServerProfiles fold profiles rawConfigs id append).exec s
    (∀ guid, s.Loses s' guid →
      guid ∈ s.serverList id ∧ s'.selected ≠ some guid ∧ guid ∉ profiles.keys ∧
        ∀ group, group ≠ getSubscriptionId id → guid ∉ s.listed group) ∧
    (append = true ∨ s.OtherIndexDamaged id → ∀ guid, ¬s.Loses s' guid) ∧
    (profiles.entries ≠ [] → append = false → ¬s.OtherIndexDamaged id →
      ∀ guid ∈ s.serverList id, s'.selected ≠ some guid → guid ∉ profiles.keys →
        (∀ group, group ≠ getSubscriptionId id → guid ∉ s.listed group) →
        s'.profileFull.get guid = none ∧ s'.serverAff.get guid = none ∧
          s'.serverRaw.get guid = none) ∧
    (profiles.entries = [] → s' = s) := by
  intro s'
  by_cases hempty : profiles.entries = []
  · have hs' : s' = s := by
      change (saveServerProfiles fold profiles rawConfigs id append).exec s = s
      rw [exec_saveServerProfiles, if_pos hempty]
    rw [hs']
    exact ⟨fun guid h => absurd h (s.not_loses_self guid), fun _ guid => s.not_loses_self guid,
      fun h => absurd hempty h, fun _ => rfl⟩
  have hs' : s' = s.replaceAll fold profiles rawConfigs id append := by
    change (saveServerProfiles fold profiles rawConfigs id append).exec s = _
    rw [exec_saveServerProfiles, if_neg hempty]
  rw [hs']
  refine ⟨fun guid h => ?_, fun hclosed guid h => ?_,
    fun _ happend hgood guid hold hsel hkey hother => ?_, fun h => absurd h hempty⟩
  · obtain ⟨hold, hsel, hkey, -, hother⟩ :=
      Store.mem_removablePayloads.mp (Store.mem_removablePayloads_of_loses h)
    refine ⟨?_, hsel, hkey, hother⟩
    cases append with
    | true => cases hold
    | false => exact hold
  · obtain ⟨hold, -, -, hgood, -⟩ :=
      Store.mem_removablePayloads.mp (Store.mem_removablePayloads_of_loses h)
    rcases hclosed with rfl | hdamaged
    · cases hold
    · exact hgood hdamaged
  · subst happend
    exact Store.replaceAll_of_mem_removablePayloads
      (Store.mem_removablePayloads.mpr ⟨hold, hsel, hkey, hgood, hother⟩)

/-- A store with one server in group `s` and nothing selected. -/
def oneServer : Store where
  subServers := KV.set ∅ "s" (.json ["g"])
  profileFull := KV.set ∅ "g" (.json { configType := .vless })

/-- An empty batch does not replace: the old server keeps its payload although it is not selected,
not in the batch and in no other group, and no index is damaged. -/
theorem empty_batch_keeps_payloads :
    let s' := (saveServerProfiles id LinkedMap.empty ∅ "s" false).exec oneServer
    ¬oneServer.OtherIndexDamaged "s" ∧ "g" ∈ oneServer.serverList "s" ∧
      s'.selected ≠ some "g" ∧ "g" ∉ LinkedMap.keys (LinkedMap.empty : LinkedMap String ProfileItem) ∧
      (∀ group, group ≠ getSubscriptionId "s" → "g" ∉ oneServer.listed group) ∧
      (s'.profileFull.get "g").isSome = true := by
  have hid : getSubscriptionId "s" = "s" := by decide
  rw [hid]
  refine ⟨?_, by decide, by decide, by decide, ?_, by decide⟩
  · rintro ⟨group, entry, hne, hget, -⟩
    rw [oneServer, KV.get_set, if_neg (hid ▸ hne)] at hget
    cases hget
  · intro group hne hin
    rw [Store.listed, oneServer, KV.get_set, if_neg hne] at hin
    cases hin

/-! ## A failing write -/

/-- The number of checked payload writes. -/
def payloadWrites (rawConfigs : KV String String) : List (String × ProfileItem) → Nat
  | [] => 0
  | (guid, _) :: rest =>
    (if (rawConfigs.get guid).isSome then 2 else 1) + payloadWrites rawConfigs rest

/-- `s'` is `s` with profiles and raw configurations of `keys` written. -/
structure Store.AddsPayloads (s s' : Store) (keys : List String) : Prop where
  rest : ∃ profileFull serverRaw, s' = { s with profileFull := profileFull, serverRaw := serverRaw }
  profiles : ∀ guid, guid ∉ keys → s'.profileFull.get guid = s.profileFull.get guid
  raws : ∀ guid, guid ∉ keys → s'.serverRaw.get guid = s.serverRaw.get guid

namespace Store.AddsPayloads

variable {s s' s'' : Store} {keys : List String}

theorem refl (s : Store) (keys : List String) : s.AddsPayloads s keys :=
  ⟨⟨_, _, rfl⟩, fun _ _ => rfl, fun _ _ => rfl⟩

theorem trans (h : s.AddsPayloads s' keys) (h' : s'.AddsPayloads s'' keys) :
    s.AddsPayloads s'' keys := by
  refine ⟨?_, fun guid hg => (h'.profiles guid hg).trans (h.profiles guid hg),
    fun guid hg => (h'.raws guid hg).trans (h.raws guid hg)⟩
  obtain ⟨_, _, rfl⟩ := h.rest
  obtain ⟨_, _, rfl⟩ := h'.rest
  exact ⟨_, _, rfl⟩

theorem mono (h : s.AddsPayloads s' keys) (hsub : ∀ k ∈ keys, k ∈ keys') :
    s.AddsPayloads s' keys' :=
  ⟨h.rest, fun guid hg => h.profiles guid fun hk => hg (hsub guid hk),
    fun guid hg => h.raws guid fun hk => hg (hsub guid hk)⟩

theorem setServerConfig (s : Store) (guid : String) (config : ProfileItem) :
    s.AddsPayloads (s.setServerConfig guid config) [guid] := by
  refine ⟨⟨_, _, rfl⟩, fun g hg => ?_, fun _ _ => rfl⟩
  rw [Store.setServerConfig, KV.get_set, if_neg (by simpa using hg)]

theorem setServerRaw (s : Store) (guid raw : String) :
    s.AddsPayloads (s.setServerRaw guid raw) [guid] := by
  refine ⟨⟨_, _, rfl⟩, fun _ _ => rfl, fun g hg => ?_⟩
  rw [Store.setServerRaw, KV.get_set, if_neg (by simpa using hg)]

end Store.AddsPayloads

/-- A failing payload write raises the exception after some payloads of the batch were added; a
later failure is not reached yet. -/
theorem runFault_savePayloads (rawConfigs : KV String String)
    (entries : List (String × ProfileItem)) (n : Nat) (s : Store) :
    (∃ message s', (savePayloads rawConfigs entries).runFault (some n) s =
        (.error (.profileStorage message), none, s') ∧
      s.AddsPayloads s' (entries.map Prod.fst)) ∨
    (∃ m s', (savePayloads rawConfigs entries).runFault (some n) s = (.ok (), some m, s') ∧
      n = payloadWrites rawConfigs entries + m ∧ s' = s.savePayloads rawConfigs entries) := by
  induction entries generalizing n s with
  | nil => exact .inr ⟨n, s, rfl, (Nat.zero_add n).symm, rfl⟩
  | cons e entries ih =>
    obtain ⟨guid, profile⟩ := e
    have hsub (k : String) (hk : k ∈ [guid]) : k ∈ guid :: entries.map Prod.fst := by
      rw [mem_singleton.mp hk]
      exact mem_cons_self
    have hsub' (k : String) (hk : k ∈ entries.map Prod.fst) : k ∈ guid :: entries.map Prod.fst :=
      mem_cons_of_mem _ hk
    have hconfig := (Store.AddsPayloads.setServerConfig s guid profile).mono hsub
    rw [savePayloads, payloadWrites]
    cases n with
    | zero => exact .inl ⟨_, s, rfl, .refl s _⟩
    | succ n =>
      cases hraw : rawConfigs.get guid with
      | none =>
        rw [if_neg (by simp)]
        rcases ih n (s.setServerConfig guid profile) with
          ⟨message, s', hrun, hadds⟩ | ⟨m, s', hrun, hm, hs'⟩
        · exact .inl ⟨message, s', hrun, hconfig.trans (hadds.mono hsub')⟩
        · refine .inr ⟨m, s', hrun, by omega, hs'.trans ?_⟩
          simp only [Store.savePayloads, hraw, map_cons, filterMap_cons, Option.map_none]
          rfl
      | some raw =>
        rw [if_pos Option.isSome_some]
        have hraws := (Store.AddsPayloads.setServerRaw (s.setServerConfig guid profile) guid raw).mono
          hsub
        cases n with
        | zero => exact .inl ⟨_, s.setServerConfig guid profile, rfl, hconfig⟩
        | succ n =>
          rcases ih n ((s.setServerConfig guid profile).setServerRaw guid raw) with
            ⟨message, s', hrun, hadds⟩ | ⟨m, s', hrun, hm, hs'⟩
          · exact .inl ⟨message, s', hrun, (hconfig.trans hraws).trans (hadds.mono hsub')⟩
          · refine .inr ⟨m, s', hrun, by omega, hs'.trans ?_⟩
            simp only [Store.savePayloads, hraw, map_cons, filterMap_cons,
              Option.map_some]
            rfl

theorem Store.AddsPayloads.savePayloads (s : Store) (rawConfigs : KV String String)
    (entries : List (String × ProfileItem)) :
    s.AddsPayloads (s.savePayloads rawConfigs entries) (entries.map Prod.fst) := by
  refine ⟨⟨_, _, rfl⟩, fun guid hg => profileFull_savePayloads_of_notMem hg, fun guid hg => ?_⟩
  refine KV.get_setAll_of_notMem fun hin => hg ?_
  obtain ⟨⟨k, raw⟩, hk, rfl⟩ := mem_map.mp hin
  obtain ⟨e, he, hraw⟩ := mem_filterMap.mp hk
  obtain ⟨raw', -, heq⟩ := Option.map_eq_some_iff.mp hraw
  cases heq
  exact mem_map.mpr ⟨e, he, rfl⟩

/-- After the selection is written no write is checked any more. -/
theorem runFault_removal_ne {replaced : List String} {p : StoreM Unit}
    (hp : ∀ n s, ∃ s', p.runFault n s = (.ok (), n, s')) :
    (if replaced = [] then pure () else p : StoreM Unit).runFault (some n) s ≠ (r, none, s') := by
  intro h
  split at h
  · cases h
  · obtain ⟨s'', hrun⟩ := hp (some n) s
    rw [hrun] at h
    cases h

section
variable (fold : Char → Char) (profiles : LinkedMap String ProfileItem)
  (rawConfigs : KV String String) (id : String) (append : Bool) (n : Option Nat) (s : Store)

theorem runFault_decodeReplacedServers :
    (decodeReplacedServers id append).runFault n s = (.ok (s.replacedServers id append), n, s) := by
  cases append <;> rfl

theorem runFault_decodeSelectedProfile :
    (decodeSelectedProfile (s.replacedServers id append) append s.selected).runFault n s =
      (.ok (s.selectedProfile id append), n, s) := by
  unfold Store.selectedProfile
  cases s.selected with
  | none => rfl
  | some guid => dsimp only [decodeSelectedProfile]; split <;> rfl

theorem runFault_decodeKeptServers :
    (decodeKeptServers id append).runFault n s =
      (.ok (if append then s.serverList id else []), n, s) := by
  cases append <;> rfl

end

/-- The store after a failing write of `replaceServerProfiles`: payloads of the batch were added,
and if all of them were, the index may be published. -/
theorem runFault_replaceServerProfiles {profiles : LinkedMap String ProfileItem} {id : String}
    {s s' : Store}
    (h : (replaceServerProfiles fold profiles rawConfigs id append).runFault (some n) s =
      (r, none, s')) :
    (∃ message, r = .error (.profileStorage message)) ∧
    (s.AddsPayloads s' profiles.keys ∨
      payloadWrites rawConfigs profiles.entries < n ∧
        s' = (s.savePayloads rawConfigs profiles.entries).setServerList id
          (s.newServerList profiles id append)) := by
  unfold replaceServerProfiles at h
  rw [runFault_bind, runFault_decodeReplacedServers] at h
  dsimp only [getSelectServer] at h
  rw [runFault_read_bind, runFault_bind, runFault_decodeSelectedProfile] at h
  dsimp only at h
  rw [runFault_bind] at h
  rcases runFault_savePayloads rawConfigs profiles.entries n s with
    ⟨message, t, hrun, hadds⟩ | ⟨k, t, hrun, hk, rfl⟩
  · rw [hrun] at h
    cases h
    exact ⟨⟨_, rfl⟩, .inl hadds⟩
  rw [hrun] at h
  dsimp only at h
  rw [runFault_bind, runFault_decodeKeptServers] at h
  dsimp only [requireStorageWrite] at h
  rw [runFault_require_bind] at h
  cases k with
  | zero =>
    -- the index write itself fails
    cases h
    exact ⟨⟨_, rfl⟩, .inl (.savePayloads s rawConfigs profiles.entries)⟩
  | succ k =>
    have hrest (n : Option Nat) (t : Store) : ∃ t', ((do
        let referenced ← .read (·.serversReferencedByOtherGroups id)
        .write (·.removeProfilePayloads (ProfileReplacement.findRemovablePayloads
          (s.replacedServers id append) profiles.keys
          (ProfileReplacement.findSelectedReplacement fold profiles s.selected
            (s.selectedProfile id append) <|> s.selected) referenced)) : StoreM Unit)).runFault n t =
        (.ok (), n, t') := ⟨_, rfl⟩
    cases hsel : ProfileReplacement.findSelectedReplacement fold profiles s.selected
        (s.selectedProfile id append) with
    | none =>
      rw [hsel] at h hrest
      exact absurd h (runFault_removal_ne hrest)
    | some guid =>
      rw [hsel] at h hrest
      dsimp only [selectReplacement, requireStorageWrite] at h
      cases k with
      | zero =>
        cases h
        exact ⟨⟨_, rfl⟩, .inr ⟨by omega, rfl⟩⟩
      | succ k => exact absurd h (runFault_removal_ne hrest)

namespace Store.AddsPayloads

variable {s s' : Store} {keys : List String}

/-- What was stored stays as it was when the keys are new. -/
theorem profileFull_eq (h : s.AddsPayloads s' keys)
    (hfresh : ∀ guid ∈ keys, s.profileFull.get guid = none)
    (hp : s.profileFull.get guid = some payload) : s'.profileFull.get guid = some payload := by
  rw [h.profiles guid fun hk => ?_, hp]
  rw [hfresh guid hk] at hp
  cases hp

theorem serverRaw_eq (h : s.AddsPayloads s' keys)
    (hfresh : ∀ guid ∈ keys, s.serverRaw.get guid = none) (hp : s.serverRaw.get guid = some raw) :
    s'.serverRaw.get guid = some raw := by
  rw [h.raws guid fun hk => ?_, hp]
  rw [hfresh guid hk] at hp
  cases hp

theorem serverConfig_eq (h : s.AddsPayloads s' keys)
    (hfresh : ∀ guid ∈ keys, s.profileFull.get guid = none)
    (hp : s.serverConfig guid = some profile) : s'.serverConfig guid = some profile := by
  obtain ⟨hblank, hdecoded⟩ := serverConfig_eq_some_iff.mp hp
  obtain ⟨payload, hget, hd⟩ := Option.bind_eq_some_iff.mp hdecoded
  refine serverConfig_eq_some_iff.mpr ⟨hblank, ?_⟩
  rw [h.profileFull_eq hfresh hget]
  exact hd

theorem subServers_eq (h : s.AddsPayloads s' keys) : s'.subServers = s.subServers := by
  obtain ⟨_, _, rfl⟩ := h.rest
  rfl

theorem selected_eq (h : s.AddsPayloads s' keys) : s'.selected = s.selected := by
  obtain ⟨_, _, rfl⟩ := h.rest
  rfl

theorem serverAff_eq (h : s.AddsPayloads s' keys) : s'.serverAff = s.serverAff := by
  obtain ⟨_, _, rfl⟩ := h.rest
  rfl

theorem listed_eq (h : s.AddsPayloads s' keys) (group : String) :
    s'.listed group = s.listed group := by
  rw [listed, h.subServers_eq, listed]

theorem indexComplete (h : s.AddsPayloads s' keys)
    (hfresh : ∀ guid ∈ keys, s.profileFull.get guid = none) (hs : s.IndexComplete) :
    s'.IndexComplete := by
  intro group guid hin
  rw [h.listed_eq] at hin
  obtain ⟨profile, hp⟩ := hs group guid hin
  exact ⟨profile, h.serverConfig_eq hfresh hp⟩

theorem selectionValid (h : s.AddsPayloads s' keys)
    (hfresh : ∀ guid ∈ keys, s.profileFull.get guid = none) (hs : s.SelectionValid) :
    s'.SelectionValid := by
  intro guid hsel hguid
  rw [h.selected_eq] at hsel
  obtain ⟨profile, hp⟩ := hs guid hsel hguid
  exact ⟨profile, h.serverConfig_eq hfresh hp⟩

end Store.AddsPayloads

/-- With all payloads of the batch written, its index may be published. -/
theorem Store.IndexComplete.publishIndex {s : Store} (hs : s.IndexComplete) (b : ProfileBatch)
    (hfresh : ∀ guid ∈ b.profiles.keys, s.profileFull.get guid = none) :
    ((s.savePayloads b.rawConfigs b.profiles.entries).setServerList b.subscriptionId
      (s.newServerList b.profiles b.subscriptionId b.append)).IndexComplete := by
  have hadds := Store.AddsPayloads.savePayloads s b.rawConfigs b.profiles.entries
  have hsaved := hadds.indexComplete hfresh hs
  intro group guid hin
  rw [Store.listed_setServerList] at hin
  rw [Store.serverConfig_setServerList]
  split at hin
  · rcases Store.mem_newServerList.mp hin with ⟨-, hin⟩ | hin
    · exact hsaved _ guid hin
    · obtain ⟨profile, hp⟩ := LinkedMap.mem_keys.mp hin
      refine ⟨profile, ?_⟩
      simp [Store.serverConfig, b.nonblank guid hin, Store.profileFull_savePayloads_of_mem hp]
  · exact hsaved group guid hin

/-- If a checked write of `saveServerProfiles` fails on a store whose indexed servers and selection
have profiles, then a `ProfileStorageException` is raised, indexed servers and selection still have
profiles, and nothing that was stored has changed; unless the failing write comes after
the index write, the index of the group is the old one. -/
theorem saveServerProfiles_fault (fold : Char → Char) (b : ProfileBatch) (s : Store)
    (hindex : s.IndexComplete) (hsel : s.SelectionValid)
    (hfresh : ∀ guid ∈ b.profiles.keys,
      s.profileFull.get guid = none ∧ s.serverRaw.get guid = none)
    (n : Nat) {r : Except StoreException Unit} {s' : Store}
    (hfault : (saveServerProfiles fold b.profiles b.rawConfigs b.subscriptionId b.append).runFault
      (some n) s = (r, none, s')) :
    (∃ message, r = .error (.profileStorage message)) ∧ s'.IndexComplete ∧ s'.SelectionValid ∧
      (∀ guid payload, s.profileFull.get guid = some payload →
        s'.profileFull.get guid = some payload) ∧
      (∀ guid raw, s.serverRaw.get guid = some raw → s'.serverRaw.get guid = some raw) ∧
      s'.serverAff = s.serverAff ∧
      (n ≤ payloadWrites b.rawConfigs b.profiles.entries →
        s'.serverList b.subscriptionId = s.serverList b.subscriptionId) := by
  have hprofiles (guid : String) (hg : guid ∈ b.profiles.keys) := (hfresh guid hg).1
  have hraws (guid : String) (hg : guid ∈ b.profiles.keys) := (hfresh guid hg).2
  unfold saveServerProfiles withProfileIndexLock at hfault
  split at hfault
  · cases hfault
  rw [runFault_withLock] at hfault
  obtain ⟨he, hadds | ⟨hlt, rfl⟩⟩ := runFault_replaceServerProfiles hfault
  · exact ⟨he, hadds.indexComplete hprofiles hindex, hadds.selectionValid hprofiles hsel,
      fun _ _ => hadds.profileFull_eq hprofiles, fun _ _ => hadds.serverRaw_eq hraws,
      hadds.serverAff_eq, fun _ => hadds.listed_eq _⟩
  · have hadds := Store.AddsPayloads.savePayloads s b.rawConfigs b.profiles.entries
    exact ⟨he, hindex.publishIndex b hprofiles, hadds.selectionValid hprofiles hsel,
      fun _ _ => hadds.profileFull_eq hprofiles, fun _ _ => hadds.serverRaw_eq hraws,
      hadds.serverAff_eq, fun hle => absurd hlt (by omega)⟩

/-- One profile with a raw configuration, appended to group `s`. -/
def rawBatch : ProfileBatch where
  profiles := ⟨[("h", { configType := .custom })], by decide⟩
  rawConfigs := KV.set ∅ "h" "raw"
  subscriptionId := "s"
  append := true
  nonblank := by decide

/-- The third checked write, that of the index, fails on a store with one server. -/
theorem rawBatch_index_fault :
    ∃ s', (saveServerProfiles id rawBatch.profiles rawBatch.rawConfigs rawBatch.subscriptionId
        rawBatch.append).runFault (some 2) oneServer =
      (.error (.profileStorage "Failed to publish profile index"), none, s') ∧
      s'.IndexComplete ∧ s'.serverList "s" = oneServer.serverList "s" := by
  have hindex : oneServer.IndexComplete := by
    intro group guid hin
    have hkey : group = "s" := by
      have := Store.mem_allKeys_of_listed hin
      clear hin
      revert group
      decide
    subst hkey
    have hguid : guid = "g" := mem_singleton.mp hin
    subst hguid
    exact ⟨_, rfl⟩
  have hsel : oneServer.SelectionValid := fun _ h => by cases h
  have hfresh : ∀ guid ∈ rawBatch.profiles.keys,
      oneServer.profileFull.get guid = none ∧ oneServer.serverRaw.get guid = none := by
    intro guid hg
    rw [mem_singleton.mp hg]
    exact ⟨rfl, rfl⟩
  have h := saveServerProfiles_fault id rawBatch oneServer hindex hsel hfresh 2 rfl
  exact ⟨_, rfl, h.2.1, h.2.2.2.2.2.2 (by decide)⟩

end ZeroVpn
