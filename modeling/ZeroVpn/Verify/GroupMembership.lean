import ZeroVpn.Handler.ImportSpec
import ZeroVpn.Verify.IndexComplete

/-!
# A server belongs to one group

Membership is stored twice: in the index of a group and in the `subscriptionId` of the profile.
The importers and the editors write both. They agree as long as no v2rayN item, whose profile has
no `subscriptionId`, is imported into another group than the default one, and as long as an editor
saves a listed server into the group that lists it.
-/

namespace ZeroVpn
open MmkvManager AngConfigManager List Prog
variable {config : ProfileItem}

namespace Store

/-- A stored server occurs at most once over all indexes, and only in the index of its payload's
group. -/
def GroupsUnique (s : Store) : Prop :=
  ∀ guid profile, s.serverConfig guid = some profile →
    (∀ group, (s.listed group).count guid ≤ 1) ∧
    (∀ group group', guid ∈ s.listed group → guid ∈ s.listed group' → group = group') ∧
    ∀ group, guid ∈ s.listed group → getSubscriptionId profile.subscriptionId = group

/-- The index that lists a stored server is that of its payload's group. -/
def Homed (s : Store) : Prop :=
  ∀ group guid profile, guid ∈ s.listed group → s.serverConfig guid = some profile →
    getSubscriptionId profile.subscriptionId = group

variable {s s' : Store}

theorem groupsUnique_of_homed (hnd : s.ListsNodup) (h : s.Homed) : s.GroupsUnique := by
  intro guid profile hp
  refine ⟨fun group => nodup_iff_count_le_one.mp (hnd group) guid, ?_,
    fun group hin => h group guid profile hin hp⟩
  intro group group' hin hin'
  exact (h group guid profile hin hp).symm.trans (h group' guid profile hin' hp)

theorem Homed.shrink (h : s.Homed) (hsh : s.ShrinksTo s') : s'.Homed :=
  fun group guid profile hin hp => h group guid profile (hsh.listed hin) (hsh.config hp)

/-- Saving keeps the groups apart if the saved server is listed in its new group only. -/
theorem Homed.publish (h : s.Homed) (hkey : Text.isBlank key = false)
    (honly : ∀ group, key ∈ s.listed group → group = getSubscriptionId config.subscriptionId) :
    (s.publish key config).Homed := by
  intro group guid profile hin hp
  rw [serverConfig_publish hkey] at hp
  rw [mem_listed_publish] at hin
  split at hp
  · next hg =>
    subst hg
    cases hp
    rcases hin with hin | ⟨-, rfl⟩
    · exact (honly group hin).symm
    · rfl
  · next hg =>
    rcases hin with hin | ⟨rfl, -⟩
    · exact h group guid profile hin hp
    · exact absurd rfl hg

theorem Homed.replaceAll (h : s.Homed) {profiles : LinkedMap String ProfileItem} {id : String}
    (hfresh : ∀ guid ∈ profiles.keys, ∀ group, guid ∉ s.listed group)
    (hhome : ∀ e ∈ profiles.entries, getSubscriptionId e.2.subscriptionId = getSubscriptionId id) :
    (s.replaceAll fold profiles rawConfigs id append).Homed := by
  intro group guid profile hin hp
  rw [listed_replaceAll] at hin
  by_cases hkey : guid ∈ profiles.keys
  · have hgroup : group = getSubscriptionId id := by
      by_contra hne
      rw [if_neg hne] at hin
      exact hfresh guid hkey group hin
    obtain ⟨profile', hp'⟩ := LinkedMap.mem_keys.mp hkey
    have hb : Text.isBlank guid = false := by
      cases hb : Text.isBlank guid with
      | false => rfl
      | true => rw [serverConfig, if_pos hb] at hp; cases hp
    rw [serverConfig_replaceAll_of_mem hp' hb] at hp
    cases hp
    exact (hhome _ hp').trans hgroup.symm
  · rw [serverConfig_replaceAll_of_notMem hkey] at hp
    split at hp
    · cases hp
    · split at hin
      · next hg =>
        rcases mem_newServerList.mp hin with ⟨-, hin⟩ | hin
        · exact h group guid profile (hg ▸ hin) hp
        · exact absurd hin hkey
      · exact h group guid profile hin hp

end Store

/-! ## What an import commits -/

/-- No line of the text is a v2rayN link. -/
def NoV2raynLine (env : ImportEnv) (text : String) : Prop :=
  ∀ line ∈ Text.lines text, isV2raynLine env line = false

/-- `s'` is `s` with at most one batch committed, whose profiles all belong to the target group. -/
def Committed (env : ImportEnv) (uuids : Nat → String) (subid : String) (s s' : Store) : Prop :=
  s' = s ∨ ∃ profiles rawConfigs append,
    (∀ e ∈ LinkedMap.entries profiles, (∃ i, e.1 = uuids i) ∧
      getSubscriptionId e.2.subscriptionId = getSubscriptionId subid) ∧
    s' = s.replaceAll env.fold profiles rawConfigs subid append

variable {env : ImportEnv} {uuids : Nat → String} {subid : String}

section
variable {append : Bool}
variable {subItem : Option SubscriptionItem} {configs : List ParsedProfile} {c : ParsedProfile}
  {server : String}

theorem parseConfig_subscriptionId (h : parseConfig env str subid subItem = some config) :
    config.subscriptionId = subid := by
  unfold parseConfig at h
  split at h
  · cases h
  · split at h
    · split at h
      · cases h; rfl
      · cases h
    · cases h

/-- The profiles of a batch belong to the target group, unless a v2rayN item goes elsewhere than
to the default group. -/
theorem parseLines_home {configs : List ProfileItem}
    (h : parseLines env servers subid subItem = .ok configs)
    (hv : getSubscriptionId subid = AppConfig.defaultSubscriptionId ∨ NoV2raynLine env servers)
    (hc : config ∈ configs) :
    getSubscriptionId config.subscriptionId = getSubscriptionId subid := by
  unfold parseLines at h
  dsimp only at h
  cases hp : V2rayNFmt.parse (fun s => env.decode (some s)) env.shareItem env.escape
      ((batchLines servers).filter (isV2raynLine env ·)) subid with
  | error e => rw [hp] at h; cases h
  | ok v2raynConfigs =>
    rw [hp] at h
    cases h
    rcases mem_append.mp hc with hc | hc
    · rcases hv with hv | hv
      · rw [V2rayNFmt.parse_subscriptionId _ _ _ hp hc, hv]
        rfl
      · have hnil : (batchLines servers).filter (isV2raynLine env ·) = [] := by
          rw [filter_eq_nil_iff]
          intro line hline
          rw [batchLines, mem_reverse, mem_eraseDups] at hline
          rw [hv line hline]
          decide
        rw [hnil] at hp
        cases hp
        cases hc
    · obtain ⟨line, -, hline⟩ := mem_filterMap.mp hc
      rw [parseConfig_subscriptionId hline]

theorem parsedOrNil_mem (h : c ∈ parsedOrNil r) :
    ∃ configs, r = .ok configs ∧ c ∈ configs := by
  cases r with
  | error e => cases h
  | ok configs => exact ⟨configs, rfl, h⟩

theorem parseWireguard_subscriptionId (h : parseWireguard env conf subid = .ok configs)
    (hc : c ∈ configs) :
    c.profile.subscriptionId = subid := by
  unfold parseWireguard at h
  cases hp : env.parseWireguardConfFile conf with
  | error e => rw [hp] at h; cases h
  | ok config =>
    rw [hp] at h
    cases h
    rw [mem_singleton.mp hc]
    rfl

theorem parseCustomArray_subscriptionId (h : parseCustomArray env server subid = .ok configs)
    (hc : c ∈ configs) : c.profile.subscriptionId = subid := by
  unfold parseCustomArray at h
  cases hp : env.jsonArray server with
  | error e => rw [hp] at h; cases h
  | ok elements =>
    rw [hp] at h
    obtain ⟨⟨json, pretty⟩, -, he⟩ := mem_of_mapM_eq_ok h hc
    cases hq : env.parseCustom json with
    | error e => simp only [hq] at he; cases he
    | ok config => simp only [hq] at he; cases he; rfl

theorem parseCustomSingle_subscriptionId (h : parseCustomSingle env server subid = .ok configs)
    (hc : c ∈ configs) : c.profile.subscriptionId = subid := by
  unfold parseCustomSingle at h
  cases hp : env.parseCustom server with
  | error e => rw [hp] at h; cases h
  | ok config =>
    rw [hp] at h
    cases h
    rw [mem_singleton.mp hc]
    rfl

theorem parseAmnezia_subscriptionId (h : parseAmnezia env server subid = .ok configs)
    (hc : c ∈ configs) : c.profile.subscriptionId = subid := by
  unfold parseAmnezia at h
  cases hp : env.extractAmneziaWireguardConf server with
  | error e => rw [hp] at h; cases h
  | ok conf =>
    rw [hp] at h
    cases conf with
    | none => cases h; cases hc
    | some conf => exact parseWireguard_subscriptionId h hc

theorem customProfiles_subscriptionId (h : c ∈ customProfiles env server subid) :
    c.profile.subscriptionId = subid := by
  unfold customProfiles at h
  split at h
  · split at h
    · obtain ⟨configs, hr, hc⟩ := parsedOrNil_mem h
      exact parseCustomSingle_subscriptionId hr hc
    · obtain ⟨configs, hr, hc⟩ := parsedOrNil_mem h
      exact parseCustomArray_subscriptionId hr hc
  · split at h
    · obtain ⟨configs, hr, hc⟩ := parsedOrNil_mem h
      exact parseWireguard_subscriptionId hr hc
    · split at h
      · obtain ⟨configs, hr, hc⟩ := parsedOrNil_mem h
        exact parseAmnezia_subscriptionId hr hc
      · cases h

theorem commitParsed_committed
    (hhome : ∀ c ∈ configs, getSubscriptionId c.profile.subscriptionId = getSubscriptionId subid)
    (s : Store) :
    Committed env uuids subid s ((commitParsed env uuids configs subid append).exec s) := by
  obtain ⟨rawConfigs, hexec⟩ := exec_commitParsed configs s
  rw [hexec]
  split
  · exact .inl rfl
  · refine .inr ⟨_, rawConfigs, append, fun e he => ?_, rfl⟩
    obtain ⟨i, c, hc, rfl⟩ := exists_of_mem_keyedProfiles (LinkedMap.mem_of_mem_ofEntries he)
    exact ⟨⟨i, rfl⟩, hhome c hc⟩

theorem linkProfiles_home
    (hv : getSubscriptionId subid = AppConfig.defaultSubscriptionId ∨ NoV2raynLine env text)
    (hc : c ∈ linkProfiles env text subid subItem) :
    getSubscriptionId c.profile.subscriptionId = getSubscriptionId subid := by
  unfold linkProfiles at hc
  cases hp : parseLines env text subid subItem with
  | error e => rw [hp] at hc; cases hc
  | ok configs =>
    rw [hp] at hc
    obtain ⟨config, hconfig, rfl⟩ := mem_map.mp hc
    exact parseLines_home hp hv hconfig

/-- Neither the text nor its decoding has a v2rayN link, or the group is the default one. -/
def V2raynStaysDefault (env : ImportEnv) (server : Option String) (subid : String) : Prop :=
  getSubscriptionId subid = AppConfig.defaultSubscriptionId ∨
    NoV2raynLine env (env.decode server) ∧ ∀ text, server = some text → NoV2raynLine env text

theorem importedProfiles_home {server : Option String} (hv : V2raynStaysDefault env server subid)
    (hc : c ∈ importedProfiles env server subid subItem) :
    getSubscriptionId c.profile.subscriptionId = getSubscriptionId subid := by
  unfold importedProfiles at hc
  split at hc
  · next text _ =>
    split at hc
    · rw [customProfiles_subscriptionId hc]
    · exact linkProfiles_home (hv.imp_right fun h => h.2 text rfl) hc
  · exact linkProfiles_home (hv.imp_right And.left) hc

theorem parseConfigViaSub_committed {server : Option String}
    (hv : V2raynStaysDefault env server subid) (s : Store) :
    Committed env uuids subid s ((parseConfigViaSub env uuids server subid append).exec s) := by
  rw [exec, run_parseConfigViaSub]
  exact commitParsed_committed (fun c hc => importedProfiles_home hv hc) s

end

/-! ## The assertion kept by an import -/

/-- The indexes agree with the payloads, have no duplicates and list no guid with `K`. -/
structure Store.Consistent (K : String → Prop) (s : Store) : Prop where
  homed : s.Homed
  nodup : s.ListsNodup
  unlisted : ∀ guid, K guid → ∀ group, guid ∉ s.listed group

section
variable {K L : String → Prop} {s s' : Store}

theorem Store.Consistent.imp (h : s.Consistent K) (himp : ∀ guid, L guid → K guid) :
    s.Consistent L := ⟨h.homed, h.nodup, fun guid hL => h.unlisted guid (himp guid hL)⟩


theorem Store.Consistent.commit (hs : s.Consistent K) (h : Committed env uuids subid s s')
    (hu : ∀ i, K (uuids i)) : s'.Consistent fun guid => K guid ∧ ∀ i, guid ≠ uuids i := by
  rcases h with rfl | ⟨profiles, rawConfigs, append, hentries, rfl⟩
  · exact hs.imp fun _ => And.left
  · have hkeys (guid : String) (hg : guid ∈ profiles.keys) : ∃ i, guid = uuids i := by
      obtain ⟨profile, hp⟩ := LinkedMap.mem_keys.mp hg
      exact (hentries _ hp).1
    refine ⟨hs.homed.replaceAll ?_ fun e he => (hentries e he).2, hs.nodup.replaceAll, ?_⟩
    · intro guid hg
      obtain ⟨i, rfl⟩ := hkeys guid hg
      exact hs.unlisted _ (hu i)
    · rintro guid ⟨hK, hne⟩ group hin
      rw [Store.listed_replaceAll] at hin
      split at hin
      · rcases Store.mem_newServerList.mp hin with ⟨-, hin⟩ | hin
        · exact hs.unlisted guid hK _ hin
        · obtain ⟨i, hi⟩ := hkeys guid hin
          exact hne i hi
      · exact hs.unlisted guid hK group hin

/-- The subscription tables are not part of the assertion. -/
theorem Store.Consistent.subs (s : Store) (sub : KV String (Stored SubscriptionItem))
    (subIds : Option (Stored (List String))) (h : s.Consistent K) :
    ({ s with sub := sub, subIds := subIds } : Store).Consistent K :=
  ⟨h.homed, h.nodup, h.unlisted⟩

/-- No fetched subscription has a v2rayN link, in plain text or encoded. -/
def FetchesNoV2rayn (env : ImportEnv) : Prop :=
  ∀ url item result,
    (env.fetchViaProxy url item = some result ∨ env.fetchDirect url item = some result) →
    NoV2raynLine env result.content ∧ NoV2raynLine env (env.decode (some result.content))

theorem fetchSubscription_eq (h : fetchSubscription env url item = some result) :
    env.fetchViaProxy url item = some result ∨ env.fetchDirect url item = some result := by
  unfold fetchSubscription at h
  split at h
  · next hp =>
    cases h
    exact .inl (Option.filter_eq_some_iff.mp hp).1
  · exact .inr (Option.filter_eq_some_iff.mp h).1

theorem parseConfigViaSub_leads {append : Bool} (hv : V2raynStaysDefault env server subid)
    (hu : ∀ i, K (uuids i)) :
    (parseConfigViaSub env uuids server subid append).Leads (Store.Consistent K)
      (Store.Consistent fun guid => K guid ∧ ∀ i, guid ≠ uuids i) := by
  intro s hs
  exact hs.commit (parseConfigViaSub_committed hv s) hu

theorem updateConfigViaSub_leads (hf : FetchesNoV2rayn env) (hu : ∀ i, K (uuids i)) :
    (updateConfigViaSub env uuids uuid guid item).Leads (Store.Consistent K)
      (Store.Consistent fun guid => K guid ∧ ∀ i, guid ≠ uuids i) := by
  have hskip {α : Type} (a : α) : (pure a : StoreM α).Leads (Store.Consistent K)
      (Store.Consistent fun guid => K guid ∧ ∀ i, guid ≠ uuids i) :=
    (leads_pure a).imp fun _ h => h.imp fun _ => And.left
  unfold updateConfigViaSub
  split
  · exact hskip _
  · next url _ =>
    split
    · exact hskip _
    · next result hresult =>
      have hno := hf url item result (fetchSubscription_eq hresult)
      refine Prog.Leads.tryCatch ?_ fun _ => leads_pure _
      refine (parseConfigViaSub_leads (.inr ⟨hno.2, ?_⟩) hu).bind
        (fun count => storeUpdated_keeps Store.Consistent.subs _ _ _ _) fun _ h => h
      rintro text ht
      cases ht
      exact hno.1

/-- The guids the updates from the `n`-th on draw. -/
def UpdateUuids (uuids : Nat → Nat → String) (n : Nat) (guid : String) : Prop :=
  ∃ m i, n ≤ m ∧ guid = uuids m i

theorem updateEach_leads (hf : FetchesNoV2rayn env) {uuids : Nat → Nat → String}
    (hne : ∀ n m i j, n ≠ m → uuids n i ≠ uuids m j) (ids : Nat → String)
    (subs : List (String × SubscriptionItem)) (n : Nat) :
    (updateEach env uuids ids n subs).Leads (Store.Consistent (UpdateUuids uuids n))
      (Store.Consistent fun _ => False) := by
  induction subs generalizing n with
  | nil => exact (leads_pure _).imp fun _ h => h.imp fun _ => False.elim
  | cons sub subs ih =>
    have hstep : (updateConfigViaSub env (uuids n) (ids n) sub.1 sub.2).Leads
        (Store.Consistent (UpdateUuids uuids n))
        (Store.Consistent (UpdateUuids uuids (n + 1))) := by
      refine (updateConfigViaSub_leads hf fun i => ⟨n, i, Nat.le_refl n, rfl⟩).imp fun _ h => ?_
      refine h.imp ?_
      rintro _ ⟨m, i, hm, rfl⟩
      exact ⟨⟨m, i, by omega, rfl⟩, fun j => hne m n i j (by omega)⟩
    refine hstep.bind (fun _ => ?_) fun _ h => h.imp fun _ => False.elim
    exact (ih (n + 1)).bind (fun _ => leads_pure _) fun _ h => h

/-- The generated guids are listed nowhere, and different commits draw different ones. -/
structure AngConfigManager.UuidSupply.FreshIn (uuids : UuidSupply) (s : Store) : Prop where
  own : ∀ i group, uuids.own i ∉ s.listed group
  updates : ∀ n i group, uuids.updates n i ∉ s.listed group
  own_ne : ∀ i n j, uuids.updates n j ≠ uuids.own i
  updates_ne : ∀ n m i j, n ≠ m → uuids.updates n i ≠ uuids.updates m j

theorem importBatchConfig_consistent {uuids : UuidSupply} {server : Option String} {append : Bool}
    (hv : V2raynStaysDefault env server subid) (hf : FetchesNoV2rayn env)
    (hfresh : uuids.FreshIn s) (hs : s.Homed) (hnd : s.ListsNodup) :
    ((importBatchConfig env uuids server subid append).exec s).Consistent fun _ => False := by
  have hstart : s.Consistent fun guid =>
      (∃ i, guid = uuids.own i) ∨ UpdateUuids uuids.updates 0 guid := by
    refine ⟨hs, hnd, ?_⟩
    rintro _ (⟨i, rfl⟩ | ⟨m, i, -, rfl⟩) group
    · exact hfresh.own i group
    · exact hfresh.updates m i group
  have hdone (t : Store) (h : t.Consistent (UpdateUuids uuids.updates 0)) :
      t.Consistent fun _ => False := h.imp fun _ => False.elim
  refine Prog.Leads.tryCatch ?_ ?_ s hstart
  · refine Prog.Leads.bind (R := Store.Consistent (UpdateUuids uuids.updates 0)) ?_ ?_ hdone
    · refine (parseConfigViaSub_leads hv fun i => .inl ⟨i, rfl⟩).imp fun t h => h.imp ?_
      rintro _ ⟨m, i, -, rfl⟩
      exact ⟨.inr ⟨m, i, Nat.zero_le m, rfl⟩, fun j => hfresh.own_ne j m i⟩
    · intro count
      have hsubs (ids : Nat → String) (text : Option String) :=
        @parseBatchSubscription_leads env (Store.Consistent (UpdateUuids uuids.updates 0)) ids
          (decodeSubscriptions_keeps Store.Consistent.subs)
          (fun _ _ => encodeSubscription_keeps Store.Consistent.subs _ _ _) text
      refine (hsubs _ _).bind (fun countSub => ?_) hdone
      refine (orElseCount_keeps (hsubs _ _)).bind (fun countSub => ?_) hdone
      refine Prog.Leads.bind ?_ (fun _ => leads_pure _) fun _ h => h
      unfold updateIfAdded
      split
      · refine Prog.Leads.bind ?_ (fun _ => leads_pure _) fun _ h => h
        refine Prog.Leads.tryCatch ?_ fun _ => leads_pure _
        exact (decodeSubscriptions_keeps Store.Consistent.subs).bind
          (fun subs => updateEach_leads hf hfresh.updates_ne _ _ _) hdone
      · exact (leads_pure _).imp hdone
  · rintro (e | e)
    · exact leads_pure _
    · exact fun _ h => h

end

/-! ## Histories of imports, editor saves and removals -/

inductive GroupOp where
  | importBatchConfig (env : ImportEnv) (uuids : UuidSupply) (server : Option String)
      (subid : String) (append : Bool)
  /-- `saveServer` of an editor; `subscriptionId` is the open group. -/
  | saveServer (editGuid : String) (uuid : Uuid) (subscriptionId : Option String)
      (config : ProfileItem)
  /-- An operation that stores no profile. -/
  | remove (op : StoreOp) (h : op.isSave = false)

namespace GroupOp

def apply (s : Store) : GroupOp → Store
  | importBatchConfig env uuids server subid append =>
    (AngConfigManager.importBatchConfig env uuids server subid append).exec s
  | saveServer editGuid uuid subscriptionId config =>
    (BaseServerActivity.saveServer editGuid uuid.text subscriptionId config).exec s
  | remove op _ => op.apply id s

/-- Generated guids are new. -/
def Fresh (s : Store) : GroupOp → Prop
  | importBatchConfig _ uuids _ _ _ => uuids.FreshIn s
  | saveServer editGuid uuid _ _ =>
    Text.isBlank editGuid = true → ∀ group, uuid.text ∉ s.listed group
  | remove _ _ => True

/-- An import brings v2rayN links to the default group only, and an editor saves a listed server
into the group that lists it. -/
def StaysInGroup (s : Store) : GroupOp → Prop
  | importBatchConfig env _ server subid _ =>
    V2raynStaysDefault env server subid ∧ FetchesNoV2rayn env
  | saveServer editGuid _ subscriptionId config =>
    ∀ group, editGuid ∈ s.listed group →
      group = getSubscriptionId (BaseServerActivity.savedProfile subscriptionId config).subscriptionId
  | remove _ _ => True

theorem consistent_apply {s : Store} (op : GroupOp) (hs : s.Homed ∧ s.ListsNodup)
    (hop : op.Fresh s ∧ op.StaysInGroup s) : (op.apply s).Homed ∧ (op.apply s).ListsNodup := by
  obtain ⟨hhome, hnd⟩ := hs
  cases op with
  | importBatchConfig env uuids server subid append =>
    obtain ⟨hhome', hnd', -⟩ := importBatchConfig_consistent hop.2.1 hop.2.2 hop.1 hhome hnd
    exact ⟨hhome', hnd'⟩
  | saveServer editGuid uuid subscriptionId config =>
    rw [apply, BaseServerActivity.saveServer, exec, run_encodeServerConfig]
    refine ⟨hhome.publish (StoreOp.saveKey_nonblank editGuid uuid) fun group hin => ?_,
      hnd.publish _ _⟩
    split at hin
    · next hb => exact absurd hin (hop.1 hb group)
    · exact hop.2 group hin
  | remove op h =>
    exact ⟨hhome.shrink (op.shrinksTo_apply h), op.listsNodup_apply hnd⟩

end GroupOp

/-- Over every history of imports, editor saves and removals from the empty store, a stored server
stays in the one group its payload names, provided that v2rayN links go to the default group only
and that an editor saves a listed server into its own group. -/
theorem run_groupsUnique (ops : List GroupOp)
    (hfresh : Run.StepsMeet GroupOp.apply (fun s op => op.Fresh s) {} ops)
    (hstays : Run.StepsMeet GroupOp.apply (fun s op => op.StaysInGroup s) {} ops) :
    Run.Always GroupOp.apply Store.GroupsUnique {} ops := by
  have hempty : ({} : Store).Homed ∧ ({} : Store).ListsNodup :=
    ⟨fun _ _ _ h => (not_mem_nil h).elim, fun _ => nodup_nil⟩
  have h : Run.Always GroupOp.apply (fun s => s.Homed ∧ s.ListsNodup) {} ops :=
    Run.always_of_stepsMeet (fun _ op => op.consistent_apply) hempty (hfresh.and hstays)
  exact h.imp fun _ h => Store.groupsUnique_of_homed h.2 h.1

/-! ## Two histories -/

theorem someUuids_freshIn_empty : someUuids.FreshIn {} := by
  refine ⟨fun _ _ => not_mem_nil, fun _ _ _ => not_mem_nil, ?_, ?_⟩
  · intro i n j h
    have h := congrArg String.toList h
    simp only [someUuids, String.toList_ofList] at h
    cases n with
    | zero => cases h
    | succ n => cases h
  · intro n m i j hne h
    have h := congrArg (fun t => t.toList.length) h
    simp only [someUuids, String.toList_ofList, length_append, length_replicate,
      length_singleton] at h
    omega

/-- Import a link into group `s`, edit the profile there, and remove it. -/
def importEditRemove : List GroupOp :=
  [.importBatchConfig offlineEnv someUuids (some homeLink) "s" false,
    .saveServer "g" Uuid.sample (some "s") { configType := .vless },
    .remove (.removeServer "g") rfl]

theorem importEditRemove_groupsUnique :
    Run.StepsMeet GroupOp.apply (fun s op => op.StaysInGroup s) {} importEditRemove ∧
      Run.Always GroupOp.apply Store.GroupsUnique {} importEditRemove := by
  have hfresh : Run.StepsMeet GroupOp.apply (fun s op => op.Fresh s) {} importEditRemove :=
    ⟨someUuids_freshIn_empty, fun h => absurd h (by decide), trivial, trivial⟩
  have himport : V2raynStaysDefault offlineEnv (some homeLink) "s" := by
    refine .inr ⟨?_, ?_⟩
    · unfold NoV2raynLine
      decide
    · rintro text ht
      cases ht
      unfold NoV2raynLine
      decide
  have hfetch : FetchesNoV2rayn offlineEnv := by
    rintro url item result (h | h)
    · cases h
    · cases h
  have hedit (group : String) (h : "g" ∈ (GroupOp.apply {} (.importBatchConfig offlineEnv someUuids
      (some homeLink) "s" false)).listed group) : group = "s" := by
    have hkey := Store.mem_allKeys_of_listed h
    clear h
    revert group
    decide
  have hstays : Run.StepsMeet GroupOp.apply (fun s op => op.StaysInGroup s) {} importEditRemove :=
    ⟨⟨himport, hfetch⟩, hedit, trivial, trivial⟩
  exact ⟨hstays, run_groupsUnique importEditRemove hfresh hstays⟩

/-- A v2rayN item imported into group `s` is listed there, while its payload belongs to the default
group. -/
theorem v2rayn_import_leaves_default_group :
    ¬Run.Always GroupOp.apply Store.GroupsUnique {}
      [.importBatchConfig offlineEnv someUuids (some itemLink) "s" false] := by
  rintro ⟨-, h⟩
  have hsub : ((GroupOp.apply {} (.importBatchConfig offlineEnv someUuids (some itemLink)
      "s" false)).serverConfig "g").map (·.subscriptionId) = some "" := by decide
  obtain ⟨profile, hp, hid⟩ := Option.map_eq_some_iff.mp hsub
  have hgroup := (h "g" profile hp).2.2 "s" (by decide)
  rw [hid] at hgroup
  exact absurd hgroup (by decide)

end ZeroVpn
