import ZeroVpn.Fmt.ShareFormats
import ZeroVpn.Handler.StoreOp

/-!
# Indexed servers and their payloads

An index entry should lead to a profile. Saving keeps that, and so do the deletions that look at
every index (`saveServerProfiles`, `removeOrphanedServerProfiles`). The other removals delete
payloads and then rewrite the indexes of one group, or of the known subscriptions; the theorem
below says that a run keeps all entries resolvable exactly if each of its removals rewrites every
index that lists a server it deletes.
-/

namespace ZeroVpn
open MmkvManager AngConfigManager

/-- Every server an index lists has a readable profile. -/
def Store.IndexComplete (s : Store) : Prop :=
  ∀ group guid, guid ∈ s.listed group → ∃ profile, s.serverConfig guid = some profile

namespace StoreOp

/-- The servers whose payload a removal deletes. -/
def Deletes (s : Store) : StoreOp → String → Prop
  | removeServer guid, g => Text.isBlank guid = false ∧ g = guid
  | removeServers guids _, g => g ∈ guids
  | removeServerViaSubid id, g => g ∈ s.listed (getSubscriptionId id)
  | removeSubscription id, g => g ∈ s.listed (getSubscriptionId id)
  | removeAllServer, _ => True
  | removeInvalidServer guid, g => g ∈ s.testedServers guid ∧ s.isInvalid g = true
  | removeInvalidServersOf id, g => g ∈ s.serverList id ∧ s.isInvalid g = true
  | _, _ => False

/-- The groups whose index a removal takes a deleted server out of. -/
def Unlists (s : Store) : StoreOp → String → String → Prop
  | removeServer _, g, group => group = s.homeGroup g
  | removeServers _ id, _, group => group = getSubscriptionId id
  | removeServerViaSubid id, _, group => group = getSubscriptionId id
  | removeSubscription id, _, group => group = getSubscriptionId id
  | removeAllServer, _, group => ∃ sub ∈ s.subscriptions, group = getSubscriptionId sub.1
  | removeInvalidServer _, g, group => group = s.homeGroup g
  | removeInvalidServersOf id, _, group => group = getSubscriptionId id
  | _, _, _ => True

/-- Every index that lists a deleted server is one the removal takes it out of. -/
def UnlistsDeleted (s : Store) (op : StoreOp) : Prop :=
  ∀ guid, op.Deletes s guid → ∀ group, guid ∈ s.listed group → op.Unlists s guid group

end StoreOp

namespace Store

variable {s s' : Store}

/-- A removal that deletes the payloads in `D` and takes each of them out of the indexes in `U`
leaves the indexes complete exactly if no other index lists one of them. -/
theorem IndexComplete.remove_iff (hs : s.IndexComplete) (s' : Store) (D : String → Prop)
    (U : String → String → Prop)
    (hlist : ∀ group guid, guid ∈ s'.listed group ↔
      guid ∈ s.listed group ∧ (D guid → ¬U guid group))
    (hdel : ∀ guid, D guid → s'.serverConfig guid = none)
    (hkeep : ∀ guid, ¬D guid → s'.serverConfig guid = s.serverConfig guid) :
    s'.IndexComplete ↔ ∀ guid, D guid → ∀ group, guid ∈ s.listed group → U guid group := by
  constructor
  · intro h guid hD group hin
    by_contra hU
    obtain ⟨profile, hp⟩ := h group guid ((hlist group guid).mpr ⟨hin, fun _ => hU⟩)
    rw [hdel guid hD] at hp
    cases hp
  · intro h group guid hin'
    obtain ⟨hin, hkept⟩ := (hlist group guid).mp hin'
    by_cases hD : D guid
    · exact absurd (h guid hD group hin) (hkept hD)
    · rw [hkeep guid hD]
      exact hs group guid hin

/-- A step that lists no new server and keeps the profiles of the listed ones. -/
theorem IndexComplete.mono (hs : s.IndexComplete)
    (hlist : ∀ group guid, guid ∈ s'.listed group → guid ∈ s.listed group)
    (hkeep : ∀ group guid, guid ∈ s'.listed group → s'.serverConfig guid = s.serverConfig guid) :
    s'.IndexComplete := by
  intro group guid hin
  rw [hkeep group guid hin]
  exact hs group guid (hlist group guid hin)

theorem IndexComplete.publish (hs : s.IndexComplete) {key : String}
    (hkey : Text.isBlank key = false) (config : ProfileItem) :
    (s.publish key config).IndexComplete := by
  intro group guid hin
  rw [serverConfig_publish hkey]
  by_cases hg : guid = key
  · exact ⟨config, if_pos hg⟩
  · rw [if_neg hg]
    rcases mem_listed_publish.mp hin with hin | ⟨rfl, -⟩
    · exact hs group guid hin
    · exact absurd rfl hg

/-- A replacement deletes only what no index lists afterwards. -/
theorem IndexComplete.replaceAll (hs : s.IndexComplete) (fold : Char → Char) (b : ProfileBatch) :
    (s.replaceAll fold b.profiles b.rawConfigs b.subscriptionId b.append).IndexComplete := by
  intro group guid hin
  by_cases hkey : guid ∈ b.profiles.keys
  · obtain ⟨profile, hp⟩ := LinkedMap.mem_keys.mp hkey
    exact ⟨profile, serverConfig_replaceAll_of_mem hp (b.nonblank guid hkey)⟩
  · rw [serverConfig_replaceAll_of_notMem hkey]
    rw [listed_replaceAll] at hin
    by_cases hg : group = getSubscriptionId b.subscriptionId
    · -- a kept server of the target group: the batch was appended and nothing is replaced
      rw [if_pos hg, mem_newServerList] at hin
      rcases hin with ⟨happend, hin⟩ | hin
      · rw [if_neg]
        · exact hs _ guid hin
        · intro hrem
          have := (mem_removablePayloads.mp hrem).1
          simp [replacedServers, happend] at this
      · exact absurd hin hkey
    · rw [if_neg hg] at hin
      rw [if_neg]
      · exact hs group guid hin
      · intro hrem
        exact (mem_removablePayloads.mp hrem).2.2.2.2 group hg hin

theorem IndexComplete.dropServer_iff (hs : s.IndexComplete) (hnd : s.ListsNodup) (guid : String) :
    (s.dropServer guid).IndexComplete ↔
      ∀ g, g = guid → ∀ group, g ∈ s.listed group → group = s.homeGroup g := by
  refine hs.remove_iff _ (· = guid) (fun g group => group = s.homeGroup g) (fun group g => ?_)
    (fun g hg => ?_) fun g hg => ?_
  · rw [mem_listed_dropServer hnd]
    refine and_congr_right fun _ => imp_congr_right fun hg => ?_
    rw [hg]
  · rw [serverConfig_dropServer, if_pos hg]
  · rw [serverConfig_dropServer, if_neg hg]

theorem IndexComplete.dropServers_iff (hs : s.IndexComplete) (guids : List String) (id : String) :
    (s.dropServers guids (getSubscriptionId id)).IndexComplete ↔
      ∀ g, g ∈ guids → ∀ group, g ∈ s.listed group → group = getSubscriptionId id := by
  refine hs.remove_iff _ (· ∈ guids) (fun _ group => group = getSubscriptionId id)
    (fun group g => ?_) (fun g hg => ?_) fun g hg => ?_
  · rw [listed_dropServers]
    split
    · next h => simp [h]
    · next h => simp [h]
  · rw [serverConfig_dropServers, if_pos hg]
  · rw [serverConfig_dropServers, if_neg hg]

theorem IndexComplete.dropGroup_iff (hs : s.IndexComplete) (id : Option String) :
    (s.dropGroup (getSubscriptionId id)).IndexComplete ↔
      ∀ g, g ∈ s.listed (getSubscriptionId id) →
        ∀ group, g ∈ s.listed group → group = getSubscriptionId id := by
  refine hs.remove_iff _ (· ∈ s.listed (getSubscriptionId id))
    (fun _ group => group = getSubscriptionId id) (fun group g => ?_) (fun g hg => ?_) fun g hg => ?_
  · rw [listed_dropGroup]
    split
    · next h => simp [h]
    · next h => simp [h]
  · rw [serverConfig_dropGroup, if_pos hg]
  · rw [serverConfig_dropGroup, if_neg hg]

theorem IndexComplete.dropAll_iff (hs : s.IndexComplete) :
    s.dropAll.IndexComplete ↔ ∀ g, True → ∀ group, g ∈ s.listed group →
      ∃ sub ∈ s.subscriptions, group = getSubscriptionId sub.1 := by
  refine hs.remove_iff _ (fun _ => True)
    (fun _ group => ∃ sub ∈ s.subscriptions, group = getSubscriptionId sub.1) (fun group g => ?_)
    (fun g _ => s.serverConfig_dropAll g) fun g hg => absurd trivial hg
  rw [listed_dropAll]
  split
  · next h => simp [h]
  · next h => simp [h]

theorem IndexComplete.dropInvalid_iff (hs : s.IndexComplete) (hnd : s.ListsNodup)
    {guids : List String} (hguids : guids.Nodup) :
    (s.dropInvalid guids).IndexComplete ↔
      ∀ g, g ∈ guids ∧ s.isInvalid g = true →
        ∀ group, g ∈ s.listed group → group = s.homeGroup g := by
  refine hs.remove_iff _ (fun g => g ∈ guids ∧ s.isInvalid g = true)
    (fun g group => group = s.homeGroup g) (fun group g => ?_) (fun g hg => ?_) fun g hg => ?_
  · rw [mem_listed_dropInvalid hnd hguids]
  · rw [serverConfig_dropInvalid hguids, if_pos hg]
  · rw [serverConfig_dropInvalid hguids, if_neg hg]

end Store

namespace StoreOp

variable {fold : Char → Char} {s : Store}

theorem unlistsDeleted_of_deletes_nothing {op : StoreOp} (h : ∀ guid, ¬op.Deletes s guid) :
    op.UnlistsDeleted s := fun guid hd => absurd hd (h guid)

/-- One step from a complete store keeps it complete exactly if it unlists what it deletes. -/
theorem indexComplete_apply_iff (op : StoreOp) (hnd : s.ListsNodup) (hs : s.IndexComplete) :
    (op.apply fold s).IndexComplete ↔ op.UnlistsDeleted s := by
  cases op with
  | encodeServerConfig guid uuid config =>
    refine iff_of_true ?_ (unlistsDeleted_of_deletes_nothing fun _ => id)
    rw [apply_encodeServerConfig]
    exact hs.publish (saveKey_nonblank guid uuid) config
  | saveServerProfiles b =>
    refine iff_of_true ?_ (unlistsDeleted_of_deletes_nothing fun _ => id)
    rw [apply_saveServerProfiles]
    split
    · exact hs
    · exact hs.replaceAll fold b
  | setSelectServer guid =>
    refine iff_of_true ?_ (unlistsDeleted_of_deletes_nothing fun _ => id)
    exact hs
  | removeServer guid =>
    rw [apply_removeServer]
    split
    · next hb =>
      refine iff_of_true hs (unlistsDeleted_of_deletes_nothing fun g hd => ?_)
      rw [hd.1] at hb
      cases hb
    · next hb =>
      rw [hs.dropServer_iff hnd]
      simp only [UnlistsDeleted, Deletes, Unlists, hb, true_and]
  | removeServers guids id =>
    rw [apply_removeServers]
    split
    · next h =>
      subst h
      exact iff_of_true hs (unlistsDeleted_of_deletes_nothing fun g => List.not_mem_nil)
    · exact hs.dropServers_iff guids id
  | removeServerViaSubid id =>
    rw [apply_removeServerViaSubid]
    exact hs.dropGroup_iff id
  | removeSubscription id =>
    obtain ⟨sub, subIds, heq⟩ := apply_removeSubscription fold s id
    rw [heq]
    exact Store.IndexComplete.dropGroup_iff hs id
  | removeAllServer =>
    rw [apply_removeAllServer]
    exact hs.dropAll_iff
  | removeInvalidServer guid =>
    rw [apply_removeInvalidServer]
    exact hs.dropInvalid_iff hnd (Store.testedServers_nodup guid)
  | removeInvalidServersOf id =>
    rw [apply_removeInvalidServersOf]
    have hdel (g : String) : g ∈ (s.serverList id).filter s.isInvalid ↔
        (removeInvalidServersOf id).Deletes s g := List.mem_filter
    split
    · next h =>
      refine iff_of_true hs (unlistsDeleted_of_deletes_nothing fun g hd => ?_)
      rw [← hdel, h] at hd
      cases hd
    · rw [hs.dropServers_iff]
      exact forall_congr' fun g => by rw [hdel]; rfl
  | removeOrphanedServerProfiles =>
    refine iff_of_true ?_ (unlistsDeleted_of_deletes_nothing fun _ => id)
    rw [apply_removeOrphanedServerProfiles]
    refine hs.mono (fun _ _ => id) fun group guid hin => ?_
    rw [Store.serverConfig_dropOrphans, if_neg (s.notMem_orphans (.inr ⟨group, hin⟩))]
  | sortByTestResultsForSub subId =>
    refine iff_of_true ?_ (unlistsDeleted_of_deletes_nothing fun _ => id)
    refine hs.mono (fun group guid => (listed_sort subId group).mem_iff.mp) fun group guid _ => ?_
    rw [apply_sortByTestResultsForSub]
    split <;> rfl
  | encodeServerTestDelayMillis | encodeSubscription | initSubsList =>
    refine iff_of_true ?_ (unlistsDeleted_of_deletes_nothing fun _ => id)
    exact keeps_bookkeeping rfl fun _ _ _ => hs

end StoreOp

theorem Store.listsNodup_empty : ({} : Store).ListsNodup := fun _ => List.nodup_nil

theorem Store.indexComplete_empty : ({} : Store).IndexComplete := fun _ _ h => by cases h

/-- A run from the empty store keeps every indexed server's payload exactly if each removal takes
the servers it deletes out of every index that lists them. -/
theorem run_indexComplete_iff (fold : Char → Char) (ops : List StoreOp) :
    Run.Always (StoreOp.apply fold) Store.IndexComplete {} ops ↔
      Run.StepsMeet (StoreOp.apply fold) (fun s op => op.UnlistsDeleted s) {} ops :=
  Run.always_iff_stepsMeet
    (fun _ op hnd _ => op.listsNodup_apply hnd)
    (fun _ op hnd hs _ => op.indexComplete_apply_iff hnd hs)
    Store.listsNodup_empty Store.indexComplete_empty (Run.stepsMeet_trivial ops)

/-- The link of a VLESS server. -/
def homeLink : String := "vless://u@h:443?type=tcp"

/-- A v2rayN link, the Base64 text of an item with its type only. -/
def itemLink : String := "v2rayn://eyJDb25maWdUeXBlIjo1fQ"

/-- An environment without network and JSON, except for the item of `itemLink`. -/
def offlineEnv : ImportEnv where
  fold := id
  decode := Utils.decode
  parsers :=
    { vmess := fun _ => .error "", shadowsocks := ShadowsocksFmt.parse id, socks := SocksFmt.parse
      trojan := fun str => (TrojanFmt.parse str).map some, vless := VlessFmt.parse
      wireguard := WireguardFmt.parse, hysteria2 := fun str => (Hysteria2Fmt.parse str).map some }
  containsMatchIn _ _ := .ok false
  shareItem json :=
    if json = "\x7b\"ConfigType\":5\x7d" then some { configType := some 5 } else none
  escape := id
  jsonArray _ := .error ""
  parseCustom _ := .error ""
  parseWireguardConfFile _ := .error ""
  extractAmneziaWireguardConf _ := .ok none
  isValidUrl _ := false
  isValidSubUrl _ := false
  uriFragment _ := .error ""
  toIdnUrl _ := .error ""
  fetchViaProxy _ _ := none
  fetchDirect _ _ := none
  currentTimeMillis := 0

def someUuids : UuidSupply where
  own _ := "g"
  updates n _ := String.ofList (List.replicate n 'a' ++ ['u'])
  updatedSubscriptions _ := "v"
  subscriptions _ := "w"
  decodedSubscriptions _ := "x"

/-- What the v2rayN item of `offlineEnv` is committed as when it is imported into group `s`. -/
def ungroupedBatch : ProfileBatch where
  profiles :=
    ⟨[("g", { configType := .vless, server := some "", serverPort := some "null"
              password := some "", method := some "", flow := some "", username := some ""
              network := some "tcp", policyGroupType := some "leastPing" })], by decide⟩
  rawConfigs := ∅
  subscriptionId := "s"
  append := false
  nonblank := by decide

/-- After the import of a v2rayN item into group `s`, `removeServer` looks for the server in the
default group and leaves the entry of group `s`. -/
theorem removeServer_leaves_entry :
    StoreOp.apply id {} (.saveServerProfiles ungroupedBatch) =
        (importBatchConfig offlineEnv someUuids (some itemLink) "s" false).exec {} ∧
      ¬Run.Always (StoreOp.apply id) Store.IndexComplete {}
        [.saveServerProfiles ungroupedBatch, .removeServer "g"] := by
  refine ⟨rfl, ?_⟩
  rintro ⟨-, -, h⟩
  obtain ⟨profile, hp⟩ := h "s" "g" (by decide)
  exact absurd (Option.isSome_of_eq_some hp) (by decide)

end ZeroVpn
