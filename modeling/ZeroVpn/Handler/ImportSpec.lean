import ZeroVpn.Handler.AngConfigManager
import ZeroVpn.Handler.StoreSpec

/-!
# What an import commits

`importedProfiles` is the list of profiles `parseConfigViaSub` takes from a text, for the
subscription item it finds in the store. A run is the commit of that list.
-/

namespace ZeroVpn
open MmkvManager Prog

namespace AngConfigManager

section
variable (env : ImportEnv)

/-- The profiles of a list of links; an exception of the batch leaves none. -/
def linkProfiles (text subid : String) (subItem : Option SubscriptionItem) : List ParsedProfile :=
  match parseLines env text subid subItem with
  | .ok configs => configs.map fun c => ⟨c, none⟩
  | .error _ => []

/-- The profiles of a text: its decoding as links, itself as links, or a custom configuration. -/
def importedProfiles (server : Option String) (subid : String)
    (subItem : Option SubscriptionItem) : List ParsedProfile :=
  match linkProfiles env (env.decode server) subid subItem, server with
  | [], some text =>
    match linkProfiles env text subid subItem with
    | [] => customProfiles env text subid
    | configs => configs
  | configs, _ => configs

variable {env} {uuids : Nat → String} {subid : String} {append : Bool}

variable (configs : List ParsedProfile)

/-- A commit succeeds and returns the number of profiles. -/
theorem run_commitParsed (s : Store) :
    (commitParsed env uuids configs subid append).run s =
      (.ok configs.length, (commitParsed env uuids configs subid append).exec s) := by
  unfold exec commitParsed
  split
  · next h =>
    rw [h]
    rfl
  · rw [run_bind, commitProfiles, run_saveServerProfiles]
    rfl

/-- The profiles of a batch under their guids. -/
def keyedProfiles (uuids : Nat → String) (configs : List ParsedProfile) :
    List (String × ProfileItem) :=
  configs.zipIdx.map fun e => (uuids e.2, e.1.profile)

theorem exists_of_mem_keyedProfiles {configs : List ParsedProfile}
    (h : e ∈ keyedProfiles uuids configs) : ∃ i, ∃ c ∈ configs, e = (uuids i, c.profile) := by
  obtain ⟨⟨c, i⟩, hc, rfl⟩ := List.mem_map.mp h
  exact ⟨i, c, List.fst_mem_of_mem_zipIdx hc, rfl⟩

/-- The raw configurations of a batch under their guids. -/
def keyedRaws (uuids : Nat → String) (configs : List ParsedProfile) : KV String String :=
  KV.setAll ∅ ((configs.zipIdx.map fun e => (uuids e.2, e.1)).filterMap fun e =>
    e.2.rawConfig.map fun raw => (e.1, raw))

/-- A commit replaces the group, or changes nothing. -/
theorem exec_commitParsed_eq (s : Store) :
    (commitParsed env uuids configs subid append).exec s =
      if (LinkedMap.ofEntries (keyedProfiles uuids configs)).entries = [] then s
      else s.replaceAll env.fold (LinkedMap.ofEntries (keyedProfiles uuids configs))
        (keyedRaws uuids configs) subid append := by
  unfold exec commitParsed
  split
  · next h =>
    rw [h]
    rfl
  · rw [run_bind, commitProfiles, run_saveServerProfiles, List.map_map]
    rfl

theorem exec_commitParsed (s : Store) :
    ∃ rawConfigs,
    (commitParsed env uuids configs subid append).exec s =
      if (LinkedMap.ofEntries (keyedProfiles uuids configs)).entries = [] then s
      else s.replaceAll env.fold (LinkedMap.ofEntries (keyedProfiles uuids configs)) rawConfigs
        subid append := ⟨_, exec_commitParsed_eq configs s⟩

theorem run_parseBatchConfig (text : String) (s : Store) :
    (parseBatchConfig env uuids (some text) subid append).run s =
      (commitParsed env uuids (linkProfiles env text subid (s.subscription subid)) subid
        append).run s := by
  unfold parseBatchConfig linkProfiles
  dsimp only [decodeSubscription]
  rw [run_read_bind]
  cases parseLines env text subid (s.subscription subid) with
  | error e => rfl
  | ok configs => rfl

/-- The next parser runs on the same store if the list is empty, and not at all otherwise. -/
theorem run_commitParsed_orElse (next : StoreM Nat) (s : Store) :
    (commitParsed env uuids configs subid append >>= fun count => orElseCount count next).run s =
      if configs = [] then next.run s
      else (commitParsed env uuids configs subid append).run s := by
  cases configs with
  | nil => rfl
  | cons config configs =>
    rw [run_bind, run_commitParsed]
    rfl

theorem run_parseConfigViaSub (server : Option String) (s : Store) :
    (parseConfigViaSub env uuids server subid append).run s =
      (commitParsed env uuids (importedProfiles env server subid (s.subscription subid)) subid
        append).run s := by
  have hassoc : parseConfigViaSub env uuids server subid append =
      (parseBatchConfig env uuids (some (env.decode server)) subid append >>= fun count =>
        orElseCount count (parseBatchConfig env uuids server subid append)) >>= fun count =>
        orElseCount count (parseCustomConfigServer env uuids server subid append) :=
    (bind_assoc _ _ _).symm
  have hfirst (next : StoreM Nat) :
      (parseBatchConfig env uuids (some (env.decode server)) subid append >>= fun count =>
        orElseCount count next).run s =
        (commitParsed env uuids (linkProfiles env (env.decode server) subid (s.subscription subid))
          subid append >>= fun count => orElseCount count next).run s := by
    rw [run_bind, run_parseBatchConfig, ← run_bind]
  rw [hassoc, run_bind, hfirst, run_commitParsed_orElse]
  unfold importedProfiles
  cases hdecoded : linkProfiles env (env.decode server) subid (s.subscription subid) with
  | cons config configs =>
    rw [run_commitParsed]
    rfl
  | nil =>
    cases server with
    | none => rfl
    | some text =>
      dsimp only
      rw [run_parseBatchConfig]
      cases linkProfiles env text subid (s.subscription subid) with
      | nil => rfl
      | cons config configs =>
        rw [run_commitParsed]
        rfl

end

/-! ## What an import leaves alone

The stages after the commit write the subscription tables, and the indexes of other groups. -/

theorem orElseCount_keeps (h : next.Leads P P) : (orElseCount count next).Leads P P := by
  unfold orElseCount
  split
  · exact h
  · exact leads_pure _

section
variable {env : ImportEnv} {P : Store → Prop}
  (hP : ∀ s sub subIds, P s → P { s with sub := sub, subIds := subIds })
include hP

theorem encodeSubscription_keeps (guid uuid : String) (item : SubscriptionItem) :
    (encodeSubscription guid uuid item).Leads P P := by
  intro s hs
  obtain ⟨sub, subIds, heq⟩ := exec_encodeSubscription guid uuid item s
  rw [heq]
  exact hP s sub subIds hs

theorem decodeSubscriptions_keeps : decodeSubscriptions.Leads P P := by
  intro s hs
  rw [exec, run_decodeSubscriptions]
  unfold Store.initSubs
  split
  · exact hP s s.sub _ hs
  · exact hs

theorem storeUpdated_keeps (uuid guid : String) (item : SubscriptionItem) (count : Nat) :
    (storeUpdated env uuid guid item count).Leads P P := by
  unfold storeUpdated
  split
  · exact (encodeSubscription_keeps hP _ _ _).bind (fun _ => leads_pure _) fun _ h => h
  · split
    · exact (encodeSubscription_keeps hP _ _ _).bind (fun _ => leads_pure _) fun _ h => h
    · exact leads_pure _

end

/-- The loop keeps what the reading and the storing of subscriptions keep. -/
theorem importUrls_leads (hread : decodeSubscriptions.Leads P P)
    (hadd : ∀ i item, (encodeSubscription "" (uuids i) item).Leads P P) (lines : List String)
    (n : Nat) : (importUrls env uuids n lines).Leads P P := by
  induction lines generalizing n with
  | nil => exact leads_pure _
  | cons line lines ih =>
    unfold importUrls
    split
    · refine Prog.Leads.bind ?_ (fun _ => (ih (n + 1)).bind (fun _ => leads_pure _) fun _ h => h)
        fun _ h => h
      refine hread.bind (fun subs => ?_) fun _ h => h
      split
      · exact leads_pure _
      · split
        · exact fun _ h => h
        · exact (hadd n _).bind (fun _ => leads_pure _) fun _ h => h
    · exact ih (n + 1)

theorem parseBatchSubscription_leads {P : Store → Prop} {uuids : Nat → String}
    (hread : decodeSubscriptions.Leads P P)
    (hadd : ∀ i item, (encodeSubscription "" (uuids i) item).Leads P P) (servers : Option String) :
    (parseBatchSubscription env uuids servers).Leads P P := by
  unfold parseBatchSubscription
  split
  · exact leads_pure _
  · exact (importUrls_leads hread hadd _ _).tryCatch fun _ => leads_pure _

end AngConfigManager
end ZeroVpn
