import Mathlib.Data.Rat.Cast.Defs
import ZeroVpn.Util.JsonUtil
import ZeroVpn.Verify.ImportOrder

/-!
# Arrays of custom configurations

Each element of an array becomes a profile, in the order of the array, with its print as raw
configuration. The print has the value of the element exactly if all numbers in it are integers of
32 bits and no member of an object in it is `null` (`raw_of_element`).
-/

namespace ZeroVpn

open MmkvManager AngConfigManager JsonUtil List Text

/-- The print of the tree is read back. -/
def Gson.ReadsBack (gson : Gson) (t : JsonTree Int) : Prop :=
  gson.read (gson.printPretty t) = some (t.mapNum fun n : Int => (n : Rat))

/-- What Gson keeps of the elements of an array: integers of 32 bits are doubles, and what is
printed for an element is read back. -/
structure Gson.Keeps (gson : Gson) (elems : List (JsonTree Rat)) : Prop where
  double : ∀ n : Int, IsInt32 n → gson.double n = n
  print : ∀ elem ∈ elems, gson.ReadsBack ((elem.mapNum gson.double).shown toInt)

variable {env : ImportEnv} {subid : String} {gson : Gson} {server : String}
  {elems : List (JsonTree Rat)}

section raws
variable {uuids : Nat → String} {append : Bool} {s : Store} {configs : List ParsedProfile}
  (hinj : ∀ i j, uuids i = uuids j → i = j)
include hinj

theorem get_keyedRaws (he : e ∈ configs.zipIdx) (hraw : e.1.rawConfig = some raw) :
    (keyedRaws uuids configs).get (uuids e.2) = some raw := by
  have hpresent : keyedRaws uuids configs =
      KV.setAll ∅ (present (configs.zipIdx.map fun e => (uuids e.2, e.1.rawConfig))) := by
    rw [keyedRaws, present, filterMap_map, filterMap_map]
    rfl
  have hkeys : ((configs.zipIdx.map fun e => (uuids e.2, e.1.rawConfig)).map Prod.fst).Nodup := by
    have hnodup := keyedProfiles_nodup hinj configs
    rw [keyedProfiles, map_map] at hnodup
    rw [map_map]
    exact hnodup
  rw [hpresent]
  refine KV.get_setAll_of_mem ((keys_present_sublist _).nodup hkeys) ?_
  rw [mem_present, ← hraw]
  exact mem_map.mpr ⟨e, he, rfl⟩

omit hinj

/-- The guids of a batch and its profiles, one by one. -/
theorem forall₂_keyedProfiles (h : ∀ e ∈ configs.zipIdx, P (uuids e.2) e.1) :
    Forall₂ P ((keyedProfiles uuids configs).map Prod.fst) configs := by
  rw [keyedProfiles, map_map]
  nth_rewrite 2 [← zipIdx_map_fst 0 configs]
  rw [forall₂_map_left_iff, forall₂_map_right_iff, forall₂_same]
  exact h

/-- The raw configuration of a profile of the batch is stored. -/
theorem serverRaw_replaceAll_of_mem {profiles : LinkedMap String ProfileItem}
    {rawConfigs : KV String String} (hkey : guid ∈ profiles.keys)
    (hraw : rawConfigs.get guid = some raw) :
    (s.replaceAll fold profiles rawConfigs subid append).serverRaw.get guid = some raw := by
  have hkeep : guid ∉ s.removablePayloads fold profiles rawConfigs subid append := fun hrem =>
    (Store.mem_removablePayloads.mp hrem).2.2.1 hkey
  obtain ⟨profile, hentry⟩ := LinkedMap.mem_keys.mp hkey
  have hpresent : (profiles.entries.filterMap fun e =>
      (rawConfigs.get e.1).map fun raw => (e.1, raw)) =
      present (profiles.entries.map fun e => (e.1, rawConfigs.get e.1)) := by
    rw [present, filterMap_map]
    rfl
  have hkeys : ((profiles.entries.map fun e => (e.1, rawConfigs.get e.1)).map Prod.fst).Nodup := by
    rw [map_map]
    exact profiles.nodup
  rw [Store.serverRaw_replaceAll, if_neg hkeep, Store.savePayloads, hpresent]
  refine KV.get_setAll_of_mem ((keys_present_sublist _).nodup hkeys) ?_
  rw [mem_present, ← hraw]
  exact mem_map.mpr ⟨(guid, profile), hentry, rfl⟩

include hinj

/-- The profiles of a batch and their raw configurations are stored, the last one first. -/
theorem stored_commitParsed (hblank : ∀ i, isBlank (uuids i) = false)
    (hnew : ∀ i, uuids i ∉ s.serverList subid) (hne : configs ≠ [])
    (hraws : ∀ c ∈ configs, c.rawConfig.isSome = true) :
    ∃ guids, ((commitParsed env uuids configs subid append).exec s).serverList subid =
        guids ++ (if append then s.serverList subid else []) ∧
      Forall₂ (fun guid c =>
        ((commitParsed env uuids configs subid append).exec s).serverConfig guid = some c.profile ∧
        ((commitParsed env uuids configs subid append).exec s).serverRaw.get guid = c.rawConfig)
        guids configs.reverse := by
  obtain ⟨hindex, hpayload⟩ := @holds_commitParsed env subid s uuids append hinj hblank hnew _ hne
  refine ⟨((keyedProfiles uuids configs).map Prod.fst).reverse, hindex, ?_⟩
  have hentries := LinkedMap.entries_ofEntries (keyedProfiles_nodup hinj configs)
  have hsome : keyedProfiles uuids configs ≠ [] := by
    intro h
    exact hne (by simpa [keyedProfiles] using h)
  have hexec := @exec_commitParsed_eq env uuids subid append configs s
  rw [if_neg (by rwa [hentries])] at hexec
  rw [forall₂_reverse_iff]
  refine forall₂_keyedProfiles fun e he => ?_
  have hentry : (uuids e.2, e.1.profile) ∈ keyedProfiles uuids configs :=
    mem_map.mpr ⟨e, he, rfl⟩
  obtain ⟨raw, hraw⟩ :=
    Option.isSome_iff_exists.mp (hraws e.1 (fst_mem_of_mem_zipIdx he))
  refine ⟨hpayload _ hentry, ?_⟩
  rw [hexec, hraw]
  refine serverRaw_replaceAll_of_mem (LinkedMap.mem_keys.mpr ⟨e.1.profile, ?_⟩)
    (get_keyedRaws hinj he hraw)
  rw [hentries]
  exact hentry

end raws

/-! ## Elements -/

/-- What is stored for an element of the array. -/
structure StoredElement (env : ImportEnv) (gson : Gson) (subid : String) (elem : JsonTree Rat)
    (c : ParsedProfile) : Prop where
  profile : ∃ json config, gson.print (elem.mapNum gson.double) = .ok json ∧
    env.parseCustom json = .ok config ∧ c.profile = assign config subid
  rawConfig : c.rawConfig = some (orEmpty (toJsonPretty gson (elem.mapNum gson.double)))

/-- The profiles of an array that is accepted, the last element first. -/
theorem forall₂_parseCustomArray (henv : env.jsonArray = printElements gson)
    (hread : gson.read server = some (.arr elems))
    (h : parseCustomArray env server subid = .ok configs) :
    Forall₂ (StoredElement env gson subid) elems.reverse configs := by
  rw [parseCustomArray, henv, printElements, fromJsonArray, hread] at h
  obtain ⟨elements, helements, hconfigs⟩ := bind_eq_ok.mp h
  have hprints := forall₂_of_mapM helements
  have hparsed := forall₂_of_mapM hconfigs
  rw [forall₂_map_left_iff, ← forall₂_reverse_iff] at hprints
  refine forall₂_trans (fun elem print c hprint hc => ?_) hprints hparsed
  obtain ⟨json, hjson, hprint⟩ := bind_eq_ok.mp hprint
  obtain ⟨config, hconfig, hc⟩ := bind_eq_ok.mp hc
  rw [← Except.ok.inj hprint] at hconfig hc
  rw [← Except.ok.inj hc]
  exact ⟨⟨json, config, hjson, hconfig, rfl⟩, rfl⟩

/-- The value of the raw configuration of an element. -/
theorem read_rawConfig {elem : JsonTree Rat} (hnull : elem ≠ .null)
    (hprint : gson.ReadsBack ((elem.mapNum gson.double).shown toInt)) :
    gson.read (orEmpty (toJsonPretty gson (elem.mapNum gson.double))) =
      some (elem.shown fun x => (toInt (gson.double x) : Rat)) := by
  have hpretty : toJsonPretty gson (elem.mapNum gson.double) =
      some (gson.printPretty ((elem.mapNum gson.double).shown toInt)) := by
    cases elem with
    | null => exact absurd rfl hnull
    | _ => rfl
  rw [hpretty, orEmpty, Option.getD_some, hprint, JsonTree.mapNum_shown,
    JsonTree.shown_mapNum]
  rfl

theorem read_rawConfig_eq_iff {elem : JsonTree Rat} (hnull : elem ≠ .null)
    (hdouble : ∀ n : Int, IsInt32 n → gson.double n = n)
    (hprint : gson.ReadsBack ((elem.mapNum gson.double).shown toInt)) :
    gson.read (orEmpty (toJsonPretty gson (elem.mapNum gson.double))) = some elem ↔
      elem.Kept IsInt32 := by
  have hkept : (fun x => (toInt (gson.double x) : Rat) = x) = IsInt32 :=
    funext fun x => propext (toInt_double_eq_iff hdouble)
  rw [read_rawConfig hnull hprint, Option.some.injEq, JsonTree.shown_eq_self_iff, hkept]

/-- The functions of the import that read and print JSON. -/
structure JsonImport (env : ImportEnv) (gson : Gson) : Prop where
  jsonArray : env.jsonArray = printElements gson
  /-- An array is no custom configuration. -/
  parseCustom : ∀ text elems, gson.read text = some (.arr elems) →
    (env.parseCustom text).isOk = false

/-- What the store has of an element of an array: its profile, and a raw configuration that has the
value of the element exactly if all numbers in it are integers of 32 bits and no member is
`null`. -/
structure ImportedElement (env : ImportEnv) (gson : Gson) (subid : String) (s : Store)
    (guid : String) (elem : JsonTree Rat) : Prop where
  profile : ∃ json config, gson.print (elem.mapNum gson.double) = .ok json ∧
    env.parseCustom json = .ok config ∧ s.serverConfig guid = some (assign config subid)
  raw : ∃ raw, s.serverRaw.get guid = some raw ∧
    (gson.read raw = some elem ↔ elem.Kept IsInt32)

theorem ImportedElement.of_stored {s : Store} {elem : JsonTree Rat}
    (hobject : ∃ members, elem = .obj members) (hdouble : ∀ n : Int, IsInt32 n → gson.double n = n)
    (hprint : gson.ReadsBack ((elem.mapNum gson.double).shown toInt)) {c : ParsedProfile}
    (helem : StoredElement env gson subid elem c) (hprofile : s.serverConfig guid = some c.profile)
    (hraw : s.serverRaw.get guid = c.rawConfig) : ImportedElement env gson subid s guid elem := by
  obtain ⟨members, rfl⟩ := hobject
  obtain ⟨json, config, hjson, hconfig, hassign⟩ := helem.profile
  refine ⟨⟨json, config, hjson, hconfig, ?_⟩, _, hraw.trans helem.rawConfig, ?_⟩
  · rw [hprofile, hassign]
  · exact read_rawConfig_eq_iff (by simp) hdouble hprint

/-- A text that is an array is accepted as one or not at all. -/
theorem parseCustomArray_of_customProfiles (henv : JsonImport env gson)
    (hwords : ∀ word ∈ ["inbounds", "outbounds", "routing"], contains server word = true)
    (hread : gson.read server = some (.arr elems)) (hsome : customProfiles env server subid ≠ []) :
    parseCustomArray env server subid = .ok (customProfiles env server subid) := by
  have hsingle : parsedOrNil (parseCustomSingle env server subid) = [] := by
    have hfail := henv.parseCustom server elems hread
    rw [parseCustomSingle]
    cases hcustom : env.parseCustom server with
    | error e => rfl
    | ok config =>
      rw [hcustom] at hfail
      cases hfail
  have hcustom : customProfiles env server subid =
      parsedOrNil (parseCustomArray env server subid) := by
    simp only [forall_mem_cons] at hwords
    rw [customProfiles, hwords.1, hwords.2.1, hwords.2.2.1, hsingle]
    cases parsedOrNil (parseCustomArray env server subid) with
    | nil => rfl
    | cons c configs => rfl
  rw [hcustom] at hsome ⊢
  cases harray : parseCustomArray env server subid with
  | ok configs => rfl
  | error e =>
    rw [harray] at hsome
    exact absurd rfl hsome

/-- The elements of an array that is accepted become the profiles of the group, in their order; the
raw configuration of a profile has the value of its element exactly if that has no other numbers
than integers of 32 bits and no members that are `null`. -/
theorem raw_of_element {env : ImportEnv} {gson : Gson} (henv : JsonImport env gson)
    {uuids : Nat → String} {s : Store} {server subid : String}
    (hinj : ∀ i j, uuids i = uuids j → i = j) (hblank : ∀ i, isBlank (uuids i) = false)
    (hnew : ∀ i, uuids i ∉ s.serverList subid)
    (hwords : ∀ word ∈ ["inbounds", "outbounds", "routing"], contains server word = true)
    {elems : List (JsonTree Rat)} (hread : gson.read server = some (.arr elems))
    (hobjects : ∀ elem ∈ elems, ∃ members, elem = .obj members) (hkeeps : gson.Keeps elems)
    {append : Bool}
    (haccepted : ((parseCustomConfigServer env uuids (some server) subid append).run s).1 ≠ .ok 0) :
    ∃ guids, ((parseCustomConfigServer env uuids (some server) subid append).exec s).serverList
        subid = guids ++ (if append then s.serverList subid else []) ∧
      Forall₂ (ImportedElement env gson subid
        ((parseCustomConfigServer env uuids (some server) subid append).exec s)) guids elems := by
  change ((commitParsed env uuids (customProfiles env server subid) subid append).run s).1 ≠ _
    at haccepted
  have hsome : customProfiles env server subid ≠ [] := by
    intro h
    rw [h] at haccepted
    exact haccepted rfl
  have helements := forall₂_parseCustomArray henv.jsonArray hread
    (parseCustomArray_of_customProfiles henv hwords hread hsome)
  have hraws : ∀ c ∈ customProfiles env server subid, c.rawConfig.isSome = true := by
    intro c hc
    obtain ⟨elem, -, hstored⟩ := exists_right_of_forall₂ helements.flip hc
    rw [hstored.rawConfig]
    rfl
  obtain ⟨guids, hindex, hstored⟩ :=
    @stored_commitParsed env subid uuids append s _ hinj hblank hnew hsome hraws
  refine ⟨guids, hindex, ?_⟩
  rw [← forall₂_reverse_iff, reverse_reverse] at helements
  have hall : ∀ elem ∈ elems, (∃ members, elem = .obj members) ∧
      gson.ReadsBack ((elem.mapNum gson.double).shown toInt) :=
    fun elem h => ⟨hobjects elem h, hkeeps.print elem h⟩
  have helements := (forall₂_and_left _ _).mpr ⟨hall, helements⟩
  refine forall₂_trans (fun guid c elem h helem => ?_) hstored helements.flip
  exact .of_stored helem.1.1 hkeeps.double helem.1.2 helem.2 h.1 h.2

/-- A custom configuration with one number. -/
def weightTree {ν : Type} (x : ν) : JsonTree ν :=
  .obj [("inbounds", .arr []), ("outbounds", .arr []), ("routing", .obj []), ("weight", .num x)]

def weightText (x : String) : String :=
  "\x7b\"inbounds\":[],\"outbounds\":[],\"routing\":\x7b\x7d,\"weight\":" ++ x ++ "\x7d"

/-- Gson, for such configurations and two arrays of them. -/
def weightGson : Gson where
  read text := [(weightText "8", weightTree (8 : Rat)), (weightText "0", weightTree 0),
    (weightText "8.0", weightTree 8), (weightText "0.5", weightTree (1 / 2)),
    ("[" ++ weightText "8" ++ "]", .arr [weightTree 8]),
    ("[" ++ weightText "0.5" ++ "]", .arr [weightTree (1 / 2)])].lookup text
  double := id
  print
    | .obj [_, _, _, (_, .num x)] => .ok (weightText (if x = 8 then "8.0" else "0.5"))
    | _ => .error "IllegalArgumentException"
  printPretty
    | .obj [_, _, _, (_, .num n)] => weightText (toString n)
    | _ => "null"

def weightEnv : ImportEnv := { offlineEnv with
  jsonArray := printElements weightGson
  parseCustom := fun text =>
    if text ∈ [weightText "8.0", weightText "0.5"] then .ok { configType := .custom }
    else .error "JsonSyntaxException" }

theorem jsonImport_weightEnv : JsonImport weightEnv weightGson where
  jsonArray := rfl
  parseCustom text elems h := by
    have hobject : ∀ text ∈ [weightText "8.0", weightText "0.5"],
        ∃ x, weightGson.read text = some (weightTree x) := by
      simp only [forall_mem_cons]
      exact ⟨⟨_, rfl⟩, ⟨_, rfl⟩, forall_mem_nil _⟩
    have hnotMem : text ∉ [weightText "8.0", weightText "0.5"] := by
      intro hmem
      obtain ⟨x, hx⟩ := hobject text hmem
      rw [hx] at h
      cases h
    exact congrArg Except.isOk (if_neg hnotMem)

/-- A whole number of 32 bits is kept. -/
theorem whole_weight_kept : ∃ guids,
    ((parseCustomConfigServer weightEnv distinctUuids.own (some ("[" ++ weightText "8" ++ "]")) "s"
      false).exec listedStore).serverList "s" = guids ++ [] ∧
    Forall₂ (ImportedElement weightEnv weightGson "s"
      ((parseCustomConfigServer weightEnv distinctUuids.own (some ("[" ++ weightText "8" ++ "]")) "s"
        false).exec listedStore)) guids [weightTree 8] := by
  have hkeeps : weightGson.Keeps [weightTree 8] := by
    refine ⟨fun _ _ => rfl, forall_mem_singleton.mpr ?_⟩
    rfl
  exact raw_of_element jsonImport_weightEnv distinctUuids_newTo.own_inj
    distinctUuids_newTo.own_nonblank (fun i => distinctUuids_newTo.own_unlisted i _)
    (by decide +kernel) rfl (by simp [weightTree]) hkeeps
    fun h => absurd (congrArg Except.toOption h) (by decide +kernel)

/-- A fraction is stored as its whole part. -/
theorem fraction_lost :
    weightGson.read ("[" ++ weightText "0.5" ++ "]") = some (.arr [weightTree (1 / 2)]) ∧
    ((parseCustomConfigServer weightEnv distinctUuids.own (some ("[" ++ weightText "0.5" ++ "]"))
      "s" false).exec {}).serverRaw.get "g" = some (weightText "0") ∧
    weightGson.read (weightText "0") = some (weightTree 0) ∧
    weightTree (0 : Rat) ≠ weightTree (1 / 2) := by
  refine ⟨rfl, by decide +kernel, rfl, fun h => ?_⟩
  simp [weightTree] at h

end ZeroVpn
