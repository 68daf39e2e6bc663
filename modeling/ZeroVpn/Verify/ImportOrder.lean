import ZeroVpn.Verify.LineIsolation

/-!
# The order of an import

A batch is parsed from its last line to its first, and committed profile by profile at the front of
the index, so the links of a text keep their order. The v2rayN items are parsed in a pass of their
own and come before the other links in the batch: in the index they end up behind them.
`import_order` says which guid gets the profile of which line.
-/

namespace ZeroVpn

open MmkvManager AngConfigManager List Store Text

section
variable (env : ImportEnv) (text subid : String) (subItem : Option SubscriptionItem)

/-- The distinct lines, in the order of their first occurrences. -/
def distinctLines : List String := (lines text).eraseDups

/-- The line alone is a batch of one profile. -/
def importsAlone (line : String) : Bool := (linkProfiles env line subid subItem).length = 1

/-- The lines with a link of their own, in the order of the text. -/
def linkLines : List String :=
  (distinctLines text).filter fun line =>
    !isV2raynLine env line && importsAlone env subid subItem line

/-- The lines with a v2rayN item, in the order of the text. -/
def itemLines : List String :=
  (distinctLines text).filter fun line =>
    isV2raynLine env line && importsAlone env subid subItem line

/-- The items that the groups and chains of the text may name. -/
def textItems : List (String × V2rayNShareItem) :=
  V2rayNFmt.idMap ((batchLines text).filterMap (lineItem env))

/-- The profile of an item of the text. -/
def itemProfile (item : V2rayNShareItem) : Option ProfileItem :=
  item.toProfileItem.toOption.map (V2rayNFmt.withMembers env.escape (textItems env text) subid item)

/-- The profile of a line of the text. -/
def lineProfile (line : String) : Option ProfileItem :=
  if isV2raynLine env line then (lineItem env line).bind (itemProfile env text subid)
  else lineConfig env subid subItem line

/-- The items of the text have distinct IDs. -/
def DistinctIds : Prop :=
  (((distinctLines text).filterMap (lineItem env)).map fun item =>
    orEmpty item.indexId).Nodup

/-- No line of the text or of its decoding is the URL of a subscription. -/
def AddsNoSubscription : Prop :=
  ∀ line ∈ lines text ++ lines (env.decode (some text)), env.isValidSubUrl line = false

/-- An update of all subscriptions does not reach the group. -/
def NotRefreshed (group : String) (s : Store) : Prop :=
  ∀ id item, s.subscription id = some item → getSubscriptionId (some id) = group →
    fetched env id item = none

/-- The generated guids are new, and different ones. -/
structure AngConfigManager.UuidSupply.NewTo (uuids : UuidSupply) (group : String) (s : Store) :
    Prop where
  own_inj : ∀ i j, uuids.own i = uuids.own j → i = j
  own_nonblank : ∀ i, isBlank (uuids.own i) = false
  own_unlisted : ∀ i group, uuids.own i ∉ s.listed group
  own_unstored : ∀ i, s.serverConfig (uuids.own i) = none
  updates_ne : ∀ i n j, uuids.updates n j ≠ uuids.own i
  subscriptions_ne : ∀ i, getSubscriptionId (some (uuids.subscriptions i)) ≠ group
  decoded_ne : ∀ i, getSubscriptionId (some (uuids.decodedSubscriptions i)) ≠ group

end

/-! ## The lines of a batch -/

variable {env : ImportEnv} {subid : String} {s : Store} {group : String} {index : List String}
  {batch : List (String × ProfileItem)}

section
variable {text : String} {subItem : Option SubscriptionItem}

theorem mem_distinctLines {line : String} : line ∈ distinctLines text ↔ line ∈ lines text :=
  mem_eraseDups

theorem mem_links_or_items {line : String} (hline : line ∈ lines text)
    (halone : importsAlone env subid subItem line = true) :
    line ∈ linkLines env text subid subItem ++ itemLines env text subid subItem := by
  have hdistinct := mem_distinctLines.mpr hline
  cases hitem : isV2raynLine env line with
  | true =>
    exact mem_append_right _ (mem_filter.mpr ⟨hdistinct, by simp [hitem, halone]⟩)
  | false =>
    exact mem_append_left _ (mem_filter.mpr ⟨hdistinct, by simp [hitem, halone]⟩)

theorem batchLines_eq : batchLines text = (distinctLines text).reverse := rfl

/-- A line that is no v2rayN item gives its own profile. -/
theorem importsAlone_link {line : String} (hline : Text.IsLine line)
    (hv : isV2raynLine env line = false) :
    importsAlone env subid subItem line = (lineConfig env subid subItem line).isSome := by
  unfold importsAlone linkProfiles parseLines lineConfig
  rw [batchLines_of_isLine hline]
  cases hparse : parseConfig env line subid subItem with
  | none => simp [hv, hparse, V2rayNFmt.parse_nil, bind, Except.bind, pure, Except.pure]
  | some config => simp [hv, hparse, V2rayNFmt.parse_nil, bind, Except.bind, pure, Except.pure]

/-- A v2rayN item of a known type gives its profile. -/
theorem importsAlone_item {line : String} (hline : Text.IsLine line)
    (hv : isV2raynLine env line = true) (hitem : ¬UnsupportedItem env line) :
    importsAlone env subid subItem line = (lineItem env line).isSome := by
  unfold importsAlone linkProfiles parseLines lineItem V2rayNFmt.parse
  rw [batchLines_of_isLine hline]
  cases hread : V2rayNFmt.parseShareItem (fun s => env.decode (some s)) env.shareItem line with
  | none => simp [hv, hread, V2rayNFmt.idMap, bind, Except.bind, pure, Except.pure]
  | some item =>
    cases htype : item.eConfigType with
    | error e => exact absurd ⟨hv, item, e, hread, htype⟩ hitem
    | ok t =>
      obtain ⟨profile, hprofile⟩ := item.toProfileItem_of_type htype
      simp [hv, hread, V2rayNFmt.idMap, hprofile, bind, Except.bind, pure, Except.pure]

section
variable (htypes : ∀ line ∈ Text.lines text, ¬UnsupportedItem env line)
include htypes

theorem type_of_mem_items {item : V2rayNShareItem}
    (h : item ∈ (batchLines text).filterMap (lineItem env)) : ∃ t, item.eConfigType = .ok t := by
  obtain ⟨line, hline, hitem⟩ := mem_filterMap.mp h
  have hmem := mem_distinctLines.mp (mem_reverse.mp (batchLines_eq ▸ hline))
  unfold lineItem at hitem
  split at hitem
  · next hv =>
    cases htype : item.eConfigType with
    | error e => exact absurd ⟨hv, item, e, hitem, htype⟩ (htypes line hmem)
    | ok t => exact ⟨t, rfl⟩
  · cases hitem

/-- The pass over the v2rayN items gives the profiles of the items, one after the other. -/
theorem exists_parse_items (hids : DistinctIds env text) :
    ∃ profiles, V2rayNFmt.parse (fun s => env.decode (some s)) env.shareItem env.escape
        ((batchLines text).filter (isV2raynLine env ·)) subid = .ok profiles ∧
      Forall₂ (fun p item => itemProfile env text subid item = some p) profiles
        ((batchLines text).filterMap (lineItem env)) := by
  have hitems : ((batchLines text).filter (isV2raynLine env ·)).filterMap
      (V2rayNFmt.parseShareItem (fun s => env.decode (some s)) env.shareItem) =
      (batchLines text).filterMap (lineItem env) := by
    rw [filterMap_filter]
    rfl
  have hnodup : (((batchLines text).filterMap (lineItem env)).map fun item =>
      orEmpty item.indexId).Nodup := by
    rw [batchLines_eq, filterMap_reverse, map_reverse, nodup_reverse]
    exact hids
  have hmap : textItems env text = ((batchLines text).filterMap (lineItem env)).map fun item =>
      (orEmpty item.indexId, item) := V2rayNFmt.idMap_of_nodup hnodup
  have hok : ∀ e ∈ textItems env text, ∃ p, (do
      return V2rayNFmt.withMembers env.escape (textItems env text) subid e.2
        (← e.2.toProfileItem) : Except String ProfileItem) = .ok p := by
    intro e he
    rw [hmap] at he
    obtain ⟨item, hitem, rfl⟩ := mem_map.mp he
    obtain ⟨t, ht⟩ := type_of_mem_items htypes hitem
    obtain ⟨profile, hprofile⟩ := item.toProfileItem_of_type ht
    exact ⟨_, bind_eq_ok.mpr ⟨profile, hprofile, rfl⟩⟩
  obtain ⟨profiles, hprofiles⟩ := exists_mapM_iff.mpr hok
  refine ⟨profiles, ?_, ?_⟩
  · unfold V2rayNFmt.parse
    rw [hitems]
    exact hprofiles
  · have hitem : Forall₂ (fun p e => itemProfile env text subid e.2 = some p) profiles
        (textItems env text) := by
      refine (forall₂_of_mapM hprofiles).flip.imp fun p e hp => ?_
      obtain ⟨profile, hprofile, hp⟩ := bind_eq_ok.mp hp
      cases hp
      unfold itemProfile
      rw [hprofile]
      rfl
    rw [hmap, forall₂_map_right_iff] at hitem
    exact hitem

/-- The profiles of a batch in reverse: those of the links, then those of the items. -/
theorem exists_parseLines (hids : DistinctIds env text) :
    ∃ profiles, parseLines env text subid subItem = .ok profiles ∧
      Forall₂ (fun p line => lineProfile env text subid subItem line = some p)
        profiles.reverse (linkLines env text subid subItem ++ itemLines env text subid subItem) := by
  obtain ⟨profiles, hparse, hitems⟩ := @exists_parse_items env subid text htypes hids
  have hisLine {line : String} (h : line ∈ distinctLines text) : Text.IsLine line :=
    isLine_of_mem_lines (mem_distinctLines.mp h)
  refine ⟨profiles ++ (batchLines text).filterMap (lineConfig env subid subItem), ?_, ?_⟩
  · refine bind_eq_ok.mpr ⟨profiles, hparse, ?_⟩
    unfold lineConfig
    rw [← filterMap_filter]
    rfl
  · rw [reverse_append, batchLines_eq, filterMap_reverse, reverse_reverse]
    refine rel_append ?_ ?_
    · refine (forall₂_filterMap_filter fun line hline => ?_).imp fun p line hp => ?_
      · cases hv : isV2raynLine env line with
        | true => simp [lineConfig, hv]
        | false => rw [importsAlone_link (hisLine hline) hv]; rfl
      · unfold lineProfile
        rw [if_neg ?_]
        · exact hp
        · intro hv
          simp [lineConfig, hv] at hp
    · rw [batchLines_eq, filterMap_reverse, ← forall₂_reverse_iff,
        reverse_reverse] at hitems
      refine forall₂_trans ?_ hitems (forall₂_filterMap_filter fun line hline => ?_)
      · intro p item line hp hitem
        unfold lineProfile
        rw [if_pos ?_, hitem]
        · exact hp
        · by_contra hv
          simp [lineItem, hv] at hitem
      · cases hv : isV2raynLine env line with
        | true =>
          rw [importsAlone_item (hisLine hline) hv (htypes line (mem_distinctLines.mp hline))]
          rfl
        | false => simp [lineItem, hv]

end
end

/-! ## The commit -/

/-- The index of the group, and the profiles under their guids. -/
structure Store.Holds (group : String) (index : List String)
    (batch : List (String × ProfileItem)) (s : Store) : Prop where
  index : s.listed group = index
  payload : ∀ e ∈ batch, s.serverConfig e.1 = some e.2

section
variable {uuids : Nat → String} {append : Bool}

theorem keyedProfiles_guids (configs : List ParsedProfile) :
    (keyedProfiles uuids configs).map Prod.fst = (range configs.length).map uuids := by
  rw [range_eq_range', ← zipIdx_map_snd 0 configs]
  unfold keyedProfiles
  rw [map_map, map_map]
  rfl

theorem keyedProfiles_profiles (configs : List ParsedProfile) :
    (keyedProfiles uuids configs).map Prod.snd = configs.map (·.profile) := by
  nth_rewrite 2 [← zipIdx_map_fst 0 configs]
  unfold keyedProfiles
  rw [map_map, map_map]
  rfl

variable (hinj : ∀ i j, uuids i = uuids j → i = j)
include hinj

theorem keyedProfiles_nodup (configs : List ParsedProfile) :
    ((keyedProfiles uuids configs).map Prod.fst).Nodup := by
  rw [keyedProfiles_guids]
  exact nodup_range.map fun i j h => hinj i j h

theorem holds_commitParsed (hblank : ∀ i, isBlank (uuids i) = false)
    (hnew : ∀ i, uuids i ∉ s.serverList subid) {configs : List ParsedProfile}
    (hne : configs ≠ []) :
    ((commitParsed env uuids configs subid append).exec s).Holds (getSubscriptionId (some subid))
      (((keyedProfiles uuids configs).map Prod.fst).reverse ++
        if append then s.serverList subid else [])
      (keyedProfiles uuids configs) := by
  have hentries := LinkedMap.entries_ofEntries (keyedProfiles_nodup hinj configs)
  have hkeys : (LinkedMap.ofEntries (keyedProfiles uuids configs)).keys =
      (keyedProfiles uuids configs).map Prod.fst := by rw [LinkedMap.keys, hentries]
  have hsome : keyedProfiles uuids configs ≠ [] := by
    intro h
    exact hne (by simpa [keyedProfiles] using h)
  obtain ⟨rawConfigs, hexec⟩ := exec_commitParsed configs s
  rw [if_neg (by rwa [hentries])] at hexec
  rw [hexec]
  constructor
  · rw [listed_replaceAll, if_pos rfl]
    unfold newServerList
    rw [hkeys]
    refine publishKeys_of_new (keyedProfiles_nodup hinj configs) fun key hkey => ?_
    rw [keyedProfiles_guids] at hkey
    obtain ⟨i, -, rfl⟩ := mem_map.mp hkey
    split
    · exact hnew i
    · exact not_mem_nil
  · intro e he
    obtain ⟨i, c, -, rfl⟩ := exists_of_mem_keyedProfiles he
    exact serverConfig_replaceAll_of_mem (hentries.symm ▸ he) (hblank i)

end

/-! ## The subscriptions -/

section

theorem Store.Holds.subs (s : Store) (sub : KV String (Stored SubscriptionItem))
    (subIds : Option (Stored (List String))) (h : s.Holds group index batch) :
    ({ s with sub := sub, subIds := subIds } : Store).Holds group index batch :=
  ⟨h.index, h.payload⟩

/-- A listed profile survives the replacement of another group. -/
theorem Store.Holds.replaceAll {fold : Char → Char} {profiles : LinkedMap String ProfileItem}
    {rawConfigs : KV String String} {id : String} {append : Bool} (h : s.Holds group index batch)
    (hlisted : ∀ e ∈ batch, e.1 ∈ index) (hgroup : getSubscriptionId (some id) ≠ group)
    (hkeys : ∀ e ∈ batch, e.1 ∉ profiles.keys) :
    (s.replaceAll fold profiles rawConfigs id append).Holds group index batch := by
  constructor
  · rw [listed_replaceAll, if_neg hgroup.symm, h.index]
  · intro e he
    rw [serverConfig_replaceAll_of_notMem (hkeys e he), if_neg ?_, h.payload e he]
    intro hrem
    refine (mem_removablePayloads.mp hrem).2.2.2.2 group hgroup.symm ?_
    rw [h.index]
    exact hlisted e he

variable (hlisted : ∀ e ∈ batch, e.1 ∈ index)
include hlisted

theorem updateConfigViaSub_holds {uuids : Nat → String} {uuid id : String}
    {item : SubscriptionItem} (huuids : ∀ e ∈ batch, ∀ i, e.1 ≠ uuids i)
    (hid : getSubscriptionId (some id) = group → fetched env id item = none) :
    (updateConfigViaSub env uuids uuid id item).Leads (Store.Holds group index batch)
      (Store.Holds group index batch) := by
  cases hfetch : fetched env id item with
  | none =>
    obtain ⟨result, hresult⟩ := @updateConfigViaSub_of_not_fetched env uuids uuid id item hfetch
    rw [hresult]
    exact Prog.leads_pure _
  | some text =>
    have hgroup : getSubscriptionId (some id) ≠ group := by
      intro h
      rw [hid h] at hfetch
      cases hfetch
    rw [updateConfigViaSub_of_fetched hfetch]
    refine Prog.Leads.tryCatch (Prog.Leads.bind ?_
      (fun count => storeUpdated_keeps Store.Holds.subs _ _ _ _) fun _ h => h)
      fun _ => Prog.leads_pure _
    intro s hs
    rw [Prog.exec, run_parseConfigViaSub]
    obtain ⟨rawConfigs, hexec⟩ := @exec_commitParsed env uuids id false
      (importedProfiles env (some text.content) id (s.subscription id)) s
    rw [← Prog.exec, hexec]
    split
    · exact hs
    · refine hs.replaceAll hlisted hgroup fun e he hkey => ?_
      obtain ⟨profile, hentry⟩ := LinkedMap.mem_keys.mp hkey
      obtain ⟨i, c, -, heq⟩ := exists_of_mem_keyedProfiles (LinkedMap.mem_of_mem_ofEntries hentry)
      exact huuids e he i (Prod.mk.inj heq).1

theorem updateEach_holds {uuids : Nat → Nat → String} {ids : Nat → String}
    (huuids : ∀ e ∈ batch, ∀ n i, e.1 ≠ uuids n i) {subs : List (String × SubscriptionItem)}
    (hsubs : ∀ sub ∈ subs, getSubscriptionId (some sub.1) = group →
      fetched env sub.1 sub.2 = none) (n : Nat) :
    (updateEach env uuids ids n subs).Leads (Store.Holds group index batch)
      (Store.Holds group index batch) := by
  induction subs generalizing n with
  | nil => exact Prog.leads_pure _
  | cons sub subs ih =>
    have hstep := @updateConfigViaSub_holds env group index batch hlisted (uuids n) (ids n) sub.1
      sub.2 (fun e he => huuids e he n) (hsubs sub mem_cons_self)
    have hrest := ih (fun sub' hsub' => hsubs sub' (mem_cons_of_mem _ hsub')) (n + 1)
    exact hstep.bind (fun _ => hrest.bind (fun _ => Prog.leads_pure _) fun _ h => h) fun _ h => h

end

theorem sub_encodeSubscription (uuid : String) (item : SubscriptionItem) (s : Store) :
    ((encodeSubscription "" uuid item).exec s).sub = s.sub.set uuid (.json item) := by
  have hkey : (if isBlank "" then uuid else "") = uuid := if_pos rfl
  unfold encodeSubscription Prog.exec
  rw [hkey]
  dsimp only [decodeSubsList, encodeSubsList]
  rw [Prog.run_write_bind, Prog.run_read_bind]
  split <;> rfl

theorem sub_initSubs (s : Store) : s.initSubs.sub = s.sub := by
  unfold initSubs
  split <;> rfl

theorem NotRefreshed.congr {t : Store} (h : NotRefreshed env group s) (hsub : t.sub = s.sub) :
    NotRefreshed env group t := by
  unfold NotRefreshed subscription at h ⊢
  rw [hsub]
  exact h

/-- A new subscription has a group of its own. -/
theorem encodeSubscription_notRefreshed {uuid : String}
    (h : getSubscriptionId (some uuid) ≠ group) (item : SubscriptionItem) :
    (encodeSubscription "" uuid item).Leads (NotRefreshed env group) (NotRefreshed env group) := by
  intro s hs id item' hitem hid
  unfold subscription at hitem
  rw [sub_encodeSubscription, KV.get_set] at hitem
  split at hitem
  · next heq =>
    rw [heq] at hid
    exact absurd hid h
  · exact hs id item' hitem hid

theorem decodeSubscriptions_notRefreshed :
    decodeSubscriptions.Leads (NotRefreshed env group) (NotRefreshed env group) := by
  intro s hs
  rw [Prog.exec, run_decodeSubscriptions]
  exact hs.congr (sub_initSubs s)

/-- An unreadable subscription is read as one without URL. -/
theorem NotRefreshed.fetched_none (h : NotRefreshed env group s)
    {sub : String × SubscriptionItem} (hsub : sub ∈ s.subscriptions)
    (hid : getSubscriptionId (some sub.1) = group) : fetched env sub.1 sub.2 = none := by
  obtain ⟨key, -, hkey⟩ := mem_filterMap.mp hsub
  split at hkey
  · next item hget =>
    cases hkey
    exact h key item (by rw [subscription, hget]; rfl) hid
  · cases hkey
    simp [fetched, subscriptionUrl]
  · cases hkey

theorem parseBatchSubscription_eq_pure {uuids : Nat → String} {text : String}
    (h : ∀ line ∈ lines text, env.isValidSubUrl line = false) :
    parseBatchSubscription env uuids (some text) = pure 0 := by
  have hurls (lines : List String) (hlines : ∀ line ∈ lines, env.isValidSubUrl line = false)
      (n : Nat) : importUrls env uuids n lines = pure 0 := by
    induction lines generalizing n with
    | nil => rfl
    | cons line lines ih =>
      obtain ⟨hline, hlines⟩ := forall_mem_cons.mp hlines
      unfold importUrls
      rw [hline]
      exact ih hlines (n + 1)
  unfold parseBatchSubscription
  dsimp only
  rw [hurls _ fun line hline => h line (mem_eraseDups.mp hline)]
  rfl

theorem Store.sub_replaceAll {fold : Char → Char} {profiles : LinkedMap String ProfileItem}
    {rawConfigs : KV String String} {id : String} {append : Bool} :
    (s.replaceAll fold profiles rawConfigs id append).sub = s.sub := rfl

theorem sub_parseConfigViaSub (uuids : Nat → String) (server : Option String) (subid : String)
    (append : Bool) (s : Store) :
    ((parseConfigViaSub env uuids server subid append).exec s).sub = s.sub := by
  rw [Prog.exec, run_parseConfigViaSub, ← Prog.exec]
  obtain ⟨rawConfigs, hexec⟩ := @exec_commitParsed env uuids subid append
    (importedProfiles env server subid (s.subscription subid)) s
  rw [hexec]
  split
  · rfl
  · exact sub_replaceAll

/-- The batch is in place, and no update reaches the group. -/
def Store.Settled (env : ImportEnv) (group : String) (index : List String)
    (batch : List (String × ProfileItem)) (s : Store) : Prop :=
  s.Holds group index batch ∧ NotRefreshed env group s

theorem parseBatchSubscription_settled {ids : Nat → String}
    (hids : ∀ i, getSubscriptionId (some (ids i)) ≠ group) (server : Option String) :
    (parseBatchSubscription env ids server).Leads (Store.Settled env group index batch)
      (Store.Settled env group index batch) := by
  refine parseBatchSubscription_leads (fun t ht => ?_) (fun i item t ht => ?_) server
  · exact ⟨decodeSubscriptions_keeps Store.Holds.subs t ht.1,
      decodeSubscriptions_notRefreshed t ht.2⟩
  · exact ⟨encodeSubscription_keeps Store.Holds.subs _ _ _ t ht.1,
      encodeSubscription_notRefreshed (hids i) item t ht.2⟩

theorem updateConfigViaSubAll_holds {uuids : Nat → Nat → String} {ids : Nat → String}
    (hlisted : ∀ e ∈ batch, e.1 ∈ index) (huuids : ∀ e ∈ batch, ∀ n i, e.1 ≠ uuids n i) :
    (updateConfigViaSubAll env uuids ids).Leads (Store.Settled env group index batch)
      (Store.Holds group index batch) := by
  refine Prog.Leads.tryCatch (fun t ht => ?_) fun _ => Prog.leads_pure _
  have hinit := decodeSubscriptions_keeps Store.Holds.subs t ht.1
  rw [Prog.exec, run_decodeSubscriptions] at hinit
  rw [Prog.exec, Prog.run_bind, run_decodeSubscriptions]
  exact updateEach_holds hlisted huuids (fun sub hsub => ht.2.fetched_none hsub) 0 t.initSubs hinit

theorem countNothing_keeps {P : Store → Prop} (e : StoreException) : (countNothing e).Leads P P := by
  cases e with
  | profileStorage => exact Prog.leads_pure _
  | other => exact fun _ h => h

/-- The stages after the commit leave the group alone. -/
theorem importBatchConfig_holds {uuids : UuidSupply} {text subid : String} {append : Bool}
    (hnew : uuids.NewTo group s)
    (hrefresh : AddsNoSubscription env text ∨ NotRefreshed env group s)
    (hlisted : ∀ e ∈ batch, e.1 ∈ index) (hown : ∀ e ∈ batch, ∃ i, e.1 = uuids.own i)
    (hcommit : ((parseConfigViaSub env uuids.own (some text) subid append).exec s).Holds
      group index batch) :
    ((importBatchConfig env uuids (some text) subid append).exec s).Holds group index batch := by
  rcases hrefresh with hnone | hkept
  · have htext := fun ids => @parseBatchSubscription_eq_pure env ids text
      fun line hline => hnone line (mem_append_left _ hline)
    have hdecoded := fun ids => @parseBatchSubscription_eq_pure env ids (env.decode (some text))
      fun line hline => hnone line (mem_append_right _ hline)
    have hcommits : (parseConfigViaSub env uuids.own (some text) subid append).Leads (· = s)
        (Store.Holds group index batch) := by
      rintro _ rfl
      exact hcommit
    unfold importBatchConfig
    simp only [htext, hdecoded]
    exact (hcommits.bind (fun _ => Prog.leads_pure _) fun _ h => h).tryCatch countNothing_keeps s rfl
  · -- subscriptions are added under new IDs, so the group is not among those that are updated
    have hcommits : (parseConfigViaSub env uuids.own (some text) subid append).Leads (· = s)
        (Store.Settled env group index batch) := by
      rintro _ rfl
      exact ⟨hcommit, hkept.congr (sub_parseConfigViaSub _ _ _ _ _)⟩
    have hupdates : (updateConfigViaSubAll env uuids.updates uuids.updatedSubscriptions).Leads
        (Store.Settled env group index batch) (Store.Holds group index batch) := by
      refine updateConfigViaSubAll_holds hlisted fun e he n i heq => ?_
      obtain ⟨j, hj⟩ := hown e he
      exact hnew.updates_ne j n i (heq.symm.trans hj)
    refine Prog.Leads.tryCatch (P := (· = s)) ?_ countNothing_keeps s rfl
    refine hcommits.bind (fun count => ?_) fun _ h => h.1
    refine (parseBatchSubscription_settled hnew.subscriptions_ne _).bind (fun countSub => ?_)
      fun _ h => h.1
    refine (orElseCount_keeps (parseBatchSubscription_settled hnew.decoded_ne _)).bind
      (fun countSub => ?_) fun _ h => h.1
    refine Prog.Leads.bind ?_ (fun _ => Prog.leads_pure _) fun _ h => h
    unfold updateIfAdded
    split
    · exact hupdates.bind (fun _ => Prog.leads_pure _) fun _ h => h
    · exact (Prog.leads_pure _).imp fun _ h => h.1

/-! ## The import -/

/-- The lines of a text that import a profile on their own are put in front of the index, first the
links and then the v2rayN items, each in the order of the text. -/
theorem import_order (env : ImportEnv) (uuids : UuidSupply) (s : Store) (text subid : String)
    (append : Bool) (hnew : uuids.NewTo (getSubscriptionId (some subid)) s)
    (hids : DistinctIds env text) (htypes : ∀ line ∈ lines text, ¬UnsupportedItem env line)
    (hdecoded : linkProfiles env (env.decode (some text)) subid (s.subscription subid) = [])
    (hsome : ∃ line ∈ lines text, importsAlone env subid (s.subscription subid) line = true)
    (hrefresh : AddsNoSubscription env text ∨
      NotRefreshed env (getSubscriptionId (some subid)) s) :
    ∃ guids, ((importBatchConfig env uuids (some text) subid append).exec s).serverList subid =
        guids ++ (if append then s.serverList subid else []) ∧
      guids.Nodup ∧ (∀ guid ∈ guids, s.serverConfig guid = none ∧ ∀ group, guid ∉ s.listed group) ∧
      Forall₂ (fun guid line => ∃ profile,
          lineProfile env text subid (s.subscription subid) line = some profile ∧
          ((importBatchConfig env uuids (some text) subid append).exec s).serverConfig guid =
            some profile) guids
        (linkLines env text subid (s.subscription subid) ++
          itemLines env text subid (s.subscription subid)) := by
  obtain ⟨profiles, hparse, hlines⟩ :=
    @exists_parseLines env subid text (s.subscription subid) htypes hids
  have hlinks : linkProfiles env text subid (s.subscription subid) =
      profiles.map fun c => ⟨c, none⟩ := by
    unfold linkProfiles
    rw [hparse]
  have hne : (profiles.map fun c => (⟨c, none⟩ : ParsedProfile)) ≠ [] := by
    obtain ⟨line, hline, halone⟩ := hsome
    have hmem := mem_links_or_items hline halone
    intro h
    have hlength := hlines.length_eq
    rw [map_eq_nil_iff.mp h] at hlength
    rw [length_eq_zero_iff.mp hlength.symm] at hmem
    cases hmem
  have hread : ReadByLine env text subid (s.subscription subid) := ⟨hdecoded, .inl (hlinks ▸ hne)⟩
  have himported := importedProfiles_of_readByLine hread
  have hexec : (parseConfigViaSub env uuids.own (some text) subid append).exec s =
      (commitParsed env uuids.own (profiles.map fun c => ⟨c, none⟩) subid append).exec s := by
    rw [Prog.exec, run_parseConfigViaSub, himported, hlinks]
    rfl
  have hcommit := @holds_commitParsed env subid s uuids.own append hnew.own_inj hnew.own_nonblank
    (fun i => hnew.own_unlisted i _) _ hne
  rw [← hexec] at hcommit
  have hfinal := importBatchConfig_holds hnew hrefresh
    (fun e he => mem_append_left _ (mem_reverse.mpr (mem_map_of_mem he)))
    (fun e he => by obtain ⟨i, c, -, rfl⟩ := exists_of_mem_keyedProfiles he; exact ⟨i, rfl⟩) hcommit
  refine ⟨_, hfinal.index, nodup_reverse.mpr (keyedProfiles_nodup hnew.own_inj _), ?_, ?_⟩
  · intro guid hguid
    rw [mem_reverse, keyedProfiles_guids] at hguid
    obtain ⟨i, -, rfl⟩ := mem_map.mp hguid
    exact ⟨hnew.own_unstored i, hnew.own_unlisted i⟩
  · refine forall₂_trans (fun guid profile line hguid hline => ⟨profile, hline, hguid⟩) ?_ hlines
    have hprofiles := @keyedProfiles_profiles uuids.own (profiles.map fun c => ⟨c, none⟩)
    rw [map_map, show (ParsedProfile.profile ∘ fun c => ⟨c, none⟩) = id from rfl,
      map_id] at hprofiles
    rw [forall₂_reverse_iff]
    nth_rewrite 2 [← hprofiles]
    rw [forall₂_map_left_iff, forall₂_map_right_iff, forall₂_same]
    exact hfinal.payload

/-! ## An item before a link -/

def mixedText : String := unlines [itemLink, homeLink]

/-- Distinct guids for the profiles of the text. -/
def distinctUuids : UuidSupply := { someUuids with
  own := fun i => String.ofList (replicate i 'b' ++ ['g']) }

/-- Group `s` lists a server. -/
def listedStore : Store where
  subServers := KV.set ∅ "s" (.json ["o"])

theorem distinctUuids_newTo : distinctUuids.NewTo "s" listedStore where
  own_inj := by
    intro i j h
    have hlength := congrArg (fun s : String => s.toList.length) h
    simpa [distinctUuids] using hlength
  own_nonblank := by
    simp [distinctUuids, isBlank, isWhitespace]
  own_unlisted := by
    intro i group h
    unfold listed listedStore at h
    rw [KV.get_set] at h
    split at h
    · have hlast := congrArg (fun s : String => s.toList.getLast?) (mem_singleton.mp h)
      simp [distinctUuids] at hlast
    · cases h
  own_unstored := by
    intro i
    unfold serverConfig
    split <;> rfl
  updates_ne := by
    intro i n j h
    have hlast := congrArg (fun s : String => s.toList.getLast?) h
    simp [distinctUuids, someUuids] at hlast
  subscriptions_ne := by
    intro i
    change getSubscriptionId (some "w") ≠ "s"
    decide
  decoded_ne := by
    intro i
    change getSubscriptionId (some "x") ≠ "s"
    decide

theorem mixedText_supported : ∀ line ∈ lines mixedText, ¬UnsupportedItem offlineEnv line := by
  have hlines : lines mixedText = [itemLink, homeLink] := by decide
  rintro line hline ⟨hv, item, e, hread, htype⟩
  rcases mem_cons.mp hline with rfl | hline
  · have hitem : item = { configType := some 5 } := (Option.some_inj.mp hread).symm
    rw [hitem] at htype
    cases htype
  · rw [mem_singleton.mp hline] at hv
    exact absurd hv (by decide)

theorem mixed_import : ∃ guids,
    ((importBatchConfig offlineEnv distinctUuids (some mixedText) "s" true).exec
      listedStore).serverList "s" = guids ++ ["o"] ∧ guids.length = 2 := by
  have hids : DistinctIds offlineEnv mixedText := by
    unfold DistinctIds
    decide
  have hlines : linkLines offlineEnv mixedText "s" none ++ itemLines offlineEnv mixedText "s" none =
      [homeLink, itemLink] := by decide
  obtain ⟨guids, hindex, -, -, hall⟩ := import_order offlineEnv distinctUuids listedStore mixedText
    "s" true distinctUuids_newTo hids mixedText_supported (by decide)
    ⟨homeLink, by decide, by decide⟩ (.inl fun _ _ => rfl)
  exact ⟨guids, hindex, hall.length_eq.trans (congrArg length hlines)⟩

/-- The links of a text with a subscription link; every subscription can be fetched. -/
def refreshingEnv : ImportEnv := { oneLinkEnv with
  isValidUrl := fun _ => true
  isValidSubUrl := fun url => startsWith url "https:"
  uriFragment := fun _ => .ok none }

def refreshingText : String := unlines [oneLink.content, "https://b.example"]

/-- The item is a TUIC server. -/
def tuicEnv : ImportEnv := { offlineEnv with
  shareItem := fun _ => some { configType := some 8 } }

/-- A link that is also the Base64 text of two links: the decoder of Android skips its marks, and
takes its last character for the padding. -/
def linkOfLinks : String :=
  "vless://ACnZsZXNzOi8vdUBiOjgwP2E9Ygp2bGVzczovL3VAYzo4MD9hPWIK@host:443?type="

/-- An item that is first in the text is last in the index. A text without a link replaces nothing.
A link to a subscription refreshes the group that the text goes to. An item of an unsupported type
stops the import of all lines. A text whose decoding has links is not read itself. -/
theorem item_before_link_comes_last :
    (distinctLines mixedText = [itemLink, homeLink] ∧
      (∀ line ∈ distinctLines mixedText, importsAlone offlineEnv "s" none line = true) ∧
      ((importBatchConfig offlineEnv distinctUuids (some mixedText) "s" false).exec
        listedStore).serverList "s" = ["bg", "g"] ∧
      (((importBatchConfig offlineEnv distinctUuids (some mixedText) "s" false).exec
        listedStore).serverConfig "bg").map (·.subscriptionId) = some "s" ∧
      (lineProfile offlineEnv mixedText "s" none itemLink).map (·.subscriptionId) =
        some "") ∧
    (importsAlone offlineEnv "s" none "#" = false ∧
      ((importBatchConfig offlineEnv distinctUuids (some "#") "s" false).exec
        listedStore).serverList "s" = ["o"]) ∧
    ((∀ line ∈ distinctLines refreshingText,
        importsAlone refreshingEnv "s" (some oneSubscription) line =
          decide (line = oneLink.content)) ∧
      ((importBatchConfig refreshingEnv distinctUuids (some refreshingText) "s" true).exec
        { subscribedStore with subServers := KV.set ∅ "s" (.json ["o"]) }).serverList "s" =
          ["u"]) ∧
    (importsAlone tuicEnv "s" none homeLink = true ∧
      ((importBatchConfig tuicEnv distinctUuids (some mixedText) "s" false).exec
        listedStore).serverList "s" = ["o"]) ∧
    (distinctLines linkOfLinks = [linkOfLinks] ∧
      importsAlone offlineEnv "s" none linkOfLinks = true ∧
      ((importBatchConfig offlineEnv distinctUuids (some linkOfLinks) "s" false).exec
        listedStore).serverList "s" = ["bg", "g"]) := by
  refine ⟨⟨by decide, by decide +kernel, by decide +kernel, by decide +kernel, by decide +kernel⟩,
    ⟨by decide +kernel, by decide +kernel⟩, ⟨by decide +kernel, by decide +kernel⟩, ?_⟩
  exact ⟨⟨by decide +kernel, by decide +kernel⟩, by decide, by decide +kernel, by decide +kernel⟩

end ZeroVpn
