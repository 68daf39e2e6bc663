import ZeroVpn.Fmt.V2rayNFmt
import ZeroVpn.Verify.DefaultOutbound

/-!
# The meaning of v2rayN items

Every item of a list becomes a profile (`items_keep_meaning`). The members of a group and of a chain
are those that the item names, but two things are lost: the strategy of a group is stored as its
name, while `BalancerStrategyType.from` looks for a number, and the public key of a WireGuard peer
is taken from the wrong field.
-/

namespace ZeroVpn.ShareItems

open V2rayNFmt CoreOutboundBuilder CoreConfigContextBuilder List Text

/-- The ID of an item. -/
def idOf (item : V2rayNShareItem) : String := orEmpty item.indexId

/-- The value of `MultipleLoad`. -/
def multipleLoad (item : V2rayNShareItem) : Option Int := item.protoExtraObj.bind (·.multipleLoad)

/-- The public key of the peer of a WireGuard item. -/
def wgPublicKey (item : V2rayNShareItem) : String :=
  orEmpty (item.protoExtraObj.bind (·.wgPublicKey))

/-- Items of supported types that can be told apart. -/
structure Distinct (items : List V2rayNShareItem) : Prop where
  nodup : (items.map idOf).Nodup
  id : ∀ item ∈ items, idOf item ≠ "" ∧ ',' ∉ (idOf item).toList
  remarks : ∀ item ∈ items, ∃ r, item.remarks = some r ∧ r ≠ "" ∧ ',' ∉ r.toList
  supported : ∀ item ∈ items, ∃ t, item.eConfigType = .ok t

/-- The item names its children, which are items of the list. A child with a blank name is left out,
and so is one with a blank ID if it is the only one. -/
structure HasChildren (items : List V2rayNShareItem) (item : V2rayNShareItem)
    (children : List V2rayNShareItem) : Prop where
  mem : ∀ child ∈ children, child ∈ items
  ne_nil : children ≠ []
  shown : ∀ child ∈ children,
    isBlank (idOf child) = false ∧ isBlank (orEmpty child.remarks) = false
  ids : item.protoExtraObj.bind (·.childItems) = some (",".intercalate (children.map idOf))

/-! ## Filters -/

/-- The filter of a group. -/
def groupFilter (escape : String → String) (remarks : List String) : String :=
  "^(" ++ "|".intercalate (remarks.map escape) ++ ")$"

/-- The text ends in a line terminator, before which `$` matches as well. -/
def endsLine (s : String) : Bool :=
  s.toList.getLast?.any
    ['\n', '\x0b', '\x0c', '\r', '\u0085', '\u2028', '\u2029'].contains

/-- What the regular expressions of the platform do with quoted alternatives. -/
def QuotesLiterally (escape : String → String)
    (containsMatchIn : String → String → Option Bool) : Prop :=
  ∀ remarks s, remarks ≠ [] → endsLine s = false →
    containsMatchIn (groupFilter escape remarks) s = some (decide (s ∈ remarks))

section members
variable {items children : List V2rayNShareItem} {item : V2rayNShareItem}

theorem lookup_idMap (h : Distinct items) (hmem : child ∈ items) :
    (idMap items).lookup (idOf child) = some child := by
  have hmap : idMap items = items.map fun item => (idOf item, item) := idMap_of_nodup h.nodup
  have hkeys : ((idMap items).map Prod.fst).Nodup := by
    rw [hmap, map_map]
    exact h.nodup
  rw [lookup_eq_some_iff_mem hkeys, hmap]
  exact mem_map.mpr ⟨child, hmem, rfl⟩

/-- The remarks of the children, in their order. -/
theorem childRemarks_eq (h : Distinct items) (hchildren : HasChildren items item children) :
    childRemarks (idMap items) (",".intercalate (children.map idOf)) =
      children.map fun child => orEmpty child.remarks := by
  have hmem := hchildren.mem
  have hsplit : split ',' (",".intercalate (children.map idOf)) = children.map idOf := by
    refine split_intercalate (by decide) (by simpa using hchildren.ne_nil) fun part hpart => ?_
    obtain ⟨child, hchild, rfl⟩ := mem_map.mp hpart
    exact (h.id child (hmem child hchild)).2
  have hfound : (children.map idOf).filterMap
      (fun id => ((idMap items).lookup id).bind (·.remarks)) =
      children.map fun child => orEmpty child.remarks := by
    rw [filterMap_map]
    refine filterMap_eq_map_iff_forall_eq_some.mpr fun child hchild => ?_
    obtain ⟨r, hr, -⟩ := h.remarks child (hmem child hchild)
    rw [Function.comp_apply, lookup_idMap h (hmem child hchild), Option.bind_some, hr]
    rfl
  rw [childRemarks, hsplit, hfound, filter_eq_self]
  intro r hr
  obtain ⟨child, hchild, rfl⟩ := mem_map.mp hr
  rw [(hchildren.shown child hchild).2]
  rfl

theorem HasChildren.not_isBlank (hchildren : HasChildren items item children) :
    isBlank (",".intercalate (children.map idOf)) = false := by
  obtain ⟨child, rest, rfl⟩ := exists_cons_of_ne_nil hchildren.ne_nil
  have hblank := (hchildren.shown child mem_cons_self).1
  rw [isBlank, all_eq_false] at hblank ⊢
  obtain ⟨c, hc, hws⟩ := hblank
  refine ⟨c, ?_, hws⟩
  rw [String.toList_intercalate, map_map]
  cases rest with
  | nil =>
    rw [map_singleton, intercalate_singleton]
    exact hc
  | cons next rest => exact mem_append_left _ hc

/-- The members of a group or a chain are its children. -/
theorem withMembers_eq (h : Distinct items) (hchildren : HasChildren items item children)
    (escape : String → String) (subId : String) (profile : ProfileItem) :
    (item.configType = some 101 →
      (withMembers escape (idMap items) subId item profile).policyGroupFilter =
        some (groupFilter escape (children.map fun child => orEmpty child.remarks))) ∧
    (item.configType = some 102 →
      (withMembers escape (idMap items) subId item profile).proxyChainProfiles =
        some (",".intercalate (children.map fun child => orEmpty child.remarks))) := by
  have hids : (item.protoExtraObj.bind (·.childItems)).filter (!isBlank ·) =
      some (",".intercalate (children.map idOf)) := by
    rw [hchildren.ids, Option.filter_some, hchildren.not_isBlank]
    rfl
  have hremarks := childRemarks_eq h hchildren
  have hne : children.map (fun child => orEmpty child.remarks) ≠ [] := by
    simpa using hchildren.ne_nil
  constructor
  · intro htype
    rw [withMembers, hids]
    dsimp only
    rw [hremarks, if_neg hne, if_pos htype]
    rfl
  · intro htype
    have hnot : item.configType ≠ some 101 := by
      rw [htype]
      decide
    rw [withMembers, hids]
    dsimp only
    rw [hremarks, if_neg hne, if_neg hnot, if_pos htype]

end members

/-! ## Profiles -/

/-- The public key of the peer of an outbound. -/
def peerKey (o : OutboundBean) : Option String := do
  let peer ← (← (← o.settings).peers).head?
  return peer.publicKey

/-- What a profile keeps of its item. -/
structure Keeps (env : AppEnv) (items : List V2rayNShareItem) (item : V2rayNShareItem)
    (p : ProfileItem) : Prop where
  configType : item.eConfigType = .ok p.configType
  remarks : item.remarks = some p.remarks
  strategy : BalancerStrategyType.ofType p.policyGroupType =
      V2rayNShareItem.strategy (multipleLoad item) ↔
    multipleLoad item ∉ [some 2, some 3, some 4]
  filter : item.configType = some 101 → ∀ children, HasChildren items item children →
    ∀ remark, endsLine remark = false → (matchesFilter env p.policyGroupFilter remark = true ↔
      ∃ child ∈ children, child.remarks = some remark)
  chain : item.configType = some 102 → ∀ children, HasChildren items item children →
    (split ',' (orEmpty p.proxyChainProfiles)).map some = children.map (·.remarks)
  publicKey : item.configType = some 9 → ∀ o, toOutbound env p = .ok (some o) →
    (peerKey o = some (wgPublicKey item) ↔ orEmpty item.publicKey = wgPublicKey item)

section keeps
variable {env : AppEnv} {items : List V2rayNShareItem} {item : V2rayNShareItem}
  {p q : ProfileItem}

/-- A strategy is stored under a name that no strategy is found by. -/
theorem ofType_policyGroupType (t : BalancerStrategyType) :
    BalancerStrategyType.ofType (some t.policyGroupType) = .leastPing := by
  cases t <;> decide

theorem strategy_eq_leastPing_iff :
    .leastPing = V2rayNShareItem.strategy load ↔ load ∉ [some 2, some 3, some 4] := by
  rw [V2rayNShareItem.strategy.eq_def]
  split
  all_goals simp_all

theorem peerKey_toOutboundWireguard (h : toOutboundWireguard env p = .ok (some o)) :
    peerKey o = some (orEmpty p.publicKey) := by
  obtain ⟨reserved, -, ho⟩ := bind_eq_ok.mp h
  rw [← Option.some.inj (Except.ok.inj ho)]
  rfl

/-- The fields that an item and its profile share. -/
theorem toProfileItem_fields (h : item.toProfileItem = .ok p) :
    item.eConfigType = .ok p.configType ∧ p.remarks = orEmpty item.remarks ∧
      p.policyGroupType = some (V2rayNShareItem.strategy (multipleLoad item)).policyGroupType ∧
      p.publicKey = item.publicKey := by
  obtain ⟨t, ht, hp⟩ := bind_eq_ok.mp h
  rw [ht, ← Except.ok.inj hp]
  exact ⟨rfl, rfl, rfl, rfl⟩

theorem keeps_withMembers (h : Distinct items) (hmem : item ∈ items)
    (hregex : QuotesLiterally escape env.platform.containsMatchIn) (hp : item.toProfileItem = .ok p)
    (subId : String) :
    Keeps env items item (withMembers escape (idMap items) subId item p) := by
  obtain ⟨htype, hremarks, hstrategy, hkey⟩ := toProfileItem_fields hp
  obtain ⟨_, _, _, heq⟩ := exists_withMembers_eq escape (idMap items) subId item p
  obtain ⟨r, hr, -⟩ := h.remarks item hmem
  constructor
  case configType =>
    rw [heq]
    exact htype
  case remarks =>
    rw [heq, hremarks, hr]
    rfl
  case strategy =>
    rw [heq]
    rw [hstrategy, ofType_policyGroupType]
    exact strategy_eq_leastPing_iff
  case filter =>
    intro hgroup children hchildren remark hends
    have hne : children.map (fun child => orEmpty child.remarks) ≠ [] := by
      simpa using hchildren.ne_nil
    have hblank : ¬isBlank (groupFilter escape
        (children.map fun child => orEmpty child.remarks)) = true := by
      rw [Bool.not_eq_true, isBlank, all_eq_false]
      refine ⟨'^', ?_, by decide⟩
      rw [groupFilter, String.toList_append, String.toList_append]
      exact mem_append_left _ (mem_append_left _ (by decide))
    rw [(withMembers_eq h hchildren escape subId p).1 hgroup, matchesFilter, if_neg hblank,
      hregex _ _ hne hends, Option.getD_some, decide_eq_true_eq, mem_map]
    refine exists_congr fun child => and_congr_right fun hchild => ?_
    obtain ⟨r, hr, -⟩ := h.remarks child (hchildren.mem child hchild)
    rw [hr, orEmpty, Option.getD_some, Option.some.injEq]
  case chain =>
    intro hchain children hchildren
    have hsplit : split ','
        (",".intercalate (children.map fun child => orEmpty child.remarks)) =
        children.map fun child => orEmpty child.remarks := by
      refine split_intercalate (by decide) (by simpa using hchildren.ne_nil) ?_
      intro part hpart
      obtain ⟨child, hchild, rfl⟩ := mem_map.mp hpart
      obtain ⟨r, hr, -, hcomma⟩ := h.remarks child (hchildren.mem child hchild)
      rw [hr]
      exact hcomma
    rw [(withMembers_eq h hchildren escape subId p).2 hchain, orEmpty, Option.getD_some,
      hsplit, map_map]
    refine map_congr_left fun child hchild => ?_
    obtain ⟨r, hr, -⟩ := h.remarks child (hchildren.mem child hchild)
    rw [Function.comp_apply, hr]
    rfl
  case publicKey =>
    intro hwireguard o ho
    have hconfig : p.configType = .wireguard := by
      rw [V2rayNShareItem.eConfigType, hwireguard] at htype
      exact (Except.ok.inj htype).symm
    rw [heq, toOutbound] at ho
    rw [hconfig] at ho
    rw [peerKey_toOutboundWireguard ho, Option.some.injEq]
    rw [hkey]

end keeps

/-- Every item becomes a profile, which keeps its members; the strategy of a group is kept if it is
the default one, and the key of a WireGuard peer if the item has it in both places. -/
theorem items_keep_meaning {env : AppEnv} {decode : String → String}
    {fromJson : String → Option V2rayNShareItem} {escape : String → String}
    {items : List V2rayNShareItem} {list : List String}
    (hregex : QuotesLiterally escape env.platform.containsMatchIn)
    (hread : list.map (parseShareItem decode fromJson) = items.map some) (h : Distinct items)
    (subId : String) :
    ∃ profiles, parse decode fromJson escape list subId = .ok profiles ∧
      Forall₂ (Keeps env items) items profiles := by
  have hitems : list.filterMap (parseShareItem decode fromJson) = items := by
    have hall : (list.map (parseShareItem decode fromJson)).filterMap id = items := by
      rw [hread, filterMap_map]
      exact filterMap_some
    rw [filterMap_map] at hall
    exact hall
  have hmap : idMap items = items.map fun item => (idOf item, item) := idMap_of_nodup h.nodup
  obtain ⟨profiles, hprofiles, hkeeps⟩ := @exists_mapM_forall₂ String _ _
    (fun item => do return withMembers escape (idMap items) subId item (← item.toProfileItem))
    items (Keeps env items) fun item hitem => by
      obtain ⟨t, ht⟩ := h.supported item hitem
      obtain ⟨p, hp⟩ := item.toProfileItem_of_type ht
      exact ⟨_, bind_eq_ok.mpr ⟨p, hp, rfl⟩, keeps_withMembers h hitem hregex hp subId⟩
  refine ⟨profiles, ?_, hkeeps⟩
  rw [parse, hitems]
  nth_rewrite 2 [hmap]
  rw [mapM_map]
  exact hprofiles

/-! ## A group and a WireGuard server -/

/-- A text between quotation marks, out of which its own end marks are taken. -/
def quoteChars : List Char → List Char
  | '\\' :: 'E' :: cs => '\\' :: 'E' :: '\\' :: '\\' :: 'E' :: '\\' :: 'Q' :: quoteChars cs
  | c :: cs => c :: quoteChars cs
  | [] => []

/-- `Regex.escape`, which is `Pattern.quote`. -/
def regexEscape (s : String) : String :=
  String.ofList ('\\' :: 'Q' :: (quoteChars s.toList ++ ['\\', 'E']))

/-- The alternatives of a filter of quoted texts; `cur` is what was read of the first one. -/
def readAlternatives : Bool → List Char → List Char → Option (List String)
  | true, cur, '\\' :: 'E' :: cs => readAlternatives false cur cs
  | true, cur, c :: cs => readAlternatives true (cur ++ [c]) cs
  | false, cur, '\\' :: 'Q' :: cs => readAlternatives true cur cs
  | false, cur, '\\' :: '\\' :: cs => readAlternatives false (cur ++ ['\\']) cs
  | false, cur, 'E' :: cs => readAlternatives false (cur ++ ['E']) cs
  | false, cur, '|' :: cs => (readAlternatives false [] cs).map (String.ofList cur :: ·)
  | false, cur, [')', '$'] => some [String.ofList cur]
  | _, _, _ => none

/-- `containsMatchIn` for such filters, and for texts without a line terminator at their end. -/
def matchAlternatives (pattern s : String) : Option Bool :=
  match pattern.toList with
  | '^' :: '(' :: cs => (readAlternatives false [] cs).map fun remarks => decide (s ∈ remarks)
  | _ => none

theorem head?_quoteChars (cs : List Char) : (quoteChars cs).head? = cs.head? := by
  fun_cases quoteChars cs <;> rfl

theorem readAlternatives_quoted (cur cs rest : List Char) :
    readAlternatives true cur (quoteChars cs ++ '\\' :: 'E' :: rest) =
      readAlternatives false (cur ++ cs) rest := by
  induction cs using quoteChars.induct generalizing cur with
  | case1 cs ih => simp [quoteChars, readAlternatives, ih]
  | case2 c cs hend ih =>
    -- a backslash is not in front of an E
    have hnext : ∀ more, c = '\\' → quoteChars cs ++ '\\' :: 'E' :: rest = 'E' :: more → False := by
      rintro more rfl heq
      have hhead := congrArg head? heq
      rw [head?_append, head?_quoteChars] at hhead
      cases cs with
      | nil => cases hhead
      | cons d cs =>
        cases hhead
        exact hend cs rfl rfl
    rw [quoteChars, cons_append, readAlternatives, ih, append_assoc, singleton_append]
    · exact hnext
    · exact hend
  | case3 => simp [quoteChars, readAlternatives]

theorem readAlternatives_intercalate {remarks : List String} (hne : remarks ≠ []) :
    readAlternatives false [] (['|'].intercalate (remarks.map fun r => (regexEscape r).toList) ++
      [')', '$']) = some remarks := by
  have hone (r : String) (rest : List Char) : readAlternatives false []
      ((regexEscape r).toList ++ rest) = readAlternatives false r.toList rest := by
    rw [regexEscape, String.toList_ofList, cons_append, cons_append, readAlternatives,
      append_assoc]
    exact readAlternatives_quoted [] r.toList rest
  induction remarks with
  | nil => exact absurd rfl hne
  | cons r remarks ih =>
    cases remarks with
    | nil =>
      rw [map_singleton, intercalate_singleton, hone, readAlternatives,
        String.ofList_toList]
    | cons next remarks =>
      have hrest := ih (cons_ne_nil next remarks)
      rw [map_cons] at hrest
      rw [map_cons, map_cons, intercalate_cons_cons, append_assoc,
        append_assoc, hone, singleton_append, readAlternatives, hrest,
        String.ofList_toList, Option.map_some]

theorem matchAlternatives_quotesLiterally : QuotesLiterally regexEscape matchAlternatives := by
  intro remarks s hne _
  have htext : (groupFilter regexEscape remarks).toList =
      '^' :: '(' :: (['|'].intercalate (remarks.map fun r => (regexEscape r).toList) ++
        [')', '$']) := by
    rw [groupFilter, String.toList_append, String.toList_append, String.toList_intercalate,
      map_map]
    rfl
  rw [matchAlternatives, htext]
  change (readAlternatives false [] _).map _ = _
  rw [readAlternatives_intercalate hne, Option.map_some]

/-- A phone with such regular expressions. -/
def quotingEnv : AppEnv :=
  { plainEnv [] [] with platform := { plainPlatform with containsMatchIn := matchAlternatives } }

def groupItem (multipleLoad : Option Int) : V2rayNShareItem :=
  { indexId := some "1", configType := some 101, remarks := some "Group"
    protoExtraObj := some { childItems := some "2", multipleLoad } }

def wireguardItem (publicKey : Option String) : V2rayNShareItem :=
  { indexId := some "2", configType := some 9, remarks := some "Server", address := some "192.0.2.1"
    port := some 51820, publicKey, protoExtraObj := some { wgPublicKey := some "key" } }

/-- The two items under the names `g` and `w`. -/
def twoItems (multipleLoad : Option Int) (publicKey : Option String) (text : String) :
    Option V2rayNShareItem :=
  if text = "g" then some (groupItem multipleLoad)
  else if text = "w" then some (wireguardItem publicKey)
  else none

def twoLinks : List String := ["v2rayn://g", "v2rayn://w"]

theorem twoItems_distinct (multipleLoad : Option Int) (publicKey : Option String) :
    Distinct [groupItem multipleLoad, wireguardItem publicKey] where
  nodup := (by decide : ["1", "2"].Nodup)
  id := by
    simp only [forall_mem_cons]
    have hfirst : "1" ≠ "" ∧ ',' ∉ "1".toList := by decide
    have hsecond : "2" ≠ "" ∧ ',' ∉ "2".toList := by decide
    exact ⟨hfirst, hsecond, fun _ hmem => absurd hmem not_mem_nil⟩
  remarks := by
    simp only [forall_mem_cons]
    exact ⟨⟨"Group", rfl, by decide, by decide⟩, ⟨"Server", rfl, by decide, by decide⟩,
      fun _ hmem => absurd hmem not_mem_nil⟩
  supported := by
    simp only [forall_mem_cons]
    exact ⟨⟨_, rfl⟩, ⟨_, rfl⟩, fun _ hmem => absurd hmem not_mem_nil⟩

theorem defaultItems_keep_meaning :
    ∃ profiles, parse id (twoItems none (some "key")) regexEscape twoLinks "sub" = .ok profiles ∧
      Forall₂ (Keeps quotingEnv [groupItem none, wireguardItem (some "key")])
        [groupItem none, wireguardItem (some "key")] profiles :=
  items_keep_meaning matchAlternatives_quotesLiterally rfl (twoItems_distinct none (some "key"))
    "sub"

/-- A random group becomes a group by ping, and the peer has no key. -/
theorem strategy_and_key_lost :
    ∃ group server o, parse id (twoItems (some 2) none) regexEscape twoLinks "sub" =
        .ok [group, server] ∧
      V2rayNShareItem.strategy (multipleLoad (groupItem (some 2))) = .random ∧
      BalancerStrategyType.ofType group.policyGroupType = .leastPing ∧
      toOutbound quotingEnv server = .ok (some o) ∧
      wgPublicKey (wireguardItem none) = "key" ∧ peerKey o = some "" :=
  ⟨_, _, _, rfl, rfl, rfl, rfl, rfl, rfl⟩

end ZeroVpn.ShareItems
