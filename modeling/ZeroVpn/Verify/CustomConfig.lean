import ZeroVpn.Std.JsonSpec
import ZeroVpn.Verify.DefaultOutbound

/-!
# Custom configurations

A custom configuration is read, changed in four members and printed again. The printer leaves out
members that are `null`. `custom_config_passed_through` says what else changes, and when a second
run over the result changes nothing more.
-/

namespace ZeroVpn

open CoreConfigManager JsonObject Json List

/-- The policy that the traffic statistics need. -/
def statsPolicy : Json :=
  .obj [("system", .obj [("statsOutboundUplink", .bool true), ("statsOutboundDownlink", .bool true)])]

/-- A rule is shown as it is, or with user IDs in place of its package names. -/
def RuleKept (env : AppEnv) (rule rule' : Json) : Prop :=
  rule' = rule.dropNulls ∨ ∃ (o o' : JsonObject) (elems : List Json),
    rule = .obj o ∧ rule' = .obj o' ∧ o.get "process" = some (.arr elems) ∧
    o'.get "process" =
      some (.arr ((env.packageNamesToUids (elems.filterMap (·.asString))).map .str)) ∧
    ∀ key, key ≠ "process" → o'.get key = (o.get key).bind Json.shown

/-- The routing is shown as it is, or with its rules changed one by one. -/
def RoutingKept (env : AppEnv) (routing routing' : Option Json) : Prop :=
  routing' = routing.bind Json.shown ∨ ∃ (o o' : JsonObject) (rules rules' : List Json),
    routing = some (.obj o) ∧ routing' = some (.obj o') ∧ o.get "rules" = some (.arr rules) ∧
    o'.get "rules" = some (.arr rules') ∧ List.Forall₂ (RuleKept env) rules rules' ∧
    ∀ key, key ≠ "rules" → o'.get key = (o.get key).bind Json.shown

/-- The inbounds; anything but an array has none. -/
def inboundsOf (json : JsonObject) : List Json := ((json.get "inbounds").bind (·.asArray)).getD []

/-- `out` is `raw` as it is printed, up to the four members. -/
structure PassedThrough (env : AppEnv) (raw out : JsonObject) : Prop where
  other : ∀ key, key ∉ ["stats", "policy", "routing", "inbounds"] →
    out.get key = (raw.get key).bind Json.shown
  stats : out.get "stats" = (raw.get "stats").bind Json.shown ∨
    (raw.get "stats" = none ∧ out.get "stats" = some (.obj [])) ∨ out.get "stats" = none
  policy : out.get "policy" = (raw.get "policy").bind Json.shown ∨
    (raw.get "policy" = none ∧ out.get "policy" = some statsPolicy) ∨
    ∃ o : JsonObject, raw.get "policy" = some (.obj o) ∧
      ((o.remove "system" = [] ∧ out.get "policy" = none) ∨
        out.get "policy" = some (.obj (Json.dropNullsMembers (o.remove "system"))))
  routing : RoutingKept env (raw.get "routing") (out.get "routing")
  inbounds : out.get "inbounds" = (raw.get "inbounds").bind Json.shown ∨
    ((inboundsOf raw).any isTunInbound = false ∧ ∃ tun, isTunInbound tun = true ∧
      out.get "inbounds" = some (.arr ((inboundsOf raw).map Json.dropNulls ++ [tun])))

/-- No `null` in the statistics and the policy is taken for a value and then left out. -/
def Rerunnable (env : AppEnv) (raw : JsonObject) : Prop :=
  if env.decodeSettingsBool AppConfig.prefSpeedEnabled then
    raw.get "stats" ≠ some .null ∧ raw.get "policy" ≠ some .null
  else ∀ o : JsonObject, raw.get "policy" = some (.obj o) → o.remove "system" ≠ [] →
    Json.dropNullsMembers (o.remove "system") ≠ []

/-- A user ID is not the name of an installed package. -/
def UidsAreNoPackages (env : AppEnv) : Prop :=
  ∀ pkg uid, env.resolveUid pkg = some uid → env.resolveUid uid = none

/-! ## The four members -/

variable {out : JsonObject}

section
variable (env : AppEnv)

/-- What becomes of the policy without statistics. -/
def keptPolicy : Json → Option Json
  | .obj o =>
    if JsonObject.remove o "system" = [] then none else some (.obj (JsonObject.remove o "system"))
  | j => some j

/-- What becomes of the rules. -/
def rulesOf (rules : Json) : Json :=
  match rules.asArray with
  | none => rules
  | some rules => .arr (rules.map (ruleToUids env))

def routingToUids (routing : Json) : Json :=
  match routing.asObject with
  | none => routing
  | some routing => .obj (routing.modify "rules" (rulesOf env))

/-- What becomes of the routing. -/
def routed (routing : Json) : Json :=
  if needTun env && env.canUseProcessRouting then routingToUids env routing else routing

/-- The object before the inbounds are completed. -/
def beforeTun (json : JsonObject) : JsonObject :=
  (configureStats env json).modify "routing" (routed env)

/-- The tun inbound of the template. -/
def tunInbound : InboundBean where
  tag := "tun"
  port := none
  protocol := "tun"
  settings := some { name := some "xray0", userLevel := some 8 }
  sniffing := some { enabled := true, destOverride := ["http", "tls", "quic"] }

/-- The object with completed inbounds. -/
def afterTun (json : JsonObject) : Except String JsonObject :=
  if needTun env then ensureTunInbound env json else .ok json

variable {env} {json : JsonObject}
variable (key : String) {o : JsonObject}

theorem modify_id : json.modify key (fun j => j) = json := by
  nth_rewrite 2 [← map_id json]
  refine map_congr_left fun m _ => ?_
  split
  · next h => rw [← h]; rfl
  · rfl

/-- The result of a custom configuration. -/
def customResult (guid : String) (out : JsonObject) : ConfigResult :=
  { status := true, guid := some guid, content := .json out }

theorem buildV2rayCustomConfig_eq (hraw : env.store.serverRaw.get guid = some raw)
    (hparse : env.platform.parseString raw = some json) :
    buildV2rayCustomConfig env guid = (afterTun env (beforeTun env json)).map fun out =>
      customResult guid (dropNullsMembers out) := by
  unfold buildV2rayCustomConfig afterTun beforeTun
  rw [hraw]
  dsimp only
  rw [hparse]
  have hkept (h : (needTun env && env.canUseProcessRouting) = false) :
      (configureStats env json).modify "routing" (routed env) = configureStats env json := by
    have hrouted : routed env = fun j => j := funext fun j => if_neg (by rw [h]; decide)
    rw [hrouted, modify_id]
  have hmap (x : Except String JsonObject) :
      (x >>= fun out => pure (customResult guid (dropNullsMembers out))) =
        x.map fun out => customResult guid (dropNullsMembers out) := by
    cases x <;> rfl
  cases htun : needTun env with
  | false =>
    rw [hkept (by rw [htun]; rfl)]
    rfl
  | true =>
    refine (hmap _).trans ?_
    cases huse : env.canUseProcessRouting with
    | false => rw [hkept (by rw [huse, Bool.and_false])]; rfl
    | true =>
      have hrouted : routed env = routingToUids env :=
        funext fun j => if_pos (by rw [htun, huse]; rfl)
      rw [hrouted]
      rfl

/-- Without statistics the policy loses its `system` member. -/
def dropSystem (json : JsonObject) : JsonObject :=
  match (json.get "policy").bind (·.asObject) with
  | none => json
  | some policy =>
    if policy.remove "system" = [] then json.remove "policy"
    else json.modify "policy" fun _ => .obj (policy.remove "system")

theorem configureStats_eq : configureStats env json =
    if env.decodeSettingsBool AppConfig.prefSpeedEnabled then
      (json.addMissing "stats" (.obj [])).addMissing "policy" statsPolicy
    else dropSystem (json.remove "stats") := rfl

theorem get_dropSystem :
    (dropSystem json).get key =
    if key = "policy" then (json.get "policy").bind keptPolicy else json.get key := by
  unfold dropSystem
  have hkeep {v : Option Json} (hget : json.get "policy" = v)
      (hkept : v.bind keptPolicy = v) :
      json.get key = if key = "policy" then v.bind keptPolicy else json.get key := by
    split
    · next heq => rw [heq, hget, hkept]
    · rfl
  cases hget : json.get "policy" with
  | none => exact hkeep hget rfl
  | some policy =>
    cases policy with
    | obj o =>
      dsimp only [Option.bind_some, asObject, keptPolicy]
      split
      · rw [get_remove]
      · rw [get_modify, hget]
        rfl
    | _ => exact hkeep hget rfl

theorem keys_nodup_dropSystem (h : (json.map Prod.fst).Nodup) :
    ((dropSystem json).map Prod.fst).Nodup := by
  unfold dropSystem
  split
  · exact h
  · split
    · exact keys_nodup_remove h
    · rw [keys_modify]
      exact h

theorem keys_nodup_beforeTun (h : (json.map Prod.fst).Nodup) :
    ((beforeTun env json).map Prod.fst).Nodup := by
  unfold beforeTun
  rw [keys_modify, configureStats_eq]
  split
  · exact keys_nodup_addMissing (keys_nodup_addMissing h)
  · exact keys_nodup_dropSystem (keys_nodup_remove h)

/-- What becomes of the statistics. -/
def statsOf (env : AppEnv) (stats : Option Json) : Option Json :=
  if env.decodeSettingsBool AppConfig.prefSpeedEnabled then some (stats.getD (.obj [])) else none

/-- What becomes of the policy. -/
def policyOf (env : AppEnv) (policy : Option Json) : Option Json :=
  if env.decodeSettingsBool AppConfig.prefSpeedEnabled then some (policy.getD statsPolicy)
  else policy.bind keptPolicy

theorem get_beforeTun :
    (beforeTun env json).get key =
    if key = "stats" then statsOf env (json.get key)
    else if key = "policy" then policyOf env (json.get key)
    else if key = "routing" then (json.get key).map (routed env)
    else json.get key := by
  unfold beforeTun statsOf policyOf
  rw [get_modify, configureStats_eq]
  have hkeys : "stats" ≠ "policy" ∧ "routing" ≠ "stats" ∧ "routing" ≠ "policy" := by decide
  obtain ⟨hsp, hrs, hrp⟩ := hkeys
  cases env.decodeSettingsBool AppConfig.prefSpeedEnabled with
  | true =>
    simp only [if_true, get_addMissing, if_neg hrs, if_neg hrp, if_neg hsp.symm]
    split
    · next h => rw [h, if_neg hrs, if_neg hrp]
    · by_cases hstats : key = "stats"
      · rw [if_pos hstats, if_pos hstats, hstats, if_neg hsp]
      · split
        · next h => rw [h]
        · rfl
  | false =>
    simp only [Bool.false_eq_true, if_false, get_dropSystem, get_remove, if_neg hrs,
      if_neg hrp, if_neg hsp.symm]
    split
    · next h => rw [h, if_neg hrs, if_neg hrp]
    · by_cases hstats : key = "stats"
      · rw [if_pos hstats, if_pos hstats, hstats, if_neg hsp]
      · split
        · next h => rw [h]
        · rfl

/-! ## The inbounds -/

def tunJson (env : AppEnv) : Json := (setMtu env tunInbound).toJson

theorem isTunInbound_tunJson : isTunInbound (tunJson env) = true := rfl

theorem dropNulls_tunJson : (tunJson env).dropNulls = tunJson env := by
  simp [tunJson, tunInbound, setMtu, InboundBean.toJson, someMembers, InSettingsBean.toJson,
    SniffingBean.toJson, dropNulls, dropNullsMembers, dropNullsElems, int]

/-- The tun inbound is added, if it is missing and the template can be read. -/
theorem afterTun_cases (json : JsonObject) :
    (afterTun env json = .ok json ∧
      (needTun env = true → (inboundsOf json).any isTunInbound = true)) ∨
    (needTun env = true ∧ (inboundsOf json).any isTunInbound = false ∧
      afterTun env json = .ok (json.add "inbounds" (.arr (inboundsOf json ++ [tunJson env])))) ∨
    (needTun env = true ∧ (inboundsOf json).any isTunInbound = false ∧
      env.platform.assetsReadable = false ∧ ∃ message, afterTun env json = .error message) := by
  unfold afterTun
  cases htun : needTun env with
  | false => exact .inl ⟨rfl, fun h => absurd h (by decide)⟩
  | true =>
    unfold ensureTunInbound
    dsimp only
    cases hany : (inboundsOf json).any isTunInbound with
    | true => exact .inl ⟨by rw [← inboundsOf, hany]; rfl, fun _ => rfl⟩
    | false =>
      rw [← inboundsOf, hany]
      cases hassets : env.platform.assetsReadable with
      | false =>
        refine .inr (.inr ⟨rfl, rfl, rfl, "Missing asset: v2ray_config_with_tun.json", ?_⟩)
        simp [initV2rayConfig, htun, hassets, bind, Except.bind]
      | true =>
        refine .inr (.inl ⟨rfl, rfl, ?_⟩)
        simp [initV2rayConfig, htun, hassets, bind, Except.bind, pure, Except.pure]
        rfl

theorem afterTun_of_tun (h : needTun env = true → (inboundsOf json).any isTunInbound = true) :
    afterTun env json = .ok json := by
  rcases afterTun_cases json with ⟨hok, -⟩ | ⟨htun, hnone, -⟩ | ⟨htun, hnone, -⟩
  · exact hok
  · rw [h htun] at hnone
    cases hnone
  · rw [h htun] at hnone
    cases hnone

theorem inboundsOf_dropNulls (h : (json.map Prod.fst).Nodup) :
    inboundsOf (dropNullsMembers json) = (inboundsOf json).map dropNulls := by
  unfold inboundsOf
  rw [get_dropNulls h]
  cases json.get "inbounds" with
  | none => rfl
  | some v =>
    cases v with
    | arr elems => exact dropNullsElems_eq_map elems
    | _ => rfl

theorem asString_dropNulls (j : Json) : j.dropNulls.asString = j.asString := by
  cases j <;> rfl

theorem isTunInbound_dropNulls {j : Json} (h : j.Distinct) :
    isTunInbound j.dropNulls = isTunInbound j := by
  cases j with
  | obj o =>
    have hstring : ((get o "protocol").bind shown).bind (·.asString) =
        (get o "protocol").bind (·.asString) := by
      cases get o "protocol" with
      | none => rfl
      | some v => cases v <;> rfl
    rw [← get_dropNulls h.1] at hstring
    exact congrArg (· == some "tun") hstring
  | _ => rfl

/-! ## The rules -/

/-- The package names of a rule. -/
def packagesOf (o : JsonObject) : List String :=
  (((o.get "process").bind (·.asArray)).getD []).filterMap (·.asString)

theorem ruleToUids_obj (o : JsonObject) : ruleToUids env (.obj o) =
    if env.packageNamesToUids (packagesOf o) = [] then .obj o
    else .obj (o.add "process" (.arr ((env.packageNamesToUids (packagesOf o)).map .str))) := rfl

theorem packagesOf_dropNulls (h : (o.map Prod.fst).Nodup) :
    packagesOf (dropNullsMembers o) = packagesOf o := by
  unfold packagesOf
  rw [get_dropNulls h]
  cases o.get "process" with
  | none => rfl
  | some v =>
    cases v with
    | arr elems =>
      change (dropNullsElems elems).filterMap _ = elems.filterMap _
      rw [dropNullsElems_eq_map, filterMap_map]
      exact filterMap_congr fun j _ => asString_dropNulls j
    | _ => rfl

theorem dropNulls_strings (texts : List String) :
    dropNullsElems (texts.map .str) = texts.map .str := by
  rw [dropNullsElems_eq_map, map_map]
  rfl

theorem exists_process_of_packages (h : packagesOf o ≠ []) :
    ∃ elems, o.get "process" = some (.arr elems) ∧ packagesOf o = elems.filterMap (·.asString) := by
  unfold packagesOf at h ⊢
  cases hget : o.get "process" with
  | none => rw [hget] at h; exact absurd rfl h
  | some v =>
    cases v with
    | arr elems => exact ⟨elems, rfl, rfl⟩
    | _ => rw [hget] at h; exact absurd rfl h

theorem ruleKept_ruleToUids (h : rule.Distinct) :
    RuleKept env rule (ruleToUids env rule).dropNulls := by
  cases rule with
  | obj o =>
    rw [ruleToUids_obj]
    split
    · exact .inl rfl
    · next huids =>
      have hpackages : packagesOf o ≠ [] := fun hnil => huids (by rw [hnil]; rfl)
      obtain ⟨elems, hprocess, helems⟩ := exists_process_of_packages hpackages
      have hget := fun key => get_dropNulls (@keys_nodup_add o "process"
        (.arr ((env.packageNamesToUids (packagesOf o)).map .str)) h.1) key
      refine .inr ⟨o, _, elems, rfl, rfl, hprocess, ?_, fun key hkey => ?_⟩
      · rw [hget, get_add, ← helems]
        exact congrArg (fun l => some (Json.arr l)) (dropNulls_strings _)
      · rw [hget, get_add, if_neg hkey]
  | _ => exact .inl rfl

theorem routingToUids_obj (o : JsonObject) :
    routingToUids env (.obj o) = .obj (o.modify "rules" (rulesOf env)) := rfl

theorem routingKept_routed {routing : Option Json} (h : ∀ v, routing = some v → v.Distinct) :
    RoutingKept env routing ((routing.map (routed env)).bind shown) := by
  cases routing with
  | none => exact .inl rfl
  | some v =>
    have hv := h v rfl
    by_cases hcond : (needTun env && env.canUseProcessRouting) = true
    · have hrouted : routed env = routingToUids env := funext fun j => if_pos hcond
      rw [hrouted]
      cases v with
      | obj o =>
        obtain ⟨hnodup, hmembers⟩ := hv
        have hget := fun key => get_dropNulls
          ((@keys_modify o "rules" (rulesOf env)).symm ▸ hnodup) key
        by_cases harray : ∃ rules, get o "rules" = some (.arr rules)
        · obtain ⟨rules, hrules⟩ := harray
          refine .inr ⟨o, dropNullsMembers (JsonObject.modify o "rules" (rulesOf env)), rules,
            (rules.map (ruleToUids env)).map dropNulls, rfl, rfl, hrules, ?_, ?_,
            fun key hkey => ?_⟩
          · rw [hget, get_modify, hrules]
            exact congrArg (fun l => some (Json.arr l)) (dropNullsElems_eq_map _)
          · rw [map_map, forall₂_map_right_iff, forall₂_same]
            intro rule hrule
            exact ruleKept_ruleToUids ((hmembers.of_get hrules : Json.Distinct _).of_mem hrule)
          · rw [hget, get_modify, if_neg hkey]
        · have hsame : JsonObject.modify o "rules" (rulesOf env) = o := by
            refine modify_eq_self hnodup fun u hu => ?_
            cases u with
            | arr rules => exact absurd ⟨rules, hu⟩ harray
            | _ => rfl
          refine .inl ?_
          rw [Option.map_some, routingToUids_obj, hsame]
      | _ => exact .inl rfl
    · have hrouted : routed env = fun j => j := funext fun j => if_neg hcond
      rw [hrouted]
      exact .inl rfl

/-! ## The frame -/

theorem inboundsOf_beforeTun : inboundsOf (beforeTun env json) = inboundsOf json := by
  unfold inboundsOf
  rw [get_beforeTun]
  rfl

section
variable (hdistinct : (Json.obj json).Distinct)
include hdistinct

/-- Whatever is added to the inbounds, the other members come out as `beforeTun` leaves them. -/
theorem passedThrough_of_get
    (hget : ∀ key, key ≠ "inbounds" → out.get key = ((beforeTun env json).get key).bind shown)
    (hinbounds : out.get "inbounds" = (json.get "inbounds").bind shown ∨
      ((inboundsOf json).any isTunInbound = false ∧ ∃ tun, isTunInbound tun = true ∧
        out.get "inbounds" = some (.arr ((inboundsOf json).map dropNulls ++ [tun])))) :
    PassedThrough env json out := by
  constructor
  case inbounds => exact hinbounds
  case other =>
    intro key hkey
    simp only [mem_cons, not_mem_nil, or_false, not_or] at hkey
    obtain ⟨hstats, hpolicy, hrouting, hin⟩ := hkey
    rw [hget key hin, get_beforeTun, if_neg hstats, if_neg hpolicy, if_neg hrouting]
  case stats =>
    rw [hget "stats" (by decide), get_beforeTun, if_pos rfl]
    unfold statsOf
    split
    · cases json.get "stats" with
      | none => exact .inr (.inl ⟨rfl, rfl⟩)
      | some v => exact .inl rfl
    · exact .inr (.inr rfl)
  case policy =>
    rw [hget "policy" (by decide), get_beforeTun, if_neg (by decide), if_pos rfl]
    unfold policyOf
    split
    · cases json.get "policy" with
      | none => exact .inr (.inl ⟨rfl, rfl⟩)
      | some v => exact .inl rfl
    · cases json.get "policy" with
      | none => exact .inl rfl
      | some v =>
        cases v with
        | obj o =>
          refine .inr (.inr ⟨o, rfl, ?_⟩)
          dsimp only [Option.bind_some, keptPolicy]
          split
          · next hnil => exact .inl ⟨hnil, rfl⟩
          · exact .inr rfl
        | _ => exact .inl rfl
  case routing =>
    rw [hget "routing" (by decide), get_beforeTun, if_neg (by decide), if_pos rfl]
    exact routingKept_routed fun v hv => hdistinct.2.of_get hv

theorem get_result (h : afterTun env (beforeTun env json) = .ok out) :
    ((dropNullsMembers out).map Prod.fst).Nodup ∧
      (∀ key, key ≠ "inbounds" → (dropNullsMembers out).get key =
        ((beforeTun env json).get key).bind shown) ∧
      (((dropNullsMembers out).get "inbounds" = (json.get "inbounds").bind shown ∧
          (needTun env = true → (inboundsOf json).any isTunInbound = true)) ∨
        ((inboundsOf json).any isTunInbound = false ∧
          (dropNullsMembers out).get "inbounds" =
            some (.arr ((inboundsOf json).map dropNulls ++ [tunJson env])))) := by
  have hnodup := @keys_nodup_beforeTun env json hdistinct.1
  have hin : (beforeTun env json).get "inbounds" = json.get "inbounds" := by
    rw [get_beforeTun]
    rfl
  rcases afterTun_cases (beforeTun env json) with
    ⟨hok, htun⟩ | ⟨-, hnone, hok⟩ | ⟨-, -, -, message, herror⟩
  · cases h.symm.trans hok
    refine ⟨hnodup.sublist (keys_dropNulls_sublist _), fun key _ => get_dropNulls hnodup key,
      .inl ⟨?_, ?_⟩⟩
    · rw [get_dropNulls hnodup, hin]
    · rwa [inboundsOf_beforeTun] at htun
  · cases h.symm.trans hok
    have hadd := @keys_nodup_add (beforeTun env json) "inbounds"
      (.arr (inboundsOf (beforeTun env json) ++ [tunJson env])) hnodup
    rw [inboundsOf_beforeTun] at hnone hadd ⊢
    refine ⟨hadd.sublist (keys_dropNulls_sublist _), fun key hkey => ?_, .inr ⟨hnone, ?_⟩⟩
    · rw [get_dropNulls hadd, get_add, if_neg hkey]
    · rw [get_dropNulls hadd, get_add]
      refine congrArg (fun l => some (Json.arr l)) ?_
      rw [dropNullsElems_eq_map, map_append, map_singleton, dropNulls_tunJson]
  · cases h.symm.trans herror

theorem passedThrough_result (h : afterTun env (beforeTun env json) = .ok out) :
    PassedThrough env json (dropNullsMembers out) := by
  obtain ⟨-, hget, hinbounds⟩ := get_result hdistinct h
  refine passedThrough_of_get hdistinct hget (hinbounds.imp And.left ?_)
  rintro ⟨hnone, htun⟩
  exact ⟨hnone, tunJson env, isTunInbound_tunJson, htun⟩

end

/-! ## The second run -/

section
variable (huids : UidsAreNoPackages env)
include huids

/-- User IDs stay. -/
theorem ruleToUids_again (h : rule.Distinct) :
    ruleToUids env (ruleToUids env rule).dropNulls = (ruleToUids env rule).dropNulls := by
  have hstable {o : JsonObject} (hnodup : (o.map Prod.fst).Nodup)
      (hnone : env.packageNamesToUids (packagesOf o) = []) :
      ruleToUids env (Json.obj o).dropNulls = (Json.obj o).dropNulls := by
    change ruleToUids env (.obj (dropNullsMembers o)) = .obj (dropNullsMembers o)
    rw [ruleToUids_obj, packagesOf_dropNulls hnodup, if_pos hnone]
  cases rule with
  | obj o =>
    rw [ruleToUids_obj]
    split
    · next hnone => exact hstable h.1 hnone
    · refine hstable (keys_nodup_add h.1) ?_
      have hpackages : packagesOf (add o "process"
          (.arr ((env.packageNamesToUids (packagesOf o)).map .str))) =
          env.packageNamesToUids (packagesOf o) := by
        unfold packagesOf
        rw [get_add]
        change filterMap _ (map _ _) = _
        rw [filterMap_map]
        exact filterMap_some
      rw [hpackages]
      refine filterMap_eq_nil_iff.mpr fun uid huid => ?_
      obtain ⟨pkg, -, hpkg⟩ := mem_filterMap.mp huid
      exact huids pkg uid hpkg
  | _ => rfl

theorem rulesOf_again (h : rules.Distinct) :
    rulesOf env (rulesOf env rules).dropNulls = (rulesOf env rules).dropNulls := by
  cases rules with
  | arr rules =>
    refine congrArg Json.arr ?_
    rw [dropNullsElems_eq_map, map_map, map_map, map_map]
    refine map_congr_left fun rule hrule => ?_
    exact ruleToUids_again huids ((h : Json.DistinctElems rules).of_mem hrule)
  | _ => rfl

theorem routed_again (h : routing.Distinct) :
    routed env (routed env routing).dropNulls = (routed env routing).dropNulls := by
  by_cases hcond : (needTun env && env.canUseProcessRouting) = true
  · have hrouted : routed env = routingToUids env := funext fun j => if_pos hcond
    rw [hrouted]
    cases routing with
    | obj o =>
      obtain ⟨hnodup, hmembers⟩ := h
      have hkeys : ((JsonObject.modify o "rules" (rulesOf env)).map Prod.fst).Nodup :=
        keys_modify.symm ▸ hnodup
      refine congrArg Json.obj (modify_eq_self
        (hkeys.sublist (keys_dropNulls_sublist _)) fun v hv => ?_)
      rw [get_dropNulls hkeys, get_modify] at hv
      obtain ⟨_, hmap, hshown⟩ := Option.bind_eq_some_iff.mp hv
      obtain ⟨rules, hrules, rfl⟩ := Option.map_eq_some_iff.mp hmap
      rw [(shown_eq_some hshown).1]
      exact rulesOf_again huids (hmembers.of_get hrules)
    | _ => rfl
  · have hrouted : routed env = fun j => j := funext fun j => if_neg hcond
    rw [hrouted]

end

/-- What is left of a policy has no `system` member. -/
theorem remove_system_of_kept {policy : Option Json}
    (h : (policy.bind keptPolicy).bind shown = some (.obj o)) :
    o.remove "system" = o ∧ ∃ o' : JsonObject, policy = some (.obj o') ∧ o'.remove "system" ≠ [] ∧
      o = dropNullsMembers (o'.remove "system") := by
  obtain ⟨v, hkept, hshown⟩ := Option.bind_eq_some_iff.mp h
  obtain ⟨j, rfl, hj⟩ := Option.bind_eq_some_iff.mp hkept
  cases j with
  | obj o' =>
    dsimp only [keptPolicy] at hj
    split at hj
    · cases hj
    · next hne =>
      cases hj
      cases hshown
      refine ⟨remove_eq_self (get_eq_none_iff.mpr fun hmem => ?_), o', rfl, hne,
        rfl⟩
      have hget : (remove o' "system").get "system" = none := by
        rw [get_remove, if_pos rfl]
      exact get_eq_none_iff.mp hget ((keys_dropNulls_sublist _).subset hmem)
  | _ => cases hj; cases hshown

section
variable (hdistinct : (Json.obj json).Distinct) (hrerun : Rerunnable env json)
include hdistinct hrerun

theorem configureStats_again (h : afterTun env (beforeTun env json) = .ok out) :
    configureStats env (dropNullsMembers out) = dropNullsMembers out := by
  obtain ⟨hnodup, hget, -⟩ := get_result hdistinct h
  have hstats := hget "stats" (by decide)
  have hpolicy := hget "policy" (by decide)
  rw [get_beforeTun] at hstats
  rw [get_beforeTun, if_pos rfl] at hpolicy
  unfold statsOf at hstats
  unfold policyOf at hpolicy
  unfold Rerunnable at hrerun
  rw [configureStats_eq]
  split at hrerun
  · next hspeed =>
    rw [if_pos hspeed] at hstats hpolicy ⊢
    have hshown {v : Option Json} {o : JsonObject} (hv : v ≠ some .null) :
        (some (v.getD (.obj o))).bind shown ≠ none := by
      have hvalue : v.getD (.obj o) ≠ .null := by
        intro heq
        cases v with
        | none => cases heq
        | some v => exact hv (congrArg some heq)
      rw [Option.bind_some, shown_of_ne hvalue]
      exact Option.some_ne_none _
    rw [addMissing_eq_self, addMissing_eq_self]
    · rw [hstats]
      exact hshown hrerun.1
    · rw [addMissing_eq_self]
      · rw [hpolicy]
        exact hshown hrerun.2
      · rw [hstats]
        exact hshown hrerun.1
  · next hspeed =>
    rw [if_neg hspeed] at hstats hpolicy ⊢
    rw [remove_eq_self hstats]
    unfold dropSystem
    cases hout : (dropNullsMembers out).get "policy" with
    | none => rfl
    | some v =>
      cases v with
      | obj o =>
        obtain ⟨hsame, o', hraw, hne, rfl⟩ := remove_system_of_kept (hpolicy.symm.trans hout)
        dsimp only [Option.bind_some, asObject]
        rw [hsame, if_neg (hrerun o' hraw hne)]
        exact modify_eq_self hnodup fun v hv => Option.some_inj.mp (hout.symm.trans hv)
      | _ => rfl

variable (huids : UidsAreNoPackages env)
include huids

/-- The second run finds everything in place. -/
theorem second_run (h : afterTun env (beforeTun env json) = .ok out) :
    afterTun env (beforeTun env (dropNullsMembers out)) = .ok (dropNullsMembers out) := by
  obtain ⟨hnodup, hget, hinbounds⟩ := get_result hdistinct h
  have hbefore : beforeTun env (dropNullsMembers out) = dropNullsMembers out := by
    unfold beforeTun
    rw [configureStats_again hdistinct hrerun h]
    refine modify_eq_self hnodup fun v hv => ?_
    rw [hget "routing" (by decide), get_beforeTun, if_neg (by decide), if_neg (by decide),
      if_pos rfl] at hv
    obtain ⟨_, hmap, hshown⟩ := Option.bind_eq_some_iff.mp hv
    obtain ⟨routing, hrouting, rfl⟩ := Option.map_eq_some_iff.mp hmap
    rw [(shown_eq_some hshown).1]
    exact routed_again huids (hdistinct.2.of_get hrouting)
  rw [hbefore]
  refine afterTun_of_tun fun htun => ?_
  rcases hinbounds with ⟨hin, hany⟩ | ⟨-, hin⟩
  · have hmap : inboundsOf (dropNullsMembers out) = (inboundsOf json).map dropNulls := by
      rw [← inboundsOf_dropNulls hdistinct.1]
      unfold inboundsOf
      rw [hin, get_dropNulls hdistinct.1]
    obtain ⟨j, hj, htunj⟩ := any_eq_true.mp (hany htun)
    rw [hmap, any_eq_true]
    refine ⟨j.dropNulls, mem_map_of_mem hj, ?_⟩
    rw [isTunInbound_dropNulls ?_, htunj]
    unfold inboundsOf at hj
    cases hget : json.get "inbounds" with
    | none => rw [hget] at hj; cases hj
    | some v =>
      rw [hget] at hj
      cases v with
      | arr elems => exact (hdistinct.2.of_get hget : Json.DistinctElems elems).of_mem hj
      | _ => cases hj
  · unfold inboundsOf at hin ⊢
    rw [hin]
    dsimp only [Option.bind_some, asArray, Option.getD_some]
    rw [any_append, any_cons, isTunInbound_tunJson, Bool.true_or, Bool.or_true]

end

/-- A custom configuration comes out as it was read, without the members that are `null` and up to
the statistics, the policy, the packages of rules and the tun inbound; it fails only if the tun
inbound is needed and the template cannot be read. A run over the result changes nothing more, if no
`null` was taken for a value of the statistics or the policy. -/
theorem custom_config_passed_through (env : AppEnv) (guid raw : String) (json : JsonObject)
    (hraw : env.store.serverRaw.get guid = some raw)
    (hparse : env.platform.parseString raw = some json) (hdistinct : (Json.obj json).Distinct) :
    (∃ out, buildV2rayCustomConfig env guid = .ok (customResult guid out) ∧
      PassedThrough env json out ∧
      (UidsAreNoPackages env → Rerunnable env json → ∀ serverRaw guid' raw',
        KV.get serverRaw guid' = some raw' → env.platform.parseString raw' = some out →
        buildV2rayCustomConfig { env with store := { env.store with serverRaw } } guid' =
          .ok (customResult guid' out))) ∨
    (needTun env = true ∧ (inboundsOf json).any isTunInbound = false ∧
      env.platform.assetsReadable = false ∧
      ∃ message, buildV2rayCustomConfig env guid = .error message) := by
  rw [buildV2rayCustomConfig_eq hraw hparse]
  cases hrun : afterTun env (beforeTun env json) with
  | ok out =>
    refine .inl ⟨_, rfl, passedThrough_result hdistinct hrun, ?_⟩
    intro huids hrerun serverRaw guid' raw' hraw' hparse'
    refine (@buildV2rayCustomConfig_eq { env with store := { env.store with serverRaw } } _ _ _
      hraw' hparse').trans ?_
    -- the stages read the settings only
    change (afterTun env (beforeTun env (Json.dropNullsMembers out))).map _ = _
    rw [second_run hdistinct hrerun huids hrun]
    exact congrArg (fun out => Except.ok (customResult guid' out)) (Json.dropNullsMembers_idem out)
  | error message =>
    rcases afterTun_cases (beforeTun env json) with
      ⟨hok, -⟩ | ⟨-, -, hok⟩ | ⟨htun, hnone, hassets, -⟩
    · cases hrun.symm.trans hok
    · cases hrun.symm.trans hok
    · rw [inboundsOf_beforeTun] at hnone
      exact .inr ⟨htun, hnone, hassets, message, rfl⟩

end

/-! ## Nulls -/

/-- An application with stored custom configurations, each a text and the object it parses to. -/
def customEnv (configs : List (String × String × JsonObject)) (speed : Bool) : AppEnv :=
  { plainEnv [] [] with
    platform := { plainPlatform with parseString := fun text => (configs.map (·.2)).lookup text }
    store := { serverRaw := KV.setAll ∅ (configs.map fun e => (e.1, e.2.1)) }
    settingsBool := fun key => if key = AppConfig.prefSpeedEnabled then some speed else none
    settingsString := fun key => if key = AppConfig.prefMode then some "Proxy only" else none }

/-- The text of a configuration with one member. -/
def memberText (key value : String) : String := "\x7b\"" ++ key ++ "\":" ++ value ++ "\x7d"

/-- A configuration with the member `log` only. -/
def logEnv : AppEnv := customEnv [("log", memberText "log" "\x7b\x7d", [("log", .obj [])])] false

theorem log_passed_through :
    (∃ out, buildV2rayCustomConfig logEnv "log" = .ok (customResult "log" out) ∧
      out.get "log" = some (.obj [])) ∧
    buildV2rayCustomConfig { logEnv with store := { logEnv.store with
      serverRaw := KV.set ∅ "again" (memberText "log" "\x7b\x7d") } } "again" =
        .ok (customResult "again" [("log", .obj [])]) := by
  have hdistinct : (Json.obj [("log", .obj [])]).Distinct :=
    ⟨by decide, ⟨List.nodup_nil, trivial⟩, trivial⟩
  have huids : UidsAreNoPackages logEnv := by
    intro pkg uid h
    rw [AppEnv.resolveUid] at h
    split at h <;> cases h
    rfl
  rcases custom_config_passed_through logEnv "log" _ [("log", .obj [])] rfl rfl hdistinct with
    ⟨out, hbuild, hkept, hagain⟩ | ⟨-, -, hassets, -⟩
  · refine ⟨⟨out, hbuild, hkept.other "log" (by decide)⟩, ?_⟩
    obtain rfl : out = [("log", .obj [])] := by
      cases hbuild
      rfl
    exact hagain huids (fun _ h => by cases h) _ "again" _ rfl rfl
  · cases hassets

/-- Two runs in a row, over a text and over a text of its result, leave the member `key` with the
given values. -/
def TwoRuns (text : String) (json : JsonObject) (text' : String) (speed : Bool) (key : String)
    (first second : Option Json) : Prop :=
  ∃ out out', buildV2rayCustomConfig (customEnv [("c", text, json), ("d", text', out)] speed) "c" =
      .ok (customResult "c" out) ∧
    buildV2rayCustomConfig (customEnv [("c", text, json), ("d", text', out)] speed) "d" =
      .ok (customResult "d" out') ∧
    out.get key = first ∧ out'.get key = second

/-- A member that is `null` is lost. Inbounds that are no array are replaced. Statistics or a policy
that are `null` are taken for present in the first run and added in the second; a policy that has only
`null` members is taken for one with members in the first run and removed in the second. -/
theorem null_member_lost :
    buildV2rayCustomConfig (customEnv [("a", memberText "log" "null", [("log", .null)])] false)
      "a" = .ok (customResult "a" []) ∧
    (∃ out tun, buildV2rayCustomConfig
        { customEnv [("b", memberText "inbounds" "\x7b\x7d", [("inbounds", .obj [])])] false with
          settingsString := fun _ => none } "b" = .ok (customResult "b" out) ∧
      out.get "inbounds" = some (.arr [tun])) ∧
    TwoRuns (memberText "stats" "null") [("stats", .null)]
      (memberText "policy" (memberText "system"
        "\x7b\"statsOutboundUplink\":true,\"statsOutboundDownlink\":true\x7d"))
      true "stats" none (some (.obj [])) ∧
    TwoRuns (memberText "policy" "null") [("policy", .null)] (memberText "stats" "\x7b\x7d") true
      "policy" none (some statsPolicy) ∧
    TwoRuns (memberText "policy" (memberText "levels" "null"))
      [("policy", .obj [("levels", .null)])] (memberText "policy" "\x7b\x7d") false "policy"
      (some (.obj [])) none := by
  refine ⟨rfl, ⟨_, _, rfl, rfl⟩, ?_, ?_, ?_⟩
  · exact ⟨[("policy", statsPolicy)], _, rfl, rfl, rfl, rfl⟩
  · exact ⟨[("stats", .obj [])], _, rfl, rfl, rfl, rfl⟩
  · exact ⟨[("policy", .obj [])], _, rfl, rfl, rfl, rfl⟩

end ZeroVpn
