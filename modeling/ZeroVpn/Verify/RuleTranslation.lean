import ZeroVpn.Verify.DefaultOutbound

/-!
# What a rule matches

Ruleset items and rules of the core are read as conditions on a connection: all conditions that are
present must hold. `ruleMatches_userRule_iff` compares the rule of an item with the item: the
translation keeps every condition except that on the process, which it keeps only where process
routing can be used and one of the packages is installed.
-/

namespace ZeroVpn

open CoreConfigManager

/-- A connection as the core sees it. -/
structure Connection where
  domain : Option String
  ip : Option String
  port : Nat
  network : String
  protocol : Option String
  inboundTag : String
  uid : String

/-- How the core reads the entries of the conditions. The lists of the reduced data file are those
of the full one. -/
structure Matcher where
  domain : String → Connection → Prop
  ip : String → Connection → Prop
  port : String → Connection → Prop
  network : String → Connection → Prop
  protocol : String → Connection → Prop
  geoip : ∀ entry c, ip (extGeoip entry) c ↔ ip entry c

/-- A list of alternatives; no list or an empty one is no condition. -/
def ListCondition {α : Type} (m : α → Prop) (entries : Option (List α)) : Prop :=
  entries.getD [] ≠ [] → ∃ e ∈ entries.getD [], m e

/-- A condition in one text; no text or an empty one is no condition. -/
def TextCondition (m : String → Prop) (text : Option String) : Prop :=
  Text.orEmpty text ≠ "" → m (Text.orEmpty text)

/-- The conditions that items and rules share, the process apart. -/
structure Conditions (m : Matcher) (c : Connection) (domain ip : Option (List String))
    (port network : Option String) (protocol : Option (List String)) : Prop where
  domain : ListCondition (m.domain · c) domain
  ip : ListCondition (m.ip · c) ip
  port : TextCondition (m.port · c) port
  network : TextCondition (m.network · c) network
  protocol : ListCondition (m.protocol · c) protocol

namespace RulesBean

/-- The core applies the rule to the connection: processes are given by their user IDs. -/
structure Matches (m : Matcher) (c : Connection) (rule : RulesBean) : Prop where
  conditions : Conditions m c rule.domain rule.ip rule.port rule.network rule.protocol
  inboundTag : ListCondition (· = c.inboundTag) rule.inboundTag
  process : ListCondition (· = c.uid) rule.process

end RulesBean

namespace RulesetItem

/-- The connection satisfies the conditions of the item, the process apart. -/
def Others (m : Matcher) (c : Connection) (item : RulesetItem) : Prop :=
  Conditions m c item.domain item.ip item.port item.network item.protocol

/-- The connection comes from one of the packages. -/
def Process (env : AppEnv) (c : Connection) (item : RulesetItem) : Prop :=
  ListCondition (fun pkg => env.resolveUid pkg = some c.uid) item.process

/-- Process routing can be used and one of the packages is installed. -/
def keepsProcess (env : AppEnv) (item : RulesetItem) : Bool :=
  env.canUseProcessRouting && (item.process.getD []).any fun pkg => (env.resolveUid pkg).isSome

end RulesetItem

section
variable {env : AppEnv} {m : Matcher} {c : Connection}

theorem listCondition_map {p : α → Prop} {q : β → Prop} {f : β → α} (h : ∀ b, p (f b) ↔ q b)
    (entries : Option (List β)) :
    ListCondition p (entries.map (·.map f)) ↔ ListCondition q entries := by
  cases entries with
  | none => simp [ListCondition]
  | some l => simp [ListCondition, h]

theorem listCondition_none (p : α → Prop) : ListCondition p none :=
  fun h => absurd rfl h

theorem mem_packageNamesToUids :
    uid ∈ env.packageNamesToUids packages ↔ ∃ pkg ∈ packages, env.resolveUid pkg = some uid :=
  List.mem_filterMap

theorem packageNamesToUids_eq_nil_iff {packages : List String} :
    env.packageNamesToUids packages = [] ↔
      (packages.any fun pkg => (env.resolveUid pkg).isSome) = false := by
  unfold AppEnv.packageNamesToUids
  simp

/-- The entries of a process condition that is kept are the user IDs of the packages. -/
theorem listCondition_ruleProcess (item : RulesetItem) :
    ListCondition (· = c.uid) (ruleProcess env item.process) ↔
      (item.keepsProcess env = true → item.Process env c) := by
  unfold ruleProcess RulesetItem.keepsProcess RulesetItem.Process
  cases env.canUseProcessRouting with
  | false => exact iff_of_true (listCondition_none _) nofun
  | true =>
    cases item.process with
    | none => exact iff_of_true (listCondition_none _) nofun
    | some packages =>
      dsimp only [Option.bind_some, Option.getD_some]
      by_cases hpackages : packages = []
      · rw [hpackages]
        exact iff_of_true (listCondition_none _) nofun
      rw [if_neg hpackages]
      by_cases huids : env.packageNamesToUids packages = []
      · rw [if_pos huids, packageNamesToUids_eq_nil_iff.mp huids]
        exact iff_of_true (listCondition_none _) nofun
      · rw [if_neg huids]
        have hkept : (packages.any fun pkg => (env.resolveUid pkg).isSome) = true :=
          Bool.not_eq_false _ ▸ mt packageNamesToUids_eq_nil_iff.mpr huids
        constructor
        · intro h _ _
          obtain ⟨uid, huid, rfl⟩ := h huids
          exact mem_packageNamesToUids.mp huid
        · intro h _
          exact ⟨c.uid, mem_packageNamesToUids.mpr (h hkept hpackages), rfl⟩

/-- The rule of an item but for its target. -/
theorem userRule_eq (outbounds : List OutboundBean) (groups : KV String String)
    (item : RulesetItem) : ∃ outboundTag balancerTag, userRule env outbounds groups item =
      { ip := item.ip.map (·.map extGeoip), domain := item.domain
        process := ruleProcess env item.process, outboundTag, balancerTag, port := item.port
        network := item.network, protocol := item.protocol } := by
  unfold userRule retarget toRulesBean
  split
  · exact ⟨_, _, rfl⟩
  · split <;> exact ⟨_, _, rfl⟩

/-- The rule of an item matches the connections that satisfy the item's conditions; the process
counts only where it is kept. -/
theorem matches_userRule_iff (outbounds : List OutboundBean) (groups : KV String String)
    (item : RulesetItem) :
    (userRule env outbounds groups item).Matches m c ↔
      item.Others m c ∧ (item.keepsProcess env = true → item.Process env c) := by
  obtain ⟨outboundTag, balancerTag, heq⟩ := @userRule_eq env outbounds groups item
  rw [heq, ← listCondition_ruleProcess]
  have hip := listCondition_map (p := (m.ip · c)) (q := (m.ip · c)) (fun e => m.geoip e c) item.ip
  constructor
  · rintro ⟨⟨hdomain, hip', hport, hnetwork, hprotocol⟩, -, hprocess⟩
    exact ⟨⟨hdomain, hip.mp hip', hport, hnetwork, hprotocol⟩, hprocess⟩
  · rintro ⟨⟨hdomain, hip', hport, hnetwork, hprotocol⟩, hprocess⟩
    exact ⟨⟨hdomain, hip.mpr hip', hport, hnetwork, hprotocol⟩, listCondition_none _, hprocess⟩

/-- The rules that `configureRouting` appends stand for the enabled items, in their order. Each
matches the connections that satisfy its item's conditions on domain, address, port, network and
protocol, and on the process where that is kept. -/
theorem configureRouting_translates (env : AppEnv) (groups : KV String String)
    (config : V2rayConfig) :
    ∃ rules, (configureRouting env groups config).routing.rules = config.routing.rules ++ rules ∧
      List.Forall₂ (fun (rule : RulesBean) (item : RulesetItem) =>
          ∀ (m : Matcher) (c : Connection), rule.Matches m c ↔
            item.Others m c ∧ (item.keepsProcess env = true → item.Process env c))
        rules ((env.decodeRoutingRulesets.getD []).filter (·.enabled)) := by
  refine ⟨userRules env config.outbounds groups, ?_, ?_⟩
  · rw [configureRouting_eq]
  · unfold userRules
    rw [List.forall₂_map_left_iff]
    exact List.forall₂_same.mpr fun item _ m c => matches_userRule_iff _ _ item

end

/-! ## Dropped processes -/

/-- A rule for one application. -/
def packageItem : RulesetItem where
  process := some ["com.example.app"]
  outboundTag := AppConfig.tagDirect

/-- A phone without that application; process routing can be used if `routeOnly` is set. -/
def routeOnlyEnv (routeOnly : Bool) : AppEnv :=
  { plainEnv [] [packageItem] with
    settingsBool := fun key =>
      if key = AppConfig.prefRouteOnlyEnabled then some routeOnly else none }

/-- A core that accepts every entry. -/
def lenientMatcher : Matcher where
  domain _ _ := True
  ip _ _ := True
  port _ _ := True
  network _ _ := True
  protocol _ _ := True
  geoip _ _ := .rfl

/-- A connection of another application. -/
def otherConnection : Connection where
  domain := some "example.org"
  ip := none
  port := 443
  network := "tcp"
  protocol := some "tls"
  inboundTag := "tun"
  uid := "10001"

/-- The item becomes a rule for every connection, also one of another application. -/
def BroadensPackageItem (env : AppEnv) : Prop :=
  (configureRouting env ∅ v2rayConfigTemplate).routing.rules =
    [{ outboundTag := some AppConfig.tagDirect }] ∧
  RulesBean.Matches lenientMatcher otherConnection { outboundTag := some AppConfig.tagDirect } ∧
  ¬packageItem.Process env otherConnection

theorem broadensPackageItem (routeOnly : Bool) : BroadensPackageItem (routeOnlyEnv routeOnly) := by
  refine ⟨by cases routeOnly <;> rfl, ?_, fun hprocess => ?_⟩
  · exact ⟨⟨listCondition_none _, listCondition_none _, fun h => absurd rfl h,
      fun h => absurd rfl h, listCondition_none _⟩, listCondition_none _, listCondition_none _⟩
  · obtain ⟨pkg, hpkg, huid⟩ := hprocess (List.cons_ne_nil _ _)
    cases List.mem_singleton.mp hpkg
    cases huid

/-- This happens where process routing cannot be used, and where it can but the application is not
installed. -/
theorem packageItem_broadened :
    ((routeOnlyEnv false).canUseProcessRouting = false ∧
      BroadensPackageItem (routeOnlyEnv false)) ∧
    (routeOnlyEnv true).canUseProcessRouting = true ∧ BroadensPackageItem (routeOnlyEnv true) :=
  ⟨⟨by decide, broadensPackageItem false⟩, by decide, broadensPackageItem true⟩

end ZeroVpn
