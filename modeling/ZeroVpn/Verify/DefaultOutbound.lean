import ZeroVpn.Core.UnifiedSpec

/-!
# The default outbound

The core sends what no rule matches to the first outbound. It is a proxy exactly if one of the
profiles that stand for the selected one can be converted; otherwise the configuration is built all
the same, and its first outbound is the template's `direct`.
-/

namespace ZeroVpn

open CoreOutboundBuilder CoreConfigContextBuilder CoreConfigManager

/-- The first outbound is made from one of the profiles; it neither connects directly nor drops. -/
def DefaultMadeFrom (env : AppEnv) (profiles : List ProfileItem) (config : V2rayConfig) : Prop :=
  ∃ o, config.outbounds.head? = some o ∧ (∃ p ∈ profiles, MadeFrom env o p) ∧
    o.protocol ≠ "freedom" ∧ o.protocol ≠ "blackhole"

section
variable {env : AppEnv} {primary : ResolvedOutbound} {routing : List ResolvedOutbound}
  {config : V2rayConfig}

theorem protocol_of_madeFrom {o : OutboundBean} (h : MadeFrom env o p) :
    o.protocol ≠ "freedom" ∧ o.protocol ≠ "blackhole" := by
  obtain ⟨o', hconvert, hsame⟩ := h
  obtain ⟨-, hprotocol⟩ := convert_protocol hconvert
  rw [hsame.protocol, hprotocol]
  cases p.configType <;> decide

theorem madeFrom_of_sameServer (h : MadeFrom env o' p) (hsame : o.SameServer o') :
    MadeFrom env o p := by
  obtain ⟨o'', hconvert, hsame'⟩ := h
  exact ⟨o'', hconvert, hsame.trans hsame'⟩

/-- The first entry adds something if one of its profiles can be converted. -/
theorem newOutbounds_eq_nil_iff (hfirst : primary.tag = AppConfig.tagProxy)
    (hpairs : convertProfiles env primary.candidates = .ok pairs) :
    newOutbounds primary [AppConfig.tagDirect, AppConfig.tagBlocked] pairs = [] ↔
      ¬TagPlan.hasOutbound env primary := by
  rw [← List.map_eq_nil_iff, TagPlan.newOutbounds_tags,
    (convertProfiles_eq_ok hpairs).1]
  constructor
  · intro hnil hout
    rcases TagPlan.entryTags_first hfirst hout with ⟨-, hne⟩ | ⟨-, hmem⟩
    · exact hne hnil
    · rw [hnil] at hmem
      cases hmem
  · intro hout
    rw [not_not.mp (mt TagPlan.hasOutbound_iff.mpr hout), TagPlan.entryTags_nil]

theorem defaultMadeFrom_iff (h : Unified env primary routing config) :
    DefaultMadeFrom env primary.candidates config ↔ TagPlan.hasOutbound env primary := by
  obtain ⟨pairs, others, hpairs, hout⟩ := h.outbounds
  cases hnew : newOutbounds primary [AppConfig.tagDirect, AppConfig.tagBlocked] pairs with
  | nil =>
    have hnone := (newOutbounds_eq_nil_iff h.first hpairs).mp hnew
    refine iff_of_false ?_ hnone
    rintro ⟨o, hhead, -, hprotocol, -⟩
    -- the list starts with the template's `direct`
    rw [hnew] at hout
    cases hcons : config.outbounds with
    | nil => rw [hcons] at hhead; cases hhead
    | cons o' rest =>
      rw [hcons] at hout hhead
      cases hhead
      cases hout with
      | cons hsame _ => exact hprotocol hsame.2.protocol
  | cons first rest =>
    have hsome : TagPlan.hasOutbound env primary := by
      by_contra hnone
      rw [(newOutbounds_eq_nil_iff h.first hpairs).mpr hnone] at hnew
      cases hnew
    refine iff_of_true ?_ hsome
    obtain ⟨p, hp, hmade⟩ := newOutbounds_madeFrom hpairs (hnew ▸ List.mem_cons_self)
    rw [hnew] at hout
    cases hcons : config.outbounds with
    | nil => rw [hcons] at hout; cases hout
    | cons o rest' =>
      rw [hcons] at hout
      cases hout with
      | cons hsame _ =>
        have hmade' := madeFrom_of_sameServer hmade hsame.2
        exact ⟨o, by rw [hcons]; rfl, ⟨p, hp, hmade'⟩, protocol_of_madeFrom hmade'⟩

/-- For a stored profile that is not a custom configuration: a successful build has a proxy as its
first outbound exactly if one of the profiles it resolves to is convertible. -/
theorem default_outbound_proxied_iff {guid : String} {profile : ProfileItem}
    (hstored : env.store.serverConfig guid = some profile) (htype : profile.configType ≠ .custom)
    (hstatus : (getV2rayConfig env guid).status = true) :
    ∃ primary config, resolveOutbound env AppConfig.tagProxy profile = some primary ∧
      (getV2rayConfig env guid).content = .unified config ∧
      (DefaultMadeFrom env primary.resolvedProfiles config ↔
        ∃ p ∈ primary.resolvedProfiles, convertible env p = true) := by
  obtain ⟨primary, routing, config, hprimary, -, hcontent, hunified⟩ :=
    getV2rayConfig_unified hstored htype hstatus
  refine ⟨primary, config, hprimary, hcontent, ?_⟩
  rw [← (resolved_of_eq_some hprimary).candidates]
  exact defaultMadeFrom_iff hunified

end

/-! ## A server and an empty group -/

/-- A phone with default settings. -/
def plainPlatform : Platform where
  sdkInt := 34
  isNativeLibraryAvailable := false
  isValidUrl _ := true
  toASCII s := .ok s
  getAllByName _ := none
  -- for patterns without special characters
  containsMatchIn pattern text := some (Text.contains text pattern)
  parseString _ := none
  getPackageUid _ := none
  fold := id
  assetsReadable := true
  randomSocksPort := 20000

/-- An application with the given profiles and rules, and default settings. -/
def plainEnv (profiles : List (String × ProfileItem)) (items : List RulesetItem) : AppEnv where
  platform := plainPlatform
  store :=
    { profileFull := KV.setAll ∅ (profiles.map fun e => (e.1, .json e.2))
      subServers := KV.set ∅ AppConfig.defaultSubscriptionId (.json (profiles.map (·.1))) }
  settingsString _ := none
  settingsBool _ := none
  routingRuleset := some (.json items)
  runtimeSocksPort := none

def vlessServer : ProfileItem where
  configType := .vless
  remarks := "server"
  server := some "example.com"
  serverPort := some "443"

/-- A policy group whose filter no server passes. -/
def emptyGroup : ProfileItem where
  configType := .policygroup
  remarks := "group"
  policyGroupFilter := some "none"

theorem vlessServer_default_proxied :
    ∃ config, (getV2rayConfig (plainEnv [("s", vlessServer)] []) "s").content = .unified config ∧
      DefaultMadeFrom (plainEnv [("s", vlessServer)] []) [vlessServer] config := by
  obtain ⟨primary, config, hprimary, hcontent, hiff⟩ :=
    @default_outbound_proxied_iff (plainEnv [("s", vlessServer)] []) "s" vlessServer rfl (by decide)
      (by decide)
  cases hprimary
  exact ⟨config, hcontent, hiff.mpr ⟨vlessServer, List.mem_cons_self, by decide⟩⟩

/-- A group that no server passes is built with success, and everything goes out directly. -/
theorem emptyGroup_default_direct :
    (plainEnv [("g", emptyGroup), ("s", vlessServer)] []).store.serverConfig "g" =
      some emptyGroup ∧
    (getV2rayConfig (plainEnv [("g", emptyGroup), ("s", vlessServer)] []) "g").status = true ∧
    ∃ config, (getV2rayConfig (plainEnv [("g", emptyGroup), ("s", vlessServer)] []) "g").content =
        .unified config ∧
      config.outbounds.map (fun o => (o.tag, o.protocol)) =
        [("direct", "freedom"), ("block", "blackhole")] ∧
      ∀ profiles, ¬DefaultMadeFrom (plainEnv [("g", emptyGroup), ("s", vlessServer)] []) profiles
        config := by
  refine ⟨rfl, by decide, _, rfl, by decide, ?_⟩
  rintro profiles ⟨o, hhead, -, hprotocol, -⟩
  cases hhead
  exact hprotocol rfl

end ZeroVpn
