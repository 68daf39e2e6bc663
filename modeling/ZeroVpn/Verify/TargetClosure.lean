import ZeroVpn.Verify.DefaultOutbound

/-!
# Targets of the routing rules

Every rule of a configuration should name an outbound or a balancer that exists, and every fallback
of a balancer an outbound. The plan of the tags decides when this is so: the selected profile must
be convertible, the items must name something, with a group as selected profile something that is
planned, and so must the fallbacks that groups configure.
-/

namespace ZeroVpn

open CoreOutboundBuilder CoreConfigContextBuilder CoreConfigManager AppConfig TagPlan List Text

/-- The tags of the balancers of a configuration. -/
def V2rayConfig.balancerTags (config : V2rayConfig) : List String :=
  (config.routing.balancers.getD []).map (·.tag)

/-- The rule has exactly one target, which is not blank and exists. -/
def Targeted (config : V2rayConfig) (rule : RulesBean) : Prop :=
  (∃ tag, rule.outboundTag = some tag ∧ rule.balancerTag = none ∧ isBlank tag = false ∧
    tag ∈ config.outboundTags) ∨
  ∃ tag, rule.outboundTag = none ∧ rule.balancerTag = some tag ∧ isBlank tag = false ∧
    tag ∈ config.balancerTags

/-- Every rule and every fallback leads somewhere. -/
structure RoutingClosed (config : V2rayConfig) : Prop where
  rules : ∀ rule ∈ config.routing.rules, Targeted config rule
  fallbacks : ∀ b ∈ config.routing.balancers.getD [], ∀ tag, b.fallbackTag = some tag →
    tag ∈ config.outboundTags

/-- What the profiles and settings have to provide, given the plan of their tags. -/
structure TargetsProvided (env : AppEnv) (primary : ResolvedOutbound)
    (routing : List ResolvedOutbound) (plan : TagPlan) : Prop where
  /-- The selected profile can be converted. -/
  selected : ∃ p ∈ primary.candidates, convertible env p = true
  /-- Every enabled item names something; with a group as primary, something in the plan. -/
  items : ∀ item ∈ env.decodeRoutingRulesets.getD [], item.enabled = true →
    isBlank item.outboundTag = false ∧
      (primary.resolvedType = .policygroup →
        item.outboundTag ∈ plan.tags ∨ (plan.groups.get item.outboundTag).isSome = true)
  /-- The fallback that the profile of a balanced group names is in the plan. -/
  fallbacks : ∀ r ∈ primary :: routing, r.resolvedType = .policygroup →
    ∀ fallback, TagPlan.configuredFallback r.profile = some fallback →
      (balancerTagOf r.tag, some fallback) ∈ plan.balancers →
      fallback ∈ plan.tags ∨ (needsDnsOutbound env = true ∧ fallback = "dns-out")

section
variable {env : AppEnv} {primary : ResolvedOutbound} {routing : List ResolvedOutbound}
  {plan : TagPlan} {config : V2rayConfig} {rule : RulesBean}

theorem targeted_outbound_iff (hout : rule.outboundTag = some tag)
    (hbal : rule.balancerTag = none) :
    Targeted config rule ↔ isBlank tag = false ∧ tag ∈ config.outboundTags := by
  constructor
  · rintro (⟨t, ht, -, hblank, hmem⟩ | ⟨t, ht, -⟩)
    · cases hout.symm.trans ht
      exact ⟨hblank, hmem⟩
    · cases hout.symm.trans ht
  · rintro ⟨hblank, hmem⟩
    exact .inl ⟨tag, hout, hbal, hblank, hmem⟩

theorem isBlank_balancerTagOf (tag : String) : isBlank (balancerTagOf tag) = false := by
  unfold balancerTagOf
  split
  · decide
  · have hpre : tagBalancerPre.toList.all isWhitespace = false := by decide
    rw [isBlank, String.toList_append, String.toList_append, all_append, all_append,
      hpre]
    rfl

/-- The target of an item's rule: the balancer of a group, `proxy` in place of a tag that no
outbound has, or the tag itself. -/
theorem userRule_target (outbounds : List OutboundBean) (groups : KV String String)
    (item : RulesetItem) :
    (∃ b, groups.get item.outboundTag = some b ∧
      (userRule env outbounds groups item).outboundTag = none ∧
      (userRule env outbounds groups item).balancerTag = some b) ∨
    (groups.get item.outboundTag = none ∧ isBlank item.outboundTag = false ∧
      item.outboundTag ∉ outbounds.map OutboundBean.tag ∧
      (userRule env outbounds groups item).outboundTag = some tagProxy ∧
      (userRule env outbounds groups item).balancerTag = none) ∨
    (groups.get item.outboundTag = none ∧
      (isBlank item.outboundTag = true ∨ item.outboundTag ∈ builtinOutboundTags ∨
        item.outboundTag ∈ outbounds.map OutboundBean.tag) ∧
      (userRule env outbounds groups item).outboundTag = some item.outboundTag ∧
      (userRule env outbounds groups item).balancerTag = none) := by
  unfold userRule retarget
  cases hget : groups.get item.outboundTag with
  | some b => exact .inl ⟨b, rfl, rfl, rfl⟩
  | none =>
    refine .inr ?_
    dsimp only
    split
    · next hmissing =>
      simp only [Bool.and_eq_true, Bool.not_eq_true', decide_eq_true_eq, all_eq_true] at hmissing
      obtain ⟨⟨hblank, -⟩, hall⟩ := hmissing
      refine .inl ⟨rfl, hblank, fun hmem => ?_, rfl, rfl⟩
      obtain ⟨o, ho, htag⟩ := mem_map.mp hmem
      exact hall o ho htag
    · next hkept =>
      refine .inr ⟨rfl, ?_, rfl, rfl⟩
      simp only [Bool.and_eq_true, Bool.not_eq_true', decide_eq_true_eq, all_eq_true,
        not_and_or, Bool.not_eq_false, not_not, not_forall] at hkept
      rcases hkept with (hblank | hbuiltin) | ⟨o, ho, htag⟩
      · exact .inl hblank
      · exact .inr (.inl hbuiltin)
      · exact .inr (.inr (htag ▸ mem_map_of_mem ho))

section
variable (h : Planned env primary routing plan config)
include h

/-- The balancer of a group exists. -/
theorem targeted_of_get (hget : plan.groups.get tag = some b) (hout : rule.outboundTag = none)
    (hbal : rule.balancerTag = some b) : Targeted config rule := by
  have hmem := h.sound.balancer tag b hget
  have htags : config.balancerTags = plan.balancers.map (·.1) := by
    rw [← h.balancers, map_map]
    rfl
  refine .inr ⟨b, hout, hbal, ?_, htags ▸ hmem⟩
  obtain ⟨e, he, rfl⟩ := mem_map.mp hmem
  obtain ⟨r, -, -, first, -, rfl⟩ := h.sound.entry e he
  exact isBlank_balancerTagOf r.tag

theorem mem_outboundTags_of_mem (hmem : tag ∈ plan.tags) :
    tag ∈ config.outboundTags :=
  (h.tags tag).mpr (.inl hmem)

theorem proxy_mem_outboundTags_iff : tagProxy ∈ config.outboundTags ↔
    primary.resolvedType ≠ .policygroup ∧ hasOutbound env primary := by
  rw [h.tags, h.proxyTag]
  exact or_iff_left fun hdns => absurd hdns.2 (by decide)

/-- A group as primary has a balancer under the tag `proxy`. -/
theorem get_proxy_of_group (hsel : hasOutbound env primary)
    (htype : primary.resolvedType = .policygroup) :
    plan.groups.get tagProxy = some tagBalancer :=
  (h.proxyGroup _).mpr ⟨rfl, htype, hsel⟩

/-- The rule for DNS queries has a target exactly if the selected profile can be converted. -/
theorem targeted_dnsProxyRule_iff :
    Targeted config (dnsProxyRule plan.groups) ↔ hasOutbound env primary := by
  unfold dnsProxyRule
  cases hget : plan.groups.get tagProxy with
  | some b => exact iff_of_true (targeted_of_get h hget rfl rfl) ((h.proxyGroup b).mp hget).2.2
  | none =>
    refine (targeted_outbound_iff rfl rfl).trans ?_
    rw [proxy_mem_outboundTags_iff h]
    constructor
    · exact fun hproxy => hproxy.2.2
    · intro hsel
      refine ⟨by decide, fun htype => ?_, hsel⟩
      cases hget.symm.trans (get_proxy_of_group h hsel htype)

/-- A tag that `retarget` leaves alone is in the plan. -/
theorem mem_tags_of_kept (hsel : hasOutbound env primary) {outbounds : List OutboundBean}
    (houtbounds : ∀ tag, tag ∈ outbounds.map OutboundBean.tag ↔ tag ∈ plan.tags)
    (hget : plan.groups.get tag = none)
    (hkept : tag ∈ builtinOutboundTags ∨ tag ∈ outbounds.map OutboundBean.tag) :
    tag ∈ plan.tags := by
  rcases hkept with hbuiltin | hmem
  · simp only [builtinOutboundTags, mem_cons, not_mem_nil, or_false] at hbuiltin
    rcases hbuiltin with rfl | rfl | rfl
    · refine h.proxyTag.mpr ⟨fun htype => ?_, hsel⟩
      cases hget.symm.trans (get_proxy_of_group h hsel htype)
    · exact h.sound.direct
    · exact h.sound.blocked
  · exact (houtbounds tag).mp hmem

/-- The rule of an item, given that the selected profile can be converted. -/
theorem targeted_userRule_iff (hsel : hasOutbound env primary)
    {outbounds : List OutboundBean}
    (houtbounds : ∀ tag, tag ∈ outbounds.map OutboundBean.tag ↔ tag ∈ plan.tags)
    (item : RulesetItem) :
    Targeted config (userRule env outbounds plan.groups item) ↔
      isBlank item.outboundTag = false ∧
        (primary.resolvedType = .policygroup →
          item.outboundTag ∈ plan.tags ∨ (plan.groups.get item.outboundTag).isSome = true) := by
  rcases userRule_target outbounds plan.groups item with
    ⟨b, hget, hout, hbal⟩ | ⟨hget, hblank, hmissing, hout, hbal⟩ | ⟨hget, hkept, hout, hbal⟩
  · refine iff_of_true (targeted_of_get h hget hout hbal) ⟨h.named _ b hget, fun _ => .inr ?_⟩
    rw [hget]
    rfl
  · rw [targeted_outbound_iff hout hbal, proxy_mem_outboundTags_iff h, hget]
    constructor
    · exact fun hproxy => ⟨hblank, fun htype => absurd htype hproxy.2.1⟩
    · rintro ⟨-, hplanned⟩
      refine ⟨by decide, fun htype => ?_, hsel⟩
      rcases hplanned htype with hmem | hsome
      · exact hmissing ((houtbounds _).mpr hmem)
      · cases hsome
  · rw [targeted_outbound_iff hout hbal]
    refine and_congr_right fun hblank => ?_
    have hplanned := mem_tags_of_kept h hsel houtbounds hget
      (hkept.resolve_left (by rw [hblank]; exact Bool.false_ne_true))
    exact iff_of_true (mem_outboundTags_of_mem h hplanned) fun _ => .inl hplanned

theorem targeted_catchAllRules (hsel : hasOutbound env primary) :
    ∀ rule ∈ catchAllRules env primary, Targeted config rule := by
  intro rule hrule
  unfold catchAllRules at hrule
  split at hrule
  · next htype =>
    have hget := get_proxy_of_group h hsel htype
    split at hrule
    · rw [mem_singleton.mp hrule]
      exact targeted_of_get h hget rfl rfl
    · rw [mem_singleton.mp hrule]
      exact targeted_of_get h hget rfl rfl
  · cases hrule

/-- The rules have targets exactly if the selected profile and the items provide them. -/
theorem rules_targeted_iff : (∀ rule ∈ config.routing.rules, Targeted config rule) ↔
    hasOutbound env primary ∧
    ∀ item ∈ env.decodeRoutingRulesets.getD [], item.enabled = true →
      isBlank item.outboundTag = false ∧
        (primary.resolvedType = .policygroup →
          item.outboundTag ∈ plan.tags ∨ (plan.groups.get item.outboundTag).isSome = true) := by
  obtain ⟨outbounds, front, houtbounds, hrules, hfront⟩ := h.rules
  rw [hrules]
  constructor
  · intro hall
    have hsel := (targeted_dnsProxyRule_iff h).mp (hall _ (by simp))
    refine ⟨hsel, fun item hitem henabled => ?_⟩
    have hmem : userRule env outbounds plan.groups item ∈ userRules env outbounds plan.groups :=
      mem_map_of_mem (mem_filter.mpr ⟨hitem, henabled⟩)
    exact (targeted_userRule_iff h hsel houtbounds item).mp (hall _ (by simp [hmem]))
  · rintro ⟨hsel, hitems⟩ rule hrule
    simp only [mem_append, mem_singleton] at hrule
    rcases hrule with (hrule | (hrule | hrule) | rfl) | hrule
    · obtain ⟨hneeds, hout, hbal⟩ := hfront rule hrule
      exact (targeted_outbound_iff hout hbal).mpr
        ⟨by decide, (h.tags _).mpr (.inr ⟨hneeds, rfl⟩)⟩
    · obtain ⟨item, hitem, rfl⟩ := mem_map.mp hrule
      obtain ⟨hitem, henabled⟩ := mem_filter.mp hitem
      exact (targeted_userRule_iff h hsel houtbounds item).mpr (hitems item hitem henabled)
    · obtain ⟨hout, hbal⟩ := mem_domesticDnsRules env hrule
      exact (targeted_outbound_iff hout hbal).mpr
        ⟨by decide, mem_outboundTags_of_mem h h.sound.direct⟩
    · exact (targeted_dnsProxyRule_iff h).mpr hsel
    · exact targeted_catchAllRules h hsel rule hrule

/-- The fallbacks exist exactly if those that groups configure do: a member always exists. -/
theorem fallbacks_iff : (∀ b ∈ config.routing.balancers.getD [], ∀ tag, b.fallbackTag = some tag →
      tag ∈ config.outboundTags) ↔
    ∀ r ∈ primary :: routing, r.resolvedType = .policygroup →
      ∀ fallback, configuredFallback r.profile = some fallback →
        (balancerTagOf r.tag, some fallback) ∈ plan.balancers →
        fallback ∈ plan.tags ∨ (needsDnsOutbound env = true ∧ fallback = "dns-out") := by
  have hbalancers := h.balancers
  constructor
  · intro hall r _ _ fallback _ hmem
    rw [← hbalancers] at hmem
    obtain ⟨b, hb, heq⟩ := mem_map.mp hmem
    exact (h.tags fallback).mp (hall b hb fallback (congrArg Prod.snd heq))
  · intro hall b hb tag hfallback
    have hmem : (b.tag, b.fallbackTag) ∈ plan.balancers := hbalancers ▸ mem_map_of_mem hb
    obtain ⟨r, hr, htype, first, hfirst, heq⟩ := h.sound.entry _ hmem
    have htag : groupFallbackTag r.profile first = some tag :=
      (congrArg Prod.snd heq).symm.trans hfallback
    rcases groupFallbackTag_eq_some htag with hconf | rfl
    · refine (h.tags tag).mpr (hall r hr htype tag hconf ?_)
      rw [heq, htag] at hmem
      exact hmem
    · exact mem_outboundTags_of_mem h hfirst

theorem closed_iff_provided : RoutingClosed config ↔ TargetsProvided env primary routing plan := by
  constructor
  · rintro ⟨hrules, hfallbacks⟩
    obtain ⟨hsel, hitems⟩ := (rules_targeted_iff h).mp hrules
    exact ⟨hsel, hitems, (fallbacks_iff h).mp hfallbacks⟩
  · rintro ⟨hsel, hitems, hfallbacks⟩
    exact ⟨(rules_targeted_iff h).mpr ⟨hsel, hitems⟩, (fallbacks_iff h).mpr hfallbacks⟩

end

/-- Without groups it is enough that the selected profile can be converted and items name
something. -/
theorem targetsProvided_iff_of_no_group
    (hgroups : ∀ r ∈ primary :: routing, r.resolvedType ≠ .policygroup) :
    TargetsProvided env primary routing plan ↔
      (∃ p ∈ primary.candidates, convertible env p = true) ∧
      ∀ item ∈ env.decodeRoutingRulesets.getD [], item.enabled = true →
        isBlank item.outboundTag = false := by
  constructor
  · exact fun h => ⟨h.selected, fun item hitem henabled => (h.items item hitem henabled).1⟩
  · rintro ⟨hsel, hitems⟩
    refine ⟨hsel, fun item hitem henabled => ⟨hitems item hitem henabled, fun htype => ?_⟩,
      fun r hr htype => absurd htype (hgroups r hr)⟩
    exact absurd htype (hgroups primary mem_cons_self)

/-- For a stored profile that is not a custom configuration: every target of a successful build
exists exactly if the profiles and settings provide it. -/
theorem routing_closed_iff {guid : String} {profile : ProfileItem}
    (hstored : env.store.serverConfig guid = some profile) (htype : profile.configType ≠ .custom)
    (hstatus : (getV2rayConfig env guid).status = true) :
    ∃ primary routing config,
      (build env guid).map (·.resolvedOutbounds) = some (primary :: routing) ∧
      (getV2rayConfig env guid).content = .unified config ∧
      (RoutingClosed config ↔
        TargetsProvided env primary routing (TagPlan.run env (primary :: routing))) := by
  obtain ⟨primary, routing, config, -, hentries, hcontent, hunified⟩ :=
    getV2rayConfig_unified hstored htype hstatus
  exact ⟨primary, routing, config, hentries, hcontent, closed_iff_provided hunified.planned⟩

theorem RoutingClosed.outboundTag_mem (h : RoutingClosed config)
    (hrule : rule ∈ config.routing.rules) (hout : rule.outboundTag = some tag) :
    tag ∈ config.outboundTags := by
  rcases h.rules rule hrule with ⟨t, ht, -, -, hmem⟩ | ⟨t, ht, -⟩
  · cases hout.symm.trans ht
    exact hmem
  · cases hout.symm.trans ht

end

/-! ## A server and a group with a rule -/

def ruleTo (tag : String) : RulesetItem where
  domain := some ["domain:example.org"]
  outboundTag := tag

theorem vlessServer_routing_closed :
    ∃ config, (getV2rayConfig (plainEnv [("s", vlessServer)] [ruleTo "direct"]) "s").content =
        .unified config ∧ RoutingClosed config := by
  obtain ⟨primary, routing, config, hentries, hcontent, hiff⟩ :=
    @routing_closed_iff (plainEnv [("s", vlessServer)] [ruleTo "direct"]) "s" vlessServer rfl
      (by decide) (by decide)
  cases hentries
  refine ⟨config, hcontent, hiff.mpr ((targetsProvided_iff_of_no_group ?_).mpr ⟨?_, ?_⟩)⟩
  · decide
  · exact ⟨vlessServer, mem_cons_self, by decide⟩
  · decide

/-- A policy group of all servers. -/
def serverGroup : ProfileItem where
  configType := .policygroup
  remarks := "group"

/-- With a group selected, a rule for a tag without profile is sent to `proxy`, which does not
exist. -/
theorem serverGroup_rule_dangles :
    (plainEnv [("g", serverGroup), ("s", vlessServer)] [ruleTo "missing"]).store.serverConfig "g" =
      some serverGroup ∧
    (getV2rayConfig (plainEnv [("g", serverGroup), ("s", vlessServer)] [ruleTo "missing"])
      "g").status = true ∧
    ∃ config, (getV2rayConfig (plainEnv [("g", serverGroup), ("s", vlessServer)]
        [ruleTo "missing"]) "g").content = .unified config ∧
      (config.routing.rules.head?.bind (·.outboundTag)) = some "proxy" ∧
      config.outboundTags = ["proxy-proxy-1-server", "direct", "block"] ∧
      ¬RoutingClosed config := by
  refine ⟨rfl, by decide, _, rfl, by decide, by decide, fun hclosed => ?_⟩
  have hmem := hclosed.outboundTag_mem mem_cons_self rfl
  exact absurd hmem (by decide)

end ZeroVpn
