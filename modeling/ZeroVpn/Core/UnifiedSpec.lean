import ZeroVpn.Core.ContextSpec
import ZeroVpn.Core.FinishSpec
import ZeroVpn.Core.TagPlan

/-!
# The configuration of a stored profile

A profile that is not a custom configuration goes through the plan. `Unified` collects what a
successful result says about the configuration in terms of the entries of its context.
-/

namespace ZeroVpn

open CoreOutboundBuilder CoreConfigContextBuilder AppConfig TagPlan

namespace CoreConfigManager

/-- A configuration built from the entries `primary :: routing` of a context. -/
structure Unified (env : AppEnv) (primary : ResolvedOutbound) (routing : List ResolvedOutbound)
    (config : V2rayConfig) : Prop where
  first : primary.tag = AppConfig.tagProxy
  others : ∀ r ∈ routing, Secondary r
  built : ∃ base st, baseConfig env primary = .ok base ∧
    buildPlan env primary routing { config := base, existingTags := base.outboundTags } = .ok st ∧
    Finished env (collectRoutingDomainRulesForDns env) primary st config

section
variable {env : AppEnv} {guid : String} {profile : ProfileItem} {primary : ResolvedOutbound}
  {routing : List ResolvedOutbound} {config : V2rayConfig}

/-- A stored profile that is not custom has a first entry, and a success is a configuration. -/
theorem getV2rayConfig_unified (hstored : env.store.serverConfig guid = some profile)
    (htype : profile.configType ≠ .custom) (hstatus : (getV2rayConfig env guid).status = true) :
    ∃ primary routing config, resolveOutbound env tagProxy profile = some primary ∧
      (build env guid).map (·.resolvedOutbounds) = some (primary :: routing) ∧
      (getV2rayConfig env guid).content = .unified config ∧ Unified env primary routing config := by
  obtain ⟨primary, routing, hprimary, hbuild, hrouting⟩ := build_of_stored hstored htype
  unfold getV2rayConfig at hstatus ⊢
  rw [hbuild] at hstatus ⊢
  dsimp only at hstatus ⊢
  cases hresult : buildResult env _ with
  | error message => rw [hresult] at hstatus; cases hstatus
  | ok result =>
    obtain ⟨config, hconfig, hresult⟩ := bind_eq_ok.mp hresult
    cases hresult
    obtain ⟨base, hbase, hconfig⟩ := bind_eq_ok.mp hconfig
    obtain ⟨st, hst, hconfig⟩ := bind_eq_ok.mp hconfig
    cases hconfig
    have hfinished := finished_finishConfig env
      { guid, resolvedOutbounds := primary :: routing
        routingDomainRules := collectRoutingDomainRulesForDns env } primary st
    exact ⟨primary, routing, _, hprimary, rfl, rfl, (resolved_of_eq_some hprimary).tag, hrouting,
      base, st, hbase, hst, hfinished⟩

/-- The outbounds of a configuration, in order: those of the first entry, those of the template,
and others. -/
theorem Unified.outbounds (h : Unified env primary routing config) :
    ∃ pairs others, convertProfiles env primary.candidates = .ok pairs ∧
      List.Forall₂ OutboundBean.SameEntry config.outbounds
        (newOutbounds primary [tagDirect, tagBlocked] pairs ++
          v2rayConfigTemplate.outbounds.tail ++ others) := by
  obtain ⟨base, st, hbase, hst, hfinished⟩ := h.built
  obtain ⟨hout, -⟩ := baseConfig_eq_ok hbase
  obtain ⟨st₁, hfirst, hrest⟩ := bind_eq_ok.mp hst
  have htags : base.outboundTags = [tagDirect, tagBlocked] := by
    rw [V2rayConfig.outboundTags, hout]
    rfl
  rw [htags] at hfirst
  rcases buildOutbounds_eq_ok hfirst with ⟨htaken, -⟩ | ⟨-, pairs, hpairs, rfl⟩
  · have hfree : primary.tag ∉ [tagDirect, tagBlocked] := by
      rw [h.first]
      decide
    exact absurd htaken hfree
  obtain ⟨more, hmore⟩ := foldlM_buildOutbounds_prefix hrest
  obtain ⟨extra, hservice⟩ := prefix_serviceOutbounds env st.config.outbounds
  refine ⟨pairs, more ++ extra, hpairs, ?_⟩
  have hfinal := hfinished.outbounds.imp fun _ _ hop => hop.entry
  rw [← hservice, ← hmore, extend_outbounds, hout, List.append_assoc _ more extra] at hfinal
  exact hfinal

/-- The configuration, seen through the plan of its tags. -/
structure Planned (env : AppEnv) (primary : ResolvedOutbound) (routing : List ResolvedOutbound)
    (plan : TagPlan) (config : V2rayConfig) : Prop where
  tags : ∀ tag, tag ∈ config.outboundTags ↔
    tag ∈ plan.tags ∨ (needsDnsOutbound env = true ∧ tag = "dns-out")
  balancers : (config.routing.balancers.getD []).map (fun b => (b.tag, b.fallbackTag)) =
    plan.balancers
  rules : ∃ outbounds front,
    (∀ tag, tag ∈ outbounds.map OutboundBean.tag ↔ tag ∈ plan.tags) ∧
    config.routing.rules = front ++ (userRules env outbounds plan.groups ++
      domesticDnsRules env (collectRoutingDomainRulesForDns env) ++
      [dnsProxyRule plan.groups]) ++ catchAllRules env primary ∧
    ∀ rule ∈ front, needsDnsOutbound env = true ∧ IsDnsOutRule rule
  sound : TagPlan.Sound (primary :: routing) plan
  /-- There is an outbound `proxy` unless the first entry is a group or has nothing to convert. -/
  proxyTag : AppConfig.tagProxy ∈ plan.tags ↔
    primary.resolvedType ≠ .policygroup ∧ hasOutbound env primary
  /-- There is a balancer for `proxy` if the first entry is a group with something to convert. -/
  proxyGroup : ∀ b, plan.groups.get AppConfig.tagProxy = some b ↔
    b = AppConfig.tagBalancer ∧ primary.resolvedType = .policygroup ∧ hasOutbound env primary
  /-- Groups have names. -/
  named : ∀ tag b, plan.groups.get tag = some b → Text.isBlank tag = false

theorem Unified.refines (h : Unified env primary routing config) :
    ∃ st, Refines st (run env (primary :: routing)) ∧ st.config.routing.rules = [] ∧
      Finished env (collectRoutingDomainRulesForDns env) primary st config := by
  obtain ⟨base, st, hbase, hst, hfinished⟩ := h.built
  obtain ⟨hout, hrouting⟩ := baseConfig_eq_ok hbase
  have hinit : Refines { config := base, existingTags := base.outboundTags } {} := by
    refine ⟨?_, rfl, ?_, ?_⟩
    · rw [V2rayConfig.outboundTags, hout]
      rfl
    · rw [hrouting]
      rfl
    · rw [hout]
      exact fun _ => .rfl
  refine ⟨st, refines_buildPlan hinit hst, ?_, hfinished⟩
  rw [buildPlan_rules hst, hrouting]
  rfl

theorem Unified.planned (h : Unified env primary routing config) :
    Planned env primary routing (run env (primary :: routing)) config := by
  obtain ⟨st, hrefines, hnorules, hfinished⟩ := h.refines
  have hsound := sound_run env (primary :: routing)
  have hothers : ∀ r ∈ routing, r.tag ≠ tagProxy := fun r hr heq =>
    (h.others r hr).tag (heq ▸ List.mem_cons_self)
  refine ⟨fun tag => ?_, ?_, ?_, hsound, proxy_mem_run h.first hothers,
    fun b => get_proxy_run h.first hothers, fun tag b hget => ?_⟩
  · rw [hfinished.tags, V2rayConfig.outboundTags, hrefines.outbounds]
  · rw [hfinished.balancers, hrefines.balancers]
  · obtain ⟨front, hrules, hfront⟩ := hfinished.rules
    rw [hnorules, hrefines.groups] at hrules
    exact ⟨st.config.outbounds, front, hrefines.outbounds, hrules, hfront⟩
  · obtain ⟨r, hr, rfl, htype⟩ := hsound.group tag b hget
    rcases List.mem_cons.mp hr with rfl | hr
    · rw [h.first]
      decide
    · exact (h.others r hr).group htype

end
end CoreConfigManager
end ZeroVpn
