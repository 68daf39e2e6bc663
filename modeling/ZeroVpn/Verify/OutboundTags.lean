import ZeroVpn.Core.BalancerSpec
import ZeroVpn.Verify.DefaultOutbound

/-!
# Distinct tags

The builder checks every tag of the plan against those it has given out, so that the outbounds of
the plan have distinct tags; a balancer whose tag is taken is left out. The DNS outbound is added
later and only looks for an outbound of its own protocol: `outbound_tags_distinct_iff`.
-/

namespace ZeroVpn

open CoreOutboundBuilder CoreConfigContextBuilder CoreConfigManager

section
variable {env : AppEnv} {guid : String} {profile : ProfileItem} {primary : ResolvedOutbound}
  {routing : List ResolvedOutbound} {list : List OutboundBean} {lists : List (List OutboundBean)}
  {st : BuildState} {config : V2rayConfig}

theorem dnsOut_mem_planned_iff
    (h : Emission env templateTags (primary :: routing) (list :: lists)) :
    "dns-out" ∈ (plannedOutbounds list lists).map (·.tag) ↔
      "dns-out" ∈ (TagPlan.addedTags env templateTags (primary :: routing)).flatten := by
  have htemplate : "dns-out" ∉ v2rayConfigTemplate.outbounds.tail.map (·.tag) := by decide
  have hsplit : "dns-out" ∈ (plannedOutbounds list lists).map (·.tag) ↔
      "dns-out" ∈ (list :: lists).flatten.map (·.tag) ∨
        "dns-out" ∈ v2rayConfigTemplate.outbounds.tail.map (·.tag) := by
    simp only [List.mem_map, mem_plannedOutbounds, or_and_right, exists_or]
  rw [hsplit, or_iff_left htemplate, h.flatten_tags]

theorem outboundTags_nodup_iff (h : Emitted env primary routing list lists st config) :
    config.outboundTags.Nodup ↔ (needsDnsOutbound env = true →
      "dns-out" ∉ (TagPlan.addedTags env templateTags (primary :: routing)).flatten) := by
  have hnodup := plannedOutbounds_nodup h.emission
  rw [h.outboundTags, ← dnsOut_mem_planned_iff h.emission]
  cases needsDnsOutbound env with
  | false => simpa using hnodup
  | true =>
    rw [if_pos rfl, ← List.concat_eq_append, List.nodup_concat]
    simp [hnodup]

/-- The outbounds have distinct tags, and so have the balancers, exactly if no outbound of the plan
is called `dns-out` where a setting asks for the DNS outbound. -/
theorem outbound_tags_distinct_iff (hstored : env.store.serverConfig guid = some profile)
    (htype : profile.configType ≠ .custom) (hstatus : (getV2rayConfig env guid).status = true) :
    ∃ config, (getV2rayConfig env guid).content = .unified config ∧
      ((config.outboundTags.Nodup ∧ (config.balancerList.map (·.tag)).Nodup) ↔
        (needsDnsOutbound env = true →
          "dns-out" ∉ (TagPlan.addedTags env templateTags (planOf env guid)).flatten)) := by
  obtain ⟨primary, routing, list, lists, st, config, -, hplan, hstate, hcontent, hemitted⟩ :=
    getV2rayConfig_emitted hstored htype hstatus
  refine ⟨config, hcontent, ?_⟩
  have hbalancers : (config.balancerList.map (·.tag)).Nodup := by
    rw [V2rayConfig.balancerList, hemitted.balancers]
    exact (balanced_of_planState hstate).nodup
  rw [and_iff_left hbalancers, hplan]
  exact outboundTags_nodup_iff hemitted

end

/-! ## A server called like the DNS outbound -/

def dnsOutServer : ProfileItem := { vlessServer with remarks := "dns-out" }

def dnsOutRuleItem : RulesetItem where
  domain := some ["domain:example.org"]
  outboundTag := "dns-out"

/-- An application with the two servers, a rule that sends a domain to the second one, and local DNS
switched on or off. -/
def dnsOutEnv (localDns : Bool) : AppEnv :=
  { plainEnv [("s", vlessServer), ("d", dnsOutServer)] [dnsOutRuleItem] with
    settingsBool := fun key =>
      if key = AppConfig.prefLocalDnsEnabled then some localDns else none }

theorem dnsOut_tags_not_distinct :
    ∃ config, (getV2rayConfig (dnsOutEnv true) "s").content = .unified config ∧
      ¬config.outboundTags.Nodup := by
  obtain ⟨primary, routing, list, lists, st, config, -, hplan, -, hcontent, hemitted⟩ :=
    @getV2rayConfig_emitted (dnsOutEnv true) "s" vlessServer rfl (by decide) (by decide)
  refine ⟨config, hcontent, fun hnodup => ?_⟩
  refine (outboundTags_nodup_iff hemitted).mp hnodup rfl ?_
  rw [← hplan]
  decide

theorem dnsOut_tags_distinct_without_localDns :
    ∃ config, (getV2rayConfig (dnsOutEnv false) "s").content = .unified config ∧
      config.outboundTags.Nodup ∧ (config.balancerList.map (·.tag)).Nodup := by
  obtain ⟨config, hcontent, hiff⟩ :=
    @outbound_tags_distinct_iff (dnsOutEnv false) "s" vlessServer rfl (by decide) (by decide)
  exact ⟨config, hcontent, hiff.mpr fun h => absurd h (by decide)⟩

end ZeroVpn
