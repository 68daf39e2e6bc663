import ZeroVpn.Core.EmissionSpec
import ZeroVpn.Core.UnifiedSpec

/-!
# The emission behind a configuration

A stored profile that is not a custom configuration is built exactly if the assets can be read and
its plan has an emission; `Emitted` says how the finished configuration comes from the emission.
-/

namespace ZeroVpn

open CoreOutboundBuilder CoreConfigContextBuilder List

namespace CoreConfigManager

/-- The tags of the template's outbounds that stay. -/
def templateTags : List String := [AppConfig.tagDirect, AppConfig.tagBlocked]

/-- The entries that a configuration is built from. -/
def planOf (env : AppEnv) (guid : String) : List ResolvedOutbound :=
  ((build env guid).map (·.resolvedOutbounds)).getD []

/-- The outbounds of the plan and of the template. -/
def plannedOutbounds (list : List OutboundBean) (lists : List (List OutboundBean)) :
    List OutboundBean :=
  list ++ v2rayConfigTemplate.outbounds.tail ++ lists.flatten

/-- The state of the builder after the plan. -/
def planState (env : AppEnv) (guid : String) : Except String BuildState :=
  match planOf env guid with
  | [] => .error "resolvedOutbounds must not be empty for a non-CUSTOM context"
  | primary :: routing => do
    let config ← baseConfig env primary
    buildPlan env primary routing { config, existingTags := config.outbounds.map (·.tag) }

/-- A configuration finished from the state `st` and an emission: `list` is what the first entry
adds. -/
structure Emitted (env : AppEnv) (primary : ResolvedOutbound) (routing : List ResolvedOutbound)
    (list : List OutboundBean) (lists : List (List OutboundBean)) (st : BuildState)
    (config : V2rayConfig) : Prop where
  balancers : config.routing.balancers = st.config.routing.balancers
  emission : Emission env templateTags (primary :: routing) (list :: lists)
  outbounds : Forall₂ OutboundBean.SameHop config.outbounds
    (serviceOutbounds env (plannedOutbounds list lists))
  hosts : ∃ hosts, config.dns.bind (·.hosts) = some hosts ∧
    ∀ domain, hosts.get domain =
      ((buildDnsHostsFromRoutingRules env (collectRoutingDomainRulesForDns env)).get domain).or
        (if resolvesServers env = true ∧
            ∃ o ∈ serviceOutbounds env (plannedOutbounds list lists), dials domain o
          then resolvedHost env domain else none)

section
variable {env : AppEnv} {guid : String} {profile : ProfileItem}

theorem baseConfig_isOk :
    (∃ base, baseConfig env primary = .ok base) ↔ env.platform.assetsReadable = true := by
  unfold baseConfig initV2rayConfig
  cases env.platform.assetsReadable <;> cases needTun env <;>
    simp [bind, Except.bind, pure, Except.pure]

theorem outboundTags_of_baseConfig {base : V2rayConfig} (h : baseConfig env primary = .ok base) :
    base.outbounds.map (·.tag) = templateTags := by
  rw [(baseConfig_eq_ok h).1]
  rfl

/-- The outbounds of a configuration, whatever plan it is built from. -/
theorem emission_of_buildUnifiedConfig {context : CoreConfigContext} {config : V2rayConfig}
    (h : buildUnifiedConfig env context = .ok config) :
    ∃ primary routing list lists, context.resolvedOutbounds = primary :: routing ∧
      Emission env templateTags (primary :: routing) (list :: lists) ∧
      Forall₂ OutboundBean.SameHop config.outbounds
        (serviceOutbounds env (plannedOutbounds list lists)) := by
  unfold buildUnifiedConfig at h
  cases hplan : context.resolvedOutbounds with
  | nil => rw [hplan] at h; cases h
  | cons primary routing =>
    rw [hplan] at h
    obtain ⟨base, hbase, h⟩ := bind_eq_ok.mp h
    obtain ⟨st, hst, h⟩ := bind_eq_ok.mp h
    cases h
    obtain ⟨list, lists, hemission, hout⟩ := emission_of_buildPlan hst
    rw [outboundTags_of_baseConfig hbase] at hemission
    rw [(baseConfig_eq_ok hbase).1] at hout
    refine ⟨primary, routing, list, lists, rfl, hemission, ?_⟩
    rw [plannedOutbounds, ← hout]
    exact (finished_finishConfig env context primary st).outbounds

theorem getV2rayConfig_emitted (hstored : env.store.serverConfig guid = some profile)
    (htype : profile.configType ≠ .custom) (hstatus : (getV2rayConfig env guid).status = true) :
    ∃ primary routing list lists st config,
      resolveOutbound env AppConfig.tagProxy profile = some primary ∧
      planOf env guid = primary :: routing ∧ planState env guid = .ok st ∧
      (getV2rayConfig env guid).content = .unified config ∧
      Emitted env primary routing list lists st config := by
  obtain ⟨primary, routing, config, hprimary, hentries, hcontent, hunified⟩ :=
    getV2rayConfig_unified hstored htype hstatus
  obtain ⟨base, st, hbase, hst, hfinished⟩ := hunified.built
  have hplan : planOf env guid = primary :: routing := by rw [planOf, hentries]; rfl
  have hstate : planState env guid = .ok st := by
    rw [planState, hplan]
    exact bind_eq_ok.mpr ⟨base, hbase, hst⟩
  obtain ⟨list, lists, hemission, hout⟩ := emission_of_buildPlan hst
  rw [V2rayConfig.outboundTags, outboundTags_of_baseConfig hbase] at hemission
  rw [(baseConfig_eq_ok hbase).1] at hout
  obtain ⟨hosts, hdns, hget⟩ := hfinished.dns
  refine ⟨primary, routing, list, lists, st, config, hprimary, hplan, hstate, hcontent,
    hfinished.balancers, hemission, ?_, hosts, hdns.hosts, ?_⟩
  · rw [plannedOutbounds, ← hout]
    exact hfinished.outbounds
  · rw [plannedOutbounds, ← hout]
    exact hget

/-- Success: the assets can be read, and no profile of the plan raises. -/
theorem status_iff_tried (hstored : env.store.serverConfig guid = some profile)
    (htype : profile.configType ≠ .custom) :
    (getV2rayConfig env guid).status = true ↔ env.platform.assetsReadable = true ∧
      ∀ p ∈ TagPlan.triedProfiles env templateTags (planOf env guid), ∃ o, convert env p = .ok o := by
  obtain ⟨primary, routing, hprimary, hbuild, hrouting⟩ := build_of_stored hstored htype
  rw [← exists_emission_iff, ← @baseConfig_isOk env primary]
  unfold planOf getV2rayConfig
  rw [hbuild]
  dsimp only [Option.map_some, Option.getD_some]
  constructor
  · intro hstatus
    cases hresult : buildResult env _ with
    | error message => rw [hresult] at hstatus; cases hstatus
    | ok result =>
      obtain ⟨config, hconfig, -⟩ := bind_eq_ok.mp hresult
      obtain ⟨base, hbase, hconfig⟩ := bind_eq_ok.mp hconfig
      obtain ⟨st, hst, -⟩ := bind_eq_ok.mp hconfig
      obtain ⟨list, lists, hemission, -⟩ := emission_of_buildPlan hst
      rw [outboundTags_of_baseConfig hbase] at hemission
      exact ⟨⟨base, hbase⟩, _, hemission⟩
  · rintro ⟨⟨base, hbase⟩, lists, hemission⟩
    rw [← outboundTags_of_baseConfig hbase] at hemission
    obtain ⟨st, hst⟩ := @buildPlan_of_emission env lists
      { config := base, existingTags := base.outbounds.map (·.tag) } primary routing hemission
    obtain ⟨config, hconfig⟩ : ∃ config, buildUnifiedConfig env
        { guid, resolvedOutbounds := primary :: routing
          routingDomainRules := collectRoutingDomainRulesForDns env } = .ok config :=
      ⟨_, bind_eq_ok.mpr ⟨base, hbase, bind_eq_ok.mpr ⟨st, hst, rfl⟩⟩⟩
    unfold buildResult
    rw [hconfig]
    rfl

end

/-! ## The outbounds of the plan -/

section
variable {env : AppEnv} {primary : ResolvedOutbound} {routing : List ResolvedOutbound}
  {list : List OutboundBean} {lists : List (List OutboundBean)} {st : BuildState}
  {config : V2rayConfig}

theorem mem_plannedOutbounds : o ∈ plannedOutbounds list lists ↔
    o ∈ (list :: lists).flatten ∨ o ∈ v2rayConfigTemplate.outbounds.tail := by
  simp only [plannedOutbounds, mem_append, flatten_cons]
  tauto

/-- The outbounds of the plan have distinct tags. -/
theorem plannedOutbounds_nodup
    (h : Emission env templateTags (primary :: routing) (list :: lists)) :
    ((plannedOutbounds list lists).map (·.tag)).Nodup := by
  obtain ⟨hnodup, hfree⟩ := h.fresh
  have htemplate : v2rayConfigTemplate.outbounds.tail.map (·.tag) = templateTags := rfl
  have hperm : ((plannedOutbounds list lists).map (·.tag)).Perm
      (templateTags ++ (list :: lists).flatten.map (·.tag)) := by
    simp only [plannedOutbounds, map_append, flatten_cons, htemplate]
    exact perm_append_comm.append_right _
  rw [hperm.nodup_iff]
  refine nodup_append.mpr ⟨by decide, hnodup, ?_⟩
  rintro t ht _ ht' rfl
  exact hfree t ht' ht

theorem protocol_of_mem_plannedOutbounds
    (h : Emission env templateTags (primary :: routing) (list :: lists)) {o : OutboundBean}
    (ho : o ∈ plannedOutbounds list lists) : o.protocol ≠ "dns" := by
  rcases mem_plannedOutbounds.mp ho with ho | ho
  · obtain ⟨p, -, o', hconvert, hsame⟩ := exists_right_of_forall₂ h.madeFrom ho
    rw [hsame.protocol, (convert_protocol hconvert).2]
    cases p.configType <;> decide
  · have htemplate : ∀ o ∈ v2rayConfigTemplate.outbounds.tail, o.protocol ≠ "dns" := by decide
    exact htemplate o ho

theorem serviceOutbounds_planned
    (h : Emission env templateTags (primary :: routing) (list :: lists)) :
    serviceOutbounds env (plannedOutbounds list lists) = plannedOutbounds list lists ++
      if needsDnsOutbound env then [dnsOutbound] else [] := by
  have hnone : ¬(plannedOutbounds list lists).any
      (fun e => e.protocol = "dns" && e.tag = "dns-out") = true := by
    simp only [any_eq_true, Bool.and_eq_true, decide_eq_true_eq, not_exists, not_and]
    exact fun o ho hdns => absurd hdns (protocol_of_mem_plannedOutbounds h ho)
  unfold serviceOutbounds withDnsOutbound
  split
  · rfl
  · exact (append_nil _).symm

/-- The tags of the configuration, up to their order. -/
theorem Emitted.outboundTags (h : Emitted env primary routing list lists st config) :
    config.outboundTags = (plannedOutbounds list lists).map (·.tag) ++
      if needsDnsOutbound env then ["dns-out"] else [] := by
  have htags := map_tag_of_forall₂ (h.outbounds.imp fun _ _ hop => hop.entry)
  rw [serviceOutbounds_planned h.emission, map_append] at htags
  rw [V2rayConfig.outboundTags, htags]
  cases needsDnsOutbound env <;> rfl

end
end CoreConfigManager
end ZeroVpn
