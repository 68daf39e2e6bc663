import ZeroVpn.Core.BuiltSpec
import ZeroVpn.Verify.DefaultOutbound

/-!
# Blocking by DNS and blocking by rule

Routing takes the first enabled rule that lists a domain. The hosts of the DNS section send a domain
to the loopback address if any enabled rule that blocks lists it, unless the domain has a built-in
entry; and with server resolution on, a proxy server whose name resolves to the loopback address
gets such an entry too. `dns_blocking_agrees_iff` says for which domains the two agree.
-/

namespace ZeroVpn

open CoreOutboundBuilder CoreConfigContextBuilder CoreConfigManager AppConfig List

/-- The enabled rules, in order. -/
def AppEnv.enabledRules (env : AppEnv) : List RulesetItem :=
  (env.decodeRoutingRulesets.getD []).filter (·.enabled)

/-- The first enabled rule that lists the domain blocks. -/
def FirstRuleBlocks (env : AppEnv) (domain : String) : Prop :=
  (env.enabledRules.find? fun rule => domain ∈ rule.domain.getD []).map (·.outboundTag) =
    some tagBlocked

/-- Some enabled rule that lists the domain blocks. -/
def SomeRuleBlocks (env : AppEnv) (domain : String) : Prop :=
  ∃ rule ∈ env.enabledRules, domain ∈ rule.domain.getD [] ∧ rule.outboundTag = tagBlocked

/-- The domains that always have an entry of their own. -/
def builtinHosts : List String :=
  googleapisCnDomain :: dnsAddresses.map (·.1)

/-- The hosts of the configuration send the domain to the loopback address. -/
def V2rayConfig.HostsBlock (config : V2rayConfig) (domain : String) : Prop :=
  ∃ hosts, config.dns.bind (·.hosts) = some hosts ∧
    hosts.get domain = some (.one loopback)

/-- The domain is the server of a profile that gets an outbound, servers are resolved, and this one
resolves to the loopback address alone. -/
def ServerAtLoopback (env : AppEnv) (guid domain : String) : Prop :=
  resolvesServers env = true ∧
    (∃ p ∈ TagPlan.emittedProfiles env templateTags (planOf env guid),
      ∃ o, convert env p = .ok (some o) ∧ dials domain o) ∧
    resolvedHost env domain = some (.one loopback)

/-! ## The hosts of the routing rules -/

section
variable {env : AppEnv} {domain : String}

theorem normalizedOutboundTag_eq_blocked :
    normalizedOutboundTag tag = tagBlocked ↔ tag = tagBlocked := by
  unfold normalizedOutboundTag
  split
  · next h =>
    subst h
    decide
  · split
    · next h => exact iff_of_true rfl h
    · next h => exact iff_of_false (by decide) h

/-- The rules that DNS sees are the enabled ones with domains. -/
theorem mem_collectRoutingDomainRulesForDns :
    rule ∈ collectRoutingDomainRulesForDns env ↔
      ∃ item ∈ env.enabledRules, item.domain.getD [] ≠ [] ∧
        rule = { domain := item.domain.getD [],
                 outboundTag := normalizedOutboundTag item.outboundTag } := by
  unfold collectRoutingDomainRulesForDns AppEnv.enabledRules
  cases env.decodeRoutingRulesets with
  | none => simp
  | some items =>
    simp only [mem_map, mem_filter, Bool.and_eq_true, decide_eq_true_eq,
      Option.getD_some]
    constructor
    · rintro ⟨item, ⟨hitem, henabled, hne⟩, rfl⟩
      exact ⟨item, ⟨hitem, henabled⟩, hne, rfl⟩
    · rintro ⟨item, ⟨hitem, henabled⟩, hne, rfl⟩
      exact ⟨item, ⟨hitem, henabled, hne⟩, rfl⟩

theorem mem_domainsOf_blocked :
    domain ∈ domainsOf (collectRoutingDomainRulesForDns env) tagBlocked ↔
      SomeRuleBlocks env domain := by
  unfold domainsOf SomeRuleBlocks
  simp only [mem_flatMap, mem_filter, mem_collectRoutingDomainRulesForDns,
    decide_eq_true_eq]
  constructor
  · rintro ⟨_, ⟨⟨item, hitem, -, rfl⟩, htag⟩, hmem⟩
    exact ⟨item, hitem, hmem, normalizedOutboundTag_eq_blocked.mp htag⟩
  · rintro ⟨item, hitem, hmem, htag⟩
    exact ⟨_, ⟨⟨item, hitem, ne_nil_of_mem hmem, rfl⟩,
      normalizedOutboundTag_eq_blocked.mpr htag⟩, hmem⟩

theorem nullIfBlank_of_isNullOrEmpty (h : Text.isNullOrEmpty s = true) :
    Text.nullIfBlank s = none := by
  cases s with
  | none => rfl
  | some s =>
    have hs : s = "" := by simpa [Text.isNullOrEmpty] using h
    subst hs
    rfl

theorem get_putAll_many {hosts : LinkedMap String DnsHost}
    {addresses : List (String × List String)} (h : domain ∈ addresses.map (·.1)) :
    ∃ ips, (hosts.putAll (addresses.map fun e => (e.1, .many e.2))).get domain =
      some (.many ips) := by
  have hkeys : domain ∈ (addresses.map fun e => (e.1, DnsHost.many e.2)).map Prod.fst := by
    rwa [map_map]
  obtain ⟨host, hget, hmem⟩ := LinkedMap.get_putAll_of_mem hkeys
  obtain ⟨e, -, he⟩ := mem_map.mp hmem
  exact ⟨e.2, by rw [hget, ← (Prod.mk.inj he).2]⟩

theorem get_putAll_many_of_notMem {hosts : LinkedMap String DnsHost}
    {addresses : List (String × List String)} (h : domain ∉ addresses.map (·.1)) :
    (hosts.putAll (addresses.map fun e => (e.1, .many e.2))).get domain = hosts.get domain := by
  refine LinkedMap.get_putAll_of_notMem ?_
  rwa [map_map]

variable (hhosts : Text.isNullOrEmpty (env.decodeSettingsString AppConfig.prefDnsHosts) = true)
include hhosts

/-- A built-in entry is never the loopback address. -/
theorem get_hosts_of_builtin (h : domain ∈ builtinHosts) (rules : List RoutingDomainRule) :
    ∃ host, (buildDnsHostsFromRoutingRules env rules).get domain = some host ∧
      host ≠ .one loopback := by
  unfold buildDnsHostsFromRoutingRules
  rw [nullIfBlank_of_isNullOrEmpty hhosts]
  by_cases hdns : domain ∈ dnsAddresses.map (·.1)
  · obtain ⟨ips, hget⟩ := get_putAll_many hdns
    exact ⟨.many ips, hget, nofun⟩
  · have hname : domain = googleapisCnDomain := (mem_cons.mp h).resolve_right hdns
    refine ⟨.one googleapisComDomain, ?_, ?_⟩
    · rw [get_putAll_many_of_notMem hdns, LinkedMap.get_put, if_pos hname]
    · intro heq
      exact absurd (DnsHost.one.inj heq) (by decide)

theorem get_hosts_of_not_builtin (h : domain ∉ builtinHosts) (rules : List RoutingDomainRule) :
    (buildDnsHostsFromRoutingRules env rules).get domain =
      if domain ∈ domainsOf rules tagBlocked then some (.one loopback)
      else none := by
  obtain ⟨hname, hdns⟩ := not_or.mp (mt mem_cons.mpr h)
  unfold buildDnsHostsFromRoutingRules
  rw [nullIfBlank_of_isNullOrEmpty hhosts]
  rw [get_putAll_many_of_notMem hdns, LinkedMap.get_put, if_neg hname, LinkedMap.get_putAll_const]
  rfl

end

/-! ## The hosts of servers -/

section
variable {env : AppEnv} {guid domain : String} {profile : ProfileItem} {primary : ResolvedOutbound}
  {routing : List ResolvedOutbound} {list : List OutboundBean} {lists : List (List OutboundBean)}
  {st : BuildState} {config : V2rayConfig}

theorem dials_congr (h : o.SameServer o') :
    dials domain o ↔ dials domain o' := by
  unfold dials OutboundBean.isProxy OutboundBean.getServerAddress
  rw [h.protocol, h.settings]

theorem exists_dials_serviceOutbounds :
    (∃ o ∈ serviceOutbounds env outbounds, dials domain o) ↔ ∃ o ∈ outbounds, dials domain o := by
  have hdns : ¬dials domain dnsOutbound := fun h => absurd h.1 (by decide)
  unfold serviceOutbounds withDnsOutbound
  split
  · split
    · rfl
    · simp [or_and_right, exists_or, hdns]
  · rfl

theorem exists_dials_iff_profiles (h : Emitted env primary routing list lists st config) :
    (∃ o ∈ serviceOutbounds env (plannedOutbounds list lists), dials domain o) ↔
      ∃ p ∈ TagPlan.emittedProfiles env templateTags (primary :: routing),
        ∃ o, convert env p = .ok (some o) ∧ dials domain o := by
  have htemplate : ∀ o ∈ v2rayConfigTemplate.outbounds.tail, ¬dials domain o := by
    have hproxy : ∀ o ∈ v2rayConfigTemplate.outbounds.tail, o.isProxy = false := by decide
    intro o ho hdials
    exact Bool.false_ne_true ((hproxy o ho).symm.trans hdials.1)
  have hmade := h.emission.madeFrom
  rw [exists_dials_serviceOutbounds, ← exists_mem_congr_of_forall₂ hmade]
  · simp only [mem_plannedOutbounds, or_and_right, exists_or]
    refine or_iff_left ?_
    rintro ⟨o, ho, hdials⟩
    exact htemplate o ho hdials
  · rintro o p ⟨o', hconvert, hsame⟩
    rw [dials_congr hsame]
    constructor
    · exact fun hdials => ⟨o', hconvert, hdials⟩
    · rintro ⟨o'', hconvert', hdials⟩
      cases Option.some_inj.mp (Except.ok.inj (hconvert.symm.trans hconvert'))
      exact hdials

/-- The hosts block a domain without a built-in entry if a rule blocks it, or else if it is a server
at the loopback address. -/
theorem hostsBlock_iff (hstored : env.store.serverConfig guid = some profile)
    (htype : profile.configType ≠ .custom) (hstatus : (getV2rayConfig env guid).status = true)
    (hhosts : Text.isNullOrEmpty (env.decodeSettingsString prefDnsHosts) = true) :
    ∃ config, (getV2rayConfig env guid).content = .unified config ∧
      ∀ domain, config.HostsBlock domain ↔ domain ∉ builtinHosts ∧
        (SomeRuleBlocks env domain ∨ ServerAtLoopback env guid domain) := by
  obtain ⟨primary, routing, list, lists, st, config, -, hplan, -, hcontent, hemitted⟩ :=
    getV2rayConfig_emitted hstored htype hstatus
  obtain ⟨hosts, hconfig, hget⟩ := hemitted.hosts
  refine ⟨config, hcontent, fun domain => ?_⟩
  have hblock : config.HostsBlock domain ↔ hosts.get domain = some (.one loopback) := by
    constructor
    · rintro ⟨hosts', hconfig', hget'⟩
      cases Option.some_inj.mp (hconfig.symm.trans hconfig')
      exact hget'
    · exact fun h => ⟨hosts, hconfig, h⟩
  rw [hblock, hget domain]
  by_cases hbuiltin : domain ∈ builtinHosts
  · obtain ⟨host, hhost, hne⟩ := get_hosts_of_builtin hhosts hbuiltin
      (collectRoutingDomainRulesForDns env)
    rw [hhost]
    exact iff_of_false (fun h => hne (Option.some_inj.mp h)) (fun h => h.1 hbuiltin)
  · rw [and_iff_right hbuiltin, get_hosts_of_not_builtin hhosts hbuiltin]
    by_cases hrule : SomeRuleBlocks env domain
    · rw [if_pos (mem_domainsOf_blocked.mpr hrule)]
      exact iff_of_true rfl (.inl hrule)
    · rw [if_neg (mt mem_domainsOf_blocked.mp hrule), or_iff_right hrule]
      unfold ServerAtLoopback
      rw [hplan, ← exists_dials_iff_profiles hemitted, ← and_assoc]
      split
      · next h => exact (and_iff_right h).symm
      · next h => exact iff_of_false nofun fun hall => h hall.1

/-- Blocking by DNS agrees with the first rule that lists a domain exactly if: a domain with a
built-in entry is not blocked by its first rule; another one that some rule blocks is blocked by the
first one; and one that no rule blocks is no server at the loopback address. -/
theorem dns_blocking_agrees_iff (hstored : env.store.serverConfig guid = some profile)
    (htype : profile.configType ≠ .custom) (hstatus : (getV2rayConfig env guid).status = true)
    (hhosts : Text.isNullOrEmpty (env.decodeSettingsString prefDnsHosts) = true) :
    ∃ config, (getV2rayConfig env guid).content = .unified config ∧
      ∀ domain, (∃ rule ∈ env.enabledRules, domain ∈ rule.domain.getD []) →
        ((config.HostsBlock domain ↔ FirstRuleBlocks env domain) ↔
          (domain ∈ builtinHosts → ¬FirstRuleBlocks env domain) ∧
          (domain ∉ builtinHosts → SomeRuleBlocks env domain → FirstRuleBlocks env domain) ∧
          (domain ∉ builtinHosts → ¬SomeRuleBlocks env domain →
            ¬ServerAtLoopback env guid domain)) := by
  obtain ⟨config, hcontent, hiff⟩ := hostsBlock_iff hstored htype hstatus hhosts
  refine ⟨config, hcontent, fun domain _ => ?_⟩
  rw [hiff domain]
  have hfirst : FirstRuleBlocks env domain → SomeRuleBlocks env domain := by
    intro h
    obtain ⟨rule, hrule, htag⟩ := Option.map_eq_some_iff.mp h
    have hlisted := find?_some hrule
    exact ⟨rule, mem_of_find?_eq_some hrule, by simpa using hlisted, htag⟩
  by_cases hbuiltin : domain ∈ builtinHosts
  · simp [hbuiltin]
  · by_cases hrule : SomeRuleBlocks env domain
    · simp [hbuiltin, hrule]
    · simp [hbuiltin, hrule, mt hfirst hrule]

end

/-! ## A rule before the one that blocks -/

def directRule : RulesetItem where
  domain := some ["domain:example.org"]
  outboundTag := tagDirect

def blockRule : RulesetItem where
  domain := some ["domain:example.org"]
  outboundTag := tagBlocked

/-- The first rule sends the domain to `direct`, and the hosts block it. -/
theorem hosts_block_direct_domain :
    ∃ config, (getV2rayConfig (plainEnv [("s", vlessServer)] [directRule, blockRule]) "s").content =
        .unified config ∧
      (∃ rule ∈ (plainEnv [("s", vlessServer)] [directRule, blockRule]).enabledRules,
        "domain:example.org" ∈ rule.domain.getD []) ∧
      config.HostsBlock "domain:example.org" ∧
      ¬FirstRuleBlocks (plainEnv [("s", vlessServer)] [directRule, blockRule])
        "domain:example.org" := by
  obtain ⟨config, hcontent, hiff⟩ :=
    @hostsBlock_iff (plainEnv [("s", vlessServer)] [directRule, blockRule]) "s" vlessServer rfl
      (by decide) (by decide) rfl
  have hrules : (plainEnv [("s", vlessServer)] [directRule, blockRule]).enabledRules =
      [directRule, blockRule] := rfl
  refine ⟨config, hcontent, ?_, (hiff _).mpr ⟨by decide, .inl ?_⟩, ?_⟩
  · exact ⟨directRule, mem_cons_self, mem_cons_self⟩
  · exact ⟨blockRule, mem_cons_of_mem _ mem_cons_self, mem_cons_self, rfl⟩
  · unfold FirstRuleBlocks
    decide

theorem hosts_block_blocked_domain :
    ∃ config, (getV2rayConfig (plainEnv [("s", vlessServer)] [blockRule]) "s").content =
        .unified config ∧
      (config.HostsBlock "domain:example.org" ↔
        FirstRuleBlocks (plainEnv [("s", vlessServer)] [blockRule]) "domain:example.org") := by
  obtain ⟨config, hcontent, hiff⟩ :=
    @dns_blocking_agrees_iff (plainEnv [("s", vlessServer)] [blockRule]) "s" vlessServer rfl
      (by decide) (by decide) rfl
  have hrules : (plainEnv [("s", vlessServer)] [blockRule]).enabledRules = [blockRule] := rfl
  have hfirst : FirstRuleBlocks (plainEnv [("s", vlessServer)] [blockRule]) "domain:example.org" := by
    unfold FirstRuleBlocks
    decide
  have hbuiltin : "domain:example.org" ∉ builtinHosts := by decide
  have hsome : SomeRuleBlocks (plainEnv [("s", vlessServer)] [blockRule]) "domain:example.org" :=
    ⟨blockRule, mem_cons_self, mem_cons_self, rfl⟩
  refine ⟨config, hcontent, (hiff _ ⟨blockRule, mem_cons_self, mem_cons_self⟩).mpr ?_⟩
  exact ⟨fun h => absurd h hbuiltin, fun _ _ => hfirst, fun _ h => absurd hsome h⟩

end ZeroVpn
