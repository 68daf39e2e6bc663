import ZeroVpn.Core.OutboundSpec

/-!
# What happens after the outbounds

`finishConfig` adds rules, the DNS section and at most the DNS outbound; the balancers stay as they
are. The last stage resolves the servers of the outbounds: it changes socket options, but no link
between outbounds, and puts the addresses of servers into the hosts that the routing rules left open.
`Finished` says what the finished configuration consists of, and `finished_finishConfig` puts the
stages together.
-/

namespace ZeroVpn

namespace OutboundBean

/-- The same server under the same tag. -/
def SameEntry (o o' : OutboundBean) : Prop := o.tag = o'.tag ∧ o.SameServer o'

theorem SameEntry.refl (o : OutboundBean) : o.SameEntry o := ⟨rfl, .refl o⟩

/-- The tag of the outbound that this one dials through. -/
def dialerProxy (o : OutboundBean) : Option String :=
  (o.streamSettings.bind (·.sockopt)).bind (·.dialerProxy)

/-- The same entry, dialing through the same outbound. -/
structure SameHop (o o' : OutboundBean) : Prop where
  entry : o.SameEntry o'
  dialer : o.dialerProxy = o'.dialerProxy

variable (o : OutboundBean)

theorem SameHop.refl : o.SameHop o := ⟨.refl o, rfl⟩

theorem dialerProxy_updateSockopt (f : SockoptBean → SockoptBean) :
    (o.updateSockopt f).dialerProxy =
      (f ((o.streamSettings.bind (·.sockopt)).getD {})).dialerProxy := by
  unfold updateSockopt dialerProxy
  cases o.streamSettings <;> rfl

/-- Socket options that keep the dialer keep the hop. -/
theorem sameHop_updateSockopt (hf : ∀ s, (f s).dialerProxy = s.dialerProxy) :
    (o.updateSockopt f).SameHop o := by
  refine ⟨⟨rfl, sameServer_updateSockopt o f⟩, ?_⟩
  rw [dialerProxy_updateSockopt, hf, dialerProxy]
  cases o.streamSettings.bind (·.sockopt) <;> rfl

end OutboundBean

/-- The tags of the outbounds of a configuration. -/
def V2rayConfig.outboundTags (config : V2rayConfig) : List String := config.outbounds.map (·.tag)

theorem map_tag_of_forall₂ {l l' : List OutboundBean}
    (h : List.Forall₂ OutboundBean.SameEntry l l') : l.map (·.tag) = l'.map (·.tag) := by
  induction h with
  | nil => rfl
  | cons h _ ih => rw [List.map_cons, List.map_cons, h.1, ih]

namespace CoreConfigManager
open CoreOutboundBuilder CoreConfigContextBuilder List AppConfig

section
variable {env : AppEnv}

/-! ## Before the outbounds -/

theorem configureInbounds_eq (env : AppEnv) (config : V2rayConfig) :
    ∃ inbounds, configureInbounds env config = { config with inbounds } := by
  unfold configureInbounds
  split
  · exact ⟨config.inbounds, rfl⟩
  · exact ⟨_, rfl⟩

theorem initV2rayConfig_eq_ok {config : V2rayConfig} (h : initV2rayConfig env = .ok config) :
    config.outbounds = v2rayConfigTemplate.outbounds ∧
      config.routing = v2rayConfigTemplate.routing := by
  unfold initV2rayConfig at h
  split at h
  · split at h
    · cases h; exact ⟨rfl, rfl⟩
    · cases h
  · split at h
    · cases h; exact ⟨rfl, rfl⟩
    · cases h

/-- The outbounds of the template without its first one. -/
theorem baseConfig_eq_ok {config : V2rayConfig} (h : baseConfig env primary = .ok config) :
    config.outbounds = v2rayConfigTemplate.outbounds.tail ∧
      config.routing = v2rayConfigTemplate.routing := by
  obtain ⟨template, htemplate, h⟩ := bind_eq_ok.mp h
  obtain ⟨hout, hrouting⟩ := initV2rayConfig_eq_ok htemplate
  cases h
  obtain ⟨inbounds, hin⟩ := configureInbounds_eq env { template with
    loglevel := some (env.decodeSettingsStringOr prefLoglevel "warning")
    remarks := some primary.profile.remarks }
  rw [hin]
  exact ⟨congrArg tail hout, hrouting⟩

/-! ## Routing -/

variable (env)

/-- The rules of the enabled items, in order. -/
def userRules (outbounds : List OutboundBean)
    (policyGroupBalancerTags : KV String String) : List RulesBean :=
  ((env.decodeRoutingRulesets.getD []).filter (·.enabled)).map
    (userRule env outbounds policyGroupBalancerTags)

variable (policyGroupBalancerTags : KV String String) (config : V2rayConfig)

theorem foldl_appendRoutingUserRule (items : List RulesetItem) (config : V2rayConfig) :
    items.foldl (appendRoutingUserRule env policyGroupBalancerTags) config =
      { config with routing := { config.routing with
          rules := config.routing.rules ++ (items.filter (·.enabled)).map
            (userRule env config.outbounds policyGroupBalancerTags) } } := by
  induction items generalizing config with
  | nil => simp
  | cons item items ih =>
    rw [foldl_cons, ih]
    unfold appendRoutingUserRule
    cases henabled : item.enabled with
    | false => rw [filter_cons_of_neg (by simp [henabled])]; rfl
    | true =>
      rw [filter_cons_of_pos henabled]
      simp [addRule]

theorem configureRouting_eq :
    configureRouting env policyGroupBalancerTags config =
      { config with routing := { config.routing with
          domainStrategy := env.decodeSettingsStringOr prefRoutingDomainStrategy "AsIs"
          rules := config.routing.rules ++
            userRules env config.outbounds policyGroupBalancerTags } } :=
  foldl_appendRoutingUserRule env policyGroupBalancerTags _ _

/-! ## DNS -/

theorem configureFakeDns_spec :
    (configureFakeDns env config).routing = config.routing ∧
      (configureFakeDns env config).outbounds = config.outbounds := by
  unfold configureFakeDns
  split <;> exact ⟨rfl, rfl⟩

/-- The entries that `configureDns` makes. -/
def dnsServers (rules : List RoutingDomainRule) : List DnsServer :=
  env.getRemoteDnsServers.map .address ++
    (buildDnsCnModeFromRoutingRules rules env.getDomesticDnsServers).map .server ++
    (buildDnsFromRoutingRules rules env.getRemoteDnsServers env.getDomesticDnsServers).map .server

/-- The rule that sends the queries of the domestic servers to `direct`. -/
def domesticDnsRules (rules : List RoutingDomainRule) : List RulesBean :=
  let tags :=
    (buildDnsFromRoutingRules rules env.getRemoteDnsServers env.getDomesticDnsServers).filterMap
      (·.tag) ++
    (buildDnsCnModeFromRoutingRules rules env.getDomesticDnsServers).filterMap (·.tag)
  if tags = [] then [] else [{ outboundTag := some tagDirect, inboundTag := some tags }]

theorem mem_domesticDnsRules {rule : RulesBean} (h : rule ∈ domesticDnsRules env rules) :
    rule.outboundTag = some tagDirect ∧ rule.balancerTag = none := by
  unfold domesticDnsRules at h
  dsimp only at h
  split at h
  · cases h
  · rw [mem_singleton.mp h]
    exact ⟨rfl, rfl⟩

/-- The hosts and the servers of the DNS section. -/
structure HasDns (hosts : LinkedMap String DnsHost) (servers : List DnsServer)
    (config : V2rayConfig) : Prop where
  hosts : config.dns.bind (·.hosts) = some hosts
  servers : config.dns.bind (·.servers) = some servers

theorem configureDns_spec (rules : List RoutingDomainRule) (config : V2rayConfig) :
    (configureDns env rules policyGroupBalancerTags config).outbounds = config.outbounds ∧
      (configureDns env rules policyGroupBalancerTags config).routing = { config.routing with
        rules := config.routing.rules ++ domesticDnsRules env rules ++
          [dnsProxyRule policyGroupBalancerTags] } ∧
      HasDns (buildDnsHostsFromRoutingRules env rules) (dnsServers env rules)
        (configureDns env rules policyGroupBalancerTags config) := by
  unfold configureDns domesticDnsRules
  dsimp only
  split
  · rw [append_nil]
    exact ⟨rfl, rfl, rfl, rfl⟩
  · exact ⟨rfl, rfl, rfl, rfl⟩

/-- A setting asks for the DNS outbound. -/
def needsDnsOutbound : Bool :=
  env.decodeSettingsBool AppConfig.prefLocalDnsEnabled || env.isRootMode

/-- The rule sends queries to the DNS outbound. -/
def IsDnsOutRule (rule : RulesBean) : Prop :=
  rule.outboundTag = some "dns-out" ∧ rule.balancerTag = none

/-- The outbounds with the DNS outbound, unless it is there. -/
def withDnsOutbound (outbounds : List OutboundBean) : List OutboundBean :=
  if outbounds.any fun e => e.protocol = "dns" && e.tag = "dns-out" then outbounds
  else outbounds ++ [dnsOutbound]

theorem ensureDnsOutbound_eq (config : V2rayConfig) :
    ensureDnsOutbound config = { config with outbounds := withDnsOutbound config.outbounds } := by
  unfold ensureDnsOutbound withDnsOutbound
  split <;> rfl

theorem withDnsOutbound_idem (outbounds : List OutboundBean) :
    withDnsOutbound (withDnsOutbound outbounds) = withDnsOutbound outbounds := by
  have hany : (withDnsOutbound outbounds).any
      (fun e => e.protocol = "dns" && e.tag = "dns-out") = true := by
    unfold withDnsOutbound
    split
    · assumption
    · rw [any_append]
      exact Bool.or_true _
  rw [withDnsOutbound.eq_def (withDnsOutbound outbounds), if_pos hany]

/-- The outbounds of the plan, with the DNS outbound if a setting asks for it. -/
def serviceOutbounds (outbounds : List OutboundBean) : List OutboundBean :=
  if needsDnsOutbound env then withDnsOutbound outbounds else outbounds

theorem prefix_serviceOutbounds (outbounds : List OutboundBean) :
    outbounds <+: serviceOutbounds env outbounds := by
  unfold serviceOutbounds withDnsOutbound
  split
  · split
    · exact prefix_rfl
    · exact prefix_append _ _
  · exact prefix_rfl

theorem mem_map_tag_serviceOutbounds {outbounds : List OutboundBean} {tag : String} :
    tag ∈ (serviceOutbounds env outbounds).map (·.tag) ↔
      tag ∈ outbounds.map (·.tag) ∨ (needsDnsOutbound env = true ∧ tag = "dns-out") := by
  unfold serviceOutbounds
  split
  · next hneeds =>
    rw [and_iff_right hneeds]
    unfold withDnsOutbound
    split
    · next hany =>
      obtain ⟨o, ho, hdns⟩ := any_eq_true.mp hany
      have htag : o.tag = "dns-out" := of_decide_eq_true (Bool.and_eq_true_iff.mp hdns).2
      refine (or_iff_left_of_imp ?_).symm
      rintro rfl
      exact htag ▸ mem_map_of_mem ho
    · rw [map_append, mem_append, map_singleton, mem_singleton]
      rfl
  · next hneeds => exact (or_iff_left fun h => hneeds h.1).symm

/-- The entry in front of the others, if local DNS answers with fake addresses. -/
def fakeDnsServers (rules : List RoutingDomainRule) : List DnsServer :=
  if env.decodeSettingsBool prefLocalDnsEnabled && env.decodeSettingsBool prefFakeDnsEnabled then
    [.server (fakeDnsServer rules)]
  else []

/-- A stage that may put DNS rules and the servers `extra` in front and, if `ensured`, makes sure of the
DNS outbound. -/
structure DnsStage (ensured : Bool) (extra : List DnsServer) (config config' : V2rayConfig) :
    Prop where
  rules : ∃ front, config'.routing =
      { config.routing with rules := front ++ config.routing.rules } ∧
    ∀ rule ∈ front, ensured = true ∧ IsDnsOutRule rule
  outbounds : config'.outbounds =
    if ensured then withDnsOutbound config.outbounds else config.outbounds
  dns : ∀ hosts servers, HasDns hosts servers config → HasDns hosts (extra ++ servers) config'

theorem DnsStage.refl : DnsStage false [] config config :=
  ⟨⟨[], rfl, forall_mem_nil _⟩, rfl, fun _ _ h => h⟩

theorem DnsStage.trans {config config' config'' : V2rayConfig} (h : DnsStage a extra config config')
    (h' : DnsStage b extra' config' config'') :
    DnsStage (a || b) (extra' ++ extra) config config'' where
  rules := by
    obtain ⟨front, hrouting, hfront⟩ := h.rules
    obtain ⟨front', hrouting', hfront'⟩ := h'.rules
    refine ⟨front' ++ front, ?_, fun rule hrule => ?_⟩
    · rw [hrouting', hrouting, append_assoc]
    · rcases mem_append.mp hrule with hrule | hrule
      · obtain ⟨hb, hdns⟩ := hfront' rule hrule
        exact ⟨by rw [hb, Bool.or_true], hdns⟩
      · obtain ⟨ha, hdns⟩ := hfront rule hrule
        exact ⟨by rw [ha, Bool.true_or], hdns⟩
  outbounds := by
    rw [h'.outbounds, h.outbounds]
    cases a <;> cases b <;> simp [withDnsOutbound_idem]
  dns := fun hosts servers hdns => by
    rw [append_assoc]
    exact h'.dns _ _ (h.dns _ _ hdns)

/-- Rules in front, and then the DNS outbound. -/
theorem dnsStage_ensure {config config' : V2rayConfig} {extra : List DnsServer}
    (front : List RulesBean)
    (hrouting : config'.routing = { config.routing with rules := front ++ config.routing.rules })
    (hout : config'.outbounds = config.outbounds) (hfront : ∀ rule ∈ front, IsDnsOutRule rule)
    (hdns : ∀ hosts servers, HasDns hosts servers config → HasDns hosts (extra ++ servers) config') :
    DnsStage true extra config (ensureDnsOutbound config') := by
  rw [ensureDnsOutbound_eq]
  refine ⟨⟨front, hrouting, fun rule hrule => ⟨rfl, hfront rule hrule⟩⟩, ?_, fun hosts servers h => ?_⟩
  · rw [hout]
    rfl
  · exact ⟨(hdns _ _ h).hosts, (hdns _ _ h).servers⟩

/-- The server for fake addresses changes neither the hosts nor the other servers. -/
theorem HasDns.addFakeDnsServer {hosts : LinkedMap String DnsHost} {servers : List DnsServer}
    {config : V2rayConfig} (h : HasDns hosts servers config) (rules : List RoutingDomainRule) :
    HasDns hosts (.server (fakeDnsServer rules) :: servers) (addFakeDnsServer rules config) := by
  obtain ⟨dns, hdns, hhosts⟩ := Option.bind_eq_some_iff.mp h.hosts
  obtain ⟨dns', hdns', hservers⟩ := Option.bind_eq_some_iff.mp h.servers
  cases hdns.symm.trans hdns'
  constructor
  · simp [CoreConfigManager.addFakeDnsServer, hdns, hhosts]
  · simp [CoreConfigManager.addFakeDnsServer, hdns, hservers]

theorem isDnsOutRule_dnsOutRule (inboundTag : String) :
    ∀ rule ∈ [dnsOutRule inboundTag], IsDnsOutRule rule := by
  intro rule hrule
  rw [mem_singleton.mp hrule]
  exact ⟨rfl, rfl⟩

theorem configureLocalDns_stage (rules : List RoutingDomainRule) (config : V2rayConfig) :
    DnsStage (env.decodeSettingsBool prefLocalDnsEnabled) (fakeDnsServers env rules) config
      (configureLocalDns env rules config) := by
  unfold configureLocalDns fakeDnsServers
  cases env.decodeSettingsBool prefLocalDnsEnabled with
  | false => exact .refl config
  | true =>
    rw [Bool.true_and, if_neg (by decide : ¬(!true) = true)]
    generalize env.decodeSettingsBool prefFakeDnsEnabled = fake
    have hfake : (if fake then addFakeDnsServer rules config else config).routing =
          config.routing ∧
        (if fake then addFakeDnsServer rules config else config).outbounds = config.outbounds ∧
        ∀ hosts servers, HasDns hosts servers config →
          HasDns hosts ((if fake then [.server (fakeDnsServer rules)] else []) ++ servers)
            (if fake then addFakeDnsServer rules config else config) := by
      cases fake with
      | false => exact ⟨rfl, rfl, fun _ _ h => h⟩
      | true => exact ⟨rfl, rfl, fun _ _ h => h.addFakeDnsServer rules⟩
    dsimp only
    generalize (if fake then addFakeDnsServer rules config else config) = served at hfake ⊢
    obtain ⟨hrouting, hout, hdns⟩ := hfake
    by_cases hvpn : env.isVpnMode = true
    · rw [if_pos hvpn]
      generalize (if env.isUsingHevTun then "socks" else "tun") = inboundTag
      refine dnsStage_ensure [dnsOutRule inboundTag] ?_ hout (isDnsOutRule_dnsOutRule inboundTag)
        fun hosts servers h => ⟨(hdns _ _ h).hosts, (hdns _ _ h).servers⟩
      rw [addRuleFirst, hrouting]
      rfl
    · rw [if_neg hvpn]
      exact dnsStage_ensure [] hrouting hout (forall_mem_nil _) hdns

theorem configureRootModeDns_stage :
    DnsStage env.isRootMode [] config (configureRootModeDns env config) := by
  unfold configureRootModeDns
  cases env.isRootMode with
  | false => exact .refl config
  | true =>
    rw [if_neg (by decide)]
    split
    · exact dnsStage_ensure [] rfl rfl (forall_mem_nil _) fun _ _ h => h
    · exact dnsStage_ensure [dnsOutRule "socks"] rfl rfl (isDnsOutRule_dnsOutRule "socks")
        fun _ _ h => ⟨h.hosts, h.servers⟩

/-! ## The other sections -/

/-- The rule of a group for everything that no other rule matches. -/
def catchAllRules (primary : ResolvedOutbound) : List RulesBean :=
  if primary.resolvedType = .policygroup then
    if env.decodeSettingsStringOr AppConfig.prefRoutingDomainStrategy "AsIs" = "IPIfNonMatch" then
      [{ ip := some ["0.0.0.0/0", "::/0"], balancerTag := some AppConfig.tagBalancer }]
    else [{ network := some "tcp,udp", balancerTag := some AppConfig.tagBalancer }]
  else []

theorem addCatchAllRule_spec (primary : ResolvedOutbound) {config : V2rayConfig}
    (h : config.routing.domainStrategy =
      env.decodeSettingsStringOr prefRoutingDomainStrategy "AsIs") :
    (addCatchAllRule primary config).routing = { config.routing with
      rules := config.routing.rules ++ catchAllRules env primary } ∧
    (addCatchAllRule primary config).outbounds = config.outbounds ∧
    (addCatchAllRule primary config).dns = config.dns := by
  unfold addCatchAllRule catchAllRules
  rw [h]
  split
  · split <;> exact ⟨rfl, rfl, rfl⟩
  · rw [append_nil]
    exact ⟨rfl, rfl, rfl⟩

theorem applySpeedDisabled_spec :
    (applySpeedDisabled env config).routing = config.routing ∧
      (applySpeedDisabled env config).outbounds = config.outbounds ∧
      (applySpeedDisabled env config).dns = config.dns := by
  unfold applySpeedDisabled
  split <;> exact ⟨rfl, rfl, rfl⟩

/-! ## Resolved servers -/

theorem resolveOutboundDomain_sameHop (item : OutboundBean) (hosts : LinkedMap String DnsHost) :
    (resolveOutboundDomain env item hosts).1.SameHop item := by
  have hused : (useIP env item).SameHop item :=
    OutboundBean.sameHop_updateSockopt item fun _ => rfl
  unfold resolveOutboundDomain
  split
  · exact .refl item
  · exact .refl item
  split
  · exact hused
  split
  · exact .refl item
  · exact .refl item
  · exact hused
  · exact hused

theorem resolveOutboundDomains_sameHop (items : List OutboundBean)
    (hosts : LinkedMap String DnsHost) :
    Forall₂ OutboundBean.SameHop (resolveOutboundDomains env items hosts).1 items := by
  induction items generalizing hosts with
  | nil => exact .nil
  | cons item items ih =>
    rw [resolveOutboundDomains]
    refine .cons ?_ (ih _)
    split
    · exact resolveOutboundDomain_sameHop env item hosts
    · exact .refl item

/-- The hosts entry of a server, if its name resolves. -/
def resolvedHost (domain : String) : Option DnsHost :=
  match HttpUtil.resolveHostToIP env.platform.getAllByName domain
      (env.decodeSettingsBool AppConfig.prefPreferIpv6) with
  | none | some [] => none
  | some [ip] => some (.one ip)
  | some ips => some (.many ips)

/-- The outbound is a proxy whose server has this name. -/
def dials (domain : String) (o : OutboundBean) : Prop :=
  o.isProxy = true ∧ o.getServerAddress = some domain ∧ domain ≠ ""

instance (domain : String) (o : OutboundBean) : Decidable (dials domain o) :=
  inferInstanceAs (Decidable (_ ∧ _ ∧ _))

/-- One server: a name that has no entry yet gets its addresses. -/
theorem get_resolveOutboundDomain (item : OutboundBean) (hosts : LinkedMap String DnsHost)
    (domain : String) :
    (resolveOutboundDomain env item hosts).2.get domain = (hosts.get domain).or
      (if item.getServerAddress = some domain ∧ domain ≠ "" then resolvedHost env domain
        else none) := by
  have hskip {o : Option DnsHost} : o = o.or none := (Option.or_none).symm
  unfold resolveOutboundDomain resolvedHost
  split
  · next haddr => rw [haddr]; exact hskip
  · next haddr =>
    rw [haddr, if_neg (by rintro ⟨h, hne⟩; exact hne (Option.some_inj.mp h).symm)]
    exact hskip
  next name hempty haddr =>
  by_cases hname : name = domain
  · subst hname
    have hnamed : item.getServerAddress = some name ∧ name ≠ "" := ⟨haddr, hempty⟩
    split
    · next hkey =>
      have hsome : hosts.get name ≠ none := fun hnone =>
        LinkedMap.get_eq_none_iff.mp hnone hkey
      cases hget : hosts.get name with
      | none => exact absurd hget hsome
      | some v => rfl
    · next hkey =>
      have hnone := LinkedMap.get_eq_none_iff.mpr hkey
      rw [hnone]
      generalize HttpUtil.resolveHostToIP env.platform.getAllByName name
        (env.decodeSettingsBool prefPreferIpv6) = ips
      rcases ips with _ | _ | ⟨ip, _ | ⟨ip', rest⟩⟩
      · exact hnone
      · exact hnone
      · exact LinkedMap.get_put.trans (if_pos rfl)
      · exact LinkedMap.get_put.trans (if_pos rfl)
  · have hother : ¬(item.getServerAddress = some domain ∧ domain ≠ "") := fun h =>
      hname (Option.some_inj.mp (haddr.symm.trans h.1))
    rw [if_neg hother, Option.or_none]
    split
    · rfl
    split
    · rfl
    · rfl
    · rw [LinkedMap.get_put, if_neg (Ne.symm hname)]
    · rw [LinkedMap.get_put, if_neg (Ne.symm hname)]

theorem get_resolveOutboundDomains (items : List OutboundBean) (hosts : LinkedMap String DnsHost)
    (domain : String) :
    (resolveOutboundDomains env items hosts).2.get domain = (hosts.get domain).or
      (if ∃ o ∈ items, dials domain o then resolvedHost env domain else none) := by
  induction items generalizing hosts with
  | nil => simp [resolveOutboundDomains]
  | cons item items ih =>
    rw [resolveOutboundDomains]
    have hfirst : (if item.isProxy then resolveOutboundDomain env item hosts
        else (item, hosts)).2.get domain = (hosts.get domain).or
          (if dials domain item then resolvedHost env domain else none) := by
      by_cases hproxy : item.isProxy = true
      · rw [if_pos hproxy, get_resolveOutboundDomain]
        simp [dials, hproxy]
      · simp [dials, hproxy]
    rw [ih, hfirst, Option.or_assoc]
    congr 1
    by_cases hitem : dials domain item
    · have hsome : ∃ o ∈ item :: items, dials domain o := ⟨item, mem_cons_self, hitem⟩
      rw [if_pos hitem]
      split
      · exact Option.or_self
      · exact Option.or_none
    · simp [hitem]

/-- The last stage asks for the addresses of the servers. -/
def resolvesServers : Bool :=
  env.decodeSettingsStringOr AppConfig.prefOutboundDomainResolveMethod
    AppConfig.defaultOutboundDomainResolveMethod = "1"

/-- The last stage keeps the routing and the servers, and fills the hosts. -/
theorem resolveOutboundDomainsToHosts_spec {config : V2rayConfig} {hosts : LinkedMap String DnsHost}
    (h : HasDns hosts servers config) :
    (resolveOutboundDomainsToHosts env config).routing = config.routing ∧
      Forall₂ OutboundBean.SameHop (resolveOutboundDomainsToHosts env config).outbounds
        config.outbounds ∧
      ∃ hosts', HasDns hosts' servers (resolveOutboundDomainsToHosts env config) ∧
        ∀ domain, hosts'.get domain = (hosts.get domain).or
          (if resolvesServers env = true ∧ ∃ o ∈ config.outbounds, dials domain o
            then resolvedHost env domain else none) := by
  obtain ⟨dns, hdns, hhosts⟩ := Option.bind_eq_some_iff.mp h.hosts
  have hservers := h.servers
  rw [hdns] at hservers
  unfold resolveOutboundDomainsToHosts resolvesServers
  by_cases hmethod : env.decodeSettingsStringOr prefOutboundDomainResolveMethod
      defaultOutboundDomainResolveMethod = "1"
  · rw [if_neg (not_not.mpr hmethod), hdns]
    refine ⟨rfl, resolveOutboundDomains_sameHop env _ _, _, ⟨rfl, hservers⟩, fun domain => ?_⟩
    rw [get_resolveOutboundDomains, hhosts]
    simp [hmethod]
  · rw [if_pos hmethod]
    refine ⟨rfl, forall₂_same.mpr fun o _ => .refl o, hosts, h, fun domain => ?_⟩
    rw [if_neg (fun h => hmethod (of_decide_eq_true h.1)), Option.or_none]

/-! ## The finished configuration -/

/-- A configuration finished after the outbounds of `st`; `domains` are the rules that DNS sees. -/
structure Finished (domains : List RoutingDomainRule) (primary : ResolvedOutbound) (st : BuildState)
    (config : V2rayConfig) : Prop where
  balancers : config.routing.balancers = st.config.routing.balancers
  rules : ∃ front,
    config.routing.rules = front ++ (st.config.routing.rules ++
      userRules env st.config.outbounds st.policyGroupBalancerTags ++ domesticDnsRules env domains ++
      [dnsProxyRule st.policyGroupBalancerTags]) ++ catchAllRules env primary ∧
    ∀ rule ∈ front, needsDnsOutbound env = true ∧ IsDnsOutRule rule
  outbounds : Forall₂ OutboundBean.SameHop config.outbounds
    (serviceOutbounds env st.config.outbounds)
  /-- The hosts are those of the routing rules, then those of servers. -/
  dns : ∃ hosts, HasDns hosts (fakeDnsServers env domains ++ dnsServers env domains) config ∧
    ∀ domain, hosts.get domain = ((buildDnsHostsFromRoutingRules env domains).get domain).or
      (if resolvesServers env = true ∧
          ∃ o ∈ serviceOutbounds env st.config.outbounds, dials domain o
        then resolvedHost env domain else none)

theorem finished_finishConfig (context : CoreConfigContext) (primary : ResolvedOutbound)
    (st : BuildState) :
    Finished env context.routingDomainRules primary st (finishConfig env context primary st) := by
  unfold finishConfig
  dsimp only
  -- every stage is forgotten once it has said what it does to rules, outbounds and DNS
  have hrouted := configureRouting_eq env st.policyGroupBalancerTags st.config
  generalize configureRouting env st.policyGroupBalancerTags st.config = routed at hrouted ⊢
  obtain ⟨hr₁, ho₁⟩ := configureFakeDns_spec env routed
  generalize configureFakeDns env routed = faked at hr₁ ho₁ ⊢
  obtain ⟨ho₂, hr₂, hdns⟩ :=
    configureDns_spec env st.policyGroupBalancerTags context.routingDomainRules faked
  generalize configureDns env context.routingDomainRules st.policyGroupBalancerTags faked = queried
    at hr₂ ho₂ hdns ⊢
  have hstage := (configureLocalDns_stage env context.routingDomainRules queried).trans
    (configureRootModeDns_stage env _)
  generalize configureRootModeDns env (configureLocalDns env context.routingDomainRules queried) =
    hijacked at hstage ⊢
  replace hdns := hstage.dns _ _ hdns
  obtain ⟨front, hr₃, hfront⟩ := hstage.rules
  have hrouting : hijacked.routing = { st.config.routing with
      domainStrategy := env.decodeSettingsStringOr prefRoutingDomainStrategy "AsIs"
      rules := front ++ (st.config.routing.rules ++
        userRules env st.config.outbounds st.policyGroupBalancerTags ++
        domesticDnsRules env context.routingDomainRules ++
        [dnsProxyRule st.policyGroupBalancerTags]) } := by
    rw [hr₃, hr₂, hr₁, hrouted]
  have hout : hijacked.outbounds = serviceOutbounds env st.config.outbounds := by
    rw [hstage.outbounds, ho₂, ho₁, hrouted]
    rfl
  obtain ⟨hr₄, ho₄, hd₄⟩ :=
    addCatchAllRule_spec env primary (congrArg (·.domainStrategy) hrouting)
  generalize addCatchAllRule primary hijacked = caught at hr₄ ho₄ hd₄ ⊢
  obtain ⟨hr₅, ho₅, hd₅⟩ :=
    applySpeedDisabled_spec env (applyObservability st.balancerStrategies caught)
  generalize applySpeedDisabled env (applyObservability st.balancerStrategies caught) = quiet
    at hr₅ ho₅ hd₅ ⊢
  have hquiet : HasDns _ _ quiet :=
    ⟨by rw [hd₅, ← hdns.hosts, ← hd₄]; rfl, by rw [hd₅, ← hdns.servers, ← hd₄]; rfl⟩
  obtain ⟨hr₆, ho₆, hosts, hfinal, hget⟩ := resolveOutboundDomainsToHosts_spec env hquiet
  have hrules : (resolveOutboundDomainsToHosts env quiet).routing = { hijacked.routing with
      rules := hijacked.routing.rules ++ catchAllRules env primary } := by
    rw [hr₆, hr₅, ← hr₄]
    rfl
  rw [show quiet.outbounds = serviceOutbounds env st.config.outbounds from
    ho₅.trans (ho₄.trans hout)] at ho₆ hget
  refine ⟨?_, ⟨front, ?_, hfront⟩, ho₆, hosts, hfinal, hget⟩
  · rw [hrules, hrouting]
  · rw [hrules, hrouting]

theorem Finished.tags {rules : List RoutingDomainRule} {st : BuildState} {config : V2rayConfig}
    (h : Finished env rules primary st config) (tag : String) : tag ∈ config.outboundTags ↔
      tag ∈ st.config.outboundTags ∨ (needsDnsOutbound env = true ∧ tag = "dns-out") := by
  rw [V2rayConfig.outboundTags, map_tag_of_forall₂ (h.outbounds.imp fun _ _ hop => hop.entry),
    mem_map_tag_serviceOutbounds]
  rfl

end
end CoreConfigManager
end ZeroVpn
