import ZeroVpn.Verify.DnsBlocking

/-!
# Segmented DNS

The DNS section has one entry per rule and domestic server for the domains that go to `direct`, one
entry per rule for those that go elsewhere, and in Chinese mode one more entry per domestic server.
The entries of domestic servers are tagged, and one routing rule sends the tags to `direct`.
`dns_segmentation` says that entries, tags and rule of an emitted configuration fit together, apart
from the entry that fake DNS puts in front.
-/

namespace ZeroVpn

open CoreConfigContextBuilder CoreConfigManager AppConfig List String

def DnsServer.tag : DnsServer → Option String
  | .address _ => none
  | .server b => b.tag

/-- The tags of the entries that have one. -/
def serverTags (servers : List DnsServer) : List String := servers.filterMap (·.tag)

/-- The rules that send queries of DNS servers to `direct`. -/
def domesticRules (rules : List RulesBean) : List RulesBean :=
  rules.filter fun rule => rule.outboundTag = some tagDirect && rule.inboundTag.isSome

/-- The enabled rules with domains. -/
def AppEnv.domainRules (env : AppEnv) : List RulesetItem :=
  env.enabledRules.filter (·.domain.getD [] ≠ [])

def RulesetItem.IsDirect (item : RulesetItem) : Prop := item.outboundTag = tagDirect

/-- A rule for neither `direct` nor `block`. -/
def RulesetItem.IsProxied (item : RulesetItem) : Prop :=
  item.outboundTag ≠ tagDirect ∧ item.outboundTag ≠ tagBlocked

/-- The entry of a server for exactly the domains of a rule. -/
def ServersBean.IsFor (b : ServersBean) (address : String) (item : RulesetItem) : Prop :=
  b.address = address ∧ b.domains = some (item.domain.getD [])

/-- The entries of the DNS section and the rules for them fit the enabled rules. -/
structure DnsSegmented (env : AppEnv) (servers : List DnsServer) (rules : List RulesBean) :
    Prop where
  nodup : (serverTags servers).Nodup
  absent : domesticRules rules = [] ↔ serverTags servers = []
  single : serverTags servers ≠ [] → ∃ rule tags, domesticRules rules = [rule] ∧
    rule.inboundTag = some tags ∧ ∀ tag, tag ∈ tags ↔ tag ∈ serverTags servers
  -- the queries of an entry without a tag carry the tag of the section
  remote : tagDns ∉ serverTags servers
  direct : ∀ item ∈ env.domainRules, item.IsDirect → ∀ address ∈ env.getDomesticDnsServers,
    ∃ b, .server b ∈ servers ∧ b.IsFor address item
  proxied : ∀ item ∈ env.domainRules, item.IsProxied →
    ∃ first, env.getRemoteDnsServers.head? = some first ∧
      ∃ b, .server b ∈ servers ∧ b.IsFor first item ∧ b.tag = none
  tagged : ∀ b, .server b ∈ servers → b.tag ≠ none → b.address ∈ env.getDomesticDnsServers ∧
    ∃ domains, b.domains = some domains ∧
      ∀ domain ∈ domains, ∃ item ∈ env.domainRules, item.IsDirect ∧ domain ∈ item.domain.getD []
  untagged : ∀ b, .server b ∈ servers → b.tag = none →
    ∃ first, env.getRemoteDnsServers.head? = some first ∧
      ∃ item ∈ env.domainRules, item.IsProxied ∧ b.IsFor first item

/-! ## Tags -/

/-- The tag of a domestic server in the entry of a rule. -/
def ruleTag (ruleIndex dnsIndex : Nat) : String :=
  tagDomesticDns ++ "_" ++ toString ruleIndex ++ "_" ++ toString dnsIndex

/-- The tag of a domestic server in Chinese mode. -/
def cnTag (index : Nat) : String := tagDomesticDns ++ "_cn_expect_" ++ toString index

theorem isDigit_of_mem_toString {n : Nat} {c : Char} (h : c ∈ (toString n).toList) :
    c.isDigit = true := by
  rw [Nat.toString_eq_repr, Nat.toList_repr] at h
  exact Nat.isDigit_of_mem_toDigits (by decide) (by decide) h

theorem toString_nat_inj {m n : Nat} (h : toString m = toString n) : m = n := by
  have hdigits := congrArg (fun s : String => Text.digitsToNat s.toList) h
  simp only [Nat.toString_eq_repr, Text.digitsToNat_repr] at hdigits
  exact Option.some_inj.mp hdigits

variable {i : Nat} {tag : String}

/-- Before the separator there are digits only, so the indices can be read off a tag. -/
theorem ruleTag_inj {j i' j' : Nat} (h : ruleTag i j = ruleTag i' j') : i = i' ∧ j = j' := by
  have hsep : ∀ n : Nat, ∀ c ∈ (toString n).toList, (c != '_') = true := by
    intro n c hc
    have hdigit := isDigit_of_mem_toString hc
    rw [bne_iff_ne]
    rintro rfl
    exact absurd hdigit (by decide)
  have hlists : (toString i).toList ++ '_' :: (toString j).toList =
      (toString i').toList ++ '_' :: (toString j').toList := by
    have hl := congrArg toList h
    simpa [ruleTag, toList_append] using hl
  have hread := congrArg (takeWhile (· != '_')) hlists
  rw [takeWhile_append_of_pos (hsep i), takeWhile_append_of_pos (hsep i')] at hread
  have hi : (toString i).toList = (toString i').toList := by simpa using hread
  rw [hi] at hlists
  have hj := tail_eq_of_cons_eq (append_cancel_left hlists)
  exact ⟨toString_nat_inj (toList_inj.mp hi), toString_nat_inj (toList_inj.mp hj)⟩

theorem cnTag_inj {j : Nat} (h : cnTag i = cnTag j) : i = j := by
  have hl := congrArg toList h
  simp only [cnTag, toList_append] at hl
  exact toString_nat_inj (toList_inj.mp (append_cancel_left hl))

/-- The first index of a rule's tag is a digit, not the `c` of Chinese mode. -/
theorem ruleTag_ne_cnTag (i j k : Nat) : ruleTag i j ≠ cnTag k := by
  intro h
  have hl := congrArg toList h
  have hlists : (toString i).toList ++ '_' :: (toString j).toList =
      'c' :: ("n_expect_".toList ++ (toString k).toList) := by
    simpa [ruleTag, cnTag, toList_append] using hl
  cases hi : (toString i).toList with
  | nil => rw [hi] at hlists; exact absurd (head_eq_of_cons_eq hlists) (by decide)
  | cons c cs =>
    rw [hi] at hlists
    have hdigit := @isDigit_of_mem_toString i c (hi ▸ mem_cons_self)
    rw [head_eq_of_cons_eq hlists] at hdigit
    exact absurd hdigit (by decide)

theorem ruleTag_ne_tagDns (i j : Nat) : ruleTag i j ≠ tagDns := by
  intro h
  have hl := congrArg toList h
  simp [ruleTag, toList_append, tagDomesticDns, tagDns] at hl

theorem cnTag_ne_tagDns (i : Nat) : cnTag i ≠ tagDns := by
  intro h
  have hl := congrArg toList h
  simp [cnTag, toList_append, tagDomesticDns, tagDns] at hl

/-! ## Entries -/

variable {rules : List RoutingDomainRule} {b : ServersBean}

section
variable {remoteDns domesticDns : List String}

theorem mem_buildDnsCnMode (h : b ∈ buildDnsCnModeFromRoutingRules rules domesticDns) :
    b.address ∈ domesticDns ∧ (∃ i, b.tag = some (cnTag i)) ∧
      ∃ domains, b.domains = some domains ∧ domains ⊆ domainsOf rules tagDirect := by
  unfold buildDnsCnModeFromRoutingRules at h
  dsimp only at h
  split at h
  · cases h
  · split at h
    · cases h
    · obtain ⟨i, hi, rfl⟩ := mem_mapIdx.mp h
      exact ⟨getElem_mem hi, ⟨i, rfl⟩, _, rfl, filter_sublist.subset⟩

theorem cnTags_eq : ∃ n, (buildDnsCnModeFromRoutingRules rules domesticDns).filterMap (·.tag) =
    (range n).map cnTag := by
  unfold buildDnsCnModeFromRoutingRules
  dsimp only
  split
  · exact ⟨0, rfl⟩
  · split
    · exact ⟨0, rfl⟩
    · exact ⟨_, filterMap_mapIdx (fun _ _ => by rfl) domesticDns⟩

theorem mem_buildDnsFromRoutingRules :
    b ∈ buildDnsFromRoutingRules rules remoteDns domesticDns ↔
      ∃ i, ∃ h : i < rules.length, b ∈ ruleServers remoteDns domesticDns i rules[i] := by
  unfold buildDnsFromRoutingRules
  simp only [mem_flatten, mem_mapIdx]
  constructor
  · rintro ⟨_, ⟨i, hi, rfl⟩, hb⟩
    exact ⟨i, hi, hb⟩
  · rintro ⟨i, hi, hb⟩
    exact ⟨_, ⟨i, hi, rfl⟩, hb⟩

variable {rule : RoutingDomainRule}

theorem mem_ruleServers_direct (hrule : rule.outboundTag = tagDirect) :
    b ∈ ruleServers remoteDns domesticDns i rule ↔ ∃ j, ∃ h : j < domesticDns.length,
      { address := domesticDns[j], domains := some rule.domain, skipFallback := some true
        tag := some (ruleTag i j) } = b := by
  unfold ruleServers
  rw [if_pos hrule, mem_mapIdx]
  rfl

theorem ruleServers_blocked (hrule : rule.outboundTag = tagBlocked) :
    ruleServers remoteDns domesticDns i rule = [] := by
  unfold ruleServers
  rw [hrule, if_neg (by decide), if_pos rfl]

theorem ruleServers_proxied (hrule : rule.outboundTag = tagProxy) :
    ruleServers remoteDns domesticDns i rule =
      [{ address := remoteDns.headD "", domains := some rule.domain }] := by
  unfold ruleServers
  rw [hrule, if_neg (by decide), if_neg (by decide)]

/-- The tags of one rule's servers. -/
theorem ruleServers_tags (i : Nat) (rule : RoutingDomainRule) :
    ∃ n, (ruleServers remoteDns domesticDns i rule).filterMap (·.tag) =
      (range n).map (ruleTag i) := by
  unfold ruleServers
  split
  · exact ⟨_, filterMap_mapIdx (fun _ _ => by rfl) domesticDns⟩
  · split <;> exact ⟨0, rfl⟩

theorem exists_ruleTag_of_mem_rule
    (h : tag ∈ (ruleServers remoteDns domesticDns i rule).filterMap (·.tag)) :
    ∃ j, tag = ruleTag i j := by
  obtain ⟨n, htags⟩ := @ruleServers_tags remoteDns domesticDns i rule
  rw [htags] at h
  obtain ⟨j, -, rfl⟩ := mem_map.mp h
  exact ⟨j, rfl⟩

theorem exists_ruleTag_of_mem
    (h : tag ∈ (buildDnsFromRoutingRules rules remoteDns domesticDns).filterMap (·.tag)) :
    ∃ i j, tag = ruleTag i j := by
  obtain ⟨b, hb, htag⟩ := mem_filterMap.mp h
  obtain ⟨i, hi, hb⟩ := mem_buildDnsFromRoutingRules.mp hb
  exact ⟨i, exists_ruleTag_of_mem_rule (mem_filterMap.mpr ⟨b, hb, htag⟩)⟩

/-- Within a rule the server's index makes the difference, between rules the rule's. -/
theorem ruleTags_nodup :
    ((buildDnsFromRoutingRules rules remoteDns domesticDns).filterMap (·.tag)).Nodup := by
  unfold buildDnsFromRoutingRules
  rw [filterMap_flatten, nodup_flatten]
  constructor
  · intro l hl
    obtain ⟨_, hservers, rfl⟩ := mem_map.mp hl
    obtain ⟨i, hi, rfl⟩ := mem_mapIdx.mp hservers
    obtain ⟨n, htags⟩ := @ruleServers_tags remoteDns domesticDns i rules[i]
    rw [htags]
    exact nodup_range.map fun _ _ h => (ruleTag_inj h).2
  · rw [pairwise_iff_getElem]
    intro i i' hi hi' hlt tag htag htag'
    rw [getElem_map, getElem_mapIdx] at htag htag'
    obtain ⟨j, hj⟩ := exists_ruleTag_of_mem_rule htag
    obtain ⟨j', hj'⟩ := exists_ruleTag_of_mem_rule htag'
    exact absurd (ruleTag_inj (hj.symm.trans hj')).1 hlt.ne

end

/-! ## The DNS section -/

section
variable {env : AppEnv}

theorem server_mem_dnsServers : .server b ∈ dnsServers env rules ↔
    b ∈ buildDnsCnModeFromRoutingRules rules env.getDomesticDnsServers ∨
    b ∈ buildDnsFromRoutingRules rules env.getRemoteDnsServers env.getDomesticDnsServers := by
  simp [dnsServers]

theorem serverTags_dnsServers : serverTags (dnsServers env rules) =
    (buildDnsCnModeFromRoutingRules rules env.getDomesticDnsServers).filterMap (·.tag) ++
    (buildDnsFromRoutingRules rules env.getRemoteDnsServers env.getDomesticDnsServers).filterMap
      (·.tag) := by
  have haddress : (env.getRemoteDnsServers.map DnsServer.address).filterMap (·.tag) = [] := by
    rw [filterMap_map]
    exact filterMap_eq_nil_iff.mpr fun _ _ => rfl
  simp only [serverTags, dnsServers, filterMap_append, haddress, nil_append]
  rw [filterMap_map, filterMap_map]
  rfl

theorem serverTags_nodup : (serverTags (dnsServers env rules)).Nodup := by
  obtain ⟨n, hcn⟩ := @cnTags_eq rules env.getDomesticDnsServers
  rw [serverTags_dnsServers, hcn, nodup_append]
  refine ⟨nodup_range.map fun _ _ h => cnTag_inj h, ruleTags_nodup, ?_⟩
  rintro tag htag tag' htag' rfl
  obtain ⟨k, -, rfl⟩ := mem_map.mp htag
  obtain ⟨i, j, htag'⟩ := exists_ruleTag_of_mem htag'
  exact ruleTag_ne_cnTag i j k htag'.symm

theorem tagDns_notMem_serverTags : tagDns ∉ serverTags (dnsServers env rules) := by
  obtain ⟨n, hcn⟩ := @cnTags_eq rules env.getDomesticDnsServers
  rw [serverTags_dnsServers, hcn]
  intro h
  rcases mem_append.mp h with h | h
  · obtain ⟨k, -, htag⟩ := mem_map.mp h
    exact cnTag_ne_tagDns k htag
  · obtain ⟨i, j, htag⟩ := exists_ruleTag_of_mem h
    exact ruleTag_ne_tagDns i j htag.symm

variable {item : RulesetItem}

/-- The rule lists the tags of the rules' entries first. -/
theorem domesticDnsRules_eq :
    ∃ tags : List String, tags.Perm (serverTags (dnsServers env rules)) ∧
      domesticDnsRules env rules =
        if tags = [] then [] else [{ outboundTag := some tagDirect, inboundTag := some tags }] :=
  ⟨_, perm_append_comm.trans (.of_eq serverTags_dnsServers.symm), rfl⟩

theorem inboundTag_userRule (outbounds : List OutboundBean) (groups : KV String String) :
    (userRule env outbounds groups item).inboundTag = none := by
  unfold userRule retarget
  dsimp only
  split
  · rfl
  · split <;> rfl

/-- No other rule sends queries to `direct`. -/
theorem domesticRules_of_unified {config : V2rayConfig} (h : Unified env primary routing config) :
    domesticRules config.routing.rules =
      domesticDnsRules env (collectRoutingDomainRulesForDns env) := by
  obtain ⟨outbounds, front, -, hrules, hfront⟩ := h.planned.rules
  have hdnsOut : domesticRules front = [] := filter_eq_nil_iff.mpr fun rule hrule => by
    simp [(hfront rule hrule).2.1, tagDirect]
  have huser : domesticRules (userRules env outbounds (TagPlan.run env (primary :: routing)).groups) =
      [] := by
    refine filter_eq_nil_iff.mpr fun rule hrule => ?_
    obtain ⟨item, -, rfl⟩ := mem_map.mp hrule
    simp [inboundTag_userRule]
  have hdomestic : domesticRules (domesticDnsRules env (collectRoutingDomainRulesForDns env)) =
      domesticDnsRules env (collectRoutingDomainRulesForDns env) := by
    obtain ⟨tags, -, heq⟩ := @domesticDnsRules_eq (collectRoutingDomainRulesForDns env) env
    rw [heq]
    split <;> rfl
  have hproxy : domesticRules [dnsProxyRule (TagPlan.run env (primary :: routing)).groups] = [] := by
    unfold dnsProxyRule
    split <;> rfl
  have hcatch : domesticRules (catchAllRules env primary) = [] := by
    unfold catchAllRules
    split
    · split <;> rfl
    · rfl
  unfold domesticRules at *
  rw [hrules, filter_append, filter_append, filter_append, filter_append, hdnsOut, huser, hdomestic,
    hproxy, hcatch]
  simp

theorem headD_remote : env.getRemoteDnsServers.head? =
    some (env.getRemoteDnsServers.headD "") := by
  cases h : env.getRemoteDnsServers with
  | nil => exact absurd h env.getRemoteDnsServers_ne_nil
  | cons first rest => rfl

theorem normalizedOutboundTag_eq_direct :
    normalizedOutboundTag tag = tagDirect ↔ tag = tagDirect := by
  unfold normalizedOutboundTag
  split
  · next h => exact iff_of_true rfl h
  · next h =>
    refine iff_of_false ?_ h
    split <;> decide

theorem normalizedOutboundTag_eq_proxy (h : item.IsProxied) :
    normalizedOutboundTag item.outboundTag = tagProxy := by
  unfold normalizedOutboundTag
  rw [if_neg h.1, if_neg h.2]

theorem mem_domainRules :
    item ∈ env.domainRules ↔
    item ∈ env.enabledRules ∧ item.domain.getD [] ≠ [] := by
  simp [AppEnv.domainRules, mem_filter]

/-- The entries of the rules come from a rule with domains. -/
theorem exists_item_of_mem
    (h : b ∈ buildDnsFromRoutingRules (collectRoutingDomainRulesForDns env)
      env.getRemoteDnsServers env.getDomesticDnsServers) :
    ∃ i, ∃ item ∈ env.domainRules,
      b ∈ ruleServers env.getRemoteDnsServers env.getDomesticDnsServers i
        { domain := item.domain.getD [],
          outboundTag := normalizedOutboundTag item.outboundTag } := by
  obtain ⟨i, hi, hb⟩ := mem_buildDnsFromRoutingRules.mp h
  obtain ⟨item, hitem, hne, hrule⟩ :=
    mem_collectRoutingDomainRulesForDns.mp (getElem_mem hi)
  rw [hrule] at hb
  exact ⟨i, item, mem_domainRules.mpr ⟨hitem, hne⟩, hb⟩

/-- Each rule with domains has its entries in the section. -/
theorem exists_index_of_item (h : item ∈ env.domainRules) :
    ∃ i, ∀ b ∈ ruleServers env.getRemoteDnsServers env.getDomesticDnsServers i
        { domain := item.domain.getD [],
          outboundTag := normalizedOutboundTag item.outboundTag },
      .server b ∈ dnsServers env (collectRoutingDomainRulesForDns env) := by
  obtain ⟨hitem, hne⟩ := mem_domainRules.mp h
  obtain ⟨i, hi, hrule⟩ := getElem_of_mem
    (mem_collectRoutingDomainRulesForDns.mpr ⟨item, hitem, hne, rfl⟩)
  refine ⟨i, fun b hb => server_mem_dnsServers.mpr (.inr ?_)⟩
  exact mem_buildDnsFromRoutingRules.mpr ⟨i, hi, hrule.symm ▸ hb⟩

theorem exists_item_of_mem_domainsOf_direct
    (h : domain ∈ domainsOf (collectRoutingDomainRulesForDns env) tagDirect) :
    ∃ item ∈ env.domainRules, item.IsDirect ∧ domain ∈ item.domain.getD [] := by
  obtain ⟨rule, hrule, hmem⟩ := mem_flatMap.mp h
  obtain ⟨hrule, htag⟩ := mem_filter.mp hrule
  obtain ⟨item, hitem, hne, rfl⟩ := mem_collectRoutingDomainRulesForDns.mp hrule
  exact ⟨item, mem_domainRules.mpr ⟨hitem, hne⟩,
    normalizedOutboundTag_eq_direct.mp (of_decide_eq_true htag), hmem⟩

/-- What an entry of a rule says, by the kind of the rule. -/
theorem kind_of_mem_ruleServers
    (h : b ∈ ruleServers env.getRemoteDnsServers env.getDomesticDnsServers i
      { domain := item.domain.getD [],
        outboundTag := normalizedOutboundTag item.outboundTag }) :
    (item.IsDirect ∧ b.tag ≠ none ∧ ∃ address ∈ env.getDomesticDnsServers, b.IsFor address item) ∨
      (item.IsProxied ∧ b.tag = none ∧ b.IsFor (env.getRemoteDnsServers.headD "") item) := by
  by_cases hdirect : item.IsDirect
  · obtain ⟨j, hj, rfl⟩ :=
      (mem_ruleServers_direct (normalizedOutboundTag_eq_direct.mpr hdirect)).mp h
    exact .inl ⟨hdirect, Option.some_ne_none _, _, getElem_mem hj, rfl, rfl⟩
  · by_cases hblocked : item.outboundTag = tagBlocked
    · rw [ruleServers_blocked (normalizedOutboundTag_eq_blocked.mpr hblocked)] at h
      cases h
    · have hproxied : item.IsProxied := ⟨hdirect, hblocked⟩
      rw [ruleServers_proxied (normalizedOutboundTag_eq_proxy hproxied)] at h
      rw [mem_singleton.mp h]
      exact .inr ⟨hproxied, rfl, rfl, rfl⟩

/-- The servers of a successful build, apart from the entry of fake DNS, and their routing rule fit
the enabled rules. -/
theorem dns_segmentation {guid : String} {profile : ProfileItem}
    (hstored : env.store.serverConfig guid = some profile) (htype : profile.configType ≠ .custom)
    (hstatus : (getV2rayConfig env guid).status = true) :
    ∃ config servers, (getV2rayConfig env guid).content = .unified config ∧
      config.dns.bind (·.servers) =
        some (fakeDnsServers env (collectRoutingDomainRulesForDns env) ++ servers) ∧
      DnsSegmented env servers config.routing.rules := by
  obtain ⟨primary, routing, config, -, -, hcontent, hunified⟩ :=
    getV2rayConfig_unified hstored htype hstatus
  obtain ⟨st, -, -, hfinished⟩ := hunified.refines
  obtain ⟨hosts, hdns, -⟩ := hfinished.dns
  refine ⟨config, _, hcontent, hdns.servers, ?_⟩
  obtain ⟨tags, hperm, hrules⟩ := @domesticDnsRules_eq (collectRoutingDomainRulesForDns env) env
  have hdomestic := (domesticRules_of_unified hunified).trans hrules
  have hnil : tags = [] ↔ serverTags (dnsServers env (collectRoutingDomainRulesForDns env)) = [] := by
    rw [← List.length_eq_zero_iff, hperm.length_eq, List.length_eq_zero_iff]
  constructor
  case nodup => exact serverTags_nodup
  case absent =>
    rw [hdomestic, ← hnil]
    split
    · next h => exact iff_of_true rfl h
    · next h => exact iff_of_false (List.cons_ne_nil _ _) h
  case single =>
    intro hne
    rw [hdomestic, if_neg (mt hnil.mp hne)]
    exact ⟨_, tags, rfl, rfl, fun tag => hperm.mem_iff⟩
  case remote => exact tagDns_notMem_serverTags
  case direct =>
    intro item hitem hdirect address haddress
    obtain ⟨i, hmem⟩ := exists_index_of_item hitem
    obtain ⟨j, hj, rfl⟩ := List.getElem_of_mem haddress
    have hb := hmem _
      ((mem_ruleServers_direct (normalizedOutboundTag_eq_direct.mpr hdirect)).mpr ⟨j, hj, rfl⟩)
    exact ⟨_, hb, rfl, rfl⟩
  case proxied =>
    intro item hitem hproxied
    obtain ⟨i, hmem⟩ := exists_index_of_item hitem
    rw [ruleServers_proxied (normalizedOutboundTag_eq_proxy hproxied)] at hmem
    exact ⟨_, headD_remote, _, hmem _ List.mem_cons_self, ⟨rfl, rfl⟩, rfl⟩
  case tagged =>
    intro b hb htag
    rcases server_mem_dnsServers.mp hb with hb | hb
    · obtain ⟨haddress, -, domains, hdomains, hsub⟩ := mem_buildDnsCnMode hb
      exact ⟨haddress, domains, hdomains,
        fun domain h => exists_item_of_mem_domainsOf_direct (hsub h)⟩
    · obtain ⟨i, item, hitem, hb⟩ := exists_item_of_mem hb
      rcases kind_of_mem_ruleServers hb with
        ⟨hdirect, -, address, haddress, rfl, hdomains⟩ | ⟨-, hnone, -⟩
      · exact ⟨haddress, _, hdomains, fun domain h => ⟨item, hitem, hdirect, h⟩⟩
      · exact absurd hnone htag
  case untagged =>
    intro b hb htag
    rcases server_mem_dnsServers.mp hb with hb | hb
    · obtain ⟨-, ⟨i, hi⟩, -⟩ := mem_buildDnsCnMode hb
      exact absurd (hi.symm.trans htag) (Option.some_ne_none _)
    · obtain ⟨i, item, hitem, hb⟩ := exists_item_of_mem hb
      rcases kind_of_mem_ruleServers hb with ⟨-, hsome, -⟩ | ⟨hproxied, -, hfor⟩
      · exact absurd htag hsome
      · exact ⟨_, headD_remote, item, hitem, hproxied, hfor⟩

end

/-! ## Local DNS with fake addresses -/

/-- A server, the rule of a direct domain, and local and fake DNS switched on or off. -/
def fakeDnsEnv (fakeDns : Bool) : AppEnv :=
  { plainEnv [("s", vlessServer)] [directRule] with
    settingsBool := fun key =>
      if key = prefLocalDnsEnabled ∨ key = prefFakeDnsEnabled then some fakeDns
      else none }

/-- The entry in front has no tag, and is not for the first remote server. -/
theorem fake_entry_not_segmented :
    ∃ config servers, (getV2rayConfig (fakeDnsEnv true) "s").content = .unified config ∧
      config.dns.bind (·.servers) = some servers ∧
      ¬DnsSegmented (fakeDnsEnv true) servers config.routing.rules := by
  obtain ⟨primary, routing, config, -, -, hcontent, hunified⟩ :=
    @getV2rayConfig_unified (fakeDnsEnv true) "s" vlessServer rfl (by decide) (by decide)
  obtain ⟨st, -, -, hfinished⟩ := hunified.refines
  obtain ⟨hosts, hdns, -⟩ := hfinished.dns
  refine ⟨config, _, hcontent, hdns.servers, fun h => ?_⟩
  obtain ⟨first, hfirst, item, -, -, haddress, -⟩ := h.untagged
    (fakeDnsServer (collectRoutingDomainRulesForDns (fakeDnsEnv true))) mem_cons_self rfl
  rw [← haddress] at hfirst
  exact absurd hfirst (by decide)

theorem dns_segmented_without_fake :
    ∃ config servers, (getV2rayConfig (fakeDnsEnv false) "s").content = .unified config ∧
      config.dns.bind (·.servers) = some servers ∧
      DnsSegmented (fakeDnsEnv false) servers config.routing.rules :=
  @dns_segmentation (fakeDnsEnv false) "s" vlessServer rfl (by decide) (by decide)

end ZeroVpn
