import ZeroVpn.Core.ChainSpec
import ZeroVpn.Ui.ProfileEditors
import ZeroVpn.Verify.DefaultOutbound

/-!
# Chains in a configuration

`chains_wired`: in every configuration, whatever plan it is built from, the dialer path of a chain
visits what its members were converted to, and no path runs in a circle. `chain_keeps_hops_iff`:
the path of a saved chain has as many hops as the chain has members only while every member can
still be found and converted; a member that cannot is left out.
-/

namespace ZeroVpn

open CoreOutboundBuilder CoreConfigContextBuilder CoreConfigManager List Text

/-! ## Every plan -/

section
variable {env : AppEnv}

/-- The members of a chain, from the last to the first. -/
theorem resolvedProfiles_of_proxychain {tag : String} {profile : ProfileItem} {r : ResolvedOutbound}
    (h : resolveOutbound env tag profile = some r) (htype : profile.configType = .proxychain)
    (hmembers : isNullOrBlank profile.proxyChainProfiles = false) :
    r.resolvedProfiles =
      (((split ',' (orEmpty profile.proxyChainProfiles)).filterMap
        fun remark : String => env.getServerViaRemarks remark).filter (isMember env)).reverse := by
  unfold resolveOutbound at h
  rw [htype] at h
  cases h
  rw [resolveProxyChainProfiles, hmembers]
  dsimp only
  have hsome (names : List String) : (do let a ← names; pure (some a)) = names.map some :=
    map_eq_flatMap.symm
  rw [hsome, filterMap_map]
  rfl

/-- Chain wiring, for a configuration built from any plan; `added` lists what each entry of the
plan adds. The path from a chain's own tag visits what the convertible members were converted to,
each once and in their order, which is the reverse of the list in the profile; every path in the
configuration ends, visits no tag twice, and stays inside what one entry adds. -/
theorem chains_wired {context : CoreConfigContext} {config : V2rayConfig}
    (h : buildUnifiedConfig env context = .ok config) :
    ∃ added, Emission env templateTags context.resolvedOutbounds added ∧
      Forall₂ OutboundBean.SameHop config.outbounds
        (serviceOutbounds env (plannedOutbounds (added.headD []) added.tail)) ∧
      (∀ e ∈ context.resolvedOutbounds.zip added, e.1.resolvedType = .proxychain →
        e.1.tag ∈ e.2.map (·.tag) →
        ∃ o path, config.outbounds.find? (·.tag = e.1.tag) = some o ∧
          DialerPath config.outbounds o path ∧ (path.map (·.tag)).Nodup ∧
          Forall₂ OutboundBean.SameHop path e.2 ∧
          Forall₂ (MadeFrom env) path (e.1.resolvedProfiles.filter (convertible env))) ∧
      (∀ o ∈ config.outbounds, ∃ path, DialerPath config.outbounds o path ∧
        (path.map (·.tag)).Nodup ∧
        (path = [o] ∨ ∃ own ∈ added, o.tag ∈ own.map (·.tag) ∧
          ∀ t ∈ path.map (·.tag), t ∈ own.map (·.tag))) ∧
      ∀ tag profile r, resolveOutbound env tag profile = some r →
        profile.configType = .proxychain →
        isNullOrBlank profile.proxyChainProfiles = false →
        r.resolvedProfiles =
          (((split ',' (orEmpty profile.proxyChainProfiles)).filterMap
            fun remark : String => env.getServerViaRemarks remark).filter (isMember env)).reverse := by
  obtain ⟨primary, routing, list, lists, hplan, hemission, hout⟩ := emission_of_buildUnifiedConfig h
  rw [hplan]
  refine ⟨list :: lists, hemission, hout, fun e he htype htag => ?_,
    fun o ho => dialerPath_of_mem_planned hemission hout ho,
    fun tag profile r hr ht hmembers => resolvedProfiles_of_proxychain hr ht hmembers⟩
  have hne : e.1.resolvedType ≠ .policygroup := by rw [htype]; exact nofun
  have hfind := findable_planned hemission hout he
  rcases hemission.entry he with hnil | ⟨taken, pairs, hfree, -, hpairs, hadded⟩
  · rw [hnil] at htag
    cases htag
  have hcandidates : e.1.candidates = e.1.resolvedProfiles := by
    rw [ResolvedOutbound.candidates, htype]
  rw [hadded] at hfind htag ⊢
  obtain ⟨o, path, ho, hpath, hhops, hmade⟩ :=
    dialerPath_newOutbounds hne hpairs hfind (fun hnil => by rw [hnil] at htag; cases htag)
  refine ⟨o, path, ho, hpath, ?_, hhops, hcandidates ▸ hmade⟩
  rw [map_tag_of_forall₂ (hhops.imp fun _ _ hop => hop.entry)]
  exact (newOutbounds_fresh hfree hpairs).1

end

/-! ## The path of the selected profile -/

section
variable {env : AppEnv} {primary : ResolvedOutbound} {routing : List ResolvedOutbound}
  {list : List OutboundBean} {lists : List (List OutboundBean)} {st : BuildState}
  {config : V2rayConfig}

/-- The dialer path from the outbound `proxy`. -/
def V2rayConfig.HasProxyPath (config : V2rayConfig) (length : Nat) : Prop :=
  ∃ o path, config.outbounds.find? (·.tag = AppConfig.tagProxy) = some o ∧
    DialerPath config.outbounds o path ∧ path.length = length

/-- Only the first entry adds an outbound `proxy`. -/
theorem proxy_notMem_routing (h : Emission env templateTags (primary :: routing) (list :: lists))
    (hrouting : ∀ r ∈ routing, Secondary r) : AppConfig.tagProxy ∉ lists.flatten.map (·.tag) := by
  intro hmem
  obtain ⟨tags, htail⟩ := h.tail
  rcases htail.mem_tags hmem with ⟨r, hr, htag⟩ | hderived
  · exact (hrouting r hr).tag (htag ▸ by decide)
  · exact absurd hderived (by decide)

/-- What the first entry adds: all its convertible profiles, under the tag `proxy`. -/
theorem list_of_emission (h : Emission env templateTags (primary :: routing) (list :: lists))
    (hfirst : primary.tag = AppConfig.tagProxy) :
    ∃ pairs, convertProfiles env primary.candidates = .ok pairs ∧
      list = newOutbounds primary templateTags pairs := by
  cases h with
  | taken htag _ => exact absurd htag (by rw [hfirst]; decide)
  | added _ hpairs _ => exact ⟨_, hpairs, rfl⟩

/-- The path has a hop for each convertible profile of the selected entry. -/
theorem hasProxyPath_iff (h : Emitted env primary routing list lists st config)
    (hfirst : primary.tag = AppConfig.tagProxy) (hrouting : ∀ r ∈ routing, Secondary r)
    (ht : primary.resolvedType ≠ .policygroup) {n : Nat} (hn : 0 < n) :
    config.HasProxyPath n ↔ (primary.candidates.filter (convertible env)).length = n := by
  obtain ⟨pairs, hpairs, hlist⟩ := list_of_emission h.emission hfirst
  have hnil := newOutbounds_eq_nil_iff hfirst hpairs
  change newOutbounds primary templateTags pairs = [] ↔ _ at hnil
  rw [← hlist, TagPlan.hasOutbound_iff, not_not] at hnil
  by_cases hempty : list = []
  · -- without a hop there is no outbound of that tag
    refine iff_of_false ?_ ?_
    · rintro ⟨o, path, ho, -, -⟩
      have htag : o.tag = AppConfig.tagProxy := by
        have hfound := find?_some ho
        simpa using hfound
      have hmem : AppConfig.tagProxy ∈ config.outboundTags :=
        htag ▸ mem_map_of_mem (mem_of_find?_eq_some ho)
      rw [h.outboundTags, plannedOutbounds, hempty, map_append] at hmem
      rcases mem_append.mp hmem with hmem | hdns
      · rcases mem_append.mp hmem with htemplate | hrest
        · exact absurd htemplate (by decide)
        · exact proxy_notMem_routing h.emission hrouting hrest
      · split at hdns
        · exact absurd hdns (by decide)
        · cases hdns
    · rw [hnil.mp hempty]
      exact Nat.ne_of_lt hn
  · have hfind := findable_planned h.emission h.outbounds (mem_cons_self (a := (primary, list)))
    rw [hlist] at hfind hempty
    obtain ⟨o, path, ho, hpath, -, hmade⟩ := dialerPath_newOutbounds ht hpairs hfind hempty
    rw [hfirst] at ho
    rw [← hmade.length_eq]
    constructor
    · rintro ⟨o', path', ho', hpath', hlen⟩
      cases Option.some_inj.mp (ho.symm.trans ho')
      rw [hpath.unique hpath', hlen]
    · exact fun hlen => ⟨o, path, ho, hpath, hlen⟩

end

/-! ## Saved chains -/

/-- The name leads to a profile that can be a hop: one with a usable server and of a simple type
that has an outbound. -/
def keepsHop (env : AppEnv) (name : String) : Bool :=
  match env.getServerViaRemarks name with
  | none => false
  | some profile => isMember env profile && convertible env profile

/-- The names that a chain lists. -/
def ProfileItem.chainNames (profile : ProfileItem) : List String :=
  split ',' (orEmpty profile.proxyChainProfiles)

theorem length_hops (env : AppEnv) (names : List String) :
    (((names.filterMap fun remark : String => env.getServerViaRemarks remark).filter
      (isMember env)).reverse.filter (convertible env)).length = names.countP (keepsHop env) := by
  rw [filter_reverse, length_reverse, filter_filter, ← countP_eq_length_filter,
    countP_filterMap]
  refine countP_congr fun name _ => ?_
  unfold keepsHop
  cases env.getServerViaRemarks name with
  | none => exact Iff.rfl
  | some profile =>
    rw [Option.map_some, Option.getD_some, Bool.and_comm]

namespace ServerProxyChainActivity

variable {env : AppEnv} {subscriptionId : Option String} {edited : Option ProfileItem}
  {remarks : String} {members : List String} {p : ProfileItem}

/-- What the editor saves. -/
theorem saveServer_eq_some (h : saveServer env subscriptionId edited remarks members = some p) :
    2 ≤ members.length ∧
      p.configType = (edited.getD { configType := .proxychain }).configType ∧
      ∃ names, names = (members.map trim).filter (· ≠ "") ∧ names.length = members.length ∧
        p.proxyChainProfiles = some (",".intercalate names) ∧
        ∀ name ∈ names, isValidMember env name = true := by
  unfold saveServer at h
  dsimp only at h
  split at h
  · cases h
  split at h
  · cases h
  next hlen =>
  split at h
  · cases h
  next htwo =>
  split at h
  · cases h
  next hvalid =>
  have hlen := not_not.mp hlen
  have hsubscription (config : ProfileItem) :
      (config.withSubscription subscriptionId).configType = config.configType ∧
        (config.withSubscription subscriptionId).proxyChainProfiles =
          config.proxyChainProfiles := by
    unfold ProfileItem.withSubscription
    split <;> exact ⟨rfl, rfl⟩
  cases h
  refine ⟨hlen ▸ Nat.le_of_not_lt htwo, (hsubscription _).1, _, rfl, hlen, (hsubscription _).2, ?_⟩
  simpa using hvalid

end ServerProxyChainActivity

/-- A joined list of several names is not blank. -/
theorem isBlank_intercalate {names : List String} (h : 2 ≤ names.length) :
    isBlank (",".intercalate names) = false := by
  match names with
  | a :: b :: rest =>
    have hcomma : ',' ∈ (",".intercalate (a :: b :: rest)).toList := by
      simp
    refine Bool.eq_false_iff.mpr fun hall => ?_
    exact absurd (all_eq_true.mp hall _ hcomma) (by decide)

/-- For a chain that the editor saved with `members`, and any state of the app in which it is still
stored: if the build succeeds, the path from the outbound `proxy` has one hop for each member
exactly if as many of the listed names lead to profiles that can be hops. -/
theorem chain_keeps_hops_iff {env₀ env : AppEnv} {guid : String} {subscriptionId : Option String}
    {edited : Option ProfileItem} {remarks : String} {members : List String} {p : ProfileItem}
    (hsaved : ServerProxyChainActivity.saveServer env₀ subscriptionId edited remarks members = some p)
    (htype : p.configType = .proxychain) (hstored : env.store.serverConfig guid = some p)
    (hstatus : (getV2rayConfig env guid).status = true) :
    ∃ config, (getV2rayConfig env guid).content = .unified config ∧
      (config.HasProxyPath members.length ↔
        p.chainNames.countP (keepsHop env) = members.length) := by
  obtain ⟨htwo, -, names, -, hnames, hprofiles, -⟩ :=
    ServerProxyChainActivity.saveServer_eq_some hsaved
  obtain ⟨primary, routing, list, lists, st, config, hprimary, hplan, -, hcontent, hemitted⟩ :=
    getV2rayConfig_emitted hstored (by rw [htype]; exact nofun) hstatus
  have hresolved := resolved_of_eq_some hprimary
  have hrouting : ∀ r ∈ routing, Secondary r := by
    obtain ⟨primary', routing', -, hbuild, hsecondary⟩ :=
      @build_of_stored env p guid hstored (by rw [htype]; exact nofun)
    rw [planOf, hbuild] at hplan
    exact (cons.inj hplan).2 ▸ hsecondary
  have hgroup : primary.resolvedType ≠ .policygroup := fun ht => by
    rw [hresolved.group.mp ht] at htype
    cases htype
  have hblank : isNullOrBlank p.proxyChainProfiles = false := by
    rw [hprofiles]
    exact isBlank_intercalate (hnames ▸ htwo)
  refine ⟨config, hcontent, ?_⟩
  rw [hasProxyPath_iff hemitted hresolved.tag hrouting hgroup (Nat.lt_of_lt_of_le Nat.two_pos htwo),
    hresolved.candidates, resolvedProfiles_of_proxychain hprimary htype hblank, length_hops]
  rfl

/-! ## Two hops, and one that was renamed -/

def hopServer (name : String) : ProfileItem := { vlessServer with remarks := name }

def twoHops : ProfileItem where
  configType := .proxychain
  remarks := "chain"
  proxyChainProfiles := some "entry,exit"
  description := some "entry -> exit"

/-- A chain and its members. -/
def chainEnv (entry exit : String) : AppEnv :=
  plainEnv [("c", twoHops), ("a", hopServer entry), ("b", hopServer exit)] []

def chainContext : CoreConfigContext where
  guid := "c"
  resolvedOutbounds :=
    [{ tag := AppConfig.tagProxy, profile := twoHops
       resolvedProfiles := [hopServer "exit", hopServer "entry"], resolvedType := .proxychain }]

/-- Traffic enters at the member that the chain lists first. -/
theorem chainEnv_wired :
    build (chainEnv "entry" "exit") "c" = some chainContext ∧
      ∃ config o path, buildUnifiedConfig (chainEnv "entry" "exit") chainContext = .ok config ∧
        config.outbounds.find? (·.tag = AppConfig.tagProxy) = some o ∧
        DialerPath config.outbounds o path ∧
        Forall₂ (MadeFrom (chainEnv "entry" "exit")) path
          [hopServer "exit", hopServer "entry"] := by
  refine ⟨rfl, ?_⟩
  obtain ⟨config, hconfig⟩ :
      ∃ config, buildUnifiedConfig (chainEnv "entry" "exit") chainContext = .ok config := ⟨_, rfl⟩
  obtain ⟨added, hemission, -, hwired, -⟩ := chains_wired hconfig
  obtain ⟨list, rfl⟩ := length_eq_one_iff.mp hemission.length
  have hadded : TagPlan.addedTags (chainEnv "entry" "exit") templateTags
      chainContext.resolvedOutbounds = [["proxy", "proxy-proxy-1"]] := by decide
  have htags : list.map (·.tag) = ["proxy", "proxy-proxy-1"] :=
    (cons.inj (hemission.added_tags.trans hadded)).1
  obtain ⟨o, path, ho, hpath, -, -, hmade⟩ :=
    hwired _ mem_cons_self rfl (htags ▸ mem_cons_self)
  exact ⟨config, o, path, hconfig, ho, hpath, hmade⟩

theorem chainEnv_keeps_hops :
    ∃ config, (getV2rayConfig (chainEnv "entry" "exit") "c").content = .unified config ∧
      config.HasProxyPath 2 := by
  have hsaved : ServerProxyChainActivity.saveServer (chainEnv "entry" "exit") none none "chain"
      ["entry", "exit"] = some twoHops := rfl
  obtain ⟨config, hcontent, hiff⟩ :=
    @chain_keeps_hops_iff _ (chainEnv "entry" "exit") "c" _ _ _ _ _ hsaved rfl rfl (by decide)
  exact ⟨config, hcontent, hiff.mpr (by decide)⟩

/-- After the exit was renamed, the saved chain connects through the entry alone. -/
theorem renamed_exit_dropped :
    ServerProxyChainActivity.saveServer (chainEnv "entry" "exit") none none "chain"
        ["entry", "exit"] = some twoHops ∧
      (getV2rayConfig (chainEnv "entry" "exit-2") "c").status = true ∧
      ∃ config, (getV2rayConfig (chainEnv "entry" "exit-2") "c").content = .unified config ∧
        ¬config.HasProxyPath 2 ∧ config.HasProxyPath 1 := by
  refine ⟨rfl, by decide, ?_⟩
  obtain ⟨primary, routing, list, lists, st, config, hprimary, hplan, -, hcontent, hemitted⟩ :=
    @getV2rayConfig_emitted (chainEnv "entry" "exit-2") "c" twoHops rfl (by decide) (by decide)
  cases hplan
  have hiff (n : Nat) (hn : 0 < n) :=
    hasProxyPath_iff hemitted rfl (forall_mem_nil _) (by decide) hn
  refine ⟨config, hcontent, fun hpath => ?_, (hiff 1 (by decide)).mpr (by decide)⟩
  exact absurd ((hiff 2 (by decide)).mp hpath) (by decide)

end ZeroVpn
