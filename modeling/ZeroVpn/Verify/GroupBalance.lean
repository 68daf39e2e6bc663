import ZeroVpn.Core.BalancerSpec
import ZeroVpn.Verify.DefaultOutbound

/-!
# The members of balancers

The core takes as candidates of a balancer the outbounds whose tag starts with one of its selectors.
The balancer of a group selects by the group's name, so that it also selects what other entries add
under such a tag; and the balancer of a group called `main` has the tag of the selected group's
balancer. `groups_balance_own_iff` says that nothing else can go wrong.
-/

namespace ZeroVpn

open CoreOutboundBuilder CoreConfigContextBuilder CoreConfigManager TagPlan AppConfig List Text

/-- The core selects the candidates of a balancer by the start of their tags. -/
def BalancerBean.Selects (b : BalancerBean) (tag : String) : Prop :=
  ∃ start ∈ b.selector, startsWith tag start = true

/-- Two entries recorded with balancers have different ones. -/
def DifferentBalancers (st : BuildState) (r r' : ResolvedOutbound) : Prop :=
  ∀ b b', st.policyGroupBalancerTags.get r.tag = some b →
    st.policyGroupBalancerTags.get r'.tag = some b' → b ≠ b'

instance (st : BuildState) : Std.Symm (DifferentBalancers st) :=
  ⟨fun _ _ h b b' hb hb' => (h b' b hb' hb).symm⟩

/-- In a plan whose entries add `lists`: every recorded group has one balancer, which selects what
the group adds, an outbound for each convertible profile; and different groups have different
balancers. -/
structure GroupsBalanceOwn (env : AppEnv) (plan : List ResolvedOutbound)
    (lists : List (List OutboundBean)) (st : BuildState) (config : V2rayConfig) : Prop where
  own : ∀ e ∈ plan.zip lists, e.1.resolvedType = .policygroup →
    ∀ b, st.policyGroupBalancerTags.get e.1.tag = some b →
      ∃ balancer, config.balancerList.filter (·.tag = b) = [balancer] ∧
        (∀ t ∈ config.outboundTags, balancer.Selects t ↔ t ∈ e.2.map (·.tag)) ∧
        Forall₂ (MadeFrom env) e.2 (e.1.resolvedProfiles.filter (convertible env))
  distinct : plan.Pairwise (DifferentBalancers st)

/-- No entry adds a tag under the name of a group with members but the group itself, and not both
the selected profile and one called `main` are groups with members. -/
structure SeparateGroups (plan : List ResolvedOutbound) (added : List (List String)) : Prop where
  members : ∀ e ∈ plan.zip added, e.1.resolvedType = .policygroup → e.2 ≠ [] →
    ∀ t ∈ added.flatten, startsWith t (memberTagStart e.1.tag) = true → t ∈ e.2
  names : ¬(AppConfig.tagProxy ∈ groupNames plan added ∧
    "main" ∈ groupNames plan added)

/-! ## Tags -/

variable {t tag : String}

theorem balancerTagOf_eq_iff :
    balancerTagOf t = balancerTagOf t' ↔
    t = t' ∨ (t = tagProxy ∧ t' = "main") ∨ (t = "main" ∧ t' = tagProxy) := by
  have hmain {t : String} : tagBalancer = tagBalancerPre ++ "-" ++ t ↔
      "main" = t := by
    have hsplit : tagBalancer = tagBalancerPre ++ "-" ++ "main" := by decide
    rw [hsplit, String.append_right_inj]
  have hne : ("main" : String) ≠ tagProxy := by decide
  unfold balancerTagOf
  by_cases ht : t = tagProxy
  · by_cases ht' : t' = tagProxy
    · simp [ht, ht']
    · rw [if_pos ht, if_neg ht', hmain]
      subst ht
      simp [Ne.symm ht', eq_comm, hne.symm]
  · by_cases ht' : t' = tagProxy
    · rw [if_neg ht, if_pos ht', eq_comm, hmain]
      subst ht'
      simp [ht, eq_comm]
    · simp [ht, ht']

theorem notMem_toString_dash (n : Nat) : '-' ∉ (toString n).toList := by
  intro hmem
  have hdigit : '-'.isDigit = true := by
    have hlist : (toString n).toList = Nat.toDigits 10 n := Nat.toList_repr
    rw [hlist] at hmem
    exact Nat.isDigit_of_mem_toDigits (by decide) (by decide) hmem
  exact absurd hdigit (by decide)

/-- The tag of a member tells its place. -/
theorem index_of_memberTag (h : memberTag tag i p = memberTag tag j q) : i = j := by
  unfold memberTag at h
  simp only [String.append_assoc, String.append_right_inj] at h
  rw [← String.append_assoc, ← String.append_assoc] at h
  have hcut := congrArg (splitFirst '-') h
  rw [splitFirst_append rfl (notMem_toString_dash _),
    splitFirst_append rfl (notMem_toString_dash _)] at hcut
  exact Nat.succ.inj (toString_inj (Prod.mk.inj hcut).1)

/-- If no tag under the group's name is taken, every member gets an outbound. -/
theorem memberProfiles_eq_self (h : ∀ i, index ≤ i → ∀ p, memberTag tag i p ∉ existingTags) :
    memberProfiles tag index existingTags profiles = profiles := by
  induction profiles generalizing index existingTags with
  | nil => rfl
  | cons profile profiles ih =>
    rw [memberProfiles, if_neg (h index (Nat.le_refl _) profile)]
    refine congrArg (profile :: ·) (ih fun i hi p hmem => ?_)
    rcases mem_append.mp hmem with hmem | hmem
    · exact h i (Nat.le_of_succ_le hi) p hmem
    · have hplace := index_of_memberTag (mem_singleton.mp hmem)
      omega

/-! ## Groups of a plan -/

/-- A plan with its emission, its state and its configuration. -/
structure GroupPlan (env : AppEnv) (plan : List ResolvedOutbound)
    (lists : List (List OutboundBean)) (st : BuildState) (config : V2rayConfig) : Prop where
  nodup : (plan.map (·.tag)).Nodup
  emission : Emission env templateTags plan lists
  balanced : Balanced (groupNames plan (addedTags env templateTags plan)) st
  balancers : config.balancerList = st.config.balancerList
  tags : ∀ t, t ∈ config.outboundTags ↔ t ∈ (addedTags env templateTags plan).flatten ∨
    t ∈ templateTags ∨ (needsDnsOutbound env = true ∧ t = "dns-out")

namespace GroupPlan

section
variable {env : AppEnv} {plan : List ResolvedOutbound} {lists : List (List OutboundBean)}
  {st : BuildState} {config : V2rayConfig}

theorem zip_added (h : GroupPlan env plan lists st config) :
    plan.zip (addedTags env templateTags plan) =
      (plan.zip lists).map fun e => (e.1, e.2.map (·.tag)) := by
  rw [← h.emission.added_tags, zip_map_right]
  rfl

variable {e : ResolvedOutbound × List OutboundBean}

theorem mem_zip_added (h : GroupPlan env plan lists st config) (he : e ∈ plan.zip lists) :
    (e.1, e.2.map (·.tag)) ∈ plan.zip (addedTags env templateTags plan) := by
  rw [h.zip_added]
  exact mem_map_of_mem he

/-- An entry is known by its name. -/
theorem eq_of_tag (h : GroupPlan env plan lists st config) (he : e ∈ plan.zip lists)
    (he' : e' ∈ plan.zip lists) (htag : e.1.tag = e'.1.tag) : e = e' := by
  have hmap : ((plan.zip lists).map fun e => e.1.tag) = plan.map (·.tag) := by
    have hfst : (plan.zip lists).map Prod.fst = plan :=
      map_fst_zip (Nat.le_of_eq h.emission.length.symm)
    conv_rhs => rw [← hfst, map_map]
    rfl
  exact inj_on_of_nodup_map (hmap ▸ h.nodup) he he' htag

theorem mem_groupNames_iff (h : GroupPlan env plan lists st config) (he : e ∈ plan.zip lists) :
    e.1.tag ∈ groupNames plan (addedTags env templateTags plan) ↔
      e.1.resolvedType = .policygroup ∧ e.2 ≠ [] := by
  rw [mem_groupNames, h.zip_added]
  constructor
  · rintro ⟨_, hmem, htype, hne, htag⟩
    obtain ⟨e', he', rfl⟩ := mem_map.mp hmem
    cases h.eq_of_tag he' he htag
    exact ⟨htype, fun hnil => hne (by rw [hnil]; rfl)⟩
  · rintro ⟨htype, hne⟩
    exact ⟨_, mem_map_of_mem he, htype, by simpa using hne, rfl⟩

/-- What a group adds is under its name. -/
theorem startsWith_of_mem (h : GroupPlan env plan lists st config) (he : e ∈ plan.zip lists)
    (htype : e.1.resolvedType = .policygroup) (ht : t ∈ e.2.map (·.tag)) :
    startsWith t (memberTagStart e.1.tag) = true := by
  rcases h.emission.entry he with hnil | ⟨taken, pairs, -, -, hpairs, hlist⟩
  · rw [hnil] at ht
    cases ht
  · rw [hlist, newOutbounds_tags_eq hpairs, entryTags, htype] at ht
    exact startsWith_of_mem_memberTags ht

/-- Without foreign tags under its name, a group has an outbound for each convertible profile. -/
theorem members_of_separate (h : GroupPlan env plan lists st config)
    (hsep : SeparateGroups plan (addedTags env templateTags plan))
    (he : e ∈ plan.zip lists) (htype : e.1.resolvedType = .policygroup) (hne : e.2 ≠ []) :
    Forall₂ (MadeFrom env) e.2 (e.1.resolvedProfiles.filter (convertible env)) := by
  rcases h.emission.entry he with hnil | ⟨taken, pairs, hfree, htaken, hpairs, hlist⟩
  · exact absurd hnil hne
  have hcandidates : e.1.candidates = e.1.resolvedProfiles := by
    rw [ResolvedOutbound.candidates, htype]
  have hmade := newOutbounds_forall₂ hpairs taken
  have hself : entryProfiles e.1 taken (e.1.candidates.filter (convertible env)) =
      e.1.candidates.filter (convertible env) := by
    rw [entryProfiles, htype]
    refine memberProfiles_eq_self fun i _ p hmem => ?_
    have hstart := startsWith_memberTag e.1.tag i p
    rcases htaken _ hmem with htemplate | hadded
    · have hbuiltin : ∀ t ∈ templateTags, t ∈ builtinOutboundTags := by decide
      exact notMem_builtin_of_isDerived (isDerived_of_startsWith hstart)
        (hbuiltin _ htemplate)
    · -- the member itself would have added a tag that was taken
      rw [h.emission.flatten_tags] at hadded
      have hown := hsep.members _ (h.mem_zip_added he) htype (by simpa using hne) _ hadded hstart
      rw [hlist] at hown
      exact (newOutbounds_fresh hfree hpairs).2 _ hown hmem
  rwa [hself, ← hlist, hcandidates] at hmade

/-- Where the names do not clash, a recorded group has one balancer, which selects by its name. -/
theorem balancer_of_names (h : GroupPlan env plan lists st config)
    (hnames : ¬(tagProxy ∈ groupNames plan
        (addedTags env templateTags plan) ∧
      "main" ∈ groupNames plan (addedTags env templateTags plan)))
    (ht : t ∈ groupNames plan (addedTags env templateTags plan)) :
    ∃ balancer, config.balancerList.filter (·.tag = balancerTagOf t) = [balancer] ∧
      balancer.selector = [memberTagStart t] := by
  obtain ⟨balancer, hmem, htag⟩ := mem_map.mp (h.balanced.complete t ht)
  refine ⟨balancer, ?_, ?_⟩
  · rw [h.balancers, ← htag]
    exact filter_key_eq_singleton h.balanced.nodup hmem
  · obtain ⟨t', ht', htag', hselector⟩ := h.balanced.sound balancer hmem
    rcases balancerTagOf_eq_iff.mp (htag.symm.trans htag') with rfl | ⟨rfl, rfl⟩ | ⟨rfl, rfl⟩
    · exact hselector
    · exact absurd ⟨ht, ht'⟩ hnames
    · exact absurd ⟨ht', ht⟩ hnames

theorem own_of_separate (h : GroupPlan env plan lists st config)
    (hsep : SeparateGroups plan (addedTags env templateTags plan))
    (he : e ∈ plan.zip lists) {b : String} (hb : st.policyGroupBalancerTags.get e.1.tag = some b) :
    ∃ balancer, config.balancerList.filter (·.tag = b) = [balancer] ∧
      (∀ t ∈ config.outboundTags, balancer.Selects t ↔ t ∈ e.2.map (·.tag)) ∧
      Forall₂ (MadeFrom env) e.2 (e.1.resolvedProfiles.filter (convertible env)) := by
  obtain ⟨hmem, rfl⟩ := (h.balanced.recorded _ _).mp hb
  obtain ⟨htype, hne⟩ := (h.mem_groupNames_iff he).mp hmem
  obtain ⟨balancer, hfilter, hselector⟩ := h.balancer_of_names hsep.names hmem
  refine ⟨balancer, hfilter, fun t ht => ?_, h.members_of_separate hsep he htype hne⟩
  unfold BalancerBean.Selects
  rw [hselector]
  simp only [mem_singleton, exists_eq_left]
  constructor
  · intro hstart
    have hderived := isDerived_of_startsWith hstart
    rcases (h.tags t).mp ht with hadded | htemplate | ⟨-, rfl⟩
    · exact hsep.members _ (h.mem_zip_added he) htype (by simpa using hne) t hadded hstart
    · have hbuiltin : ∀ t ∈ templateTags, t ∈ builtinOutboundTags := by decide
      exact absurd (hbuiltin t htemplate) (notMem_builtin_of_isDerived hderived)
    · exact absurd hderived (by decide)
  · exact h.startsWith_of_mem he htype

/-- The groups of a plan balance over their own members exactly if they are separate. -/
theorem balance_own_iff (h : GroupPlan env plan lists st config) :
    GroupsBalanceOwn env plan lists st config ↔
      SeparateGroups plan (addedTags env templateTags plan) := by
  constructor
  · intro hown
    have hrecorded : ∀ t ∈ groupNames plan (addedTags env templateTags plan),
        st.policyGroupBalancerTags.get t = some (balancerTagOf t) := fun t ht =>
      (h.balanced.recorded t _).mpr ⟨ht, rfl⟩
    have hentry : ∀ t ∈ groupNames plan (addedTags env templateTags plan),
        ∃ r ∈ plan, r.tag = t := by
      intro t ht
      obtain ⟨e, he, -, -, htag⟩ := mem_groupNames.mp ht
      exact ⟨e.1, (of_mem_zip he).1, htag⟩
    have hnames : ¬(tagProxy ∈ groupNames plan
        (addedTags env templateTags plan) ∧
        "main" ∈ groupNames plan (addedTags env templateTags plan)) := by
      rintro ⟨hproxy, hmain⟩
      obtain ⟨r, hr, htag⟩ := hentry _ hproxy
      obtain ⟨r', hr', htag'⟩ := hentry _ hmain
      have hne : r ≠ r' := by
        rintro rfl
        exact absurd (htag.symm.trans htag') (by decide)
      refine hown.distinct.forall hr hr' hne _ _ (htag ▸ hrecorded _ hproxy)
        (htag' ▸ hrecorded _ hmain) ?_
      rw [htag, htag']
      decide
    refine ⟨fun e he htype hne t ht hstart => ?_, hnames⟩
    rw [h.zip_added] at he
    obtain ⟨e, hin, rfl⟩ := mem_map.mp he
    have hmem := (h.mem_groupNames_iff hin).mpr ⟨htype, by simpa using hne⟩
    obtain ⟨balancer, hfilter, hselector⟩ := h.balancer_of_names hnames hmem
    obtain ⟨balancer', hfilter', hselects, -⟩ := hown.own e hin htype _ (hrecorded _ hmem)
    cases singleton_inj.mp (hfilter.symm.trans hfilter')
    refine (hselects t ((h.tags t).mpr (.inl ht))).mp ?_
    exact ⟨_, by rw [hselector]; exact mem_singleton_self _, hstart⟩
  · intro hsep
    refine ⟨fun e he _ b hb => h.own_of_separate hsep he hb, ?_⟩
    have hpair : plan.Pairwise fun r r' => r.tag ≠ r'.tag := pairwise_map.mp h.nodup
    refine hpair.imp fun {r r'} hne b b' hb hb' heq => ?_
    obtain ⟨hmem, rfl⟩ := (h.balanced.recorded _ _).mp hb
    obtain ⟨hmem', rfl⟩ := (h.balanced.recorded _ _).mp hb'
    rcases balancerTagOf_eq_iff.mp heq with htag | ⟨htag, htag'⟩ | ⟨htag, htag'⟩
    · exact hne htag
    · exact hsep.names ⟨htag ▸ hmem, htag' ▸ hmem'⟩
    · exact hsep.names ⟨htag' ▸ hmem', htag ▸ hmem⟩

end
end GroupPlan

/-! ## The configuration of a stored profile -/

section
variable {env : AppEnv} {guid : String} {profile : ProfileItem}

theorem planOf_tags_nodup : ((planOf env guid).map (·.tag)).Nodup := by
  unfold planOf
  cases hbuild : build env guid with
  | none => exact nodup_nil
  | some context => exact build_tags_nodup hbuild

theorem getV2rayConfig_groupPlan (hstored : env.store.serverConfig guid = some profile)
    (htype : profile.configType ≠ .custom) (hstatus : (getV2rayConfig env guid).status = true) :
    ∃ lists st config, planState env guid = .ok st ∧
      (getV2rayConfig env guid).content = .unified config ∧
      GroupPlan env (planOf env guid) lists st config := by
  obtain ⟨primary, routing, list, lists, st, config, -, hplan, hstate, hcontent, hemitted⟩ :=
    getV2rayConfig_emitted hstored htype hstatus
  have hemission := hemitted.emission
  rw [← hplan] at hemission
  refine ⟨list :: lists, st, config, hstate, hcontent, planOf_tags_nodup, hemission,
    balanced_of_planState hstate, congrArg (·.getD []) hemitted.balancers, fun t => ?_⟩
  have htemplate : v2rayConfigTemplate.outbounds.tail.map (·.tag) = templateTags := rfl
  rw [hemitted.outboundTags, mem_append, ← hemission.flatten_tags, ← or_assoc]
  refine or_congr ?_ ?_
  · simp only [← htemplate, mem_map, mem_plannedOutbounds, or_and_right, exists_or]
  · cases needsDnsOutbound env <;> simp

/-- For a stored profile that is not a custom configuration: in a successful build, every policy
group balances over exactly its own members, and different groups have different balancers, exactly
if the groups are separate. -/
theorem groups_balance_own_iff (hstored : env.store.serverConfig guid = some profile)
    (htype : profile.configType ≠ .custom) (hstatus : (getV2rayConfig env guid).status = true) :
    ∃ lists st config, planState env guid = .ok st ∧
      (getV2rayConfig env guid).content = .unified config ∧
      Emission env templateTags (planOf env guid) lists ∧
      (GroupsBalanceOwn env (planOf env guid) lists st config ↔
        SeparateGroups (planOf env guid)
          (addedTags env templateTags (planOf env guid))) := by
  obtain ⟨lists, st, config, hstate, hcontent, hgroups⟩ :=
    getV2rayConfig_groupPlan hstored htype hstatus
  exact ⟨lists, st, config, hstate, hcontent, hgroups.emission, hgroups.balance_own_iff⟩

end

/-! ## Two groups, one name inside the other -/

/-- A group over every server, under a name. -/
def namedGroup (name : String) : ProfileItem where
  configType := .policygroup
  remarks := name

def ruleToGroup (tag : String) : RulesetItem where
  domain := some ["domain:example.org"]
  outboundTag := tag

/-- The selected server, and rules to two groups over it. -/
def nestedNames : AppEnv :=
  plainEnv [("s", vlessServer), ("g", namedGroup "asia"), ("h", namedGroup "asia-east")]
    [ruleToGroup "asia", ruleToGroup "asia-east"]

/-- The balancer of `asia` also selects the members of `asia-east`. -/
theorem nested_names_not_balance_own :
    ∃ lists st config, planState nestedNames "s" = .ok st ∧
      (getV2rayConfig nestedNames "s").content = .unified config ∧
      Emission nestedNames templateTags (planOf nestedNames "s") lists ∧
      ¬GroupsBalanceOwn nestedNames (planOf nestedNames "s") lists st config := by
  obtain ⟨lists, st, config, hstate, hcontent, hgroups⟩ :=
    @getV2rayConfig_groupPlan nestedNames "s" vlessServer rfl (by decide) (by decide)
  refine ⟨lists, st, config, hstate, hcontent, hgroups.emission, fun hown => ?_⟩
  have hsep := (hgroups.balance_own_iff.mp hown).members
  have hzip : (planOf nestedNames "s").zip
      (addedTags nestedNames templateTags (planOf nestedNames "s")) =
      [(_, ["proxy"]), (_, ["proxy-asia-1-server"]), (_, ["proxy-asia-east-1-server"])] := rfl
  have hin := hsep _ (by rw [hzip]; exact mem_cons_of_mem _ mem_cons_self) rfl
    (cons_ne_nil _ _) "proxy-asia-east-1-server" (by decide) (by decide)
  exact absurd hin (by decide)

/-- The selected server and a rule to one group over it. -/
def oneGroup : AppEnv :=
  plainEnv [("s", vlessServer), ("g", namedGroup "asia")] [ruleToGroup "asia"]

theorem one_group_balances_own :
    ∃ lists st config, planState oneGroup "s" = .ok st ∧
      (getV2rayConfig oneGroup "s").content = .unified config ∧
      Emission oneGroup templateTags (planOf oneGroup "s") lists ∧
      GroupsBalanceOwn oneGroup (planOf oneGroup "s") lists st config := by
  obtain ⟨lists, st, config, hstate, hcontent, hemission, hiff⟩ :=
    @groups_balance_own_iff oneGroup "s" vlessServer rfl (by decide) (by decide)
  refine ⟨lists, st, config, hstate, hcontent, hemission, hiff.mpr ⟨?_, by decide⟩⟩
  have hzip : (planOf oneGroup "s").zip
      (addedTags oneGroup templateTags (planOf oneGroup "s")) =
      [(_, ["proxy"]), (_, ["proxy-asia-1-server"])] := rfl
  intro e he htype _ t ht hstart
  have hflat : (addedTags oneGroup templateTags (planOf oneGroup "s")).flatten =
      ["proxy", "proxy-asia-1-server"] := by decide
  rcases mem_cons.mp he with rfl | he
  · cases htype
  · cases mem_singleton.mp he
    rcases mem_cons.mp ht with rfl | ht
    · exact absurd hstart (by decide)
    · exact ht

end ZeroVpn
