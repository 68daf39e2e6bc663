import ZeroVpn.Core.BuiltSpec

/-!
# The balancers of a plan

Every group of the plan that adds members is recorded with a balancer tag. `Balanced` says which
balancers the configuration then has: their tags are distinct, each one is the balancer of a
recorded group, and each recorded group finds one under its tag.
-/

namespace ZeroVpn

open CoreOutboundBuilder CoreConfigContextBuilder TagPlan List

namespace TagPlan

/-- The names of the groups that add members. -/
def groupNames (entries : List ResolvedOutbound) (added : List (List String)) : List String :=
  ((entries.zip added).filter fun e => e.1.resolvedType = .policygroup ∧ e.2 ≠ []).map (·.1.tag)

theorem groupNames_cons (r : ResolvedOutbound) (entries : List ResolvedOutbound)
    (tags : List String) (added : List (List String)) :
    groupNames (r :: entries) (tags :: added) =
      (if r.resolvedType = .policygroup ∧ tags ≠ [] then [r.tag] else []) ++
        groupNames entries added := by
  unfold groupNames
  by_cases h : r.resolvedType = .policygroup ∧ tags ≠ []
  · simp [h]
  · simp [h]

theorem mem_groupNames {entries : List ResolvedOutbound} :
    t ∈ groupNames entries added ↔
      ∃ e ∈ entries.zip added, e.1.resolvedType = .policygroup ∧ e.2 ≠ [] ∧ e.1.tag = t := by
  simp [groupNames, and_assoc]

end TagPlan

/-- The balancers of a configuration. -/
def V2rayConfig.balancerList (config : V2rayConfig) : List BalancerBean :=
  config.routing.balancers.getD []

namespace CoreConfigManager

/-- The balancers and the record of the groups named in `groups`. -/
structure Balanced (groups : List String) (st : BuildState) : Prop where
  nodup : (st.config.balancerList.map (·.tag)).Nodup
  sound : ∀ b ∈ st.config.balancerList, ∃ t ∈ groups,
    b.tag = balancerTagOf t ∧ b.selector = [memberTagStart t]
  complete : ∀ t ∈ groups, balancerTagOf t ∈ st.config.balancerList.map (·.tag)
  recorded : ∀ t b, st.policyGroupBalancerTags.get t = some b ↔ t ∈ groups ∧ b = balancerTagOf t

section
variable {env : AppEnv} {groups : List String} {st st' : BuildState} {r : ResolvedOutbound}
  {prepend : Bool}

theorem Balanced.add (h : Balanced groups st) (outbounds : List OutboundBean) :
    Balanced groups (st.add prepend outbounds) := ⟨h.nodup, h.sound, h.complete, h.recorded⟩

theorem balancerList_addGroup (tag : String) (strategy : BalancerStrategy) :
    (st.addGroup tag strategy).config.balancerList =
      if strategy.balancer.tag ∈ st.config.balancerList.map (·.tag) then st.config.balancerList
      else st.config.balancerList ++ [strategy.balancer] := by
  have hany : (st.config.balancerList.any (·.tag = strategy.balancer.tag)) = true ↔
      strategy.balancer.tag ∈ st.config.balancerList.map (·.tag) := by
    simp
  unfold BuildState.addGroup V2rayConfig.balancerList
  unfold V2rayConfig.balancerList at hany
  dsimp only
  by_cases h : strategy.balancer.tag ∈ (st.config.routing.balancers.getD []).map (·.tag)
  · rw [if_pos h, if_pos (hany.mpr h)]
  · rw [if_neg h, if_neg (mt hany.mp h)]
    rfl

/-- A group records its name; its balancer is left out if the tag is taken. -/
theorem Balanced.addGroup (h : Balanced groups st) (r : ResolvedOutbound) (first : String) :
    Balanced (groups ++ [r.tag]) (st.addGroup r.tag (groupStrategy env r first)) := by
  have hlist := @balancerList_addGroup st r.tag (groupStrategy env r first)
  have htag : (groupStrategy env r first).balancer.tag = balancerTagOf r.tag := rfl
  have hgroups : ∀ t, t ∈ groups ++ [r.tag] ↔ t = r.tag ∨ t ∈ groups := by
    simp [or_comm]
  refine ⟨?_, ?_, ?_, ?_⟩
  · rw [hlist]
    split
    · exact h.nodup
    · next hnew =>
      rw [map_append, map_singleton, ← concat_eq_append]
      exact h.nodup.concat hnew
  · intro b hb
    have hold : ∀ b ∈ st.config.balancerList, ∃ t ∈ groups ++ [r.tag],
        b.tag = balancerTagOf t ∧ b.selector = [memberTagStart t] := by
      intro b hb
      obtain ⟨t, ht, heq⟩ := h.sound b hb
      exact ⟨t, mem_append_left _ ht, heq⟩
    rw [hlist] at hb
    split at hb
    · exact hold b hb
    · rcases mem_append.mp hb with hb | hb
      · exact hold b hb
      · rw [mem_singleton.mp hb]
        exact ⟨r.tag, mem_append_right _ mem_cons_self, rfl, rfl⟩
  · intro t ht
    have hmem : balancerTagOf r.tag ∈
        (st.addGroup r.tag (groupStrategy env r first)).config.balancerList.map (·.tag) := by
      rw [hlist]
      split
      · assumption
      · rw [map_append]
        exact mem_append_right _ mem_cons_self
    rcases (hgroups t).mp ht with rfl | ht
    · exact hmem
    · rw [hlist]
      split
      · exact h.complete t ht
      · rw [map_append]
        exact mem_append_left _ (h.complete t ht)
  · intro t b
    refine (iff_of_eq (congrArg (· = some b) (KV.get_set _ _ _ _))).trans ?_
    by_cases ht : t = r.tag
    · rw [if_pos ht, ht, htag]
      simp [eq_comm]
    · rw [if_neg ht, h.recorded]
      simp [ht]

theorem Balanced.extend (h : Balanced groups st) (outbounds : List OutboundBean) :
    Balanced (groups ++ if r.resolvedType = .policygroup ∧ outbounds.map (·.tag) ≠ [] then [r.tag]
      else []) (extend env r prepend st outbounds) := by
  unfold CoreConfigManager.extend
  cases r.resolvedType with
  | normal => simpa using h.add outbounds
  | proxychain => simpa using h.add outbounds
  | policygroup =>
    cases outbounds with
    | nil => simpa using h.add []
    | cons first rest => simpa using (h.add (first :: rest)).addGroup r first.tag

theorem Balanced.buildOutbounds (h : Balanced groups st)
    (hbuild : buildOutbounds env r prepend st = .ok st') :
    st'.existingTags = st.existingTags ++ entryAdded env st.existingTags r ∧
      Balanced (groups ++ if r.resolvedType = .policygroup ∧
        entryAdded env st.existingTags r ≠ [] then [r.tag] else []) st' := by
  unfold entryAdded
  rcases buildOutbounds_eq_ok hbuild with ⟨htag, rfl⟩ | ⟨htag, pairs, hpairs, rfl⟩
  · rw [if_pos htag]
    simpa using h
  · rw [if_neg htag, ← newOutbounds_tags_eq hpairs]
    exact ⟨extend_existingTags r prepend st _, h.extend _⟩

theorem balanced_of_foldlM {entries : List ResolvedOutbound} (h : Balanced groups st)
    (hbuild : entries.foldlM (fun st spec => CoreConfigManager.buildOutbounds env spec false st) st =
      .ok st') :
    Balanced (groups ++ TagPlan.groupNames entries
      (addedTags env st.existingTags entries)) st' := by
  induction entries generalizing groups st with
  | nil =>
    cases hbuild
    simpa [TagPlan.groupNames] using h
  | cons r entries ih =>
    obtain ⟨st₁, hst₁, hrest⟩ := bind_eq_ok.mp hbuild
    obtain ⟨htags, hfirst⟩ := h.buildOutbounds hst₁
    rw [addedTags, TagPlan.groupNames_cons, ← append_assoc, ← htags]
    exact ih hfirst hrest

theorem balanced_of_buildPlan (h : Balanced [] st)
    (hbuild : buildPlan env primary routing st = .ok st') :
    Balanced (TagPlan.groupNames (primary :: routing)
      (addedTags env st.existingTags (primary :: routing))) st' := by
  obtain ⟨st₁, hst₁, hrest⟩ := bind_eq_ok.mp hbuild
  obtain ⟨htags, hfirst⟩ := h.buildOutbounds hst₁
  rw [addedTags, TagPlan.groupNames_cons, ← htags]
  exact balanced_of_foldlM hfirst hrest

/-- The balancers of a plan. -/
theorem balanced_of_planState (h : planState env guid = .ok st) :
    Balanced (TagPlan.groupNames (planOf env guid)
      (addedTags env templateTags (planOf env guid))) st := by
  unfold planState at h
  cases hplan : planOf env guid with
  | nil => rw [hplan] at h; cases h
  | cons primary routing =>
    rw [hplan] at h
    obtain ⟨base, hbase, hst⟩ := bind_eq_ok.mp h
    have hempty : base.balancerList = [] := by
      rw [V2rayConfig.balancerList, (baseConfig_eq_ok hbase).2]
      rfl
    have hinit : Balanced []
        { config := base, existingTags := base.outbounds.map (·.tag) : BuildState } := by
      refine ⟨?_, ?_, forall_mem_nil _, ?_⟩
      · rw [hempty]
        exact nodup_nil
      · rw [hempty]
        exact forall_mem_nil _
      · intro t b
        exact iff_of_false nofun fun h => not_mem_nil h.1
    rw [← outboundTags_of_baseConfig hbase]
    exact balanced_of_buildPlan hinit hst

end
end CoreConfigManager
end ZeroVpn
