import ZeroVpn.Core.OutboundSpec

/-!
# The outbounds of a plan

What one entry of the plan adds, given the profiles it could convert: `buildOutbounds_eq_ok`. Every
added outbound is made from one of the entry's profiles, and an entry after the first leaves the
outbounds before it in place.
-/

namespace ZeroVpn

/-- The profiles that an entry tries to convert. -/
def ResolvedOutbound.candidates (r : ResolvedOutbound) : List ProfileItem :=
  match r.resolvedType with
  | .normal => r.resolvedProfiles.take 1
  | _ => r.resolvedProfiles

theorem BuildState.add_nil (st : BuildState) (prepend : Bool) : st.add prepend [] = st := by
  cases prepend <;> simp [add]

namespace CoreConfigManager
open CoreOutboundBuilder CoreConfigContextBuilder List

/-- The outbounds that an entry adds, given its converted profiles. -/
def newOutbounds (r : ResolvedOutbound) (existingTags : List String)
    (pairs : List (OutboundBean × ProfileItem)) : List OutboundBean :=
  match r.resolvedType with
  | .normal => pairs.map fun e => { e.1 with tag := r.tag }
  | .proxychain =>
    let chain := tagChain r.tag (pairs.map (·.1))
    if chain.any (·.tag ∈ existingTags) then [] else linkChain chain
  | .policygroup => membersToAdd r.tag 0 existingTags pairs

/-- The state with the outbounds of an entry; a group with members also gets its balancer. -/
def extend (env : AppEnv) (r : ResolvedOutbound) (prepend : Bool) (st : BuildState)
    (outbounds : List OutboundBean) : BuildState :=
  match r.resolvedType, outbounds with
  | .policygroup, first :: rest =>
    (st.add prepend (first :: rest)).addGroup r.tag (groupStrategy env r first.tag)
  | _, outbounds => st.add prepend outbounds

section
variable {env : AppEnv}
variable {pairs : List (OutboundBean × ProfileItem)} {o : OutboundBean} {existingTags : List String}

theorem convertProfiles_eq_ok {profiles : List ProfileItem}
    (h : convertProfiles env profiles = .ok pairs) :
    pairs.map (·.2) = profiles.filter (convertible env) ∧
      ∀ e ∈ pairs, convert env e.2 = .ok (some e.1) := by
  induction profiles generalizing pairs with
  | nil =>
    cases h
    exact ⟨rfl, fun _ h => (not_mem_nil h).elim⟩
  | cons profile profiles ih =>
    obtain ⟨outbound, houtbound, h⟩ := bind_eq_ok.mp h
    obtain ⟨rest, hrest, h⟩ := bind_eq_ok.mp h
    cases h
    obtain ⟨hmap, hall⟩ := ih hrest
    have hsome := convert_isSome houtbound
    cases outbound with
    | none =>
      rw [filter_cons_of_neg (by rw [← hsome]; exact Bool.false_ne_true)]
      exact ⟨hmap, hall⟩
    | some o =>
      rw [filter_cons_of_pos hsome.symm]
      refine ⟨congrArg (profile :: ·) hmap, fun e he => ?_⟩
      rcases mem_cons.mp he with rfl | he
      · exact houtbound
      · exact hall e he

/-- No conversion of a successful traversal throws. -/
theorem convert_of_convertProfiles (h : convertProfiles env profiles = .ok pairs)
    (hp : p ∈ profiles) :
    ∃ r, convert env p = .ok r := by
  induction profiles generalizing pairs with
  | nil => cases hp
  | cons profile profiles ih =>
    obtain ⟨outbound, houtbound, h⟩ := bind_eq_ok.mp h
    obtain ⟨rest, hrest, -⟩ := bind_eq_ok.mp h
    rcases mem_cons.mp hp with rfl | hp
    · exact ⟨outbound, houtbound⟩
    · exact ih hrest hp

section
variable {r : ResolvedOutbound} {prepend : Bool} {st st' : BuildState}

theorem handleNormalResolvedOutbound_eq_ok (ht : r.resolvedType = .normal)
    (h : handleNormalResolvedOutbound env r prepend st = .ok st') :
    ∃ pairs, convertProfiles env r.candidates = .ok pairs ∧
      st' = extend env r prepend st (newOutbounds r st.existingTags pairs) := by
  unfold handleNormalResolvedOutbound at h
  unfold ResolvedOutbound.candidates newOutbounds extend
  rw [ht]
  cases hp : r.resolvedProfiles with
  | nil =>
    rw [hp] at h
    cases h
    exact ⟨[], rfl, (st.add_nil prepend).symm⟩
  | cons profile rest =>
    rw [hp] at h
    obtain ⟨outbound, houtbound, h⟩ := bind_eq_ok.mp h
    refine ⟨(outbound.map fun o => (o, profile)).toList, ?_, ?_⟩
    · change convertProfiles env [profile] = _
      rw [convertProfiles, houtbound]
      cases outbound <;> rfl
    · cases outbound with
      | none => cases h; exact (st.add_nil prepend).symm
      | some o => cases h; rfl

theorem handleProxyChainResolvedOutbound_eq_ok (ht : r.resolvedType = .proxychain)
    (htag : r.tag ∉ st.existingTags)
    (h : handleProxyChainResolvedOutbound env r prepend st = .ok st') :
    ∃ pairs, convertProfiles env r.candidates = .ok pairs ∧
      st' = extend env r prepend st (newOutbounds r st.existingTags pairs) := by
  obtain ⟨pairs, hpairs, h⟩ := bind_eq_ok.mp h
  unfold ResolvedOutbound.candidates newOutbounds extend
  rw [ht]
  refine ⟨pairs, hpairs, ?_⟩
  generalize pairs.map (·.1) = outbounds at h ⊢
  match outbounds with
  | [] => cases h; exact (st.add_nil prepend).symm
  | [o] =>
    have hfree : ¬(tagChain r.tag [o]).any (·.tag ∈ st.existingTags) = true := by
      simpa [tagChain, chainTag] using htag
    rw [if_neg hfree]
    cases h
    rfl
  | o :: o' :: os =>
    change (if (tagChain r.tag (o :: o' :: os)).any (·.tag ∈ st.existingTags) then pure st
      else pure (st.add prepend (linkChain (tagChain r.tag (o :: o' :: os))))) = _ at h
    split at h
    · next htaken =>
      rw [if_pos htaken]
      cases h
      exact (st.add_nil prepend).symm
    · next hfree =>
      rw [if_neg hfree]
      cases h
      rfl

theorem handlePolicyGroupResolvedOutbound_eq_ok (ht : r.resolvedType = .policygroup)
    (h : handlePolicyGroupResolvedOutbound env r prepend st = .ok st') :
    ∃ pairs, convertProfiles env r.candidates = .ok pairs ∧
      st' = extend env r prepend st (newOutbounds r st.existingTags pairs) := by
  obtain ⟨pairs, hpairs, h⟩ := bind_eq_ok.mp h
  unfold ResolvedOutbound.candidates newOutbounds extend
  rw [ht]
  refine ⟨pairs, hpairs, ?_⟩
  cases hm : membersToAdd r.tag 0 st.existingTags pairs with
  | nil => rw [hm] at h; cases h; exact (st.add_nil prepend).symm
  | cons first rest => rw [hm] at h; cases h; rfl

/-- One entry of the plan: nothing if its tag is taken. -/
theorem buildOutbounds_eq_ok (h : buildOutbounds env r prepend st = .ok st') :
    (r.tag ∈ st.existingTags ∧ st' = st) ∨
      (r.tag ∉ st.existingTags ∧ ∃ pairs, convertProfiles env r.candidates = .ok pairs ∧
        st' = extend env r prepend st (newOutbounds r st.existingTags pairs)) := by
  unfold buildOutbounds at h
  by_cases htag : r.tag ∈ st.existingTags
  · rw [if_pos htag] at h
    cases h
    exact .inl ⟨htag, rfl⟩
  rw [if_neg htag] at h
  refine .inr ⟨htag, ?_⟩
  cases ht : r.resolvedType with
  | normal => rw [ht] at h; exact handleNormalResolvedOutbound_eq_ok ht h
  | proxychain => rw [ht] at h; exact handleProxyChainResolvedOutbound_eq_ok ht htag h
  | policygroup => rw [ht] at h; exact handlePolicyGroupResolvedOutbound_eq_ok ht h

end

/-! ## Where the outbounds come from -/

theorem linkChain_tags (hops : List OutboundBean) :
    (linkChain hops).map (·.tag) = hops.map (·.tag) := by
  induction hops with
  | nil => rfl
  | cons hop hops ih =>
    cases hops with
    | nil => rfl
    | cons next rest => exact congrArg (hop.tag :: ·) ih

theorem linkChain_sameServer (h : o ∈ linkChain hops) :
    ∃ o' ∈ hops, o.SameServer o' := by
  induction hops with
  | nil => cases h
  | cons hop hops ih =>
    cases hops with
    | nil => exact ⟨o, h, .refl o⟩
    | cons next rest =>
      rcases mem_cons.mp h with rfl | h
      · exact ⟨hop, mem_cons_self, OutboundBean.sameServer_updateSockopt hop _⟩
      · obtain ⟨o', ho', hsame⟩ := ih h
        exact ⟨o', mem_cons_of_mem _ ho', hsame⟩

theorem tagChain_sameServer (h : o ∈ tagChain tag outbounds) :
    ∃ o' ∈ outbounds, o.SameServer o' := by
  obtain ⟨i, hi, rfl⟩ := mem_mapIdx.mp h
  exact ⟨_, getElem_mem hi, OutboundBean.sameServer_tag _ _⟩

theorem membersToAdd_sameServer (h : o ∈ membersToAdd tag index existingTags pairs) :
    ∃ e ∈ pairs, o.SameServer e.1 := by
  induction pairs generalizing index existingTags with
  | nil => cases h
  | cons e pairs ih =>
    rw [membersToAdd] at h
    split at h
    · obtain ⟨e', he', hsame⟩ := ih h
      exact ⟨e', mem_cons_of_mem _ he', hsame⟩
    · rcases mem_cons.mp h with rfl | h
      · exact ⟨e, mem_cons_self, OutboundBean.sameServer_tag _ _⟩
      · obtain ⟨e', he', hsame⟩ := ih h
        exact ⟨e', mem_cons_of_mem _ he', hsame⟩

theorem newOutbounds_sameServer (h : o ∈ newOutbounds r existingTags pairs) :
    ∃ e ∈ pairs, o.SameServer e.1 := by
  unfold newOutbounds at h
  split at h
  · obtain ⟨e, he, rfl⟩ := mem_map.mp h
    exact ⟨e, he, OutboundBean.sameServer_tag _ _⟩
  · dsimp only at h
    split at h
    · cases h
    · obtain ⟨o', ho', hlink⟩ := linkChain_sameServer h
      obtain ⟨o'', ho'', htagged⟩ := tagChain_sameServer ho'
      obtain ⟨e, he, rfl⟩ := mem_map.mp ho''
      exact ⟨e, he, hlink.trans htagged⟩
  · exact membersToAdd_sameServer h

/-- Every outbound of an entry is made from one of its profiles. -/
theorem newOutbounds_madeFrom {r : ResolvedOutbound}
    (hpairs : convertProfiles env r.candidates = .ok pairs)
    (h : o ∈ newOutbounds r existingTags pairs) : ∃ p ∈ r.candidates, MadeFrom env o p := by
  obtain ⟨hprofiles, hconvert⟩ := convertProfiles_eq_ok hpairs
  obtain ⟨e, he, hsame⟩ := newOutbounds_sameServer h
  have hmem : e.2 ∈ r.candidates.filter (convertible env) := hprofiles ▸ mem_map_of_mem he
  exact ⟨e.2, mem_of_mem_filter hmem, e.1, hconvert e he, hsame⟩

/-! ## Where the outbounds go -/

theorem addGroup_outbounds (st : BuildState) (tag : String) (strategy : BalancerStrategy) :
    (st.addGroup tag strategy).config.outbounds = st.config.outbounds := by
  unfold BuildState.addGroup
  dsimp only
  split <;> rfl

theorem extend_outbounds (r : ResolvedOutbound) (prepend : Bool) (st : BuildState)
    (outbounds : List OutboundBean) :
    (extend env r prepend st outbounds).config.outbounds =
      if prepend then outbounds ++ st.config.outbounds else st.config.outbounds ++ outbounds := by
  unfold extend
  split
  · rw [addGroup_outbounds]
    rfl
  · rfl

/-- The entries after the first append. -/
theorem foldlM_buildOutbounds_prefix {entries : List ResolvedOutbound} {st st' : BuildState}
    (h : entries.foldlM (fun st spec => buildOutbounds env spec false st) st = .ok st') :
    st.config.outbounds <+: st'.config.outbounds := by
  refine foldlM_invariant (P := fun st' => st.config.outbounds <+: st'.config.outbounds)
    (fun r _ st₁ st₂ hpre hstep => ?_) prefix_rfl h
  rcases buildOutbounds_eq_ok hstep with ⟨-, rfl⟩ | ⟨-, pairs, -, rfl⟩
  · exact hpre
  · rw [extend_outbounds]
    exact hpre.trans (prefix_append _ _)

theorem buildOutbounds_rules {st st' : BuildState} (h : buildOutbounds env r prepend st = .ok st') :
    st'.config.routing.rules = st.config.routing.rules := by
  rcases buildOutbounds_eq_ok h with ⟨-, rfl⟩ | ⟨-, pairs, -, rfl⟩
  · rfl
  · unfold extend
    split
    · unfold BuildState.addGroup
      dsimp only
      split <;> rfl
    · rfl

/-- The plan adds no rules. -/
theorem buildPlan_rules {st st' : BuildState} (h : buildPlan env primary routing st = .ok st') :
    st'.config.routing.rules = st.config.routing.rules := by
  obtain ⟨st₁, hfirst, hrest⟩ := bind_eq_ok.mp h
  refine foldlM_invariant (P := fun st' => st'.config.routing.rules = st.config.routing.rules)
    (fun r _ st₁ st₂ hrules hstep => ?_) (buildOutbounds_rules hfirst) hrest
  exact (buildOutbounds_rules hstep).trans hrules

end
end CoreConfigManager
end ZeroVpn
