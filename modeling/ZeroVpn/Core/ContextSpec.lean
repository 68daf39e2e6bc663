import ZeroVpn.Core.PlanSpec

/-!
# What a context holds

The entries of a context: the first one stands for the selected profile under the tag `proxy`; the
others come from routing rules and fallbacks and never use a built-in tag.
-/

namespace ZeroVpn

open List

namespace CoreConfigContextBuilder

section
variable {env : AppEnv}

/-- What `resolveOutbound` says about a profile that is not custom. -/
structure Resolved (t : String) (p : ProfileItem) (r : ResolvedOutbound) : Prop where
  tag : r.tag = t
  profile : r.profile = p
  normal : r.resolvedType = .normal → r.resolvedProfiles.length ≤ 1
  group : r.resolvedType = .policygroup ↔ p.configType = .policygroup

theorem chainType_ne_policygroup (profiles : List ProfileItem) :
    chainType profiles ≠ .policygroup := by
  unfold chainType
  split <;> exact nofun

theorem length_le_of_chainType {profiles : List ProfileItem} (h : chainType profiles = .normal) :
    profiles.length ≤ 1 := by
  unfold chainType at h
  split at h
  · assumption
  · cases h

variable {tag : String} {profile : ProfileItem} {r : ResolvedOutbound}

theorem resolved_of_eq_some (h : resolveOutbound env tag profile = some r) :
    Resolved tag profile r := by
  have hchain {profiles : List ProfileItem} (ht : profile.configType ≠ .policygroup) :
      Resolved tag profile
        { tag, profile, resolvedProfiles := profiles, resolvedType := chainType profiles } :=
    ⟨rfl, rfl, length_le_of_chainType,
      iff_of_false (chainType_ne_policygroup profiles) ht⟩
  unfold resolveOutbound at h
  cases ht : profile.configType with
  | custom => rw [ht] at h; cases h
  | policygroup => rw [ht] at h; cases h; exact ⟨rfl, rfl, nofun, iff_of_true rfl ht⟩
  | _ =>
    rw [ht] at h
    cases h
    exact hchain (by rw [ht]; exact nofun)

theorem resolveOutbound_isSome (h : profile.configType ≠ .custom) :
    ∃ r, resolveOutbound env tag profile = some r := by
  unfold resolveOutbound
  cases ht : profile.configType with
  | custom => exact absurd ht h
  | _ => exact ⟨_, rfl⟩

theorem mem_resolveProxyChainProfilesFromGroup (config : ProfileItem) :
    config ∈ resolveProxyChainProfilesFromGroup env config := by
  unfold resolveProxyChainProfilesFromGroup
  split
  · exact mem_cons_self
  split
  · exact mem_cons_self
  · simp

/-- A profile of a simple type is among the profiles it stands for. -/
theorem mem_resolvedProfiles (h : resolveOutbound env tag profile = some r)
    (htype : profile.configType.isComplexType = false) : profile ∈ r.resolvedProfiles := by
  unfold resolveOutbound at h
  cases ht : profile.configType with
  | custom => rw [ht] at h; cases h
  | policygroup | proxychain => rw [ht] at htype; cases htype
  | _ =>
    rw [ht] at h
    cases h
    exact mem_resolveProxyChainProfilesFromGroup profile

/-- A single node is converted as it is. -/
theorem Resolved.candidates (h : Resolved tag profile r) : r.candidates = r.resolvedProfiles := by
  unfold ResolvedOutbound.candidates
  split
  · next ht => exact take_of_length_le (h.normal ht)
  · rfl

/-- The entries after the first: no built-in tag, and no group under a blank tag. -/
structure Secondary (r : ResolvedOutbound) : Prop where
  tag : r.tag ∉ AppConfig.builtinOutboundTags
  group : r.resolvedType = .policygroup → Text.isBlank r.tag = false

theorem secondary_of_mem_routing (h : r ∈ resolveRoutingOutbounds env) : Secondary r := by
  unfold resolveRoutingOutbounds at h
  split at h
  · cases h
  · next rulesetItems _ =>
    obtain ⟨tag, htag, hr⟩ := mem_filterMap.mp h
    have hkept : Text.isBlank tag = false ∧ tag ∉ AppConfig.builtinOutboundTags := by
      have hmem := mem_eraseDups.mp htag
      simpa using (mem_filter.mp hmem).2
    obtain ⟨profile, -, hr⟩ := Option.bind_eq_some_iff.mp hr
    obtain ⟨r', hr', hr⟩ := Option.bind_eq_some_iff.mp hr
    split at hr
    · cases hr
    · cases hr
      have hres := resolved_of_eq_some hr'
      exact ⟨hres.tag ▸ hkept.2, fun _ => hres.tag ▸ hkept.1⟩

theorem secondary_of_mem_fallback (h : r ∈ resolveFallbackOutbounds env resolvedOutbounds) :
    Secondary r := by
  obtain ⟨tag, htag, hr⟩ := mem_filterMap.mp h
  have hkept : tag ∉ AppConfig.builtinOutboundTags := by
    have hmem := mem_eraseDups.mp htag
    have hfilter := (mem_filter.mp hmem).2
    exact of_decide_eq_true (Bool.and_eq_true_iff.mp hfilter).1
  obtain ⟨profile, -, hr⟩ := Option.bind_eq_some_iff.mp hr
  split at hr
  · cases hr
  · next htype =>
    have hres := resolved_of_eq_some hr
    exact ⟨hres.tag ▸ hkept, fun ht => absurd (.inr (hres.group.mp ht)) htype⟩

/-! ## The names of the entries -/

/-- Values that keep the key they were found under. -/
theorem map_filterMap_sublist {α β : Type} {f : α → Option β} {key : β → α}
    (h : ∀ a b, f a = some b → key b = a) (l : List α) :
    ((l.filterMap f).map key).Sublist l := by
  induction l with
  | nil => exact .slnil
  | cons a l ih =>
    cases hf : f a with
    | none =>
      rw [filterMap_cons_none hf]
      exact ih.cons a
    | some b =>
      rw [filterMap_cons_some hf, map_cons, h a b hf]
      exact ih.cons_cons a

theorem tag_of_resolveRoutingOutbound (h : resolveRoutingOutbound env tag = some r) :
    r.tag = tag := by
  obtain ⟨profile, -, h⟩ := Option.bind_eq_some_iff.mp h
  obtain ⟨r', hr', h⟩ := Option.bind_eq_some_iff.mp h
  split at h
  · cases h
  · cases h
    exact (resolved_of_eq_some hr').tag

theorem tag_of_resolveFallbackOutbound (h : resolveFallbackOutbound env tag = some r) :
    r.tag = tag := by
  obtain ⟨profile, -, h⟩ := Option.bind_eq_some_iff.mp h
  split at h
  · cases h
  · exact (resolved_of_eq_some h).tag

theorem resolveRoutingOutbounds_nodup : ((resolveRoutingOutbounds env).map (·.tag)).Nodup := by
  unfold resolveRoutingOutbounds
  split
  · exact nodup_nil
  · exact (nodup_eraseDups _).sublist
      (map_filterMap_sublist (fun _ _ => tag_of_resolveRoutingOutbound) _)

theorem resolveFallbackOutbounds_fresh (resolvedOutbounds : List ResolvedOutbound) :
    ((resolveFallbackOutbounds env resolvedOutbounds).map (·.tag)).Nodup ∧
      ∀ t ∈ (resolveFallbackOutbounds env resolvedOutbounds).map (·.tag),
        t ∉ resolvedOutbounds.map (·.tag) := by
  have hsub := map_filterMap_sublist
    (fun tag r (h : resolveFallbackOutbound env tag = some r) => tag_of_resolveFallbackOutbound h)
    (((resolvedOutbounds.filter fun r => r.resolvedType = .policygroup && usesFallback r.profile)
      |>.filterMap (·.profile.policyGroupFallbackTag)).filter fun tag =>
        tag ∉ AppConfig.builtinOutboundTags && tag ∉ resolvedOutbounds.map (·.tag)).eraseDups
  refine ⟨(nodup_eraseDups _).sublist hsub, fun t ht => ?_⟩
  have hkept := (mem_filter.mp (mem_eraseDups.mp (hsub.subset ht))).2
  exact of_decide_eq_true (Bool.and_eq_true_iff.mp hkept).2

/-- The entries of a context have distinct names. -/
theorem build_tags_nodup {context : CoreConfigContext} (h : build env guid = some context) :
    (context.resolvedOutbounds.map (·.tag)).Nodup := by
  obtain ⟨config, -, h⟩ := Option.bind_eq_some_iff.mp h
  split at h
  · cases h
    exact nodup_nil
  · obtain ⟨primary, hprimary, h⟩ := Option.bind_eq_some_iff.mp h
    cases h
    obtain ⟨hnodup, hfresh⟩ := @resolveFallbackOutbounds_fresh env
      (primary :: resolveRoutingOutbounds env)
    have hresolved : ((primary :: resolveRoutingOutbounds env).map (·.tag)).Nodup := by
      refine nodup_cons.mpr ⟨fun hmem => ?_, resolveRoutingOutbounds_nodup⟩
      obtain ⟨r, hr, htag⟩ := mem_map.mp hmem
      have hproxy : r.tag = AppConfig.tagProxy := htag.trans (resolved_of_eq_some hprimary).tag
      exact (secondary_of_mem_routing hr).tag (hproxy ▸ mem_cons_self)
    rw [map_append]
    refine nodup_append.mpr ⟨hresolved, hnodup, ?_⟩
    rintro t ht _ ht' rfl
    exact hfresh t ht' ht

/-- The context of a stored profile. -/
theorem build_of_stored (h : env.store.serverConfig guid = some profile)
    (htype : profile.configType ≠ .custom) :
    ∃ primary routing, resolveOutbound env AppConfig.tagProxy profile = some primary ∧
      build env guid = some
        { guid, resolvedOutbounds := primary :: routing
          routingDomainRules := collectRoutingDomainRulesForDns env } ∧
      ∀ r ∈ routing, Secondary r := by
  obtain ⟨primary, hprimary⟩ := @resolveOutbound_isSome env AppConfig.tagProxy profile htype
  refine ⟨primary, resolveRoutingOutbounds env ++ resolveFallbackOutbounds env
    (primary :: resolveRoutingOutbounds env), hprimary, ?_, fun r hr => ?_⟩
  · unfold build
    rw [h, Option.bind_eq_bind, Option.bind_some, if_neg htype, hprimary]
    rfl
  · rcases mem_append.mp hr with hr | hr
    · exact secondary_of_mem_routing hr
    · exact secondary_of_mem_fallback hr

end
end CoreConfigContextBuilder
end ZeroVpn
