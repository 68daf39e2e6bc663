import ZeroVpn.Core.TagPlan

/-!
# What each entry of a plan emits

`Emission` runs through the entries of a plan and keeps, for each of them, the outbounds it adds
and the tags that were taken before. A plan is built exactly if it has an emission, and the
outbounds of the built state are those of the emission. The tags of an emission are distinct.
-/

namespace ZeroVpn

open CoreOutboundBuilder CoreConfigContextBuilder CoreConfigManager List TagPlan

/-! ## The tags of one entry -/

variable (tag : String) {profiles : List ProfileItem}

namespace TagPlan

theorem length_chainTag_pos (index : Nat) : tag.length < (chainTag tag (index + 1)).length := by
  rw [chainTag, if_neg (Nat.succ_ne_zero index)]
  simp only [String.length_append]
  have hdash : "-".length = 1 := rfl
  omega

theorem chainTag_injective : Function.Injective (chainTag tag) := by
  intro i j h
  cases i with
  | zero =>
    cases j with
    | zero => rfl
    | succ j => exact absurd (congrArg String.length h) (Nat.ne_of_lt (length_chainTag_pos tag j))
  | succ i =>
    cases j with
    | zero =>
      exact absurd (congrArg String.length h) (Nat.ne_of_gt (length_chainTag_pos tag i))
    | succ j =>
      exact Text.toString_inj (String.append_right_inj _ |>.mp h)

/-- The members get distinct tags that were free. -/
theorem memberTags_fresh {tag : String} :
    (memberTags tag index existingTags profiles).Nodup ∧
      ∀ t ∈ memberTags tag index existingTags profiles, t ∉ existingTags := by
  induction profiles generalizing index existingTags with
  | nil => exact ⟨nodup_nil, forall_mem_nil _⟩
  | cons profile profiles ih =>
    rw [memberTags]
    split
    · exact ih
    · next hfree =>
      obtain ⟨hnodup, hnew⟩ :=
        @ih (index + 1) (existingTags ++ [memberTag tag index profile])
      refine ⟨nodup_cons.mpr ⟨fun hmem => ?_, hnodup⟩, forall_mem_cons.mpr ⟨hfree, ?_⟩⟩
      · exact hnew _ hmem (mem_append_right _ mem_cons_self)
      · exact fun t ht hmem => hnew t ht (mem_append_left _ hmem)

/-- An entry whose name is free adds distinct tags that were free. -/
theorem entryTags_fresh {r : ResolvedOutbound} {existingTags : List String}
    (htag : r.tag ∉ existingTags) (hnormal : r.resolvedType = .normal → profiles.length ≤ 1) :
    (entryTags r existingTags profiles).Nodup ∧
      ∀ t ∈ entryTags r existingTags profiles, t ∉ existingTags := by
  unfold entryTags
  cases ht : r.resolvedType with
  | normal =>
    have hlen := hnormal ht
    match profiles with
    | [] => exact ⟨nodup_nil, forall_mem_nil _⟩
    | [_] => exact ⟨nodup_singleton _, forall_mem_singleton.mpr htag⟩
    | _ :: _ :: _ => exact absurd hlen (by simp)
  | proxychain =>
    dsimp only
    split
    · exact ⟨nodup_nil, forall_mem_nil _⟩
    · next hany =>
      refine ⟨nodup_range.map (chainTag_injective r.tag), fun t hmem hin => hany ?_⟩
      exact any_eq_true.mpr ⟨t, hmem, decide_eq_true hin⟩
  | policygroup => exact memberTags_fresh

/-! ## The profiles of one entry -/

/-- The members from the `index`-th on whose tag is free. -/
def memberProfiles (tag : String) : Nat → List String → List ProfileItem → List ProfileItem
  | _, _, [] => []
  | index, existingTags, profile :: profiles =>
    let memberTag := memberTag tag index profile
    if memberTag ∈ existingTags then memberProfiles tag (index + 1) existingTags profiles
    else profile :: memberProfiles tag (index + 1) (existingTags ++ [memberTag]) profiles

/-- The profiles of an entry that get an outbound, given its convertible profiles. -/
def entryProfiles (r : ResolvedOutbound) (existingTags : List String) (profiles : List ProfileItem) :
    List ProfileItem :=
  match r.resolvedType with
  | .normal => profiles
  | .proxychain =>
    let chain := (range profiles.length).map (chainTag r.tag)
    if chain.any (· ∈ existingTags) then [] else profiles
  | .policygroup => memberProfiles r.tag 0 existingTags profiles

/-- The tags that an entry adds, while the tags of `tags` are taken. -/
def entryAdded (env : AppEnv) (tags : List String) (r : ResolvedOutbound) : List String :=
  if r.tag ∈ tags then [] else entryTags r tags (r.candidates.filter (convertible env))

/-- The tags that the entries add, one list for each entry. -/
def addedTags (env : AppEnv) : List String → List ResolvedOutbound → List (List String)
  | _, [] => []
  | tags, r :: entries =>
    entryAdded env tags r :: addedTags env (tags ++ entryAdded env tags r) entries

/-- The profiles that the entries try to convert, while the tags of `tags` are taken. -/
def triedProfiles (env : AppEnv) : List String → List ResolvedOutbound → List ProfileItem
  | _, [] => []
  | tags, r :: entries =>
    if r.tag ∈ tags then triedProfiles env tags entries
    else
      r.candidates ++
        triedProfiles env (tags ++ entryTags r tags (r.candidates.filter (convertible env))) entries

/-- The profiles that get an outbound, while the tags of `tags` are taken. -/
def emittedProfiles (env : AppEnv) : List String → List ResolvedOutbound → List ProfileItem
  | _, [] => []
  | tags, r :: entries =>
    if r.tag ∈ tags then emittedProfiles env tags entries
    else
      let profiles := r.candidates.filter (convertible env)
      entryProfiles r tags profiles ++
        emittedProfiles env (tags ++ entryTags r tags profiles) entries

end TagPlan

namespace CoreConfigManager

/-! ## Emissions -/

/-- `Emission env tags entries lists`: while the tags of `tags` are taken, each of the entries adds
the outbounds of its list. -/
inductive Emission (env : AppEnv) :
    List String → List ResolvedOutbound → List (List OutboundBean) → Prop
  | nil (tags : List String) : Emission env tags [] []
  | taken {tags : List String} {r : ResolvedOutbound} {entries : List ResolvedOutbound}
      {lists : List (List OutboundBean)} (htag : r.tag ∈ tags)
      (rest : Emission env tags entries lists) : Emission env tags (r :: entries) ([] :: lists)
  | added {tags : List String} {r : ResolvedOutbound} {entries : List ResolvedOutbound}
      {lists : List (List OutboundBean)} {pairs : List (OutboundBean × ProfileItem)}
      (htag : r.tag ∉ tags) (hpairs : convertProfiles env r.candidates = .ok pairs)
      (rest : Emission env (tags ++ (newOutbounds r tags pairs).map (·.tag)) entries lists) :
      Emission env tags (r :: entries) (newOutbounds r tags pairs :: lists)

section
variable {env : AppEnv} {tags : List String} {entries : List ResolvedOutbound}
  {lists : List (List OutboundBean)}

theorem extend_existingTags (r : ResolvedOutbound) (prepend : Bool) (st : BuildState)
    (outbounds : List OutboundBean) :
    (extend env r prepend st outbounds).existingTags =
      st.existingTags ++ outbounds.map (·.tag) := by
  unfold extend
  split <;> rfl

variable {st : BuildState}

/-- The entries after the first. -/
theorem emission_of_foldlM {st' : BuildState}
    (h : entries.foldlM (fun st spec => buildOutbounds env spec false st) st = .ok st') :
    ∃ lists, Emission env st.existingTags entries lists ∧
      st'.config.outbounds = st.config.outbounds ++ lists.flatten := by
  induction entries generalizing st with
  | nil =>
    cases h
    exact ⟨[], .nil _, (append_nil _).symm⟩
  | cons r entries ih =>
    obtain ⟨st₁, hst₁, hrest⟩ := bind_eq_ok.mp h
    obtain ⟨lists, hlists, hout⟩ := ih hrest
    rcases buildOutbounds_eq_ok hst₁ with ⟨htag, rfl⟩ | ⟨htag, pairs, hpairs, rfl⟩
    · exact ⟨[] :: lists, .taken htag hlists, hout⟩
    · rw [extend_existingTags] at hlists
      refine ⟨_ :: lists, .added htag hpairs hlists, ?_⟩
      rw [hout, extend_outbounds, if_neg Bool.false_ne_true, flatten_cons, append_assoc]

/-- The whole plan: the outbounds of the first entry go in front. -/
theorem emission_of_buildPlan {st' : BuildState} (h : buildPlan env primary routing st = .ok st') :
    ∃ list lists, Emission env st.existingTags (primary :: routing) (list :: lists) ∧
      st'.config.outbounds = list ++ st.config.outbounds ++ lists.flatten := by
  obtain ⟨st₁, hfirst, hrest⟩ := bind_eq_ok.mp h
  obtain ⟨lists, hlists, hout⟩ := emission_of_foldlM hrest
  rcases buildOutbounds_eq_ok hfirst with ⟨htag, rfl⟩ | ⟨htag, pairs, hpairs, rfl⟩
  · exact ⟨[], lists, .taken htag hlists, hout⟩
  · rw [extend_existingTags] at hlists
    refine ⟨_, lists, .added htag hpairs hlists, ?_⟩
    rw [hout, extend_outbounds, if_pos rfl]

/-! ## When a plan is built -/

theorem exists_convertProfiles_iff :
    (∃ pairs, convertProfiles env profiles = .ok pairs) ↔
      ∀ p ∈ profiles, ∃ o, convert env p = .ok o := by
  constructor
  · rintro ⟨pairs, hpairs⟩ p hp
    exact convert_of_convertProfiles hpairs hp
  · intro h
    induction profiles with
    | nil => exact ⟨[], rfl⟩
    | cons profile profiles ih =>
      obtain ⟨⟨o, ho⟩, hrest⟩ := forall_mem_cons.mp h
      obtain ⟨pairs, hpairs⟩ := ih hrest
      rw [convertProfiles, ho, hpairs]
      exact ⟨_, rfl⟩

/-- An entry whose profiles raise nothing is built. -/
theorem buildOutbounds_isOk {r : ResolvedOutbound} {prepend : Bool}
    {pairs : List (OutboundBean × ProfileItem)}
    (hpairs : convertProfiles env r.candidates = .ok pairs) :
    ∃ st', buildOutbounds env r prepend st = .ok st' := by
  unfold buildOutbounds
  split
  · exact ⟨st, rfl⟩
  unfold ResolvedOutbound.candidates at hpairs
  cases ht : r.resolvedType with
  | normal =>
    rw [ht] at hpairs
    unfold handleNormalResolvedOutbound
    cases hp : r.resolvedProfiles with
    | nil => exact ⟨st, rfl⟩
    | cons profile rest =>
      rw [hp] at hpairs
      obtain ⟨o, ho⟩ := convert_of_convertProfiles hpairs mem_cons_self
      dsimp only
      rw [ho]
      cases o <;> exact ⟨_, rfl⟩
  | proxychain =>
    rw [ht] at hpairs
    refine exists_bind_of_ok hpairs ?_
    dsimp only
    split
    · exact ⟨_, rfl⟩
    · exact ⟨_, rfl⟩
    · split <;> exact ⟨_, rfl⟩
  | policygroup =>
    rw [ht] at hpairs
    refine exists_bind_of_ok hpairs ?_
    split <;> exact ⟨_, rfl⟩

theorem foldlM_of_emission (h : Emission env st.existingTags entries lists) :
    ∃ st', entries.foldlM (fun st spec => buildOutbounds env spec false st) st = .ok st' := by
  generalize htags : st.existingTags = tags at h
  induction h generalizing st with
  | nil => exact ⟨st, rfl⟩
  | taken htag _ ih =>
    subst htags
    rw [foldlM_cons, buildOutbounds, if_pos htag]
    exact ih rfl
  | added htag hpairs _ ih =>
    subst htags
    obtain ⟨st₁, hst₁⟩ := @buildOutbounds_isOk env st _ false _ hpairs
    rw [foldlM_cons, hst₁]
    refine ih ?_
    rcases buildOutbounds_eq_ok hst₁ with ⟨htaken, -⟩ | ⟨-, pairs', hpairs', rfl⟩
    · exact absurd htaken htag
    · rw [extend_existingTags, Except.ok.inj (hpairs'.symm.trans hpairs)]

theorem buildPlan_of_emission {primary : ResolvedOutbound} {routing : List ResolvedOutbound}
    (h : Emission env st.existingTags (primary :: routing) lists) :
    ∃ st', buildPlan env primary routing st = .ok st' := by
  unfold buildPlan
  cases h with
  | taken htag rest =>
    rw [buildOutbounds, if_pos htag]
    exact foldlM_of_emission rest
  | added htag hpairs rest =>
    obtain ⟨st₁, hst₁⟩ := @buildOutbounds_isOk env st _ true _ hpairs
    rw [hst₁]
    rcases buildOutbounds_eq_ok hst₁ with ⟨htaken, -⟩ | ⟨-, pairs', hpairs', rfl⟩
    · exact absurd htaken htag
    · rw [← Except.ok.inj (hpairs'.symm.trans hpairs), ← extend_existingTags primary true] at rest
      exact foldlM_of_emission rest

/-- A plan has an emission if no profile that it tries to convert raises. -/
theorem exists_emission_iff :
    (∃ lists, Emission env tags entries lists) ↔
      ∀ p ∈ triedProfiles env tags entries, ∃ o, convert env p = .ok o := by
  induction entries generalizing tags with
  | nil => exact iff_of_true ⟨[], .nil tags⟩ (forall_mem_nil _)
  | cons r entries ih =>
    rw [triedProfiles]
    by_cases htag : r.tag ∈ tags
    · rw [if_pos htag, ← ih]
      constructor
      · rintro ⟨_, hlists⟩
        cases hlists with
        | taken _ rest => exact ⟨_, rest⟩
        | added hfree _ _ => exact absurd htag hfree
      · exact fun ⟨lists, rest⟩ => ⟨_, .taken htag rest⟩
    · rw [if_neg htag, forall_mem_append, ← exists_convertProfiles_iff, ← ih]
      constructor
      · rintro ⟨_, hlists⟩
        cases hlists with
        | taken hin _ => exact absurd hin htag
        | added _ hpairs rest =>
          rw [newOutbounds_tags, (convertProfiles_eq_ok hpairs).1] at rest
          exact ⟨⟨_, hpairs⟩, _, rest⟩
      · rintro ⟨⟨pairs, hpairs⟩, lists, rest⟩
        rw [← (convertProfiles_eq_ok hpairs).1, ← newOutbounds_tags] at rest
        exact ⟨_, .added htag hpairs rest⟩

/-! ## Distinct tags -/

theorem length_pairs_of_normal {r : ResolvedOutbound} {pairs : List (OutboundBean × ProfileItem)}
    (hpairs : convertProfiles env r.candidates = .ok pairs) (ht : r.resolvedType = .normal) :
    (pairs.map (·.2)).length ≤ 1 := by
  rw [(convertProfiles_eq_ok hpairs).1]
  refine (length_filter_le _ _).trans ?_
  unfold ResolvedOutbound.candidates
  rw [ht]
  exact length_take_le 1 _

theorem newOutbounds_fresh {r : ResolvedOutbound} {pairs : List (OutboundBean × ProfileItem)}
    (htag : r.tag ∉ tags) (hpairs : convertProfiles env r.candidates = .ok pairs) :
    ((newOutbounds r tags pairs).map (·.tag)).Nodup ∧
      ∀ t ∈ (newOutbounds r tags pairs).map (·.tag), t ∉ tags := by
  rw [newOutbounds_tags]
  exact entryTags_fresh htag (length_pairs_of_normal hpairs)

/-- The tags of an emission are distinct, and none of them was taken. -/
theorem Emission.fresh (h : Emission env tags entries lists) :
    (lists.flatten.map (·.tag)).Nodup ∧ ∀ t ∈ lists.flatten.map (·.tag), t ∉ tags := by
  induction h with
  | nil => exact ⟨nodup_nil, forall_mem_nil _⟩
  | taken _ _ ih => exact ih
  | added htag hpairs _ ih =>
    obtain ⟨hnodup, hfree⟩ := newOutbounds_fresh htag hpairs
    rw [flatten_cons, map_append]
    refine ⟨nodup_append.mpr ⟨hnodup, ih.1, ?_⟩, forall_mem_append.mpr ⟨hfree, ?_⟩⟩
    · rintro t ht _ ht' rfl
      exact ih.2 t ht' (mem_append_right _ ht)
    · exact fun t ht hmem => ih.2 t ht (mem_append_left _ hmem)

/-! ## The profiles behind the outbounds -/

theorem linkChain_forall₂ (hops : List OutboundBean) :
    Forall₂ OutboundBean.SameServer (linkChain hops) hops := by
  induction hops with
  | nil => exact .nil
  | cons hop hops ih =>
    cases hops with
    | nil => exact .cons (.refl hop) .nil
    | cons next rest => exact .cons (OutboundBean.sameServer_updateSockopt hop _) ih

theorem tagChain_forall₂ (outbounds : List OutboundBean) :
    Forall₂ OutboundBean.SameServer (tagChain tag outbounds) outbounds :=
  forall₂_mapIdx (fun _ o => OutboundBean.sameServer_tag o _) outbounds

section
variable {r : ResolvedOutbound} {pairs : List (OutboundBean × ProfileItem)}

theorem forall₂_madeFrom (hconvert : ∀ e ∈ pairs, convert env e.2 = .ok (some e.1))
    {outbounds : List OutboundBean}
    (h : Forall₂ OutboundBean.SameServer outbounds (pairs.map (·.1))) :
    Forall₂ (MadeFrom env) outbounds (pairs.map (·.2)) := by
  have hpairs : Forall₂ (fun o p => convert env p = .ok (some o)) (pairs.map (·.1))
      (pairs.map (·.2)) := by
    rw [forall₂_map_left_iff, forall₂_map_right_iff, forall₂_same]
    exact hconvert
  exact forall₂_trans (fun o o' p hsame hp => ⟨o', hp, hsame⟩) h hpairs

theorem membersToAdd_forall₂ (hconvert : ∀ e ∈ pairs, convert env e.2 = .ok (some e.1))
    (tag : String) (index : Nat) (tags : List String) :
    Forall₂ (MadeFrom env) (membersToAdd tag index tags pairs)
      (memberProfiles tag index tags (pairs.map (·.2))) := by
  induction pairs generalizing index tags with
  | nil => exact .nil
  | cons e pairs ih =>
    obtain ⟨hfirst, hrest⟩ := forall_mem_cons.mp hconvert
    rw [membersToAdd, map_cons, memberProfiles]
    split
    · exact ih hrest _ _
    · exact .cons ⟨e.1, hfirst, OutboundBean.sameServer_tag _ _⟩ (ih hrest _ _)

/-- The outbounds of an entry, each with the profile it is made from. -/
theorem newOutbounds_forall₂ (hpairs : convertProfiles env r.candidates = .ok pairs)
    (tags : List String) :
    Forall₂ (MadeFrom env) (newOutbounds r tags pairs)
      (entryProfiles r tags (r.candidates.filter (convertible env))) := by
  obtain ⟨hprofiles, hconvert⟩ := convertProfiles_eq_ok hpairs
  rw [← hprofiles]
  unfold newOutbounds entryProfiles
  cases r.resolvedType with
  | normal =>
    refine forall₂_madeFrom hconvert ?_
    rw [forall₂_map_left_iff, forall₂_map_right_iff, forall₂_same]
    exact fun e _ => OutboundBean.sameServer_tag e.1 r.tag
  | proxychain =>
    have htags := tagChain_tags r.tag (pairs.map (·.1))
    have hany : (tagChain r.tag (pairs.map (·.1))).any (·.tag ∈ tags) =
        ((range (pairs.map (·.2)).length).map (chainTag r.tag)).any (· ∈ tags) := by
      rw [length_map] at htags ⊢
      rw [← htags, any_map]
      rfl
    dsimp only
    rw [hany]
    split
    · exact .nil
    · exact forall₂_madeFrom hconvert (forall₂_trans (fun _ _ _ => .trans)
        (linkChain_forall₂ _) (tagChain_forall₂ r.tag _))
  | policygroup => exact membersToAdd_forall₂ hconvert r.tag 0 tags

end

theorem newOutbounds_tags_eq {r : ResolvedOutbound} {pairs : List (OutboundBean × ProfileItem)}
    (hpairs : convertProfiles env r.candidates = .ok pairs) (tags : List String) :
    (newOutbounds r tags pairs).map (·.tag) =
      entryTags r tags (r.candidates.filter (convertible env)) := by
  rw [newOutbounds_tags, (convertProfiles_eq_ok hpairs).1]

/-- The tags of an emission. -/
theorem Emission.added_tags (h : Emission env tags entries lists) :
    lists.map (·.map (·.tag)) = addedTags env tags entries := by
  induction h with
  | nil => rfl
  | taken htag _ ih =>
    rw [addedTags, entryAdded, if_pos htag, append_nil, ← ih]
    rfl
  | added htag hpairs _ ih =>
    rw [newOutbounds_tags_eq hpairs] at ih
    rw [addedTags, entryAdded, if_neg htag, ← ih, map_cons,
      newOutbounds_tags_eq hpairs]

theorem Emission.flatten_tags (h : Emission env tags entries lists) :
    lists.flatten.map (·.tag) = (addedTags env tags entries).flatten := by
  rw [← h.added_tags, map_flatten]

/-- The outbounds of an emission are made from the profiles that the plan gives an outbound. -/
theorem Emission.madeFrom (h : Emission env tags entries lists) :
    Forall₂ (MadeFrom env) lists.flatten (emittedProfiles env tags entries) := by
  induction h with
  | nil => exact .nil
  | taken htag _ ih =>
    rw [emittedProfiles, if_pos htag]
    exact ih
  | added htag hpairs _ ih =>
    rw [newOutbounds_tags_eq hpairs] at ih
    rw [emittedProfiles, if_neg htag]
    exact rel_append (newOutbounds_forall₂ hpairs _) ih

/-- What one entry of an emission adds, and the tags that were taken before. -/
theorem Emission.entry (h : Emission env tags entries lists)
    {e : ResolvedOutbound × List OutboundBean} (he : e ∈ entries.zip lists) :
    e.2 = [] ∨ ∃ taken pairs, e.1.tag ∉ taken ∧
      (∀ t ∈ taken, t ∈ tags ∨ t ∈ lists.flatten.map (·.tag)) ∧
      convertProfiles env e.1.candidates = .ok pairs ∧ e.2 = newOutbounds e.1 taken pairs := by
  induction h with
  | nil => cases he
  | taken htag _ ih =>
    rcases mem_cons.mp he with rfl | he
    · exact .inl rfl
    · exact ih he
  | added htag hpairs _ ih =>
    rcases mem_cons.mp he with rfl | he
    · exact .inr ⟨_, _, htag, fun t ht => .inl ht, hpairs, rfl⟩
    · rcases ih he with hnil | ⟨taken, pairs, hfree, htaken, hpairs', hlist⟩
      · exact .inl hnil
      · refine .inr ⟨taken, pairs, hfree, fun t ht => ?_, hpairs', hlist⟩
        rw [flatten_cons, map_append, mem_append, ← or_assoc, ← mem_append]
        exact htaken t ht

theorem Emission.length (h : Emission env tags entries lists) :
    lists.length = entries.length := by
  induction h with
  | nil => rfl
  | taken _ _ ih => exact congrArg (· + 1) ih
  | added _ _ _ ih => exact congrArg (· + 1) ih

theorem Emission.exists_entry (h : Emission env tags entries lists) {added : List OutboundBean}
    (hadded : added ∈ lists) : ∃ r, (r, added) ∈ entries.zip lists := by
  obtain ⟨i, hi, rfl⟩ := getElem_of_mem hadded
  have hi' : i < entries.length := h.length ▸ hi
  refine ⟨entries[i], mem_iff_getElem.mpr ⟨i, ?_, getElem_zip⟩⟩
  rw [length_zip]
  exact Nat.lt_min.mpr ⟨hi', hi⟩

/-- The tags of an emission are names of entries and derived ones. -/
theorem Emission.mem_tags (h : Emission env tags entries lists) {t : String}
    (ht : t ∈ lists.flatten.map (·.tag)) :
    (∃ r ∈ entries, r.tag = t) ∨ isDerived t = true := by
  obtain ⟨o, ho, rfl⟩ := mem_map.mp ht
  obtain ⟨added, hadded, ho⟩ := mem_flatten.mp ho
  obtain ⟨r, hr⟩ := h.exists_entry hadded
  rcases h.entry hr with hnil | ⟨taken, pairs, -, -, hpairs, hlist⟩
  · dsimp only at hnil
    rw [hnil] at ho
    cases ho
  · dsimp only at hlist hpairs
    have hmem : o.tag ∈ added.map (·.tag) := mem_map_of_mem ho
    rw [hlist, newOutbounds_tags_eq hpairs] at hmem
    rcases mem_entryTags hmem with ⟨htag, -⟩ | hderived
    · exact .inl ⟨r, (of_mem_zip hr).1, htag.symm⟩
    · exact .inr hderived

theorem Emission.tail (h : Emission env tags (r :: entries) (list :: lists)) :
    ∃ tags, Emission env tags entries lists := by
  cases h with
  | taken _ rest => exact ⟨_, rest⟩
  | added _ _ rest => exact ⟨_, rest⟩

end
end CoreConfigManager
end ZeroVpn
