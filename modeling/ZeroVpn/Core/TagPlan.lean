import ZeroVpn.Core.PlanSpec

/-!
# The tags of a plan

Seen through its tags only, building a plan is the loop of `TagPlan.step`, which knows nothing of
outbounds: it reads which profiles of an entry are convertible and which tags are taken.
`refines_buildPlan` connects it to the builder. `Sound` is what every plan satisfies, and
`proxy_mem_run` and `get_proxy_run` say where the tag `proxy` of the first entry leads, whatever
entries follow.
-/

namespace ZeroVpn

open CoreOutboundBuilder CoreConfigContextBuilder CoreConfigManager AppConfig List

/-- The tags in use, the balancers with their fallback tags, and the balancer of each group. -/
structure TagPlan where
  tags : List String := [tagDirect, tagBlocked]
  balancers : List (String × Option String) := []
  groups : KV String String := ∅

namespace TagPlan

def add (plan : TagPlan) (tags : List String) : TagPlan := { plan with tags := plan.tags ++ tags }

def addGroup (plan : TagPlan) (tag balancerTag : String) (fallbackTag : Option String) : TagPlan :=
  { plan with
    balancers := if plan.balancers.any (·.1 = balancerTag) then plan.balancers
      else plan.balancers ++ [(balancerTag, fallbackTag)]
    groups := plan.groups.set tag balancerTag }

/-- The tags of the members from the `index`-th on that are not taken. -/
def memberTags (tag : String) : Nat → List String → List ProfileItem → List String
  | _, _, [] => []
  | index, existingTags, profile :: profiles =>
    let memberTag := memberTag tag index profile
    if memberTag ∈ existingTags then memberTags tag (index + 1) existingTags profiles
    else memberTag :: memberTags tag (index + 1) (existingTags ++ [memberTag]) profiles

/-- The tags that an entry adds, given its convertible profiles. -/
def entryTags (r : ResolvedOutbound) (existingTags : List String) (profiles : List ProfileItem) :
    List String :=
  match r.resolvedType with
  | .normal => profiles.map fun _ => r.tag
  | .proxychain =>
    let chain := (List.range profiles.length).map (chainTag r.tag)
    if chain.any (· ∈ existingTags) then [] else chain
  | .policygroup => memberTags r.tag 0 existingTags profiles

def extend (plan : TagPlan) (r : ResolvedOutbound) (tags : List String) : TagPlan :=
  match r.resolvedType, tags with
  | .policygroup, first :: rest =>
    (plan.add (first :: rest)).addGroup r.tag (balancerTagOf r.tag)
      (groupFallbackTag r.profile first)
  | _, tags => plan.add tags

def step (env : AppEnv) (plan : TagPlan) (r : ResolvedOutbound) : TagPlan :=
  if r.tag ∈ plan.tags then plan
  else plan.extend r (entryTags r plan.tags (r.candidates.filter (convertible env)))

def run (env : AppEnv) (entries : List ResolvedOutbound) : TagPlan := entries.foldl (step env) {}

end TagPlan

/-- The state of the builder, seen through its tags. -/
structure Refines (st : BuildState) (plan : TagPlan) : Prop where
  existingTags : st.existingTags = plan.tags
  groups : st.policyGroupBalancerTags = plan.groups
  balancers : (st.config.routing.balancers.getD []).map (fun b => (b.tag, b.fallbackTag)) =
    plan.balancers
  outbounds : ∀ tag, tag ∈ st.config.outbounds.map (·.tag) ↔ tag ∈ plan.tags

variable (tag : String) {r : ResolvedOutbound} {b : String}

namespace TagPlan

/-! ## Refinement -/

section
variable {env : AppEnv} {st : BuildState} {plan : TagPlan}

theorem refines_add (h : Refines st plan) (prepend : Bool) (outbounds : List OutboundBean) :
    Refines (st.add prepend outbounds) (plan.add (outbounds.map (·.tag))) where
  existingTags := congrArg (· ++ outbounds.map (·.tag)) h.existingTags
  groups := h.groups
  balancers := h.balancers
  outbounds := by
    intro tag
    unfold BuildState.add add
    rw [mem_append, ← h.outbounds tag]
    cases prepend with
    | false => rw [if_neg Bool.false_ne_true, map_append, mem_append]
    | true => rw [if_pos rfl, map_append, mem_append, or_comm]

theorem refines_addGroup (h : Refines st plan) (tag : String) (strategy : BalancerStrategy) :
    Refines (st.addGroup tag strategy)
      (plan.addGroup tag strategy.balancer.tag strategy.balancer.fallbackTag) where
  existingTags := h.existingTags
  groups := congrArg (KV.set · tag strategy.balancer.tag) h.groups
  balancers := by
    have hany : plan.balancers.any (·.1 = strategy.balancer.tag) =
        (st.config.routing.balancers.getD []).any (·.tag = strategy.balancer.tag) := by
      rw [← h.balancers, any_map]
      rfl
    unfold BuildState.addGroup addGroup
    dsimp only
    rw [hany]
    split
    · exact h.balancers
    · rw [← h.balancers, Option.getD_some, map_append]
      rfl
  outbounds := by
    rw [addGroup_outbounds]
    exact h.outbounds

theorem refines_extend (h : Refines st plan) (r : ResolvedOutbound) (prepend : Bool)
    (outbounds : List OutboundBean) :
    Refines (CoreConfigManager.extend env r prepend st outbounds)
      (plan.extend r (outbounds.map (·.tag))) := by
  unfold CoreConfigManager.extend extend
  cases r.resolvedType with
  | normal => exact refines_add h prepend outbounds
  | proxychain => exact refines_add h prepend outbounds
  | policygroup =>
    cases outbounds with
    | nil => exact refines_add h prepend []
    | cons first rest =>
      exact refines_addGroup (refines_add h prepend (first :: rest)) r.tag
        (groupStrategy env r first.tag)

theorem tagChain_tags (outbounds : List OutboundBean) :
    (tagChain tag outbounds).map (·.tag) = (range outbounds.length).map (chainTag tag) := by
  refine ext_getElem ?_ fun i _ _ => ?_
  · simp [tagChain]
  · simp [tagChain]

theorem membersToAdd_tags (index : Nat) (existingTags : List String)
    (pairs : List (OutboundBean × ProfileItem)) :
    (membersToAdd tag index existingTags pairs).map (·.tag) =
      memberTags tag index existingTags (pairs.map (·.2)) := by
  induction pairs generalizing index existingTags with
  | nil => rfl
  | cons e pairs ih =>
    rw [membersToAdd, map_cons, memberTags]
    split
    · exact ih _ _
    · rw [map_cons, ih]

theorem newOutbounds_tags (r : ResolvedOutbound) (existingTags : List String)
    (pairs : List (OutboundBean × ProfileItem)) :
    (newOutbounds r existingTags pairs).map (·.tag) =
      entryTags r existingTags (pairs.map (·.2)) := by
  unfold newOutbounds entryTags
  cases r.resolvedType with
  | normal => simp
  | proxychain =>
    have htags := tagChain_tags r.tag (pairs.map (·.1))
    rw [length_map] at htags
    have hany : (tagChain r.tag (pairs.map (·.1))).any (·.tag ∈ existingTags) =
        ((range pairs.length).map (chainTag r.tag)).any (· ∈ existingTags) := by
      rw [← htags, any_map]
      rfl
    dsimp only
    rw [hany, length_map]
    split
    · rfl
    · rw [linkChain_tags, htags]
  | policygroup => exact membersToAdd_tags r.tag 0 existingTags pairs

/-- One entry. -/
theorem refines_buildOutbounds (h : Refines st plan)
    (hbuild : buildOutbounds env r prepend st = .ok st') : Refines st' (plan.step env r) := by
  unfold step
  rcases buildOutbounds_eq_ok hbuild with ⟨htag, rfl⟩ | ⟨htag, pairs, hpairs, rfl⟩
  · rw [if_pos (h.existingTags ▸ htag)]
    exact h
  · rw [if_neg (h.existingTags ▸ htag), ← (convertProfiles_eq_ok hpairs).1, ← h.existingTags,
      ← newOutbounds_tags]
    exact refines_extend h r prepend _

/-- The whole plan. -/
theorem refines_buildPlan (h : Refines st {})
    (hbuild : buildPlan env primary routing st = .ok st') :
    Refines st' (run env (primary :: routing)) := by
  obtain ⟨st₁, hst₁, hrest⟩ := bind_eq_ok.mp hbuild
  rw [run, foldl_cons]
  refine foldlM_simulates (fun r _ st plan st' hst hr => ?_)
    (refines_buildOutbounds h hst₁) hrest
  exact refines_buildOutbounds hst hr

end

/-! ## Tags of entries -/

/-- A tag of the form `proxy-…`. -/
def isDerived (tag : String) : Bool := Text.startsWith tag (tagProxy ++ "-")

theorem notMem_builtin_of_isDerived {tag : String} (h : isDerived tag = true) :
    tag ∉ builtinOutboundTags := by
  intro hmem
  have hnot : ∀ tag ∈ builtinOutboundTags, isDerived tag = false := by decide
  exact Bool.false_ne_true ((hnot tag hmem).symm.trans h)

theorem isDerived_chainTag (index : Nat) : isDerived (chainTag tag (index + 1)) = true := by
  refine Text.startsWith_iff.mpr ⟨tag ++ "-" ++ toString (index + 1), ?_⟩
  rw [chainTag, if_neg (Nat.succ_ne_zero index)]
  simp only [String.append_assoc]

theorem startsWith_memberTag (index : Nat) (profile : ProfileItem) :
    Text.startsWith (memberTag tag index profile) (memberTagStart tag) = true := by
  refine Text.startsWith_iff.mpr ⟨toString (index + 1) ++ "-" ++ Text.trim profile.remarks, ?_⟩
  simp only [memberTag, String.append_assoc]

theorem isDerived_of_startsWith {tag : String} (h : Text.startsWith t (memberTagStart tag) = true) :
    isDerived t = true := by
  obtain ⟨rest, rfl⟩ := Text.startsWith_iff.mp h
  refine Text.startsWith_iff.mpr ⟨tag ++ "-" ++ rest, ?_⟩
  simp only [memberTagStart, String.append_assoc]

variable {existingTags : List String} {profiles : List ProfileItem}

theorem startsWith_of_mem_memberTags {tag : String}
    (h : t ∈ memberTags tag index existingTags profiles) :
    Text.startsWith t (memberTagStart tag) = true := by
  induction profiles generalizing index existingTags with
  | nil => cases h
  | cons profile profiles ih =>
    rw [memberTags] at h
    split at h
    · exact ih h
    · rcases mem_cons.mp h with rfl | h
      · exact startsWith_memberTag tag index profile
      · exact ih h

/-- An entry uses its own tag and derived ones. -/
theorem mem_entryTags {t : String} (h : t ∈ entryTags r existingTags profiles) :
    (t = r.tag ∧ r.resolvedType ≠ .policygroup) ∨ isDerived t = true := by
  unfold entryTags at h
  cases ht : r.resolvedType with
  | normal =>
    rw [ht] at h
    obtain ⟨_, -, rfl⟩ := mem_map.mp h
    exact .inl ⟨rfl, nofun⟩
  | proxychain =>
    rw [ht] at h
    dsimp only at h
    split at h
    · cases h
    · obtain ⟨i, -, rfl⟩ := mem_map.mp h
      cases i with
      | zero => exact .inl ⟨rfl, nofun⟩
      | succ i => exact .inr (isDerived_chainTag r.tag i)
  | policygroup =>
    rw [ht] at h
    exact .inr (isDerived_of_startsWith (startsWith_of_mem_memberTags h))

/-- If no derived tag is taken, an entry with a convertible profile adds its own tag, or its
members. -/
theorem entryTags_of_ne_nil (hfree : ∀ t ∈ existingTags, isDerived t = false)
    (htag : r.tag ∉ existingTags) (h : profiles ≠ []) :
    (r.resolvedType = .policygroup ∧ entryTags r existingTags profiles ≠ []) ∨
      (r.resolvedType ≠ .policygroup ∧ r.tag ∈ entryTags r existingTags profiles) := by
  obtain ⟨profile, rest, rfl⟩ := exists_cons_of_ne_nil h
  have hderived {t : String} (ht : isDerived t = true) : t ∉ existingTags := fun hmem =>
    Bool.false_ne_true ((hfree t hmem).symm.trans ht)
  unfold entryTags
  cases ht : r.resolvedType with
  | normal => exact .inr ⟨nofun, mem_cons_self⟩
  | proxychain =>
    refine .inr ⟨nofun, ?_⟩
    have hchain : ¬((range (profile :: rest).length).map (chainTag r.tag)).any
        (· ∈ existingTags) = true := by
      simp only [any_map, any_eq_true, not_exists, not_and, Function.comp_apply,
        decide_eq_true_eq]
      intro i _
      cases i with
      | zero => exact htag
      | succ i => exact hderived (isDerived_chainTag r.tag i)
    rw [if_neg hchain]
    exact mem_map.mpr ⟨0, mem_range.mpr (Nat.succ_pos _), rfl⟩
  | policygroup =>
    refine .inl ⟨rfl, ?_⟩
    rw [memberTags,
      if_neg (hderived (isDerived_of_startsWith (startsWith_memberTag r.tag 0 profile)))]
    exact cons_ne_nil _ _

/-! ## What every plan satisfies -/

/-- The fallback tag that the profile of a group names. -/
def configuredFallback (profile : ProfileItem) : Option String :=
  if usesFallback profile then
    profile.policyGroupFallbackTag.filter fun tag => tag ≠ "" && tag ≠ tagProxy
  else none

theorem groupFallbackTag_eq_some (h : groupFallbackTag profile first = some fallback) :
    configuredFallback profile = some fallback ∨ fallback = first := by
  unfold groupFallbackTag at h
  unfold configuredFallback
  split at h
  · next huses =>
    rw [if_pos huses]
    cases hconf : profile.policyGroupFallbackTag.filter fun tag =>
      tag ≠ "" && tag ≠ tagProxy with
    | none => rw [hconf] at h; cases h; exact .inr rfl
    | some tag => rw [hconf] at h; cases h; exact .inl rfl
  · cases h

/-- The plan keeps the built-in tags, and its groups and balancers are those of the entries. -/
structure Sound (entries : List ResolvedOutbound) (plan : TagPlan) : Prop where
  direct : tagDirect ∈ plan.tags
  blocked : tagBlocked ∈ plan.tags
  balancer : ∀ tag b, plan.groups.get tag = some b → b ∈ plan.balancers.map (·.1)
  group : ∀ tag b, plan.groups.get tag = some b →
    ∃ r ∈ entries, r.tag = tag ∧ r.resolvedType = .policygroup
  entry : ∀ b ∈ plan.balancers, ∃ r ∈ entries, r.resolvedType = .policygroup ∧
    ∃ first ∈ plan.tags, b = (balancerTagOf r.tag, groupFallbackTag r.profile first)

section
variable {env : AppEnv} {entries : List ResolvedOutbound} {plan : TagPlan}

theorem Sound.add (h : Sound entries plan) (tags : List String) : Sound entries (plan.add tags) where
  direct := mem_append_left _ h.direct
  blocked := mem_append_left _ h.blocked
  balancer := h.balancer
  group := h.group
  entry := by
    intro b hb
    obtain ⟨r, hr, ht, first, hfirst, heq⟩ := h.entry b hb
    exact ⟨r, hr, ht, first, mem_append_left _ hfirst, heq⟩

/-- A group always finds a balancer with its tag. -/
theorem mem_addGroup_balancers {tag balancerTag : String} {fallbackTag : Option String} :
    b ∈ (plan.addGroup tag balancerTag fallbackTag).balancers.map (·.1) ↔
      b = balancerTag ∨ b ∈ plan.balancers.map (·.1) := by
  unfold TagPlan.addGroup
  split
  · next hany =>
    have hmem : balancerTag ∈ plan.balancers.map (·.1) := by simpa [any_eq_true] using hany
    constructor
    · exact .inr
    · rintro (rfl | hb)
      · exact hmem
      · exact hb
  · rw [map_append, mem_append, map_singleton, mem_singleton, or_comm]

theorem Sound.addGroup (h : Sound entries plan) (hr : r ∈ entries)
    (ht : r.resolvedType = .policygroup) {first : String} (hfirst : first ∈ plan.tags) :
    Sound entries
      (plan.addGroup r.tag (balancerTagOf r.tag) (groupFallbackTag r.profile first)) where
  direct := h.direct
  blocked := h.blocked
  balancer := by
    intro tag b hget
    rw [mem_addGroup_balancers]
    unfold TagPlan.addGroup at hget
    rw [KV.get_set] at hget
    split at hget
    · cases hget
      exact .inl rfl
    · exact .inr (h.balancer tag b hget)
  group := by
    intro tag b hget
    unfold TagPlan.addGroup at hget
    rw [KV.get_set] at hget
    split at hget
    · next heq => exact ⟨r, hr, heq.symm, ht⟩
    · exact h.group tag b hget
  entry := by
    intro b hb
    unfold TagPlan.addGroup at hb
    split at hb
    · exact h.entry b hb
    · rcases mem_append.mp hb with hb | hb
      · exact h.entry b hb
      · exact ⟨r, hr, ht, first, hfirst, mem_singleton.mp hb⟩

theorem Sound.step (h : Sound entries plan) (hr : r ∈ entries) :
    Sound entries (plan.step env r) := by
  unfold TagPlan.step
  split
  · exact h
  unfold extend
  split
  · next first rest ht _ =>
    exact (h.add _).addGroup hr ht (mem_append_right _ mem_cons_self)
  · exact h.add _

theorem sound_run (env : AppEnv) (entries : List ResolvedOutbound) :
    Sound entries (run env entries) := by
  refine foldlRecOn entries (TagPlan.step env) ?_ fun plan h r hr => h.step hr
  refine ⟨mem_cons_self, mem_cons_of_mem _ mem_cons_self, ?_, ?_, nofun⟩
  · intro tag b h
    cases h
  · intro tag b h
    cases h

/-! ## The tag `proxy` -/

/-- The entry has a profile that can be converted. -/
def hasOutbound (env : AppEnv) (r : ResolvedOutbound) : Prop :=
  ∃ p ∈ r.candidates, convertible env p = true

/-- Where the tag `proxy` leads. -/
def proxyView (plan : TagPlan) : Prop × Option String :=
  (tagProxy ∈ plan.tags, plan.groups.get tagProxy)

theorem proxyView_step (htag : r.tag ≠ tagProxy) :
    (plan.step env r).proxyView = plan.proxyView := by
  unfold TagPlan.step
  split
  · rfl
  have hnot : tagProxy ∉
      entryTags r plan.tags (r.candidates.filter (convertible env)) := by
    intro hmem
    rcases mem_entryTags hmem with ⟨heq, -⟩ | hderived
    · exact htag heq.symm
    · exact notMem_builtin_of_isDerived hderived mem_cons_self
  have hadd : (plan.add (entryTags r plan.tags
      (r.candidates.filter (convertible env)))).proxyView = plan.proxyView := by
    unfold proxyView add
    simp only [mem_append, hnot, or_false]
  unfold extend
  split
  · next first rest _ htags =>
    rw [htags] at hadd
    rw [← hadd]
    unfold proxyView TagPlan.addGroup
    rw [KV.get_set, if_neg (Ne.symm htag)]
  · exact hadd

theorem proxyView_run {routing : List ResolvedOutbound}
    (hrouting : ∀ r ∈ routing, r.tag ≠ tagProxy) :
    (run env (primary :: routing)).proxyView = (step env {} primary).proxyView := by
  exact foldlRecOn (motive := fun plan => plan.proxyView = (step env {} primary).proxyView)
    routing (step env) rfl fun plan h r hr => (proxyView_step (hrouting r hr)).trans h

theorem entryTags_nil (r : ResolvedOutbound) (existingTags : List String) :
    entryTags r existingTags [] = [] := by
  unfold entryTags
  cases r.resolvedType <;> rfl

theorem hasOutbound_iff : hasOutbound env r ↔ r.candidates.filter (convertible env) ≠ [] := by
  simp [hasOutbound]

theorem extend_tags (plan : TagPlan) (r : ResolvedOutbound) (tags : List String) :
    (plan.extend r tags).tags = plan.tags ++ tags := by
  unfold extend
  split <;> rfl

theorem extend_groups (plan : TagPlan) (r : ResolvedOutbound) (tags : List String) :
    (plan.extend r tags).groups = if r.resolvedType = .policygroup ∧ tags ≠ [] then
      plan.groups.set r.tag (balancerTagOf r.tag) else plan.groups := by
  unfold extend
  cases r.resolvedType with
  | normal => rfl
  | proxychain => rfl
  | policygroup => cases tags <;> rfl

section
variable {primary : ResolvedOutbound} (htag : primary.tag = AppConfig.tagProxy)
include htag

/-- The first entry finds only the tags of the template. -/
theorem step_first : step env {} primary =
    extend {} primary (entryTags primary [tagDirect, tagBlocked]
      (primary.candidates.filter (convertible env))) :=
  if_neg (by rw [htag]; decide)

theorem entryTags_first (h : hasOutbound env primary) :
    (primary.resolvedType = .policygroup ∧
      entryTags primary [tagDirect, tagBlocked]
        (primary.candidates.filter (convertible env)) ≠ []) ∨
    (primary.resolvedType ≠ .policygroup ∧
      primary.tag ∈ entryTags primary [tagDirect, tagBlocked]
        (primary.candidates.filter (convertible env))) :=
  entryTags_of_ne_nil (by decide) (by rw [htag]; decide) (hasOutbound_iff.mp h)

theorem proxy_mem_step_first : tagProxy ∈ (step env {} primary).tags ↔
    primary.resolvedType ≠ .policygroup ∧ hasOutbound env primary := by
  rw [step_first htag, extend_tags, mem_append, or_iff_right (by decide)]
  constructor
  · intro hmem
    refine ⟨?_, hasOutbound_iff.mpr fun hnil => ?_⟩
    · rcases mem_entryTags hmem with ⟨-, ht⟩ | hderived
      · exact ht
      · exact absurd mem_cons_self (notMem_builtin_of_isDerived hderived)
    · rw [hnil, entryTags_nil] at hmem
      cases hmem
  · rintro ⟨ht, hout⟩
    rcases entryTags_first htag hout with ⟨ht', -⟩ | ⟨-, hmem⟩
    · exact absurd ht' ht
    · exact htag ▸ hmem

theorem get_proxy_step_first :
    (step env {} primary).groups.get tagProxy = some b ↔
      b = tagBalancer ∧ primary.resolvedType = .policygroup ∧ hasOutbound env primary := by
  rw [step_first htag, extend_groups]
  constructor
  · intro hget
    split at hget
    · next h =>
      rw [htag] at hget
      cases hget
      refine ⟨rfl, h.1, hasOutbound_iff.mpr fun hnil => h.2 ?_⟩
      rw [hnil, entryTags_nil]
    · cases hget
  · rintro ⟨rfl, ht, hout⟩
    rcases entryTags_first htag hout with ⟨-, hne⟩ | ⟨ht', -⟩
    · rw [if_pos ⟨ht, hne⟩, htag]
      rfl
    · exact absurd ht ht'

variable {routing : List ResolvedOutbound} (hrouting : ∀ r ∈ routing, r.tag ≠ AppConfig.tagProxy)
include hrouting

/-- There is an outbound `proxy` unless the first entry is a group or has nothing to convert. -/
theorem proxy_mem_run : tagProxy ∈ (run env (primary :: routing)).tags ↔
    primary.resolvedType ≠ .policygroup ∧ hasOutbound env primary := by
  have hview := congrArg Prod.fst (@proxyView_run env primary routing hrouting)
  exact (iff_of_eq hview).trans (proxy_mem_step_first htag)

/-- There is a balancer for `proxy` if the first entry is a group with something to convert. -/
theorem get_proxy_run :
    (run env (primary :: routing)).groups.get tagProxy = some b ↔
      b = tagBalancer ∧ primary.resolvedType = .policygroup ∧ hasOutbound env primary := by
  have hview := congrArg Prod.snd (@proxyView_run env primary routing hrouting)
  exact (iff_of_eq (congrArg (· = some b) hview)).trans (get_proxy_step_first htag)

end
end
end TagPlan
end ZeroVpn
