import ZeroVpn.Core.BuiltSpec

/-!
# Chains of outbounds

`DialerPath` follows `sockopt.dialerProxy` from outbound to outbound. Converted profiles dial
directly, so that the links of a chain are the only ones; in a list whose tags are distinct, the
path from the first hop of a chain visits its hops one after the other.
-/

namespace ZeroVpn

open CoreOutboundBuilder CoreConfigContextBuilder CoreConfigManager List

/-! ## Converted profiles dial directly -/

variable {o : OutboundBean}

namespace CoreOutboundBuilder

section
variable {env : AppEnv} {p : ProfileItem}
variable (s : StreamSettingsBean) {fill : OutSettingsBean → OutSettingsBean}

theorem updateOutboundFinalMask_sockopt :
    (updateOutboundFinalMask env s p).sockopt = s.sockopt := by
  unfold updateOutboundFinalMask
  split <;> rfl

theorem updateOutboundFragment_sockopt : (updateOutboundFragment env s).sockopt = s.sockopt := by
  unfold updateOutboundFragment
  split
  · rfl
  split
  · rfl
  split <;> rfl

theorem populateTlsSettings_sockopt (sni : Option String) :
    (populateTlsSettings env s p sni).sockopt = s.sockopt := by
  unfold populateTlsSettings
  split
  · rfl
  dsimp only
  split
  · rw [updateOutboundFragment_sockopt]
    split
    · rfl
    split <;> rfl
  · split
    · rfl
    split <;> rfl

theorem transportSettings_sockopt (t : Option NetworkType) :
    (transportSettings env s p t).1.sockopt = s.sockopt := by
  cases t with
  | none => rfl
  | some t =>
    cases t with
    | tcp =>
      unfold transportSettings
      dsimp only
      split <;> rfl
    | _ => rfl

theorem populateStream_sockopt : (populateStream env s p).sockopt = s.sockopt := by
  unfold populateStream populateTransportSettings
  rw [populateTlsSettings_sockopt, updateOutboundFinalMask_sockopt, transportSettings_sockopt]

theorem dialerProxy_of_toOutboundStream {init : OutboundBean}
    (hinit : createInitOutbound t = some init) (hstream : init.streamSettings = some {})
    (h : toOutboundStream env t p fill = .ok (some o)) : o.dialerProxy = none := by
  obtain ⟨address, port, -, heq⟩ := toOutboundStream_eq_ok hinit h
  cases heq
  unfold OutboundBean.dialerProxy
  rw [hstream, Option.map_some, Option.bind_some, populateStream_sockopt]
  rfl

theorem dialerProxy_of_toOutboundServer {init : OutboundBean}
    (hinit : createInitOutbound t = some init) (hstream : init.streamSettings = some {})
    (h : toOutboundServer env t p fill = .ok (some o)) : o.dialerProxy = none := by
  obtain ⟨address, port, -, heq⟩ := toOutboundServer_eq_ok hinit h
  cases heq
  rw [hstream]
  rfl

theorem dialerProxy_of_toOutboundWireguard (h : toOutboundWireguard env p = .ok (some o)) :
    o.dialerProxy = none := by
  obtain ⟨reserved, -, heq⟩ := bind_eq_ok.mp h
  cases heq
  unfold OutboundBean.dialerProxy
  split
  · rfl
  · rw [Option.bind_some, updateOutboundFinalMask_sockopt]
    rfl

theorem convert_dialerProxy (h : convert env p = .ok (some o)) : o.dialerProxy = none := by
  obtain ⟨r, hr, h⟩ := bind_eq_ok.mp h
  obtain ⟨o', rfl, hglobal⟩ := Option.bind_eq_some_iff.mp (Except.ok.inj h)
  obtain ⟨mux, rfl⟩ := updateOutboundWithGlobalSettings_eq_some hglobal
  change o'.dialerProxy = none
  unfold toOutbound at hr
  cases ht : p.configType with
  | vmess | shadowsocks | vless | trojan | hysteria2 =>
    rw [ht] at hr
    exact dialerProxy_of_toOutboundStream rfl rfl hr
  | socks | http =>
    rw [ht] at hr
    exact dialerProxy_of_toOutboundServer rfl rfl hr
  | wireguard =>
    rw [ht] at hr
    exact dialerProxy_of_toOutboundWireguard hr
  | custom | hysteria | policygroup | proxychain =>
    rw [ht] at hr
    cases hr

end
end CoreOutboundBuilder

/-! ## Paths -/

/-- The path that follows `dialerProxy` from an outbound to one that dials directly. -/
inductive DialerPath (outbounds : List OutboundBean) : OutboundBean → List OutboundBean → Prop
  | last {o : OutboundBean} (h : o.dialerProxy = none) : DialerPath outbounds o [o]
  | next {o o' : OutboundBean} {tag : String} {path : List OutboundBean}
      (h : o.dialerProxy = some tag) (hfind : outbounds.find? (·.tag = tag) = some o')
      (rest : DialerPath outbounds o' path) : DialerPath outbounds o (o :: path)

theorem DialerPath.unique (h : DialerPath outbounds o path) (h' : DialerPath outbounds o path') :
    path = path' := by
  induction h generalizing path' with
  | last hnone =>
    cases h' with
    | last => rfl
    | next hsome => rw [hnone] at hsome; cases hsome
  | next hsome hfind _ ih =>
    cases h' with
    | last hnone => rw [hnone] at hsome; cases hsome
    | next hsome' hfind' rest' =>
      cases Option.some_inj.mp (hsome.symm.trans hsome')
      cases Option.some_inj.mp (hfind.symm.trans hfind')
      rw [ih rest']

/-- Every outbound of `list` is found under its tag in `outbounds`. -/
def Findable (outbounds list : List OutboundBean) : Prop :=
  ∀ o ∈ list, ∃ o', outbounds.find? (·.tag = o.tag) = some o' ∧ o'.SameHop o

theorem findable_of_forall₂ {outbounds list extra : List OutboundBean}
    (h : Forall₂ OutboundBean.SameHop outbounds (list ++ extra))
    (hnodup : (list.map (·.tag)).Nodup) : Findable outbounds list := by
  induction list generalizing outbounds with
  | nil => exact forall_mem_nil _
  | cons o list ih =>
    rw [map_cons, nodup_cons] at hnodup
    cases h with
    | cons hsame hrest =>
      intro o₁ ho₁
      rcases mem_cons.mp ho₁ with rfl | ho₁
      · exact ⟨_, find?_cons_of_pos (decide_eq_true hsame.entry.1), hsame⟩
      · obtain ⟨o', hfind, hsame'⟩ := ih hrest hnodup.2 o₁ ho₁
        refine ⟨o', ?_, hsame'⟩
        rw [find?_cons_of_neg, hfind]
        rw [hsame.entry.1, decide_eq_true_eq]
        rintro heq
        exact hnodup.1 (heq ▸ mem_map_of_mem ho₁)

section
variable {outbounds : List OutboundBean}

theorem linkChain_cons_ne_nil (hop : OutboundBean) (hops : List OutboundBean) :
    ∃ first rest, linkChain (hop :: hops) = first :: rest ∧ first.tag = hop.tag := by
  cases hops with
  | nil => exact ⟨hop, [], rfl, rfl⟩
  | cons next rest => exact ⟨_, _, rfl, rfl⟩

/-- From the first hop the path visits the hops of the chain. -/
theorem dialerPath_linkChain (hdirect : ∀ hop ∈ hops, hop.dialerProxy = none)
    (hfind : Findable outbounds (linkChain hops)) (hchain : linkChain hops = first :: rest)
    (ho : o.SameHop first) :
    ∃ path, DialerPath outbounds o path ∧
      Forall₂ OutboundBean.SameHop path (linkChain hops) := by
  induction hops generalizing first o rest with
  | nil => cases hchain
  | cons hop hops ih =>
    obtain ⟨hhop, hdirect⟩ := forall_mem_cons.mp hdirect
    cases hops with
    | nil =>
      cases hchain
      exact ⟨[o], .last (ho.dialer.trans hhop), .cons ho .nil⟩
    | cons next hops =>
      cases hchain
      obtain ⟨second, rest, hrest, hsecond⟩ := linkChain_cons_ne_nil next hops
      obtain ⟨-, hfind⟩ := forall_mem_cons.mp hfind
      obtain ⟨o', ho', hsame⟩ := hfind second (hrest ▸ mem_cons_self)
      obtain ⟨path, hpath, hforall⟩ := ih hdirect hfind hrest hsame
      have hdialer : o.dialerProxy = some second.tag := by
        rw [ho.dialer, OutboundBean.dialerProxy_updateSockopt, hsecond]
      exact ⟨o :: path, .next hdialer ho' hpath, .cons ho hforall⟩

/-- From any hop the path visits hops of the chain, each once. -/
theorem dialerPath_of_mem_linkChain {hops : List OutboundBean}
    (hdirect : ∀ hop ∈ hops, hop.dialerProxy = none) (hnodup : (hops.map (·.tag)).Nodup)
    (hfind : Findable outbounds (linkChain hops)) {hop : OutboundBean}
    (hhop : hop ∈ linkChain hops) (ho : o.SameHop hop) :
    ∃ path, DialerPath outbounds o path ∧ (path.map (·.tag)).Nodup ∧
      ∀ t ∈ path.map (·.tag), t ∈ (linkChain hops).map (·.tag) := by
  induction hops generalizing hop o with
  | nil => cases hhop
  | cons head hops ih =>
    obtain ⟨first, rest, hchain, -⟩ := linkChain_cons_ne_nil head hops
    by_cases hfirst : hop = first
    · obtain ⟨path, hpath, hforall⟩ := dialerPath_linkChain hdirect hfind hchain (hfirst ▸ ho)
      have htags : path.map (·.tag) = (linkChain (head :: hops)).map (·.tag) :=
        map_tag_of_forall₂ (hforall.imp fun _ _ h => h.entry)
      refine ⟨path, hpath, ?_, ?_⟩
      · rw [htags, linkChain_tags]
        exact hnodup
      · rw [htags]
        exact fun t ht => ht
    · cases hops with
      | nil =>
        cases hchain
        exact absurd (mem_singleton.mp hhop) hfirst
      | cons next hops =>
        cases hchain
        obtain ⟨-, hdirect⟩ := forall_mem_cons.mp hdirect
        rw [map_cons, nodup_cons] at hnodup
        obtain ⟨-, hfind⟩ := forall_mem_cons.mp hfind
        obtain ⟨path, hpath, hpathnodup, htags⟩ := ih hdirect hnodup.2 hfind
          ((mem_cons.mp hhop).resolve_left hfirst) ho
        exact ⟨path, hpath, hpathnodup, fun t ht => mem_cons_of_mem _ (htags t ht)⟩

end

/-! ## The paths of an entry -/

namespace CoreConfigManager

section
variable {env : AppEnv} {r : ResolvedOutbound} {tags : List String}
  {pairs : List (OutboundBean × ProfileItem)} {outbounds : List OutboundBean}

theorem tagChain_direct (hconvert : ∀ e ∈ pairs, convert env e.2 = .ok (some e.1)) (tag : String) :
    ∀ hop ∈ tagChain tag (pairs.map (·.1)), hop.dialerProxy = none := by
  intro hop hmem
  obtain ⟨i, hi, rfl⟩ := mem_mapIdx.mp hmem
  obtain ⟨e, he, heq⟩ := mem_map.mp (getElem_mem hi)
  have hdirect := convert_dialerProxy (hconvert e he)
  rw [heq] at hdirect
  exact hdirect

theorem membersToAdd_direct (hconvert : ∀ e ∈ pairs, convert env e.2 = .ok (some e.1))
    (tag : String) (index : Nat) (tags : List String) :
    ∀ o ∈ membersToAdd tag index tags pairs, o.dialerProxy = none := by
  induction pairs generalizing index tags with
  | nil => exact forall_mem_nil _
  | cons e pairs ih =>
    obtain ⟨hfirst, hrest⟩ := forall_mem_cons.mp hconvert
    rw [membersToAdd]
    split
    · exact ih hrest _ _
    · have hdirect := convert_dialerProxy hfirst
      exact forall_mem_cons.mpr ⟨hdirect, ih hrest _ _⟩

/-- A single node is a chain of one hop. -/
theorem newOutbounds_eq_linkChain (ht : r.resolvedType ≠ .policygroup)
    (hpairs : convertProfiles env r.candidates = .ok pairs) :
    newOutbounds r tags pairs = [] ∨
      newOutbounds r tags pairs = linkChain (tagChain r.tag (pairs.map (·.1))) := by
  unfold newOutbounds
  cases htype : r.resolvedType with
  | normal =>
    have hlen := length_pairs_of_normal hpairs htype
    match pairs with
    | [] => exact .inl rfl
    | [e] => exact .inr rfl
    | _ :: _ :: _ => exact absurd hlen (by simp)
  | proxychain =>
    dsimp only
    split
    · exact .inl rfl
    · exact .inr rfl
  | policygroup => exact absurd htype ht

theorem tagChain_nodup (tag : String) (hops : List OutboundBean) :
    ((tagChain tag hops).map (·.tag)).Nodup := by
  rw [TagPlan.tagChain_tags]
  exact nodup_range.map (TagPlan.chainTag_injective tag)

/-- From every outbound of an entry there is a path, without cycle, inside the entry. -/
theorem dialerPath_of_mem_newOutbounds (hpairs : convertProfiles env r.candidates = .ok pairs)
    (hfind : Findable outbounds (newOutbounds r tags pairs)) {hop : OutboundBean}
    (hhop : hop ∈ newOutbounds r tags pairs) (ho : o.SameHop hop) :
    ∃ path, DialerPath outbounds o path ∧ (path.map (·.tag)).Nodup ∧
      ∀ t ∈ path.map (·.tag), t ∈ (newOutbounds r tags pairs).map (·.tag) := by
  obtain ⟨-, hconvert⟩ := convertProfiles_eq_ok hpairs
  by_cases ht : r.resolvedType = .policygroup
  · have hmember : hop ∈ membersToAdd r.tag 0 tags pairs := by
      rw [newOutbounds, ht] at hhop
      exact hhop
    have hdirect := membersToAdd_direct hconvert r.tag 0 tags hop hmember
    refine ⟨[o], .last (ho.dialer.trans hdirect), nodup_singleton _, ?_⟩
    refine forall_mem_singleton.mpr ?_
    dsimp only
    rw [ho.entry.1]
    exact mem_map_of_mem hhop
  · rcases @newOutbounds_eq_linkChain env r tags pairs ht hpairs with hnil | hchain
    · rw [hnil] at hhop
      cases hhop
    · rw [hchain] at hhop hfind ⊢
      exact dialerPath_of_mem_linkChain (tagChain_direct hconvert r.tag) (tagChain_nodup r.tag _)
        hfind hhop ho

/-- From the outbound with the entry's own tag the path visits the hops in their order. -/
theorem dialerPath_newOutbounds (ht : r.resolvedType ≠ .policygroup)
    (hpairs : convertProfiles env r.candidates = .ok pairs)
    (hfind : Findable outbounds (newOutbounds r tags pairs))
    (hne : newOutbounds r tags pairs ≠ []) :
    ∃ o path, outbounds.find? (·.tag = r.tag) = some o ∧ DialerPath outbounds o path ∧
      Forall₂ OutboundBean.SameHop path (newOutbounds r tags pairs) ∧
      Forall₂ (MadeFrom env) path (r.candidates.filter (convertible env)) := by
  obtain ⟨hprofiles, hconvert⟩ := convertProfiles_eq_ok hpairs
  have hchain := (@newOutbounds_eq_linkChain env r tags pairs ht hpairs).resolve_left hne
  rw [hchain] at hfind hne ⊢
  cases pairs with
  | nil => exact absurd rfl hne
  | cons e pairs =>
    obtain ⟨first, rest, hlink, htag⟩ := linkChain_cons_ne_nil
      { e.1 with tag := r.tag }
      (((pairs.map (·.1)).mapIdx fun i o => { o with tag := chainTag r.tag (i + 1) }))
    have hcons : tagChain r.tag ((e :: pairs).map (·.1)) = { e.1 with tag := r.tag } ::
        ((pairs.map (·.1)).mapIdx fun i o => { o with tag := chainTag r.tag (i + 1) }) := by
      rw [tagChain, map_cons, mapIdx_cons]
      rfl
    rw [← hcons] at hlink
    obtain ⟨o, ho, hsame⟩ := hfind first (hlink ▸ mem_cons_self)
    obtain ⟨path, hpath, hhops⟩ :=
      dialerPath_linkChain (tagChain_direct hconvert r.tag) hfind hlink hsame
    rw [htag] at ho
    refine ⟨o, path, ho, hpath, hhops, ?_⟩
    rw [← hprofiles]
    refine forall₂_madeFrom hconvert (forall₂_trans (fun _ _ _ => .trans) ?_
      (tagChain_forall₂ r.tag _))
    exact forall₂_trans (fun _ _ _ h h' => h.entry.2.trans h') hhops (linkChain_forall₂ _)

end

/-! ## The paths of a configuration -/

section
variable {env : AppEnv} {primary : ResolvedOutbound} {routing : List ResolvedOutbound}
  {list : List OutboundBean} {lists : List (List OutboundBean)} {outbounds : List OutboundBean}

theorem findable_planned
    (hemission : Emission env templateTags (primary :: routing) (list :: lists))
    (hout : Forall₂ OutboundBean.SameHop outbounds
      (serviceOutbounds env (plannedOutbounds list lists)))
    (he : e ∈ (primary :: routing).zip (list :: lists)) : Findable outbounds e.2 := by
  rw [serviceOutbounds_planned hemission] at hout
  intro o ho
  refine findable_of_forall₂ hout (plannedOutbounds_nodup hemission) o ?_
  refine mem_plannedOutbounds.mpr (.inl ?_)
  exact mem_flatten.mpr ⟨e.2, (of_mem_zip he).2, ho⟩

/-- From every outbound of a configuration there is a path, without cycle: the outbound alone, or
inside what one entry adds. -/
theorem dialerPath_of_mem_planned
    (hemission : Emission env templateTags (primary :: routing) (list :: lists))
    (hout : Forall₂ OutboundBean.SameHop outbounds
      (serviceOutbounds env (plannedOutbounds list lists))) (ho : o ∈ outbounds) :
    ∃ path, DialerPath outbounds o path ∧ (path.map (·.tag)).Nodup ∧
      (path = [o] ∨ ∃ added ∈ list :: lists, o.tag ∈ added.map (·.tag) ∧
        ∀ t ∈ path.map (·.tag), t ∈ added.map (·.tag)) := by
  obtain ⟨o', ho', hsame⟩ := exists_right_of_forall₂ hout ho
  have halone (hdirect : o'.dialerProxy = none) :
      ∃ path, DialerPath outbounds o path ∧ (path.map (·.tag)).Nodup ∧
        (path = [o] ∨ ∃ added ∈ list :: lists, o.tag ∈ added.map (·.tag) ∧
          ∀ t ∈ path.map (·.tag), t ∈ added.map (·.tag)) :=
    ⟨[o], .last (hsame.dialer.trans hdirect), nodup_singleton _, .inl rfl⟩
  rw [serviceOutbounds_planned hemission] at ho'
  rcases mem_append.mp ho' with hplanned | hdns
  · rcases mem_plannedOutbounds.mp hplanned with hadded | htemplate
    · obtain ⟨added, hlist, hmem⟩ := mem_flatten.mp hadded
      obtain ⟨r, hr⟩ := hemission.exists_entry hlist
      have hfind := findable_planned hemission hout hr
      rcases hemission.entry hr with hnil | ⟨taken, pairs, -, -, hpairs, hlist'⟩
      · dsimp only at hnil
        rw [hnil] at hmem
        cases hmem
      · dsimp only at hpairs hlist'
        subst hlist'
        obtain ⟨path, hpath, hnodup, htags⟩ :=
          dialerPath_of_mem_newOutbounds hpairs hfind hmem hsame
        refine ⟨path, hpath, hnodup, .inr ⟨_, hlist, ?_, htags⟩⟩
        rw [hsame.entry.1]
        exact mem_map_of_mem hmem
    · have hdirect : ∀ o ∈ v2rayConfigTemplate.outbounds.tail, o.dialerProxy = none := by decide
      exact halone (hdirect o' htemplate)
  · split at hdns
    · cases mem_singleton.mp hdns
      exact halone rfl
    · cases hdns

end
end CoreConfigManager
end ZeroVpn
