import ZeroVpn.Ui.MainViewModel

/-!
# Removing duplicates

`removeDuplicateServer` keeps the first server of each identity in the shown list and removes the
others by their guid. What it does to the list is a filter by the removed guids; what may go wrong is
that a guid is shown twice, or that the selected server is not the first of its identity.
-/

namespace ZeroVpn
open MmkvManager MainViewModel List

/-! ## Removing servers one after the other -/

variable {server : ServersCache}

namespace Store

variable {s : Store}
variable {guids : List String} {guid : String} {s' : Store}

theorem serverAff_forget_of_notMem (h : guid ∉ guids) :
    (s.forget guids).serverAffiliationInfo guid = s.serverAffiliationInfo guid := by
  unfold serverAffiliationInfo forget
  rw [KV.get_removeValuesForKeys, if_neg h]

/-- What the removal of the servers `guids` leaves. -/
structure Without (s s' : Store) (guids : List String) : Prop where
  config : ∀ guid, s'.serverConfig guid = if guid ∈ guids then none else s.serverConfig guid
  aff : ∀ guid, guid ∉ guids → s'.serverAffiliationInfo guid = s.serverAffiliationInfo guid
  selected : s'.selected = s.selected.filter (· ∉ guids)
  listed : ∀ group, (s'.listed group).filter (· ∉ guids) = (s.listed group).filter (· ∉ guids)
  subIds : s'.subIds = s.subIds

theorem filter_notMem_erase {l : List String} (h : guid ∈ guids) :
    (l.erase guid).filter (· ∉ guids) = l.filter (· ∉ guids) := by
  induction l with
  | nil => rfl
  | cons a l ih =>
    by_cases ha : a = guid
    · subst ha
      rw [erase_cons_head, filter_cons_of_neg (by simpa using h)]
    · rw [erase_cons_tail (by simpa using ha), filter_cons, filter_cons, ih]

theorem without_dropServer (s : Store) (guid : String) : s.Without (s.dropServer guid) [guid] where
  config := fun g => serverConfig_forget _ [guid] g
  aff := fun g hg => serverAff_forget_of_notMem hg
  selected := rfl
  listed := by
    intro group
    unfold dropServer
    rw [listed_forget, listed_setServerList]
    split
    · next h =>
      have hhome : s.homeGroup guid = group := by
        rw [h, homeGroup, getSubscriptionId_idem]
      rw [hhome]
      exact filter_notMem_erase mem_cons_self
    · rfl
  subIds := rfl

theorem Without.trans {s₁ s₂ s₃ : Store} (h : s₁.Without s₂ guids) (h' : s₂.Without s₃ guids') :
    s₁.Without s₃ (guids ++ guids') where
  config := by
    intro guid
    rw [h'.config, h.config]
    by_cases h₁ : guid ∈ guids <;> by_cases h₂ : guid ∈ guids' <;> simp [h₁, h₂]
  aff := by
    intro guid hguid
    rw [mem_append, not_or] at hguid
    rw [h'.aff guid hguid.2, h.aff guid hguid.1]
  selected := by
    rw [h'.selected, h.selected, Option.filter_filter]
    refine congrFun (congrArg Option.filter (funext fun guid => ?_)) _
    simp [not_or]
  listed := by
    intro group
    have hfirst (l : List String) : l.filter (· ∉ guids ++ guids') =
        (l.filter (· ∉ guids)).filter (· ∉ guids') := by
      rw [filter_filter]
      exact filter_congr fun guid _ => by simp [Bool.and_comm]
    have hlast (l : List String) : l.filter (· ∉ guids ++ guids') =
        (l.filter (· ∉ guids')).filter (· ∉ guids) := by
      rw [filter_filter]
      exact filter_congr fun guid _ => by simp
    rw [hlast, h'.listed group, ← hlast, hfirst, h.listed group, ← hfirst]
  subIds := h'.subIds.trans h.subIds

theorem without_foldl (guids : List String) (s : Store) :
    s.Without (guids.foldl dropServer s) guids := by
  induction guids generalizing s with
  | nil =>
    refine ⟨fun _ => rfl, fun _ _ => rfl, ?_, fun _ => rfl, rfl⟩
    change s.selected = _
    cases s.selected <;> simp [Option.filter]
  | cons guid guids ih => exact (s.without_dropServer guid).trans (ih _)

/-- The rows of the servers that are left. -/
theorem Without.serverGuidList (h : s.Without s' guids) (groupId : String) :
    (s'.serverGuidList groupId).filter (· ∉ guids) =
      (s.serverGuidList groupId).filter (· ∉ guids) := by
  have hsubs : s'.subsList = s.subsList := by rw [subsList, subsList, h.subIds]
  unfold Store.serverGuidList
  split
  · unfold allServerList
    rw [hsubs]
    rw [filter_append, filter_append, filter_flatMap, filter_flatMap]
    refine congr (congrArg _ ?_) (flatMap_congr fun group _ => h.listed _)
    split
    · rfl
    · exact h.listed _
  · exact h.listed _

theorem cacheOf_eq_some_iff :
    s.cacheOf guid = some server ↔ server.guid = guid ∧ s.serverConfig guid = some server.profile ∧
      server.testDelayMillis =
        ((s.serverAffiliationInfo guid).map (·.testDelayMillis)).getD 0 := by
  rw [cacheOf, Option.map_eq_some_iff]
  constructor
  · rintro ⟨profile, hconfig, rfl⟩
    exact ⟨rfl, hconfig, rfl⟩
  · rintro ⟨rfl, hconfig, hdelay⟩
    refine ⟨server.profile, hconfig, ?_⟩
    rw [← hdelay]

theorem Without.cacheOf (h : s.Without s' guids) (guid : String) :
    s'.cacheOf guid = (s.cacheOf guid).filter (·.guid ∉ guids) := by
  unfold Store.cacheOf
  rw [h.config]
  by_cases hguid : guid ∈ guids
  · cases s.serverConfig guid <;> simp [Option.filter, hguid]
  · rw [h.aff guid hguid]
    cases s.serverConfig guid <;> simp [Option.filter, hguid]

theorem filter_serversCache (guids l : List String) :
    (s.serversCache l).filter (·.guid ∉ guids) = s.serversCache (l.filter (· ∉ guids)) := by
  unfold serversCache
  rw [filter_filterMap, filterMap_filter]
  refine filterMap_congr fun guid _ => ?_
  cases hrow : s.cacheOf guid with
  | none => by_cases hguid : guid ∈ guids <;> simp [hguid]
  | some server =>
    have hkey : server.guid = guid := (cacheOf_eq_some_iff.mp hrow).1
    by_cases hguid : guid ∈ guids <;> simp [Option.filter, hguid, hkey]

/-- After a removal the shown list is what is left of it. -/
theorem Without.shownServers (h : s.Without s' guids) (shown : ProfileItem → Bool)
    (groupId : String) :
    s'.shownServers shown groupId =
      (s.shownServers shown groupId).filter (·.guid ∉ guids) := by
  have hrows (l : List String) : s'.serversCache l = (s.serversCache l).filter (·.guid ∉ guids) := by
    unfold Store.serversCache
    rw [filter_filterMap]
    exact filterMap_congr fun guid _ => h.cacheOf guid
  unfold Store.shownServers
  rw [hrows, filter_serversCache, h.serverGuidList, ← filter_serversCache, filter_filter,
    filter_filter]
  exact filter_congr fun _ _ => Bool.and_comm _ _

theorem serverConfig_of_mem_shownServers (h : server ∈ s.shownServers shown groupId) :
    s.serverConfig server.guid = some server.profile := by
  obtain ⟨guid, -, hrow⟩ := mem_filterMap.mp (mem_filter.mp h).1
  obtain ⟨rfl, hconfig, -⟩ := cacheOf_eq_some_iff.mp hrow
  exact hconfig

end Store

/-! ## The duplicates of a list -/

/-- The identities of the servers of a list. -/
def identities (servers : List ServersCache) : List ProfileItem :=
  (servers.filter fun server => !server.profile.configType.isComplexType).map
    (·.profile.duplicateIdentity)

theorem mem_identities :
    identity ∈ identities servers ↔ ∃ server ∈ servers,
      server.profile.configType.isComplexType = false ∧
        server.profile.duplicateIdentity = identity := by
  simp [identities, and_assoc]

theorem identities_cons (h : server.profile.configType.isComplexType = false) :
    identities (server :: servers) = server.profile.duplicateIdentity :: identities servers := by
  simp [identities, h]

/-- A server of this guid has the identity of an earlier one. -/
def IsDuplicate (servers : List ServersCache) (guid : String) : Prop :=
  ∃ earlier server later, servers = earlier ++ server :: later ∧ server.guid = guid ∧
    server.profile.configType.isComplexType = false ∧
    server.profile.duplicateIdentity ∈ identities earlier

/-- No server that is the first of its identity is shown again. -/
def FirstsShownOnce (servers : List ServersCache) : Prop :=
  ∀ earlier server later, servers = earlier ++ server :: later →
    server.profile.configType.isComplexType = false →
    server.profile.duplicateIdentity ∉ identities earlier →
      ∀ other ∈ later, other.guid ≠ server.guid

theorem mem_findDuplicates_iff :
    guid ∈ findDuplicates seen servers ↔ ∃ earlier server later,
      servers = earlier ++ server :: later ∧ server.guid = guid ∧
      server.profile.configType.isComplexType = false ∧
      (server.profile.duplicateIdentity ∈ seen ∨
        server.profile.duplicateIdentity ∈ identities earlier) := by
  induction servers generalizing seen with
  | nil => simp [findDuplicates]
  | cons first servers ih =>
    -- a split of the list is at its head, or one of the tail
    have hsplit (P : List ServersCache → ServersCache → Prop) :
        (∃ earlier server later, first :: servers = earlier ++ server :: later ∧
          P earlier server) ↔ P [] first ∨ ∃ earlier server later,
            servers = earlier ++ server :: later ∧ P (first :: earlier) server := by
      constructor
      · rintro ⟨earlier, server, later, heq, hp⟩
        cases earlier with
        | nil =>
          cases heq
          exact .inl hp
        | cons a earlier =>
          cases heq
          exact .inr ⟨earlier, server, later, rfl, hp⟩
      · rintro (hp | ⟨earlier, server, later, rfl, hp⟩)
        · exact ⟨[], first, servers, rfl, hp⟩
        · exact ⟨first :: earlier, server, later, rfl, hp⟩
    rw [hsplit, findDuplicates]
    split
    · next hcomplex =>
      rw [ih]
      simp [identities, hcomplex]
    · next hcomplex =>
      rw [Bool.not_eq_true] at hcomplex
      split
      · next hseen =>
        rw [mem_cons, ih]
        refine or_congr (by simp [hcomplex, hseen, eq_comm]) ?_
        refine exists_congr fun earlier => exists_congr fun server => exists_congr fun later =>
          and_congr_right fun _ => and_congr_right fun _ => and_congr_right fun _ => ?_
        rw [identities_cons hcomplex, mem_cons]
        constructor
        · exact fun h => h.imp_right .inr
        · rintro (h | h | h)
          · exact .inl h
          · exact .inl (h ▸ hseen)
          · exact .inr h
      · next hseen =>
        rw [ih, or_iff_right (by simp [hseen, identities])]
        refine exists_congr fun earlier => exists_congr fun server => exists_congr fun later =>
          and_congr_right fun _ => and_congr_right fun _ => and_congr_right fun _ => ?_
        rw [identities_cons hcomplex, mem_cons, mem_cons, or_assoc, or_left_comm]

theorem mem_findDuplicates :
    guid ∈ findDuplicates [] servers ↔ IsDuplicate servers guid := by
  rw [mem_findDuplicates_iff]
  simp [IsDuplicate]

section
variable {servers : List ServersCache} {guid : String} {identity : ProfileItem}

theorem IsDuplicate.exists_server (h : IsDuplicate servers guid) : ∃ server ∈ servers,
    server.guid = guid ∧ server.profile.configType.isComplexType = false := by
  obtain ⟨earlier, server, later, rfl, hguid, hsimple, -⟩ := h
  exact ⟨server, mem_append_right _ mem_cons_self, hguid, hsimple⟩

/-- Every identity has a first server. -/
theorem exists_first (h : identity ∈ identities servers) : ∃ earlier server later,
    servers = earlier ++ server :: later ∧ server.profile.configType.isComplexType = false ∧
      server.profile.duplicateIdentity = identity ∧ identity ∉ identities earlier := by
  obtain ⟨server, hserver, hsimple, hidentity⟩ := mem_identities.mp h
  let p : ServersCache → Bool := fun server => !server.profile.configType.isComplexType &&
    decide (server.profile.duplicateIdentity = identity)
  have hp : ∃ server ∈ servers, p server = true := ⟨server, hserver, by simp [p, hsimple, hidentity]⟩
  obtain ⟨first, hfirst⟩ := Option.isSome_iff_exists.mp (find?_isSome.mpr hp)
  obtain ⟨hpfirst, earlier, later, heq, hnone⟩ := find?_eq_some_iff_append.mp hfirst
  simp only [p, Bool.and_eq_true, Bool.not_eq_true', decide_eq_true_eq] at hpfirst
  refine ⟨earlier, first, later, heq, hpfirst.1, hpfirst.2, ?_⟩
  intro hmem
  obtain ⟨other, hother, hsimple', hidentity'⟩ := mem_identities.mp hmem
  have hnot := hnone other hother
  simp [p, hsimple', hidentity'] at hnot

/-- A server after one of the same identity is a duplicate. -/
theorem isDuplicate_of_later {first : ServersCache} (heq : servers = earlier ++ first :: later)
    (hserver : server ∈ later) (hfirst : first.profile.configType.isComplexType = false)
    (hsimple : server.profile.configType.isComplexType = false)
    (hidentity : server.profile.duplicateIdentity = first.profile.duplicateIdentity) :
    IsDuplicate servers server.guid := by
  obtain ⟨between, rest, rfl⟩ := append_of_mem hserver
  refine ⟨earlier ++ first :: between, server, rest, by rw [heq]; simp, rfl, hsimple, ?_⟩
  refine mem_identities.mpr ⟨first, ?_, hfirst, hidentity.symm⟩
  exact mem_append_right _ mem_cons_self

/-- A server of an identity that some earlier server has comes after the first one of it. -/
theorem mem_later_of_split (heq : servers = earlier ++ first :: later)
    (heq' : servers = earlier' ++ server :: later') (hfresh : identity ∉ identities earlier)
    (hseen : identity ∈ identities earlier') : server ∈ later := by
  rw [heq] at heq'
  rcases append_eq_append_iff.mp heq' with ⟨between, hearlier, htail⟩ | ⟨between, hearlier, htail⟩
  · cases between with
    | nil =>
      rw [append_nil] at hearlier
      exact absurd (hearlier ▸ hseen) hfresh
    | cons a between =>
      rw [(List.cons.inj htail).2]
      exact mem_append_right _ mem_cons_self
  · refine absurd ?_ hfresh
    obtain ⟨other, hother, hrest⟩ := mem_identities.mp hseen
    rw [hearlier]
    exact mem_identities.mpr ⟨other, mem_append_left _ hother, hrest⟩

end

/-! ## What is left of a list -/

/-- Duplicates are gone and nothing else: every identity is left exactly once, every profile of a
complex type stays, the rest keeps its order, and the selected server stays selected. -/
structure KeepsRepresentatives (s s' : Store) (before after : List ServersCache) : Prop where
  kept : ∀ identity, identity ∈ identities after ↔ identity ∈ identities before
  once : (identities after).Nodup
  complex : after.filter (·.profile.configType.isComplexType) =
    before.filter (·.profile.configType.isComplexType)
  order : after.Sublist before
  selected : ∀ guid, s.selected = some guid → guid ∈ before.map (·.guid) →
    s'.selected = some guid ∧ ∃ profile, s'.serverConfig guid = some profile

section
variable {s s' : Store} {servers : List ServersCache} {guids : List String}
  (hread : ∀ server ∈ servers, s.serverConfig server.guid = some server.profile)
  (hguids : ∀ guid, guid ∈ guids ↔ IsDuplicate servers guid)
include hread hguids

/-- Servers of one guid have one profile. -/
theorem complex_notMem (hserver : server ∈ servers)
    (hcomplex : server.profile.configType.isComplexType = true) : server.guid ∉ guids := by
  intro hmem
  obtain ⟨other, hother, hguid, hsimple⟩ := ((hguids _).mp hmem).exists_server
  have hsame := hread other hother
  rw [hguid, hread server hserver] at hsame
  rw [← Option.some.inj hsame, hcomplex] at hsimple
  cases hsimple

omit hread in
theorem identities_once : (identities (servers.filter (·.guid ∉ guids))).Nodup := by
  unfold identities
  rw [filter_filter]
  refine pairwise_map.mpr (pairwise_filter.mpr ?_)
  refine pairwise_iff_forall_sublist.mpr ?_
  intro first server hsub hfirst hserver hidentity
  simp only [Bool.and_eq_true, Bool.not_eq_true', decide_eq_true_eq] at hfirst hserver
  obtain ⟨front, back, rfl, hmem, hrest⟩ := cons_sublist_iff.mp hsub
  obtain ⟨earlier, between, rfl⟩ := append_of_mem hmem
  have hlater : server ∈ between ++ back :=
    mem_append_right _ (singleton_sublist.mp hrest)
  have heq : earlier ++ first :: between ++ back = earlier ++ first :: (between ++ back) := by simp
  exact hserver.2 ((hguids _).mpr (isDuplicate_of_later heq hlater hfirst.1 hserver.1
    hidentity.symm))

theorem identities_kept_iff :
    (∀ identity, identity ∈ identities (servers.filter (·.guid ∉ guids)) ↔
      identity ∈ identities servers) ↔ FirstsShownOnce servers := by
  constructor
  · rintro hkept earlier first later heq hsimple hfresh other hother hguid
    have hfirst : first ∈ servers := by
      rw [heq]
      exact mem_append_right _ mem_cons_self
    have hother' : other ∈ servers := by
      rw [heq]
      exact mem_append_right _ (mem_cons_of_mem _ hother)
    have hprofile : other.profile = first.profile := by
      have hsame := hread other hother'
      rw [hguid, hread first hfirst] at hsame
      exact (Option.some.inj hsame).symm
    have hremoved : first.guid ∈ guids := by
      rw [← hguid]
      refine (hguids _).mpr (isDuplicate_of_later heq hother hsimple ?_ (by rw [hprofile]))
      rw [hprofile]
      exact hsimple
    obtain ⟨left, hleft, hleftSimple, hidentity⟩ := mem_identities.mp
      ((hkept first.profile.duplicateIdentity).mpr (mem_identities.mpr ⟨first, hfirst, hsimple, rfl⟩))
    rw [mem_filter, decide_eq_true_eq] at hleft
    obtain ⟨hleft, hstays⟩ := hleft
    -- it is the first one, or after it
    rw [heq, mem_append, mem_cons] at hleft
    rcases hleft with hbefore | rfl | hafter
    · exact hfresh (mem_identities.mpr ⟨left, hbefore, hleftSimple, hidentity⟩)
    · exact hstays hremoved
    · exact hstays ((hguids _).mpr (isDuplicate_of_later heq hafter hsimple hleftSimple hidentity))
  · intro honce identity
    constructor
    · intro hmem
      obtain ⟨server, hserver, hrest⟩ := mem_identities.mp hmem
      exact mem_identities.mpr ⟨server, (mem_filter.mp hserver).1, hrest⟩
    · intro hmem
      obtain ⟨earlier, first, later, heq, hsimple, rfl, hfresh⟩ := exists_first hmem
      have hfirst : first ∈ servers := by
        rw [heq]
        exact mem_append_right _ mem_cons_self
      refine mem_identities.mpr ⟨first, mem_filter.mpr ⟨hfirst, ?_⟩, hsimple, rfl⟩
      refine decide_eq_true fun hremoved => ?_
      obtain ⟨earlier', other, later', heq', hguid, -, hseen⟩ := (hguids _).mp hremoved
      have hother : other ∈ servers := by
        rw [heq']
        exact mem_append_right _ mem_cons_self
      have hprofile : other.profile = first.profile := by
        have hsame := hread other hother
        rw [hguid, hread first hfirst] at hsame
        exact (Option.some.inj hsame).symm
      rw [hprofile] at hseen
      exact honce earlier first later heq hsimple hfresh other
        (mem_later_of_split heq heq' hfresh hseen) hguid

theorem keepsRepresentatives_iff (h : s.Without s' guids) :
    KeepsRepresentatives s s' servers (servers.filter (·.guid ∉ guids)) ↔
      FirstsShownOnce servers ∧ ∀ guid, s.selected = some guid → ¬IsDuplicate servers guid := by
  constructor
  · intro hkeeps
    refine ⟨(identities_kept_iff hread hguids).mp hkeeps.kept, ?_⟩
    intro guid hselected hduplicate
    obtain ⟨server, hserver, hguid, -⟩ := hduplicate.exists_server
    have hafter := (hkeeps.selected guid hselected
      (mem_map.mpr ⟨server, hserver, hguid⟩)).1
    rw [h.selected, Option.filter_eq_some_iff, decide_eq_true_eq] at hafter
    exact hafter.2 ((hguids guid).mpr hduplicate)
  · rintro ⟨honce, hselection⟩
    refine ⟨(identities_kept_iff hread hguids).mpr honce, identities_once hguids, ?_,
      filter_sublist, ?_⟩
    · rw [filter_filter]
      refine filter_congr fun server hserver => ?_
      cases hcomplex : server.profile.configType.isComplexType with
      | false => rfl
      | true => simp [complex_notMem hread hguids hserver hcomplex]
    · intro guid hselected hshown
      obtain ⟨server, hserver, rfl⟩ := mem_map.mp hshown
      have hstays : server.guid ∉ guids := fun hmem =>
        hselection _ hselected ((hguids _).mp hmem)
      refine ⟨?_, server.profile, ?_⟩
      · rw [h.selected, hselected, Option.filter_eq_some_iff]
        exact ⟨rfl, decide_eq_true hstays⟩
      · rw [h.config, if_neg hstays, hread server hserver]

end

/-! ## The removal -/

theorem exec_removeDuplicateServer {s : Store}
    (hread : ∀ server ∈ servers, s.serverConfig server.guid = some server.profile) :
    (removeDuplicateServer servers).exec s =
      (findDuplicates [] servers).foldl Store.dropServer s := by
  have hnonblank : ∀ guid ∈ findDuplicates [] servers, Text.isBlank guid = false := by
    intro guid hguid
    obtain ⟨server, hserver, rfl, -⟩ := (mem_findDuplicates.mp hguid).exists_server
    exact (Store.serverConfig_eq_some_iff.mp (hread server hserver)).1
  unfold removeDuplicateServer Prog.exec
  rw [Prog.run_bind, Prog.run_forM run_removeServer_ite]
  refine foldl_ext _ _ _ fun s guid hguid => ?_
  rw [hnonblank guid hguid, if_neg Bool.false_ne_true]

/-- Removing the duplicates of a shown list keeps one server of each identity, every profile of a
complex type, the order and the selection if and only if no server that is the first of its identity
is shown twice and the selected server is not a duplicate of an earlier one. -/
theorem duplicates_removed_iff (s : Store) (shown : ProfileItem → Bool) (groupId : String) :
    (let before := s.shownServers shown groupId
     let s' := (removeDuplicateServer before).exec s
     KeepsRepresentatives s s' before (s'.shownServers shown groupId)) ↔
      FirstsShownOnce (s.shownServers shown groupId) ∧
        ∀ guid, s.selected = some guid → ¬IsDuplicate (s.shownServers shown groupId) guid := by
  have hread : ∀ server ∈ s.shownServers shown groupId,
      s.serverConfig server.guid = some server.profile :=
    fun server hserver => Store.serverConfig_of_mem_shownServers hserver
  dsimp only
  rw [exec_removeDuplicateServer hread]
  have hwithout := s.without_foldl (findDuplicates [] (s.shownServers shown groupId))
  rw [hwithout.shownServers]
  exact keepsRepresentatives_iff hread (fun _ => mem_findDuplicates) hwithout

/-- Two equal servers, the second one selected. -/
def twins : Store :=
  (((({} : Store).setServerConfig "a" { configType := .socks }).setServerConfig "b"
    { configType := .socks, remarks := "b" }).setServerList "g" ["a", "b"]).setSelected "b"

theorem twins_lose_selection :
    "b" ∈ (twins.shownServers (fun _ => true) "g").map (·.guid) ∧
      ((removeDuplicateServer (twins.shownServers (fun _ => true) "g")).exec twins).selected =
        none := by
  decide

end ZeroVpn
