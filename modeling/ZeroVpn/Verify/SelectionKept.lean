import ZeroVpn.Handler.StoreSpec

/-!
# The selected server after a refresh

A refresh replaces the servers of a group. If the new batch has a profile that agrees with the
selected one on remarks, server, port and password, such a profile should be selected afterwards.
The comparison of `ProfileReplacement` takes blank texts for different, so that a server without
port or credentials is only looked up by its remarks.
-/

namespace ZeroVpn
open MmkvManager ProfileReplacement Text List

section
variable (fold : Char → Char)

/-- The texts are equal when trimmed and without regard to case; a missing text is a blank one. -/
def SameTrimmed (a b : Option String) : Prop :=
  equalsIgnoreCase fold (trim (orEmpty a)) (trim (orEmpty b)) = true

instance (a b : Option String) : Decidable (SameTrimmed fold a b) :=
  inferInstanceAs (Decidable (_ = true))

/-- The profiles agree in name, server, port and password. -/
structure ProfileItem.Agrees (c q : ProfileItem) : Prop where
  remarks : SameTrimmed fold c.remarks q.remarks
  server : SameTrimmed fold c.server q.server
  serverPort : SameTrimmed fold c.serverPort q.serverPort
  password : SameTrimmed fold c.password q.password

/-- Server, port and password are there. -/
structure ProfileItem.HasCredentials (q : ProfileItem) : Prop where
  server : isNullOrBlank q.server = false
  serverPort : isNullOrBlank q.serverPort = false
  password : isNullOrBlank q.password = false

/-- Before some profile that agrees with `q`, no profile of the batch has the remarks of `q`. -/
def NamedFirst (profiles : LinkedMap String ProfileItem) (q : ProfileItem) : Prop :=
  ∃ earlier e later, profiles.entries = earlier ++ e :: later ∧ e.2.Agrees fold q ∧
    ∀ e' ∈ earlier, ¬SameTrimmed fold e'.2.remarks q.remarks

end

variable {fold : Char → Char}

/-! ## The comparison of texts -/

theorem isNullOrBlank_eq_isBlank (a : Option String) :
    isNullOrBlank a = isBlank (orEmpty a) := by
  cases a with
  | none => decide
  | some a => rfl

/-- Only a blank text agrees with a blank one. -/
theorem SameTrimmed.isNullOrBlank (h : SameTrimmed fold a b) :
    isNullOrBlank a = isNullOrBlank b := by
  have hmap : (trim (orEmpty a)).toList.map fold =
      (trim (orEmpty b)).toList.map fold := beq_iff_eq.mp h
  have hempty : trim (orEmpty a) = "" ↔ trim (orEmpty b) = "" := by
    rw [← String.toList_eq_nil_iff, ← String.toList_eq_nil_iff, ← map_eq_nil_iff (f := fold),
      hmap, map_eq_nil_iff]
  rw [isNullOrBlank_eq_isBlank, isNullOrBlank_eq_isBlank, Bool.eq_iff_iff,
    ← trim_eq_empty_iff, ← trim_eq_empty_iff]
  exact hempty

theorem isSameText_iff :
    isSameText fold a b = true ↔ isNullOrBlank b = false ∧ SameTrimmed fold a b := by
  constructor
  · intro h
    unfold isSameText at h
    split at h
    · next a b =>
      simp only [Bool.and_eq_true, Bool.not_eq_true'] at h
      exact ⟨h.1.2, h.2⟩
    · cases h
  · rintro ⟨hb, hsame⟩
    have ha := hsame.isNullOrBlank.trans hb
    cases a with
    | none => cases ha
    | some a =>
      cases b with
      | none => cases hb
      | some b =>
        have ha' : isBlank a = false := ha
        have hb' : isBlank b = false := hb
        rw [isSameText, ha', hb']
        exact hsame

/-! ## The rounds of the search -/

section
variable {profiles : LinkedMap String ProfileItem} {q : ProfileItem}

theorem firstKey_eq_some_iff :
    firstKey profiles p = some guid ↔ ∃ earlier e later, profiles.entries = earlier ++ e :: later ∧
      e.1 = guid ∧ p e.2 = true ∧ ∀ e' ∈ earlier, p e'.2 = false := by
  rw [firstKey, Option.map_eq_some_iff]
  constructor
  · rintro ⟨e, he, rfl⟩
    obtain ⟨hp, earlier, later, hentries, hnone⟩ := find?_eq_some_iff_append.mp he
    exact ⟨earlier, e, later, hentries, rfl, hp, fun e' he' => by simpa using hnone e' he'⟩
  · rintro ⟨earlier, e, later, hentries, rfl, hp, hnone⟩
    refine ⟨e, find?_eq_some_iff_append.mpr ⟨hp, earlier, later, hentries, ?_⟩, rfl⟩
    intro e' he'
    rw [hnone e' he']
    rfl

theorem exists_firstKey (he : e ∈ profiles.entries) (hp : p e.2 = true) :
    ∃ guid, firstKey profiles p = some guid := by
  cases hfind : firstKey profiles p with
  | some guid => exact ⟨guid, rfl⟩
  | none =>
    rw [firstKey, Option.map_eq_none_iff, find?_eq_none] at hfind
    exact absurd hp (hfind e he)

theorem exists_entry_of_firstKey (h : firstKey profiles p = some guid) :
    ∃ e ∈ profiles.entries, e.1 = guid ∧ p e.2 = true := by
  obtain ⟨earlier, e, later, hentries, hkey, hp, -⟩ := firstKey_eq_some_iff.mp h
  refine ⟨e, ?_, hkey, hp⟩
  rw [hentries]
  exact mem_append_right _ mem_cons_self

/-- The profile agrees in four non-blank texts. -/
def fullMatch (fold : Char → Char) (q c : ProfileItem) : Bool :=
  isSameText fold c.remarks q.remarks && isSameText fold c.server q.server &&
    isSameText fold c.serverPort q.serverPort && isSameText fold c.password q.password

theorem fullMatch_iff (hremarks : isBlank q.remarks = false) :
    fullMatch fold q c = true ↔ c.Agrees fold q ∧ q.HasCredentials := by
  simp only [fullMatch, Bool.and_eq_true, isSameText_iff]
  constructor
  · rintro ⟨⟨⟨⟨-, hr⟩, hs, hs'⟩, hp, hp'⟩, hw, hw'⟩
    exact ⟨⟨hr, hs', hp', hw'⟩, ⟨hs, hp, hw⟩⟩
  · rintro ⟨hagrees, hcred⟩
    exact ⟨⟨⟨⟨hremarks, hagrees.remarks⟩, hcred.server, hagrees.server⟩, hcred.serverPort,
      hagrees.serverPort⟩, hcred.password, hagrees.password⟩

theorem firstKey_fullMatch_eq_none (hremarks : isBlank q.remarks = false)
    (hcred : ¬q.HasCredentials) : firstKey profiles (fullMatch fold q) = none := by
  rw [Option.eq_none_iff_forall_ne_some]
  intro guid hguid
  obtain ⟨e, -, -, hmatch⟩ := exists_entry_of_firstKey hguid
  exact hcred ((fullMatch_iff hremarks).mp hmatch).2

/-- The round by remarks finds an agreeing profile if and only if such a profile comes first. -/
theorem namedFirst_iff (hremarks : isBlank q.remarks = false)
    (hnamed : firstKey profiles (fun c => isSameText fold c.remarks q.remarks) = some named) :
    NamedFirst fold profiles q ↔ ∃ e ∈ profiles.entries, e.2.Agrees fold q ∧ e.1 = named := by
  constructor
  · rintro ⟨earlier, e, later, hentries, hagrees, hnone⟩
    have hfirst : firstKey profiles (fun c => isSameText fold c.remarks q.remarks) = some e.1 := by
      refine firstKey_eq_some_iff.mpr ⟨earlier, e, later, hentries, rfl,
        isSameText_iff.mpr ⟨hremarks, hagrees.remarks⟩, fun e' he' => ?_⟩
      rw [Bool.eq_false_iff]
      exact fun h => hnone e' he' (isSameText_iff.mp h).2
    have he : e ∈ profiles.entries := by
      rw [hentries]
      exact mem_append_right _ mem_cons_self
    exact ⟨e, he, hagrees, Option.some_inj.mp (hfirst.symm.trans hnamed)⟩
  · rintro ⟨e, he, hagrees, rfl⟩
    obtain ⟨earlier, e', later, hentries, hkey, -, hnone⟩ := firstKey_eq_some_iff.mp hnamed
    have he' : e' ∈ profiles.entries := by
      rw [hentries]
      exact mem_append_right _ mem_cons_self
    -- the guids of a batch are distinct
    obtain rfl : e' = e := inj_on_of_nodup_map profiles.nodup he' he hkey
    refine ⟨earlier, e', later, hentries, hagrees, fun e'' he'' hsame => ?_⟩
    have htrue : isSameText fold e''.2.remarks q.remarks = true :=
      isSameText_iff.mpr ⟨hremarks, hsame⟩
    rw [hnone e'' he''] at htrue
    cases htrue

/-- If some profile has the remarks of the selected one, the first two rounds decide. -/
theorem findSelectedReplacement_of_remarks (hselected : isBlank selected = false)
    (hremarks : isBlank q.remarks = false)
    (hnamed : firstKey profiles (fun c => isSameText fold c.remarks q.remarks) = some named) :
    findSelectedReplacement fold profiles (some selected) (some q) =
      (firstKey profiles (fullMatch fold q)).or (some named) := by
  have hne : profiles.entries ≠ [] := by
    intro hnil
    rw [firstKey, hnil] at hnamed
    cases hnamed
  unfold findSelectedReplacement
  have hsel : isNullOrBlank (some selected) = false := hselected
  rw [if_neg hne, hsel]
  dsimp only
  rw [hremarks, hnamed]
  change findSome? id (firstKey profiles (fullMatch fold q) :: some named :: _) = _
  cases firstKey profiles (fullMatch fold q) <;> rfl

end

/-- The selection after a replacing batch. -/
theorem selected_saveServerProfiles {s : Store} {profiles : LinkedMap String ProfileItem}
    {id selected guid : String} (hne : profiles.entries ≠ [])
    (hselected : s.selected = some selected) (hlisted : selected ∈ s.serverList id)
    (hconfig : s.serverConfig selected = some q)
    (hfound : findSelectedReplacement fold profiles (some selected) (some q) = some guid) :
    ((saveServerProfiles fold profiles rawConfigs id false).exec s).selected = some guid := by
  have hprofile : s.selectedProfile id false = some q := by
    rw [Store.selectedProfile, hselected]
    dsimp only
    rw [if_pos ⟨rfl, hlisted⟩, hconfig]
  rw [Prog.exec, run_saveServerProfiles]
  rw [if_neg hne]
  change (s.replacementSelection fold profiles id false <|> s.selected) = _
  rw [Store.replacementSelection, hselected, hprofile, hfound]
  rfl

/-- Let the selected server be in the replaced group, with a readable profile `q` that has remarks,
and let the batch have a profile that agrees with it. Then such a profile is selected afterwards if
and only if `q` has a server, a port and a password, or an agreeing profile comes before every other
one with the remarks of `q`. -/
theorem refresh_keeps_server_iff (fold : Char → Char) (s : Store)
    (profiles : LinkedMap String ProfileItem) (rawConfigs : KV String String)
    (id selected : String) (q : ProfileItem) (hselected : s.selected = some selected)
    (hlisted : selected ∈ s.serverList id) (hconfig : s.serverConfig selected = some q)
    (hremarks : isBlank q.remarks = false)
    (hbatch : ∃ e ∈ profiles.entries, e.2.Agrees fold q) :
    (∃ e ∈ profiles.entries, e.2.Agrees fold q ∧
      ((saveServerProfiles fold profiles rawConfigs id false).exec s).selected = some e.1) ↔
        q.HasCredentials ∨ NamedFirst fold profiles q := by
  have hblank : isBlank selected = false :=
    (Store.serverConfig_eq_some_iff.mp hconfig).1
  obtain ⟨e₀, he₀, hagrees₀⟩ := hbatch
  have hne : profiles.entries ≠ [] := ne_nil_of_mem he₀
  have hname : isSameText fold e₀.2.remarks q.remarks = true :=
    isSameText_iff.mpr ⟨hremarks, hagrees₀.remarks⟩
  obtain ⟨named, hnamed⟩ := exists_firstKey
    (p := fun c => isSameText fold c.remarks q.remarks) he₀ hname
  have hfind := findSelectedReplacement_of_remarks hblank hremarks hnamed
  by_cases hcred : q.HasCredentials
  · -- the first round finds a profile
    refine iff_of_true ?_ (.inl hcred)
    obtain ⟨full, hfull⟩ := exists_firstKey he₀ ((fullMatch_iff hremarks).mpr ⟨hagrees₀, hcred⟩)
    obtain ⟨e, he, rfl, hmatch⟩ := exists_entry_of_firstKey hfull
    rw [hfull] at hfind
    exact ⟨e, he, ((fullMatch_iff hremarks).mp hmatch).1,
      selected_saveServerProfiles hne hselected hlisted hconfig hfind⟩
  · -- only the round by remarks can find one
    rw [firstKey_fullMatch_eq_none hremarks hcred] at hfind
    have hafter : ((saveServerProfiles fold profiles rawConfigs id false).exec s).selected =
        some named := selected_saveServerProfiles hne hselected hlisted hconfig hfind
    rw [hafter, or_iff_right hcred, namedFirst_iff hremarks hnamed]
    simp only [Option.some_inj, eq_comm]

/-- A server without a password. -/
def openProxy : ProfileItem :=
  { configType := .socks, remarks := "a", server := some "h", serverPort := some "1" }

/-- The store with `openProxy` selected. -/
def openProxyStore : Store :=
  ((({} : Store).setServerConfig "g" openProxy).setServerList "" ["g"]).setSelected "g"

theorem openProxy_agrees : openProxy.Agrees id openProxy where
  remarks := by decide
  server := by decide
  serverPort := by decide
  password := by decide

/-- Another server of the same name comes first. -/
def namesake : LinkedMap String ProfileItem :=
  ⟨[("x", { openProxy with server := some "i" }), ("y", openProxy)], by decide⟩

theorem namesake_selected : openProxyStore.selected = some "g" ∧
    "g" ∈ openProxyStore.serverList "" ∧ openProxyStore.serverConfig "g" = some openProxy ∧
    isBlank openProxy.remarks = false ∧
    (∃ e ∈ namesake.entries, e.2.Agrees id openProxy) ∧
    ¬∃ e ∈ namesake.entries, e.2.Agrees id openProxy ∧
      ((saveServerProfiles id namesake ∅ "" false).exec openProxyStore).selected = some e.1 := by
  refine ⟨rfl, mem_cons_self, rfl, by decide,
    ⟨_, mem_cons_of_mem _ mem_cons_self, openProxy_agrees⟩, ?_⟩
  have hselected : ((saveServerProfiles id namesake ∅ "" false).exec openProxyStore).selected =
      some "x" := by decide
  rintro ⟨e, he, hagrees, hkey⟩
  rcases mem_cons.mp he with rfl | he
  · have hserver : ¬SameTrimmed id (some "i") openProxy.server := by decide
    exact hserver hagrees.server
  · rw [mem_singleton.mp he] at hkey
    exact absurd hkey (by decide)

theorem openProxy_kept : ∃ e ∈ [("y", openProxy)], e.2.Agrees id openProxy ∧
    ((saveServerProfiles id ⟨[("y", openProxy)], nodup_singleton _⟩ ∅ "" false).exec
      openProxyStore).selected = some e.1 := by
  refine (refresh_keeps_server_iff id openProxyStore ⟨[("y", openProxy)], nodup_singleton _⟩ ∅
    "" "g" openProxy rfl mem_cons_self rfl (by decide) ?_).mpr (.inr ?_)
  · exact ⟨_, mem_cons_self, openProxy_agrees⟩
  · exact ⟨[], ("y", openProxy), [], rfl, openProxy_agrees, forall_mem_nil _⟩

end ZeroVpn
