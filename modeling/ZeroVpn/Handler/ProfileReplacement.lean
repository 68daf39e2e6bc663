import ZeroVpn.Dto.Entities
import ZeroVpn.Std.KV
import Mathlib.Data.List.Dedup

/-!
# Replacement and orphan classification

The pure parts of a group replacement: which new profile becomes selected
(`ProfileReplacement.findSelectedReplacement`), which old payloads may go
(`ProfileReplacement.findRemovablePayloads`), and which stored payloads are orphans
(`OrphanProfileCleaner.findOrphans`).
-/

namespace ZeroVpn

open List Text

variable {guid : String}

namespace ProfileReplacement

section
-- Java's per-character case folding `toLowerCase(toUpperCase(c))`; nothing here depends on it.
variable (fold : Char → Char)

def isSameText (left right : Option String) : Bool :=
  match left, right with
  | some left, some right =>
    !isBlank left && !isBlank right &&
      equalsIgnoreCase fold (trim left) (trim right)
  | _, _ => false

/-- The key of the first entry whose profile satisfies `p`. -/
def firstKey (profiles : LinkedMap String ProfileItem) (p : ProfileItem → Bool) : Option String :=
  (profiles.entries.find? fun e => p e.2).map Prod.fst

def findSelectedReplacement (profiles : LinkedMap String ProfileItem)
    (currentSelection : Option String) (selectedProfile : Option ProfileItem) : Option String :=
  if profiles.entries = [] then none
  else if isNullOrBlank currentSelection then profiles.keys.head?
  else match selectedProfile with
    | none => none
    | some selected =>
      let sameRemarks (c : ProfileItem) := isSameText fold c.remarks selected.remarks
      let sameServer (c : ProfileItem) := isSameText fold c.server selected.server
      let samePort (c : ProfileItem) := isSameText fold c.serverPort selected.serverPort
      let samePassword (c : ProfileItem) := isSameText fold c.password selected.password
      -- The rounds of the source in order; the two remarks rounds need non-blank remarks.
      let byRemarks := if isBlank selected.remarks then [] else
        [firstKey profiles fun c => sameRemarks c && sameServer c && samePort c && samePassword c,
          firstKey profiles sameRemarks]
      let byServer :=
        [firstKey profiles fun c => sameServer c && samePort c && samePassword c,
          firstKey profiles fun c => sameServer c && samePort c,
          firstKey profiles sameServer]
      (byRemarks ++ byServer ++ [profiles.keys.head?]).findSome? id

variable {profiles : LinkedMap String ProfileItem}

theorem firstKey_mem (h : firstKey profiles p = some guid) :
    guid ∈ profiles.keys := by
  simp only [firstKey, Option.map_eq_some_iff] at h
  obtain ⟨e, he, rfl⟩ := h
  exact mem_map.mpr ⟨e, mem_of_find?_eq_some he, rfl⟩

/-- The replacement selection is one of the new profiles. -/
theorem findSelectedReplacement_mem
    (h : findSelectedReplacement fold profiles currentSelection selectedProfile = some guid) :
    guid ∈ profiles.keys := by
  unfold findSelectedReplacement at h
  split at h
  · cases h
  split at h
  · exact mem_of_head? h
  split at h
  · cases h
  obtain ⟨round, hround, rfl⟩ := exists_of_findSome?_eq_some h
  simp only [mem_append, mem_singleton] at hround
  rcases hround with (hround | hround) | hround
  · split at hround
    · cases hround
    · simp only [mem_cons, not_mem_nil, or_false] at hround
      rcases hround with hround | hround <;> exact firstKey_mem hround.symm
  · simp only [mem_cons, not_mem_nil, or_false] at hround
    rcases hround with hround | hround | hround <;> exact firstKey_mem hround.symm
  · exact mem_of_head? hround.symm

end

/-- A missing cross-group reference set means that some group index could not be read; nothing is
removable then. -/
def findRemovablePayloads (replacedServers replacementServers : List String)
    (protectedServer : Option String) (serversReferencedByOtherGroups : Option (List String)) :
    List String :=
  match serversReferencedByOtherGroups with
  | none => []
  | some referenced =>
    (replacedServers.filter fun guid =>
      some guid ≠ protectedServer ∧ guid ∉ replacementServers ∧ guid ∉ referenced).dedup

@[simp] theorem findRemovablePayloads_nil (replacement : List String) (prot : Option String)
    (referenced : Option (List String)) :
    findRemovablePayloads [] replacement prot referenced = [] := by
  cases referenced <;> rfl

theorem mem_findRemovablePayloads :
    guid ∈ findRemovablePayloads replaced replacement prot referenced ↔
      guid ∈ replaced ∧ some guid ≠ prot ∧ guid ∉ replacement ∧
        ∃ refs, referenced = some refs ∧ guid ∉ refs := by
  unfold findRemovablePayloads
  cases referenced with
  | none => simp
  | some refs => simp [mem_dedup]

end ProfileReplacement

structure StoredProfileReference where
  guid : String
  subscriptionId : Option String

namespace OrphanProfileCleaner

/-- `none` where a group index could not be read and no cleanup should run. -/
def findOrphans (profiles : List StoredProfileReference)
    (indexedServersBySubscription : List (String × Option (List String)))
    (selectedServer : Option String) : Option (List String) :=
  if profiles = [] then some []
  else if indexedServersBySubscription = [] ∨
      indexedServersBySubscription.any (fun e => e.2.isNone) then none
  else
    let indexedServers := indexedServersBySubscription.flatMap fun e => e.2.getD []
    some <| profiles.filterMap fun profile =>
      if some profile.guid = selectedServer ∨ profile.guid ∈ indexedServers then none
      else match profile.subscriptionId with
        | none => none
        | some subscriptionId =>
          let groupId := ifEmpty subscriptionId AppConfig.defaultSubscriptionId
          if groupId ∈ indexedServersBySubscription.map Prod.fst then some profile.guid else none

/-- An orphan is neither selected nor indexed by any group. -/
theorem findOrphans_spec (h : findOrphans profiles indexed selected = some orphans)
    (hg : guid ∈ orphans) :
    some guid ≠ selected ∧ ∀ group servers, (group, some servers) ∈ indexed → guid ∉ servers := by
  unfold findOrphans at h
  split at h
  · cases h; cases hg
  split at h
  · cases h
  simp only [Option.some.injEq] at h
  subst h
  obtain ⟨profile, _, hp⟩ := mem_filterMap.mp hg
  split at hp
  · cases hp
  next hno =>
    have hguid : profile.guid = guid := by
      split at hp
      · cases hp
      · split at hp
        · exact Option.some.inj hp
        · cases hp
    subst hguid
    rw [not_or] at hno
    refine ⟨hno.1, fun group servers hmem hin => hno.2 ?_⟩
    exact mem_flatMap.mpr ⟨_, hmem, hin⟩

end OrphanProfileCleaner
end ZeroVpn
