import ZeroVpn.Std.Json
import ZeroVpn.Std.KV

/-!
# Members of JSON objects

What the operations on objects do to lookups. A parsed object has distinct keys, at every depth
(`Json.Distinct`).
-/

namespace ZeroVpn

open List

namespace JsonObject

variable {o : JsonObject} {key key' : String} {value : Json} {f : Json → Json}

theorem get_cons : get ((key, value) :: o) key' = if key' = key then some value else get o key' := by
  unfold get
  rw [lookup_cons]
  by_cases h : key' = key
  · simp [h]
  · simp [h, beq_false_of_ne h]

theorem get_append_of_none (h : get o key = none) :
    get (o ++ o') key = get o' key := by
  induction o with
  | nil => rfl
  | cons m o ih =>
    rw [get_cons] at h
    split at h
    · cases h
    · next hne => rw [cons_append, get_cons, if_neg hne, ih h]

theorem get_append_of_ne (h : key' ≠ key) : get (o ++ [(key, value)]) key' = get o key' := by
  induction o with
  | nil => rw [nil_append, get_cons, if_neg h]
  | cons m o ih =>
    rw [cons_append, get_cons, get_cons, ih]

theorem get_eq_none_iff : get o key = none ↔ key ∉ o.map Prod.fst := by
  induction o with
  | nil => exact iff_of_true rfl not_mem_nil
  | cons m o ih =>
    rw [get_cons, map_cons, mem_cons, not_or, ← ih]
    split
    · next h => simp [h]
    · next h => simp [h]

theorem get_of_mem (hnodup : (o.map Prod.fst).Nodup) (h : (key, value) ∈ o) :
    get o key = some value := (lookup_eq_some_iff_mem hnodup).mpr h

theorem get_modify : get (modify o key f) key' =
    if key' = key then (get o key).map f else get o key' := by
  unfold modify
  induction o with
  | nil => split <;> rfl
  | cons m o ih =>
    obtain ⟨k, v⟩ := m
    rw [map_cons]
    by_cases hk : k = key
    · subst hk
      rw [if_pos rfl, get_cons, ih, get_cons, get_cons, if_pos rfl]
      split <;> rfl
    · have hget : get ((k, v) :: o) key = get o key := by
        rw [get_cons, if_neg fun h => hk h.symm]
      rw [if_neg hk, get_cons, ih, hget, get_cons]
      by_cases hk' : key' = k
      · have hne : key' ≠ key := fun h => hk (hk'.symm.trans h)
        rw [if_pos hk', if_pos hk', if_neg hne]
      · rw [if_neg hk', if_neg hk']

theorem get_add : get (add o key value) key' = if key' = key then some value else get o key' := by
  unfold add
  split
  · next h =>
    obtain ⟨v, hv⟩ := Option.isSome_iff_exists.mp h
    refine (@get_modify o key key' fun _ => value).trans ?_
    rw [hv]
    rfl
  · next h =>
    have hnone : get o key = none := by simpa [has] using h
    split
    · next heq =>
      subst heq
      rw [get_append_of_none hnone, get_cons, if_pos rfl]
    · next hne => exact get_append_of_ne hne

theorem get_remove : get (remove o key) key' = if key' = key then none else get o key' := by
  unfold remove
  induction o with
  | nil => split <;> rfl
  | cons m o ih =>
    obtain ⟨k, v⟩ := m
    by_cases hk : k = key
    · subst hk
      rw [filter_cons_of_neg (by simp), ih, get_cons]
      split <;> rfl
    · rw [filter_cons_of_pos (by simpa using hk), get_cons, ih, get_cons]
      by_cases hk' : key' = k
      · have hne : key' ≠ key := fun h => hk (hk'.symm.trans h)
        rw [if_pos hk', if_pos hk', if_neg hne]
      · rw [if_neg hk', if_neg hk']

/-! ## Keys -/

theorem keys_modify : (modify o key f).map Prod.fst = o.map Prod.fst := by
  unfold modify
  rw [map_map]
  refine map_congr_left fun m _ => ?_
  dsimp only [Function.comp_apply]
  split
  · next h => exact h.symm
  · rfl

theorem keys_nodup_add (h : (o.map Prod.fst).Nodup) : ((add o key value).map Prod.fst).Nodup := by
  unfold add
  split
  · exact (@keys_modify o key fun _ => value).symm ▸ h
  · next hhas =>
    rw [map_append, map_singleton, ← concat_eq_append]
    refine Nodup.concat (get_eq_none_iff.mp ?_) h
    simpa [has] using hhas

theorem keys_nodup_remove (h : (o.map Prod.fst).Nodup) : ((remove o key).map Prod.fst).Nodup :=
  h.sublist (filter_sublist.map Prod.fst)

theorem remove_eq_self (h : get o key = none) : remove o key = o := by
  refine filter_eq_self.mpr fun m hm => ?_
  simpa using fun heq : m.1 = key => get_eq_none_iff.mp h (heq ▸ mem_map_of_mem hm)

/-- A change that keeps the value of the key changes nothing. -/
theorem modify_eq_self (hnodup : (o.map Prod.fst).Nodup)
    (h : ∀ v, get o key = some v → f v = v) : modify o key f = o := by
  nth_rewrite 2 [← map_id o]
  refine map_congr_left fun m hm => ?_
  split
  · next heq =>
    subst heq
    rw [h m.2 (get_of_mem hnodup hm)]
    rfl
  · rfl

/-- Set a member that is not there. -/
def addMissing (o : JsonObject) (key : String) (value : Json) : JsonObject :=
  if o.has key then o else o.add key value

theorem get_addMissing : get (addMissing o key value) key' =
    if key' = key then some ((get o key).getD value) else get o key' := by
  unfold addMissing
  split
  · next h =>
    obtain ⟨v, hv⟩ := Option.isSome_iff_exists.mp h
    split
    · next heq => rw [heq, hv]; rfl
    · rfl
  · next h =>
    have hnone : get o key = none := by simpa [has] using h
    rw [get_add, hnone]
    rfl

theorem keys_nodup_addMissing (h : (o.map Prod.fst).Nodup) :
    ((addMissing o key value).map Prod.fst).Nodup := by
  unfold addMissing
  split
  · exact h
  · exact keys_nodup_add h

theorem addMissing_eq_self (h : get o key ≠ none) : addMissing o key value = o :=
  if_pos (Option.isSome_iff_ne_none.mpr h)

end JsonObject

namespace Json

/-! ## What a printer without nulls shows -/

/-- The value of a member as it is printed; a member that is `null` is left out. -/
def shown : Json → Option Json
  | .null => none
  | j => some (dropNulls j)

theorem shown_of_ne (h : j ≠ .null) : shown j = some (dropNulls j) := by
  cases j with
  | null => exact absurd rfl h
  | _ => rfl

/-- What is shown is shown again. -/
theorem shown_eq_some (h : shown j = some j') :
    j' = dropNulls j ∧ shown j' = some (dropNulls j') := by
  cases j with
  | null => cases h
  | _ => cases h; exact ⟨rfl, rfl⟩

theorem dropNullsElems_eq_map (elems : List Json) : dropNullsElems elems = elems.map dropNulls := by
  induction elems with
  | nil => rfl
  | cons j elems ih => rw [dropNullsElems, ih, map_cons]

theorem dropNullsMembers_cons (key : String) (j : Json) (members : JsonObject) :
    dropNullsMembers ((key, j) :: members) =
      (shown j).toList.map (fun j => (key, j)) ++ dropNullsMembers members := by
  cases j with
  | null => rw [dropNullsMembers]; rfl
  | _ => rw [dropNullsMembers] <;> first | rfl | (intro h; cases h)

theorem keys_dropNulls_sublist (o : JsonObject) :
    ((dropNullsMembers o).map Prod.fst).Sublist (o.map Prod.fst) := by
  induction o with
  | nil => exact Sublist.slnil
  | cons m o ih =>
    obtain ⟨key, j⟩ := m
    rw [dropNullsMembers_cons]
    cases shown j with
    | none => exact ih.cons _
    | some j' => exact ih.cons_cons _

theorem get_dropNulls {o : JsonObject} (h : (o.map Prod.fst).Nodup) (key : String) :
    JsonObject.get (dropNullsMembers o) key = (o.get key).bind shown := by
  induction o with
  | nil => rfl
  | cons m o ih =>
    obtain ⟨k, j⟩ := m
    obtain ⟨hk, hnodup⟩ := nodup_cons.mp h
    rw [dropNullsMembers_cons, JsonObject.get_cons]
    cases hj : shown j with
    | none =>
      refine (ih hnodup).trans ?_
      split
      · next heq =>
        subst heq
        rw [JsonObject.get_eq_none_iff.mpr hk]
        exact hj.symm
      · rfl
    | some j' =>
      refine (@JsonObject.get_cons (dropNullsMembers o) k key j').trans ?_
      rw [ih hnodup]
      split
      · exact hj.symm
      · rfl

mutual

theorem dropNulls_idem : ∀ j : Json, dropNulls (dropNulls j) = dropNulls j
  | .null => rfl
  | .bool _ => rfl
  | .num _ => rfl
  | .str _ => rfl
  | .arr elems => by
    simp only [dropNulls]
    rw [dropNullsElems_idem elems]
  | .obj members => by
    simp only [dropNulls]
    rw [dropNullsMembers_idem members]

theorem dropNullsElems_idem :
    ∀ elems : List Json, dropNullsElems (dropNullsElems elems) = dropNullsElems elems
  | [] => rfl
  | j :: elems => by
    simp only [dropNullsElems]
    rw [dropNulls_idem j, dropNullsElems_idem elems]

theorem dropNullsMembers_idem :
    ∀ members : JsonObject, dropNullsMembers (dropNullsMembers members) = dropNullsMembers members
  | [] => rfl
  | (key, j) :: members => by
    have ih := dropNullsMembers_idem members
    have ihj := dropNulls_idem j
    rw [dropNullsMembers_cons]
    cases hj : shown j with
    | none => exact ih
    | some j' =>
      obtain ⟨rfl, hshown⟩ := shown_eq_some hj
      refine (dropNullsMembers_cons key (dropNulls j) (dropNullsMembers members)).trans ?_
      rw [hshown, ihj, ih]

end

/-! ## Distinct keys -/

mutual

/-- All objects in the value have distinct keys. -/
def Distinct : Json → Prop
  | .arr elems => DistinctElems elems
  | .obj members => (members.map Prod.fst).Nodup ∧ DistinctMembers members
  | _ => True

def DistinctElems : List Json → Prop
  | [] => True
  | j :: elems => j.Distinct ∧ DistinctElems elems

def DistinctMembers : List (String × Json) → Prop
  | [] => True
  | (_, j) :: members => j.Distinct ∧ DistinctMembers members

end

theorem DistinctElems.of_mem (h : DistinctElems elems) (hj : j ∈ elems) : j.Distinct := by
  induction elems with
  | nil => cases hj
  | cons j' elems ih =>
    rcases mem_cons.mp hj with rfl | hj
    · exact h.1
    · exact ih h.2 hj

theorem DistinctMembers.of_get {o : JsonObject} (h : DistinctMembers o) (hj : o.get key = some j) :
    j.Distinct := by
  induction o with
  | nil => cases hj
  | cons m o ih =>
    rw [JsonObject.get_cons] at hj
    split at hj
    · cases hj
      exact h.1
    · exact ih h.2 hj

end Json
end ZeroVpn
