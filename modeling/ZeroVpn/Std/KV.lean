import ZeroVpn.Std.List
import ZeroVpn.Std.Assoc
import Mathlib.Data.List.AList

/-!
# Key-value stores

A store is an association list with distinct keys. The lemmas say what a lookup sees after each
update; a bulk removal is a fold of single removals and is characterised by membership only.
-/

namespace ZeroVpn

open List

/-- A key-value store with keys in `κ` and values in `α`. -/
abbrev KV (κ α : Type) [DecidableEq κ] := AList (fun _ : κ => α)

namespace KV

variable {κ α : Type} [DecidableEq κ]

def get (m : KV κ α) (k : κ) : Option α := AList.lookup k m

def set (m : KV κ α) (k : κ) (v : α) : KV κ α := AList.insert k v m

def remove (m : KV κ α) (k : κ) : KV κ α := AList.erase k m

/-- Remove every key of a collection. -/
def removeValuesForKeys (m : KV κ α) (ks : List κ) : KV κ α := ks.foldl remove m

/-- Write entries one after the other. -/
def setAll (m : KV κ α) (es : List (κ × α)) : KV κ α := es.foldl (fun m e => m.set e.1 e.2) m

def allKeys (m : KV κ α) : List κ := AList.keys m

@[simp] theorem get_empty (k : κ) : get (∅ : KV κ α) k = none := AList.lookup_empty k

theorem get_set (m : KV κ α) (k k' : κ) (v : α) :
    (m.set k v).get k' = if k' = k then some v else m.get k' := by
  split
  · next h => subst h; exact AList.lookup_insert m
  · next h => exact AList.lookup_insert_ne h

@[simp] theorem get_set_self (m : KV κ α) (k : κ) (v : α) : (m.set k v).get k = some v := by
  simp [get_set]

theorem get_remove (m : KV κ α) (k k' : κ) :
    (m.remove k).get k' = if k' = k then none else m.get k' := by
  split
  · next h => subst h; exact AList.lookup_erase k' m
  · next h => exact AList.lookup_erase_ne h

theorem get_removeValuesForKeys (m : KV κ α) (ks : List κ) (k : κ) :
    (m.removeValuesForKeys ks).get k = if k ∈ ks then none else m.get k := by
  induction ks generalizing m with
  | nil => simp [removeValuesForKeys]
  | cons a ks ih =>
    have h : m.removeValuesForKeys (a :: ks) = (m.remove a).removeValuesForKeys ks := rfl
    rw [h, ih, get_remove]
    by_cases hk : k ∈ ks
    · simp [hk]
    · by_cases ha : k = a <;> simp [hk, ha]

theorem removeValuesForKeys_append (m : KV κ α) (ks ks' : List κ) :
    m.removeValuesForKeys (ks ++ ks') = (m.removeValuesForKeys ks).removeValuesForKeys ks' :=
  foldl_append

variable {k : κ} {m : KV κ α} {es : List (κ × α)} {v : α}

theorem setAll_cons (e : κ × α) : m.setAll (e :: es) = (m.set e.1 e.2).setAll es := rfl

theorem get_setAll_of_notMem (h : k ∉ es.map Prod.fst) : (m.setAll es).get k = m.get k := by
  induction es generalizing m with
  | nil => rfl
  | cons e es ih =>
    simp only [map_cons, mem_cons, not_or] at h
    rw [setAll_cons, ih h.2, get_set, if_neg h.1]

theorem get_setAll_of_mem (hnd : (es.map Prod.fst).Nodup) (h : (k, v) ∈ es) :
    (m.setAll es).get k = some v := by
  induction es generalizing m with
  | nil => cases h
  | cons e es ih =>
    rw [map_cons, nodup_cons] at hnd
    rw [setAll_cons]
    rcases mem_cons.mp h with rfl | h
    · rw [get_setAll_of_notMem hnd.1, get_set_self]
    · exact ih hnd.2 h

/-- Writing entries removes none. -/
theorem get_setAll_isSome (h : (m.get k).isSome = true) : ((m.setAll es).get k).isSome = true := by
  induction es generalizing m with
  | nil => exact h
  | cons e es ih =>
    refine ih ?_
    rw [get_set]
    split
    · rfl
    · exact h

theorem mem_allKeys : k ∈ m.allKeys ↔ (m.get k).isSome = true :=
  AList.lookup_isSome.symm

theorem mem_allKeys_of_get (h : m.get k = some v) : k ∈ m.allKeys := by
  rw [mem_allKeys, h]; rfl

theorem mem_allKeys_set : k' ∈ (m.set k v).allKeys ↔ k' = k ∨ k' ∈ m.allKeys := by
  rw [mem_allKeys, mem_allKeys, get_set]
  split
  · next h => simp [h]
  · next h => simp [h]

theorem mem_allKeys_setAll : k ∈ (m.setAll es).allKeys ↔ k ∈ es.map Prod.fst ∨ k ∈ m.allKeys := by
  induction es generalizing m with
  | nil => simp [setAll]
  | cons e es ih =>
    rw [setAll_cons, ih, mem_allKeys_set, map_cons, mem_cons, or_left_comm, or_assoc]

theorem mem_allKeys_removeValuesForKeys :
    k ∈ (m.removeValuesForKeys ks).allKeys ↔ k ∉ ks ∧ k ∈ m.allKeys := by
  rw [mem_allKeys, mem_allKeys, get_removeValuesForKeys]
  split
  · next h => simp [h]
  · next h => simp [h]

@[simp] theorem allKeys_empty : allKeys (∅ : KV κ α) = [] := rfl

theorem allKeys_nodup (m : KV κ α) : m.allKeys.Nodup := AList.keys_nodup m

end KV

/-- A map that keeps its insertion order. Keys are distinct. -/
structure LinkedMap (κ α : Type) where
  entries : List (κ × α)
  nodup : (entries.map Prod.fst).Nodup

namespace LinkedMap

variable {κ α : Type}

def keys (m : LinkedMap κ α) : List κ := m.entries.map Prod.fst

def empty : LinkedMap κ α := ⟨[], nodup_nil⟩

/-- Write an entry; a new key goes last, a present key keeps its place. -/
def put [DecidableEq κ] (m : LinkedMap κ α) (k : κ) (v : α) : LinkedMap κ α :=
  if h : k ∈ m.entries.map Prod.fst then
    ⟨m.entries.map fun e => if e.1 = k then (k, v) else e, by
      have hkeys : (m.entries.map fun e => if e.1 = k then (k, v) else e).map Prod.fst =
          m.entries.map Prod.fst := by
        rw [map_map]
        refine map_congr_left fun e _ => ?_
        by_cases he : e.1 = k <;> simp [he]
      rw [hkeys]
      exact m.nodup⟩
  else
    ⟨m.entries ++ [(k, v)], by
      rw [map_append, map_singleton, ← concat_eq_append]
      exact Nodup.concat h m.nodup⟩

/-- Write entries one after the other. -/
def putAll [DecidableEq κ] (m : LinkedMap κ α) (es : List (κ × α)) : LinkedMap κ α :=
  es.foldl (fun m e => m.put e.1 e.2) m

/-- The map of a list of entries written one after the other. -/
def ofEntries [DecidableEq κ] (es : List (κ × α)) : LinkedMap κ α := empty.putAll es

theorem entries_put_of_notMem [DecidableEq κ] {m : LinkedMap κ α} (h : k ∉ m.keys) :
    (m.put k v).entries = m.entries ++ [(k, v)] := by
  have hk : k ∉ m.entries.map Prod.fst := h
  unfold put
  rw [dif_neg hk]

variable {e : κ × α} {es : List (κ × α)}

theorem mem_put [DecidableEq κ] {m : LinkedMap κ α} (h : e ∈ (m.put k v).entries) :
    e ∈ m.entries ∨ e = (k, v) := by
  unfold put at h
  split at h
  · obtain ⟨e', he', rfl⟩ := mem_map.mp h
    split
    · exact .inr rfl
    · exact .inl he'
  · rcases mem_append.mp h with h | h
    · exact .inl h
    · exact .inr (mem_singleton.mp h)

theorem mem_of_mem_ofEntries [DecidableEq κ] (h : e ∈ (ofEntries es).entries) : e ∈ es := by
  suffices ∀ m : LinkedMap κ α, e ∈ (es.foldl (fun m e => m.put e.1 e.2) m).entries →
      e ∈ m.entries ∨ e ∈ es from (this empty h).resolve_left not_mem_nil
  clear h
  induction es with
  | nil => exact fun m h => .inl h
  | cons e' es ih =>
    intro m h
    rcases ih (m.put e'.1 e'.2) h with h | h
    · rcases mem_put h with h | rfl
      · exact .inl h
      · exact .inr mem_cons_self
    · exact .inr (mem_cons_of_mem _ h)

/-- Entries with distinct keys stay as they are. -/
theorem entries_ofEntries [DecidableEq κ] (h : (es.map Prod.fst).Nodup) :
    (ofEntries es).entries = es := by
  suffices ∀ m : LinkedMap κ α, (∀ e ∈ es, e.1 ∉ m.keys) →
      (es.foldl (fun m e => m.put e.1 e.2) m).entries = m.entries ++ es from
    this empty fun _ _ => not_mem_nil
  induction es with
  | nil => exact fun m _ => (append_nil _).symm
  | cons e es ih =>
    intro m hnew
    rw [map_cons, nodup_cons] at h
    have hput := entries_put_of_notMem (v := e.2) (hnew e mem_cons_self)
    rw [foldl_cons, ih h.2, hput, append_assoc]
    · rfl
    · intro e' he'
      unfold keys
      rw [hput, map_append, mem_append, not_or]
      refine ⟨hnew e' (mem_cons_of_mem _ he'), ?_⟩
      intro hin
      have hkey : e'.1 = e.1 := mem_singleton.mp hin
      exact h.1 (hkey ▸ mem_map_of_mem he')

theorem mem_keys {m : LinkedMap κ α} : k ∈ m.keys ↔ ∃ v, (k, v) ∈ m.entries := by
  simp [keys]

/-! ## Lookups -/

section get
variable [DecidableEq κ] {m : LinkedMap κ α} {k k' : κ} {v : α}

def get (m : LinkedMap κ α) (k : κ) : Option α := m.entries.lookup k

theorem get_eq_some_iff : m.get k = some v ↔ (k, v) ∈ m.entries := lookup_eq_some_iff_mem m.nodup

@[simp] theorem get_empty (k : κ) : (empty : LinkedMap κ α).get k = none := rfl

theorem get_eq_none_iff : m.get k = none ↔ k ∉ m.keys := by
  rw [mem_keys, Option.eq_none_iff_forall_ne_some]
  simp [get_eq_some_iff]

theorem mem_put_iff : e ∈ (m.put k v).entries ↔ e = (k, v) ∨ (e.1 ≠ k ∧ e ∈ m.entries) := by
  unfold put
  split
  · next hk =>
    simp only [mem_map]
    constructor
    · rintro ⟨e', he', rfl⟩
      by_cases hek : e'.1 = k
      · exact .inl (if_pos hek)
      · rw [if_neg hek]
        exact .inr ⟨hek, he'⟩
    · rintro (rfl | ⟨hek, he⟩)
      · obtain ⟨e', he', hek⟩ := mem_map.mp hk
        exact ⟨e', he', if_pos hek⟩
      · exact ⟨e, he, if_neg hek⟩
  · next hk =>
    rw [mem_append, mem_singleton, or_comm]
    refine or_congr_right ⟨fun he => ⟨?_, he⟩, And.right⟩
    rintro rfl
    exact hk (mem_map_of_mem he)

theorem get_put : (m.put k v).get k' = if k' = k then some v else m.get k' := by
  ext v'
  rw [get_eq_some_iff, mem_put_iff]
  split
  · next h => simp [h, eq_comm]
  · next h => simp [h, get_eq_some_iff]

theorem get_putAll_of_notMem (h : k ∉ es.map Prod.fst) : (m.putAll es).get k = m.get k := by
  induction es generalizing m with
  | nil => rfl
  | cons e es ih =>
    rw [map_cons, mem_cons, not_or] at h
    have hstep : m.putAll (e :: es) = (m.put e.1 e.2).putAll es := rfl
    rw [hstep, ih h.2, get_put, if_neg h.1]

/-- A key that is written has one of the values written for it. -/
theorem get_putAll_of_mem (h : k ∈ es.map Prod.fst) :
    ∃ v, (m.putAll es).get k = some v ∧ (k, v) ∈ es := by
  induction es generalizing m with
  | nil => cases h
  | cons e es ih =>
    have hstep : m.putAll (e :: es) = (m.put e.1 e.2).putAll es := rfl
    rw [hstep]
    by_cases hes : k ∈ es.map Prod.fst
    · obtain ⟨v, hget, hmem⟩ := ih hes
      exact ⟨v, hget, mem_cons_of_mem _ hmem⟩
    · rw [map_cons, mem_cons, or_iff_left hes] at h
      subst h
      exact ⟨e.2, by rw [get_putAll_of_notMem hes, get_put, if_pos rfl], mem_cons_self⟩

theorem get_putAll_const {ks : List κ} :
    (m.putAll (ks.map fun k => (k, v))).get k = if k ∈ ks then some v else m.get k := by
  have hkeys : (ks.map fun k => (k, v)).map Prod.fst = ks := by
    rw [map_map]
    exact map_id ks
  split
  · next h =>
    rw [← hkeys] at h
    obtain ⟨v', hget, hmem⟩ := get_putAll_of_mem h
    obtain ⟨_, -, he⟩ := mem_map.mp hmem
    rw [hget, ← (Prod.mk.inj he).2]
  · next h => exact get_putAll_of_notMem (hkeys.symm ▸ h)

end get

end LinkedMap
end ZeroVpn
