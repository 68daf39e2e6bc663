import Mathlib.Data.List.Basic
import Mathlib.Data.List.Forall2

/-!
# Lists

Traversals in `Option` and `Except` by their results, lists without duplicates, and the parts of a
split list.
-/

namespace ZeroVpn

open List

section mapM
variable {α β : Type} {f : α → Option β}

theorem mapM_option_cons (a : α) (l : List α) :
    (a :: l).mapM f = (f a).bind fun b => (l.mapM f).map (b :: ·) := by
  rw [mapM_cons]
  cases f a with
  | none => rfl
  | some b => cases l.mapM f <;> rfl

variable {l : List α}

theorem mapM_eq_none : l.mapM f = none ↔ ∃ a ∈ l, f a = none := by
  induction l with
  | nil => simp
  | cons a l ih =>
    rw [mapM_option_cons]
    cases ha : f a with
    | none => simp [ha]
    | some b => simp [ha, ih]

/-- The results of a successful traversal are the values of its elements. -/
theorem mem_of_mapM_eq_some (h : l.mapM f = some bs) :
    b ∈ bs ↔ ∃ a ∈ l, f a = some b := by
  induction l generalizing bs with
  | nil => cases h; simp
  | cons a l ih =>
    rw [mapM_option_cons] at h
    cases ha : f a with
    | none => rw [ha] at h; cases h
    | some b' =>
      rw [ha, Option.bind_some, Option.map_eq_some_iff] at h
      obtain ⟨bs', hbs, rfl⟩ := h
      simp [ha, ih hbs, eq_comm]

end mapM

theorem nodup_eraseDups {α : Type} [BEq α] [LawfulBEq α] (l : List α) : l.eraseDups.Nodup := by
  induction h : l.length using Nat.strongRecOn generalizing l with
  | ind n ih =>
    cases l with
    | nil => exact nodup_nil
    | cons a l =>
      rw [eraseDups_cons, nodup_cons]
      refine ⟨by simp, ih _ ?_ _ rfl⟩
      rw [← h]
      exact Nat.lt_succ_of_le (length_filter_le _ _)

theorem filterMap_sublist_map {α β : Type} {f : α → Option β} {g : α → β}
    (h : ∀ a b, f a = some b → b = g a) (l : List α) : (l.filterMap f).Sublist (l.map g) := by
  induction l with
  | nil => exact .slnil
  | cons a l ih =>
    rw [filterMap_cons]
    split
    · exact .cons _ ih
    · next b hb =>
      rw [h a b hb]
      exact .cons_cons _ ih

/-- If the value depends on the index alone, the values are those of the indices. -/
theorem filterMap_mapIdx {α β γ : Type} {f : Nat → α → β} {value : β → Option γ} {g : Nat → γ}
    (h : ∀ i a, value (f i a) = some (g i)) (l : List α) :
    (l.mapIdx f).filterMap value = (range l.length).map g := by
  have hmap : (l.mapIdx f).map value = ((range l.length).map g).map some := by
    refine ext_getElem (by simp) fun i _ _ => ?_
    simp [h]
  have hid := congrArg (filterMap id) hmap
  simpa using hid

/-- The parts of a split list do not hold the separator. -/
theorem notMem_of_mem_splitOn {α : Type} [BEq α] [LawfulBEq α] {a : α} {l part : List α}
    (h : part ∈ l.splitOn a) : a ∉ part := by
  induction l generalizing part with
  | nil =>
    rw [splitOn_nil, mem_singleton] at h
    subst h
    exact not_mem_nil
  | cons x l ih =>
    rw [splitOn, splitOnP_cons_eq_if_modifyHead] at h
    split at h
    · rcases mem_cons.mp h with rfl | h
      · exact not_mem_nil
      · exact ih h
    · next hx =>
      cases hs : l.splitOnP (· == a) with
      | nil => simp [hs] at h
      | cons first rest =>
        rw [hs] at h
        rcases mem_cons.mp h with rfl | h
        · intro hmem
          rcases mem_cons.mp hmem with rfl | hmem
          · exact hx (beq_self_eq_true a)
          · exact ih (by rw [splitOn, hs]; exact mem_cons_self) hmem
        · exact ih (by rw [splitOn, hs]; exact mem_cons_of_mem _ h)

theorem mem_of_mem_intercalate {α : Type} {sep : α} {a : α} {parts : List (List α)}
    (h : a ∈ [sep].intercalate parts) : a = sep ∨ ∃ part ∈ parts, a ∈ part := by
  induction parts with
  | nil => cases h
  | cons part parts ih =>
    cases parts with
    | nil => exact .inr ⟨part, mem_cons_self, by simpa using h⟩
    | cons next parts =>
      rw [intercalate_cons_cons, append_assoc, mem_append, mem_append,
        mem_singleton] at h
      rcases h with h | h | h
      · exact .inr ⟨part, mem_cons_self, h⟩
      · exact .inl h
      · rcases ih h with h | ⟨part', hpart', h⟩
        · exact .inl h
        · exact .inr ⟨part', mem_cons_of_mem _ hpart', h⟩

/-- What is in a list is its separator or in a part of it. -/
theorem mem_splitOn_of_mem {α : Type} [BEq α] [LawfulBEq α] (sep : α) {a : α} {l : List α}
    (h : a ∈ l) : a = sep ∨ ∃ part ∈ l.splitOn sep, a ∈ part := by
  have hjoin : [sep].intercalate (l.splitOn sep) = l := intercalate_splitOn sep
  rw [← hjoin] at h
  exact mem_of_mem_intercalate h

/-- Where keys are distinct, one element has a key. -/
theorem filter_key_eq_singleton {α κ : Type} [DecidableEq κ] {key : α → κ} {l : List α}
    (h : (l.map key).Nodup) {a : α} (ha : a ∈ l) : l.filter (key · = key a) = [a] := by
  induction l with
  | nil => cases ha
  | cons b l ih =>
    obtain ⟨hb, hl⟩ := nodup_cons.mp h
    rcases mem_cons.mp ha with rfl | ha
    · have hrest : l.filter (key · = key a) = [] := by
        refine filter_eq_nil_iff.mpr fun c hc heq => ?_
        exact hb (of_decide_eq_true heq ▸ mem_map_of_mem hc)
      simp [hrest]
    · have hne : key b ≠ key a := fun heq => hb (heq ▸ mem_map_of_mem ha)
      simp [hne, ih hl ha]

/-! ## Lists related element by element -/

section forall₂
variable {α β γ : Type}
variable {R : α → β → Prop} {l : List α} {l' : List β}

theorem forall₂_trans (hcomp : ∀ a b c, R a b → S b c → T a c) {l'' : List γ}
    (h : List.Forall₂ R l l') (h' : List.Forall₂ S l' l'') : List.Forall₂ T l l'' := by
  induction h generalizing l'' with
  | nil => cases h'; exact .nil
  | cons hab _ ih =>
    cases h' with
    | cons hbc hrest => exact .cons (hcomp _ _ _ hab hbc) (ih hrest)

theorem forall₂_mapIdx {R : β → α → Prop} (h : ∀ i a, R (f i a) a) (l : List α) :
    List.Forall₂ R (l.mapIdx f) l := by
  induction l generalizing f with
  | nil => exact .nil
  | cons a l ih =>
    rw [mapIdx_cons]
    exact .cons (h 0 a) (ih fun i => h (i + 1))

/-- The values of a partial function, and the elements that have one. -/
theorem forall₂_filterMap_filter {f : α → Option β} {p : α → Bool}
    (h : ∀ a ∈ l, p a = (f a).isSome) :
    List.Forall₂ (fun b a => f a = some b) (l.filterMap f) (l.filter p) := by
  induction l with
  | nil => exact .nil
  | cons a l ih =>
    have ih := ih fun a' ha' => h a' (mem_cons_of_mem _ ha')
    have ha := h a mem_cons_self
    cases hf : f a with
    | none =>
      rw [hf] at ha
      have hneg : ¬p a = true := by rw [ha]; exact Bool.false_ne_true
      rw [filterMap_cons_none hf, filter_cons_of_neg hneg]
      exact ih
    | some b =>
      rw [hf] at ha
      rw [filterMap_cons_some hf, filter_cons_of_pos ha]
      exact .cons hf ih

theorem exists_right_of_forall₂ (h : List.Forall₂ R l l') (ha : a ∈ l) :
    ∃ b ∈ l', R a b := by
  induction h with
  | nil => cases ha
  | cons hab _ ih =>
    rcases mem_cons.mp ha with rfl | ha
    · exact ⟨_, mem_cons_self, hab⟩
    · obtain ⟨b, hb, hrel⟩ := ih ha
      exact ⟨b, mem_cons_of_mem _ hb, hrel⟩

theorem exists_mem_congr_of_forall₂ {P : α → Prop} {Q : β → Prop} (h : List.Forall₂ R l l')
    (hiff : ∀ a b, R a b → (P a ↔ Q b)) : (∃ a ∈ l, P a) ↔ ∃ b ∈ l', Q b := by
  induction h with
  | nil => simp
  | cons hab _ ih =>
    simp only [mem_cons, exists_eq_or_imp]
    rw [hiff _ _ hab, ih]

end forall₂

section distinct
variable {α κ : Type} [DecidableEq κ]

/-- The first element of every key. -/
def distinctBy (key : α → κ) : List α → List α
  | [] => []
  | a :: l => a :: (distinctBy key l).filter (key · ≠ key a)

theorem distinctBy_sublist (key : α → κ) (l : List α) : (distinctBy key l).Sublist l := by
  induction l with
  | nil => exact .slnil
  | cons a l ih => exact (filter_sublist.trans ih).cons_cons a

end distinct

end ZeroVpn
