import ZeroVpn.Std.KV
import Mathlib.Data.List.Infix

/-!
# File trees

A path is the list of its components, and a tree says for every path whether it is a directory, a
file or absent. The top is a directory and every node stands in a directory; a tree carries the
proof of both. There are no links: distinct paths are distinct nodes.

An operation that fails half way has a partial effect: `mkdirs` takes the number of directories it
may make before it gives up.
-/

namespace ZeroVpn

open List KV

inductive Node (β : Type) where
  | dir
  | file (content : List β)
  deriving DecidableEq

/-- `p` is strictly below `root`. -/
def Below {κ : Type} (root p : List κ) : Prop := root <+: p ∧ p ≠ root

instance {κ : Type} [DecidableEq κ] (root p : List κ) : Decidable (Below root p) :=
  inferInstanceAs (Decidable (_ ∧ _))

section below
variable {κ : Type} {root p q : List κ}

theorem Below.ne_nil (h : Below root p) : p ≠ [] := by
  rintro rfl
  exact h.2 (prefix_nil.mp h.1).symm

theorem Below.extend (h : Below root p) (hpq : p <+: q) : Below root q := by
  refine ⟨h.1.trans hpq, ?_⟩
  rintro rfl
  exact h.2 (hpq.eq_of_length_le h.1.length_le)

/-- What is strictly below `root` stands in `root` or in a path below it. -/
theorem Below.prefix_dropLast (h : Below root p) : root <+: p.dropLast := by
  obtain ⟨l, c, rfl⟩ : ∃ l c, p = l ++ [c] := ⟨_, _, (dropLast_append_getLast h.ne_nil).symm⟩
  rw [dropLast_concat]
  exact (prefix_concat_iff.mp h.1).resolve_left fun heq => h.2 heq.symm

end below

structure FileTree (κ β : Type) [DecidableEq κ] where
  nodes : KV (List κ) (Node β)
  top : nodes.get [] = some .dir
  parent : ∀ p, p ≠ [] → nodes.get p ≠ none → nodes.get p.dropLast = some .dir

namespace FileTree

variable {κ β : Type} [DecidableEq κ]

/-- The node at a path, if there is one. -/
def node (t : FileTree κ β) (p : List κ) : Option (Node β) := t.nodes.get p

def isDirectory [DecidableEq β] (t : FileTree κ β) (p : List κ) : Bool := t.node p = some .dir

def exist (t : FileTree κ β) (p : List κ) : Bool := (t.node p).isSome

/-- The nodes that stand in a directory. -/
def listFiles (t : FileTree κ β) (p : List κ) : List (List κ) :=
  t.nodes.allKeys.filter fun q => q ≠ [] ∧ q.dropLast = p

theorem ne_nil_of_file {t : FileTree κ β} (h : t.node p = some (.file content)) : p ≠ [] := by
  rintro rfl
  cases h.symm.trans t.top

theorem node_dropLast_of_file {t : FileTree κ β} {p : List κ}
    (h : t.node p = some (.file content)) : t.node p.dropLast = some .dir := by
  refine t.parent p (ne_nil_of_file h) fun hnone => ?_
  cases h.symm.trans hnone

/-- What stands over a node is a directory. -/
theorem node_above {t : FileTree κ β} (hq : t.node q ≠ none) (h : p <+: q) (hne : p ≠ q) :
    t.node p = some .dir := by
  induction q using reverseRecOn with
  | nil => exact absurd (prefix_nil.mp h) hne
  | append_singleton l c ih =>
    have hdir : t.node l = some .dir := by
      have := t.parent (l ++ [c]) (by simp) hq
      rwa [dropLast_concat] at this
    have hl : p <+: l := (prefix_concat_iff.mp h).resolve_left hne
    rcases eq_or_ne p l with rfl | hpl
    · exact hdir
    · exact ih (by rw [hdir]; simp) hl hpl

/-- Nothing is below what is not a directory. -/
theorem node_below_of_not_dir {t : FileTree κ β} (hp : t.node p ≠ some .dir) (h : Below p q) :
    t.node q = none := by
  by_contra hq
  exact hp (node_above hq h.1 h.2.symm)

/-- Nothing is below a directory without entries. -/
theorem node_below_of_listFiles {t : FileTree κ β} (hp : t.listFiles p = []) (h : Below p q) :
    t.node q = none := by
  by_contra hq
  obtain ⟨⟨rest, rfl⟩, hne⟩ := h
  cases rest with
  | nil => exact hne (append_nil p)
  | cons c rest =>
    -- the entry of `p` on the way to the node exists
    have hchild : t.node (p ++ [c]) ≠ none := by
      rcases rest with - | ⟨d, rest⟩
      · exact hq
      · rw [node_above hq (by simp) (by simp)]
        simp
    have hmem : p ++ [c] ∈ t.listFiles p := by
      refine mem_filter.mpr ⟨?_, by simp⟩
      rw [mem_allKeys]
      exact Option.isSome_iff_ne_none.mpr hchild
    rw [hp] at hmem
    cases hmem

/-- The tree of a top directory alone. -/
def empty : FileTree κ β where
  nodes := set ∅ [] .dir
  top := get_set_self ..
  parent := by
    intro p hp h
    rw [get_set, if_neg hp] at h
    exact absurd (get_empty p) h

/-- Put a node into a directory, in no directory's place. -/
def put (t : FileTree κ β) (p : List κ) (n : Node β) (hp : p ≠ [])
    (hdir : t.node p.dropLast = some .dir) (hleaf : t.node p ≠ some .dir) : FileTree κ β where
  nodes := t.nodes.set p n
  top := by
    rw [get_set, if_neg hp.symm]
    exact t.top
  parent := by
    intro q hq h
    rw [get_set] at h ⊢
    have hne : q.dropLast ≠ p := by
      rintro rfl
      split at h
      · next heq =>
        have := congrArg length heq
        have hlen := length_pos_of_ne_nil hq
        rw [length_dropLast] at this
        omega
      · exact hleaf (t.parent q hq h)
    rw [if_neg hne]
    split at h
    · next heq => subst heq; exact hdir
    · exact t.parent q hq h

/-- Remove everything strictly below a path. -/
def removeBelow (t : FileTree κ β) (root : List κ) : FileTree κ β where
  nodes := t.nodes.removeValuesForKeys (t.nodes.allKeys.filter fun p => Below root p)
  top := by
    rw [get_removeValuesForKeys, if_neg]
    · exact t.top
    · intro h
      exact (of_decide_eq_true (mem_filter.mp h).2 : Below root []).ne_nil rfl
  parent := by
    intro p hp h
    rw [get_removeValuesForKeys] at h ⊢
    split at h
    · exact absurd rfl h
    · next hkeep =>
      have hkey : p ∈ t.nodes.allKeys := by
        rw [mem_allKeys]
        exact Option.isSome_iff_ne_none.mpr h
      have hnot : ¬ Below root p := fun hb =>
        hkeep (mem_filter.mpr ⟨hkey, decide_eq_true hb⟩)
      rw [if_neg, t.parent p hp h]
      intro hmem
      have hb : Below root p.dropLast := of_decide_eq_true (mem_filter.mp hmem).2
      exact hnot (hb.extend (List.dropLast_prefix p))

/-- Delete a node that nothing stands in. -/
def delete (t : FileTree κ β) (p : List κ) : FileTree κ β :=
  if h : p ≠ [] ∧ t.listFiles p = [] then
    { nodes := t.nodes.remove p
      top := by
        rw [get_remove, if_neg h.1.symm]
        exact t.top
      parent := by
        intro q hq hsome
        rw [get_remove] at hsome ⊢
        split at hsome
        · exact absurd rfl hsome
        · next hne =>
          rw [if_neg]
          · exact t.parent q hq hsome
          · rintro rfl
            exact hsome (node_below_of_listFiles h.2 ⟨List.dropLast_prefix q, hne⟩) }
  else t

variable {t t' : FileTree κ β} {p q root : List κ}

theorem node_put (hp : p ≠ []) (hdir : t.node p.dropLast = some .dir)
    (hleaf : t.node p ≠ some .dir) :
    (t.put p n hp hdir hleaf).node q = if q = p then some n else t.node q :=
  get_set t.nodes p q n

theorem node_removeBelow :
    (t.removeBelow root).node q = if Below root q then none else t.node q := by
  have hget := get_removeValuesForKeys t.nodes
    (t.nodes.allKeys.filter fun p => Below root p) q
  refine Eq.trans hget ?_
  by_cases hb : Below root q
  · split
    · rfl
    · next hkey =>
      -- not a key: absent already
      by_contra hq
      refine hkey (mem_filter.mpr ⟨?_, decide_eq_true hb⟩)
      exact mem_allKeys.mpr (Option.isSome_iff_ne_none.mpr hq)
  · rw [if_neg hb, if_neg]
    · rfl
    · intro hmem
      exact hb (of_decide_eq_true (mem_filter.mp hmem).2)

/-- Deleting a path that nothing is below. -/
theorem node_delete (hp : p ≠ []) (hbelow : ∀ q, Below p q → t.node q = none) :
    (t.delete p).node q = if q = p then none else t.node q := by
  have hempty : t.listFiles p = [] := by
    refine eq_nil_iff_forall_not_mem.mpr fun q hq => ?_
    obtain ⟨hkey, hq⟩ := mem_filter.mp hq
    obtain ⟨hne, rfl⟩ := of_decide_eq_true hq
    have hb : Below q.dropLast q := by
      refine ⟨List.dropLast_prefix q, fun heq => ?_⟩
      have hlen := congrArg length heq
      have := length_pos_of_ne_nil hne
      rw [length_dropLast] at hlen
      omega
    have hnone : t.nodes.get q = none := hbelow q hb
    rw [mem_allKeys, hnone] at hkey
    cases hkey
  unfold delete
  rw [dif_pos ⟨hp, hempty⟩]
  exact get_remove t.nodes p q

/-- Add to the end of a file. -/
def append (t : FileTree κ β) (p : List κ) (bytes : List β) : FileTree κ β :=
  match h : t.node p with
  | some (.file content) =>
    t.put p (.file (content ++ bytes)) (ne_nil_of_file h) (node_dropLast_of_file h) (by rw [h]; simp)
  | _ => t

theorem append_node (h : t.node p = some (.file content)) :
    (t.append p bytes).node q = if q = p then some (.file (content ++ bytes)) else t.node q := by
  unfold append
  split
  · next content' h' =>
    cases h.symm.trans h'
    rw [node_put]
  · next hfile => exact absurd h (hfile content)

/-- `t'` is `t` with new directories, each at a prefix of `p`. -/
def AddsDirs (t : FileTree κ β) (p : List κ) (t' : FileTree κ β) : Prop :=
  ∀ q, t'.node q = t.node q ∨ t.node q = none ∧ t'.node q = some .dir ∧ q <+: p

theorem AddsDirs.refl : AddsDirs t p t := fun _ => .inl rfl

theorem AddsDirs.trans (h : AddsDirs t p t') (h' : AddsDirs t' p t'') :
    AddsDirs t p t'' := by
  intro q
  rcases h q with heq | ⟨hnone, hdir, hpre⟩
  · rw [← heq]
    exact h' q
  · rcases h' q with heq' | ⟨hnone', -, -⟩
    · exact .inr ⟨hnone, heq'.trans hdir, hpre⟩
    · rw [hdir] at hnone'
      cases hnone'

variable [DecidableEq β]

/-- Make the directories of `rest` under `pre`, at most `limit` of them; an absent limit is none.
A file in the way, or the limit, ends it; what has been made stays. -/
def makeDirs (limit : Option Nat) (t : FileTree κ β) (pre : List κ) :
    List κ → Bool × FileTree κ β
  | [] => (true, t)
  | c :: rest =>
    match h : t.node (pre ++ [c]) with
    | some .dir => makeDirs limit t (pre ++ [c]) rest
    | some (.file _) => (false, t)
    | none =>
      if limit = some 0 then (false, t)
      else if hdir : t.node pre = some .dir then
        makeDirs (limit.map (· - 1))
          (t.put (pre ++ [c]) .dir (by simp) (by rwa [dropLast_concat]) (by rw [h]; simp))
          (pre ++ [c]) rest
      else (false, t)

/-- `File.mkdirs`: whether the directory was made. -/
def mkdirs (t : FileTree κ β) (limit : Option Nat) (p : List κ) : Bool × FileTree κ β :=
  if t.exist p then (false, t) else makeDirs limit t [] p

/-- Make an empty file, in the place of a file or of nothing. -/
def create (t : FileTree κ β) (p : List κ) : Option (FileTree κ β) :=
  if h : p ≠ [] ∧ t.node p.dropLast = some .dir ∧ t.node p ≠ some .dir then
    some (t.put p (.file []) h.1 h.2.1 h.2.2)
  else none

theorem makeDirs_addsDirs (limit : Option Nat) (t : FileTree κ β) (pre rest : List κ) :
    AddsDirs t (pre ++ rest) (makeDirs limit t pre rest).2 := by
  induction rest generalizing limit t pre with
  | nil => exact .refl
  | cons c rest ih =>
    have happ : pre ++ c :: rest = (pre ++ [c]) ++ rest := by simp
    rw [makeDirs, happ]
    split
    · exact ih limit t (pre ++ [c])
    · exact .refl
    · next hnone =>
      split
      · exact .refl
      · split
        · refine AddsDirs.trans (fun q => ?_) (ih _ _ (pre ++ [c]))
          rw [node_put]
          split
          · next heq => exact .inr ⟨heq ▸ hnone, rfl, heq ▸ prefix_append ..⟩
          · exact .inl rfl
        · exact .refl

/-- When it succeeds, the path is a directory. -/
theorem makeDirs_node {t : FileTree κ β} (hpre : t.node pre = some .dir)
    (h : (makeDirs limit t pre rest).1 = true) :
    (makeDirs limit t pre rest).2.node (pre ++ rest) = some .dir := by
  induction rest generalizing limit t pre with
  | nil =>
    rw [append_nil]
    exact hpre
  | cons c rest ih =>
    have happ : pre ++ c :: rest = (pre ++ [c]) ++ rest := by simp
    rw [makeDirs] at h ⊢
    rw [happ]
    split at h
    · next hdir => exact ih hdir h
    · cases h
    · split at h
      · cases h
      · next hlimit =>
        rw [if_neg hlimit, dif_pos hpre]
        refine ih ?_ h
        rw [node_put, if_pos rfl]

/-- When it fails, the last directory has not been made. -/
theorem makeDirs_node_of_failed {t : FileTree κ β} (h : (makeDirs limit t pre rest).1 = false) :
    (makeDirs limit t pre rest).2.node (pre ++ rest) = t.node (pre ++ rest) := by
  induction rest generalizing limit t pre with
  | nil => cases h
  | cons c rest ih =>
    have happ : pre ++ c :: rest = (pre ++ [c]) ++ rest := by simp
    rw [makeDirs] at h ⊢
    rw [happ]
    split at h
    · exact ih h
    · rfl
    · split at h
      · next hlimit => rw [if_pos hlimit]
      · next hlimit =>
        rw [if_neg hlimit]
        split at h
        · next hdir =>
          have hrest : rest ≠ [] := by
            rintro rfl
            cases h
          rw [dif_pos hdir, ih h, node_put, if_neg]
          intro heq
          exact hrest (append_right_eq_self.mp heq)
        · next hdir => rw [dif_neg hdir]

theorem mkdirs_addsDirs (limit : Option Nat) : AddsDirs t p (t.mkdirs limit p).2 := by
  unfold mkdirs
  split
  · exact .refl
  · exact makeDirs_addsDirs limit t [] p

theorem mkdirs_node (limit : Option Nat) (h : (t.mkdirs limit p).1 = true) :
    (t.mkdirs limit p).2.node p = some .dir := by
  unfold mkdirs at h ⊢
  split at h
  · cases h
  · next hp =>
    rw [if_neg hp]
    exact makeDirs_node t.top h

/-- A failed `mkdirs` leaves its own path as it was. -/
theorem mkdirs_node_of_failed (limit : Option Nat) (h : (t.mkdirs limit p).1 = false) :
    (t.mkdirs limit p).2.node p = t.node p := by
  unfold mkdirs at h ⊢
  split at h
  · next hp => rw [if_pos hp]
  · next hp =>
    rw [if_neg hp]
    exact makeDirs_node_of_failed h

theorem create_node (h : t.create p = some t') :
    p ≠ [] ∧ ∀ q, t'.node q = if q = p then some (.file []) else t.node q := by
  unfold create at h
  split at h
  · next hp =>
    cases h
    exact ⟨hp.1, fun q => node_put ..⟩
  · cases h

end FileTree
end ZeroVpn
