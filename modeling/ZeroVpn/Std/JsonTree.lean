/-!
# JSON trees

A JSON value over an arbitrary type of numbers. `mapNum` changes the numbers; `shown` does the same
and leaves out the members that are `null`, as a printer does that does not serialise nulls. A tree
is shown as it is exactly if its numbers are and no member of it is `null` (`shown_eq_self_iff`).
-/

namespace ZeroVpn

inductive JsonTree (ν : Type) where
  | null
  | bool (b : Bool)
  | num (x : ν)
  | str (s : String)
  | arr (elems : List (JsonTree ν))
  | obj (members : List (String × JsonTree ν))

namespace JsonTree

variable {ν μ ρ : Type}

mutual

def mapNum (f : ν → μ) : JsonTree ν → JsonTree μ
  | .null => .null
  | .bool b => .bool b
  | .num x => .num (f x)
  | .str s => .str s
  | .arr elems => .arr (mapNumElems f elems)
  | .obj members => .obj (mapNumMembers f members)

def mapNumElems (f : ν → μ) : List (JsonTree ν) → List (JsonTree μ)
  | [] => []
  | t :: ts => mapNum f t :: mapNumElems f ts

def mapNumMembers (f : ν → μ) : List (String × JsonTree ν) → List (String × JsonTree μ)
  | [] => []
  | (key, t) :: ts => (key, mapNum f t) :: mapNumMembers f ts

end

mutual

def shown (f : ν → μ) : JsonTree ν → JsonTree μ
  | .null => .null
  | .bool b => .bool b
  | .num x => .num (f x)
  | .str s => .str s
  | .arr elems => .arr (shownElems f elems)
  | .obj members => .obj (shownMembers f members)

def shownElems (f : ν → μ) : List (JsonTree ν) → List (JsonTree μ)
  | [] => []
  | t :: ts => shown f t :: shownElems f ts

def shownMembers (f : ν → μ) : List (String × JsonTree ν) → List (String × JsonTree μ)
  | [] => []
  | (_, .null) :: ts => shownMembers f ts
  | (key, t) :: ts => (key, shown f t) :: shownMembers f ts

end

mutual

/-- All numbers have the property, and no member is `null`. -/
def Kept (P : ν → Prop) : JsonTree ν → Prop
  | .num x => P x
  | .arr elems => KeptElems P elems
  | .obj members => KeptMembers P members
  | _ => True

def KeptElems (P : ν → Prop) : List (JsonTree ν) → Prop
  | [] => True
  | t :: ts => Kept P t ∧ KeptElems P ts

def KeptMembers (P : ν → Prop) : List (String × JsonTree ν) → Prop
  | [] => True
  | (_, t) :: ts => t ≠ .null ∧ Kept P t ∧ KeptMembers P ts

end

section
variable (f : ν → μ) (g : μ → ρ)

theorem shownMembers_cons_of_ne {key : String} {t : JsonTree ν} (h : t ≠ .null)
    (ts : List (String × JsonTree ν)) :
    shownMembers f ((key, t) :: ts) = (key, shown f t) :: shownMembers f ts := by
  cases t with
  | null => exact absurd rfl h
  | _ => rfl

theorem mapNum_ne_null {t : JsonTree ν} (h : t ≠ .null) : mapNum f t ≠ .null := by
  cases t with
  | null => exact absurd rfl h
  | _ => exact nofun

mutual

/-- What is shown of a tree with other numbers. -/
theorem shown_mapNum : ∀ t : JsonTree ν, shown g (mapNum f t) = shown (g ∘ f) t
  | .null => rfl
  | .bool _ => rfl
  | .num _ => rfl
  | .str _ => rfl
  | .arr elems => congrArg JsonTree.arr (shownElems_mapNum elems)
  | .obj members => congrArg JsonTree.obj (shownMembers_mapNum members)

theorem shownElems_mapNum :
    ∀ ts : List (JsonTree ν), shownElems g (mapNumElems f ts) = shownElems (g ∘ f) ts
  | [] => rfl
  | t :: ts => by
    rw [mapNumElems, shownElems, shownElems, shown_mapNum t, shownElems_mapNum ts]

theorem shownMembers_mapNum : ∀ ts : List (String × JsonTree ν),
    shownMembers g (mapNumMembers f ts) = shownMembers (g ∘ f) ts
  | [] => rfl
  | (_, .null) :: ts => shownMembers_mapNum ts
  | (key, t) :: ts => by
    by_cases h : t = .null
    · rw [h]
      exact shownMembers_mapNum ts
    · rw [shownMembers_cons_of_ne _ h, mapNumMembers,
        shownMembers_cons_of_ne _ (mapNum_ne_null f h), shown_mapNum t, shownMembers_mapNum ts]

end

mutual

/-- The numbers of what is shown. -/
theorem mapNum_shown : ∀ t : JsonTree ν, mapNum g (shown f t) = shown (g ∘ f) t
  | .null => rfl
  | .bool _ => rfl
  | .num _ => rfl
  | .str _ => rfl
  | .arr elems => congrArg JsonTree.arr (mapNumElems_shown elems)
  | .obj members => congrArg JsonTree.obj (mapNumMembers_shown members)

theorem mapNumElems_shown :
    ∀ ts : List (JsonTree ν), mapNumElems g (shownElems f ts) = shownElems (g ∘ f) ts
  | [] => rfl
  | t :: ts => by
    rw [shownElems, shownElems, mapNumElems, mapNum_shown t, mapNumElems_shown ts]

theorem mapNumMembers_shown : ∀ ts : List (String × JsonTree ν),
    mapNumMembers g (shownMembers f ts) = shownMembers (g ∘ f) ts
  | [] => rfl
  | (key, t) :: ts => by
    by_cases h : t = .null
    · rw [h]
      exact mapNumMembers_shown ts
    · rw [shownMembers_cons_of_ne _ h, shownMembers_cons_of_ne _ h, mapNumMembers, mapNum_shown t,
        mapNumMembers_shown ts]

end

/-- Members are only left out. -/
theorem length_shownMembers_le (ts : List (String × JsonTree ν)) :
    (shownMembers f ts).length ≤ ts.length := by
  induction ts with
  | nil => exact Nat.le_refl 0
  | cons e ts ih =>
    obtain ⟨key, t⟩ := e
    by_cases h : t = .null
    · rw [h]
      exact Nat.le_succ_of_le ih
    · rw [shownMembers_cons_of_ne _ h]
      exact Nat.succ_le_succ ih

end

section
variable (f : ν → ν)

mutual

theorem shown_eq_self_iff : ∀ t : JsonTree ν, shown f t = t ↔ Kept (fun x => f x = x) t
  | .null => iff_of_true rfl trivial
  | .bool _ => iff_of_true rfl trivial
  | .num x => by
    rw [shown, JsonTree.num.injEq]
    rfl
  | .str _ => iff_of_true rfl trivial
  | .arr elems => by
    rw [shown, JsonTree.arr.injEq, shownElems_eq_self_iff elems]
    rfl
  | .obj members => by
    rw [shown, JsonTree.obj.injEq, shownMembers_eq_self_iff members]
    rfl

theorem shownElems_eq_self_iff :
    ∀ ts : List (JsonTree ν), shownElems f ts = ts ↔ KeptElems (fun x => f x = x) ts
  | [] => iff_of_true rfl trivial
  | t :: ts => by
    rw [shownElems, List.cons.injEq, shown_eq_self_iff t, shownElems_eq_self_iff ts]
    rfl

theorem shownMembers_eq_self_iff : ∀ ts : List (String × JsonTree ν),
    shownMembers f ts = ts ↔ KeptMembers (fun x => f x = x) ts
  | [] => iff_of_true rfl trivial
  | (key, t) :: ts => by
    rw [KeptMembers]
    by_cases h : t = .null
    · -- the member is left out, so the list is shorter
      refine iff_of_false (fun heq => ?_) fun hkept => hkept.1 h
      have hlength := length_shownMembers_le f ts
      rw [h, shownMembers] at heq
      rw [heq, List.length_cons] at hlength
      exact Nat.not_succ_le_self _ hlength
    · rw [shownMembers_cons_of_ne _ h, List.cons.injEq, Prod.mk.injEq, shown_eq_self_iff t,
        shownMembers_eq_self_iff ts]
      simp only [true_and, h, ne_eq, not_false_eq_true]

end

end
end JsonTree
end ZeroVpn
