import AttributeCache.Proofs.Json.RoundTrip
import AttributeCache.Proofs.Keyed
/-!
# How deep a value goes

A reader lets only so many arrays and objects be open at once. A value
comes back from its tree exactly if it goes no deeper (`value?_tree`), as
long as its objects have their keys in order, each once; and whatever is
read is such a value and fits (`canonical_of_value?`). So a value that was
read with some room is read back with as much room, and need not be with
less.
-/

namespace AttributeCache.Json

namespace Value

mutual
/-- How many arrays and objects are open where the value is deepest. -/
def depth : Value → Nat
  | .array items => depthOfItems items + 1
  | .object fields => depthOfFields fields + 1
  | _ => 0

/-- The deepest of the items. -/
def depthOfItems : List Value → Nat
  | [] => 0
  | v :: rest => max v.depth (depthOfItems rest)

/-- The deepest of the fields. -/
def depthOfFields : List (String × Value) → Nat
  | [] => 0
  | (_, v) :: rest => max v.depth (depthOfFields rest)
end

mutual
/-- The keys ascend in every object, each standing once. -/
def Canonical : Value → Prop
  | .array items => ItemsCanonical items
  | .object fields => Keyed.Ascending fields ∧ FieldsCanonical fields
  | _ => True

/-- Item by item. -/
def ItemsCanonical : List Value → Prop
  | [] => True
  | v :: rest => v.Canonical ∧ ItemsCanonical rest

/-- Field by field. -/
def FieldsCanonical : List (String × Value) → Prop
  | [] => True
  | (_, v) :: rest => v.Canonical ∧ FieldsCanonical rest
end

theorem fieldsCanonical_iff {fields : List (String × Value)} :
    FieldsCanonical fields ↔ ∀ x ∈ fields, x.2.Canonical := by
  induction fields with
  | nil => simp [FieldsCanonical]
  | cons x rest ih => rw [FieldsCanonical, ih, List.forall_mem_cons]

theorem depthOfFields_le_iff {fields : List (String × Value)} {room : Nat} :
    depthOfFields fields ≤ room ↔ ∀ x ∈ fields, x.2.depth ≤ room := by
  induction fields with
  | nil => simp [depthOfFields]
  | cons x rest ih => rw [depthOfFields, Nat.max_le, ih, List.forall_mem_cons]

/-! ## What comes back from a tree -/

mutual
/-- **A value comes back from its tree if there is room for it**, and is
refused if there is not. -/
theorem value?_tree (v : Value) (room : Nat) (h : v.Canonical) :
    v.tree.value? room = if v.depth ≤ room then some v else none := by
  cases v with
  | null => simp [tree, Tree.value?, depth]
  | bool b => simp [tree, Tree.value?, depth]
  | number n => simp [tree, Tree.value?, depth]
  | string s => simp [tree, Tree.value?, depth]
  | array items =>
    rw [Canonical] at h
    cases room with
    | zero => rw [tree, Tree.value?, depth, if_neg (Nat.not_succ_le_zero _)]
    | succ room =>
      rw [tree, Tree.value?, values?_trees items room h, depth]
      simp only [Nat.add_le_add_iff_right]
      split <;> rfl
  | object fields =>
    rw [Canonical] at h
    cases room with
    | zero => rw [tree, Tree.value?, depth, if_neg (Nat.not_succ_le_zero _)]
    | succ room =>
      rw [tree, Tree.value?, fields?_trees fields room [] h.1 h.2, depth]
      simp only [Nat.add_le_add_iff_right]
      split <;> rfl

/-- Item by item. -/
theorem values?_trees (items : List Value) (room : Nat) (h : ItemsCanonical items) :
    Tree.values? room (treesOfItems items) =
      if depthOfItems items ≤ room then some items else none := by
  cases items with
  | nil => rw [treesOfItems, Tree.values?, depthOfItems, if_pos (Nat.zero_le _)]
  | cons v rest =>
    rw [ItemsCanonical] at h
    rw [treesOfItems, Tree.values?, value?_tree v room h.1, values?_trees rest room h.2,
      depthOfItems]
    simp only [Nat.max_le]
    by_cases hv : v.depth ≤ room
    · by_cases hrest : depthOfItems rest ≤ room <;> simp [hv, hrest]
    · simp [hv]

/-- Field by field: each is inserted behind those before it. -/
theorem fields?_trees (fields : List (String × Value)) (room : Nat)
    (before : List (String × Value)) (hkeys : Keyed.Ascending (before ++ fields))
    (h : FieldsCanonical fields) :
    Tree.fields? room before (treesOfFields fields) =
      if depthOfFields fields ≤ room then some (before ++ fields) else none := by
  cases fields with
  | nil => rw [treesOfFields, Tree.fields?, depthOfFields, if_pos (Nat.zero_le _), List.append_nil]
  | cons x rest =>
    obtain ⟨key, v⟩ := x
    rw [FieldsCanonical] at h
    rw [List.append_cons] at hkeys
    have hlast : Keyed.insert key v before = before ++ [(key, v)] :=
      Keyed.Ascending.insert_last (List.pairwise_append.1 hkeys).1
    rw [treesOfFields, Tree.fields?, value?_tree v room h.1, depthOfFields]
    simp only [Nat.max_le]
    by_cases hv : v.depth ≤ room
    · rw [if_pos hv]
      simp only [hlast, fields?_trees rest room _ hkeys h.2, List.append_assoc,
        List.singleton_append, hv, true_and]
    · rw [if_neg hv, if_neg fun hboth => hv hboth.1]
end

end Value

/-! ## What is read -/

namespace Tree

variable {room : Nat} {v : Value}

/-- Nothing but `null` is read as `null`. -/
theorem eq_null_of_value? {t : Tree} (h : t.value? room = some .null) : t = .null := by
  cases t with
  | null => rfl
  | array items => cases room <;> simp [value?] at h
  | object fields => cases room <;> simp [value?] at h
  | _ => simp [value?] at h

mutual
/-- **What is read has its keys in order and fits** into the room it was
read with. -/
theorem canonical_of_value? (t : Tree) (room : Nat) (v : Value) (h : t.value? room = some v) :
    v.Canonical ∧ v.depth ≤ room := by
  cases t with
  | array items =>
    cases room with
    | zero => simp [value?] at h
    | succ room =>
      rw [value?, Option.map_eq_some_iff] at h
      obtain ⟨vs, hvs, rfl⟩ := h
      rw [Value.Canonical, Value.depth, Nat.add_le_add_iff_right]
      exact canonical_of_values? items room vs hvs
  | object fields =>
    cases room with
    | zero => simp [value?] at h
    | succ room =>
      rw [value?, Option.map_eq_some_iff] at h
      obtain ⟨vs, hvs, rfl⟩ := h
      have hread := canonical_of_fields? fields room [] vs .nil (by simp) hvs
      rw [Value.Canonical, Value.depth, Nat.add_le_add_iff_right, Value.fieldsCanonical_iff,
        Value.depthOfFields_le_iff]
      exact ⟨⟨hread.1, fun x hx => (hread.2 x hx).1⟩, fun x hx => (hread.2 x hx).2⟩
  | broken => simp [value?] at h
  | _ =>
    simp only [value?, Option.map_eq_some_iff, Option.some.injEq] at h
    first
      | (subst h; simp [Value.Canonical, Value.depth])
      | (obtain ⟨_, _, rfl⟩ := h; simp [Value.Canonical, Value.depth])

/-- Item by item. -/
theorem canonical_of_values? (items : List Tree) (room : Nat) (vs : List Value)
    (h : values? room items = some vs) :
    Value.ItemsCanonical vs ∧ Value.depthOfItems vs ≤ room := by
  cases items with
  | nil =>
    rw [values?, Option.some.injEq] at h
    subst h
    simp [Value.ItemsCanonical, Value.depthOfItems]
  | cons t rest =>
    cases hv : t.value? room with
    | none => simp [values?, hv] at h
    | some v =>
      simp only [values?, hv, Option.map_eq_some_iff] at h
      obtain ⟨others, hothers, rfl⟩ := h
      have hfirst := canonical_of_value? t room v hv
      have hrest := canonical_of_values? rest room others hothers
      rw [Value.ItemsCanonical, Value.depthOfItems, Nat.max_le]
      exact ⟨⟨hfirst.1, hrest.1⟩, hfirst.2, hrest.2⟩

/-- Field by field, behind those before. -/
theorem canonical_of_fields? (fields : List (Option String × Tree)) (room : Nat)
    (before out : List (String × Value)) (hkeys : Keyed.Ascending before)
    (hbefore : ∀ x ∈ before, x.2.Canonical ∧ x.2.depth ≤ room)
    (h : fields? room before fields = some out) :
    Keyed.Ascending out ∧ ∀ x ∈ out, x.2.Canonical ∧ x.2.depth ≤ room := by
  cases fields with
  | nil =>
    rw [fields?, Option.some.injEq] at h
    exact h ▸ ⟨hkeys, hbefore⟩
  | cons field rest =>
    obtain ⟨_ | key, t⟩ := field
    · simp [fields?] at h
    · cases hv : t.value? room with
      | none => simp [fields?, hv] at h
      | some v =>
        simp only [fields?, hv] at h
        refine canonical_of_fields? rest room _ out hkeys.insert (fun x hx => ?_) h
        rcases Keyed.mem_insert hx with rfl | hx
        · exact canonical_of_value? t room v hv
        · exact hbefore x hx
end

end Tree

end AttributeCache.Json
