import AttributeCache.EntityOrder
import AttributeCache.Proofs.Number
import AttributeCache.Proofs.Sorting
/-!
# Entities by one path are in a total preorder

Whatever stands at a path, that it is missing included, has its place by
four things: its kind, its truth, what it is worth as a number, and its text
(`Standing`). Comparing two values is comparing these one after the other,
each in its own linear order, so nothing about transitivity depends on which
kinds meet. The direction turns all of it round, the place of the missing
values included, and a total preorder stays one.
-/

namespace AttributeCache

open Sorting

/-! ## Where a value stands -/

/-- What decides where a value stands. Each kind sets one of the last three
and leaves the others alike. -/
structure Standing where
  /-- The place of the kind, that of the missing values included. -/
  kind : Nat
  truth : Bool := false
  worth : ℚ := 0
  text : String := ""

namespace Standing

/-- By kind first; within a kind, one of the others decides. -/
def inOrder : Standing → Standing → Ordering :=
  compareLex (compareOn kind) (compareLex (compareOn truth)
    (compareLex (compareOn worth) (compareOn text)))

instance : Ord Standing := ⟨inOrder⟩

instance : Std.TransOrd Standing := by
  change Std.TransCmp inOrder
  unfold inOrder
  infer_instance

theorem compare_eq (a b : Standing) : compare a b =
    (compare a.kind b.kind).then ((compare a.truth b.truth).then
      ((compare a.worth b.worth).then (compare a.text b.text))) := rfl

/-- Where a value stands that is not null. -/
def ofKey : SortKey → Standing
  | .bool b => { kind := 1, truth := b }
  | .number n => { kind := 2, worth := n.value }
  | .text s => { kind := 3, text := s }

/-- Where a value or a missing one stands in ascending order. -/
def of (nulls : NullPlace) : Option Json.Value → Standing
  | none => { kind := if nulls = .first then 0 else 4 }
  | some v => ofKey (.of v)

/-- **Keys are compared by where they stand.** -/
theorem compare_ofKey (a b : SortKey) : compare (ofKey a) (ofKey b) = a.compare b := by
  -- two of one kind are told apart by what that kind sets, any others by the kind
  cases a with
  | bool a =>
    cases b with
    | bool b => simp [compare_eq, ofKey, SortKey.compare]
    | number b => rfl
    | text b => rfl
  | number a =>
    cases b with
    | bool b => rfl
    | number b => simp [compare_eq, ofKey, SortKey.compare, Number.compare_eq]
    | text b => rfl
  | text a =>
    cases b with
    | bool b => rfl
    | number b => rfl
    | text b => simp [compare_eq, ofKey, SortKey.compare]

/-- A missing value stands in front of all others or behind them. -/
theorem compare_none_some (nulls : NullPlace) (v : Json.Value) :
    compare (of nulls none) (of nulls (some v)) = if nulls = .first then .lt else .gt := by
  rw [of, of]
  cases nulls <;> cases SortKey.of v <;> rfl

/-- **And so are values**, missing ones among them. -/
theorem compare_of (nulls : NullPlace) (a b : Option Json.Value) :
    compare (of nulls a) (of nulls b) = EntityOrder.compareNullable nulls a b := by
  cases a with
  | none =>
    cases b with
    | none => exact Std.ReflOrd.compare_self
    | some b => exact compare_none_some nulls b
  | some a =>
    cases b with
    | none =>
      rw [Std.OrientedOrd.eq_swap, compare_none_some, EntityOrder.compareNullable]
      split <;> rfl
    | some b => exact compare_ofKey _ _

end Standing

namespace EntityOrder

/-! ## The order of entities -/

variable (o : EntityOrder)

/-- Where an entity stands in ascending order. -/
def standing (e : Entity) : Standing :=
  .of o.nulls (o.accessor.read? e)

theorem compare_eq (a b : Entity) : o.compare a b =
    if o.ascending then Ord.compare (o.standing a) (o.standing b)
    else Ord.compare (o.standing b) (o.standing a) := by
  rw [compare, ← Standing.compare_of]
  split
  · rfl
  · exact Std.OrientedOrd.eq_swap.symm

/-- **Entities are compared by where they stand**, in either direction. -/
instance : Std.TransCmp o.compare := by
  have hup : Std.TransCmp (compareOn o.standing) := inferInstance
  have heq : o.compare =
      if o.ascending then compareOn o.standing else fun a b => compareOn o.standing b a := by
    funext a b
    rw [compare_eq]
    split <;> rfl
  rw [heq]
  split
  · exact hup
  · exact Std.TransCmp.opposite

theorem sortedFrom_sort (es : List Entity) : SortedFrom o.compare es (o.sort es) :=
  sortedFrom_mergeSort o.compare es

/-- What is sorted stays as it is. -/
theorem sort_sort (es : List Entity) : o.sort (o.sort es) = o.sort es :=
  List.mergeSort_of_pairwise (pairwise_iff_isChain.2 (o.sortedFrom_sort es).ascending)

/-- **Entities are in a total preorder, and sorting goes by it.** They are
compared by where their values stand, kinds first and numbers by what they
are worth. So every entity is equal to itself, two compare the other way
round from the other side, and less or equal goes over any number of steps.
Sorted they are in the one way that ascends and leaves those that compare
equal as they stood; a second time changes nothing. -/
theorem total_preorder (o : EntityOrder) :
    (∀ a b, o.compare a b = if o.ascending then Ord.compare (o.standing a) (o.standing b)
      else Ord.compare (o.standing b) (o.standing a)) ∧
    (∀ a, o.compare a a = .eq) ∧
    (∀ a b, o.compare b a = (o.compare a b).swap) ∧
    (∀ a b c, (o.compare a b).isLE → (o.compare b c).isLE → (o.compare a c).isLE) ∧
    ∀ es, SortedFrom o.compare es (o.sort es) ∧
      (∀ sorted, SortedFrom o.compare es sorted → sorted = o.sort es) ∧
      o.sort (o.sort es) = o.sort es := by
  refine ⟨o.compare_eq, fun a => Std.ReflCmp.compare_self, fun a b => Std.OrientedCmp.eq_swap,
    fun a b c => Std.TransCmp.isLE_trans, fun es => ⟨o.sortedFrom_sort es, fun sorted h => ?_,
      o.sort_sort es⟩⟩
  exact h.unique (o.sortedFrom_sort es)

/-- An entity of some size. -/
def sized (n : Number) : Entity :=
  .new "" "Order" (.object [("size", .number n)])

/-- It does so where a double is too coarse for the integers beside it:
`2 ^ 53` as an integer and as a double, and the integer behind it. -/
theorem total_preorder_beyond_doubles :
    let o := EntityOrder.ofPath ⟨"size", []⟩ true
    let whole := sized (.integer 0x20000000000000 (by decide))
    let double := sized (.double ⟨false, 0x10000000000000, 1, by decide⟩)
    let next := sized (.integer 0x20000000000001 (by decide))
    (o.compare whole double).isLE ∧ (o.compare double next).isLE ∧
      (o.compare whole next).isLE ∧ o.compare next whole = .gt ∧
      SortedFrom o.compare [next, double, whole] (o.sort [next, double, whole]) := by
  intro o whole double next
  obtain ⟨-, -, hswap, htrans, hsort⟩ := total_preorder o
  have hfirst : (o.compare whole double).isLE := by decide +kernel
  have hsecond : (o.compare double next).isLE := by decide +kernel
  have hlt : o.compare whole next = .lt := by decide +kernel
  refine ⟨hfirst, hsecond, htrans _ _ _ hfirst hsecond, ?_, (hsort _).1⟩
  rw [hswap, hlt]
  rfl

end EntityOrder

end AttributeCache
