import Mathlib.Data.List.Basic
import Mathlib.Order.Basic
/-!
# Sorting by a comparison

Sorting by a comparison that is transitive gives a list that is told by
three things (`SortedFrom`): what it is made of, that it ascends, and that
elements which compare equal stand in it as they stood before. No other list
has all three (`SortedFrom.unique`), so nothing is left to the way the
sorting is done.
-/

namespace AttributeCache

namespace Sorting

variable {α : Type} {cmp : α → α → Ordering} {l l' given : List α} {a x y : α}

/-- The elements of a list that compare equal to one, as they stand. -/
def ties (cmp : α → α → Ordering) (a : α) (l : List α) : List α :=
  l.filter fun b => cmp a b == .eq

/-- A list put in order, with what compares equal left as it stood. -/
structure SortedFrom (cmp : α → α → Ordering) (given sorted : List α) : Prop where
  /-- Nothing is lost and nothing is added. -/
  perm : sorted.Perm given
  /-- No element is behind its successor in the order. -/
  ascending : sorted.IsChain fun a b => (cmp a b).isLE
  /-- Those that compare equal stand as they stood. -/
  stable : ∀ a, ties cmp a sorted = ties cmp a given

theorem mem_ties : x ∈ ties cmp a l ↔ x ∈ l ∧ cmp a x = .eq := by
  rw [ties, List.mem_filter, beq_iff_eq]

theorem ties_cons_of_eq (h : cmp a x = .eq) : ties cmp a (x :: l) = x :: ties cmp a l :=
  List.filter_cons_of_pos (beq_iff_eq.2 h)

/-- One element less on both sides makes no difference. -/
theorem ties_tail (h : ties cmp a (x :: l) = ties cmp a (x :: l')) :
    ties cmp a l = ties cmp a l' := by
  rw [ties, ties, List.filter_cons, List.filter_cons] at h
  split at h
  · exact (List.cons.inj h).2
  · exact h

variable [Std.TransCmp cmp]

/-- Every element ties with itself, so ties tell what a list is made of. -/
theorem mem_iff_of_ties (h : ∀ a, ties cmp a l = ties cmp a l') : x ∈ l ↔ x ∈ l' := by
  have hx : cmp x x = .eq := Std.ReflCmp.compare_self
  have hiff : x ∈ ties cmp x l ↔ x ∈ ties cmp x l' := by rw [h x]
  rwa [mem_ties, mem_ties, and_iff_left hx, and_iff_left hx] at hiff

/-- Successors in order are as good as any two in order. -/
theorem pairwise_iff_isChain :
    (l.Pairwise fun a b => (cmp a b).isLE) ↔ l.IsChain fun a b => (cmp a b).isLE := by
  have htrans : Trans (fun a b => (cmp a b).isLE = true) (fun a b => (cmp a b).isLE = true)
      (fun a b => (cmp a b).isLE = true) := ⟨Std.TransCmp.isLE_trans⟩
  exact List.isChain_iff_pairwise.symm

theorem isLE_or_isLE (a b : α) : ((cmp a b).isLE || (cmp b a).isLE) = true := by
  rw [@Std.OrientedCmp.eq_swap _ cmp _ a b]
  cases cmp b a <;> rfl

/-- What stands nowhere behind the head compares to it as less or equal. -/
theorem isLE_of_mem_cons (h : (x :: l).Pairwise fun a b => (cmp a b).isLE) (hy : y ∈ x :: l) :
    (cmp x y).isLE = true := by
  rcases List.mem_cons.1 hy with rfl | hy
  · rw [@Std.ReflCmp.compare_self _ cmp _ y]
    rfl
  · exact (List.pairwise_cons.1 h).1 y hy

/-- Elements that tie with one tie with each other. -/
theorem pairwise_ties (a : α) : (ties cmp a l).Pairwise fun b c => (cmp b c).isLE := by
  refine List.pairwise_of_forall_mem_list fun b hb c hc => ?_
  rw [← Std.TransCmp.congr_left (mem_ties.1 hb).2, (mem_ties.1 hc).2]
  rfl

/-- **What sorting gives.** -/
theorem sortedFrom_mergeSort (cmp : α → α → Ordering) [Std.TransCmp cmp] (given : List α) :
    SortedFrom cmp given (given.mergeSort fun a b => (cmp a b).isLE) where
  perm := List.mergeSort_perm _ _
  ascending := pairwise_iff_isChain.1 <|
    List.pairwise_mergeSort (fun _ _ _ => Std.TransCmp.isLE_trans) isLE_or_isLE given
  stable a := by
    -- the ties are in order as they stand, so sorting leaves them as they stand
    have hsub : (ties cmp a given).Sublist (given.mergeSort fun a b => (cmp a b).isLE) :=
      List.sublist_mergeSort (fun _ _ _ => Std.TransCmp.isLE_trans) isLE_or_isLE
        (pairwise_ties a) List.filter_sublist
    have hties : (ties cmp a given).Sublist
        (ties cmp a (given.mergeSort fun a b => (cmp a b).isLE)) := by
      have hfilter := hsub.filter fun b => cmp a b == .eq
      simpa only [ties, List.filter_filter, Bool.and_self] using hfilter
    have hlength := ((List.mergeSort_perm given fun a b => (cmp a b).isLE).filter
      fun b => cmp a b == .eq).length_eq
    exact (hties.eq_of_length hlength.symm).symm

/-- **Lists in order are told by their ties.** -/
theorem eq_of_ties (h : l.Pairwise fun a b => (cmp a b).isLE)
    (h' : l'.Pairwise fun a b => (cmp a b).isLE) (hties : ∀ a, ties cmp a l = ties cmp a l') :
    l = l' := by
  induction l generalizing l' with
  | nil =>
    exact (List.eq_nil_iff_forall_not_mem.2 fun x hx => nomatch (mem_iff_of_ties hties).2 hx).symm
  | cons x t ih =>
    cases l' with
    | nil => exact nomatch (mem_iff_of_ties hties).1 List.mem_cons_self
    | cons y t' =>
      -- each head is in the other list as well, so they tie, and each is the first to do so
      have hxy : cmp x y = .eq := Std.OrientedCmp.isLE_antisymm
        (isLE_of_mem_cons h ((mem_iff_of_ties hties).2 List.mem_cons_self))
        (isLE_of_mem_cons h' ((mem_iff_of_ties hties).1 List.mem_cons_self))
      have hheads := hties x
      rw [ties_cons_of_eq Std.ReflCmp.compare_self, ties_cons_of_eq hxy] at hheads
      obtain ⟨rfl, -⟩ := List.cons.inj hheads
      rw [ih h.of_cons h'.of_cons fun a => ties_tail (hties a)]

/-- **Nothing else is sorted.** -/
theorem SortedFrom.unique (h : SortedFrom cmp given l) (h' : SortedFrom cmp given l') : l = l' :=
  eq_of_ties (pairwise_iff_isChain.2 h.ascending) (pairwise_iff_isChain.2 h'.ascending)
    fun a => (h.stable a).trans (h'.stable a).symm

end Sorting

end AttributeCache
