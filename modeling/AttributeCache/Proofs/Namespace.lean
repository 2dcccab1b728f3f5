import AttributeCache.Namespace
import AttributeCache.Proofs.FirstOccurrences
/-!
# Namespaces by their roots

While documents are merged, a map is told by its roots and by the members
each root has: positions are where a root stands, and a member is owned as
soon as one of the roots has it. Every operation on the map is an operation
on the two.
-/

namespace AttributeCache

/-- A class name is that of a namespace, a point, and more. -/
def IsBelow (name member : String) : Prop :=
  ∃ rest, rest ≠ "" ∧ member = name ++ "." ++ rest

namespace NamespaceMap

open FirstOccurrences

variable {roots xs : List String} {members : String → List String} {root x name : String}
variable {m : NamespaceMap} {position : Nat}

theorem encloses_iff {member : String} : encloses name member = true ↔ IsBelow name member := by
  rw [encloses, Bool.and_eq_true, List.isPrefixOf_iff_prefix, decide_eq_true_iff]
  constructor
  · rintro ⟨⟨rest, hrest⟩, hlength⟩
    refine ⟨String.ofList rest, fun hempty => ?_, ?_⟩
    · have hnil : rest = [] := by simpa using congrArg String.toList hempty
      rw [← hrest, hnil, List.append_nil] at hlength
      exact absurd hlength (Nat.lt_irrefl _)
    · rw [← String.toList_inj, ← hrest]
      simp
  · rintro ⟨rest, hrest, rfl⟩
    rw [String.toList_append, String.toList_append]
    refine ⟨⟨rest.toList, rfl⟩, ?_⟩
    have hpos : 0 < rest.toList.length :=
      List.length_pos_iff.2 fun hnil => hrest (String.toList_inj.1 hnil)
    have hlength : (name.toList ++ ".".toList ++ rest.toList).length =
        (name.toList ++ ['.']).length + rest.toList.length := List.length_append
    omega

instance {member : String} : Decidable (IsBelow name member) :=
  decidable_of_iff (encloses name member = true) encloses_iff

/-! ## A map told by its roots -/

/-- The namespaces of some roots, each with its members. -/
def ofRoots (roots : List String) (members : String → List String) : NamespaceMap :=
  ⟨roots.map fun root => ⟨root, members root⟩⟩

/-- The members with some more under one root. -/
def under (members : String → List String) (root : String) (xs : List String) :
    String → List String :=
  fun other => if other = root then members other ++ xs else members other

theorem mem_under {other : String} :
    x ∈ under members root xs other ↔ x ∈ members other ∨ other = root ∧ x ∈ xs := by
  rw [under]
  split <;> simp [*]

theorem under_nil : under members root [] = members := by
  funext other
  rw [under, List.append_nil, ite_self]

theorem under_under {ys : List String} :
    under (under members root xs) root ys = under members root (xs ++ ys) := by
  funext other
  by_cases h : other = root <;> simp [under, h]

/-! ## What is asked of it -/

/-- Where something is found first, the first to be found stands. -/
theorem exists_root_of_findIdx? {p : String → Bool} (h : roots.findIdx? p = some position) :
    ∃ root, roots[position]? = some root ∧ roots.find? p = some root := by
  induction roots generalizing position with
  | nil => exact absurd h (by simp)
  | cons first rest ih =>
    rw [List.findIdx?_cons] at h
    split at h
    · rename_i hfirst
      rw [← Option.some.inj h]
      exact ⟨first, rfl, List.find?_cons_of_pos hfirst⟩
    · rename_i hfirst
      obtain ⟨before, hbefore, rfl⟩ := Option.map_eq_some_iff.1 h
      rw [List.find?_cons_of_neg hfirst, List.getElem?_cons_succ]
      exact ih hbefore

theorem position?_ofRoots :
    (ofRoots roots members).position? name = roots.findIdx? (· == name) := by
  rw [position?, ofRoots, List.findIdx?_map]
  rfl

theorem owner?_ofRoots_eq_none :
    (ofRoots roots members).owner? x = none ↔ ∀ root ∈ roots, x ∉ members root := by
  simp [owner?, ofRoots]

/-- The owner is the one root that has the member. -/
theorem owner?_ofRoots (hroot : root ∈ roots) (hx : x ∈ members root)
    (honly : ∀ other ∈ roots, x ∈ members other → other = root) :
    (ofRoots roots members).owner? x = some root := by
  cases howner : (ofRoots roots members).owner? x with
  | none => exact absurd hx (owner?_ofRoots_eq_none.1 howner root hroot)
  | some owner =>
    rw [owner?, Option.map_eq_some_iff] at howner
    obtain ⟨ns, hfind, rfl⟩ := howner
    obtain ⟨other, hother, rfl⟩ := List.mem_map.1 (List.mem_of_find?_eq_some hfind)
    have hmember := List.find?_some (p := fun ns : Namespace => ns.members.contains x) hfind
    exact congrArg some (honly other hother (List.contains_iff_mem.1 hmember))

theorem enclosing?_ofRoots :
    (ofRoots roots members).enclosing? x = roots.findIdx? fun root => decide (IsBelow root x) := by
  rw [enclosing?, ofRoots, List.findIdx?_map]
  congr 1
  funext root
  rw [Bool.eq_iff_iff, decide_eq_true_iff]
  exact encloses_iff

/-! ## What is done to it -/

/-- Declaring a root puts it behind the others, unless it is there. -/
theorem declare_ofRoots (hnodup : roots.Nodup) (hnew : name ∉ roots → members name = []) :
    ∃ position, (ofRoots roots members).declare name =
        (ofRoots (roots ++ [name]).eraseDups members, position) ∧
      (roots ++ [name]).eraseDups[position]? = some name := by
  rw [declare, position?_ofRoots]
  by_cases hname : name ∈ roots
  -- it keeps its place, the first at which the name stands
  · rw [eraseDups_append_of_subset fun y hy => List.mem_singleton.1 hy ▸ hname,
      eraseDups_of_nodup hnodup]
    have hsome : (roots.findIdx? (· == name)).isSome := List.isSome_idxOf?.2 hname
    obtain ⟨position, hposition⟩ := Option.isSome_iff_exists.1 hsome
    obtain ⟨found, hat, hfound⟩ := exists_root_of_findIdx? hposition
    have hsame : (found == name) = true := List.find?_some (p := (· == name)) hfound
    rw [hposition, ← eq_of_beq hsame]
    exact ⟨position, rfl, hat⟩
  · have hnone : roots.findIdx? (· == name) = none := List.idxOf?_eq_none_iff.2 hname
    rw [eraseDups_append_singleton hname, eraseDups_of_nodup hnodup, hnone]
    refine ⟨roots.length, ?_, List.getElem?_concat_length⟩
    simp only [ofRoots, List.length_map, List.map_append, List.map_singleton, hnew hname]

/-- The namespace at the position of a root is that of the root, and no
other is. -/
theorem modify_ofRoots (hnodup : roots.Nodup) (hroot : roots[position]? = some root) :
    (ofRoots roots members).namespaces.modify position
        (fun ns => { ns with members := ns.members ++ xs }) =
      (ofRoots roots (under members root xs)).namespaces := by
  -- place by place: the roots being different ones, the position tells the root
  refine List.ext_getElem? fun i => ?_
  rw [List.getElem?_modify, ofRoots, ofRoots, List.getElem?_map, List.getElem?_map]
  cases hother : roots[i]? with
  | none => rfl
  | some other =>
    have hsame : position = i ↔ other = root := by
      constructor
      · rintro rfl
        exact Option.some.inj (hother.symm.trans hroot)
      · rintro rfl
        obtain ⟨hlt, -⟩ := List.getElem?_eq_some_iff.1 hroot
        exact (List.getElem?_inj hlt hnodup).1 (hroot.trans hother.symm)
    by_cases h : other = root
    · simp [under, hsame, h]
    · simp [under, hsame, h]

/-- A member is added under the root at the position, unless some root has
it. -/
theorem insert_ofRoots (hnodup : roots.Nodup) (hroot : roots[position]? = some root) :
    (ofRoots roots members).insert position x = .ok m ↔
      (∀ other ∈ roots, x ∉ members other) ∧ m = ofRoots roots (under members root [x]) := by
  rw [insert, ← owner?_ofRoots_eq_none]
  split
  · rename_i owner howner
    simp [howner]
  · rename_i hnone
    rw [modify_ofRoots hnodup hroot, Except.ok.injEq, eq_comm, and_iff_right hnone]

end NamespaceMap

end AttributeCache
