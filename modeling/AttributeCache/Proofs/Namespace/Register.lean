import AttributeCache.Namespace.Register
import AttributeCache.Proofs.FirstOccurrences
import AttributeCache.Proofs.Keyed
/-!
# The tables of a register stay in step

What a register answers is looked up in its tables, so it is right as long
as the tables say of the list what is there (`InStep`): each name and each
member at one place, and at the place where it stands. That is two facts
about positions from which the rest follows; that no two namespaces have one
name, and no two list one member, is that a table has one entry for a key.

A register in step answers as its map does, which searches the list
(`AnswersAsMap`), and so does every call on the two.
-/

namespace AttributeCache

namespace NamespaceRegister

variable {r : NamespaceRegister} {ns other : Namespace} {name x : String} {i position : Nat}

/-! ## Places in a list -/

/-- What stands at a place of the longer list stands there already, or is
what was put at the end. -/
theorem exists_getElem?_concat {α : Type} {l : List α} {a : α} {P : α → Prop} :
    (∃ b, (l ++ [a])[i]? = some b ∧ P b) ↔ (∃ b, l[i]? = some b ∧ P b) ∨ i = l.length ∧ P a := by
  rcases Nat.lt_trichotomy i l.length with h | rfl | h
  · rw [List.getElem?_append_left h]
    simp [Nat.ne_of_lt h]
  · simp
  · have hin : l[i]? = none := List.getElem?_eq_none (by omega)
    have hout : (l ++ [a])[i]? = none := List.getElem?_eq_none (by simp; omega)
    simp [hin, hout, Nat.ne_of_gt h]

/-- What stands at a place behind a replacement is the new element there, and
elsewhere what stood there. -/
theorem exists_getElem?_set {α : Type} {l : List α} {a b : α} {P : α → Prop}
    (h : l[position]? = some a) :
    (∃ c, (l.set position b)[i]? = some c ∧ P c) ↔
      i = position ∧ P b ∨ i ≠ position ∧ ∃ c, l[i]? = some c ∧ P c := by
  obtain ⟨hlt, -⟩ := List.getElem?_eq_some_iff.1 h
  by_cases hi : i = position
  · subst hi
    simp [List.getElem?_set_self hlt]
  · rw [List.getElem?_set_ne (Ne.symm hi)]
    simp [hi]

/-- Which is not seen where the new element is like the old one. -/
theorem exists_getElem?_set_of_iff {α : Type} {l : List α} {a b : α} {P : α → Prop}
    (h : l[position]? = some a) (hlike : P b ↔ P a) :
    (∃ c, (l.set position b)[i]? = some c ∧ P c) ↔ ∃ c, l[i]? = some c ∧ P c := by
  rw [exists_getElem?_set h, hlike]
  by_cases hi : i = position
  · subst hi
    simp [h]
  · simp [hi]

/-- A place divides the list. -/
theorem exists_append_of_getElem? {α : Type} {l : List α} {a : α} (h : l[position]? = some a) :
    ∃ before after, l = before ++ a :: after ∧ before.length = position ∧
      ∀ b, l.set position b = before ++ b :: after := by
  obtain ⟨hlt, rfl⟩ := List.getElem?_eq_some_iff.1 h
  refine ⟨l.take position, l.drop (position + 1), ?_, ?_, fun b => ?_⟩
  · rw [List.getElem_cons_drop, List.take_append_drop]
  · rw [List.length_take]
    omega
  · exact List.set_eq_take_append_cons_drop.trans (if_pos hlt)

/-! ## Tables in step -/

/-- The tables say of the list what is there, and nothing else. -/
structure InStep (r : NamespaceRegister) : Prop where
  /-- A name is in the table at the place where its namespace stands. -/
  positions : ∀ name i, Keyed.find? name r.positions = some i ↔
    ∃ ns, r.namespaces[i]? = some ns ∧ ns.name = name
  /-- A member is in the table at the place where its owner stands. -/
  owners : ∀ x i, Keyed.find? x r.owners = some i ↔
    ∃ ns, r.namespaces[i]? = some ns ∧ x ∈ ns.members
  /-- No namespace lists a member twice. -/
  members_nodup : ∀ ns ∈ r.namespaces, ns.members.Nodup
  /-- There is an entry for each member. -/
  length_owners : r.owners.length = r.allMembers.length

theorem inStep_empty : InStep {} where
  positions name i := by simp [Keyed.find?]
  owners x i := by simp [Keyed.find?]
  members_nodup ns hns := absurd hns List.not_mem_nil
  length_owners := rfl

theorem find?_owners_of_contains (h : r.contains x = false) : Keyed.find? x r.owners = none := by
  rwa [contains, Option.isSome_eq_false_iff, Option.isNone_iff_eq_none] at h

theorem mem_allMembers : x ∈ r.allMembers ↔ ∃ ns ∈ r.namespaces, x ∈ ns.members :=
  List.mem_flatMap

namespace InStep

/-- Two places with one name are one. -/
theorem names_nodup (h : r.InStep) : (r.namespaces.map (·.name)).Nodup := by
  refine List.pairwise_map.2 (List.pairwise_iff_getElem.2 fun i j hi hj hlt heq => ?_)
  have hfirst := (h.positions _ i).2 ⟨_, List.getElem?_eq_getElem hi, heq⟩
  have hsecond := (h.positions _ j).2 ⟨_, List.getElem?_eq_getElem hj, rfl⟩
  have hsame := Option.some.inj (hfirst.symm.trans hsecond)
  omega

/-- Two places with one member are one. -/
theorem allMembers_nodup (h : r.InStep) : r.allMembers.Nodup := by
  refine List.nodup_flatMap.2 ⟨h.members_nodup, ?_⟩
  refine List.pairwise_iff_getElem.2 fun i j hi hj hlt x hx hx' => ?_
  have hfirst := (h.owners x i).2 ⟨_, List.getElem?_eq_getElem hi, hx⟩
  have hsecond := (h.owners x j).2 ⟨_, List.getElem?_eq_getElem hj, hx'⟩
  have hsame := Option.some.inj (hfirst.symm.trans hsecond)
  omega

/-! ## Answers -/

theorem get?_eq_some_iff (h : r.InStep) :
    r.get? name = some ns ↔ ns ∈ r.namespaces ∧ ns.name = name := by
  unfold get?
  rw [Option.bind_eq_bind, Option.bind_eq_some_iff]
  constructor
  · rintro ⟨i, hi, hns⟩
    obtain ⟨found, hfound, hname⟩ := (h.positions name i).1 hi
    obtain rfl := Option.some.inj (hfound.symm.trans hns)
    exact ⟨List.mem_of_getElem? hns, hname⟩
  · rintro ⟨hns, hname⟩
    obtain ⟨i, hi⟩ := List.getElem?_of_mem hns
    exact ⟨i, (h.positions name i).2 ⟨ns, hi, hname⟩, hi⟩

theorem owner?_eq_some_iff (h : r.InStep) :
    r.owner? x = some name ↔ ∃ ns ∈ r.namespaces, x ∈ ns.members ∧ ns.name = name := by
  unfold owner?
  simp only [Option.bind_eq_bind, Option.bind_eq_some_iff, Option.pure_def, Option.some.injEq]
  constructor
  · rintro ⟨i, hi, ns, hns, hname⟩
    obtain ⟨found, hfound, hx⟩ := (h.owners x i).1 hi
    obtain rfl := Option.some.inj (hfound.symm.trans hns)
    exact ⟨found, List.mem_of_getElem? hns, hx, hname⟩
  · rintro ⟨ns, hns, hx, hname⟩
    obtain ⟨i, hi⟩ := List.getElem?_of_mem hns
    exact ⟨i, (h.owners x i).2 ⟨ns, hi, hx⟩, ns, hi, hname⟩

theorem contains_iff (h : r.InStep) : r.contains x = true ↔ x ∈ r.allMembers := by
  rw [contains, Option.isSome_iff_exists, mem_allMembers]
  constructor
  · rintro ⟨i, hi⟩
    obtain ⟨ns, hns, hx⟩ := (h.owners x i).1 hi
    exact ⟨ns, List.mem_of_getElem? hns, hx⟩
  · rintro ⟨ns, hns, hx⟩
    obtain ⟨i, hi⟩ := List.getElem?_of_mem hns
    exact ⟨i, (h.owners x i).2 ⟨ns, hi, hx⟩⟩

/-- A member is listed by one namespace. -/
theorem owner_unique (h : r.InStep) (hns : ns ∈ r.namespaces) (hother : other ∈ r.namespaces)
    (hx : x ∈ ns.members) (hx' : x ∈ other.members) : ns = other := by
  obtain ⟨i, hi⟩ := List.getElem?_of_mem hns
  obtain ⟨j, hj⟩ := List.getElem?_of_mem hother
  have hfirst := (h.owners x i).2 ⟨ns, hi, hx⟩
  have hsecond := (h.owners x j).2 ⟨other, hj, hx'⟩
  obtain rfl := Option.some.inj (hfirst.symm.trans hsecond)
  exact Option.some.inj (hi.symm.trans hj)

theorem exists_owner? (h : r.InStep) (hx : r.contains x = true) :
    ∃ name, r.owner? x = some name := by
  obtain ⟨ns, hns, hmem⟩ := mem_allMembers.1 (h.contains_iff.1 hx)
  exact ⟨ns.name, h.owner?_eq_some_iff.2 ⟨ns, hns, hmem, rfl⟩⟩

theorem owner?_eq_none_iff (h : r.InStep) : r.owner? x = none ↔ r.contains x = false := by
  rw [← Bool.not_eq_true, h.contains_iff, mem_allMembers, Option.eq_none_iff_forall_not_mem]
  constructor
  · rintro hnone ⟨ns, hns, hx⟩
    exact hnone ns.name (h.owner?_eq_some_iff.2 ⟨ns, hns, hx, rfl⟩)
  · intro hnot name hname
    obtain ⟨ns, hns, hx, -⟩ := h.owner?_eq_some_iff.1 hname
    exact hnot ⟨ns, hns, hx⟩

end InStep

/-- What the register answers is what its list says. -/
structure Consistent (r : NamespaceRegister) : Prop where
  names_nodup : (r.namespaces.map (·.name)).Nodup
  get? : ∀ name ns, r.get? name = some ns ↔ ns ∈ r.namespaces ∧ ns.name = name
  /-- A member occurs once among the members of all namespaces. -/
  members_nodup : r.allMembers.Nodup
  owner? : ∀ x name, r.owner? x = some name ↔
    ∃ ns, (ns ∈ r.namespaces ∧ x ∈ ns.members ∧ ns.name = name) ∧
      ∀ other ∈ r.namespaces, x ∈ other.members → other = ns
  owner?_none : ∀ x, r.owner? x = none ↔ r.contains x = false
  contains : ∀ x, r.contains x = true ↔ x ∈ r.allMembers
  memberCount : r.memberCount = r.allMembers.length

theorem InStep.consistent (h : r.InStep) : r.Consistent where
  names_nodup := h.names_nodup
  get? _ _ := h.get?_eq_some_iff
  members_nodup := h.allMembers_nodup
  owner? x name := by
    rw [h.owner?_eq_some_iff]
    constructor
    · rintro ⟨ns, hns, hx, hname⟩
      exact ⟨ns, ⟨hns, hx, hname⟩, fun other hother hx' => h.owner_unique hother hns hx' hx⟩
    · rintro ⟨ns, ⟨hns, hx, hname⟩, -⟩
      exact ⟨ns, hns, hx, hname⟩
  owner?_none _ := h.owner?_eq_none_iff
  contains _ := h.contains_iff
  memberCount := h.length_owners

/-! ## Changes -/

theorem declare_of_position (h : Keyed.find? name r.positions = some position) :
    r.declare name = (r, position) := by
  rw [declare, h]

theorem declare_of_new (h : Keyed.find? name r.positions = none) :
    r.declare name = ({ r with
      namespaces := r.namespaces ++ [⟨name, []⟩]
      positions := Keyed.insert name r.namespaces.length r.positions }, r.namespaces.length) := by
  rw [declare, h]

theorem insert?_of_owner (h : r.owner? x = some name) :
    r.insert? position x = some (r, .error (.duplicateMember x name)) := by
  unfold owner? at h
  simp only [Option.bind_eq_bind, Option.bind_eq_some_iff, Option.pure_def,
    Option.some.injEq] at h
  obtain ⟨i, hi, owner, howner, rfl⟩ := h
  rw [insert?, hi]
  simp [howner]

theorem insert?_of_free (hx : Keyed.find? x r.owners = none)
    (hns : r.namespaces[position]? = some ns) :
    r.insert? position x = some ({ r with
      namespaces := r.namespaces.set position { ns with members := ns.members ++ [x] }
      owners := Keyed.insert x position r.owners }, .ok ()) := by
  rw [insert?, hx]
  simp [hns]

namespace InStep

/-- **Declaring a name keeps the tables in step.** -/
theorem declare (h : r.InStep) (name : String) : (r.declare name).1.InStep := by
  cases hname : Keyed.find? name r.positions with
  | some position =>
    rw [declare_of_position hname]
    exact h
  | none =>
    rw [declare_of_new hname]
    refine ⟨fun other i => ?_, fun x i => ?_, fun ns hns => ?_, ?_⟩
    · rw [exists_getElem?_concat, ← h.positions, Keyed.find?_insert]
      split
      · -- the name itself, which stood nowhere and stands at the end
        rename_i hother
        rw [hother, hname]
        simp [eq_comm]
      · rename_i hother
        simp [Ne.symm hother]
    · rw [exists_getElem?_concat, ← h.owners]
      simp
    · rcases List.mem_append.1 hns with hns | hns
      · exact h.members_nodup ns hns
      · rw [List.mem_singleton.1 hns]
        exact List.nodup_nil
    · simpa [allMembers] using h.length_owners

/-- **And so does inserting a member** that no namespace owns. -/
theorem insert (h : r.InStep) (hx : Keyed.find? x r.owners = none)
    (hns : r.namespaces[position]? = some ns) :
    InStep { r with
      namespaces := r.namespaces.set position { ns with members := ns.members ++ [x] }
      owners := Keyed.insert x position r.owners } := by
  refine ⟨fun name i => ?_, fun y i => ?_, fun other hother => ?_, ?_⟩
  · -- the namespace at the position keeps its name
    refine (h.positions name i).trans (exists_getElem?_set_of_iff hns ?_).symm
    exact Iff.rfl
  · rw [Keyed.find?_insert]
    split
    · -- the member itself, which no namespace has had
      rename_i hy
      rw [exists_getElem?_set hns, ← h.owners, hy, hx]
      simp [eq_comm]
    · rename_i hy
      rw [exists_getElem?_set_of_iff hns (by simp [hy])]
      exact h.owners y i
  · rcases List.mem_or_eq_of_mem_set hother with hother | rfl
    · exact h.members_nodup other hother
    · show (ns.members ++ [x]).Nodup
      have hfree : x ∉ ns.members := by
        intro hmem
        have hfound := (h.owners x position).2 ⟨ns, hns, hmem⟩
        exact nomatch hx.symm.trans hfound
      rw [← List.concat_eq_append]
      exact (h.members_nodup ns (List.mem_of_getElem? hns)).concat hfree
  · obtain ⟨before, after, hbefore, -, hset⟩ := exists_append_of_getElem? hns
    have hlength := h.length_owners
    show (Keyed.insert x position r.owners).length = _
    rw [Keyed.length_insert hx, hlength, allMembers, allMembers, hset, hbefore]
    simp
    omega

end InStep

/-! ## The map without tables -/

/-- The register answers as its map does, and goes on as it does. -/
structure AnswersAsMap (r : NamespaceRegister) : Prop where
  get? : ∀ name, r.get? name = r.toMap.get? name
  owner? : ∀ x, r.owner? x = r.toMap.owner? x
  contains : ∀ x, r.contains x = r.toMap.contains x
  memberCount : r.memberCount = r.toMap.memberCount
  declare : ∀ name, r.toMap.declare name = ((r.declare name).1.toMap, (r.declare name).2)
  insert : ∀ position ns x, r.namespaces[position]? = some ns →
    (r.insert? position x).map (fun (after, outcome) => outcome.map fun _ => after.toMap) =
      some (r.toMap.insert position x)

namespace InStep

theorem position?_toMap (h : r.InStep) (name : String) :
    r.toMap.position? name = Keyed.find? name r.positions := by
  refine Option.ext fun i => ?_
  show r.namespaces.findIdx? (·.name == name) = some i ↔ _
  rw [h.positions, List.findIdx?_eq_some_iff_getElem]
  constructor
  · rintro ⟨hi, hname, -⟩
    exact ⟨_, List.getElem?_eq_getElem hi, eq_of_beq hname⟩
  · rintro ⟨ns, hns, hname⟩
    obtain ⟨hi, rfl⟩ := List.getElem?_eq_some_iff.1 hns
    refine ⟨hi, beq_iff_eq.2 hname, fun j hj hsame => ?_⟩
    -- an earlier place with the name would be the one in the table
    have hfirst := (h.positions name j).2
      ⟨_, List.getElem?_eq_getElem (Nat.lt_trans hj hi), eq_of_beq hsame⟩
    have hsecond := (h.positions name i).2 ⟨_, hns, hname⟩
    have heq := Option.some.inj (hfirst.symm.trans hsecond)
    omega

theorem owner?_toMap (h : r.InStep) (x : String) : r.toMap.owner? x = r.owner? x := by
  rw [NamespaceMap.owner?]
  cases hfind : r.toMap.namespaces.find? (·.members.contains x) with
  | some ns =>
    have hx := List.find?_some (p := fun ns : Namespace => ns.members.contains x) hfind
    rw [Option.map_some, eq_comm, h.owner?_eq_some_iff]
    exact ⟨ns, List.mem_of_find?_eq_some hfind, List.contains_iff_mem.1 hx, rfl⟩
  | none =>
    rw [Option.map_none, eq_comm, Option.eq_none_iff_forall_not_mem]
    intro name hname
    obtain ⟨ns, hns, hx, -⟩ := h.owner?_eq_some_iff.1 hname
    exact List.find?_eq_none.1 hfind ns hns (List.contains_iff_mem.2 hx)

/-- **A register in step** does. -/
theorem answersAsMap (h : r.InStep) : r.AnswersAsMap where
  get? name := by
    refine Option.ext fun ns => ?_
    rw [h.get?_eq_some_iff, NamespaceMap.get?]
    exact (FirstOccurrences.find?_eq_some_iff_of_nodup h.names_nodup).symm
  owner? x := (h.owner?_toMap x).symm
  contains x := by
    rw [Bool.eq_iff_iff, h.contains_iff, mem_allMembers, NamespaceMap.contains, List.any_eq_true]
    simp only [List.contains_iff_mem]
    exact Iff.rfl
  memberCount := h.length_owners
  declare name := by
    rw [NamespaceMap.declare, h.position?_toMap]
    cases hname : Keyed.find? name r.positions with
    | some position => rw [declare_of_position hname]
    | none =>
      rw [declare_of_new hname]
      rfl
  insert position ns x hns := by
    rw [NamespaceMap.insert, h.owner?_toMap]
    cases howner : r.owner? x with
    | some owner =>
      rw [insert?_of_owner howner]
      rfl
    | none =>
      have hx := find?_owners_of_contains (h.owner?_eq_none_iff.1 howner)
      have hset :
          r.namespaces.modify position (fun ns => { ns with members := ns.members ++ [x] }) =
            r.namespaces.set position { ns with members := ns.members ++ [x] } := by
        rw [List.modify_eq_set_getElem?, hns]
        rfl
      rw [insert?_of_free hx hns]
      show _ = some (Except.ok (NamespaceMap.mk (r.namespaces.modify position _)))
      rw [hset]
      rfl

end InStep

end NamespaceRegister

end AttributeCache
