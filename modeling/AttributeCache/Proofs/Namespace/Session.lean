import AttributeCache.Proofs.Namespace.Register
/-!
# Calls on one register

Who works with a register holds positions, each of which `declare` has
returned on it. A `Session` is a register with all that it has returned. A
sequence of calls is warranted if each insertion in it is at a position
returned before it; nothing is asked of the members, so calls that are
refused are among them.

What carries over a call is `Session.Kept`: the tables are in step, and what
was returned for a name is what the table says of it. Such a session has an
answer to every warranted call. From there on each part is read off the
tables: what the register answers (`Consistent`), and what the next call
does to it (`Session.Lawful`).
-/

namespace AttributeCache

namespace NamespaceRegister

variable {r : NamespaceRegister} {name x : String} {position : Nat}

/-- A change that is asked for. -/
inductive Call where
  | declare (name : String)
  | insert (position : Nat) (member : String)
deriving DecidableEq

/-- A register, and the positions it has returned with the names it was asked
for. -/
structure Session where
  register : NamespaceRegister := {}
  returned : List (String × Nat) := []
deriving DecidableEq

namespace Session

variable {s : Session} {call : Call} {calls : List Call}

/-- The session after a call. A refused insertion is answered too. -/
def call? (s : Session) : Call → Option Session
  | .declare name =>
    some ⟨(s.register.declare name).1, s.returned ++ [(name, (s.register.declare name).2)]⟩
  | .insert position member =>
    (s.register.insert? position member).map fun answer => { s with register := answer.1 }

/-- The session after some calls, where all of them are answered. -/
def run? (s : Session) (calls : List Call) : Option Session :=
  calls.foldlM call? s

/-- An insertion is at a position that was returned. -/
def Allows (s : Session) : Call → Prop
  | .declare _ => True
  | .insert position _ => ∃ entry ∈ s.returned, entry.2 = position

instance : ∀ call, Decidable (s.Allows call)
  | .declare _ => .isTrue trivial
  | .insert position _ => inferInstanceAs (Decidable (∃ entry ∈ s.returned, entry.2 = position))

/-- Each call is allowed where it is made. -/
def Warranted (s : Session) : List Call → Prop
  | [] => True
  | call :: calls => s.Allows call ∧ ∀ after ∈ s.call? call, after.Warranted calls

instance decidableWarranted : ∀ (s : Session) calls, Decidable (s.Warranted calls)
  | _, [] => .isTrue trivial
  | s, call :: calls =>
    have := fun after => decidableWarranted after calls
    inferInstanceAs (Decidable (s.Allows call ∧ ∀ after ∈ s.call? call, after.Warranted calls))

/-! ## What carries over a call -/

/-- The tables are in step, and what was returned for a name is in them. -/
structure Kept (s : Session) : Prop where
  inStep : s.register.InStep
  returned : ∀ name position, (name, position) ∈ s.returned ↔
    Keyed.find? name s.register.positions = some position

theorem kept_empty : Kept {} where
  inStep := inStep_empty
  returned name position := by simp [Keyed.find?]

theorem Kept.standing (h : s.Kept) (hreturned : (name, position) ∈ s.returned) :
    ∃ ns, s.register.namespaces[position]? = some ns ∧ ns.name = name :=
  (h.inStep.positions name position).1 ((h.returned name position).1 hreturned)

/-- What `declare` returns is in the table behind it, and all else that is in
the table was. -/
theorem find?_positions_declare {other : String} {i : Nat} :
    Keyed.find? other (r.declare name).1.positions = some i ↔
      Keyed.find? other r.positions = some i ∨ other = name ∧ i = (r.declare name).2 := by
  cases hname : Keyed.find? name r.positions with
  | some position =>
    rw [declare_of_position hname]
    constructor
    · exact .inl
    · rintro (hi | ⟨rfl, rfl⟩)
      · exact hi
      · exact hname
  | none =>
    rw [declare_of_new hname]
    show Keyed.find? other (Keyed.insert name r.namespaces.length r.positions) = some i ↔
      _ ∨ other = name ∧ i = r.namespaces.length
    rw [Keyed.find?_insert]
    split
    · rename_i hother
      rw [hother, hname]
      simp [eq_comm]
    · rename_i hother
      simp [hother]

/-- **A session has an answer to what it allows**, and is kept by it. -/
theorem Kept.exists_call? (h : s.Kept) (hcall : s.Allows call) :
    ∃ after, s.call? call = some after ∧ after.Kept := by
  cases call with
  | declare name =>
    refine ⟨_, rfl, h.inStep.declare name, fun other i => ?_⟩
    rw [find?_positions_declare, ← h.returned, List.mem_append, List.mem_singleton, Prod.mk.injEq]
  | insert position x =>
    obtain ⟨⟨name, _⟩, hreturned, rfl⟩ := hcall
    obtain ⟨ns, hns, -⟩ := h.standing hreturned
    cases hcontains : s.register.contains x with
    | true =>
      -- it is refused, and nothing has changed
      obtain ⟨owner, howner⟩ := h.inStep.exists_owner? hcontains
      refine ⟨s, ?_, h⟩
      rw [call?, insert?_of_owner howner]
      rfl
    | false =>
      have hx := find?_owners_of_contains hcontains
      refine ⟨⟨_, s.returned⟩, ?_, h.inStep.insert hx hns, h.returned⟩
      rw [call?, insert?_of_free hx hns]
      rfl

/-- **And so it has to a warranted sequence**, up to any point of it. -/
theorem Kept.exists_run? (h : s.Kept) (hcalls : s.Warranted calls) (k : Nat) :
    ∃ after, s.run? (calls.take k) = some after ∧ after.Kept := by
  induction calls generalizing s k with
  | nil => exact ⟨s, by rw [List.take_nil]; rfl, h⟩
  | cons call calls ih =>
    cases k with
    | zero => exact ⟨s, rfl, h⟩
    | succ k =>
      obtain ⟨next, hnext, hkept⟩ := h.exists_call? hcalls.1
      obtain ⟨after, hafter, hkept⟩ := ih hkept (hcalls.2 next hnext) k
      refine ⟨after, ?_, hkept⟩
      show (s.call? call >>= fun next => next.run? (calls.take k)) = some after
      rw [hnext]
      exact hafter

/-! ## What the next call does -/

/-- What each call does to the register of a session. -/
structure Lawful (s : Session) : Prop where
  /-- The names that were declared are those of the namespaces. -/
  declared : ∀ name, (∃ position, (name, position) ∈ s.returned) ↔
    ∃ ns ∈ s.register.namespaces, ns.name = name
  /-- A known name changes nothing, and what it returned before is returned. -/
  declare_known : ∀ name position, (name, position) ∈ s.returned →
    s.register.declare name = (s.register, position)
  /-- An unknown name goes to the end. -/
  declare_new : ∀ name, (∀ position, (name, position) ∉ s.returned) →
    (s.register.declare name).1.namespaces = s.register.namespaces ++ [⟨name, []⟩] ∧
      (s.register.declare name).2 = s.register.namespaces.length
  /-- A member that is owned is refused, wherever it is to go. -/
  insert_owned : ∀ x owner position, s.register.owner? x = some owner →
    s.register.insert? position x = some (s.register, .error (.duplicateMember x owner))
  /-- A member that is not goes to the end of the one namespace. -/
  insert_free : ∀ x name position, s.register.contains x = false → (name, position) ∈ s.returned →
    ∃ after before ns behind, s.register.insert? position x = some (after, .ok ()) ∧
      s.register.namespaces = before ++ ns :: behind ∧
      before.length = position ∧ ns.name = name ∧
      after.namespaces = before ++ { ns with members := ns.members ++ [x] } :: behind

theorem Kept.lawful (h : s.Kept) : s.Lawful where
  declared name := by
    simp only [h.returned, h.inStep.positions]
    constructor
    · rintro ⟨i, ns, hns, hname⟩
      exact ⟨ns, List.mem_of_getElem? hns, hname⟩
    · rintro ⟨ns, hns, hname⟩
      obtain ⟨i, hi⟩ := List.getElem?_of_mem hns
      exact ⟨i, ns, hi, hname⟩
  declare_known name position hreturned :=
    declare_of_position ((h.returned name position).1 hreturned)
  declare_new name hnew := by
    have hname : Keyed.find? name s.register.positions = none := by
      refine Option.eq_none_iff_forall_ne_some.2 fun i hi => ?_
      exact hnew i ((h.returned name i).2 hi)
    rw [declare_of_new hname]
    exact ⟨rfl, rfl⟩
  insert_owned x owner position howner := insert?_of_owner howner
  insert_free x name position hcontains hreturned := by
    obtain ⟨ns, hns, hname⟩ := h.standing hreturned
    obtain ⟨before, behind, hbefore, hlength, hset⟩ := exists_append_of_getElem? hns
    exact ⟨_, before, ns, behind, insert?_of_free (find?_owners_of_contains hcontains) hns,
      hbefore, hlength, hname, hset _⟩

/-- **A warranted sequence of calls is answered**, and behind each of them the
register is consistent, answers as the map without tables does, and goes on
as it has to. -/
theorem consistent_throughout (hcalls : Warranted {} calls) (k : Nat) :
    ∃ s, run? {} (calls.take k) = some s ∧
      s.register.Consistent ∧ s.register.AnswersAsMap ∧ s.Lawful := by
  obtain ⟨s, hs, hkept⟩ := kept_empty.exists_run? hcalls k
  exact ⟨s, hs, hkept.inStep.consistent, hkept.inStep.answersAsMap, hkept.lawful⟩

/-- Two namespaces, one of them declared again, and a member that both are to
have. -/
def contested : List Call :=
  [.declare "store", .declare "stock", .insert 0 "store.Item", .declare "store",
    .insert 1 "store.Item", .insert 1 "stock.Item"]

/-- The member stays where it came first, and the calls behind it are
answered. -/
theorem consistent_contested : Warranted {} contested ∧
    run? {} (contested.take 5) = run? {} (contested.take 4) ∧
    ∃ s, run? {} (contested.take 5) = some s ∧
      s.register.Consistent ∧ s.register.AnswersAsMap ∧ s.Lawful := by
  have hwarranted : Warranted {} contested := by decide +kernel
  exact ⟨hwarranted, by decide +kernel, consistent_throughout hwarranted 5⟩

end Session

end NamespaceRegister

end AttributeCache
