import AttributeCache.Proofs.Attribute.Path
import AttributeCache.Proofs.Cache.Building
/-!
# Definitions and the types they declare

A type asks for options, for a target, or for neither, and that a definition
has just these is what it means to fit its type (`FitsType`). What is
checked comes close (`Checked`): what a type asks for is there, and types
that ask for neither get neither. Three things slip through (`Misfit`), as
the two types that ask for something are not kept apart and a default is
looked up among the options only where it is a string.
-/

namespace AttributeCache

namespace AttributeDefinition

variable {d : AttributeDefinition}

/-- Options and target are those of the type, and the default of an
enumeration is one of its options. -/
structure FitsType (d : AttributeDefinition) : Prop where
  options_iff : (∃ options, d.options = some options ∧ options ≠ []) ↔
    d.valueType = .enumeration
  target_iff : (∃ target, d.target = some target ∧ Text.trim target ≠ "") ↔
    d.valueType = .entity
  default_mem : d.valueType = .enumeration → ∀ v, d.default = some v →
    ∃ options s, d.options = some options ∧ s ∈ options ∧ v = .string s

/-- What is checked of options, target and default. -/
structure Checked (d : AttributeDefinition) : Prop where
  options_given : d.valueType = .enumeration → ∃ options, d.options = some options ∧ options ≠ []
  target_given : d.valueType = .entity → ∃ target, d.target = some target ∧ Text.trim target ≠ ""
  options_allowed : ∀ options, d.options = some options →
    d.valueType = .enumeration ∨ d.valueType = .entity
  target_allowed : ∀ target, d.target = some target →
    d.valueType = .enumeration ∨ d.valueType = .entity
  default_mem : d.valueType = .enumeration → ∀ s options, d.default = some (.string s) →
    d.options = some options → s ∈ options

/-- What is not checked. -/
inductive Misfit (d : AttributeDefinition) : Prop
  /-- An enumeration with a target. -/
  | target {target : String} : d.valueType = .enumeration → d.target = some target →
      Text.trim target ≠ "" → Misfit d
  /-- An entity attribute with options. -/
  | options {options : List String} : d.valueType = .entity → d.options = some options →
      options ≠ [] → Misfit d
  /-- An enumeration whose default is no string. -/
  | default {v : Json.Value} : d.valueType = .enumeration → d.default = some v →
      (∀ s, v ≠ .string s) → Misfit d

/-- **A definition that is checked fits its type unless it is one of
these.** -/
theorem fitsType_iff (h : d.Checked) : d.FitsType ↔ ¬ d.Misfit := by
  constructor
  · rintro hfits (⟨htype, htarget, hblank⟩ | ⟨htype, hoptions, hnil⟩ | ⟨htype, hdefault, hstring⟩)
    · exact absurd (htype.symm.trans (hfits.target_iff.1 ⟨_, htarget, hblank⟩)) (by decide)
    · exact absurd (htype.symm.trans (hfits.options_iff.1 ⟨_, hoptions, hnil⟩)) (by decide)
    · obtain ⟨_, s, -, -, hs⟩ := hfits.default_mem htype _ hdefault
      exact hstring s hs
  · intro hmisfit
    refine ⟨⟨?_, h.options_given⟩, ⟨?_, h.target_given⟩, fun htype v hv => ?_⟩
    · rintro ⟨options, hoptions, hnil⟩
      exact (h.options_allowed _ hoptions).resolve_right fun htype =>
        hmisfit (.options htype hoptions hnil)
    · rintro ⟨target, htarget, hblank⟩
      exact (h.target_allowed _ htarget).resolve_left fun htype =>
        hmisfit (.target htype htarget hblank)
    · obtain ⟨options, hoptions, -⟩ := h.options_given htype
      by_contra hnone
      refine hmisfit (.default htype hv fun s hs => hnone ?_)
      exact ⟨options, s, hoptions, h.default_mem htype s options (hs ▸ hv) hoptions, hs⟩

/-! ## What valid definitions are checked for -/

/-- What one type asks for is there where it is of that type. -/
theorem given_iff {α : Type} {valueType asking : ValueType} {field : Option α} {p : α → Bool} :
    (valueType != asking || field.any p) = true ↔
      (valueType = asking → ∃ x, field = some x ∧ p x = true) := by
  rw [Bool.or_eq_true, bne_iff_ne, ← imp_iff_not_or, Option.any_eq_true]

/-- And it is there only where it is of a type that asks for something. -/
theorem allowed_iff {α : Type} {valueType : ValueType} {field : Option α} :
    (valueType == .enumeration || valueType == .entity || field.isNone) = true ↔
      ∀ x, field = some x → valueType = .enumeration ∨ valueType = .entity := by
  cases field <;> simp

theorem obeys_optionsGiven_iff : d.obeys .optionsGiven = true ↔
    (d.valueType = .enumeration → ∃ options, d.options = some options ∧ options ≠ []) := by
  rw [obeys, given_iff]
  simp only [Bool.not_eq_true', List.isEmpty_eq_false_iff]

theorem obeys_targetGiven_iff : d.obeys .targetGiven = true ↔
    (d.valueType = .entity → ∃ target, d.target = some target ∧ Text.trim target ≠ "") := by
  rw [obeys, given_iff]
  simp only [isBlankText, Bool.not_eq_true', String.isEmpty_eq_false_iff]

theorem obeys_defaultAmongOptions_iff : d.obeys .defaultAmongOptions = true ↔
    (d.valueType = .enumeration → ∀ s options, d.default = some (.string s) →
      d.options = some options → s ∈ options) := by
  rw [obeys]
  split
  · rename_i s options htype hdefault hoptions
    simp [htype, hdefault, hoptions]
  · rename_i hother
    refine iff_of_true rfl fun htype s options hdefault hoptions => ?_
    exact absurd hoptions (hother s options htype hdefault)

/-- **A definition is valid where it has a code and an entity type and is
checked.** -/
theorem validate_eq_ok_iff_checked : d.validate = .ok () ↔
    (d.obeys .codeGiven ∧ d.obeys .codePlain ∧ d.obeys .entityTypeGiven) ∧ d.Checked := by
  rw [validate_eq_ok_iff]
  constructor
  · intro h
    exact ⟨⟨h .codeGiven, h .codePlain, h .entityTypeGiven⟩,
      obeys_optionsGiven_iff.1 (h .optionsGiven), obeys_targetGiven_iff.1 (h .targetGiven),
      allowed_iff.1 (h .optionsAllowed), allowed_iff.1 (h .targetAllowed),
      obeys_defaultAmongOptions_iff.1 (h .defaultAmongOptions)⟩
  · rintro ⟨⟨hcode, hplain, htype⟩, hchecked⟩ (_ | _ | _ | _ | _ | _ | _ | _)
    · exact hcode
    · exact hplain
    · exact htype
    · exact obeys_optionsGiven_iff.2 hchecked.options_given
    · exact obeys_targetGiven_iff.2 hchecked.target_given
    · exact allowed_iff.2 hchecked.options_allowed
    · exact allowed_iff.2 hchecked.target_allowed
    · exact obeys_defaultAmongOptions_iff.2 hchecked.default_mem

end AttributeDefinition

/-! ## What an index holds -/

namespace AttributeIndex

open AttributeDefinition

variable {m : NamespaceMap} {index : AttributeIndex} {d : AttributeDefinition}
variable {ds : List AttributeDefinition} {x : String × List AttributeDefinition}

/-- Each definition an index is built of is held, and none else. -/
theorem exists_group_iff (h : build m ds = .ok index) : (∃ x ∈ index.groups, d ∈ x.2) ↔ d ∈ ds := by
  obtain ⟨haccepted, rfl⟩ := build_eq_ok_iff.1 h
  rw [← haccepted.flatMap_groups_perm.mem_iff, List.mem_flatMap]

/-- **Every definition that an index holds is checked, and fits its type
unless it is a misfit**: an enumeration with a target, an entity attribute
with options, or an enumeration whose default is no string. -/
theorem held_fitsType_iff (h : build m ds = .ok index) (hx : x ∈ index.groups) (hd : d ∈ x.2) :
    d.Checked ∧ (d.FitsType ↔ ¬ d.Misfit) := by
  have hmem : d ∈ ds := (exists_group_iff h).1 ⟨x, hx, hd⟩
  have hvalid : d.validate = .ok () := (build_eq_ok_iff.1 h).1.valid d hmem
  have hchecked : d.Checked := (validate_eq_ok_iff_checked.1 hvalid).2
  exact ⟨hchecked, fitsType_iff hchecked⟩

/-- An enumeration with one of its options for a default. -/
def priority : AttributeDefinition :=
  { AttributeDefinition.enumeration "app.Order" "priority" ["low", "high"] with
    default := some (.string "low") }

/-- It is held and fits its type. -/
theorem held_fitsType_priority :
    ∃ index, build shopTypes [priority] = .ok index ∧
      ∃ x ∈ index.groups, priority ∈ x.2 ∧ priority.FitsType := by
  have haccepted : Accepted shopTypes [priority] :=
    ⟨by decide +kernel, by decide +kernel, by decide +kernel⟩
  have hbuild := build_eq_ok_iff.2 ⟨haccepted, rfl⟩
  obtain ⟨x, hx, hd⟩ := (exists_group_iff hbuild).2 (List.mem_singleton_self priority)
  refine ⟨_, hbuild, x, hx, hd, (held_fitsType_iff hbuild hx hd).2.2 ?_⟩
  rintro (⟨-, htarget, -⟩ | ⟨htype, -, -⟩ | ⟨-, hdefault, hstring⟩)
  · exact nomatch htarget
  · exact nomatch htype
  · exact hstring "low" (Option.some.inj hdefault).symm

/-- An enumeration with a number for a default, one with a target, and an
entity attribute with options. -/
def misfits : List AttributeDefinition :=
  [{ AttributeDefinition.enumeration "app.Order" "size" ["small", "large"] with
      default := some (.number (.ofUInt32 5)) },
    { AttributeDefinition.enumeration "app.Order" "state" ["open"] with
      target := some "app.User" },
    { AttributeDefinition.reference "app.Order" "buyer" "app.User" with
      options := some ["first"] }]

/-- **Not every definition that an index holds fits its type.** None of
these does, and an index is built of them. -/
theorem not_always_fitsType :
    ∃ index, build shopTypes misfits = .ok index ∧
      ∀ d ∈ misfits, (∃ x ∈ index.groups, d ∈ x.2) ∧ ¬ d.FitsType := by
  have haccepted : Accepted shopTypes misfits :=
    ⟨by decide +kernel, by decide +kernel, by decide +kernel⟩
  have hbuild := build_eq_ok_iff.2 ⟨haccepted, rfl⟩
  have hmisfit : ∀ d ∈ misfits, d.Misfit := by
    rw [misfits, List.forall_mem_cons, List.forall_mem_cons, List.forall_mem_singleton]
    refine ⟨.default rfl rfl fun s => ?_, .target rfl rfl ?_, .options rfl rfl ?_⟩
    · exact nofun
    · decide +kernel
    · exact List.cons_ne_nil _ _
  refine ⟨_, hbuild, fun d hd => ⟨(exists_group_iff hbuild).2 hd, fun hfits => ?_⟩⟩
  have hchecked := (validate_eq_ok_iff_checked.1 (haccepted.valid d hd)).2
  exact (fitsType_iff hchecked).1 hfits (hmisfit d hd)

end AttributeIndex

end AttributeCache
