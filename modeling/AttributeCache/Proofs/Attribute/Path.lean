import AttributeCache.Attribute.Definition
import AttributeCache.Entity
import AttributeCache.Proofs.Keyed
import AttributeCache.Proofs.Text.Pieces
import AttributeCache.Proofs.Text.Trim
/-!
# The path of an attribute

A definition writes the path of its attribute, paths are read with the
blanks around them taken off, and values are kept under the code as it is.
What is valid of a code makes the path a direct one to a dynamic attribute
(`parse_propertyPath`), but a code may end in blanks, and these are gone
when the path is read. So the path of a valid definition leads to the
attribute it declares exactly where the code does not end in a blank, and
only there are the paths of different codes different.
-/

namespace AttributeCache

variable {d d' : AttributeDefinition} {code : String} {path : PropertyPath}

/-! ## Valid definitions -/

namespace AttributeDefinition

/-- A definition is valid when it obeys every rule. -/
theorem validate_eq_ok_iff : d.validate = .ok () ↔ ∀ rule, d.obeys rule = true := by
  have hall : ∀ rule, rule ∈ rules := by
    intro rule
    cases rule <;> decide
  rw [validate]
  split
  · rename_i broken hbroken
    refine iff_of_false (by simp) fun h => ?_
    have hbreaks := List.find?_some hbroken
    rw [h broken] at hbreaks
    exact Bool.false_ne_true hbreaks
  · rename_i hnone
    refine iff_of_true rfl fun rule => ?_
    simpa using List.find?_eq_none.1 hnone rule (hall rule)

/-- The code of a valid definition is no blank text. -/
theorem code_ne_blank (h : d.validate = .ok ()) : Text.trimBoth d.code.toList ≠ [] := by
  have hgiven := validate_eq_ok_iff.1 h .codeGiven
  intro hnil
  rw [obeys, isBlankText, Text.trim, hnil] at hgiven
  exact absurd hgiven (by decide)

/-- And no point is in it. -/
theorem point_not_mem_code (h : d.validate = .ok ()) : '.' ∉ d.code.toList := by
  have hplain := validate_eq_ok_iff.1 h .codePlain
  rw [obeys, Bool.and_eq_true, Bool.not_eq_true'] at hplain
  intro hmem
  rw [List.contains_iff_mem.2 hmem] at hplain
  exact Bool.noConfusion hplain.1

end AttributeDefinition

/-! ## Paths to dynamic attributes -/

namespace PropertyPath

/-- The direct path to the dynamic attribute of a code. -/
def dynamic (code : String) : PropertyPath := ⟨dynamicMark.toString ++ code, []⟩

theorem dynamicCode?_first : dynamicCode? (dynamic code).first = some code := by
  simp [dynamic, dynamicCode?, dynamicMark]

theorem dynamic_inj {code' : String} : dynamic code = dynamic code' ↔ code = code' := by
  constructor
  · intro h
    have hcode := congrArg (fun path => dynamicCode? path.first) h
    simpa only [dynamicCode?_first, Option.some.injEq] using hcode
  · rintro rfl
    rfl

theorem valueAt?_dynamic (e : Entity) : e.valueAt? (dynamic code) = e.dynamicValue? code := by
  have hroot : e.root? (dynamic code).first = e.dynamicValue? code := by
    rw [Entity.root?, dynamicCode?_first]
  rw [Entity.valueAt?, hroot]
  cases e.dynamicValue? code <;> rfl

/-- What is set under a code is found at the path, on every entity. -/
def Addresses (path : PropertyPath) (code : String) : Prop :=
  ∀ (e : Entity) (v : Json.Value), (e.setDynamicValue code v).valueAt? path = some v

/-- A path to a dynamic attribute addresses its own code and no other. -/
theorem addresses_dynamic_iff {code' : String} : (dynamic code).Addresses code' ↔ code = code' := by
  simp only [Addresses, valueAt?_dynamic]
  constructor
  · intro h
    by_contra hne
    -- on an entity without dynamic attributes nothing is found under another code
    have hfound := h (.new "" "" .null) .null
    rw [Entity.dynamicValue?, Entity.setDynamicValue, Keyed.find?_insert_of_ne hne] at hfound
    exact nomatch hfound
  · rintro rfl e v
    exact Keyed.find?_insert_self

end PropertyPath

/-! ## The path a definition writes -/

namespace AttributeDefinition

open PropertyPath

theorem toList_propertyPath : d.propertyPath.toList = '+' :: d.code.toList := by
  simp [propertyPath, dynamicMark]

/-- **What the path of a valid definition is read as**: the direct path to
the code without the blanks it ends with. -/
theorem parse_propertyPath (h : d.validate = .ok ()) :
    PropertyPath.parse d.propertyPath = .ok (dynamic (Text.trimEnd d.code)) := by
  have hcode := Text.rdropWhile_ne_nil (code_ne_blank h)
  -- the mark in front is no blank, so the path is trimmed at its end only
  have htrim : Text.trim d.propertyPath = dynamicMark.toString ++ Text.trimEnd d.code := by
    rw [← String.toList_inj, Text.toList_trim, toList_propertyPath, Text.trimBoth_cons rfl]
    simp [dynamicMark]
  have hlist : (Text.trim d.propertyPath).toList = '+' :: (Text.trimEnd d.code).toList := by
    rw [htrim]
    simp [dynamicMark]
  have hpieces : Text.pieces '.' (Text.trim d.propertyPath) = [Text.trim d.propertyPath] := by
    refine Text.pieces_eq_singleton fun hmem => ?_
    rw [hlist, List.mem_cons, Text.toList_trimEnd] at hmem
    rcases hmem with hmem | hmem
    · exact absurd hmem (by decide)
    · exact point_not_mem_code h ((List.rdropWhile_prefix _ _).subset hmem)
  have htwice : Text.trim (Text.trim d.propertyPath) = Text.trim d.propertyPath := by
    rw [← String.toList_inj, Text.toList_trim, hlist, Text.trimBoth_cons rfl,
      Text.toList_trimEnd, List.rdropWhile_idempotent]
  have hempty : (Text.trim d.propertyPath).isEmpty = false := by
    rw [String.isEmpty_eq_false_iff]
    intro hnil
    rw [hnil] at hlist
    exact nomatch hlist
  have hnamed : Text.trim d.propertyPath ≠ "+" := by
    intro hbare
    rw [hbare, Text.toList_trimEnd] at hlist
    exact hcode (List.cons.inj hlist).2.symm
  rw [PropertyPath.parse]
  simp only [hpieces, hempty, htwice, List.map_cons, List.map_nil, List.any_cons, List.any_nil,
    Bool.or_false, Bool.false_eq_true, if_false, if_neg hnamed]
  rw [htrim, dynamic]

/-- **Where the path of a valid definition leads.** It is read as a direct
path to one dynamic attribute: that of the code without the blanks the code
ends with. So it leads to the attribute the definition declares exactly
where the code does not end in a blank, and two valid definitions have one
path exactly where their codes differ in such blanks at most. -/
theorem propertyPath_addresses (d : AttributeDefinition) (h : d.validate = .ok ()) :
    ∃ path, PropertyPath.parse d.propertyPath = .ok path ∧ path.isDirect = true ∧
      path.Addresses (Text.trimEnd d.code) ∧
      (path.Addresses d.code ↔ Text.trimEnd d.code = d.code) ∧
      ∀ d' : AttributeDefinition, d'.validate = .ok () →
        (PropertyPath.parse d'.propertyPath = .ok path ↔
          Text.trimEnd d'.code = Text.trimEnd d.code) := by
  refine ⟨_, parse_propertyPath h, rfl, addresses_dynamic_iff.2 rfl, addresses_dynamic_iff,
    fun d' h' => ?_⟩
  rw [parse_propertyPath h', Except.ok.injEq, dynamic_inj]

/-- A code with blanks in it, but none at its end, is what the path leads
to. -/
theorem propertyPath_addresses_inner_blank :
    (plain .integer "Order" " net weight").validate = .ok () ∧
      ∃ path, PropertyPath.parse (plain .integer "Order" " net weight").propertyPath = .ok path ∧
        path.isDirect = true ∧ path.Addresses " net weight" := by
  have hvalid : (plain .integer "Order" " net weight").validate = .ok () := by decide +kernel
  obtain ⟨path, hparse, hdirect, -, hiff, -⟩ := propertyPath_addresses _ hvalid
  exact ⟨hvalid, path, hparse, hdirect, hiff.2 (by decide +kernel)⟩

/-- **Not every valid definition has a path of its own.** A code that ends
in a blank is valid, and its path is that of the code without the blank. -/
theorem not_always_addressed :
    ¬ ∀ d : AttributeDefinition, d.validate = .ok () →
      ∃ path, PropertyPath.parse d.propertyPath = .ok path ∧ path.isDirect = true ∧
        path.Addresses d.code ∧
        ∀ d' : AttributeDefinition, d'.validate = .ok () → d'.code ≠ d.code →
          PropertyPath.parse d'.propertyPath ≠ .ok path := by
  intro h
  let rating : AttributeDefinition := plain .integer "Order" "rating "
  have hvalid : rating.validate = .ok () := by decide +kernel
  obtain ⟨path, hparse, -, haddresses, -⟩ := h rating hvalid
  rw [parse_propertyPath hvalid, Except.ok.injEq] at hparse
  rw [← hparse, addresses_dynamic_iff] at haddresses
  exact absurd haddresses (by decide +kernel)

end AttributeDefinition

end AttributeCache
