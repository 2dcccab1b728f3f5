import AttributeCache.NodeId.Json
import AttributeCache.Proofs.Text.Decimal
import AttributeCache.Proofs.Text.Pieces
/-!
# Node identities come back from their text

The hyphens stand between groups of digits and nowhere else, so cutting at
them gives the groups back, and the groups hold all the digits.
-/

namespace AttributeCache.NodeId

open Text

variable {lengths : List Nat} {digits : List Char}

/-! ## Groups of digits -/

theorem flatten_group : (group lengths digits).flatten = digits.take lengths.sum := by
  induction lengths generalizing digits with
  | nil => simp [group]
  | cons n rest ih => rw [group, List.flatten_cons, ih, List.sum_cons, List.take_add]

theorem map_length_group (h : lengths.sum ≤ digits.length) :
    (group lengths digits).map List.length = lengths := by
  induction lengths generalizing digits with
  | nil => rfl
  | cons n rest ih =>
    rw [List.sum_cons] at h
    rw [group, List.map_cons, ih (by rw [List.length_drop]; omega), List.length_take]
    congr 1
    omega

theorem mem_of_mem_group {part : List Char} {c : Char} (h : part ∈ group lengths digits)
    (hc : c ∈ part) : c ∈ digits := by
  induction lengths generalizing digits with
  | nil => exact absurd h List.not_mem_nil
  | cons n rest ih =>
    rw [group] at h
    rcases List.mem_cons.1 h with rfl | h
    · exact List.mem_of_mem_take hc
    · exact List.mem_of_mem_drop (ih h)

/-! ## The hyphenated form -/

/-- The text cut at its hyphens. -/
theorem splitWhere_text (node : NodeId) :
    splitWhere (· == '-') node.text.toList = group groups (hexDigits 32 node.bits.toNat) := by
  have hpieces : pieces '-' node.text =
      (group groups (hexDigits 32 node.bits.toNat)).map String.ofList := by
    refine pieces_join rfl (List.cons_ne_nil _ _) fun x hx => ?_
    obtain ⟨part, hpart, rfl⟩ := List.mem_map.1 hx
    rw [String.toList_ofList]
    intro hc
    -- no digit is a hyphen
    obtain ⟨d, -, heq⟩ := exists_of_mem_hexDigits (mem_of_mem_group hpart hc)
    exact Nat.digitChar_ne '-' (by decide) heq.symm
  have hlists := congrArg (List.map String.toList) hpieces
  rw [pieces, List.map_map, List.map_map] at hlists
  simpa using hlists

/-- The digits of a name, all of them in the groups. -/
theorem flatten_groups (node : NodeId) :
    (group groups (hexDigits 32 node.bits.toNat)).flatten = hexDigits 32 node.bits.toNat := by
  rw [flatten_group]
  exact List.take_of_length_le (Nat.le_of_eq length_hexDigits)

theorem length_text (node : NodeId) : node.text.toList.length = 36 := by
  have hlength := length_splitWhere (p := (· == '-')) (s := node.text.toList)
  rw [splitWhere_text, flatten_groups, length_hexDigits] at hlength
  have hgroups : (group groups (hexDigits 32 node.bits.toNat)).length = 5 := rfl
  omega

/-- **A node's name comes back from its text.** -/
theorem parse?_text (node : NodeId) : parse? node.text = some node := by
  have hparts : (group groups (hexDigits 32 node.bits.toNat)).map List.length = groups :=
    map_length_group (Nat.le_of_eq length_hexDigits.symm)
  have hvalue : readHex? (hexDigits 32 node.bits.toNat) = some node.bits.toNat :=
    readHex?_hexDigits node.bits.isLt
  have hlength := length_text node
  unfold parse? read?
  -- the length is that of the hyphenated form and of no other
  rw [if_neg (by omega), if_pos hlength, ofGroups?, splitWhere_text]
  simp only [hparts, if_true, flatten_groups]
  rw [ofDigits?, if_pos length_hexDigits, hvalue, Option.map_some, BitVec.ofNat_toNat,
    BitVec.setWidth_eq]

theorem ofTree_text (node : NodeId) : ofTree (.text (some node.text)) = .ok node := by
  unfold ofTree
  simp only [Json.Tree.asString, bind, Except.bind, parse?_text]
  rfl

end AttributeCache.NodeId
