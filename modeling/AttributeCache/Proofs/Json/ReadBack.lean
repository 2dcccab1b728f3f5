import AttributeCache.Proofs.Json.RoundTrip
/-!
# Which numbers are read back

A numeral is read the same whatever stops it (`readNumeral_append`), so
whether a number is read back can be told from its text alone
(`readsBack_iff`), and for a given value can be computed. Integers all are.
A double need not be: the nearest significand and the power of ten are each
rounded before they are multiplied or divided, and for some doubles the
result is the one beside.
-/

namespace AttributeCache.Json

variable {s rest : Input} {n : Number}

/-! ## What stops a numeral -/

theorem readDigits_append_of_stops (h : Stops rest) :
    readDigits (s ++ rest) = ((readDigits s).1, (readDigits s).2 ++ rest) := by
  induction s with
  | nil => exact readDigits_append (List.forall_mem_nil _) h
  | cons c s ih =>
    simp only [readDigits, Prod.mk.injEq] at ih
    cases hc : Option.any Char.isDigit c with
    | true =>
      simp only [readDigits, List.cons_append, List.takeWhile_cons, List.dropWhile_cons, hc,
        if_true, List.filterMap_cons, ih]
    | false => simp [readDigits, hc]

/-- What does not begin with a character does not with something behind it
either, unless that is a character that stops. -/
theorem append_ne_cons {c : Char} (hc : c ∉ [',', ']', '\x7d']) (h : Stops rest)
    (hs : ∀ after, s ≠ some c :: after) (after : Input) : s ++ rest ≠ some c :: after := by
  cases s with
  | nil =>
    rcases h with rfl | ⟨d, others, rfl, hd⟩
    · exact fun he => nomatch he
    · intro he
      exact hc (Option.some.inj (List.cons.inj he).1 ▸ hd)
  | cons d s =>
    intro he
    exact hs s (by rw [(List.cons.inj he).1])

theorem readFraction_append (h : Stops rest) :
    readFraction (s ++ rest) = (readFraction s).map (Prod.map id (· ++ rest)) := by
  by_cases hpoint : ∃ after, s = some '.' :: after
  · obtain ⟨after, rfl⟩ := hpoint
    rw [List.cons_append, readFraction.eq_1, readFraction.eq_1, readDigits_append_of_stops h]
    dsimp only
    split <;> rfl
  · have hs : ∀ after, s ≠ some '.' :: after := fun after he => hpoint ⟨after, he⟩
    rw [readFraction.eq_2 _ (append_ne_cons (by decide) h hs), readFraction.eq_2 _ hs]
    rfl

theorem readExponent_append (h : Stops rest) :
    readExponent (s ++ rest) = (readExponent s).map (Prod.map id (· ++ rest)) := by
  have hdigits : ∀ (negative : Bool) (s : Input),
      (if (readDigits (s ++ rest)).1.isEmpty then none
        else some (some (negative, (readDigits (s ++ rest)).1), (readDigits (s ++ rest)).2)) =
      (if (readDigits s).1.isEmpty then none
        else some (some (negative, (readDigits s).1), (readDigits s).2)).map
          (Prod.map id (· ++ rest)) := by
    intro negative s
    rw [readDigits_append_of_stops h]
    dsimp only
    split <;> rfl
  cases s with
  | nil => exact readExponent_of_stops h
  | cons c s =>
    cases c with
    | none => rfl
    | some c =>
      rw [List.cons_append]
      by_cases hminus : ∃ after, s = some '-' :: after
      · obtain ⟨after, rfl⟩ := hminus
        rw [List.cons_append, readExponent.eq_1, readExponent.eq_1]
        split
        · exact hdigits _ _
        · rfl
      · by_cases hplus : ∃ after, s = some '+' :: after
        · obtain ⟨after, rfl⟩ := hplus
          rw [List.cons_append, readExponent.eq_2, readExponent.eq_2]
          split
          · exact hdigits _ _
          · rfl
        · have hs : ∀ after, s ≠ some '-' :: after := fun after he => hminus ⟨after, he⟩
          have hs' : ∀ after, s ≠ some '+' :: after := fun after he => hplus ⟨after, he⟩
          rw [readExponent.eq_3 _ _ (append_ne_cons (by decide) h hs)
            (append_ne_cons (by decide) h hs'), readExponent.eq_3 _ _ hs hs']
          split
          · exact hdigits _ _
          · rfl

/-- **A numeral is read the same, whatever stops it.** -/
theorem readNumeral_append (h : Stops rest) :
    readNumeral (s ++ rest) = (readNumeral s).map (Prod.map id (· ++ rest)) := by
  have hbehind : ∀ (negative : Bool) (whole : List Char) (s : Input),
      (do
        let x ← readFraction (s ++ rest)
        let y ← readExponent x.2
        return (⟨negative, whole, x.1, y.1⟩, y.2) : Option (Numeral × Input)) =
      (do
        let x ← readFraction s
        let y ← readExponent x.2
        return (⟨negative, whole, x.1, y.1⟩, y.2) : Option (Numeral × Input)).map
          (Prod.map id (· ++ rest)) := by
    intro negative whole s
    rw [readFraction_append h]
    cases readFraction s with
    | none => rfl
    | some x =>
      obtain ⟨fraction, s⟩ := x
      change (readExponent (s ++ rest) >>= _) = (readExponent s >>= _).map _
      rw [readExponent_append h]
      cases readExponent s <;> rfl
  by_cases hminus : ∃ after, s = some '-' :: after
  · obtain ⟨after, rfl⟩ := hminus
    rw [List.cons_append, readNumeral.eq_1, readNumeral.eq_1, readDigits_append_of_stops h]
    dsimp only
    split
    · rfl
    · exact hbehind _ _ _
  · have hs : ∀ after, s ≠ some '-' :: after := fun after he => hminus ⟨after, he⟩
    rw [readNumeral.eq_2 _ (append_ne_cons (by decide) h hs), readNumeral.eq_2 _ hs,
      readDigits_append_of_stops h]
    dsimp only
    split
    · rfl
    · exact hbehind _ _ _

/-- A numeral begins with a sign or a digit. -/
theorem head_of_readNumeral (h : (readNumeral s).isSome = true) :
    ∃ c after, s = some c :: after ∧ (c = '-' ∨ c.isDigit = true) := by
  by_cases hminus : ∃ after, s = some '-' :: after
  · obtain ⟨after, rfl⟩ := hminus
    exact ⟨'-', after, rfl, .inl rfl⟩
  · rw [readNumeral.eq_2 _ fun after he => hminus ⟨after, he⟩] at h
    cases s with
    | nil => exact absurd h (by decide)
    | cons c s =>
      cases hc : Option.any Char.isDigit c with
      | true =>
        obtain ⟨c, rfl, hdigit⟩ := (Option.any_eq_true _ _).1 hc
        exact ⟨c, s, rfl, .inr hdigit⟩
      | false =>
        have hnone : readDigits (c :: s) = ([], c :: s) := by simp [readDigits, hc]
        rw [hnone] at h
        exact absurd h Bool.false_ne_true

/-- **A number is read back if its text is a numeral for it.** -/
theorem readsBack_iff :
    ReadsBack n ↔ ∃ m, readNumeral (n.chars.map some) = some (m, []) ∧ m.value? = some n := by
  constructor
  · intro h
    obtain ⟨c, cs, hcs, hc⟩ := h.head
    have hread := h.read [] (.inl rfl)
    rw [List.append_nil, hcs, List.map_cons, readScalar_of_head hc, Option.map_eq_some_iff] at hread
    obtain ⟨⟨m, after⟩, hm, hvalue⟩ := hread
    simp only [Prod.mk.injEq, Tree.number.injEq] at hvalue
    rw [hcs, List.map_cons]
    exact ⟨m, hvalue.2 ▸ hm, hvalue.1⟩
  · rintro ⟨m, hm, hvalue⟩
    obtain ⟨c, after, hchars, hc⟩ := head_of_readNumeral (s := n.chars.map some) (by rw [hm]; rfl)
    refine ⟨?_, fun rest hrest => ?_⟩
    · cases hcs : n.chars with
      | nil =>
        rw [hcs] at hchars
        exact nomatch hchars
      | cons c' cs =>
        rw [hcs, List.map_cons, List.cons.injEq, Option.some.injEq] at hchars
        exact ⟨c', cs, rfl, hchars.1 ▸ hc⟩
    · have hread := readNumeral_append (s := n.chars.map some) hrest
      rw [hm, hchars, List.cons_append] at hread
      rw [hchars, List.cons_append, readScalar_of_head hc, hread]
      simp only [Option.map_some, Prod.map, id, hvalue, List.nil_append]

/-! ## Telling it -/

/-- Whether a number is read back. -/
def isReadBack (n : Number) : Bool :=
  match readNumeral (n.chars.map some) with
  | some (m, []) => m.value? = some n
  | _ => false

theorem isReadBack_iff : isReadBack n = true ↔ ReadsBack n := by
  rw [readsBack_iff, isReadBack]
  split
  · rename_i m hm
    rw [decide_eq_true_iff]
    constructor
    · exact fun hvalue => ⟨m, hm, hvalue⟩
    · rintro ⟨m', hm', hvalue⟩
      rw [hm] at hm'
      rwa [(Prod.mk.inj (Option.some.inj hm')).1]
  · rename_i hnot
    refine iff_of_false Bool.false_ne_true ?_
    rintro ⟨m, hm, -⟩
    exact hnot m hm

instance : DecidablePred ReadsBack := fun _ => decidable_of_iff _ isReadBack_iff

namespace Value

mutual
/-- Whether every number in a value is read back. -/
def decideReadsBack : (v : Value) → Decidable v.ReadsBack
  | .number n => inferInstanceAs (Decidable (Json.ReadsBack n))
  | .array items => decideItemsReadBack items
  | .object fields => decideFieldsReadBack fields
  | .null | .bool _ | .string _ => .isTrue trivial

/-- Item by item. -/
def decideItemsReadBack : (items : List Value) → Decidable (ItemsReadBack items)
  | [] => .isTrue trivial
  | v :: rest =>
    have := v.decideReadsBack
    have := decideItemsReadBack rest
    inferInstanceAs (Decidable (v.ReadsBack ∧ ItemsReadBack rest))

/-- Field by field. -/
def decideFieldsReadBack : (fields : List (String × Value)) → Decidable (FieldsReadBack fields)
  | [] => .isTrue trivial
  | (_, v) :: rest =>
    have := v.decideReadsBack
    have := decideFieldsReadBack rest
    inferInstanceAs (Decidable (v.ReadsBack ∧ FieldsReadBack rest))
end

instance : DecidablePred ReadsBack := decideReadsBack

end Value

/-- **Not every double is read back.** The one this numeral is read as is
written in its shortest form, and that is read as a double beside it. -/
theorem exists_not_readsBack :
    ∃ m n, readNumeral (Input.ofText "9.87654321e-25") = some (m, []) ∧ m.value? = some n ∧
      ¬ ReadsBack n := by
  have hread : ((readNumeral (Input.ofText "9.87654321e-25")).any fun x =>
      x.2.isEmpty && x.1.value?.any fun n => !isReadBack n) = true := by decide +kernel
  obtain ⟨⟨m, after⟩, hm, hvalue⟩ := (Option.any_eq_true _ _).1 hread
  rw [Bool.and_eq_true, List.isEmpty_iff] at hvalue
  obtain ⟨n, hn, hnot⟩ := (Option.any_eq_true _ _).1 hvalue.2
  refine ⟨m, n, hvalue.1 ▸ hm, hn, fun hback => ?_⟩
  rw [isReadBack_iff.2 hback] at hnot
  exact absurd hnot (by decide)

end AttributeCache.Json
