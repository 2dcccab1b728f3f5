import AttributeCache.Json.Decode
import AttributeCache.Json.Printer
import AttributeCache.Proofs.Text.Decimal
import AttributeCache.Proofs.Text.Utf8
/-!
# Values come back from their text

Reading the text of a value gives the tree of that value, and stops right
behind it. Whatever follows a value begins with a comma or a closing
bracket, which is what ends a number.
-/

namespace AttributeCache.Json

variable {c : Char} {s : String} {n : Nat} {rest : Input} {ps : List Piece}

/-! ## Strings -/

/-- The piece a character is read as: by its number where it is written so. -/
def pieceOf (c : Char) : Piece :=
  if c.toNat < 0x20 ∧ c ∉ ['\x08', '\t', '\n', '\x0C', '\r'] then .unit c.toNat else .char c

/-- A character comes back from its escape as one piece. -/
theorem readPieces_escape :
    readPieces ((escape c).map some ++ rest) =
      (readPieces rest).map fun (ps, r) => (pieceOf c :: ps, r) := by
  fun_cases escape c with
  | case8 _ hlow _ _ hback htab hline hfeed hreturn =>
    have hpiece : pieceOf c = .unit c.toNat := by
      rw [pieceOf, if_pos ⟨hlow, by simp only [List.mem_cons]; grind⟩]
    have hvalue : Text.readHex? (Text.hexDigits 4 c.toNat) = some c.toNat :=
      Text.readHex?_hexDigits (by omega)
    obtain ⟨d₁, d₂, d₃, d₄, hdigits⟩ :
        ∃ d₁ d₂ d₃ d₄, Text.hexDigits 4 c.toNat = [d₁, d₂, d₃, d₄] := ⟨_, _, _, _, rfl⟩
    rw [hdigits] at hvalue
    rw [if_pos hlow, hpiece, hdigits]
    simp only [List.map_cons, List.map_nil, List.cons_append, List.nil_append, readPieces, hvalue]
  | case9 _ hlow hquote hslash _ _ _ _ _ =>
    have hpiece : pieceOf c = .char c := by rw [pieceOf, if_neg fun h => hlow h.1]
    rw [if_neg hlow, hpiece, List.map_singleton, List.singleton_append, readPieces]
    · rw [if_neg hlow]
    all_goals grind
  | _ => rfl

theorem joinPieces_pieceOf :
    joinPieces (pieceOf c :: ps) = (joinPieces ps).map (c :: ·) := by
  rw [pieceOf]
  split
  · rename_i hlow
    have hhigh : isHighSurrogate c.toNat = false := by
      simp [isHighSurrogate]
      omega
    have hlow' : isLowSurrogate c.toNat = false := by
      simp [isLowSurrogate]
      omega
    rw [joinPieces.eq_def]
    simp only [hhigh, hlow', Bool.false_eq_true, if_false, Char.ofNat_toNat]
  · rw [joinPieces]

theorem readPieces_quote (cs : List Char) :
    readPieces ((cs.flatMap escape ++ ['"']).map some ++ rest) =
      some (cs.map pieceOf, rest) := by
  induction cs with
  | nil => rfl
  | cons c cs ih =>
    rw [List.flatMap_cons, List.append_assoc, List.map_append, List.append_assoc,
      readPieces_escape, ih]
    rfl

theorem joinPieces_map (cs : List Char) : joinPieces (cs.map pieceOf) = some cs := by
  induction cs with
  | nil => rfl
  | cons c cs ih => rw [List.map_cons, joinPieces_pieceOf, ih, Option.map_some]

/-- **A string comes back from behind its opening quote.** -/
theorem readText_quote (s : String) (rest : Input) :
    readText ((s.toList.flatMap escape ++ ['"']).map some ++ rest) = some (some s, rest) := by
  rw [readText, readPieces_quote, Option.map_some]
  simp only [joinPieces_map, Option.map_some, String.ofList_toList]

/-! ## Numbers -/

/-- What may follow a value: nothing, a comma, or a closing bracket. -/
def Stops (rest : Input) : Prop :=
  rest = [] ∨ ∃ c after, rest = some c :: after ∧ c ∈ [',', ']', '\x7d']

/-- The text of a number begins like one and is read as that number. -/
structure ReadsBack (n : Number) : Prop where
  head : ∃ c cs, n.chars = c :: cs ∧ (c = '-' ∨ c.isDigit = true)
  read : ∀ rest, Stops rest →
    readScalar (n.chars.map some ++ rest) = some (.number (some n), rest)

/-- Digits are read up to what stops them. -/
theorem readDigits_append {digits : List Char} (h : ∀ c ∈ digits, c.isDigit = true)
    (hrest : Stops rest) : readDigits (digits.map some ++ rest) = (digits, rest) := by
  have hall : ∀ x ∈ digits.map some, Option.any Char.isDigit x = true := by
    intro x hx
    obtain ⟨c, hc, rfl⟩ := List.mem_map.1 hx
    exact h c hc
  have hstop : rest.takeWhile (fun x => Option.any Char.isDigit x) = [] ∧
      rest.dropWhile (fun x => Option.any Char.isDigit x) = rest := by
    rcases hrest with rfl | ⟨c, after, rfl, hc⟩
    · exact ⟨rfl, rfl⟩
    · have hdigit : Char.isDigit c = false := by
        simp only [List.mem_cons, List.not_mem_nil, or_false] at hc
        rcases hc with rfl | rfl | rfl <;> rfl
      simp [hdigit]
  rw [readDigits]
  simp only [List.takeWhile_append_of_pos hall, List.dropWhile_append_of_pos hall, hstop]
  simp

/-- Neither a point nor an exponent follows. -/
theorem readFraction_of_stops (h : Stops rest) : readFraction rest = some (none, rest) := by
  rcases h with rfl | ⟨c, after, rfl, hc⟩
  · rfl
  · simp only [List.mem_cons, List.not_mem_nil, or_false] at hc
    rcases hc with rfl | rfl | rfl <;> rfl

theorem readExponent_of_stops (h : Stops rest) : readExponent rest = some (none, rest) := by
  rcases h with rfl | ⟨c, after, rfl, hc⟩
  · rfl
  · simp only [List.mem_cons, List.not_mem_nil, or_false] at hc
    rcases hc with rfl | rfl | rfl <;> rfl

theorem readDigits_toDigits (h : Stops rest) :
    readDigits ((Nat.toDigits 10 n).map some ++ rest) = (Nat.toDigits 10 n, rest) :=
  readDigits_append (fun _ hc => Text.isDigit_of_mem_toDigits hc) h

/-- The digits of a number make a numeral, with or without a sign. -/
theorem readNumeral_toDigits (h : Stops rest) :
    readNumeral ((Nat.toDigits 10 n).map some ++ rest) =
      some (⟨false, Nat.toDigits 10 n, none, none⟩, rest) := by
  have hdigits := readDigits_toDigits (n := n) h
  have hne : (Nat.toDigits 10 n).isEmpty = false := by simp
  have hsign : ∀ after, (Nat.toDigits 10 n).map some ++ rest ≠ some '-' :: after := by
    intro after he
    cases hd : Nat.toDigits 10 n with
    | nil => exact Nat.toDigits_ne_nil hd
    | cons c cs =>
      rw [hd, List.map_cons, List.cons_append, List.cons.injEq] at he
      have hc : c.isDigit = true := Text.isDigit_of_mem_toDigits (hd ▸ List.mem_cons_self)
      rw [Option.some.inj he.1] at hc
      exact absurd hc (by decide)
  rw [readNumeral]
  · simp [hdigits, hne, Text.toDigits_leading, readFraction_of_stops h, readExponent_of_stops h]
  · exact hsign

theorem readNumeral_neg_toDigits (h : Stops rest) :
    readNumeral (some '-' :: ((Nat.toDigits 10 n).map some ++ rest)) =
      some (⟨true, Nat.toDigits 10 n, none, none⟩, rest) := by
  have hdigits := readDigits_toDigits (n := n) h
  have hne : (Nat.toDigits 10 n).isEmpty = false := by simp
  rw [readNumeral]
  simp [hdigits, hne, Text.toDigits_leading, readFraction_of_stops h, readExponent_of_stops h]

/-- What begins like a number is read as one. -/
theorem readScalar_of_head (h : c = '-' ∨ c.isDigit = true) :
    readScalar (some c :: rest) =
      (readNumeral (some c :: rest)).map fun (n, after) => (.number n.value?, after) := by
  rw [readScalar.eq_def]
  split
  · exact absurd h (by simp_all)
  · exact absurd h (by simp_all)
  · exact absurd h (by simp_all)
  · rfl

theorem chars_integer (i : Int) (h : Number.InRange i) :
    (Number.integer i h).chars =
      if 0 ≤ i then Nat.toDigits 10 i.toNat else '-' :: Nat.toDigits 10 (-i).toNat := by
  rw [Number.chars, Int.toString_eq_repr, Int.repr_eq_if]
  split
  · exact Nat.toList_repr
  · rw [String.toList_append, Nat.toList_repr]
    rfl

theorem ofInt?_of_inRange {i : Int} (h : Number.InRange i) :
    Number.ofInt? i = some (.integer i h) :=
  dif_pos h

theorem value?_toDigits (h : Number.InRange n) :
    Numeral.value? ⟨false, Nat.toDigits 10 n, none, none⟩ = some (.integer n h) := by
  rw [Numeral.value?]
  simp only [Text.digitsValue_toDigits, ofInt?_of_inRange h, Bool.false_eq_true, if_false]

theorem value?_neg_toDigits (hpos : n ≠ 0) (h : Number.InRange (-n)) :
    Numeral.value? ⟨true, Nat.toDigits 10 n, none, none⟩ = some (.integer (-n) h) := by
  have hbound : n ≠ 0 ∧ n ≤ 0x8000000000000000 := by
    have hlow := h.1
    exact ⟨hpos, by omega⟩
  rw [Numeral.value?]
  simp only [Text.digitsValue_toDigits, if_true]
  rw [if_pos hbound, ofInt?_of_inRange h]

/-- **An integer comes back from its text.** -/
theorem readsBack_integer (i : Int) (h : Number.InRange i) : ReadsBack (.integer i h) := by
  have hchars := chars_integer i h
  by_cases hi : 0 ≤ i
  · obtain ⟨n, rfl⟩ := Int.eq_ofNat_of_zero_le hi
    rw [if_pos hi, Int.toNat_natCast] at hchars
    obtain ⟨c, cs, hcs⟩ := List.exists_cons_of_ne_nil (Nat.toDigits_ne_nil (n := n) (b := 10))
    have hc : c.isDigit = true := Text.isDigit_of_mem_toDigits (hcs ▸ List.mem_cons_self)
    refine ⟨⟨c, cs, hchars.trans hcs, .inr hc⟩, fun rest hrest => ?_⟩
    have hnumeral := readNumeral_toDigits (n := n) hrest
    rw [hchars]
    rw [hcs] at hnumeral ⊢
    rw [List.map_cons, List.cons_append] at hnumeral ⊢
    rw [readScalar_of_head (.inr hc), hnumeral, Option.map_some, ← hcs]
    simp only [value?_toDigits h]
  -- a negative one has its sign in front and the digits of its size behind
  · obtain ⟨n, hn⟩ := Int.eq_ofNat_of_zero_le (Int.neg_nonneg_of_nonpos (Int.le_of_not_le hi))
    obtain rfl : i = -(n : Int) := by omega
    rw [if_neg hi, hn, Int.toNat_natCast] at hchars
    refine ⟨⟨'-', _, hchars, .inl rfl⟩, fun rest hrest => ?_⟩
    rw [hchars, List.map_cons, List.cons_append, readScalar_of_head (.inl rfl),
      readNumeral_neg_toDigits hrest, Option.map_some]
    simp only [value?_neg_toDigits (by omega : n ≠ 0) h]

/-! ## Values -/

namespace Value

mutual
/-- The tree that a value is read as. -/
def tree : Value → Tree
  | .null => .null
  | .bool b => .bool b
  | .number n => .number (some n)
  | .string s => .text (some s)
  | .array items => .array (treesOfItems items)
  | .object fields => .object (treesOfFields fields)

/-- Item by item. -/
def treesOfItems : List Value → List Tree
  | [] => []
  | v :: rest => v.tree :: treesOfItems rest

/-- Field by field. -/
def treesOfFields : List (String × Value) → List (Option String × Tree)
  | [] => []
  | (key, v) :: rest => (some key, v.tree) :: treesOfFields rest
end

mutual
/-- Every number in a value is read back. -/
def ReadsBack : Value → Prop
  | .number n => Json.ReadsBack n
  | .array items => ItemsReadBack items
  | .object fields => FieldsReadBack fields
  | _ => True

/-- Item by item. -/
def ItemsReadBack : List Value → Prop
  | [] => True
  | v :: rest => v.ReadsBack ∧ ItemsReadBack rest

/-- Field by field. -/
def FieldsReadBack : List (String × Value) → Prop
  | [] => True
  | (_, v) :: rest => v.ReadsBack ∧ FieldsReadBack rest
end

end Value

theorem skipBlanks_cons (h : isGrammarBlank (some c) = false) :
    skipBlanks (some c :: rest) = some c :: rest :=
  List.dropWhile_cons_of_neg (by simp [h])

theorem isGrammarBlank_of_number (h : c = '-' ∨ c.isDigit = true) :
    isGrammarBlank (some c) = false := by
  rcases h with rfl | h
  · rfl
  · have hne : ∀ blank, Char.isDigit blank = false → c ≠ blank := by
      rintro blank hblank rfl
      exact absurd h (by simp [hblank])
    simp [isGrammarBlank, hne ' ' rfl, hne '\n' rfl, hne '\t' rfl, hne '\r' rfl]

/-- The text of a value begins with neither a blank nor a bracket that
closes. -/
theorem chars_head (v : Value) (h : v.ReadsBack) :
    ∃ c cs, v.chars = c :: cs ∧ isGrammarBlank (some c) = false ∧ c ≠ ']' := by
  cases v with
  | null => exact ⟨'n', _, rfl, rfl, by decide⟩
  | bool b => cases b <;> exact ⟨_, _, rfl, rfl, by decide⟩
  | number n =>
    rw [Value.ReadsBack] at h
    obtain ⟨c, cs, hcs, hc⟩ := h.head
    refine ⟨c, cs, by rw [Value.chars, hcs], isGrammarBlank_of_number hc, ?_⟩
    rintro rfl
    exact absurd hc (by decide)
  | string s => exact ⟨'"', _, rfl, rfl, by decide⟩
  | array items => exact ⟨'[', _, by rw [Value.chars]; rfl, rfl, by decide⟩
  | object fields => exact ⟨'\x7b', _, by rw [Value.chars]; rfl, rfl, by decide⟩

/-- In so many steps every value short enough is read. -/
def ReadsValues (steps : Nat) : Prop :=
  ∀ (v : Value) (rest : Input), v.ReadsBack → v.chars.length ≤ steps → Stops rest →
    readValue steps (v.chars.map some ++ rest) = (v.tree, some rest)

/-- And so are items, up to the bracket behind them. -/
def ReadsItems (steps : Nat) : Prop :=
  ∀ (items : List Value) (first : Bool) (rest : Input), items ≠ [] ∨ first = true →
    Value.ItemsReadBack items → (Value.charsOfItems items).length < steps →
    readItems steps first ((Value.charsOfItems items).map some ++ some ']' :: rest) =
      (Value.treesOfItems items, some rest)

/-- And fields. -/
def ReadsFields (steps : Nat) : Prop :=
  ∀ (fields : List (String × Value)) (first : Bool) (rest : Input), fields ≠ [] ∨ first = true →
    Value.FieldsReadBack fields → (Value.charsOfFields fields).length < steps →
    readFields steps first ((Value.charsOfFields fields).map some ++ some '\x7d' :: rest) =
      (Value.treesOfFields fields, some rest)

theorem readValue_of_number {steps : Nat} (h : c = '-' ∨ c.isDigit = true) {t : Tree}
    {after : Input} (hread : readScalar (some c :: rest) = some (t, after)) :
    readValue (steps + 1) (some c :: rest) = (t, some after) := by
  have hne : ∀ other, other ≠ '-' → Char.isDigit other = false → c ≠ other := by
    rintro other hminus hdigit rfl
    rcases h with h | h
    · exact hminus h
    · exact absurd h (by simp [hdigit])
  rw [readValue, skipBlanks_cons (isGrammarBlank_of_number h)]
  split
  · rename_i heq
    exact absurd (Option.some.inj (List.cons.inj heq).1) (hne _ (by decide) rfl)
  · rename_i heq
    exact absurd (Option.some.inj (List.cons.inj heq).1) (hne _ (by decide) rfl)
  · rename_i heq
    exact absurd (Option.some.inj (List.cons.inj heq).1) (hne _ (by decide) rfl)
  · rw [hread]

theorem map_quote (s : String) :
    (quote s).map some ++ rest =
      some '"' :: ((s.toList.flatMap escape ++ ['"']).map some ++ rest) :=
  rfl

theorem readsValues_succ {steps : Nat} (hitems : ReadsItems steps) (hfields : ReadsFields steps) :
    ReadsValues (steps + 1) := by
  intro v rest hv hsteps hrest
  cases v with
  | null => rfl
  | bool b => cases b <;> rfl
  | number n =>
    rw [Value.ReadsBack] at hv
    obtain ⟨c, cs, hcs, hc⟩ := hv.head
    have hread := hv.read rest hrest
    rw [hcs] at hread
    rw [Value.chars, Value.tree, hcs]
    exact readValue_of_number hc hread
  | string s =>
    rw [Value.chars, Value.tree, map_quote, readValue]
    simp only [skipBlanks_cons (c := '"') rfl, readText_quote]
  | array items =>
    rw [Value.ReadsBack] at hv
    rw [Value.chars, List.length_append, List.length_cons, List.length_singleton] at hsteps
    have hread := hitems items true rest (.inr rfl) hv (by omega)
    rw [Value.chars, Value.tree, List.map_append, List.append_assoc, List.map_cons,
      List.cons_append, readValue]
    simp only [skipBlanks_cons (c := '[') rfl, List.map_cons, List.map_nil, List.cons_append,
      List.nil_append, hread]
  | object fields =>
    rw [Value.ReadsBack] at hv
    rw [Value.chars, List.length_append, List.length_cons, List.length_singleton] at hsteps
    have hread := hfields fields true rest (.inr rfl) hv (by omega)
    rw [Value.chars, Value.tree, List.map_append, List.append_assoc, List.map_cons,
      List.cons_append, readValue]
    simp only [skipBlanks_cons (c := '\x7b') rfl, List.map_cons, List.map_nil, List.cons_append,
      List.nil_append, hread]

/-- An item is not the bracket that closes: it is read as a value. -/
theorem skipBlanks_item_ne {first : Bool} (hblank : isGrammarBlank (some c) = false)
    (hbracket : c ≠ ']') :
    ∀ after, first = true → skipBlanks (some c :: rest) = some ']' :: after → False := by
  intro after _ he
  rw [skipBlanks_cons hblank] at he
  exact hbracket (Option.some.inj (List.cons.inj he).1)

/-- The last item. -/
theorem readItems_last {steps : Nat} {first : Bool} {t : Tree} {after : Input}
    (hblank : isGrammarBlank (some c) = false) (hbracket : c ≠ ']')
    (hread : readValue steps (some c :: rest) = (t, some (some ']' :: after))) :
    readItems (steps + 1) first (some c :: rest) = ([t], some after) := by
  rw [readItems]
  · simp only [skipBlanks_cons hblank, hread, skipBlanks_cons (c := ']') rfl]
  · exact skipBlanks_item_ne hblank hbracket

/-- An item with others behind it. -/
theorem readItems_comma {steps : Nat} {first : Bool} {t : Tree} {ts : List Tree}
    {after : Input} {out : Option Input}
    (hblank : isGrammarBlank (some c) = false) (hbracket : c ≠ ']')
    (hread : readValue steps (some c :: rest) = (t, some (some ',' :: after)))
    (hrest : readItems steps false after = (ts, out)) :
    readItems (steps + 1) first (some c :: rest) = (t :: ts, out) := by
  rw [readItems]
  · simp only [skipBlanks_cons hblank, hread, skipBlanks_cons (c := ',') rfl, hrest]
  · exact skipBlanks_item_ne hblank hbracket

theorem readsItems_succ {steps : Nat} (hvalues : ReadsValues steps) (hitems : ReadsItems steps) :
    ReadsItems (steps + 1) := by
  intro items first rest hfirst hback hsteps
  cases items with
  | nil =>
    have htrue : first = true := hfirst.resolve_left fun h => h rfl
    rw [htrue, Value.charsOfItems, Value.treesOfItems, readItems]
    rfl
  | cons v others =>
    rw [Value.ItemsReadBack] at hback
    obtain ⟨c, cs, hcs, hblank, hbracket⟩ := chars_head v hback.1
    -- behind the last item stands the bracket, behind any other a comma
    cases others with
    | nil =>
      rw [Value.charsOfItems] at hsteps ⊢
      have hread := hvalues v (some ']' :: rest) hback.1 (by omega)
        (.inr ⟨']', rest, rfl, by simp⟩)
      rw [hcs, List.map_cons, List.cons_append] at hread ⊢
      exact readItems_last hblank hbracket hread
    | cons w others =>
      rw [Value.charsOfItems, List.length_append, List.length_cons] at hsteps
      have hrest := hitems (w :: others) false rest (.inl (List.cons_ne_nil _ _)) hback.2
        (by omega)
      have hread := hvalues v
        (some ',' :: ((Value.charsOfItems (w :: others)).map some ++ some ']' :: rest)) hback.1
        (by omega) (.inr ⟨',', _, rfl, by simp⟩)
      rw [Value.charsOfItems, List.map_append, List.append_assoc, List.map_cons, List.cons_append]
      rw [hcs, List.map_cons, List.cons_append] at hread ⊢
      exact readItems_comma hblank hbracket hread hrest

/-- The last field. -/
theorem readFields_last {steps : Nat} {first : Bool} {key : String} {t : Tree} {after : Input}
    (hread : readValue steps rest = (t, some (some '\x7d' :: after))) :
    readFields (steps + 1) first ((quote key).map some ++ some ':' :: rest) =
      ([(some key, t)], some after) := by
  rw [map_quote, readFields.eq_def]
  cases first with
  | false =>
    simp only [skipBlanks_cons (c := '"') rfl, readText_quote, skipBlanks_cons (c := ':') rfl,
      hread, skipBlanks_cons (c := '\x7d') rfl]
  | true =>
    simp only [skipBlanks_cons (c := '"') rfl, readText_quote, skipBlanks_cons (c := ':') rfl,
      hread, skipBlanks_cons (c := '\x7d') rfl]

/-- A field with others behind it. -/
theorem readFields_comma {steps : Nat} {first : Bool} {key : String} {t : Tree}
    {fields : List (Option String × Tree)} {after : Input} {out : Option Input}
    (hread : readValue steps rest = (t, some (some ',' :: after)))
    (hrest : readFields steps false after = (fields, out)) :
    readFields (steps + 1) first ((quote key).map some ++ some ':' :: rest) =
      ((some key, t) :: fields, out) := by
  rw [map_quote, readFields.eq_def]
  cases first with
  | false =>
    simp only [skipBlanks_cons (c := '"') rfl, readText_quote, skipBlanks_cons (c := ':') rfl,
      hread, skipBlanks_cons (c := ',') rfl, hrest]
  | true =>
    simp only [skipBlanks_cons (c := '"') rfl, readText_quote, skipBlanks_cons (c := ':') rfl,
      hread, skipBlanks_cons (c := ',') rfl, hrest]

theorem readsFields_succ {steps : Nat} (hvalues : ReadsValues steps)
    (hfields : ReadsFields steps) : ReadsFields (steps + 1) := by
  intro fields first rest hfirst hback hsteps
  cases fields with
  | nil =>
    have htrue : first = true := hfirst.resolve_left fun h => h rfl
    rw [htrue, Value.charsOfFields, Value.treesOfFields, readFields]
    · rfl
  | cons f others =>
    obtain ⟨key, v⟩ := f
    rw [Value.FieldsReadBack] at hback
    cases others with
    | nil =>
      rw [Value.charsOfFields, List.length_append, List.length_cons] at hsteps
      have hread := hvalues v (some '\x7d' :: rest) hback.1 (by omega)
        (.inr ⟨'\x7d', rest, rfl, by simp⟩)
      rw [Value.charsOfFields, List.map_append, List.append_assoc, List.map_cons,
        List.cons_append]
      exact readFields_last hread
    | cons g others =>
      simp only [Value.charsOfFields, List.length_append, List.length_cons] at hsteps
      have hrest := hfields (g :: others) false rest (.inl (List.cons_ne_nil _ _)) hback.2
        (by omega)
      have hread := hvalues v
        (some ',' :: ((Value.charsOfFields (g :: others)).map some ++ some '\x7d' :: rest)) hback.1
        (by omega) (.inr ⟨',', _, rfl, by simp⟩)
      simp only [Value.charsOfFields, List.map_append, List.append_assoc, List.map_cons,
        List.cons_append]
      exact readFields_comma hread hrest

/-- The steps needed are no more than the characters of the text. -/
theorem reads_all (steps : Nat) : ReadsValues steps ∧ ReadsItems steps ∧ ReadsFields steps := by
  -- the three readers call one another, with one step less each time
  induction steps with
  | zero =>
    refine ⟨fun v rest hv hsteps => ?_, fun _ _ _ _ _ hsteps => absurd hsteps (Nat.not_lt_zero _),
      fun _ _ _ _ _ hsteps => absurd hsteps (Nat.not_lt_zero _)⟩
    obtain ⟨c, cs, hcs, -⟩ := chars_head v hv
    rw [hcs] at hsteps
    exact absurd hsteps (Nat.not_succ_le_zero _)
  | succ steps ih =>
    obtain ⟨hvalues, hitems, hfields⟩ := ih
    exact ⟨readsValues_succ hitems hfields, readsItems_succ hvalues hitems,
      readsFields_succ hvalues hfields⟩

/-! ## Values without doubles -/

namespace Value

mutual
/-- Whether all numbers in a value are integers. -/
def isIntegral : Value → Bool
  | .number (.double _) => false
  | .array items => areIntegral items
  | .object fields => areIntegralFields fields
  | _ => true

/-- Item by item. -/
def areIntegral : List Value → Bool
  | [] => true
  | v :: rest => v.isIntegral && areIntegral rest

/-- Field by field. -/
def areIntegralFields : List (String × Value) → Bool
  | [] => true
  | (_, v) :: rest => v.isIntegral && areIntegralFields rest
end

mutual
/-- Such a value is read back. -/
theorem readsBack_of_isIntegral (v : Value) (h : v.isIntegral = true) : v.ReadsBack := by
  cases v with
  | number n =>
    cases n with
    | integer i hi =>
      rw [ReadsBack]
      exact readsBack_integer i hi
    | double d => simp [isIntegral] at h
  | array items =>
    rw [isIntegral] at h
    rw [ReadsBack]
    exact itemsReadBack_of_areIntegral items h
  | object fields =>
    rw [isIntegral] at h
    rw [ReadsBack]
    exact fieldsReadBack_of_areIntegral fields h
  | _ => trivial

/-- Item by item. -/
theorem itemsReadBack_of_areIntegral (items : List Value) (h : areIntegral items = true) :
    ItemsReadBack items := by
  cases items with
  | nil => trivial
  | cons v rest =>
    rw [areIntegral, Bool.and_eq_true] at h
    rw [ItemsReadBack]
    exact ⟨readsBack_of_isIntegral v h.1, itemsReadBack_of_areIntegral rest h.2⟩

/-- Field by field. -/
theorem fieldsReadBack_of_areIntegral (fields : List (String × Value))
    (h : areIntegralFields fields = true) : FieldsReadBack fields := by
  cases fields with
  | nil => trivial
  | cons x rest =>
    obtain ⟨key, v⟩ := x
    rw [areIntegralFields, Bool.and_eq_true] at h
    rw [FieldsReadBack]
    exact ⟨readsBack_of_isIntegral v h.1, fieldsReadBack_of_areIntegral rest h.2⟩
end

end Value

/-! ## Whole texts -/

/-- **A value comes back from its text** as its tree. -/
theorem read_text (v : Value) (h : v.ReadsBack) :
    Tree.read (Input.ofText v.text) = (v.tree, some []) := by
  have hlength : (v.chars.map some).length = v.chars.length := List.length_map _
  have hread := (reads_all (2 * v.chars.length + 1)).1 v [] h (by omega) (.inl rfl)
  rw [List.append_nil] at hread
  rw [Tree.read, Input.ofText, Value.text, String.toList_ofList, hlength, hread]

/-- So the text of a value, or its bytes, decode to whatever is made of the
tree. -/
theorem decode_text {α : Type} (read : Nat → Tree → Except Fault α) (v : Value)
    (h : v.ReadsBack) : decodeText read v.text = read maxDepth v.tree := by
  rw [decodeText, decode, read_text v h]
  simp only
  cases hvalue : read maxDepth v.tree with
  | error e => rfl
  | ok a => rfl

theorem decodeBytes_text {α : Type} (read : Nat → Tree → Except Fault α) (v : Value)
    (h : v.ReadsBack) :
    decodeBytes read (Text.encode v.text) = read maxDepth v.tree := by
  rw [← decode_text read v h, decodeBytes, Text.decode_encode]
  rfl

/-- **The first of several fields comes back**, whatever the others hold. -/
theorem read_first {key : String} {v : Value} {f : String × Value}
    {others : List (String × Value)} (hv : v.ReadsBack) :
    ∃ fields, (Tree.read (Input.ofText (Value.object ((key, v) :: f :: others)).text)).1 =
      .object ((some key, v.tree) :: fields) := by
  let after := (Value.charsOfFields (f :: others) ++ ['\x7d']).map some
  have hchars : (Value.object ((key, v) :: f :: others)).chars.map some = some '\x7b' ::
      ((quote key).map some ++ some ':' :: (v.chars.map some ++ some ',' :: after)) := by
    simp [Value.chars, Value.charsOfFields, after]
  have hlength : v.chars.length + 2 ≤
      ((Value.object ((key, v) :: f :: others)).chars.map some).length := by
    rw [hchars]
    simp only [List.length_cons, List.length_append, List.length_map]
    omega
  -- one step is for the record and one for the field; the value has enough of the others
  obtain ⟨steps, hsteps⟩ := Nat.exists_eq_add_of_le' (by omega :
    2 ≤ 2 * ((Value.object ((key, v) :: f :: others)).chars.map some).length + 1)
  have hread := (reads_all steps).1 v (some ',' :: after) hv (by omega)
    (.inr ⟨',', after, rfl, by simp⟩)
  obtain ⟨⟨fields, out⟩, hrest⟩ : ∃ r, readFields steps false after = r := ⟨_, rfl⟩
  refine ⟨fields, ?_⟩
  rw [Tree.read, Input.ofText, Value.text, String.toList_ofList, hsteps, hchars, readValue]
  simp only [skipBlanks_cons (c := '\x7b') rfl, readFields_comma hread hrest]

end AttributeCache.Json
