import AttributeCache.Text.Decimal
import AttributeCache.Text.Split
/-!
# Tables over code points

A property of characters is a table: a text of words, each naming a
stretch of code points in hexadecimal and, where there is one, the value
they share. `A` is one code point, `A-B` each from `A` to `B`, and `A/B`
every other one. Numbers with points between are the value: behind `>` it
is the same all along the stretch, behind `=` its first number grows with
the code point. Stretches stand in order and do not overlap, so an entry is
found by halving.
-/

namespace AttributeCache.Text

/-- A stretch of code points and the value on it. -/
structure Entry where
  first : Nat
  last : Nat
  /-- One for each code point, two for every other one. -/
  step : Nat
  /-- Whether the first number of the value grows with the code point. -/
  grows : Bool
  value : List Nat
deriving DecidableEq, Repr

namespace Entry

/-- Whether a code point lies on the stretch. -/
def covers (e : Entry) (n : Nat) : Bool :=
  e.first ≤ n && n ≤ e.last && (n - e.first) % e.step == 0

/-- The value at a code point of the stretch. -/
def valueAt (e : Entry) (n : Nat) : List Nat :=
  match e.value with
  | [] => []
  | start :: rest => (if e.grows then start + (n - e.first) else start) :: rest

/-- The numbers of a value. -/
def numbers (s : List Char) : List Nat :=
  (splitWhere (· == '.') s).filterMap fun digits =>
    if digits.isEmpty then none else readHex? digits

/-- The stretch a word names, with a value yet to come. -/
def ofStretch? (s : List Char) : Option Entry :=
  match cut '-' s, cut '/' s with
  | some (first, last), _ => return ⟨← readHex? first, ← readHex? last, 1, false, []⟩
  | none, some (first, last) => return ⟨← readHex? first, ← readHex? last, 2, false, []⟩
  | none, none => return ⟨← readHex? s, ← readHex? s, 1, false, []⟩

/-- The entry a word writes. -/
def ofWord? (s : List Char) : Option Entry :=
  match cut '=' s, cut '>' s with
  | some (stretch, value), _ =>
    return { ← ofStretch? stretch with grows := true, value := numbers value }
  | none, some (stretch, value) => return { ← ofStretch? stretch with value := numbers value }
  | none, none => ofStretch? s

end Entry

/-- Entries in the order of their code points. -/
abbrev Table := Array Entry

namespace Table

/-- The table a text writes. -/
def ofText (s : String) : Table :=
  ((words s).filterMap fun word => Entry.ofWord? word.toList).toArray

/-- The place of the last entry that starts at or below a code point, looked
for from `low` up to but not including `high`; `low` if there is none. -/
def placeOf (t : Table) (n low high : Nat) : Nat :=
  if low + 1 < high then
    let middle := (low + high) / 2
    if t[middle]?.any (·.first ≤ n) then placeOf t n middle high else placeOf t n low middle
  else low
termination_by high - low

/-- The entry whose stretch a character lies on. -/
def entry? (t : Table) (c : Char) : Option Entry :=
  t[placeOf t c.toNat 0 t.size]?.filter (·.covers c.toNat)

/-- Whether a character has the property. -/
def holds (t : Table) (c : Char) : Bool :=
  (t.entry? c).isSome

/-- The value of a character. -/
def value? (t : Table) (c : Char) : Option (List Nat) :=
  (t.entry? c).map (·.valueAt c.toNat)

end Table

end AttributeCache.Text
