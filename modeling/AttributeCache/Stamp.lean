import AttributeCache.Text.Blank
import AttributeCache.Text.Decimal
import AttributeCache.Text.Split
/-!
# Generation stamps

A stamp pairs wall clock milliseconds with a logical counter. A node that
issues stamps by `tick` issues ever later ones although two reloads fall
into one millisecond or the clock is set back, and by `receive` it issues
stamps later than those it has seen elsewhere. Both take the clock reading
as an argument. The counter stops at its greatest value, so `tick` is
strict only below it.
-/

namespace AttributeCache

/-- A reading of a hybrid logical clock. -/
structure Stamp where
  /-- Milliseconds since 1970. -/
  wall : UInt64
  /-- Tells stamps of one millisecond apart. -/
  logical : UInt32
deriving DecidableEq, Repr, Inhabited

namespace Stamp

/-- Before every stamp that is issued. -/
def epoch : Stamp := ⟨0, 0⟩

/-- By wall time first, then by counter. -/
instance : Ord Stamp where
  compare a b := (compare a.wall b.wall).then (compare a.logical b.logical)

instance : LT Stamp := ltOfOrd
instance : LE Stamp := leOfOrd

/-- Strictly later. -/
def isAfter (a b : Stamp) : Bool :=
  compare a b == .gt

/-- The later of the two. -/
def later (a b : Stamp) : Stamp :=
  if b.isAfter a then b else a

/-! ## Issuing stamps -/

/-- The next counter value, or the same one at its greatest. -/
def bump (logical : UInt32) : UInt32 :=
  if logical = 0xFFFFFFFF then logical else logical + 1

/-- The reading taken at a wall time. -/
def ofWall (now : UInt64) : Stamp := ⟨now, 0⟩

/-- The stamp to issue after `s`: the clock's reading where it has passed
`s`, else the next counter value. -/
def tick (now : UInt64) (s : Stamp) : Stamp :=
  if s.wall < now then ofWall now else ⟨s.wall, bump s.logical⟩

/-- The stamp after both `s` and `other`: the latest wall time of the
three, and past the counters of the stamps that have it. -/
def receive (now : UInt64) (s other : Stamp) : Stamp :=
  let wall := max now (max s.wall other.wall)
  let logical :=
    if wall = s.wall then
      if wall = other.wall then bump (max s.logical other.logical) else bump s.logical
    else if wall = other.wall then bump other.logical
    else 0
  ⟨wall, logical⟩

/-! ## Text form -/

/-- Wall time and counter with a colon between. -/
def text (s : Stamp) : String :=
  toString s.wall.toNat ++ ":" ++ toString s.logical.toNat

instance : ToString Stamp := ⟨text⟩

/-- A text that is no stamp, with the blanks at its ends taken off. -/
structure Invalid where
  text : String
deriving DecidableEq, Repr

/-- The wording of the refusal. -/
def Invalid.message (e : Invalid) : String :=
  "invalid timestamp: '" ++ e.text ++ "'"

/-- Reads `wall` or `wall:logical`. -/
def read? (s : List Char) : Option Stamp :=
  match Text.cut ':' s with
  | none => do
    let wall ← Text.readUnsigned? UInt64.size s
    return ⟨UInt64.ofNat wall, 0⟩
  | some (before, after) => do
    let wall ← Text.readUnsigned? UInt64.size before
    let logical ← Text.readUnsigned? UInt32.size after
    return ⟨UInt64.ofNat wall, UInt32.ofNat logical⟩

/-- Reads a stamp with blanks around it. A bare number has counter 0. -/
def parse (s : String) : Except Invalid Stamp :=
  let trimmed := Text.trim s
  match read? trimmed.toList with
  | some stamp => .ok stamp
  | none => .error ⟨trimmed⟩

end Stamp

end AttributeCache
