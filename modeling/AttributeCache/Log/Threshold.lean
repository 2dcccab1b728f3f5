import AttributeCache.Json.Decode
import AttributeCache.Text.Blank
/-!
# Log thresholds

What is logged at least, from nothing to everything. Names are read in any
case of ASCII letters and with blanks around them, and some have a second
form.
-/

namespace AttributeCache

/-- The severity of a line. -/
inductive LogLevel where
  | error
  | warn
  | info
  | debug
  | trace
deriving DecidableEq, Repr

namespace LogLevel

/-- From the most to the least severe. -/
def all : List LogLevel := [.error, .warn, .info, .debug, .trace]

/-- The name of a level. -/
def name : LogLevel → String
  | .error => "error"
  | .warn => "warn"
  | .info => "info"
  | .debug => "debug"
  | .trace => "trace"

/-- The place among the levels; the most severe is first. -/
def rank : LogLevel → Nat
  | .error => 1
  | .warn => 2
  | .info => 3
  | .debug => 4
  | .trace => 5

end LogLevel

/-- The least severity that is logged. -/
inductive LogThreshold where
  | off
  | level (least : LogLevel)
deriving DecidableEq, Repr

namespace LogThreshold

/-- The name of a threshold. -/
def name : LogThreshold → String
  | .off => "off"
  | .level least => least.name

instance : ToString LogThreshold := ⟨name⟩

/-- Whether lines of a level are logged. -/
def allows : LogThreshold → LogLevel → Bool
  | .off, _ => false
  | .level least, line => line.rank ≤ least.rank

/-- The levels that are logged. -/
def enabled (t : LogThreshold) : List LogLevel :=
  LogLevel.all.filter t.allows

/-- A text that names no threshold. -/
structure Unrecognized where
  text : String
deriving DecidableEq, Repr

/-- The wording of the refusal. -/
def Unrecognized.message (e : Unrecognized) : String :=
  "Unrecognized threshold '" ++ e.text ++ "'"

/-- The names that are read. -/
def names : List (String × LogThreshold) :=
  [("off", .off), ("error", .level .error), ("warn", .level .warn), ("warning", .level .warn),
    ("info", .level .info), ("debug", .level .debug), ("trace", .level .trace),
    ("all", .level .trace)]

/-- Reads a name. -/
def parse (s : String) : Except Unrecognized LogThreshold :=
  let key := String.ofList ((Text.trimBoth s.toList).map Char.toLower)
  match names.lookup key with
  | some t => .ok t
  | none => .error ⟨s⟩

/-! ## JSON form -/

/-- The name as a string. -/
def json (t : LogThreshold) : Json.Value :=
  .string t.name

/-- Reads a name from a string. -/
def ofTree (t : Json.Tree) : Except Json.Fault LogThreshold := do
  match parse (← t.asString) with
  | .ok threshold => return threshold
  | .error _ => throw .shape

end LogThreshold

end AttributeCache
