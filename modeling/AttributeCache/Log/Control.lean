import AttributeCache.Log.Threshold
import AttributeCache.Text.Decimal
/-!
# Changing the threshold of a running node

A control holds the threshold that was set and the one that is in force.
The two differ only until the first change: at the start a directive of the
environment, if there is one, takes precedence over the configuration.
-/

namespace AttributeCache

namespace LogThreshold

/-- What a directive asks for: a level in any case of letters, or the number
of one. Any other name is that of a part of some program, and there is no
such part here, so nothing is logged. -/
def ofDirective (s : String) : LogThreshold :=
  let key := s.map Char.toLower
  let levels := LogThreshold.off :: LogLevel.all.map .level
  match levels.find? (·.name == key), Text.readDigits? s.toList with
  | some t, _ => t
  | none, some number => levels.getD number .off
  | none, none => .off

end LogThreshold

/-- The log of a node. -/
structure LogControl where
  /-- The threshold that was set last. -/
  threshold : LogThreshold
  /-- What lines are held against. -/
  inForce : LogThreshold
deriving DecidableEq, Repr

namespace LogControl

/-- A control whose threshold is in force. -/
def ofThreshold (t : LogThreshold) : LogControl :=
  ⟨t, t⟩

/-- The control at the start. An empty directive is none. -/
def startup (initial : LogThreshold) (directive : Option String) : LogControl :=
  match directive with
  | none | some "" => ofThreshold initial
  | some s => ⟨initial, LogThreshold.ofDirective s⟩

/-- Sets the threshold; a directive loses its precedence. -/
def set (_ : LogControl) (t : LogThreshold) : LogControl :=
  ofThreshold t

/-- Sets the threshold by name. -/
def setByName (c : LogControl) (name : String) : Except LogThreshold.Unrecognized LogControl :=
  (LogThreshold.parse name).map c.set

end LogControl

end AttributeCache
