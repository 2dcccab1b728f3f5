/-!
# Waiting for the end

A server runs until it is told to stop. If it cannot hear signals at all it
runs on, rather than stopping because of that.
-/

namespace AttributeCache

/-- How waiting for a signal ended. -/
inductive SignalOutcome where
  | received
  /-- Signals cannot be heard. -/
  | deaf
deriving DecidableEq, Repr

namespace SignalOutcome

/-- The millisecond at which the server stops, if the wait for a signal
ends at `millis`. -/
def stopsAt (outcome : SignalOutcome) (millis : Nat) : Option Nat :=
  match outcome with
  | .received => some millis
  | .deaf => none

/-- Whether the server has stopped by the end of a wait. -/
def stoppedBy (outcome : SignalOutcome) (millis wait : Nat) : Bool :=
  (outcome.stopsAt millis).any (· ≤ wait)

end SignalOutcome

end AttributeCache
