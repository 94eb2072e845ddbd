/-! The furthest failure of a match attempt. Only the rightmost position is kept, with every
distinct reason given there; what is reported further left is stale. -/
namespace MatcherHost

/-- Adds a reason at its place in code point order, once. -/
def insertReason (reason : String) : List String → List String
  | [] => [reason]
  | other :: rest =>
    if reason < other then reason :: other :: rest
    else if reason = other then other :: rest
    else other :: insertReason reason rest

structure Failures where
  position : Option Nat := none
  /-- What would have matched. -/
  expectations : List String := []
  /-- Anything else that was said. -/
  otherReasons : List String := []
  deriving DecidableEq, Repr

namespace Failures

def clear (failures : Failures) : Bool := failures.position.isNone

def add (reason : String) (isExpectation : Bool) (failures : Failures) : Failures :=
  if isExpectation then
    { failures with expectations := insertReason reason failures.expectations }
  else { failures with otherReasons := insertReason reason failures.otherReasons }

def record (position : Nat) (reason : String) (isExpectation : Bool) (failures : Failures) :
    Failures :=
  match failures.position with
  | none => add reason isExpectation ⟨some position, [], []⟩
  | some furthest =>
    if position < furthest then failures
    else if position = furthest then add reason isExpectation failures
    else add reason isExpectation ⟨some position, [], []⟩

end Failures
end MatcherHost
