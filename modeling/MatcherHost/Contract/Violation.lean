import MatcherHost.Contract.Operation
import MatcherHost.Tree.Value

/-! What a matcher can do wrong. A violation is never a failure to match: it says that the
matcher and the host disagree on the callback contract. -/
namespace MatcherHost

/-- Where a matcher pointed: nowhere, at an offset from the first input byte, or at an address
known by its number. -/
inductive Place
  | null
  | offset (distance : Int)
  | address (number : Nat)
  deriving DecidableEq, Repr

namespace Place

def ofPointer : Option Int → Place
  | none => .null
  | some distance => .offset distance

/-- Only an address given by number can be written out. -/
def hex : Place → String
  | .address number => "0x" ++ String.ofList (Nat.toDigits 16 number)
  | _ => "<address>"

def inspect : Place → String
  | .address number => toString number
  | _ => "<address>"

end Place

inductive Violation
  /-- Fewer values on the output stack than the callback consumes. -/
  | outputUnderflow (operation : Operation) (needed available : Nat)
  /-- A value of another kind than the callback combines. -/
  | wrongKind (operation : Operation) (expected : String) (found : Kind)
  /-- More locals released than are bound. -/
  | localsUnderflow (operation : Operation) (needed available : Nat)
  /-- A local read below the last bound one. -/
  | localsIndexOutOfRange (index depth : Nat)
  /-- A count or an index below zero. -/
  | negativeCount (operation : Operation) (count : Int)
  /-- A position that is not one of the input's. -/
  | positionOutOfBounds (operation : Operation) (place : Place)
  /-- Offsets that do not delimit a piece of the input. -/
  | invertedRange (operation : Operation) (start stop : Nat)
  /-- No text, or bytes that are not one. -/
  | invalidText (operation : Operation)
  /-- A reserved callback. -/
  | unsupported (operation : Operation)
  /-- The host's own code gave up while serving the callback. -/
  | callbackAborted (operation : Operation) (message : String)
  /-- A match that left no value, or more than one. -/
  | unbalancedResult (remaining : Nat)
  deriving DecidableEq, Repr

namespace Violation

/-- The callback to blame; a result out of balance is no single callback's fault. -/
def operation : Violation → Option Operation
  | .outputUnderflow op .. | .wrongKind op .. | .localsUnderflow op .. | .negativeCount op _
  | .positionOutOfBounds op _ | .invertedRange op .. | .invalidText op | .unsupported op
  | .callbackAborted op _ => some op
  | .localsIndexOutOfRange .. => some .localsLoad
  | .unbalancedResult _ => none

def message : Violation → String
  | .outputUnderflow op needed available =>
    s!"{op.name} needs {needed} value(s) on the output stack but {available} are present"
  | .wrongKind op expected found =>
    s!"{op.name} expected {expected} on the output stack but found {found.name}"
  | .localsUnderflow op needed available =>
    s!"{op.name} releases {needed} local(s) but only {available} are bound"
  | .localsIndexOutOfRange index depth =>
    s!"localsLoad({index}) reads beyond the {depth} bound local(s)"
  | .negativeCount op count => s!"{op.name} received negative count {count}"
  | .positionOutOfBounds op place =>
    s!"{op.name} received address {place.hex} outside the input buffer"
  | .invertedRange op start stop => s!"{op.name} received inverted range {start}..{stop}"
  | .invalidText op => s!"{op.name} received a null or non-UTF-8 string"
  | .unsupported op => s!"{op.name} is not supported by this runtime"
  | .callbackAborted op message => s!"{op.name} panicked: {message}"
  | .unbalancedResult remaining =>
    s!"matcher succeeded leaving {remaining} value(s) on the output stack instead of one"

def title : Violation → String
  | .outputUnderflow .. => "OutputUnderflow"
  | .wrongKind .. => "WrongVariant"
  | .localsUnderflow .. => "LocalsUnderflow"
  | .localsIndexOutOfRange .. => "LocalsIndexOutOfRange"
  | .negativeCount .. => "NegativeCount"
  | .positionOutOfBounds .. => "PositionOutOfBounds"
  | .invertedRange .. => "InvertedRange"
  | .invalidText _ => "InvalidString"
  | .unsupported _ => "Unsupported"
  | .callbackAborted .. => "CallbackPanicked"
  | .unbalancedResult _ => "UnbalancedResult"

def details : Violation → List (String × String)
  | .outputUnderflow op needed available | .localsUnderflow op needed available =>
    [("operation", op.inspect), ("needed", toString needed), ("available", toString available)]
  | .wrongKind op expected found =>
    [("operation", op.inspect), ("expected", Literal.quote expected), ("found", found.inspect)]
  | .localsIndexOutOfRange index depth =>
    [("index", toString index), ("depth", toString depth)]
  | .negativeCount op count => [("operation", op.inspect), ("count", toString count)]
  | .positionOutOfBounds op place => [("operation", op.inspect), ("address", place.inspect)]
  | .invertedRange op start stop =>
    [("operation", op.inspect), ("start", toString start), ("end", toString stop)]
  | .invalidText op | .unsupported op => [("operation", op.inspect)]
  | .callbackAborted op message =>
    [("operation", op.inspect), ("message", Literal.quote message)]
  | .unbalancedResult remaining => [("remaining", toString remaining)]

def inspect (violation : Violation) : String :=
  Literal.record violation.title violation.details

end Violation
end MatcherHost
