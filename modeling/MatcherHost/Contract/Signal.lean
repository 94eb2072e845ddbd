import MatcherHost.Contract.Call
import MatcherHost.Contract.Violation

/-! Callbacks as matchers issue them. Positions come as pointers, texts as bytes up to a zero
byte, and counts as signed numbers; none of these need make sense. Arguments are read in order,
and the first that does not make sense refuses the callback. -/
namespace MatcherHost

/-- A callback as the matcher issued it. A pointer is `none` when null and otherwise a distance
from the first input byte; a text is `none` when null. Reserved callbacks are refused whatever
they carry, so their arguments are not kept. -/
inductive Signal
  | pushEmpty
  | pushInputRange (start stop : Option Int)
  | pushBoolean (flag : Bool)
  | pushString (content : Option Bytes)
  | pushArray (wrapTop : Bool)
  | appendToArray
  | makeLabel (label : Option Bytes)
  | mergeLabels (count : Int)
  | makeValue
  | makeObject (className : Option Bytes)
  | pop
  | localsPush (count : Int)
  | localsLoad (index : Int)
  | localsPop (count : Int)
  | matchAt (position : Option Int)
  | setAsSource
  | readFromSource
  | traceEnter (rule : Option Bytes)
  | traceLeave (rule : Option Bytes) (successful : Bool)
  | traceFailure (position : Option Int) (reason : Option Bytes) (isExpectation : Bool)
  deriving DecidableEq, Repr

namespace Argument

/-- A pointer is read as an offset up to and including the end of the input. -/
def position (operation : Operation) (length : Nat) (pointer : Option Int) :
    Except Violation Nat :=
  match pointer with
  | some (.ofNat offset) =>
    if offset ≤ length then .ok offset
    else .error (.positionOutOfBounds operation (.ofPointer pointer))
  | _ => .error (.positionOutOfBounds operation (.ofPointer pointer))

/-- A text ends at its first zero byte and must be UTF-8 up to there. -/
def text (operation : Operation) (bytes : Option Bytes) : Except Violation String :=
  match bytes.bind fun content => Utf8.decode? (content.takeWhile (· ≠ 0)) with
  | some content => .ok content
  | none => .error (.invalidText operation)

def count (operation : Operation) : Int → Except Violation Nat
  | .ofNat number => .ok number
  | negative => .error (.negativeCount operation negative)

end Argument

namespace Signal

def operation : Signal → Operation
  | .pushEmpty => .pushEmpty
  | .pushInputRange .. => .pushInputRange
  | .pushBoolean _ => .pushBoolean
  | .pushString _ => .pushString
  | .pushArray _ => .pushArray
  | .appendToArray => .appendToArray
  | .makeLabel _ => .makeLabel
  | .mergeLabels _ => .mergeLabels
  | .makeValue => .makeValue
  | .makeObject _ => .makeObject
  | .pop => .pop
  | .localsPush _ => .localsPush
  | .localsLoad _ => .localsLoad
  | .localsPop _ => .localsPop
  | .matchAt _ => .matchAt
  | .setAsSource => .setAsSource
  | .readFromSource => .readFromSource
  | .traceEnter _ => .traceEnter
  | .traceLeave .. => .traceLeave
  | .traceFailure .. => .traceFailure

def isTraceHook : Signal → Bool
  | .traceEnter _ | .traceLeave .. => true
  | _ => false

def decode (length : Nat) : Signal → Except Violation Call
  | .pushEmpty => .ok .pushEmpty
  | .pushInputRange start stop => do
    let start ← Argument.position .pushInputRange length start
    let stop ← Argument.position .pushInputRange length stop
    return .pushInputRange start stop
  | .pushBoolean flag => .ok (.pushBoolean flag)
  | .pushString content => (Argument.text .pushString content).map .pushString
  | .pushArray wrapTop => .ok (.pushArray wrapTop)
  | .appendToArray => .ok .appendToArray
  | .makeLabel label => (Argument.text .makeLabel label).map .makeLabel
  | .mergeLabels count => (Argument.count .mergeLabels count).map .mergeLabels
  | .makeValue => .ok .makeValue
  | .makeObject className => (Argument.text .makeObject className).map .makeObject
  | .pop => .ok .pop
  | .localsPush count => (Argument.count .localsPush count).map .localsPush
  | .localsLoad index => (Argument.count .localsLoad index).map .localsLoad
  | .localsPop count => (Argument.count .localsPop count).map .localsPop
  | .matchAt position => (Argument.position .matchAt length position).map .matchAt
  | .setAsSource => .ok .setAsSource
  | .readFromSource => .ok .readFromSource
  | .traceEnter rule => (Argument.text .traceEnter rule).map .traceEnter
  | .traceLeave rule successful =>
    (Argument.text .traceLeave rule).map fun rule => .traceLeave rule successful
  | .traceFailure position reason isExpectation => do
    let position ← Argument.position .traceFailure length position
    let reason ← Argument.text .traceFailure reason
    return .traceFailure position reason isExpectation

end Signal

end MatcherHost
