import MatcherHost.Building.Effect
import MatcherHost.Building.Factory
import MatcherHost.Contract.Violation

/-! The stack on which a matcher assembles its result. Heights are checked before anything is
taken; kinds are checked after, so a value of the wrong kind is already gone when the operation
is refused. -/
namespace MatcherHost

/-- Values, the top one first. -/
abbrev Stack := List Value

namespace Stack

def take (operation : Operation) : Stack → Except Violation (Value × Stack)
  | [] => .error (.outputUnderflow operation 1 0)
  | top :: rest => .ok (top, rest)

def pushRange (input : Bytes) (start stop : Nat) (stack : Stack) : Effect Violation Stack :=
  match InputRange.of? input start stop with
  | some piece => .done (.range piece :: stack)
  | none => .refused stack (.invertedRange .pushInputRange start stop)

def pushArray : Bool → Stack → Effect Violation Stack
  | false, stack => .done (.array [] :: stack)
  | true, top :: rest => .done (.array [top] :: rest)
  | true, [] => .refused [] (.outputUnderflow .pushArray 1 0)

/-- Moves the top value to the end of the array beneath it. -/
def appendToArray : Stack → Effect Violation Stack
  | item :: .array items :: rest => .done (.array (items ++ [item]) :: rest)
  | _ :: other :: rest => .refused rest (.wrongKind .appendToArray "array" other.kind)
  | stack => .refused stack (.outputUnderflow .appendToArray 2 stack.length)

def makeLabel (label : String) : Stack → Effect Violation Stack
  | top :: rest => .done (.mapping [(label, top)] :: rest)
  | [] => .refused [] (.outputUnderflow .makeLabel 1 0)

/-- Takes `count` values one by one into `merged`. Each one taken later lies deeper and wins. -/
def gather : Nat → Entries Value → Stack → Effect Violation Stack
  | 0, merged, stack => .done (.mapping merged :: stack)
  | _ + 1, _, [] => .refused [] (.outputUnderflow .mergeLabels 1 0)
  | count + 1, merged, top :: rest =>
    match top.entries? with
    | some entries => gather count (merged.update entries) rest
    | none => .refused rest (.wrongKind .mergeLabels "mapping" top.kind)

/-- Replaces `count` mappings by their union, in which the one pushed earliest wins. -/
def mergeLabels (count : Nat) (stack : Stack) : Effect Violation Stack :=
  if stack.length < count then .refused stack (.outputUnderflow .mergeLabels count stack.length)
  else gather count [] stack

inductive NotMade
  | violation (cause : Violation)
  | aborted (abort : Abort)

/-- Replaces the top value by what the factory makes of it. The payload is taken first. -/
def makeObject (factory : Factory) (className : String) : Stack → Effect NotMade Stack
  | [] => .refused [] (.violation (.outputUnderflow .makeObject 1 0))
  | payload :: rest =>
    match factory className payload with
    | .ok made => .done (made :: rest)
    | .error abort => .refused rest (.aborted abort)

def NotMade.blame : NotMade → Violation
  | .violation cause => cause
  | .aborted abort => .callbackAborted .makeObject abort.report

def pop : Stack → Effect Violation Stack
  | _ :: rest => .done rest
  | [] => .refused [] (.outputUnderflow .pop 1 0)

def result : Stack → Except Violation Value
  | [value] => .ok value
  | stack => .error (.unbalancedResult stack.length)

end Stack
end MatcherHost
