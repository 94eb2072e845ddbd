import MatcherHost.Contract.Operation
import MatcherHost.Text.Literal

/-! Callbacks whose arguments have been read. -/
namespace MatcherHost

/-- A callback with arguments that make sense: positions as offsets, texts and counts. -/
inductive Call
  | pushEmpty
  | pushInputRange (start stop : Nat)
  | pushBoolean (flag : Bool)
  | pushString (content : String)
  | pushArray (wrapTop : Bool)
  | appendToArray
  | makeLabel (label : String)
  | mergeLabels (count : Nat)
  | makeValue
  | makeObject (className : String)
  | pop
  | localsPush (count : Nat)
  | localsLoad (index : Nat)
  | localsPop (count : Nat)
  | matchAt (position : Nat)
  | setAsSource
  | readFromSource
  | traceEnter (rule : String)
  | traceLeave (rule : String) (successful : Bool)
  | traceFailure (position : Nat) (reason : String) (isExpectation : Bool)
  deriving DecidableEq, Repr

namespace Call

def operation : Call → Operation
  | .pushEmpty => .pushEmpty
  | .pushInputRange .. => .pushInputRange
  | .pushBoolean _ => .pushBoolean
  | .pushString _ => .pushString
  | .pushArray _ => .pushArray
  | .appendToArray => .appendToArray
  | .makeLabel _ => .makeLabel
  | .mergeLabels _ => .mergeLabels
  | .makeValue => .makeValue
  | .makeObject _ => .makeObject
  | .pop => .pop
  | .localsPush _ => .localsPush
  | .localsLoad _ => .localsLoad
  | .localsPop _ => .localsPop
  | .matchAt _ => .matchAt
  | .setAsSource => .setAsSource
  | .readFromSource => .readFromSource
  | .traceEnter _ => .traceEnter
  | .traceLeave .. => .traceLeave
  | .traceFailure .. => .traceFailure

def inspect (call : Call) : String :=
  let name := call.operation.inspect
  match call with
  | .pushInputRange start stop =>
    Literal.record name [("start", toString start), ("end", toString stop)]
  | .pushArray wrapTop => Literal.record name [("append_current", toString wrapTop)]
  | .traceLeave rule successful =>
    Literal.record name [("rule", Literal.quote rule), ("successful", toString successful)]
  | .traceFailure position reason isExpectation =>
    Literal.record name [("position", toString position), ("reason", Literal.quote reason),
      ("is_expectation", toString isExpectation)]
  | .pushBoolean flag => s!"{name}({flag})"
  | .pushString content => s!"{name}({Literal.quote content})"
  | .makeLabel label => s!"{name}({Literal.quote label})"
  | .makeObject className => s!"{name}({Literal.quote className})"
  | .traceEnter rule => s!"{name}({Literal.quote rule})"
  | .mergeLabels number | .localsPush number | .localsLoad number | .localsPop number
  | .matchAt number => s!"{name}({number})"
  | _ => name

end Call
end MatcherHost
