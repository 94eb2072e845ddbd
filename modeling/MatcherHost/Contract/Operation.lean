/-! The callbacks a matcher may issue, in the order of their slots in the callback table. -/
namespace MatcherHost

inductive Operation
  | pushEmpty
  | pushInputRange
  | pushBoolean
  | pushString
  | pushArray
  | appendToArray
  | makeLabel
  | mergeLabels
  | makeValue
  | makeObject
  | pop
  | localsPush
  | localsLoad
  | localsPop
  | matchAt
  | setAsSource
  | readFromSource
  | traceEnter
  | traceLeave
  | traceFailure
  deriving DecidableEq, Repr

namespace Operation

/-- Every callback, in slot order. -/
def all : List Operation := [
  .pushEmpty, .pushInputRange, .pushBoolean, .pushString, .pushArray, .appendToArray,
  .makeLabel, .mergeLabels, .makeValue, .makeObject, .pop, .localsPush, .localsLoad,
  .localsPop, .matchAt, .setAsSource, .readFromSource, .traceEnter, .traceLeave, .traceFailure]

def slot (operation : Operation) : Nat := all.idxOf operation

def name : Operation → String
  | .pushEmpty => "pushEmpty"
  | .pushInputRange => "pushInputRange"
  | .pushBoolean => "pushBoolean"
  | .pushString => "pushString"
  | .pushArray => "pushArray"
  | .appendToArray => "appendToArray"
  | .makeLabel => "makeLabel"
  | .mergeLabels => "mergeLabels"
  | .makeValue => "makeValue"
  | .makeObject => "makeObject"
  | .pop => "pop"
  | .localsPush => "localsPush"
  | .localsLoad => "localsLoad"
  | .localsPop => "localsPop"
  | .matchAt => "match"
  | .setAsSource => "setAsSource"
  | .readFromSource => "readFromSource"
  | .traceEnter => "traceEnter"
  | .traceLeave => "traceLeave"
  | .traceFailure => "traceFailure"

def ofName? (name : String) : Option Operation := all.find? (·.name = name)

def inspect (operation : Operation) : String := operation.name.capitalize

/-- Reserved callbacks have a slot and are always refused. -/
def reserved : Operation → Bool
  | .makeValue | .setAsSource | .readFromSource => true
  | _ => false

/-- Callbacks are ordered by slot. -/
instance : Ord Operation := ⟨fun a b => compare a.slot b.slot⟩

end Operation
end MatcherHost
