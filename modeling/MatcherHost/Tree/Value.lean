import MatcherHost.Tree.Entries
import MatcherHost.Tree.InputRange

/-! The trees that matchers build: pieces of the input, truth values and texts at the leaves,
with arrays, labelled mappings and classed objects above them. -/
namespace MatcherHost

inductive Kind
  | empty
  | range
  | boolean
  | text
  | array
  | mapping
  | object
  deriving DecidableEq, Repr

namespace Kind

def name : Kind → String
  | .empty => "empty"
  | .range => "range"
  | .boolean => "boolean"
  | .text => "text"
  | .array => "array"
  | .mapping => "mapping"
  | .object => "object"

def inspect : Kind → String
  | .empty => "Empty"
  | .range => "Range"
  | .boolean => "Boolean"
  | .text => "Text"
  | .array => "Array"
  | .mapping => "Mapping"
  | .object => "Object"

end Kind

/-- The entries of a mapping stand in ascending label order; `Value.Ordered` says so at every
depth. The host builds no other mappings. -/
inductive Value
  | empty
  | range (piece : InputRange)
  | boolean (flag : Bool)
  | text (content : String)
  | array (items : List Value)
  | mapping (entries : List (String × Value))
  | object (className : String) (payload : Value)
  deriving Inhabited

namespace Value

def kind : Value → Kind
  | .empty => .empty
  | .range _ => .range
  | .boolean _ => .boolean
  | .text _ => .text
  | .array _ => .array
  | .mapping _ => .mapping
  | .object .. => .object

def bytes? : Value → Option Bytes
  | .range piece => some piece.bytes
  | .text content => some (Utf8.encode content)
  | _ => none

def text? : Value → Option String
  | .range piece => some piece.text
  | .text content => some content
  | _ => none

def bool? : Value → Option Bool
  | .boolean flag => some flag
  | _ => none

def items? : Value → Option (List Value)
  | .array items => some items
  | _ => none

def get? (label : String) : Value → Option Value
  | .mapping entries => Entries.get? label entries
  | _ => none

/-- The value as labelled entries: the empty value has none, and nothing else but a mapping
has any. -/
def entries? : Value → Option (Entries Value)
  | .empty => some []
  | .mapping entries => some entries
  | _ => none

mutual

/-- The same tree with every input range replaced by its text. -/
def detach : Value → Value
  | .empty => .empty
  | .range piece => .text piece.text
  | .boolean flag => .boolean flag
  | .text content => .text content
  | .array items => .array (detachItems items)
  | .mapping entries => .mapping (detachEntries entries)
  | .object className payload => .object className (detach payload)

def detachItems : List Value → List Value
  | [] => []
  | item :: rest => detach item :: detachItems rest

def detachEntries : List (String × Value) → List (String × Value)
  | [] => []
  | (label, value) :: rest => (label, detach value) :: detachEntries rest

end

mutual

def Ordered : Value → Prop
  | .array items => OrderedItems items
  | .mapping entries => Entries.Ascending entries ∧ OrderedEntries entries
  | .object _ payload => Ordered payload
  | _ => True

def OrderedItems : List Value → Prop
  | [] => True
  | item :: rest => Ordered item ∧ OrderedItems rest

def OrderedEntries : List (String × Value) → Prop
  | [] => True
  | (_, value) :: rest => Ordered value ∧ OrderedEntries rest

end

mutual

def same : Value → Value → Bool
  | .empty, .empty => true
  | .range a, .range b => a = b
  | .boolean a, .boolean b => a = b
  | .text a, .text b => a = b
  | .array a, .array b => sameItems a b
  | .mapping a, .mapping b => sameEntries a b
  | .object a v, .object b w => a = b && same v w
  | _, _ => false

def sameItems : List Value → List Value → Bool
  | [], [] => true
  | a :: as, b :: bs => same a b && sameItems as bs
  | _, _ => false

def sameEntries : List (String × Value) → List (String × Value) → Bool
  | [], [] => true
  | (a, v) :: as, (b, w) :: bs => a = b && same v w && sameEntries as bs
  | _, _ => false

end

mutual

theorem same_iff (a b : Value) : same a b = true ↔ a = b := by
  cases a <;> cases b <;> simp [same]
  case array.array a b => exact sameItems_iff a b
  case mapping.mapping a b => exact sameEntries_iff a b
  case object.object a v b w => intro; exact same_iff v w

theorem sameItems_iff (a b : List Value) : sameItems a b = true ↔ a = b := by
  cases a <;> cases b <;> simp [sameItems]
  case cons.cons a as b bs => rw [same_iff a b, sameItems_iff as bs]

theorem sameEntries_iff (a b : List (String × Value)) : sameEntries a b = true ↔ a = b := by
  match a, b with
  | [], [] => simp [sameEntries]
  | [], _ :: _ => simp [sameEntries]
  | _ :: _, [] => simp [sameEntries]
  | (a, v) :: as, (b, w) :: bs =>
    simp only [sameEntries, Bool.and_eq_true, decide_eq_true_eq, List.cons.injEq, Prod.mk.injEq]
    rw [same_iff v w, sameEntries_iff as bs]

end

instance : DecidableEq Value := fun a b => decidable_of_iff (same a b = true) (same_iff a b)

end Value
end MatcherHost
