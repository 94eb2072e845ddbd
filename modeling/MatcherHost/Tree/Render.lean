import MatcherHost.Text.Json
import MatcherHost.Tree.Value

/-! The two texts of a value: its JSON document, which forgets the difference between a range
and its text, the empty value and the empty mapping, an object and the mapping of its two parts;
and the inspected form, which names every constructor. -/
namespace MatcherHost.Value

mutual

def document : Value → Json
  | .empty => .object []
  | .range piece => .string piece.text
  | .boolean flag => .bool flag
  | .text content => .string content
  | .array items => .array (itemDocuments items)
  | .mapping entries => .object (entryDocuments entries)
  | .object className payload =>
    .object [("class", .string className), ("payload", document payload)]

def itemDocuments : List Value → List Json
  | [] => []
  | item :: rest => document item :: itemDocuments rest

def entryDocuments : List (String × Value) → List (String × Json)
  | [] => []
  | (label, value) :: rest => (label, document value) :: entryDocuments rest

end

def json (value : Value) : String := value.document.render

mutual

def inspect : Value → String
  | .empty => "Empty"
  | .range piece => s!"Range({piece.inspect})"
  | .boolean flag => s!"Boolean({flag})"
  | .text content => s!"Text({Literal.quote content})"
  | .array items => "Array([" ++ ", ".intercalate (inspectItems items) ++ "])"
  | .mapping entries => "Mapping(\x7b" ++ ", ".intercalate (inspectEntries entries) ++ "\x7d)"
  | .object className payload =>
    Literal.record "Object" [("class", Literal.quote className), ("payload", inspect payload)]

def inspectItems : List Value → List String
  | [] => []
  | item :: rest => inspect item :: inspectItems rest

def inspectEntries : List (String × Value) → List String
  | [] => []
  | (label, value) :: rest => (Literal.quote label ++ ": " ++ inspect value) :: inspectEntries rest

end

end MatcherHost.Value
