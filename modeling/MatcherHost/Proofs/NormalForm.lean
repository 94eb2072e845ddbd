import MatcherHost.Proofs.Rendering
import MatcherHost.Tree.Render

/-! What the JSON text of a value tells and what it forgets. A range cannot be told from its text,
the empty value from a mapping without entries, nor an object from a mapping of its two parts; the
normal form chooses one of each, and the texts of two values agree exactly when their normal forms
do. -/
namespace MatcherHost

namespace Value

mutual

/-- The value with everything resolved that its JSON text does not tell. -/
def normal : Value → Value
  | .empty => .mapping []
  | .range piece => .text piece.text
  | .boolean flag => .boolean flag
  | .text content => .text content
  | .array items => .array (normalItems items)
  | .mapping entries => .mapping (normalEntries entries)
  | .object className payload =>
    .mapping [("class", .text className), ("payload", normal payload)]

def normalItems : List Value → List Value
  | [] => []
  | item :: rest => normal item :: normalItems rest

def normalEntries : List (String × Value) → List (String × Value)
  | [] => []
  | (label, value) :: rest => (label, normal value) :: normalEntries rest

end

mutual

theorem document_normal : (value : Value) → value.normal.document = value.document
  | .empty | .range _ | .boolean _ | .text _ => by simp [normal, document, entryDocuments]
  | .array items => by rw [normal, document, document, itemDocuments_normal items]
  | .mapping entries => by rw [normal, document, document, entryDocuments_normal entries]
  | .object className payload => by
    simp [normal, document, entryDocuments, document_normal payload]

theorem itemDocuments_normal : (items : List Value) →
    itemDocuments (normalItems items) = itemDocuments items
  | [] => rfl
  | item :: rest => by
    rw [normalItems, itemDocuments, itemDocuments, document_normal item, itemDocuments_normal rest]

theorem entryDocuments_normal : (entries : List (String × Value)) →
    entryDocuments (normalEntries entries) = entryDocuments entries
  | [] => rfl
  | (label, value) :: rest => by
    rw [normalEntries, entryDocuments, entryDocuments, document_normal value,
      entryDocuments_normal rest]

end

end Value

namespace Json

mutual

/-- The normal form that a document stands for. No value has numbers or nulls, so these are left
out of account. -/
def value : Json → Value
  | .null | .number _ => .empty
  | .bool flag => .boolean flag
  | .string text => .text text
  | .array items => .array (itemValues items)
  | .object fields => .mapping (fieldValues fields)

def itemValues : List Json → List Value
  | [] => []
  | item :: rest => value item :: itemValues rest

def fieldValues : List (String × Json) → List (String × Value)
  | [] => []
  | (name, field) :: rest => (name, value field) :: fieldValues rest

end

end Json

namespace Value

mutual

theorem value_document : (value : Value) → value.document.value = value.normal
  | .empty | .range _ | .boolean _ | .text _ => by
    simp [normal, document, Json.value, Json.fieldValues]
  | .array items => by rw [normal, document, Json.value, itemValues_itemDocuments items]
  | .mapping entries => by rw [normal, document, Json.value, fieldValues_entryDocuments entries]
  | .object className payload => by
    simp [normal, document, Json.value, Json.fieldValues, value_document payload]

theorem itemValues_itemDocuments : (items : List Value) →
    Json.itemValues (itemDocuments items) = normalItems items
  | [] => rfl
  | item :: rest => by
    rw [normalItems, itemDocuments, Json.itemValues, value_document item,
      itemValues_itemDocuments rest]

theorem fieldValues_entryDocuments : (entries : List (String × Value)) →
    Json.fieldValues (entryDocuments entries) = normalEntries entries
  | [] => rfl
  | (label, value) :: rest => by
    rw [normalEntries, entryDocuments, Json.fieldValues, value_document value,
      fieldValues_entryDocuments rest]

end

theorem document_eq_iff {value other : Value} :
    value.document = other.document ↔ value.normal = other.normal := by
  constructor
  · intro same
    have read := congrArg Json.value same
    rwa [value_document, value_document] at read
  · intro same
    have written := congrArg document same
    rwa [document_normal, document_normal] at written

/-- Two values have the same JSON text exactly when they have the same normal form. -/
theorem json_eq_iff_normal_eq (value other : Value) :
    value.json = other.json ↔ value.normal = other.normal :=
  Json.render_inj.trans document_eq_iff

/-- An object is written like a mapping of its parts, and a range like its text. -/
example : json (.object "key" (.range ⟨[97, 98], 1, 2, by decide, by decide⟩)) =
    json (.mapping [("class", .text "key"), ("payload", .text "b")]) := by
  decide +kernel

end Value
end MatcherHost
