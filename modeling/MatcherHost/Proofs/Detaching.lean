import MatcherHost.Proofs.Provenance
import MatcherHost.Proofs.Spelling
import MatcherHost.Tree.Render

/-! Detaching a value from the input it was parsed from. The copy holds no range, yet it is written
like the original and looked into like it; only the bytes of a range can change, and they do so
exactly when they are not UTF-8. -/
namespace MatcherHost

namespace Utf8

theorem lossy_encode (text : String) : lossy (encode text) = text := by
  have chars : (text.toList.map some).map (·.getD replacement) = text.toList := by
    rw [List.map_map]
    exact List.map_id text.toList
  rw [lossy, scan_encode, chars, String.ofList_toList]

/-- A forgiving reading that is spelled out again gives the bytes back if a strict one accepts
them. -/
theorem encode_lossy_eq_iff {bytes : Bytes} :
    encode (lossy bytes) = bytes ↔ (decode? bytes).isSome = true := by
  rw [Option.isSome_iff_exists]
  constructor
  · intro same
    exact ⟨lossy bytes, decode?_eq_some.mpr same.symm⟩
  · rintro ⟨content, decoded⟩
    rw [decode?_eq_some.mp decoded, lossy_encode]

end Utf8

namespace Value

mutual

theorem document_detach : (value : Value) → value.detach.document = value.document
  | .empty | .range _ | .boolean _ | .text _ => by simp only [detach, document]
  | .array items => by rw [detach, document, document, itemDocuments_detach items]
  | .mapping entries => by rw [detach, document, document, entryDocuments_detach entries]
  | .object className payload => by rw [detach, document, document, document_detach payload]

theorem itemDocuments_detach : (items : List Value) →
    itemDocuments (detachItems items) = itemDocuments items
  | [] => rfl
  | item :: rest => by
    rw [detachItems, itemDocuments, itemDocuments, document_detach item, itemDocuments_detach rest]

theorem entryDocuments_detach : (entries : List (String × Value)) →
    entryDocuments (detachEntries entries) = entryDocuments entries
  | [] => rfl
  | (label, value) :: rest => by
    rw [detachEntries, entryDocuments, entryDocuments, document_detach value,
      entryDocuments_detach rest]

end

theorem json_detach (value : Value) : value.detach.json = value.json :=
  congrArg Json.render (document_detach value)

/-! The parts of a copy are the copies of the parts. -/

theorem detachItems_eq_map (items : List Value) : detachItems items = items.map detach := by
  induction items with
  | nil => rfl
  | cons item rest ih => rw [detachItems, ih, List.map_cons]

theorem items?_detach (value : Value) : value.detach.items? = value.items?.map (·.map detach) := by
  cases value with
  | array items => rw [detach, items?, detachItems_eq_map]; rfl
  | _ => rfl

theorem get?_detachEntries (label : String) (entries : Entries Value) :
    Entries.get? label (detachEntries entries) = (Entries.get? label entries).map detach := by
  induction entries with
  | nil => rfl
  | cons entry rest ih =>
    obtain ⟨other, value⟩ := entry
    rw [detachEntries, Entries.get?, Entries.get?, ih]
    split <;> rfl

theorem get?_detach (label : String) (value : Value) :
    value.detach.get? label = (value.get? label).map detach := by
  cases value with
  | mapping entries => exact get?_detachEntries label entries
  | _ => rfl

/-! A copy holds no range, and what holds none is its own copy. -/

mutual

theorem not_holds_detach (piece : InputRange) : (value : Value) → ¬value.detach.Holds piece
  | .empty | .range _ | .boolean _ | .text _ => by simp [detach]
  | .array items => by
    rw [detach, holds_array]
    exact not_holds_detachItems piece items
  | .mapping entries => by
    rw [detach, holds_mapping]
    exact not_holds_detachEntries piece entries
  | .object className payload => by
    rw [detach, holds_object]
    exact not_holds_detach piece payload

theorem not_holds_detachItems (piece : InputRange) : (items : List Value) →
    ¬Stack.Holds piece (detachItems items)
  | [] => Stack.not_holds_nil
  | item :: rest => by
    rw [detachItems, Stack.holds_cons, not_or]
    exact ⟨not_holds_detach piece item, not_holds_detachItems piece rest⟩

theorem not_holds_detachEntries (piece : InputRange) : (entries : List (String × Value)) →
    ¬Entries.Holds piece (detachEntries entries)
  | [] => Entries.not_holds_nil
  | (label, value) :: rest => by
    rw [detachEntries, Entries.holds_cons, not_or]
    exact ⟨not_holds_detach piece value, not_holds_detachEntries piece rest⟩

end

mutual

theorem detach_of_rangeless : (value : Value) → (∀ piece, ¬value.Holds piece) →
    value.detach = value
  | .empty, _ | .boolean _, _ | .text _, _ => by simp only [detach]
  | .range piece, rangeless => absurd .range (rangeless piece)
  | .array items, rangeless => by
    simp only [holds_array] at rangeless
    rw [detach, detachItems_of_rangeless items rangeless]
  | .mapping entries, rangeless => by
    simp only [holds_mapping] at rangeless
    rw [detach, detachEntries_of_rangeless entries rangeless]
  | .object className payload, rangeless => by
    simp only [holds_object] at rangeless
    rw [detach, detach_of_rangeless payload rangeless]

theorem detachItems_of_rangeless : (items : List Value) → (∀ piece, ¬Stack.Holds piece items) →
    detachItems items = items
  | [], _ => rfl
  | item :: rest, rangeless => by
    simp only [Stack.holds_cons, not_or, forall_and] at rangeless
    rw [detachItems, detach_of_rangeless item rangeless.1,
      detachItems_of_rangeless rest rangeless.2]

theorem detachEntries_of_rangeless : (entries : List (String × Value)) →
    (∀ piece, ¬Entries.Holds piece entries) → detachEntries entries = entries
  | [], _ => rfl
  | (label, value) :: rest, rangeless => by
    simp only [Entries.holds_cons, not_or, forall_and] at rangeless
    rw [detachEntries, detach_of_rangeless value rangeless.1,
      detachEntries_of_rangeless rest rangeless.2]

end

theorem detach_eq_self_iff {value : Value} :
    value.detach = value ↔ ∀ piece, ¬value.Holds piece := by
  constructor
  · intro same piece
    rw [← same]
    exact not_holds_detach piece value
  · exact detach_of_rangeless value

/-- A detached value holds no range at any depth and has the same JSON text; it is the value itself
exactly when that held none. Its entries and items are the detached entries and items. Of a range
the same bytes remain exactly when they are UTF-8. -/
theorem detach_keeps_observed (value : Value) :
    (∀ piece, ¬value.detach.Holds piece) ∧
    value.detach.json = value.json ∧
    (value.detach = value ↔ ∀ piece, ¬value.Holds piece) ∧
    (∀ label, value.detach.get? label = (value.get? label).map detach) ∧
    value.detach.items? = value.items?.map (·.map detach) ∧
    ∀ piece, (detach (.range piece)).bytes? = (range piece).bytes? ↔
      (Utf8.decode? piece.bytes).isSome = true := by
  refine ⟨fun piece => not_holds_detach piece value, json_detach value, detach_eq_self_iff,
    fun label => get?_detach label value, items?_detach value, fun piece => ?_⟩
  rw [detach, bytes?, bytes?, Option.some.injEq]
  exact Utf8.encode_lossy_eq_iff

/-- A byte that spells nothing is replaced, and the replacement takes three. -/
example : (detach (.range ⟨[255], 0, 1, by decide, by decide⟩)).bytes? = some [239, 191, 189] := by
  decide +kernel

end Value
end MatcherHost
