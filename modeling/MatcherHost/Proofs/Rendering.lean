import Mathlib.Data.List.Basic
import MatcherHost.Reading.Token
import MatcherHost.Text.Json

/-! Compact JSON text can be taken apart again. A quoted text is read back whatever follows it, and
the text of a document can be told from the front of a longer text, so no two documents share a
text. Only numbers need care: their text could go on, so it has to be followed by something that is
not a digit. -/
namespace MatcherHost

namespace Reading

theorem paddedHex_control : ∀ point < 0x20,
    Json.paddedHex 4 point = ['0', '0', Nat.digitChar (point / 16), Nat.digitChar (point % 16)] ∧
      hexDigit? (Nat.digitChar (point / 16)) = some (point / 16) ∧
      hexDigit? (Nat.digitChar (point % 16)) = some (point % 16) := by
  decide +kernel

theorem stringFrom_numbered {c : Char} (control : c.toNat < 0x20) (rest : List Char) :
    stringFrom .plain ('\\' :: 'u' :: Json.paddedHex 4 c.toNat ++ rest) =
      prepend c (stringFrom .plain rest) := by
  obtain ⟨digits, high, low⟩ := paddedHex_control c.toNat control
  have zero : hexDigit? '0' = some 0 := by decide
  have spelled : c.toNat / 16 * 16 + c.toNat % 16 = c.toNat := by omega
  have meant : Unit16.of none c.toNat = .char c := by
    have notLow : ¬0xDC00 ≤ c.toNat := by omega
    have notHigh : ¬0xD800 ≤ c.toNat := by omega
    simp [Unit16.of, notLow, notHigh, Char.ofNat_toNat]
  simp [digits, stringFrom, zero, high, low, spelled, meant]

/-- What is written for one character is read as that character. -/
theorem stringFrom_escape (c : Char) (rest : List Char) :
    stringFrom .plain (Json.escape c ++ rest) = prepend c (stringFrom .plain rest) := by
  unfold Json.escape
  -- The seven characters that have a letter or stand for themselves after a reverse solidus.
  iterate 7
    split
    · subst_vars
      rfl
  split
  · rename_i control
    exact stringFrom_numbered control rest
  · rename_i notMark notSolidus _ _ _ _ _ printable
    simp [stringFrom, notMark, notSolidus, printable]

theorem stringFrom_written (text rest : List Char) :
    stringFrom .plain (text.flatMap Json.escape ++ '"' :: rest) = .ok (text, rest) := by
  induction text with
  | nil => rfl
  | cons c more ih =>
    rw [List.flatMap_cons, List.append_assoc, stringFrom_escape, ih]
    rfl

end Reading

namespace Json

/-- A quoted text ends where it says, whatever follows. -/
theorem quote_cancel {text other : String} {rest rest' : List Char}
    (same : quote text ++ rest = quote other ++ rest') : text = other ∧ rest = rest' := by
  simp only [quote, List.cons_append, List.append_assoc, List.nil_append, List.cons.injEq,
    true_and] at same
  have read := congrArg (Reading.stringFrom .plain) same
  rw [Reading.stringFrom_written, Reading.stringFrom_written, Except.ok.injEq,
    Prod.mk.injEq] at read
  exact ⟨String.toList_inj.mp read.1, read.2⟩

def Ends (rest : List Char) : Prop := ∀ c ∈ rest.head?, c.isDigit = false

theorem ends_nil : Ends [] := nofun

theorem ends_cons {c : Char} (notDigit : c.isDigit = false) (rest : List Char) :
    Ends (c :: rest) := by
  rintro _ ⟨⟩
  exact notDigit

theorem toDigits_isDigit (value : Nat) {c : Char} (member : c ∈ Nat.toDigits 10 value) :
    c.isDigit = true :=
  Nat.isDigit_of_mem_toDigits (by decide) (by decide) member

theorem takeWhile_toDigits (value : Nat) {rest : List Char} (ends : Ends rest) :
    (Nat.toDigits 10 value ++ rest).takeWhile Char.isDigit = Nat.toDigits 10 value := by
  rw [List.takeWhile_append_of_pos fun c member => toDigits_isDigit value member]
  cases rest with
  | nil => simp
  | cons c more =>
    have notDigit := ends c rfl
    simp [notDigit]

theorem toDigits_cancel {value other : Nat} {rest rest' : List Char} (ends : Ends rest)
    (ends' : Ends rest') (same : Nat.toDigits 10 value ++ rest = Nat.toDigits 10 other ++ rest') :
    value = other ∧ rest = rest' := by
  have digits := congrArg (List.takeWhile Char.isDigit) same
  rw [takeWhile_toDigits value ends, takeWhile_toDigits other ends'] at digits
  have values := congrArg (fun read => Nat.ofDigitChars 10 read 0) digits
  simp only [Nat.ofDigitChars_ten_toDigits] at values
  rw [digits] at same
  exact ⟨values, List.append_cancel_left same⟩

theorem toDigits_lead {value : Nat} {rest text : List Char} {c : Char}
    (same : Nat.toDigits 10 value ++ rest = c :: text) : c.isDigit = true := by
  cases digits : Nat.toDigits 10 value with
  | nil => exact absurd digits Nat.toDigits_ne_nil
  | cons first more =>
    rw [digits, List.cons_append, List.cons.injEq] at same
    rw [← same.1]
    exact toDigits_isDigit value (digits ▸ List.mem_cons_self)

/-- Where the text written for something ends can be seen, and it tells what it was written for. -/
def Cancels {α : Type} (write : α → List Char) (a : α) : Prop :=
  ∀ b rest rest', Ends rest → Ends rest' → write a ++ rest = write b ++ rest' →
    a = b ∧ rest = rest'

section Lists

variable {α : Type} {write : α → List Char} {close : Char}

theorem ends_following (notDigit : close.isDigit = false) (more : List α) (rest : List Char) :
    Ends (more.flatMap (',' :: write ·) ++ close :: rest) := by
  cases more with
  | nil => exact ends_cons notDigit rest
  | cons a more => exact ends_cons (by decide) _

/-- What follows the first piece of a list, up to the closing bracket. -/
theorem following_cancel (notComma : close ≠ ',') (notDigit : close.isDigit = false)
    {more others : List α} (cancels : ∀ a ∈ more, Cancels write a) {rest rest' : List Char}
    (same : more.flatMap (',' :: write ·) ++ close :: rest =
      others.flatMap (',' :: write ·) ++ close :: rest') : more = others ∧ rest = rest' := by
  induction more generalizing others with
  | nil =>
    cases others with
    | nil => exact ⟨rfl, (List.cons.inj same).2⟩
    | cons b others => exact absurd (List.cons.inj same).1 notComma
  | cons a more ih =>
    cases others with
    | nil => exact absurd (List.cons.inj same).1.symm notComma
    | cons b others =>
      obtain ⟨first, later⟩ := List.forall_mem_cons.mp cancels
      simp only [List.flatMap_cons, List.cons_append, List.append_assoc, List.cons.injEq,
        true_and] at same
      obtain ⟨rfl, tails⟩ := first b _ _ (ends_following notDigit more rest)
        (ends_following notDigit others rest') same
      obtain ⟨rfl, after⟩ := ih later tails
      exact ⟨rfl, after⟩

theorem intercalate_cons (a : α) (more : List α) :
    [','].intercalate ((a :: more).map write) = write a ++ more.flatMap (',' :: write ·) := by
  induction more generalizing a with
  | nil => simp
  | cons b more ih =>
    rw [List.map_cons, List.map_cons, List.intercalate_cons_cons, ← List.map_cons, ih]
    simp

theorem list_cancel (notComma : close ≠ ',') (notDigit : close.isDigit = false)
    (opens : ∀ a rest text, write a ++ rest ≠ close :: text) {items others : List α}
    (cancels : ∀ a ∈ items, Cancels write a) {rest rest' : List Char}
    (same : [','].intercalate (items.map write) ++ close :: rest =
      [','].intercalate (others.map write) ++ close :: rest') :
    items = others ∧ rest = rest' := by
  cases items with
  | nil =>
    cases others with
    | nil => exact ⟨rfl, (List.cons.inj same).2⟩
    | cons b others =>
      rw [intercalate_cons, List.append_assoc] at same
      exact absurd same.symm (opens b _ rest)
  | cons a items =>
    cases others with
    | nil =>
      rw [intercalate_cons, List.append_assoc] at same
      exact absurd same (opens a _ rest')
    | cons b others =>
      obtain ⟨first, later⟩ := List.forall_mem_cons.mp cancels
      rw [intercalate_cons, intercalate_cons, List.append_assoc, List.append_assoc] at same
      obtain ⟨rfl, tails⟩ := first b _ _ (ends_following notDigit items rest)
        (ends_following notDigit others rest') same
      obtain ⟨rfl, after⟩ := following_cancel notComma notDigit later tails
      exact ⟨rfl, after⟩

end Lists

def fieldText (field : String × Json) : List Char := quote field.1 ++ ':' :: chars field.2

theorem itemChars_eq (items : List Json) :
    itemChars items = [','].intercalate (items.map chars) := by
  induction items with
  | nil => rfl
  | cons item more ih =>
    cases more with
    | nil => simp [itemChars]
    | cons next more =>
      rw [List.map_cons, List.map_cons, List.intercalate_cons_cons, ← List.map_cons, ← ih]
      simp [itemChars]

theorem fieldChars_eq (fields : List (String × Json)) :
    fieldChars fields = [','].intercalate (fields.map fieldText) := by
  induction fields with
  | nil => rfl
  | cons field more ih =>
    cases more with
    | nil => simp [fieldChars, fieldText]
    | cons next more =>
      rw [List.map_cons, List.map_cons, List.intercalate_cons_cons, ← List.map_cons, ← ih]
      simp [fieldChars, fieldText]

theorem chars_ne_close (document : Json) (rest text : List Char) :
    document.chars ++ rest ≠ ']' :: text := by
  intro same
  match document with
  | .number value => exact absurd (toDigits_lead same) (by decide)
  | .null | .bool true | .bool false | .string _ | .array _ | .object _ =>
    simp [chars, quote] at same

theorem fieldText_ne_close (field : String × Json) (rest text : List Char) :
    fieldText field ++ rest ≠ '\x7d' :: text := by
  simp [fieldText, quote]

theorem array_cancel {items : List Json} (cancels : ∀ item ∈ items, Cancels chars item) :
    Cancels chars (.array items) := by
  intro other rest rest' ends ends' same
  match other with
  | .number value => exact absurd (toDigits_lead same.symm) (by decide)
  | .array others =>
    simp only [chars, itemChars_eq, List.cons_append, List.append_assoc, List.nil_append,
      List.cons.injEq, true_and] at same
    obtain ⟨rfl, after⟩ := list_cancel (by decide) (by decide) chars_ne_close cancels same
    exact ⟨rfl, after⟩
  | .null | .bool true | .bool false | .string _ | .object _ => simp [chars, quote] at same

theorem object_cancel {fields : List (String × Json)}
    (cancels : ∀ field ∈ fields, Cancels fieldText field) : Cancels chars (.object fields) := by
  intro other rest rest' ends ends' same
  match other with
  | .number value => exact absurd (toDigits_lead same.symm) (by decide)
  | .object others =>
    simp only [chars, fieldChars_eq, List.cons_append, List.append_assoc, List.nil_append,
      List.cons.injEq, true_and] at same
    obtain ⟨rfl, after⟩ := list_cancel (by decide) (by decide) fieldText_ne_close cancels same
    exact ⟨rfl, after⟩
  | .null | .bool true | .bool false | .string _ | .array _ => simp [chars, quote] at same

theorem string_cancel (text : String) : Cancels chars (.string text) := by
  intro other rest rest' ends ends' same
  match other with
  | .number value => exact absurd (toDigits_lead same.symm) (by decide)
  | .string _ =>
    obtain ⟨rfl, after⟩ := quote_cancel same
    exact ⟨rfl, after⟩
  | .null | .bool true | .bool false | .array _ | .object _ => simp [chars, quote] at same

theorem number_cancel (value : Nat) : Cancels chars (.number value) := by
  intro other rest rest' ends ends' same
  match other with
  | .number _ =>
    obtain ⟨rfl, after⟩ := toDigits_cancel ends ends' same
    exact ⟨rfl, after⟩
  | .null | .bool true | .bool false | .string _ | .array _ | .object _ =>
    exact absurd (toDigits_lead same) (by decide)

theorem word_cancel {document : Json} (word : document = .null ∨ ∃ flag, document = .bool flag) :
    Cancels chars document := by
  intro other rest rest' ends ends' same
  rcases word with rfl | ⟨true | false, rfl⟩ <;>
  match other with
  | .number value => exact absurd (toDigits_lead same.symm) (by decide)
  | .null | .bool true | .bool false | .string _ | .array _ | .object _ =>
    simp_all [chars, quote]

theorem field_cancel {name : String} {value : Json} (cancels : Cancels chars value) :
    Cancels fieldText (name, value) := by
  rintro ⟨other, document⟩ rest rest' ends ends' same
  simp only [fieldText, List.append_assoc, List.cons_append] at same
  obtain ⟨rfl, values⟩ := quote_cancel same
  obtain ⟨rfl, after⟩ := cancels document rest rest' ends ends' (List.cons.inj values).2
  exact ⟨rfl, after⟩

mutual

theorem chars_cancels : (document : Json) → Cancels chars document
  | .null => word_cancel (.inl rfl)
  | .bool flag => word_cancel (.inr ⟨flag, rfl⟩)
  | .number value => number_cancel value
  | .string text => string_cancel text
  | .array items => array_cancel (items_cancel items)
  | .object fields => object_cancel (fields_cancel fields)

theorem items_cancel : (items : List Json) → ∀ item ∈ items, Cancels chars item
  | [] => nofun
  | item :: rest => List.forall_mem_cons.mpr ⟨chars_cancels item, items_cancel rest⟩

theorem fields_cancel : (fields : List (String × Json)) → ∀ field ∈ fields, Cancels fieldText field
  | [] => nofun
  | (_, value) :: rest =>
    List.forall_mem_cons.mpr ⟨field_cancel (chars_cancels value), fields_cancel rest⟩

end

/-- Distinct documents have distinct texts. -/
theorem render_inj {document other : Json} : document.render = other.render ↔ document = other := by
  constructor
  · intro same
    have texts : document.chars ++ [] = other.chars ++ [] := by
      simpa using String.ofList_injective same
    exact (chars_cancels document other [] [] ends_nil ends_nil texts).1
  · rintro rfl
    rfl

end Json
end MatcherHost
