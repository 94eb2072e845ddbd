import MatcherHost.Proofs.Rendering
import MatcherHost.Reading.Skip

/-! The machine that passes over a value stops right after every compact JSON text, however deep the
value is. What comes after a value has to show that a number is over; inside brackets and between
fields it does. -/
namespace MatcherHost.Reading

def Delimited (rest : List Char) : Prop :=
  ∃ c more, rest = c :: more ∧ (c = ',' ∨ c = ']' ∨ c = '\x7d')

/-! Numbers. A number written without a point or a power of ten is a zero, or it begins with another
digit. -/

theorem toDigits_positive {value : Nat} (positive : 0 < value) :
    ∃ first more, Nat.toDigits 10 value = first :: more ∧ first ≠ '0' := by
  induction value using Nat.strongRecOn with
  | ind value ih =>
    rw [Nat.toDigits_eq_if (by decide)]
    split
    · rename_i below
      refine ⟨Nat.digitChar value, [], rfl, ?_⟩
      rw [ne_eq, Nat.digitChar_eq_zero]
      exact Nat.pos_iff_ne_zero.mp positive
    · obtain ⟨first, more, digits, notZero⟩ := ih (value / 10) (by omega) (by omega)
      exact ⟨first, more ++ [_], by rw [digits, List.cons_append], notZero⟩

theorem ne_of_isDigit {c other : Char} (digit : c.isDigit = true)
    (notDigit : other.isDigit = false) : c ≠ other := by
  rintro rfl
  exact absurd digit (by simp [notDigit])

theorem isBlank_of_isDigit {c : Char} (digit : c.isDigit = true) : isBlank c = false := by
  have other {blank : Char} (notDigit : blank.isDigit = false) : c ≠ blank :=
    ne_of_isDigit digit notDigit
  simp [isBlank, @other ' ' rfl, @other '\n' rfl, @other '\t' rfl, @other '\r' rfl]

namespace NumberState

theorem step_whole {c : Char} (digit : c.isDigit = true) : step .whole c = .on .whole := by
  simp [step, digit]

theorem step_opening {c : Char} (digit : c.isDigit = true) (notZero : c ≠ '0') :
    step .opening c = .on .whole := by
  simp [step, digit, notZero]

theorem step_delimiter {state : NumberState} (plain : state = .zero ∨ state = .whole) {c : Char}
    (delimiter : c = ',' ∨ c = ']' ∨ c = '\x7d') : step state c = .stop := by
  rcases plain with rfl | rfl <;> rcases delimiter with rfl | rfl | rfl <;> rfl

end NumberState

theorem numberFrom_on {state later : NumberState} {c : Char} (moved : state.step c = .on later)
    (rest : List Char) : numberFrom state (c :: rest) = prepend c (numberFrom later rest) := by
  rw [numberFrom, moved]

theorem numberFrom_delimited {state : NumberState} (plain : state = .zero ∨ state = .whole)
    {rest : List Char} (delimited : Delimited rest) : numberFrom state rest = .ok ([], rest) := by
  obtain ⟨c, more, rfl, delimiter⟩ := delimited
  rw [numberFrom, NumberState.step_delimiter plain delimiter]

theorem numberFrom_digits {digits rest : List Char} (each : ∀ c ∈ digits, c.isDigit = true)
    (delimited : Delimited rest) : numberFrom .whole (digits ++ rest) = .ok (digits, rest) := by
  induction digits with
  | nil => exact numberFrom_delimited (.inr rfl) delimited
  | cons c more ih =>
    obtain ⟨first, later⟩ := List.forall_mem_cons.mp each
    rw [List.cons_append, numberFrom_on (NumberState.step_whole first), ih later]
    rfl

/-- Reading a number takes its digits and leaves what follows. -/
theorem numberFrom_toDigits (value : Nat) {rest : List Char} (delimited : Delimited rest) :
    numberFrom .opening (Nat.toDigits 10 value ++ rest) = .ok (Nat.toDigits 10 value, rest) := by
  rcases Nat.eq_zero_or_pos value with rfl | positive
  · have after := numberFrom_delimited (.inl rfl) delimited
    exact congrArg (prepend '0') after
  · obtain ⟨first, more, digits, notZero⟩ := toDigits_positive positive
    have each : ∀ c ∈ first :: more, c.isDigit = true := fun c member =>
      Json.toDigits_isDigit value (digits ▸ member)
    obtain ⟨lead, later⟩ := List.forall_mem_cons.mp each
    rw [digits, List.cons_append, numberFrom_on (NumberState.step_opening lead notZero),
      numberFrom_digits later delimited]
    rfl

/-! What the machine does after a value. -/

/-- The machine goes on inside the innermost bracket, or stops if none is open. -/
def resume : List Bracket → List Char → Except Fault (List Char)
  | [], rest => .ok rest
  | brackets, rest => skipFrom .next brackets rest

theorem skipFrom_to {mode later : Mode} {brackets opened : List Bracket} {c : Char}
    {rest : List Char} (moved : step mode brackets c rest = .to later opened) :
    skipFrom mode brackets (c :: rest) = skipFrom later opened rest := by
  rw [skipFrom, moved]

theorem skipFrom_settled {mode : Mode} {brackets outer : List Bracket} {c : Char}
    {rest : List Char} (moved : step mode brackets c rest = settled outer) :
    skipFrom mode brackets (c :: rest) = resume outer rest := by
  cases outer with
  | nil => rw [skipFrom, moved]; rfl
  | cons bracket outer => rw [skipFrom, moved]; rfl

/-- A number is over before the character that ends it, so that character is looked at again. -/
theorem skipFrom_number_delimited {state : NumberState} (plain : state = .zero ∨ state = .whole)
    (brackets : List Bracket) {rest : List Char} (delimited : Delimited rest) :
    skipFrom (.number state) brackets rest = resume brackets rest := by
  obtain ⟨c, more, rfl, delimiter⟩ := delimited
  have stopped := NumberState.step_delimiter plain delimiter
  cases brackets with
  | nil => simp [skipFrom, step, stopped, resume]
  | cons bracket outer => simp [skipFrom, step, stopped, resume]

theorem opening_digit {c : Char} (digit : c.isDigit = true) (notZero : c ≠ '0')
    (brackets : List Bracket) : opening brackets c = .to (.number .whole) brackets := by
  have other {letter : Char} (notDigit : letter.isDigit = false) : c ≠ letter :=
    ne_of_isDigit digit notDigit
  simp [opening, isBlank_of_isDigit digit, digit, notZero, @other 'n' rfl, @other 't' rfl,
    @other 'f' rfl, @other '-' rfl]

theorem skipFrom_digits {digits rest : List Char} (each : ∀ c ∈ digits, c.isDigit = true)
    (brackets : List Bracket) (delimited : Delimited rest) :
    skipFrom (.number .whole) brackets (digits ++ rest) = resume brackets rest := by
  induction digits with
  | nil => exact skipFrom_number_delimited (.inr rfl) brackets delimited
  | cons c more ih =>
    obtain ⟨first, later⟩ := List.forall_mem_cons.mp each
    have moved : step (.number .whole) brackets c (more ++ rest) =
        .to (.number .whole) brackets := by
      simp [step, NumberState.step_whole first]
    rw [List.cons_append, skipFrom_to moved, ih later]

/-! Strings. -/

theorem skipFrom_numbered {c : Char} (control : c.toNat < 0x20) (isName : Bool)
    (brackets : List Bracket) (rest : List Char) :
    skipFrom (.string isName .plain) brackets ('\\' :: 'u' :: Json.paddedHex 4 c.toNat ++ rest) =
      skipFrom (.string isName .plain) brackets rest := by
  obtain ⟨digits, high, low⟩ := paddedHex_control c.toNat control
  have zero : hexDigit? '0' = some 0 := by decide
  simp [digits, skipFrom, step, zero, high, low]

/-- What is written for one character leaves the machine inside the string. -/
theorem skipFrom_escape (isName : Bool) (brackets : List Bracket) (c : Char) (rest : List Char) :
    skipFrom (.string isName .plain) brackets (Json.escape c ++ rest) =
      skipFrom (.string isName .plain) brackets rest := by
  unfold Json.escape
  -- The seven characters that have a letter or stand for themselves after a reverse solidus.
  iterate 7
    split
    · rfl
  split
  · rename_i control
    exact skipFrom_numbered control isName brackets rest
  · rename_i notMark notSolidus _ _ _ _ _ printable
    have moved : step (.string isName .plain) brackets c rest =
        .to (.string isName .plain) brackets := by
      simp [step, notMark, notSolidus, printable]
    exact skipFrom_to moved

theorem skipFrom_quoted (isName : Bool) (brackets : List Bracket) (text rest : List Char) :
    skipFrom (.string isName .plain) brackets (text.flatMap Json.escape ++ '"' :: rest) =
      if isName then skipFrom .colon brackets rest else resume brackets rest := by
  induction text with
  | nil =>
    cases isName with
    | true => rfl
    | false => exact skipFrom_settled rfl
  | cons c more ih => rw [List.flatMap_cons, List.append_assoc, skipFrom_escape, ih]

/-! Whole documents. Lists of items and of fields differ only in their bracket. -/

namespace Bracket

def opens : Bracket → Char
  | .square => '['
  | .curly => '\x7b'

def closes : Bracket → Char
  | .square => ']'
  | .curly => '\x7d'

def piece : Bracket → Mode
  | .square => .value
  | .curly => .name

end Bracket

section Lists

variable (bracket : Bracket) (outer : List Bracket) (rest : List Char)

theorem skipFrom_open :
    skipFrom .value outer (bracket.opens :: rest) = skipFrom .first (bracket :: outer) rest := by
  cases bracket <;> rfl

theorem skipFrom_comma :
    skipFrom .next (bracket :: outer) (',' :: rest) =
      skipFrom bracket.piece (bracket :: outer) rest := by
  cases bracket <;> rfl

theorem skipFrom_close :
    skipFrom .next (bracket :: outer) (bracket.closes :: rest) = resume outer rest := by
  cases bracket <;> exact skipFrom_settled rfl

theorem skipFrom_close_first :
    skipFrom .first (bracket :: outer) (bracket.closes :: rest) = resume outer rest := by
  cases bracket <;> exact skipFrom_settled rfl

theorem skipFrom_first {c : Char} (notBlank : isBlank c = false) (notClose : c ≠ bracket.closes) :
    skipFrom .first (bracket :: outer) (c :: rest) =
      skipFrom bracket.piece (bracket :: outer) (c :: rest) := by
  cases bracket with
  | square =>
    have notBracket : c ≠ ']' := notClose
    simp [skipFrom, step, notBlank, notBracket, Bracket.piece]
  | curly =>
    have notBracket : c ≠ '\x7d' := notClose
    simp [skipFrom, step, notBlank, notBracket, Bracket.piece]

/-- The machine passes over a piece of a list and then expects what may follow one. -/
def Passes {α : Type} (write : α → List Char) (bracket : Bracket) (a : α) : Prop :=
  ∀ outer rest, Delimited rest →
    skipFrom bracket.piece (bracket :: outer) (write a ++ rest) =
      skipFrom .next (bracket :: outer) rest

variable {α : Type} {write : α → List Char}

theorem delimited_following (more : List α) :
    Delimited (more.flatMap (',' :: write ·) ++ bracket.closes :: rest) := by
  cases more with
  | nil =>
    refine ⟨bracket.closes, rest, rfl, .inr ?_⟩
    cases bracket with
    | square => exact .inl rfl
    | curly => exact .inr rfl
  | cons a more => exact ⟨',', _, rfl, .inl rfl⟩

theorem skipFrom_following {more : List α} (passes : ∀ a ∈ more, Passes write bracket a) :
    skipFrom .next (bracket :: outer) (more.flatMap (',' :: write ·) ++ bracket.closes :: rest) =
      resume outer rest := by
  induction more with
  | nil => exact skipFrom_close bracket outer rest
  | cons a more ih =>
    obtain ⟨first, later⟩ := List.forall_mem_cons.mp passes
    rw [List.flatMap_cons, List.append_assoc, List.cons_append, skipFrom_comma,
      first outer _ (delimited_following bracket rest more), ih later]

theorem skipFrom_list
    (begins : ∀ a, ∃ c more, write a = c :: more ∧ isBlank c = false ∧ c ≠ bracket.closes)
    {items : List α} (passes : ∀ a ∈ items, Passes write bracket a) :
    skipFrom .value outer
        (bracket.opens :: ([','].intercalate (items.map write) ++ bracket.closes :: rest)) =
      resume outer rest := by
  rw [skipFrom_open]
  cases items with
  | nil => exact skipFrom_close_first bracket outer rest
  | cons a items =>
    obtain ⟨first, later⟩ := List.forall_mem_cons.mp passes
    obtain ⟨c, more, written, notBlank, notClose⟩ := begins a
    rw [Json.intercalate_cons, List.append_assoc, written, List.cons_append,
      skipFrom_first bracket outer _ notBlank notClose, ← List.cons_append, ← written,
      first outer _ (delimited_following bracket rest items),
      skipFrom_following bracket outer rest later]

end Lists

/-- The machine passes over a document, wherever it stands. -/
def Skips (document : Json) : Prop :=
  ∀ brackets rest, Delimited rest →
    skipFrom .value brackets (document.chars ++ rest) = resume brackets rest

theorem chars_begins (document : Json) :
    ∃ c more, document.chars = c :: more ∧ isBlank c = false ∧ c ≠ ']' := by
  match document with
  | .number value =>
    cases digits : Nat.toDigits 10 value with
    | nil => exact absurd digits Nat.toDigits_ne_nil
    | cons c more =>
      have digit := Json.toDigits_isDigit value (digits ▸ List.mem_cons_self)
      exact ⟨c, more, digits, isBlank_of_isDigit digit, ne_of_isDigit digit rfl⟩
  | .null | .bool true | .bool false | .string _ | .array _ | .object _ =>
    exact ⟨_, _, rfl, by decide⟩

theorem fieldText_begins (field : String × Json) :
    ∃ c more, Json.fieldText field = c :: more ∧ isBlank c = false ∧ c ≠ '\x7d' :=
  ⟨'"', _, rfl, by decide⟩

theorem skips_word {document : Json} (word : document = .null ∨ ∃ flag, document = .bool flag) :
    Skips document := by
  intro brackets rest delimited
  rcases word with rfl | ⟨true | false, rfl⟩ <;> cases brackets <;> rfl

theorem skips_number (value : Nat) : Skips (.number value) := by
  intro brackets rest delimited
  rw [Json.chars]
  rcases Nat.eq_zero_or_pos value with rfl | positive
  · exact skipFrom_number_delimited (.inl rfl) brackets delimited
  · obtain ⟨first, more, digits, notZero⟩ := toDigits_positive positive
    have each : ∀ c ∈ first :: more, c.isDigit = true := fun c member =>
      Json.toDigits_isDigit value (digits ▸ member)
    obtain ⟨lead, later⟩ := List.forall_mem_cons.mp each
    have moved : step .value brackets first (more ++ rest) = .to (.number .whole) brackets :=
      opening_digit lead notZero brackets
    rw [digits, List.cons_append, skipFrom_to moved, skipFrom_digits later brackets delimited]

theorem skips_string (text : String) : Skips (.string text) := by
  intro brackets rest delimited
  have inside := skipFrom_quoted false brackets text.toList rest
  simp only [Json.chars, Json.quote, List.cons_append, List.append_assoc, List.nil_append]
  exact inside

theorem skips_array {items : List Json} (skips : ∀ item ∈ items, Skips item) :
    Skips (.array items) := by
  intro brackets rest delimited
  have passes : ∀ item ∈ items, Passes Json.chars .square item := fun item member outer rest =>
    skips item member (.square :: outer) rest
  simp only [Json.chars, Json.itemChars_eq, List.cons_append, List.append_assoc, List.nil_append]
  exact skipFrom_list .square brackets rest chars_begins passes

theorem passes_field {name : String} {value : Json} (skips : Skips value) :
    Passes Json.fieldText .curly (name, value) := by
  intro outer rest delimited
  have named := skipFrom_quoted true (.curly :: outer) name.toList (':' :: (value.chars ++ rest))
  simp only [Json.fieldText, Json.quote, List.cons_append, List.append_assoc, List.nil_append]
  exact named.trans (skips (.curly :: outer) rest delimited)

theorem skips_object {fields : List (String × Json)}
    (passes : ∀ field ∈ fields, Passes Json.fieldText .curly field) : Skips (.object fields) := by
  intro brackets rest delimited
  simp only [Json.chars, Json.fieldChars_eq, List.cons_append, List.append_assoc, List.nil_append]
  exact skipFrom_list .curly brackets rest fieldText_begins passes

mutual

theorem skips : (document : Json) → Skips document
  | .null => skips_word (.inl rfl)
  | .bool flag => skips_word (.inr ⟨flag, rfl⟩)
  | .number value => skips_number value
  | .string text => skips_string text
  | .array items => skips_array (items_skip items)
  | .object fields => skips_object (fields_pass fields)

theorem items_skip : (items : List Json) → ∀ item ∈ items, Skips item
  | [] => List.forall_mem_nil _
  | item :: rest => List.forall_mem_cons.mpr ⟨skips item, items_skip rest⟩

theorem fields_pass : (fields : List (String × Json)) →
    ∀ field ∈ fields, Passes Json.fieldText .curly field
  | [] => List.forall_mem_nil _
  | (_, value) :: rest =>
    List.forall_mem_cons.mpr ⟨passes_field (skips value), fields_pass rest⟩

end

/-- The text after a document is what follows it. -/
theorem skipValue_chars (document : Json) {rest : List Char} (delimited : Delimited rest) :
    skipValue (document.chars ++ rest) = .ok rest :=
  skips document [] rest delimited

end MatcherHost.Reading
