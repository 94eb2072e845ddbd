import MatcherHost.Config.Read
import MatcherHost.Proofs.Skipping

/-! Settings given in compact JSON text. Whatever else an object holds, the settings it lists are
laid over the defaults, in whatever order they come; so the text written for some settings is read
back as them. -/
namespace MatcherHost.Config

open Reading

inductive Setting
  | traceCallbacks (flag : Bool)
  | entrySuffix (suffix : String)
  /-- The count fits a machine word. -/
  | contextBytes (count : UInt64)
  deriving DecidableEq, Repr

namespace Setting

def name : Setting → String
  | .traceCallbacks _ => "trace_callbacks"
  | .entrySuffix _ => "entry_suffix"
  | .contextBytes _ => "error_context_bytes"

def names : List String := ["trace_callbacks", "entry_suffix", "error_context_bytes"]

def value : Setting → Json
  | .traceCallbacks flag => .bool flag
  | .entrySuffix suffix => .string suffix
  | .contextBytes count => .number count.toNat

def onto (config : Config) : Setting → Config
  | .traceCallbacks flag => { config with traceCallbacks := flag }
  | .entrySuffix suffix => { config with entrySuffix := suffix }
  | .contextBytes count => { config with contextBytes := count.toNat }

def give (draft : Draft) : Setting → Draft
  | .traceCallbacks flag => { draft with traceCallbacks := some flag }
  | .entrySuffix suffix => { draft with entrySuffix := some suffix }
  | .contextBytes count => { draft with contextBytes := some count.toNat }

/-- Whether the draft has the setting already, with whatever value. -/
def isGiven (draft : Draft) : Setting → Bool
  | .traceCallbacks _ => draft.traceCallbacks.isSome
  | .entrySuffix _ => draft.entrySuffix.isSome
  | .contextBytes _ => draft.contextBytes.isSome

theorem config_give (draft : Draft) (setting : Setting) :
    (give draft setting).config = onto draft.config setting := by
  cases setting <;> rfl

/-- Giving a setting leaves those of other names as they were. -/
theorem isGiven_give {given setting : Setting} (other : given.name ≠ setting.name)
    (draft : Draft) : isGiven (give draft given) setting = isGiven draft setting := by
  cases given <;> cases setting <;> first | rfl | exact absurd rfl other

end Setting

/-- A field of an object: a setting, or anything under a name that no setting has. -/
inductive Field
  | setting (given : Setting)
  | unknown (name : String) (value : Json) (other : name ∉ Setting.names)

namespace Field

def entry : Field → String × Json
  | .setting given => (given.name, given.value)
  | .unknown name value _ => (name, value)

def setting? : Field → Option Setting
  | .setting given => some given
  | .unknown .. => none

def chars (field : Field) : List Char := Json.fieldText field.entry

def give (draft : Draft) : Field → Draft
  | .setting given => given.give draft
  | .unknown .. => draft

end Field

def settings (fields : List Field) : List Setting := fields.filterMap Field.setting?

theorem skipBlank_cons {c : Char} (notBlank : isBlank c = false) (rest : List Char) :
    skipBlank (c :: rest) = c :: rest :=
  List.dropWhile_cons_of_neg (by simp [notBlank])

/-! The values of settings. -/

theorem readColon_cons (rest : List Char) : readColon (':' :: rest) = .ok rest := rfl

theorem readFlag_chars (flag : Bool) (rest : List Char) :
    readFlag ((Json.bool flag).chars ++ rest) = .ok (flag, rest) := by
  cases flag <;> rfl

theorem string_quoted (text : String) (rest : List Char) :
    string (text.toList.flatMap Json.escape ++ '"' :: rest) = .ok (text, rest) := by
  rw [string, stringFrom_written]
  exact congrArg (fun content => Except.ok (content, rest)) String.ofList_toList

theorem readText_chars (text : String) (rest : List Char) :
    readText ((Json.string text).chars ++ rest) = .ok (text, rest) := by
  simp only [Json.chars, Json.quote, List.cons_append, List.append_assoc, List.nil_append]
  exact string_quoted text rest

theorem decimal_toDigits (value : Nat) : decimal (Nat.toDigits 10 value) = value := by
  have same : extend = fun sofar c => 10 * sofar + (c.toNat - '0'.toNat) := by
    funext sofar c
    rw [extend, Nat.mul_comm]
  rw [decimal, same, ← Nat.ofDigitChars_eq_foldl, Nat.ofDigitChars_ten_toDigits]

/-- A number that fits a machine word is read as itself. -/
theorem number_toDigits {value : Nat} (fits : value < wordBound) {rest : List Char}
    (delimited : Delimited rest) :
    number (Nat.toDigits 10 value ++ rest) = .ok (some value, rest) := by
  have unsigned : (Nat.toDigits 10 value ++ rest).head? ≠ some '-' := by
    intro head
    obtain ⟨more, text⟩ := List.head?_eq_some_iff.mp head
    exact absurd (Json.toDigits_lead text) (by decide)
  have digits : (Nat.toDigits 10 value).all Char.isDigit = true :=
    List.all_eq_true.mpr fun c => Json.toDigits_isDigit value
  simp only [number, if_neg unsigned, numberFrom_toDigits value delimited, decide_eq_false unsigned,
    digits, decimal_toDigits, bind, Except.bind]
  exact if_pos (by simp [fits])

theorem readNumber_chars (count : UInt64) {rest : List Char} (delimited : Delimited rest) :
    readNumber ((Json.number count.toNat).chars ++ rest) = .ok (count.toNat, rest) := by
  have read := number_toDigits (count.toNat_lt : _ < wordBound) delimited
  cases text : Nat.toDigits 10 count.toNat ++ rest with
  | nil => exact absurd (List.append_eq_nil_iff.mp text).1 Nat.toDigits_ne_nil
  | cons c more =>
    have digit : c.isDigit = true := Json.toDigits_lead text
    rw [text] at read
    simp [Json.chars, text, readNumber, skipBlank_cons (isBlank_of_isDigit digit), digit, read]

theorem readSetting_setting {draft : Draft} {setting : Setting}
    (free : setting.isGiven draft = false) {rest : List Char} (delimited : Delimited rest) :
    readSetting draft setting.name (':' :: (setting.value.chars ++ rest)) =
      .ok (setting.give draft, rest) := by
  cases setting with
  | traceCallbacks flag =>
    have absent : draft.traceCallbacks.isSome = false := free
    simp [readSetting, Setting.name, Setting.value, Setting.give, absent, readColon_cons,
      readFlag_chars, bind, Except.bind, pure, Except.pure]
  | entrySuffix suffix =>
    have absent : draft.entrySuffix.isSome = false := free
    simp [readSetting, Setting.name, Setting.value, Setting.give, absent, readColon_cons,
      readText_chars, bind, Except.bind, pure, Except.pure]
  | contextBytes count =>
    have absent : draft.contextBytes.isSome = false := free
    simp [readSetting, Setting.name, Setting.value, Setting.give, absent, readColon_cons,
      readNumber_chars count delimited, bind, Except.bind, pure, Except.pure]

theorem readSetting_unknown {name : String} (other : name ∉ Setting.names) (draft : Draft)
    (value : Json) {rest : List Char} (delimited : Delimited rest) :
    readSetting draft name (':' :: (value.chars ++ rest)) = .ok (draft, rest) := by
  simp only [Setting.names, List.mem_cons, List.not_mem_nil, or_false, not_or] at other
  obtain ⟨notTrace, notSuffix, notBytes⟩ := other
  simp [readSetting, notTrace, notSuffix, notBytes, readColon_cons,
    skipValue_chars value delimited, bind, Except.bind, pure, Except.pure]

/-! Fields one after another. -/

/-- No setting comes twice, and none has been given yet. -/
structure Fresh (draft : Draft) (fields : List Field) : Prop where
  free : ∀ setting ∈ settings fields, setting.isGiven draft = false
  once : ((settings fields).map Setting.name).Nodup

theorem Fresh.later {draft : Draft} {field : Field} {fields : List Field}
    (fresh : Fresh draft (field :: fields)) : Fresh (field.give draft) fields := by
  cases field with
  | unknown => exact ⟨fresh.free, fresh.once⟩
  | setting given =>
    obtain ⟨first, once⟩ := List.nodup_cons.mp fresh.once
    refine ⟨fun setting member => ?_, once⟩
    have other : given.name ≠ setting.name := fun same =>
      first (same ▸ List.mem_map_of_mem member)
    rw [Field.give, Setting.isGiven_give other]
    exact fresh.free setting (List.mem_cons_of_mem _ member)

theorem readField_quoted (draft : Draft) (name : String) (rest : List Char) :
    readField draft ('"' :: (name.toList.flatMap Json.escape ++ '"' :: rest)) =
      readSetting draft name rest := by
  have mark : isBlank '"' = false := rfl
  simp [readField, skipBlank_cons mark, string_quoted, bind, Except.bind]

theorem readField_chars {draft : Draft} {field : Field} {fields : List Field}
    (fresh : Fresh draft (field :: fields)) {rest : List Char} (delimited : Delimited rest) :
    readField draft (field.chars ++ rest) = .ok (field.give draft, rest) := by
  simp only [Field.chars, Json.fieldText, Json.quote, List.cons_append, List.append_assoc,
    List.nil_append, readField_quoted]
  cases field with
  | setting given => exact readSetting_setting (fresh.free given List.mem_cons_self) delimited
  | unknown name value other => exact readSetting_unknown other draft value delimited

/-- One field, when another follows it and when none does. -/
theorem readFields_comma {draft : Draft} {field : Field} {fields : List Field}
    (fresh : Fresh draft (field :: fields)) (fuel : Nat) (rest : List Char) :
    readFields (fuel + 1) draft (field.chars ++ ',' :: rest) =
      readFields fuel (field.give draft) rest := by
  have read := readField_chars fresh (⟨',', rest, rfl, .inl rfl⟩ : Delimited (',' :: rest))
  have comma : isBlank ',' = false := rfl
  simp [readFields, read, skipBlank_cons comma, bind, Except.bind]

theorem readFields_close {draft : Draft} {field : Field} {fields : List Field}
    (fresh : Fresh draft (field :: fields)) (fuel : Nat) (rest : List Char) :
    readFields (fuel + 1) draft (field.chars ++ '\x7d' :: rest) = .ok (field.give draft, rest) := by
  have read :=
    readField_chars fresh (⟨'\x7d', rest, rfl, .inr (.inr rfl)⟩ : Delimited ('\x7d' :: rest))
  have close : isBlank '\x7d' = false := rfl
  simp [readFields, read, skipBlank_cons close, bind, Except.bind]

theorem readFields_chars {draft : Draft} {field : Field} {more : List Field}
    (fresh : Fresh draft (field :: more)) {fuel : Nat} (enough : more.length < fuel)
    (rest : List Char) :
    readFields fuel draft (field.chars ++ (more.flatMap (',' :: Field.chars ·) ++ '\x7d' :: rest)) =
      .ok ((field :: more).foldl Field.give draft, rest) := by
  induction more generalizing draft field fuel with
  | nil =>
    obtain ⟨fuel, rfl⟩ := Nat.exists_eq_add_one.mpr enough
    exact readFields_close fresh fuel rest
  | cons following more ih =>
    obtain ⟨fuel, rfl⟩ := Nat.exists_eq_add_one.mpr (Nat.zero_lt_of_lt enough)
    rw [List.flatMap_cons, List.append_assoc, List.cons_append, readFields_comma fresh,
      ih fresh.later (Nat.lt_of_succ_lt_succ enough)]
    rfl

/-- Every field takes at least one character. -/
theorem length_le_chars (more : List Field) :
    more.length ≤ (more.flatMap (',' :: Field.chars ·)).length := by
  induction more with
  | nil => exact Nat.le_refl 0
  | cons field more ih =>
    simp only [List.flatMap_cons, List.length_append, List.length_cons]
    omega

theorem readObject_quoted (text : List Char) :
    readObject ('"' :: text) = readFields (text.length + 2) {} ('"' :: text) := rfl

theorem readObject_chars {fields : List Field} (fresh : Fresh {} fields) (rest : List Char) :
    readObject ([','].intercalate (fields.map Field.chars) ++ '\x7d' :: rest) =
      .ok (fields.foldl Field.give {}, rest) := by
  cases fields with
  | nil => rfl
  | cons field more =>
    obtain ⟨text, opened⟩ : ∃ text,
        field.chars ++ (more.flatMap (',' :: Field.chars ·) ++ '\x7d' :: rest) = '"' :: text :=
      ⟨_, rfl⟩
    have enough : more.length < text.length + 2 := by
      have lengths := congrArg List.length opened
      have atLeast := length_le_chars more
      simp only [List.length_append, List.length_cons] at lengths
      omega
    rw [Json.intercalate_cons, List.append_assoc, opened, readObject_quoted, ← opened,
      readFields_chars fresh enough]

theorem config_foldl_give (fields : List Field) (draft : Draft) :
    (fields.foldl Field.give draft).config =
      (settings fields).foldl Setting.onto draft.config := by
  induction fields generalizing draft with
  | nil => rfl
  | cons field fields ih =>
    cases field with
    | unknown => exact ih draft
    | setting given => rw [List.foldl_cons, ih, Field.give, Setting.config_give]; rfl

theorem read_object {fields : List Field} (once : ((settings fields).map Setting.name).Nodup) :
    read (Json.object (fields.map Field.entry)).render =
      .ok ((settings fields).foldl Setting.onto {}) := by
  have fresh : Fresh {} fields := by
    refine ⟨fun setting _ => ?_, once⟩
    cases setting <;> rfl
  have text : (Json.object (fields.map Field.entry)).chars =
      '\x7b' :: ([','].intercalate (fields.map Field.chars) ++ ['\x7d']) := by
    rw [Json.chars, Json.fieldChars_eq, List.map_map]
    rfl
  have bracket : isBlank '\x7b' = false := rfl
  simp only [read, Json.render, String.toList_ofList, text, skipBlank_cons bracket,
    readObject_chars fresh []]
  exact congrArg Except.ok (config_foldl_give fields {})

theorem read_json {config : Config} (fits : config.contextBytes < UInt64.size) :
    read config.json = .ok config := by
  have count : (UInt64.ofNat config.contextBytes).toNat = config.contextBytes :=
    UInt64.toNat_ofNat_of_lt' fits
  have once : Setting.names.Nodup := by decide
  have read := @read_object [.setting (.traceCallbacks config.traceCallbacks),
    .setting (.entrySuffix config.entrySuffix),
    .setting (.contextBytes (UInt64.ofNat config.contextBytes))] once
  simp only [List.map_cons, List.map_nil, Field.entry, Setting.name, Setting.value, count] at read
  exact read.trans (by simp [settings, Field.setting?, Setting.onto, count])

/-- The text of any settings is read back as them, provided the count of bytes fits a machine word.
An object that lists some settings, each of them once, is read as the defaults with these settings
replaced, in whatever order they come and whatever the object holds under other names. -/
theorem read_overlays_defaults :
    (∀ config : Config, config.contextBytes < UInt64.size → read config.json = .ok config) ∧
    ∀ fields : List Field, ((settings fields).map Setting.name).Nodup →
      read (Json.object (fields.map Field.entry)).render =
        .ok ((settings fields).foldl Setting.onto {}) :=
  ⟨fun _ => read_json, fun _ => read_object⟩

/-- Two settings among fields of another name, one of which holds a setting's name inside. -/
theorem read_overlays_scattered :
    let fields : List Field := [
      .unknown "extra" (.array [.null, .object [("entry_suffix", .number 30)]]) (by decide),
      .setting (.contextBytes 7),
      .unknown "extra" (.string "\"\\\n") (by decide),
      .setting (.entrySuffix "😀\t")]
    let config : Config := { entrySuffix := "😀\t", contextBytes := 7 }
    ((settings fields).map Setting.name).Nodup ∧
    read (Json.object (fields.map Field.entry)).render = .ok config ∧
    read config.json = .ok config := by
  intro fields config
  have once : ((settings fields).map Setting.name).Nodup := by decide
  obtain ⟨written, overlaid⟩ := read_overlays_defaults
  exact ⟨once, overlaid fields once, written config (by decide)⟩

end MatcherHost.Config
