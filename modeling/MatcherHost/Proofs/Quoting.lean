import MatcherHost.Proofs.Rendering
import MatcherHost.Reporting.Diagnostic

/-! The message of a diagnostic can be taken apart again. Its numbers end at the first character
that is not a digit, and the quoted context ends at the first quotation mark that stands alone,
whatever the context holds; what is left is the reasons. -/
namespace MatcherHost

namespace Literal

def hexValue (digits : List Char) : Nat :=
  digits.foldl (fun value c => value * 16 + (Reading.hexDigit? c).getD 0) 0

theorem hexDigit?_digitChar : ∀ digit < 16,
    Reading.hexDigit? (Nat.digitChar digit) = some digit := by
  decide

theorem hexValue_concat (digits : List Char) {digit : Nat} (below : digit < 16) :
    hexValue (digits ++ [Nat.digitChar digit]) = hexValue digits * 16 + digit := by
  simp [hexValue, hexDigit?_digitChar digit below]

theorem hexValue_toDigits (value : Nat) : hexValue (Nat.toDigits 16 value) = value := by
  induction value using Nat.strongRecOn with
  | ind value ih =>
    rw [Nat.toDigits_eq_if (by decide)]
    split
    · rename_i below
      exact (hexValue_concat [] below).trans (Nat.zero_add value)
    · rw [hexValue_concat _ (Nat.mod_lt value (by decide)), ih (value / 16) (by omega)]
      omega

def isHexDigit (c : Char) : Bool := (Reading.hexDigit? c).isSome

theorem isHexDigit_of_mem_toDigits {value : Nat} {c : Char}
    (member : c ∈ Nat.toDigits 16 value) : isHexDigit c = true := by
  have digit (small : Nat) (below : small < 16) : isHexDigit (Nat.digitChar small) = true := by
    rw [isHexDigit, hexDigit?_digitChar small below, Option.isSome_some]
  induction value using Nat.strongRecOn with
  | ind value ih =>
    rw [Nat.toDigits_eq_if (by decide)] at member
    split at member
    · rename_i below
      exact List.mem_singleton.mp member ▸ digit value below
    · rcases List.mem_append.mp member with front | last
      · exact ih (value / 16) (by omega) front
      · exact List.mem_singleton.mp last ▸ digit (value % 16) (Nat.mod_lt value (by decide))

def meant? (c : Char) : Option Char :=
  if c = '"' ∨ c = '\\' then some c
  else if c = '0' then some '\x00'
  else if c = 't' then some '\t'
  else if c = 'n' then some '\n'
  else if c = 'r' then some '\r'
  else none

/-- Reads one character of a quoted text, and what follows it. -/
def readOne : List Char → Option (Char × List Char)
  | '\\' :: 'u' :: '\x7b' :: rest =>
    some (Char.ofNat (hexValue (rest.takeWhile isHexDigit)), (rest.dropWhile isHexDigit).drop 1)
  | '\\' :: letter :: rest => (meant? letter).map (·, rest)
  | c :: rest => if c = '"' then none else some (c, rest)
  | [] => none

theorem readOne_numbered (c : Char) (rest : List Char) :
    readOne (numbered c.toNat ++ rest) = some (c, rest) := by
  have digits : ∀ digit ∈ Nat.toDigits 16 c.toNat, isHexDigit digit = true := fun _ =>
    isHexDigit_of_mem_toDigits
  have stop : isHexDigit '\x7d' = false := rfl
  simp [numbered, readOne, List.takeWhile_append_of_pos digits, List.dropWhile_append_of_pos digits,
    stop, hexValue_toDigits, Char.ofNat_toNat]

theorem readOne_escape (c : Char) (rest : List Char) :
    readOne (escape c ++ rest) = some (c, rest) := by
  unfold escape
  -- The six characters that are written with a reverse solidus and one more character.
  iterate 6
    split
    · subst_vars
      rfl
  split
  · exact readOne_numbered c rest
  split
  · exact readOne_numbered c rest
  · rename_i notMark notSolidus _ _ _ _ _ _
    simp [readOne, notMark, notSolidus]

theorem readOne_end (rest : List Char) : readOne ('"' :: rest) = none := rfl

/-- The escaped characters of two texts, each up to its closing quotation mark. -/
theorem escaped_cancel {text other rest rest' : List Char}
    (same : text.flatMap escape ++ '"' :: rest = other.flatMap escape ++ '"' :: rest') :
    text = other ∧ rest = rest' := by
  induction text generalizing other with
  | nil =>
    cases other with
    | nil => exact ⟨rfl, (List.cons.inj same).2⟩
    | cons c more =>
      have read := congrArg readOne same
      rw [List.flatMap_nil, List.nil_append, readOne_end, List.flatMap_cons, List.append_assoc,
        readOne_escape] at read
      exact absurd read.symm (Option.some_ne_none _)
  | cons c more ih =>
    have read := congrArg readOne same
    rw [List.flatMap_cons, List.append_assoc, readOne_escape] at read
    cases other with
    | nil =>
      rw [List.flatMap_nil, List.nil_append, readOne_end] at read
      exact absurd read (Option.some_ne_none _)
    | cons d others =>
      rw [List.flatMap_cons, List.append_assoc, readOne_escape, Option.some.injEq,
        Prod.mk.injEq] at read
      obtain ⟨rfl, tails⟩ := read
      obtain ⟨rfl, after⟩ := ih tails
      exact ⟨rfl, after⟩

theorem toList_quote (text : String) : (quote text).toList = chars text := String.toList_ofList

/-- A quoted text ends where it says, whatever it holds and whatever follows. -/
theorem chars_cancel {text other : String} {rest rest' : List Char}
    (same : chars text ++ rest = chars other ++ rest') : text = other ∧ rest = rest' := by
  simp only [chars, List.cons_append, List.append_assoc, List.nil_append, List.cons.injEq,
    true_and] at same
  obtain ⟨texts, after⟩ := escaped_cancel same
  exact ⟨String.toList_inj.mp texts, after⟩

end Literal

namespace Diagnostic

/-- The message, with the character that ends each of its numbers set apart. -/
theorem toList_message (diagnostic : Diagnostic) :
    diagnostic.message.toList =
      "at line ".toList ++ (Nat.toDigits 10 diagnostic.location.line ++
      ',' :: (" column ".toList ++ (Nat.toDigits 10 diagnostic.location.column ++
      ' ' :: ("(byte ".toList ++ (Nat.toDigits 10 diagnostic.location.position ++
      ',' :: (" after ".toList ++ (Literal.chars diagnostic.context ++
      ("): ".toList ++ diagnostic.reasons.toList)))))))) := by
  have plain : diagnostic.message = "at line " ++ diagnostic.location.line.repr ++ ", column " ++
      diagnostic.location.column.repr ++ " (byte " ++ diagnostic.location.position.repr ++
      ", after " ++ (Literal.quote diagnostic.context ++ "): " ++ diagnostic.reasons) := rfl
  have column : ", column ".toList = ',' :: " column ".toList := rfl
  have byte : " (byte ".toList = ' ' :: "(byte ".toList := rfl
  have after : ", after ".toList = ',' :: " after ".toList := rfl
  rw [plain]
  simp only [String.toList_append, Nat.toList_repr, Literal.toList_quote, column, byte, after,
    List.append_assoc, List.cons_append]

theorem number_cancel {value other : Nat} {ending : Char} {rest rest' : List Char}
    (notDigit : ending.isDigit = false)
    (same : Nat.toDigits 10 value ++ ending :: rest = Nat.toDigits 10 other ++ ending :: rest') :
    value = other ∧ rest = rest' := by
  obtain ⟨values, tails⟩ := Json.toDigits_cancel (Json.ends_cons notDigit rest)
    (Json.ends_cons notDigit rest') same
  exact ⟨values, (List.cons.inj tails).2⟩

/-- Two diagnostics have the same message exactly when they name the same line, column and byte,
show the same context and give the same reasons. -/
theorem message_eq_iff (diagnostic other : Diagnostic) :
    diagnostic.message = other.message ↔
      diagnostic.location.line = other.location.line ∧
      diagnostic.location.column = other.location.column ∧
      diagnostic.location.position = other.location.position ∧
      diagnostic.context = other.context ∧
      diagnostic.reasons = other.reasons := by
  constructor
  · intro same
    have texts := congrArg String.toList same
    rw [toList_message, toList_message] at texts
    obtain ⟨lines, texts⟩ := number_cancel rfl (List.append_cancel_left texts)
    obtain ⟨columns, texts⟩ := number_cancel rfl (List.append_cancel_left texts)
    obtain ⟨positions, texts⟩ := number_cancel rfl (List.append_cancel_left texts)
    obtain ⟨contexts, texts⟩ := Literal.chars_cancel (List.append_cancel_left texts)
    exact ⟨lines, columns, positions, contexts,
      String.toList_inj.mp (List.append_cancel_left texts)⟩
  · rintro ⟨line, column, position, context, reasons⟩
    refine String.toList_inj.mp ?_
    rw [toList_message, toList_message, line, column, position, context, reasons]

/-- A context that ends like a message does not pass for the end of one. -/
example : message ⟨⟨3, 1, 3⟩, "a\"): b", [], ["c"]⟩ =
    "at line 1, column 3 (byte 3, after \"a\\\"): b\"): c" := by
  decide +kernel

end Diagnostic
end MatcherHost
