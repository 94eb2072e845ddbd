/-! The tokens of JSON text, read from the front of a list of characters. Reading stops at the
first problem, and a problem is of one of three kinds. -/
namespace MatcherHost.Reading

inductive Fault
  /-- The text ends inside a value. -/
  | ended
  /-- The text is not JSON. -/
  | malformed
  /-- The text is JSON of another shape than asked for. -/
  | mistyped
  deriving DecidableEq, Repr

def isBlank (c : Char) : Bool := c = ' ' || c = '\n' || c = '\t' || c = '\r'

def skipBlank (text : List Char) : List Char := text.dropWhile isBlank

def word : List Char → List Char → Except Fault (List Char)
  | [], text => .ok text
  | _ :: _, [] => .error .ended
  | wanted :: rest, c :: text => if c = wanted then word rest text else .error .malformed

def hexDigit? (c : Char) : Option Nat :=
  if '0' ≤ c ∧ c ≤ '9' then some (c.toNat - '0'.toNat)
  else if 'a' ≤ c ∧ c ≤ 'f' then some (c.toNat - 'a'.toNat + 10)
  else if 'A' ≤ c ∧ c ≤ 'F' then some (c.toNat - 'A'.toNat + 10)
  else none

def escaped? (c : Char) : Option Char :=
  if c = '"' ∨ c = '\\' ∨ c = '/' then some c
  else if c = 'b' then some '\x08'
  else if c = 'f' then some '\x0c'
  else if c = 'n' then some '\n'
  else if c = 'r' then some '\r'
  else if c = 't' then some '\t'
  else none

/-- Where a reader stands inside a string. `high` is a first half whose second half is due. -/
inductive StringState
  | plain
  | escape
  /-- `seen` hexadecimal digits have been read, which spell `value`. -/
  | hex (seen value : Nat) (high : Option Nat)
  | secondHalf (high : Nat)
  | secondEscape (high : Nat)
  deriving DecidableEq, Repr

inductive Unit16
  | char (c : Char)
  | half (high : Nat)
  | stray

/-- Halves of a surrogate pair must come together, the high one first. -/
def Unit16.of (high : Option Nat) (value : Nat) : Unit16 :=
  match high with
  | none =>
    if 0xDC00 ≤ value ∧ value ≤ 0xDFFF then .stray
    else if 0xD800 ≤ value ∧ value ≤ 0xDBFF then .half value
    else .char (Char.ofNat value)
  | some high =>
    if 0xDC00 ≤ value ∧ value ≤ 0xDFFF then
      .char (Char.ofNat ((high - 0xD800) * 0x400 + (value - 0xDC00) + 0x10000))
    else .stray

def byteCount (text : List Char) : Nat := text.foldr (fun c count => c.utf8Size + count) 0

def prepend (c : Char) (result : Except Fault (List Char × List Char)) :
    Except Fault (List Char × List Char) :=
  result.map fun (content, rest) => (c :: content, rest)

/-- Reads a string from after its opening quotation mark: its characters, and the text after it.
A four-digit escape that has fewer than four bytes left counts as ended whatever they are. -/
def stringFrom : StringState → List Char → Except Fault (List Char × List Char)
  | _, [] => .error .ended
  | .plain, c :: rest =>
    if c = '"' then .ok ([], rest)
    else if c = '\\' then stringFrom .escape rest
    else if c.toNat < 0x20 then .error .malformed
    else prepend c (stringFrom .plain rest)
  | .escape, c :: rest =>
    if c = 'u' then stringFrom (.hex 0 0 none) rest
    else
      match escaped? c with
      | some meant => prepend meant (stringFrom .plain rest)
      | none => .error .malformed
  | .hex seen value high, c :: rest =>
    match hexDigit? c with
    | none => .error (if seen + byteCount (c :: rest) < 4 then .ended else .malformed)
    | some digit =>
      if seen < 3 then stringFrom (.hex (seen + 1) (value * 16 + digit) high) rest
      else
        match Unit16.of high (value * 16 + digit) with
        | .char meant => prepend meant (stringFrom .plain rest)
        | .half first => stringFrom (.secondHalf first) rest
        | .stray => .error .malformed
  | .secondHalf high, c :: rest =>
    if c = '\\' then stringFrom (.secondEscape high) rest else .error .malformed
  | .secondEscape high, c :: rest =>
    if c = 'u' then stringFrom (.hex 0 0 (some high)) rest else .error .malformed

def string (text : List Char) : Except Fault (String × List Char) :=
  (stringFrom .plain text).map fun (content, rest) => (String.ofList content, rest)

end MatcherHost.Reading
