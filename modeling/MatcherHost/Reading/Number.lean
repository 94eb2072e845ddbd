import MatcherHost.Reading.Precision
import MatcherHost.Reading.Token

/-! Numbers in JSON text: an optional minus sign, digits without a leading zero, and optionally
a fraction and a power of ten. -/
namespace MatcherHost.Reading

inductive NumberState
  /-- Before the first digit. -/
  | opening
  /-- After a zero that begins the number. -/
  | zero
  | whole
  /-- After the point. -/
  | point
  | fraction
  /-- After the `e`. -/
  | mark
  /-- After the sign of the power. -/
  | sign
  | power
  deriving DecidableEq, Repr

/-- What a character does to a number: it goes on, it is over before the character, or it is
not a number. -/
inductive NumberMove
  | on (state : NumberState)
  | stop
  | broken
  deriving DecidableEq, Repr

namespace NumberState

def step (state : NumberState) (c : Char) : NumberMove :=
  match state with
  | .opening => if c = '0' then .on .zero else if c.isDigit then .on .whole else .broken
  | .zero =>
    if c.isDigit then .broken
    else if c = '.' then .on .point
    else if c = 'e' ∨ c = 'E' then .on .mark
    else .stop
  | .whole =>
    if c.isDigit then .on .whole
    else if c = '.' then .on .point
    else if c = 'e' ∨ c = 'E' then .on .mark
    else .stop
  | .point => if c.isDigit then .on .fraction else .broken
  | .fraction =>
    if c.isDigit then .on .fraction else if c = 'e' ∨ c = 'E' then .on .mark else .stop
  | .mark =>
    if c = '+' ∨ c = '-' then .on .sign else if c.isDigit then .on .power else .broken
  | .sign => if c.isDigit then .on .power else .broken
  | .power => if c.isDigit then .on .power else .stop

def complete : NumberState → Bool
  | .zero | .whole | .fraction | .power => true
  | _ => false

end NumberState

/-- Reads a number from after its sign: its characters, and the text after it. -/
def numberFrom : NumberState → List Char → Except Fault (List Char × List Char)
  | state, [] => if state.complete then .ok ([], []) else .error .ended
  | state, c :: rest =>
    match state.step c with
    | .on next => prepend c (numberFrom next rest)
    | .stop => .ok ([], c :: rest)
    | .broken => .error .malformed

def extend (value : Nat) (c : Char) : Nat := value * 10 + (c.toNat - '0'.toNat)

def decimal (digits : List Char) : Nat := digits.foldl extend 0

def wordBound : Nat := 18446744073709551616

/-- Adds digits to a number up to the first one with which it would not fit a machine word: the
number, and the digits left. -/
def fill (value : Nat) : List Char → Nat × List Char
  | [] => (value, [])
  | c :: rest =>
    if extend value c < wordBound then fill (extend value c) rest else (value, c :: rest)

/-- A number as it is weighed, its sign apart: a machine word times a power of ten. -/
structure Scaled where
  significand : Nat
  exponent : Int
  deriving DecidableEq, Repr

namespace Scaled

/-- Splits a number at the point. Digits that the significand has no room for count only by their
place: one before the point makes the number ten times as large, one after it is ignored. -/
def ofDigits (whole fraction : List Char) (power : Int) : Scaled :=
  let (front, dropped) := fill 0 whole
  let (significand, ignored) := fill front fraction
  ⟨significand, power + dropped.length - (fraction.length - ignored.length : Nat)⟩

def powerOf (text : List Char) : Int :=
  match text with
  | '-' :: digits => -decimal digits
  | '+' :: digits => decimal digits
  | digits => decimal digits

def ofNumber (number : List Char) : Scaled :=
  let isMark (c : Char) := c = 'e' || c = 'E'
  let front := number.takeWhile (!isMark ·)
  let back := (number.dropWhile (!isMark ·)).drop 1
  ofDigits (front.takeWhile Char.isDigit) ((front.dropWhile Char.isDigit).drop 1) (powerOf back)

/-- Whether a number is beyond double precision. The significand and the power of ten are rounded
before they are multiplied, so a number just below the bound may count as beyond it and one just
above it may not. Powers above 308 are beyond it by themselves. -/
def beyondDouble (scaled : Scaled) : Bool :=
  if scaled.significand = 0 ∨ scaled.exponent < 0 then false
  else if 308 < scaled.exponent then true
  else
    Precision.bound ≤ Precision.round scaled.significand *
      Precision.round (Nat.pow 10 scaled.exponent.toNat)

end Scaled

/-- Reads a number where one is asked for: its value if it is a plain natural number that fits a
machine word, and `none` if it is any other number. One beyond double precision is not read at
all. -/
def number (text : List Char) : Except Fault (Option Nat × List Char) := do
  let negative := text.head? = some '-'
  let (digits, rest) ← numberFrom .opening (if negative then text.drop 1 else text)
  if !negative && digits.all Char.isDigit && decimal digits < wordBound then
    return (some (decimal digits), rest)
  else if (Scaled.ofNumber digits).beyondDouble then throw .malformed
  else return (none, rest)

end MatcherHost.Reading
