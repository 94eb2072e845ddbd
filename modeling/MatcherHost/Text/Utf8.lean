/-! Bytes and the text they spell. The reader is a transducer that takes one byte at a time:
it emits a character when one is complete and a gap for every maximal ill-formed piece, so
the strict and the forgiving readings differ only in what they make of a gap. -/
namespace MatcherHost

abbrev Bytes := List UInt8

namespace Utf8

/-- Between characters, or inside one. Inside, `more` bytes are owed after the next one, `bits`
is what the bytes so far spell, and the next byte must lie between `low` and `high`. -/
inductive State
  | start
  | inside (more bits low high : Nat)
  deriving DecidableEq, Repr

/-- The first byte of a character: a complete one, the lead of a longer one, or a gap. The
narrowed intervals after `E0`, `ED`, `F0` and `F4` exclude overlong forms, surrogates and
numbers past the last code point. -/
def opening (byte : Nat) : List (Option Char) × State :=
  if byte < 0x80 then ([some (Char.ofNat byte)], .start)
  else if byte < 0xC2 then ([none], .start)
  else if byte < 0xE0 then ([], .inside 0 (byte - 0xC0) 0x80 0xBF)
  else if byte < 0xF0 then
    ([], .inside 1 (byte - 0xE0) (if byte = 0xE0 then 0xA0 else 0x80)
      (if byte = 0xED then 0x9F else 0xBF))
  else if byte < 0xF5 then
    ([], .inside 2 (byte - 0xF0) (if byte = 0xF0 then 0x90 else 0x80)
      (if byte = 0xF4 then 0x8F else 0xBF))
  else ([none], .start)

/-- One byte. A byte outside the interval ends the piece before it and is read afresh. -/
def step : State → Nat → List (Option Char) × State
  | .start, byte => opening byte
  | .inside more bits low high, byte =>
    if low ≤ byte ∧ byte ≤ high then
      match more with
      | 0 => ([some (Char.ofNat (bits * 64 + (byte - 0x80)))], .start)
      | rest + 1 => ([], .inside rest (bits * 64 + (byte - 0x80)) 0x80 0xBF)
    else
      let (emitted, next) := opening byte
      (none :: emitted, next)

def finish : State → List (Option Char)
  | .start => []
  | .inside .. => [none]

def scanFrom (state : State) : Bytes → List (Option Char)
  | [] => finish state
  | byte :: rest =>
    let (emitted, next) := step state byte.toNat
    emitted ++ scanFrom next rest

/-- The characters in order, with `none` for each maximal ill-formed piece. -/
def scan (bytes : Bytes) : List (Option Char) := scanFrom .start bytes

def replacement : Char := '\uFFFD'

/-- The forgiving reading: every gap becomes one replacement character. -/
def lossy (bytes : Bytes) : String :=
  String.ofList ((scan bytes).map (·.getD replacement))

/-- The strict reading, which refuses bytes that have a gap. -/
def decode? (bytes : Bytes) : Option String :=
  ((scan bytes).mapM id).map String.ofList

def encode (text : String) : Bytes := text.toList.flatMap String.utf8EncodeChar

end Utf8
end MatcherHost
