import MatcherHost.Reading.Number

/-! Getting past a JSON value of any shape and depth without keeping it. The reader is a machine
that takes one character at a time and holds the open brackets, innermost first. -/
namespace MatcherHost.Reading

inductive Bracket
  | square
  | curly
  deriving DecidableEq, Repr

/-- Where the machine stands inside a string. Only the form of escapes matters here. -/
inductive Inside
  | plain
  | escape
  /-- `seen` hexadecimal digits of an escape have passed. -/
  | hex (seen : Nat)
  deriving DecidableEq, Repr

inductive Mode
  /-- A value. -/
  | value
  /-- The rest of a fixed word. -/
  | word (rest : List Char)
  | number (state : NumberState)
  /-- The rest of a string: a field's name, or a value. -/
  | string (isName : Bool) (state : Inside)
  /-- What may follow an opening bracket. -/
  | first
  /-- What may follow a value inside a bracket. -/
  | next
  /-- A field's name. -/
  | name
  /-- The colon after a name. -/
  | colon
  deriving DecidableEq, Repr

inductive Move
  | to (mode : Mode) (brackets : List Bracket)
  /-- The value is over with this character. -/
  | last
  /-- The value was over before this character. -/
  | past
  | fault (fault : Fault)

def settled : List Bracket → Move
  | [] => .last
  | brackets => .to .next brackets

def opening (brackets : List Bracket) (c : Char) : Move :=
  if isBlank c then .to .value brackets
  else if c = 'n' then .to (.word ['u', 'l', 'l']) brackets
  else if c = 't' then .to (.word ['r', 'u', 'e']) brackets
  else if c = 'f' then .to (.word ['a', 'l', 's', 'e']) brackets
  else if c = '-' then .to (.number .opening) brackets
  else if c = '0' then .to (.number .zero) brackets
  else if c.isDigit then .to (.number .whole) brackets
  else if c = '"' then .to (.string false .plain) brackets
  else if c = '[' then .to .first (.square :: brackets)
  else if c = '\x7b' then .to .first (.curly :: brackets)
  else .fault .malformed

def naming (brackets : List Bracket) (c : Char) : Move :=
  if isBlank c then .to .name brackets
  else if c = '"' then .to (.string true .plain) brackets
  else .fault .malformed

def following (brackets : List Bracket) (c : Char) : Move :=
  if isBlank c then .to .next brackets
  else
    match brackets with
    | [] => .past
    | .square :: outer =>
      if c = ',' then .to .value brackets
      else if c = ']' then settled outer
      else .fault .malformed
    | .curly :: outer =>
      if c = ',' then .to .name brackets
      else if c = '\x7d' then settled outer
      else .fault .malformed

def step (mode : Mode) (brackets : List Bracket) (c : Char) (rest : List Char) : Move :=
  match mode with
  | .value => opening brackets c
  | .word [] => .fault .malformed
  | .word (wanted :: more) =>
    if c ≠ wanted then .fault .malformed
    else if more = [] then settled brackets
    else .to (.word more) brackets
  | .number state =>
    match state.step c with
    | .on next => .to (.number next) brackets
    | .stop => if brackets = [] then .past else following brackets c
    | .broken => .fault .malformed
  | .string isName state =>
    let finished := if isName then .to .colon brackets else settled brackets
    match state with
    | .plain =>
      if c = '"' then finished
      else if c = '\\' then .to (.string isName .escape) brackets
      else if c.toNat < 0x20 then .fault .malformed
      else .to (.string isName .plain) brackets
    | .escape =>
      if c = 'u' then .to (.string isName (.hex 0)) brackets
      else if (escaped? c).isSome then .to (.string isName .plain) brackets
      else .fault .malformed
    | .hex seen =>
      match hexDigit? c with
      | none => .fault (if seen + byteCount (c :: rest) < 4 then .ended else .malformed)
      | some _ =>
        if seen < 3 then .to (.string isName (.hex (seen + 1))) brackets
        else .to (.string isName .plain) brackets
  | .first =>
    if isBlank c then .to .first brackets
    else
      match brackets with
      | [] => .past
      | .square :: outer => if c = ']' then settled outer else opening brackets c
      | .curly :: outer => if c = '\x7d' then settled outer else naming brackets c
  | .next => following brackets c
  | .name => naming brackets c
  | .colon =>
    if isBlank c then .to .colon brackets
    else if c = ':' then .to .value brackets
    else .fault .malformed

/-- The end of the text. A number that could go on is malformed here, and one that need not is
over. -/
def atEnd (mode : Mode) (brackets : List Bracket) : Except Fault (List Char) :=
  match mode with
  | .number state =>
    if !state.complete then .error .malformed
    else if brackets = [] then .ok []
    else .error .ended
  | _ => .error .ended

def skipFrom (mode : Mode) (brackets : List Bracket) : List Char → Except Fault (List Char)
  | [] => atEnd mode brackets
  | c :: rest =>
    match step mode brackets c rest with
    | .to mode brackets => skipFrom mode brackets rest
    | .last => .ok rest
    | .past => .ok (c :: rest)
    | .fault fault => .error fault

def skipValue (text : List Char) : Except Fault (List Char) := skipFrom .value [] text

end MatcherHost.Reading
