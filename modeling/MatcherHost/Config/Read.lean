import MatcherHost.Config
import MatcherHost.Reading.Skip

/-! Reading the settings from JSON text. An object gives any of the settings by name, and names
it does not know are passed over; an array gives them by position, and its missing tail keeps
the defaults. -/
namespace MatcherHost.Config

open Reading

def faultOf {α : Type} : Except Fault α → Fault
  | .error fault => fault
  | .ok _ => .mistyped

/-- The fault of a value that is not of the type asked for. A scalar is read first, so that its
own faults come before its type; a bracket is enough to tell. -/
def unwanted (text : List Char) : Fault :=
  match text with
  | [] => .ended
  | c :: rest =>
    if c = 'n' then faultOf (word ['u', 'l', 'l'] rest)
    else if c = 't' then faultOf (word ['r', 'u', 'e'] rest)
    else if c = 'f' then faultOf (word ['a', 'l', 's', 'e'] rest)
    else if c = '-' ∨ c.isDigit then faultOf (number (c :: rest))
    else if c = '"' then faultOf (string rest)
    else if c = '[' ∨ c = '\x7b' then .mistyped
    else .malformed

def readFlag (text : List Char) : Except Fault (Bool × List Char) :=
  match skipBlank text with
  | 't' :: rest => (word ['r', 'u', 'e'] rest).map (true, ·)
  | 'f' :: rest => (word ['a', 'l', 's', 'e'] rest).map (false, ·)
  | other => .error (unwanted other)

def readText (text : List Char) : Except Fault (String × List Char) :=
  match skipBlank text with
  | '"' :: rest => string rest
  | other => .error (unwanted other)

def readNumber (text : List Char) : Except Fault (Nat × List Char) :=
  match skipBlank text with
  | [] => .error .ended
  | c :: rest =>
    if c = '-' ∨ c.isDigit then
      match number (c :: rest) with
      | .ok (some value, rest) => .ok (value, rest)
      | .ok (none, _) => .error .mistyped
      | .error fault => .error fault
    else .error (unwanted (c :: rest))

structure Draft where
  traceCallbacks : Option Bool := none
  entrySuffix : Option String := none
  contextBytes : Option Nat := none
  deriving DecidableEq, Repr

def Draft.config (draft : Draft) : Config :=
  let default : Config := {}
  { traceCallbacks := draft.traceCallbacks.getD default.traceCallbacks
    entrySuffix := draft.entrySuffix.getD default.entrySuffix
    contextBytes := draft.contextBytes.getD default.contextBytes }

def readColon (text : List Char) : Except Fault (List Char) :=
  match skipBlank text with
  | [] => .error .ended
  | c :: rest => if c = ':' then .ok rest else .error .malformed

/-- Reads what follows the name of a field. A setting given twice is refused at its name. -/
def readSetting (draft : Draft) (name : String) (text : List Char) :
    Except Fault (Draft × List Char) := do
  if name = "trace_callbacks" then
    if draft.traceCallbacks.isSome then throw .mistyped
    let (flag, rest) ← readFlag (← readColon text)
    return ({ draft with traceCallbacks := some flag }, rest)
  else if name = "entry_suffix" then
    if draft.entrySuffix.isSome then throw .mistyped
    let (suffix, rest) ← readText (← readColon text)
    return ({ draft with entrySuffix := some suffix }, rest)
  else if name = "error_context_bytes" then
    if draft.contextBytes.isSome then throw .mistyped
    let (bytes, rest) ← readNumber (← readColon text)
    return ({ draft with contextBytes := some bytes }, rest)
  else
    let rest ← skipValue (← readColon text)
    return (draft, rest)

def readField (draft : Draft) (text : List Char) : Except Fault (Draft × List Char) :=
  match skipBlank text with
  | [] => .error .ended
  | c :: rest =>
    if c = '"' then do
      let (name, rest) ← string rest
      readSetting draft name rest
    else .error .malformed

/-- Reads fields, from the name of one to the closing bracket. The fuel bounds their number. -/
def readFields : Nat → Draft → List Char → Except Fault (Draft × List Char)
  | 0, _, _ => .error .malformed
  | fuel + 1, draft, text => do
    let (draft, rest) ← readField draft text
    match skipBlank rest with
    | [] => .error .ended
    | c :: rest =>
      if c = '\x7d' then .ok (draft, rest)
      else if c = ',' then readFields fuel draft rest
      else .error .malformed

/-- Reads an object from after its opening bracket. A field takes characters, so the fuel is
never used up: it exceeds the number of characters, and with it the number of fields. -/
def readObject (text : List Char) : Except Fault (Draft × List Char) :=
  match skipBlank text with
  | '\x7d' :: rest => .ok ({}, rest)
  | other => readFields (text.length + 1) {} other

def nextItem (isFirst : Bool) (text : List Char) : Except Fault (Option (List Char)) :=
  match skipBlank text with
  | [] => .error .ended
  | c :: rest =>
    if c = ']' then .ok none
    else if isFirst then .ok (some (c :: rest))
    else if c = ',' then
      match skipBlank rest with
      | [] => .error .ended
      | ']' :: _ => .error .malformed
      | item => .ok (some item)
    else .error .malformed

def endArray (text : List Char) : Except Fault (List Char) :=
  match skipBlank text with
  | [] => .error .ended
  | c :: rest => if c = ']' then .ok rest else .error .malformed

def readArray (text : List Char) : Except Fault (Draft × List Char) := do
  let some item ← nextItem true text | return ({}, ← endArray text)
  let (flag, text) ← readFlag item
  let draft : Draft := { traceCallbacks := some flag }
  let some item ← nextItem false text | return (draft, ← endArray text)
  let (suffix, text) ← readText item
  let draft := { draft with entrySuffix := some suffix }
  let some item ← nextItem false text | return (draft, ← endArray text)
  let (bytes, text) ← readNumber item
  return ({ draft with contextBytes := some bytes }, ← endArray text)

def read (text : String) : Except Fault Config := do
  let (draft, rest) ←
    match skipBlank text.toList with
    | '[' :: rest => readArray rest
    | '\x7b' :: rest => readObject rest
    | other => .error (unwanted other)
  if skipBlank rest = [] then return draft.config else throw .malformed

end MatcherHost.Config
