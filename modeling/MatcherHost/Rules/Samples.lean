import MatcherHost.Running.Host

/-! Ten small rules written by hand. Nine of them are known to one host: the first four recognise
something, the others each break the callback contract in one way. The tenth, `word`, is for a
module of its own. -/
namespace MatcherHost.Samples

def lowercase (byte : UInt8) : Bool := 97 ≤ byte && byte ≤ 122

def digit (byte : UInt8) : Bool := 48 ≤ byte && byte ≤ 57

/-- The offset of the first byte at or after `start` that is not in the class. -/
def scan (inClass : UInt8 → Bool) (input : Bytes) (start : Nat) : Nat :=
  start + ((input.drop start).takeWhile inClass).length

def at? (input : Bytes) (position : Nat) : Option UInt8 := input[position]?

def pointer (offset : Nat) : Option Int := some (.ofNat offset)

def text (content : String) : Option Bytes := some (Utf8.encode content)

def pushRange (start stop : Nat) : Signal := .pushInputRange (pointer start) (pointer stop)

def label (name : String) : Signal := .makeLabel (text name)

def expected (position : Nat) (what : String) : Signal :=
  .traceFailure (pointer position) (text what) true

def failing (signals : List Signal) : Matcher := .sending signals (.done 0)

def succeeding (signals : List Signal) : Matcher := .sending signals (.done 1)

def salute : Bytes := Utf8.encode "hello "

/-- The first offset where the input differs from `expected` or ends before it does. -/
def mismatch? : (expected input : Bytes) → Option Nat
  | [], _ => none
  | _ :: _, [] => some 0
  | wanted :: expected, byte :: input =>
    if wanted = byte then (mismatch? expected input).map (· + 1) else some 0

/-- The word hello, a blank, and a name in lowercase letters. -/
def greeting : EntryPoint := fun input =>
  let enter := Signal.traceEnter (text "greeting")
  let leave := Signal.traceLeave (text "greeting")
  match mismatch? salute input with
  | some offset => failing [enter, expected offset "\"hello \"", leave false]
  | none =>
    let start := salute.length
    let stop := scan lowercase input start
    if stop = start then failing [enter, expected start "[a-z]", leave false]
    else if stop ≠ input.length then
      failing [enter, expected stop "[a-z]", expected stop "end of input", leave false]
    else succeeding [enter, pushRange start stop, label "name", leave true]

/-- Decimal digits, each one an item of an array. -/
def digits : EntryPoint := fun input =>
  let stop := scan digit input 0
  let items := (List.range stop).flatMap fun i => [pushRange i (i + 1), .appendToArray]
  let collect := Signal.pushArray false :: items ++ [expected stop "digit"]
  if stop = input.length then succeeding collect
  else failing (collect ++ [expected stop "end of input", .pop])

/-- A lowercase key, an equals sign, and the key again. -/
def assignment : EntryPoint := fun input =>
  let stop := scan lowercase input 0
  if stop = 0 then failing [expected 0 "[a-z]"]
  else
    .sending [pushRange 0 stop, .localsPush 1] <|
      if at? input stop ≠ some 61 then
        failing [expected stop "[a-z]", expected stop "\"=\"", .localsPop 1]
      else
        .sending [.localsLoad 0] <| .send (.matchAt (pointer (stop + 1))) fun
          | none =>
            failing [.traceFailure (pointer (stop + 1)) (text "value must repeat the key") false,
              .localsPop 1]
          | some final =>
            if final ≠ input.length then failing [expected final "end of input", .localsPop 1]
            else
              succeeding [.localsLoad 0, label "key", pushRange (stop + 1) final, label "value",
                .mergeLabels 2, .localsPop 1]

/-- Two digits with a comma between them. -/
def point : EntryPoint := fun input =>
  let isDigit (position : Nat) := (at? input position).any digit
  if !isDigit 0 then failing [expected 0 "[0-9]"]
  else if at? input 1 ≠ some 44 then failing [expected 1 "\",\""]
  else if !isDigit 2 then failing [expected 2 "[0-9]"]
  else if input.length ≠ 3 then failing [expected 3 "end of input"]
  else
    succeeding [.pushEmpty, pushRange 0 1, label "x", pushRange 2 3, label "y", .mergeLabels 3,
      .makeObject (text "Point")]

def reserved : EntryPoint := fun input => succeeding [pushRange 0 input.length, .setAsSource]

def unbalanced : EntryPoint := fun _ => succeeding [.pushBoolean true, .pushBoolean false]

def underflow : EntryPoint := fun _ => succeeding [.pop, .pushEmpty]

def outOfBounds : EntryPoint := fun input => succeeding [pushRange 0 (input.length + 1)]

def negativeCount : EntryPoint := fun _ => succeeding [.pushEmpty, .mergeLabels (-1)]

def alphabetic (byte : UInt8) : Bool := (65 ≤ byte && byte ≤ 90) || lowercase byte

def word : EntryPoint := fun input =>
  let stop := scan alphabetic input 0
  if stop = 0 ∨ stop < input.length then failing [expected stop "letter"]
  else succeeding [pushRange 0 stop, label "w"]

def rules : List (String × EntryPoint) := [
  ("greeting", greeting), ("digits", digits), ("assignment", assignment), ("point", point),
  ("reserved", reserved), ("unbalanced", unbalanced), ("underflow", underflow),
  ("out_of_bounds", outOfBounds), ("negative_count", negativeCount)]

def registry : Registry EntryPoint := (Registry.registerAll {} rules).1

def host (config : Config) (factory : Factory) : Host EntryPoint :=
  ⟨registry.resolve, config, factory⟩

end MatcherHost.Samples
