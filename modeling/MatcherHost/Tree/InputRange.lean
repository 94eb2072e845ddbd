import MatcherHost.Text.Literal
import MatcherHost.Text.Utf8

/-! A piece of an input buffer, held by its offsets. Two ranges are equal when they are over
equal buffers and have equal offsets; covering equal bytes is not enough. -/
namespace MatcherHost

structure InputRange where
  input : Bytes
  start : Nat
  stop : Nat
  start_le_stop : start ≤ stop
  stop_le_length : stop ≤ input.length
  deriving DecidableEq

namespace InputRange

def of? (input : Bytes) (start stop : Nat) : Option InputRange :=
  if h : start ≤ stop ∧ stop ≤ input.length then some ⟨input, start, stop, h.1, h.2⟩ else none

def length (range : InputRange) : Nat := range.stop - range.start

def isEmpty (range : InputRange) : Bool := range.start == range.stop

def bytes (range : InputRange) : Bytes := (range.input.drop range.start).take range.length

def text (range : InputRange) : String := Utf8.lossy range.bytes

def inspect (range : InputRange) : String :=
  s!"InputRange({range.start}..{range.stop} {Literal.quote range.text})"

end InputRange
end MatcherHost
