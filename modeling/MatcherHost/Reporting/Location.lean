import MatcherHost.Text.Json
import MatcherHost.Text.Utf8

/-! Lines and columns of byte positions. -/
namespace MatcherHost

def newline : UInt8 := 10

/-- A byte position with its line and column. Lines count from one. The column is the distance
from the last newline before the position, or the position itself on the first line. -/
structure Location where
  position : Nat
  line : Nat
  column : Nat
  deriving DecidableEq, Repr

namespace Location

/-- A position past the end is measured as if it were the end. -/
def locate (input : Bytes) (position : Nat) : Location :=
  let before := input.take position
  let tail := before.reverse.takeWhile (· ≠ newline)
  { position
    line := before.count newline + 1
    column := if newline ∈ before then tail.length + 1 else before.length }

def document (location : Location) : Json := .object [
  ("position", .number location.position),
  ("line", .number location.line),
  ("column", .number location.column)]

def json (location : Location) : String := location.document.render

end Location

end MatcherHost
