import MatcherHost.Reporting.Failures
import MatcherHost.Reporting.Location
import MatcherHost.Text.Literal

/-! Where a match failed and why, for people to read. -/
namespace MatcherHost

structure Diagnostic where
  location : Location
  /-- The input just before the failure. -/
  context : String
  expectations : List String
  otherReasons : List String
  deriving DecidableEq, Repr

namespace Diagnostic

def defaultContextBytes : Nat := 20

def lastBytes (count : Nat) (bytes : Bytes) : Bytes := bytes.drop (bytes.length - count)

/-- The diagnostic of the furthest failure over `input`. Without any failure it is at the
start. -/
def ofFailures (contextBytes : Nat) (input : Bytes) (failures : Failures) : Diagnostic :=
  let position := failures.position.getD 0
  { location := .locate input position
    context := Utf8.lossy (lastBytes contextBytes (input.take position))
    expectations := failures.expectations
    otherReasons := failures.otherReasons }

def clauses (diagnostic : Diagnostic) : List String :=
  match diagnostic.expectations with
  | [] => diagnostic.otherReasons
  | expectations =>
    diagnostic.otherReasons ++ ["expected one of " ++ ", ".intercalate expectations]

def reasons (diagnostic : Diagnostic) : String :=
  match diagnostic.clauses with
  | [] => "no failure reason recorded"
  | clauses => " / ".intercalate clauses

def message (diagnostic : Diagnostic) : String :=
  let location := diagnostic.location
  s!"at line {location.line}, column {location.column} (byte {location.position}, after "
    ++ s!"{Literal.quote diagnostic.context}): {diagnostic.reasons}"

def document (diagnostic : Diagnostic) : Json := .object [
  ("location", diagnostic.location.document),
  ("context", .string diagnostic.context),
  ("expectations", .array (diagnostic.expectations.map .string)),
  ("other_reasons", .array (diagnostic.otherReasons.map .string))]

def json (diagnostic : Diagnostic) : String := diagnostic.document.render

end Diagnostic
end MatcherHost
