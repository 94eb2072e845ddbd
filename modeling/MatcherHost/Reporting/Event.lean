import MatcherHost.Contract.Call
import MatcherHost.Contract.Violation
import MatcherHost.Reporting.Diagnostic

/-! What the host notes while it works. -/
namespace MatcherHost

inductive Event
  /-- A module file was accepted. -/
  | loaded (path : String) (version : Nat)
  /-- A rule was found and is about to run. -/
  | invoking (rule : String) (inputLength : Nat)
  /-- A callback reached the session. -/
  | callback (call : Call)
  | entering (rule : String)
  | leaving (rule : String) (successful : Bool)
  /-- The matcher broke the contract. -/
  | refused (violation : Violation)
  | matched (rule : String) (kind : Kind)
  | unmatched (rule : String) (diagnostic : Diagnostic)
  deriving DecidableEq, Repr

inductive Level
  | debug
  | warn
  deriving DecidableEq, Repr

def Level.name : Level → String
  | .debug => "DEBUG"
  | .warn => "WARN"

inductive Verbosity
  | silent
  | warnings
  | everything
  deriving DecidableEq, Repr

inductive Detail
  | text (content : String)
  | number (value : Nat)
  | flag (value : Bool)

namespace Event

def level : Event → Level
  | .refused _ => .warn
  | _ => .debug

def target : Event → String
  | .loaded .. => "peg_runtime::engine"
  | .invoking .. | .matched .. | .unmatched .. => "peg_runtime::parser"
  | .callback _ | .entering _ | .leaving .. | .refused _ => "peg_runtime::callbacks"

def message : Event → String
  | .loaded .. => "loaded matcher module"
  | .invoking .. => "invoking matcher"
  | .callback _ => "callback"
  | .entering _ => "entering rule"
  | .leaving .. => "leaving rule"
  | .refused _ => "matcher broke the callback contract"
  | .matched .. => "rule matched"
  | .unmatched .. => "rule did not match"

def details : Event → List (String × Detail)
  | .loaded path version => [("path", .text path), ("version", .number version)]
  | .invoking rule inputLength => [("rule", .text rule), ("input_len", .number inputLength)]
  | .callback call => [("call", .text call.inspect)]
  | .entering rule => [("rule", .text rule)]
  | .leaving rule successful => [("rule", .text rule), ("successful", .flag successful)]
  | .refused violation =>
    [("operation", .text ((violation.operation.map Operation.name).getD "result")),
      ("violation", .text violation.message)]
  | .matched rule kind => [("rule", .text rule), ("kind", .text kind.name)]
  | .unmatched rule diagnostic => [("rule", .text rule), ("error", .text diagnostic.message)]

end Event

def Verbosity.shows (verbosity : Verbosity) (event : Event) : Bool :=
  match verbosity, event.level with
  | .silent, _ => false
  | .warnings, level => level = .warn
  | .everything, _ => true

end MatcherHost
