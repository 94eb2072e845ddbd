import MatcherHost.Reporting.Diagnostic

/-! The settings of a host. -/
namespace MatcherHost

structure Config where
  /-- Whether callbacks are noted and the trace hooks observed. -/
  traceCallbacks : Bool := false
  /-- What follows a rule's name in the name of its export. -/
  entrySuffix : String := "_match"
  /-- How much input a diagnostic shows before the failure. -/
  contextBytes : Nat := Diagnostic.defaultContextBytes
  deriving DecidableEq, Repr

namespace Config

def document (config : Config) : Json := .object [
  ("trace_callbacks", .bool config.traceCallbacks),
  ("entry_suffix", .string config.entrySuffix),
  ("error_context_bytes", .number config.contextBytes)]

def json (config : Config) : String := config.document.render

def inspect (config : Config) : String :=
  Literal.record "RuntimeConfig" [
    ("trace_callbacks", toString config.traceCallbacks),
    ("entry_suffix", Literal.quote config.entrySuffix),
    ("error_context_bytes", toString config.contextBytes)]

end Config
end MatcherHost
