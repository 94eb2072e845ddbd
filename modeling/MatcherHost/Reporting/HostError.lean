import MatcherHost.Contract.Interface
import MatcherHost.Contract.Violation
import MatcherHost.Reporting.Diagnostic

/-! Why there is no value. -/
namespace MatcherHost

inductive HostError
  /-- The rule does not match the input. -/
  | unmatched (diagnostic : Diagnostic)
  /-- The rule's matcher broke the callback contract. -/
  | contract (rule : String) (violation : Violation)
  /-- A module file cannot be used; `fromLoader` when the system's loader said so. -/
  | unloadable (path message : String) (fromLoader : Bool)
  /-- A module compiled against another interface. -/
  | mismatch (path : String) (found expected : Interface)
  /-- No entry point for the rule. -/
  | missing (rule symbol : String)
  /-- A rule of this name is there already. -/
  | duplicate (rule : String)
  deriving DecidableEq, Repr

namespace HostError

def message : HostError → String
  | .unmatched diagnostic => s!"parse failed {diagnostic.message}"
  | .contract rule violation =>
    s!"matcher for rule '{rule}' broke the callback contract: {violation.message}"
  | .unloadable path message _ => s!"failed to load matcher module {path}: {message}"
  | .mismatch path found expected =>
    s!"matcher module {path} targets ABI v{found.version} with {found.callbacks} callbacks; "
      ++ s!"runtime provides v{expected.version} with {expected.callbacks}"
  | .missing rule symbol => s!"no entry point '{symbol}' for rule '{rule}'"
  | .duplicate rule => s!"rule '{rule}' is already registered"

def isParseFailure : HostError → Bool
  | .unmatched _ => true
  | _ => false

def diagnostic? : HostError → Option Diagnostic
  | .unmatched diagnostic => some diagnostic
  | _ => none

def violation? : HostError → Option Violation
  | .contract _ violation => some violation
  | _ => none

end HostError
end MatcherHost
