import MatcherHost.Contract.Operation
import MatcherHost.Text.Literal

/-! The version of the callback table. -/
namespace MatcherHost

structure Interface where
  version : Nat
  callbacks : Nat
  deriving DecidableEq, Repr

namespace Interface

def current : Interface := ⟨1, Operation.all.length⟩

def compatible (interface : Interface) : Bool := interface = current

def inspect (interface : Interface) : String :=
  Literal.record "AbiDescriptor"
    [("version", toString interface.version), ("callback_count", toString interface.callbacks)]

end Interface

end MatcherHost
