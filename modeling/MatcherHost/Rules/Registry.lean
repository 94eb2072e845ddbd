import MatcherHost.Reporting.HostError
import MatcherHost.Tree.Entries

/-! Rules by name. The first registration of a name stays; later ones are refused. -/
namespace MatcherHost

/-- Entry points in ascending order of their rules' names. -/
structure Registry (ε : Type) where
  rules : Entries ε := []

namespace Registry

variable {ε : Type}

def find? (registry : Registry ε) (rule : String) : Option ε := registry.rules.get? rule

def register (registry : Registry ε) (rule : String) (entry : ε) :
    Except HostError (Registry ε) :=
  match registry.find? rule with
  | some _ => .error (.duplicate rule)
  | none => .ok ⟨registry.rules.insert rule entry⟩

/-- Adds rules in order, passing over refused ones. With the registry comes, for each rule, the
error that refused it. -/
def registerAll (registry : Registry ε) :
    List (String × ε) → Registry ε × List (Option HostError)
  | [] => (registry, [])
  | (rule, entry) :: rest =>
    match registry.register rule entry with
    | .ok grown =>
      let (final, errors) := grown.registerAll rest
      (final, none :: errors)
    | .error error =>
      let (final, errors) := registry.registerAll rest
      (final, some error :: errors)

/-- The entry point of a rule, which is also looked up under its bare name. -/
def resolve (registry : Registry ε) (rule : String) : Except HostError ε :=
  match registry.find? rule with
  | some entry => .ok entry
  | none => .error (.missing rule rule)

def names (registry : Registry ε) : List String := registry.rules.labels

def size (registry : Registry ε) : Nat := registry.rules.length

def isEmpty (registry : Registry ε) : Bool := registry.rules.isEmpty

end Registry
end MatcherHost
