import MatcherHost.Building.Stack

/-! The second stack, of values bound for later: repetitions and backreferences read them by
their depth from the top, so nested scopes need not know of each other. Each operation sees the
output stack and the locals, in this order. -/
namespace MatcherHost.Locals

/-- Moves `count` values over one by one, so the deepest of them ends on top. -/
def push (count : Nat) (output locals : Stack) : Effect Violation (Stack × Stack) :=
  if output.length < count then
    .refused (output, locals) (.outputUnderflow .localsPush count output.length)
  else .done (output.drop count, (List.take count output).reverse ++ locals)

/-- Copies the local `index` below the top one onto the output stack. -/
def load (index : Nat) (output locals : Stack) : Effect Violation (Stack × Stack) :=
  match locals[index]? with
  | some value => .done (value :: output, locals)
  | none => .refused (output, locals) (.localsIndexOutOfRange index locals.length)

def pop (count : Nat) (output locals : Stack) : Effect Violation (Stack × Stack) :=
  if locals.length < count then
    .refused (output, locals) (.localsUnderflow .localsPop count locals.length)
  else .done (output, locals.drop count)

end MatcherHost.Locals
