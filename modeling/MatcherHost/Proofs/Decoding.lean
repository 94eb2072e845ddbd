import MatcherHost.Contract.Signal

/-! Which signals amount to which calls. `Decodes` lists the pairs, so that a proof about a signal
that was read splits into the twenty shapes at once. -/
namespace MatcherHost

namespace Argument

variable {operation : Operation}

theorem position_eq_ok {length : Nat} {pointer : Option Int} {offset : Nat} :
    position operation length pointer = .ok offset ↔ pointer = some ↑offset ∧ offset ≤ length := by
  match pointer with
  | none => simp [position]
  | some (.negSucc _) => simp [position]
  | some (.ofNat distance) =>
    simp only [position, Int.ofNat_eq_natCast, Option.some.injEq, Int.natCast_inj]
    split <;> simp <;> omega

theorem count_eq_ok {count : Int} {number : Nat} :
    Argument.count operation count = .ok number ↔ count = ↑number := by
  cases count with
  | ofNat given =>
    simp only [Argument.count, Except.ok.injEq]
    exact Int.ofNat_inj.symm
  | negSucc given => simp [Argument.count]

theorem map_eq_ok {ε α β : Type} {argument : Except ε α} {f : α → β} {result : β} :
    argument.map f = .ok result ↔ ∃ read, argument = .ok read ∧ f read = result := by
  cases argument <;> simp [Except.map]

theorem map_eq_error {ε α β : Type} {argument : Except ε α} {f : α → β} {cause : ε} :
    argument.map f = .error cause ↔ argument = .error cause := by
  cases argument <;> simp [Except.map]

theorem bind_eq_ok {ε α β : Type} {argument : Except ε α} {f : α → Except ε β} {result : β} :
    argument >>= f = .ok result ↔ ∃ read, argument = .ok read ∧ f read = .ok result := by
  cases argument <;> simp [bind, Except.bind]

theorem bind_eq_error {ε α β : Type} {argument : Except ε α} {f : α → Except ε β} {cause : ε} :
    argument >>= f = .error cause ↔
      argument = .error cause ∨ ∃ read, argument = .ok read ∧ f read = .error cause := by
  cases argument <;> simp [bind, Except.bind]

end Argument

namespace Signal

/-- A signal and the call it amounts to over an input of the given length. -/
inductive Decodes (length : Nat) : Signal → Call → Prop
  | pushEmpty : Decodes length .pushEmpty .pushEmpty
  | pushInputRange {start stop : Nat} : start ≤ length → stop ≤ length →
      Decodes length (.pushInputRange (some start) (some stop)) (.pushInputRange start stop)
  | pushBoolean {flag : Bool} : Decodes length (.pushBoolean flag) (.pushBoolean flag)
  | pushString {bytes : Option Bytes} {content : String} :
      Argument.text .pushString bytes = .ok content →
      Decodes length (.pushString bytes) (.pushString content)
  | pushArray {wrapTop : Bool} : Decodes length (.pushArray wrapTop) (.pushArray wrapTop)
  | appendToArray : Decodes length .appendToArray .appendToArray
  | makeLabel {bytes : Option Bytes} {label : String} :
      Argument.text .makeLabel bytes = .ok label →
      Decodes length (.makeLabel bytes) (.makeLabel label)
  | mergeLabels {count : Nat} : Decodes length (.mergeLabels count) (.mergeLabels count)
  | makeValue : Decodes length .makeValue .makeValue
  | makeObject {bytes : Option Bytes} {className : String} :
      Argument.text .makeObject bytes = .ok className →
      Decodes length (.makeObject bytes) (.makeObject className)
  | pop : Decodes length .pop .pop
  | localsPush {count : Nat} : Decodes length (.localsPush count) (.localsPush count)
  | localsLoad {index : Nat} : Decodes length (.localsLoad index) (.localsLoad index)
  | localsPop {count : Nat} : Decodes length (.localsPop count) (.localsPop count)
  | matchAt {position : Nat} : position ≤ length →
      Decodes length (.matchAt (some position)) (.matchAt position)
  | setAsSource : Decodes length .setAsSource .setAsSource
  | readFromSource : Decodes length .readFromSource .readFromSource
  | traceEnter {bytes : Option Bytes} {rule : String} :
      Argument.text .traceEnter bytes = .ok rule →
      Decodes length (.traceEnter bytes) (.traceEnter rule)
  | traceLeave {bytes : Option Bytes} {rule : String} {successful : Bool} :
      Argument.text .traceLeave bytes = .ok rule →
      Decodes length (.traceLeave bytes successful) (.traceLeave rule successful)
  | traceFailure {position : Nat} {bytes : Option Bytes} {reason : String}
      {isExpectation : Bool} : position ≤ length → Argument.text .traceFailure bytes = .ok reason →
      Decodes length (.traceFailure (some position) bytes isExpectation)
        (.traceFailure position reason isExpectation)

theorem decode_eq_ok {length : Nat} {signal : Signal} {call : Call} :
    signal.decode length = .ok call ↔ Decodes length signal call := by
  constructor
  · intro decoded
    cases signal <;> simp only [decode, Except.ok.injEq, Argument.map_eq_ok, Argument.bind_eq_ok,
      Argument.position_eq_ok, Argument.count_eq_ok, pure, Except.pure] at decoded
    all_goals first
      | (subst decoded; constructor)
      | (obtain ⟨_, rfl, rfl⟩ := decoded; constructor)
      | (obtain ⟨_, ⟨rfl, bound⟩, rfl⟩ := decoded; exact .matchAt bound)
      | (obtain ⟨_, read, rfl⟩ := decoded; constructor; exact read)
      | (obtain ⟨_, ⟨rfl, first⟩, _, ⟨rfl, second⟩, rfl⟩ := decoded
         exact .pushInputRange first second)
      | (obtain ⟨_, ⟨rfl, bound⟩, _, read, rfl⟩ := decoded; exact .traceFailure bound read)
  · intro decodes
    cases decodes <;> simp only [decode, Except.ok.injEq, Argument.map_eq_ok, Argument.bind_eq_ok,
      Argument.position_eq_ok, Argument.count_eq_ok, pure, Except.pure]
    case pushInputRange first second => exact ⟨_, ⟨rfl, first⟩, _, ⟨rfl, second⟩, rfl⟩
    case traceFailure bound read => exact ⟨_, ⟨rfl, bound⟩, _, read, rfl⟩
    case matchAt bound => exact ⟨_, ⟨rfl, bound⟩, rfl⟩
    case mergeLabels | localsPush | localsLoad | localsPop => exact ⟨_, rfl, rfl⟩
    all_goals exact ⟨_, ‹_›, rfl⟩

theorem Decodes.operation {length : Nat} {signal : Signal} {call : Call}
    (decodes : signal.Decodes length call) : call.operation = signal.operation := by
  cases decodes <;> rfl

end Signal
end MatcherHost
