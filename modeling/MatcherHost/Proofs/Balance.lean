import MatcherHost.Proofs.Decoding
import MatcherHost.Proofs.Serving
import MatcherHost.Rules.Samples

/-! Two counters that follow a run without looking at any value. They are the heights of the two
stacks as long as nothing is refused, they tell which call lacks values next, and they decide how
a parse ends. -/
namespace MatcherHost

/-- The height of the output stack and the number of bound locals, as the signals say. -/
structure Balance where
  height : Int := 0
  depth : Int := 0
  deriving DecidableEq, Repr

namespace Balance

def count (balance : Balance) : Signal → Balance
  | .pushEmpty | .pushInputRange .. | .pushBoolean _ | .pushString _ | .pushArray false
  | .localsLoad _ => { balance with height := balance.height + 1 }
  | .appendToArray | .pop | .matchAt _ => { balance with height := balance.height - 1 }
  | .mergeLabels count => { balance with height := balance.height + (1 - count) }
  | .localsPush count => ⟨balance.height - count, balance.depth + count⟩
  | .localsPop count => { balance with depth := balance.depth - count }
  | _ => balance

def ofSignals (signals : List Signal) : Balance := signals.foldl count {}

end Balance

def Call.neededValues : Call → Nat
  | .pushArray true | .makeLabel _ | .makeObject _ | .pop | .matchAt _ => 1
  | .appendToArray => 2
  | .mergeLabels count | .localsPush count => count
  | _ => 0

def Call.neededLocals : Call → Nat
  | .localsLoad index => index + 1
  | .localsPop count => count
  | _ => 0

@[simp] def Violation.lacksValues : Violation → Bool
  | .outputUnderflow .. => true
  | _ => false

@[simp] def Violation.lacksLocals : Violation → Bool
  | .localsUnderflow .. | .localsIndexOutOfRange .. => true
  | _ => false

/-- An operation that replaces the top `needed` values by `made` others: it is refused for lack of
values exactly when there are fewer, and never for lack of locals. -/
structure Effect.Trades (needed made : Nat) (stack : Stack) (effect : Effect Violation Stack) :
    Prop where
  lacksValues : effect.refusal.any Violation.lacksValues = true ↔ stack.length < needed
  lacksLocals : effect.refusal.any Violation.lacksLocals = false
  served : effect.refusal = none → effect.state.length + needed = stack.length + made

namespace Stack

theorem push_trades (value : Value) (stack : Stack) :
    (Effect.done (value :: stack)).Trades 0 1 stack := by
  constructor <;> simp

theorem pushRange_trades (input : Bytes) (start stop : Nat) (stack : Stack) :
    (stack.pushRange input start stop).Trades 0 1 stack := by
  unfold pushRange
  split
  · exact push_trades _ stack
  · constructor <;> simp

theorem pushArray_false_trades (stack : Stack) : (stack.pushArray false).Trades 0 1 stack :=
  push_trades _ stack

theorem pushArray_true_trades (stack : Stack) : (stack.pushArray true).Trades 1 1 stack := by
  cases stack <;> constructor <;> simp [pushArray]

theorem appendToArray_trades (stack : Stack) : stack.appendToArray.Trades 2 1 stack := by
  rcases stack with _ | ⟨item, _ | ⟨other, rest⟩⟩
  · constructor <;> simp [appendToArray]
  · constructor <;> simp [appendToArray]
  · cases other <;> constructor <;> simp [appendToArray]

theorem makeLabel_trades (label : String) (stack : Stack) :
    (stack.makeLabel label).Trades 1 1 stack := by
  cases stack <;> constructor <;> simp [makeLabel]

/-- Once there are enough values, only their kinds can stop a merge. -/
theorem gather_trades (count : Nat) (merged : Entries Value) (stack : Stack)
    (enough : count ≤ stack.length) : (gather count merged stack).Trades count 1 stack := by
  induction count generalizing merged stack with
  | zero => exact push_trades _ stack
  | succ count ih =>
    cases stack with
    | nil => simp at enough
    | cons top rest =>
      rw [List.length_cons, Nat.add_le_add_iff_right] at enough
      cases kind : top.entries? with
      | none => constructor <;> simp [gather, kind, Nat.not_lt.mpr enough]
      | some entries =>
        have deeper := ih (merged.update entries) rest enough
        have step : gather (count + 1) merged (top :: rest) =
            gather count (merged.update entries) rest := by simp only [gather, kind]
        rw [step]
        refine ⟨?_, deeper.lacksLocals, ?_⟩
        · simpa using deeper.lacksValues
        · intro accepted
          have := deeper.served accepted
          rw [List.length_cons]
          omega

theorem mergeLabels_trades (count : Nat) (stack : Stack) :
    (stack.mergeLabels count).Trades count 1 stack := by
  unfold mergeLabels
  split
  · rename_i short
    constructor <;> simp [short]
  · exact gather_trades count [] stack (by omega)

theorem makeObject_trades (factory : Factory) (className : String) (stack : Stack) :
    ((stack.makeObject factory className).mapRefusal NotMade.blame).Trades 1 1 stack := by
  cases stack with
  | nil => constructor <;> simp [makeObject, NotMade.blame]
  | cons payload rest =>
    cases made : factory className payload <;> constructor <;>
      simp [makeObject, made, NotMade.blame]

theorem pop_trades (stack : Stack) : stack.pop.Trades 1 0 stack := by
  cases stack <;> constructor <;> simp [pop]

end Stack

namespace Session

def balance (session : Session) : Balance := ⟨session.output.length, session.locals.length⟩

def Lacking (session : Session) (values locals : Nat) (refusal : Option Violation) : Prop :=
  (refusal.any Violation.lacksValues = true ↔ session.output.length < values) ∧
    (refusal.any Violation.lacksLocals = true ↔ session.locals.length < locals)

theorem onOutput_lacking {session : Session} {needed made : Nat} {effect : Effect Violation Stack}
    (trades : effect.Trades needed made session.output) :
    session.Lacking needed 0 (session.onOutput effect).refusal :=
  ⟨trades.lacksValues, by simp [onOutput, trades.lacksLocals]⟩

theorem onOutput_balance {session : Session} {needed made : Nat} {effect : Effect Violation Stack}
    (trades : effect.Trades needed made session.output)
    (served : (session.onOutput effect).refusal = none) :
    (session.onOutput effect).session.balance =
      { session.balance with height := session.balance.height + (made - needed) } := by
  have total := trades.served served
  simp only [balance, onOutput, Balance.mk.injEq, and_true]
  omega

theorem lacking_none (session : Session) : session.Lacking 0 0 none := by simp [Lacking]

theorem matchAt_lacking (session : Session) (position : Nat) :
    session.Lacking 1 0 (session.matchAt position).refusal := by
  cases stacked : session.output with
  | nil => simp [Lacking, matchAt, stacked, Stack.take]
  | cons value rest =>
    simp only [Lacking, matchAt, stacked, Stack.take]
    split
    · simp
    · split <;> simp

theorem matchAt_balance {session : Session} {position : Nat}
    (served : (session.matchAt position).refusal = none) :
    (session.matchAt position).session.balance =
      { session.balance with height := session.balance.height - 1 } := by
  cases stacked : session.output with
  | nil => simp [matchAt, stacked, Stack.take] at served
  | cons value rest => simp [matchAt_session, balance, stacked]

theorem apply_lacking (factory : Factory) (session : Session) (call : Call) :
    session.Lacking call.neededValues call.neededLocals (session.apply factory call).refusal := by
  cases call with
  | pushEmpty | pushBoolean | pushString => exact onOutput_lacking (Stack.push_trades _ _)
  | pushInputRange => exact onOutput_lacking (Stack.pushRange_trades ..)
  | pushArray wrapTop =>
    cases wrapTop with
    | false => exact onOutput_lacking (Stack.pushArray_false_trades _)
    | true => exact onOutput_lacking (Stack.pushArray_true_trades _)
  | appendToArray => exact onOutput_lacking (Stack.appendToArray_trades _)
  | makeLabel => exact onOutput_lacking (Stack.makeLabel_trades ..)
  | mergeLabels => exact onOutput_lacking (Stack.mergeLabels_trades ..)
  | makeObject => exact onOutput_lacking (Stack.makeObject_trades ..)
  | pop => exact onOutput_lacking (Stack.pop_trades _)
  | localsPush count =>
    by_cases short : session.output.length < count <;>
      simp [Lacking, apply, onStacks, Locals.push, short, Call.neededValues, Call.neededLocals]
  | localsLoad index =>
    by_cases bound : index < session.locals.length
    · have found := List.getElem?_eq_getElem bound
      simp [Lacking, apply, onStacks, Locals.load, found, Call.neededValues, Call.neededLocals]
      omega
    · have unbound := Nat.not_lt.mp bound
      have missing := List.getElem?_eq_none unbound
      simp [Lacking, apply, onStacks, Locals.load, missing, Call.neededValues, Call.neededLocals,
        Nat.lt_succ_of_le unbound]
  | localsPop count =>
    by_cases short : session.locals.length < count <;>
      simp [Lacking, apply, onStacks, Locals.pop, short, Call.neededValues, Call.neededLocals]
  | matchAt position => exact session.matchAt_lacking position
  | makeValue | setAsSource | readFromSource =>
    simp [Lacking, apply, Call.neededValues, Call.neededLocals]
  | traceEnter | traceLeave | traceFailure => exact session.lacking_none

/-- One served signal moves the heights as the counters say. -/
theorem apply_balance {factory : Factory} {session : Session} {signal : Signal} {call : Call}
    {length : Nat} (decodes : signal.Decodes length call)
    (served : (session.apply factory call).refusal = none) :
    (session.apply factory call).session.balance = session.balance.count signal := by
  cases decodes with
  | pushEmpty | pushBoolean | pushString => exact onOutput_balance (Stack.push_trades _ _) served
  | pushInputRange => exact onOutput_balance (Stack.pushRange_trades ..) served
  | @pushArray wrapTop =>
    cases wrapTop with
    | false => exact onOutput_balance (Stack.pushArray_false_trades _) served
    | true =>
      rw [apply, onOutput_balance (Stack.pushArray_true_trades _) served]
      simp [Balance.count]
  | appendToArray => exact onOutput_balance (Stack.appendToArray_trades _) served
  | makeLabel =>
    rw [apply, onOutput_balance (Stack.makeLabel_trades ..) served]
    simp [Balance.count]
  | mergeLabels => exact onOutput_balance (Stack.mergeLabels_trades ..) served
  | makeObject =>
    rw [apply, onOutput_balance (Stack.makeObject_trades ..) served]
    simp [Balance.count]
  | pop => exact onOutput_balance (Stack.pop_trades _) served
  | @localsPush count =>
    by_cases short : session.output.length < count
    · simp [apply, onStacks, Locals.push, short] at served
    · simp [apply, onStacks, Locals.push, short, balance, Balance.count]
      omega
  | @localsLoad index =>
    cases local? : session.locals[index]? with
    | none => simp [apply, onStacks, Locals.load, local?] at served
    | some value => simp [apply, onStacks, Locals.load, local?, balance, Balance.count]
  | @localsPop count =>
    by_cases short : session.locals.length < count
    · simp [apply, onStacks, Locals.pop, short] at served
    · simp [apply, onStacks, Locals.pop, short, balance, Balance.count]
      omega
  | matchAt => exact matchAt_balance served
  | makeValue | setAsSource | readFromSource => simp [apply] at served
  | traceEnter | traceLeave | traceFailure => rfl

/-- One signal that an open session does not refuse counts as it says. Hooks nobody observes do
not count. -/
theorem respond_balance {setup : Setup} {session : Session} {signal : Signal}
    (opened : session.violation = none) (accepted : session.refusal? setup signal = none) :
    (session.respond setup signal).session.balance = session.balance.count signal := by
  rcases respond_cases accepted with ⟨ignored, same⟩ | ⟨call, _, decoded, served, same⟩
  · have hook := hook_of_ignored opened ignored
    rw [same]
    cases signal <;> simp [Signal.isTraceHook] at hook <;> rfl
  · rw [same]
    exact apply_balance (Signal.decode_eq_ok.mp decoded) served

theorem after_balance {setup : Setup} {session : Session} {signals : List Signal}
    (clean : (session.after setup signals).violation = none) :
    (session.after setup signals).balance = signals.foldl Balance.count session.balance := by
  induction signals generalizing session with
  | nil => rfl
  | cons signal rest ih =>
    obtain ⟨opened, accepted⟩ := accepted_of_after_cons clean
    rw [after_cons] at clean ⊢
    rw [ih clean, respond_balance opened accepted, List.foldl_cons]

theorem refusal?_lacking (setup : Setup) {session : Session} {signal : Signal} {call : Call}
    (opened : session.violation = none)
    (decoded : signal.decode session.input.length = .ok call) :
    session.Lacking call.neededValues call.neededLocals (session.refusal? setup signal) := by
  unfold refusal?
  split
  · rename_i ignored
    have hook := hook_of_ignored opened ignored
    cases Signal.decode_eq_ok.mp decoded <;> simp [Signal.isTraceHook] at hook <;>
      exact session.lacking_none
  · simp only [decoded]
    exact apply_lacking setup.factory session call

end Session

namespace Host

variable {host : Host EntryPoint} {rule : String} {input : Bytes} {entry : EntryPoint}

theorem conclude_iff (session : Session) (status : Int) :
    ((∃ value, (host.conclude rule session status).result = .ok value) ↔
      session.violation = none ∧ status ≠ 0 ∧ session.output.length = 1) ∧
    ((∃ diagnostic, (host.conclude rule session status).result = .error (.unmatched diagnostic)) ↔
      session.violation = none ∧ status = 0) := by
  cases recorded : session.violation with
  | some violation => simp [host.conclude_violated recorded]
  | none =>
    rw [host.conclude_open recorded]
    by_cases failed : status = 0
    · simp [failed]
    · rcases session.output with _ | ⟨value, _ | ⟨next, rest⟩⟩ <;> simp [failed]

theorem conclude_unbalanced {session : Session} {status : Int} (clean : session.violation = none)
    (claimed : status ≠ 0) (unbalanced : session.output.length ≠ 1) :
    (host.conclude rule session status).result =
      .error (.contract rule (.unbalancedResult session.output.length)) := by
  rw [host.conclude_open clean, if_neg claimed]
  rcases stacked : session.output with _ | ⟨value, _ | ⟨next, rest⟩⟩
  · rfl
  · simp [stacked] at unbalanced
  · rfl

/-- The counters alone decide a run: they are the heights of the stacks while nothing was
refused, they say whether the next call lacks values or locals, and in the end they say whether
there is a value, a failure to match, or a result out of balance. -/
theorem counting_decides_parse (found : host.resolve rule = .ok entry) :
    (∀ signals, let session := Session.after host.setup signals { input }
      let balance := Balance.ofSignals signals
      session.violation = none →
        balance.height = session.output.length ∧ balance.depth = session.locals.length ∧
        ∀ signal call, signal.decode input.length = .ok call →
          ((session.refusal? host.setup signal).any Violation.lacksValues = true ↔
            balance.height < call.neededValues) ∧
          ((session.refusal? host.setup signal).any Violation.lacksLocals = true ↔
            balance.depth < call.neededLocals)) ∧
    let signals := (entry input).issued host.setup { input }
    let clean := (Session.after host.setup signals { input }).violation = none
    let status := ((entry input).run host.setup { input }).status
    let height := (Balance.ofSignals signals).height
    ((∃ value, (host.parse rule input).result = .ok value) ↔
      clean ∧ status ≠ 0 ∧ height = 1) ∧
    (clean → status ≠ 0 → height ≠ 1 →
      (host.parse rule input).result =
        .error (.contract rule (.unbalancedResult height.toNat))) ∧
    ((∃ diagnostic, (host.parse rule input).result = .error (.unmatched diagnostic)) ↔
      clean ∧ status = 0) := by
  have counted (signals : List Signal)
      (clean : (Session.after host.setup signals { input }).violation = none) :
      Balance.ofSignals signals = (Session.after host.setup signals { input }).balance :=
    (Session.after_balance clean).symm
  constructor
  · intro signals session balance clean
    have heights : balance = session.balance := counted signals clean
    have sameInput : session.input = input := Session.after_input ..
    rw [heights]
    refine ⟨rfl, rfl, fun signal call decoded => ?_⟩
    rw [← sameInput] at decoded
    simpa [Session.Lacking, Session.balance] using
      Session.refusal?_lacking host.setup clean decoded
  · intro signals clean status height
    have heights (h : clean) :
        height = (Session.after host.setup signals { input }).output.length :=
      congrArg Balance.height (counted signals h)
    rw [parse_result found]
    refine ⟨?_, ?_, (conclude_iff ..).2⟩
    · rw [(conclude_iff ..).1]
      refine and_congr_right fun h => and_congr_right fun _ => ?_
      rw [heights h]
      exact Int.natCast_inj.symm
    · intro h claimed unbalanced
      have outOfBalance : (Session.after host.setup signals { input }).output.length ≠ 1 := by
        rw [heights h] at unbalanced
        omega
      rw [conclude_unbalanced h claimed outOfBalance, heights h, Int.toNat_natCast]

theorem counting_decides_unbalanced :
    let host := Samples.host {} .identity
    host.resolve "unbalanced" = .ok Samples.unbalanced ∧
    (Balance.ofSignals ((Samples.unbalanced []).issued host.setup { input := [] })).height = 2 ∧
    (host.parse "unbalanced" []).result =
      .error (.contract "unbalanced" (.unbalancedResult 2)) := by
  intro host
  have found : host.resolve "unbalanced" = .ok Samples.unbalanced := by rfl
  obtain ⟨_, _, unbalanced, _⟩ :=
    @counting_decides_parse host "unbalanced" [] Samples.unbalanced found
  exact ⟨found, rfl, unbalanced rfl (by decide) (by decide)⟩

end Host
end MatcherHost
