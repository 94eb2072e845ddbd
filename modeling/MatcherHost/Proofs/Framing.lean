import MatcherHost.Proofs.Serving

/-! What a run does not look at stays as it is. A run without a violation goes the same way with
more values beneath both stacks, and leaves them where they were. -/
namespace MatcherHost

namespace Stack

/-- Where the operation is served it looks no deeper than the stack it was served on. -/
def Framed (operation : Stack → Effect Violation Stack) : Prop :=
  ∀ stack below, (operation stack).refusal = none →
    operation (stack ++ below) = (operation stack).within (· ++ below)

theorem push_framed (value : Value) : Framed fun stack => .done (value :: stack) :=
  fun _ _ _ => rfl

theorem pushRange_framed (input : Bytes) (start stop : Nat) : Framed (pushRange input start stop) := by
  intro stack below served
  cases piece : InputRange.of? input start stop with
  | none => simp [pushRange, piece] at served
  | some piece' => simp [pushRange, piece]

theorem pushArray_framed (wrapTop : Bool) : Framed (pushArray wrapTop) := by
  intro stack below served
  cases wrapTop with
  | false => rfl
  | true =>
    cases stack with
    | nil => simp [pushArray] at served
    | cons top rest => rfl

theorem appendToArray_framed : Framed appendToArray := by
  intro stack below served
  rcases stack with _ | ⟨item, _ | ⟨other, rest⟩⟩
  · simp [appendToArray] at served
  · simp [appendToArray] at served
  · cases other with
    | array items => rfl
    | _ => simp [appendToArray] at served

theorem makeLabel_framed (label : String) : Framed (makeLabel label) := by
  intro stack below served
  cases stack with
  | nil => simp [makeLabel] at served
  | cons top rest => rfl

/-- A merge that is served stops before the values beneath. -/
theorem gather_framed (count : Nat) (merged : Entries Value) : Framed (gather count merged) := by
  intro stack below served
  induction count generalizing merged stack with
  | zero => rfl
  | succ count ih =>
    cases stack with
    | nil => simp [gather] at served
    | cons top rest =>
      cases kind : top.entries? with
      | none => simp [gather, kind] at served
      | some entries =>
        simp only [gather, kind, List.cons_append] at served ⊢
        exact ih (merged.update entries) rest served

theorem mergeLabels_framed (count : Nat) : Framed (mergeLabels count) := by
  intro stack below served
  by_cases short : stack.length < count
  · simp [mergeLabels, short] at served
  · have enough : ¬(stack ++ below).length < count := by
      rw [List.length_append]
      omega
    simp only [mergeLabels, short, enough, if_false] at served ⊢
    exact gather_framed count [] stack below served

theorem makeObject_framed (factory : Factory) (className : String) :
    Framed fun stack => (makeObject factory className stack).mapRefusal NotMade.blame := by
  intro stack below served
  cases stack with
  | nil => simp [makeObject] at served
  | cons payload rest =>
    cases made : factory className payload with
    | error abort => simp [makeObject, made] at served
    | ok value => simp [makeObject, made]

theorem pop_framed : Framed pop := by
  intro stack below served
  cases stack with
  | nil => simp [pop] at served
  | cons top rest => rfl

end Stack

namespace Locals

def Framed (operation : Stack → Stack → Effect Violation (Stack × Stack)) : Prop :=
  ∀ output locals values bound, (operation output locals).refusal = none →
    operation (output ++ values) (locals ++ bound) =
      (operation output locals).within fun both => (both.1 ++ values, both.2 ++ bound)

theorem push_framed (count : Nat) : Framed (push count) := by
  intro output locals values bound served
  by_cases short : output.length < count
  · simp [push, short] at served
  · have enough : ¬(output ++ values).length < count := by
      rw [List.length_append]
      omega
    have within : count ≤ output.length := Nat.not_lt.mp short
    simp only [push, short, enough, if_false, Effect.within_done,
      List.drop_append_of_le_length within, List.take_append_of_le_length within,
      List.append_assoc]

/-- The index of a local counts from the top, so what is bound further down does not matter. -/
theorem load_framed (index : Nat) : Framed (load index) := by
  intro output locals values bound served
  cases found : locals[index]? with
  | none => simp [load, found] at served
  | some value =>
    have inside := (List.getElem?_eq_some_iff.mp found).1
    simp [load, List.getElem?_append_left inside, found]

theorem pop_framed (count : Nat) : Framed (pop count) := by
  intro output locals values bound served
  by_cases short : locals.length < count
  · simp [pop, short] at served
  · have enough : ¬(locals ++ bound).length < count := by
      rw [List.length_append]
      omega
    simp only [pop, short, enough, if_false, Effect.within_done,
      List.drop_append_of_le_length (Nat.not_lt.mp short)]

end Locals

namespace Session

def upon (values bound : Stack) (session : Session) : Session :=
  { session with output := session.output ++ values, locals := session.locals ++ bound }

variable {session : Session} {values bound : Stack}

theorem onOutput_upon {operation : Stack → Effect Violation Stack}
    (framed : Stack.Framed operation)
    (served : (session.onOutput (operation session.output)).refusal = none) :
    (session.upon values bound).onOutput (operation (session.output ++ values)) =
      let reply := session.onOutput (operation session.output)
      { reply with session := reply.session.upon values bound } := by
  simp only [framed session.output values served, onOutput, upon, Effect.within]

theorem onStacks_upon {operation : Stack → Stack → Effect Violation (Stack × Stack)}
    (framed : Locals.Framed operation)
    (served : (session.onStacks (operation session.output session.locals)).refusal = none) :
    (session.upon values bound).onStacks
        (operation (session.output ++ values) (session.locals ++ bound)) =
      let reply := session.onStacks (operation session.output session.locals)
      { reply with session := reply.session.upon values bound } := by
  simp only [framed session.output session.locals values bound served, onStacks, upon,
    Effect.within]

theorem matchAt_upon {position : Nat} (served : (session.matchAt position).refusal = none) :
    (session.upon values bound).matchAt position =
      { session.matchAt position with
        session := (session.matchAt position).session.upon values bound } := by
  cases stacked : session.output with
  | nil => simp [matchAt, stacked, Stack.take] at served
  | cons value rest =>
    simp only [matchAt, upon, stacked, List.cons_append, Stack.take] at served ⊢
    split
    · rfl
    · split <;> rfl

/-- One call: the answer is the same, and the values beneath stay beneath. -/
theorem apply_upon {factory : Factory} {call : Call}
    (served : (session.apply factory call).refusal = none) :
    (session.upon values bound).apply factory call =
      { session.apply factory call with
        session := (session.apply factory call).session.upon values bound } := by
  cases call with
  | pushEmpty | pushBoolean | pushString => exact onOutput_upon (Stack.push_framed _) served
  | pushInputRange start stop =>
    exact onOutput_upon (Stack.pushRange_framed session.input start stop) served
  | pushArray wrapTop => exact onOutput_upon (Stack.pushArray_framed wrapTop) served
  | appendToArray => exact onOutput_upon Stack.appendToArray_framed served
  | makeLabel label => exact onOutput_upon (Stack.makeLabel_framed label) served
  | mergeLabels count => exact onOutput_upon (Stack.mergeLabels_framed count) served
  | makeObject className =>
    exact onOutput_upon (Stack.makeObject_framed factory className) served
  | pop => exact onOutput_upon Stack.pop_framed served
  | localsPush count => exact onStacks_upon (Locals.push_framed count) served
  | localsLoad index => exact onStacks_upon (Locals.load_framed index) served
  | localsPop count => exact onStacks_upon (Locals.pop_framed count) served
  | matchAt position => exact matchAt_upon served
  | makeValue | setAsSource | readFromSource => simp [apply] at served
  | traceEnter | traceLeave | traceFailure => rfl

theorem respond_upon {setup : Setup} {signal : Signal}
    (accepted : session.refusal? setup signal = none) :
    (session.upon values bound).respond setup signal =
      { session.respond setup signal with
        session := (session.respond setup signal).session.upon values bound } := by
  rcases respond_cases accepted with ⟨ignored, same⟩ | ⟨call, attended, decoded, served, same⟩
  · rw [same]
    exact respond_of_ignored ignored
  · have deeper := @apply_upon session values bound setup.factory call served
    have servedToo : ((session.upon values bound).apply setup.factory call).refusal = none := by
      rw [deeper]
      exact served
    calc (session.upon values bound).respond setup signal
        = ⟨((session.upon values bound).apply setup.factory call).session,
            ((session.upon values bound).apply setup.factory call).answer,
            noted setup.tracing call⟩ := respond_of_served attended decoded servedToo
      _ = _ := by rw [same, deeper]

theorem serve_upon {setup : Setup} {signals : List Signal}
    (clean : (session.after setup signals).violation = none) :
    (session.upon values bound).serve setup signals =
      { session.serve setup signals with
        session := (session.after setup signals).upon values bound } := by
  induction signals generalizing session with
  | nil => rfl
  | cons signal rest ih =>
    obtain ⟨_, accepted⟩ := accepted_of_after_cons clean
    rw [after_cons] at clean
    simp only [serve, respond_upon accepted, ih clean, after_cons]

/-- A run of a fragment that ends without a violation ends in the same way above any values that
were on the two stacks before it. -/
theorem serve_frame (setup : Setup) (signals : List Signal) (input : Bytes)
    (output locals output' locals' : Stack) (failures failures' : Failures)
    (answers : List (Option Nat)) (events : List Event)
    (ends : serve setup signals { input, output, locals, failures } =
      ⟨{ input, output := output', locals := locals', failures := failures' }, answers, events⟩)
    (values bound : Stack) :
    serve setup signals
        { input, output := output ++ values, locals := locals ++ bound, failures } =
      ⟨{ input, output := output' ++ values, locals := locals' ++ bound, failures := failures' },
        answers, events⟩ := by
  have reached : Session.after setup signals { input, output, locals, failures } =
      { input, output := output', locals := locals', failures := failures' } := by
    rw [after, ends]
  have framed := @serve_upon { input, output, locals, failures } values bound setup signals
    (by rw [reached])
  rw [reached, ends] at framed
  exact framed

def backreference : List Signal :=
  [.localsPush 1, .localsLoad 0, .matchAt (some 2), .localsLoad 0, .matchAt (some 1),
    .localsLoad 1, .makeLabel (some [107]), .pushEmpty, .mergeLabels 2,
    .traceFailure (some 4) (some [101]) true, .localsPop 1]

theorem serve_backreference_frame :
    serve ⟨.tagging, false⟩ backreference
        { input := [97, 98, 97, 98], output := [.text "ab", .empty, .boolean true],
          locals := [.text "l", .empty] } =
      ⟨{ input := [97, 98, 97, 98],
         output := [.mapping [("k", .text "l")], .empty, .boolean true],
         locals := [.text "l", .empty],
         failures := ⟨some 4, ["e"], []⟩ },
        [none, none, some 4, none, none, none, none, none, none, none, none], []⟩ :=
  serve_frame ⟨.tagging, false⟩ backreference [97, 98, 97, 98] [.text "ab"] [.text "l"]
    [.mapping [("k", .text "l")]] [.text "l"] {} ⟨some 4, ["e"], []⟩ _ _ rfl
    [.empty, .boolean true] [.empty]

end Session
end MatcherHost
