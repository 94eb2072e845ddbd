import MatcherHost.Proofs.Balance

/-! Why a call cannot be served, and what is left then. `Denies` lists the causes, each with the
number of values that are gone from the top of the output stack; apart from these a call that is
refused changes nothing. -/
namespace MatcherHost

def Kind.labelled : Kind → Bool
  | .empty | .mapping => true
  | _ => false

theorem Value.labelled_kind (value : Value) : value.kind.labelled = value.entries?.isSome := by
  cases value <;> rfl

theorem Value.array_of_kind {value : Value} (array : value.kind = .array) :
    ∃ items, value = .array items := by
  cases value with
  | array items => exact ⟨items, rfl⟩
  | _ => contradiction

theorem Value.bytes?_eq_none {value : Value} :
    value.bytes? = none ↔ value.kind ≠ .range ∧ value.kind ≠ .text := by
  cases value <;> simp [bytes?, kind]

namespace Session

/-- What stops a call, and how many values are gone by then. Heights are looked at before kinds,
and kinds before the factory is asked. -/
inductive Denies (factory : Factory) (session : Session) : Call → Violation → Nat → Prop
  | reserved {call : Call} : call.operation.reserved = true →
      Denies factory session call (.unsupported call.operation) 0
  | inverted {start stop : Nat} : stop < start ∨ session.input.length < stop →
      Denies factory session (.pushInputRange start stop)
        (.invertedRange .pushInputRange start stop) 0
  | tooFewValues {call : Call} : session.output.length < call.neededValues →
      Denies factory session call
        (.outputUnderflow call.operation call.neededValues session.output.length) 0
  | tooFewLocals {count : Nat} : session.locals.length < count →
      Denies factory session (.localsPop count)
        (.localsUnderflow .localsPop count session.locals.length) 0
  | noSuchLocal {index : Nat} : session.locals.length ≤ index →
      Denies factory session (.localsLoad index)
        (.localsIndexOutOfRange index session.locals.length) 0
  | notArray {item other : Value} {rest : Stack} : session.output = item :: other :: rest →
      other.kind ≠ .array →
      Denies factory session .appendToArray (.wrongKind .appendToArray "array" other.kind) 2
  /-- The topmost value without labels, if it is among those to merge. -/
  | notLabelled {count : Nat} {above rest : Stack} {value : Value} :
      count ≤ session.output.length → session.output = above ++ value :: rest →
      above.length < count → (∀ other ∈ above, other.kind.labelled = true) →
      value.kind.labelled = false →
      Denies factory session (.mergeLabels count) (.wrongKind .mergeLabels "mapping" value.kind)
        (above.length + 1)
  | notComparable {position : Nat} {value : Value} {rest : Stack} :
      session.output = value :: rest → value.kind ≠ .range → value.kind ≠ .text →
      Denies factory session (.matchAt position)
        (.wrongKind .matchAt "range or text" value.kind) 1
  | aborted {className message : String} {payload : Value} {rest : Stack} :
      session.output = payload :: rest → factory className payload = .error ⟨some message⟩ →
      Denies factory session (.makeObject className) (.callbackAborted .makeObject message) 1
  /-- The factory gave up and left something that is not text. -/
  | abortedUntold {className : String} {payload : Value} {rest : Stack} :
      session.output = payload :: rest → factory className payload = .error ⟨none⟩ →
      Denies factory session (.makeObject className)
        (.callbackAborted .makeObject "non-string panic payload") 1

end Session

namespace Stack

theorem appendToArray_misfit {item other : Value} {rest : Stack} (misfit : other.kind ≠ .array) :
    appendToArray (item :: other :: rest) =
      .refused rest (.wrongKind .appendToArray "array" other.kind) := by
  cases other with
  | array items => contradiction
  | _ => rfl

/-- A merge stops at the topmost value without labels. -/
theorem gather_misfit {above rest : Stack} {value : Value} {count : Nat} (merged : Entries Value)
    (within : above.length < count) (labelled : ∀ other ∈ above, other.kind.labelled = true)
    (misfit : value.kind.labelled = false) :
    gather count merged (above ++ value :: rest) =
      .refused rest (.wrongKind .mergeLabels "mapping" value.kind) := by
  induction above generalizing count merged with
  | nil =>
    rw [Value.labelled_kind, Option.isSome_eq_false_iff, Option.isNone_iff_eq_none] at misfit
    cases count with
    | zero => contradiction
    | succ count => simp only [List.nil_append, gather, misfit]
  | cons top above ih =>
    obtain ⟨first, later⟩ := List.forall_mem_cons.mp labelled
    rw [Value.labelled_kind] at first
    obtain ⟨entries, found⟩ := Option.isSome_iff_exists.mp first
    cases count with
    | zero => contradiction
    | succ count =>
      have fewer : above.length < count := Nat.lt_of_succ_lt_succ within
      simp only [List.cons_append, gather, found]
      exact ih (merged.update entries) fewer later

theorem gather_refused {count : Nat} {merged : Entries Value} {stack : Stack}
    {violation : Violation} (enough : count ≤ stack.length)
    (refused : (gather count merged stack).refusal = some violation) :
    ∃ above value rest, stack = above ++ value :: rest ∧ above.length < count ∧
      (∀ other ∈ above, other.kind.labelled = true) ∧ value.kind.labelled = false ∧
      violation = .wrongKind .mergeLabels "mapping" value.kind := by
  induction count generalizing merged stack with
  | zero => contradiction
  | succ count ih =>
    cases stack with
    | nil => contradiction
    | cons top rest =>
      rw [List.length_cons, Nat.add_le_add_iff_right] at enough
      cases found : top.entries? with
      | none =>
        have misfit : top.kind.labelled = false := by rw [Value.labelled_kind, found]; rfl
        simp only [gather, found, Effect.refused_refusal, Option.some.injEq] at refused
        exact ⟨[], top, rest, rfl, Nat.succ_pos count, List.forall_mem_nil _, misfit,
          refused.symm⟩
      | some entries =>
        have labelled : top.kind.labelled = true := by rw [Value.labelled_kind, found]; rfl
        simp only [gather, found] at refused
        obtain ⟨above, value, below, rfl, within, all, misfit, cause⟩ := ih enough refused
        exact ⟨top :: above, value, below, rfl, Nat.succ_lt_succ within,
          List.forall_mem_cons.mpr ⟨labelled, all⟩, misfit, cause⟩

end Stack

namespace Session

variable {factory : Factory} {session : Session} {call : Call} {violation : Violation} {lost : Nat}

theorem apply_of_short (short : session.output.length < call.neededValues) :
    session.apply factory call = ⟨session, none,
      some (.outputUnderflow call.operation call.neededValues session.output.length)⟩ := by
  obtain ⟨input, output, locals, failures, recorded⟩ := session
  have bare (one : output.length < 1) : output = [] :=
    List.length_eq_zero_iff.mp (Nat.lt_one_iff.mp one)
  cases call with
  | makeLabel | makeObject | pop | matchAt =>
    obtain rfl := bare short
    rfl
  | pushArray wrapTop =>
    cases wrapTop with
    | false => exact absurd short (Nat.not_lt_zero _)
    | true =>
      obtain rfl := bare short
      rfl
  | appendToArray =>
    rcases output with _ | ⟨item, _ | ⟨other, rest⟩⟩
    · rfl
    · rfl
    · have enough : 2 ≤ (item :: other :: rest).length := by simp
      exact absurd short (Nat.not_lt.mpr enough)
  | mergeLabels count =>
    have short : output.length < count := short
    simp only [apply, onOutput, Stack.mergeLabels, short, if_true]
    rfl
  | localsPush count =>
    have short : output.length < count := short
    simp only [apply, onStacks, Locals.push, short, if_true]
    rfl
  | _ => exact absurd short (Nat.not_lt_zero _)

/-- A call that is denied takes the values it says and changes nothing else. -/
theorem Denies.apply_eq (denied : session.Denies factory call violation lost) :
    session.apply factory call =
      ⟨{ session with output := session.output.drop lost }, none, some violation⟩ := by
  cases denied with
  | reserved unsupported => cases call <;> first | rfl | contradiction
  | @inverted start stop apart =>
    have notRange : ¬(start ≤ stop ∧ stop ≤ session.input.length) := by omega
    simp only [apply, onOutput, Stack.pushRange, InputRange.of?, notRange, dif_neg,
      not_false_eq_true]
    rfl
  | tooFewValues short => exact apply_of_short short
  | tooFewLocals short =>
    simp only [apply, onStacks, Locals.pop, short, if_true]
    rfl
  | noSuchLocal beyond =>
    simp only [apply, onStacks, Locals.load, List.getElem?_eq_none beyond]
    rfl
  | notArray stacked misfit =>
    simp only [apply, onOutput, stacked, Stack.appendToArray_misfit misfit]
    rfl
  | @notLabelled count above rest value enough stacked within labelled misfit =>
    have merged : session.output.mergeLabels count =
        .refused rest (.wrongKind .mergeLabels "mapping" value.kind) := by
      rw [Stack.mergeLabels, if_neg (Nat.not_lt.mpr enough), stacked,
        Stack.gather_misfit [] within labelled misfit]
    have left : session.output.drop (above.length + 1) = rest := by
      rw [stacked]
      simp
    simp only [apply, onOutput, merged, left]
    rfl
  | notComparable stacked notRange notText =>
    have unread := Value.bytes?_eq_none.mpr ⟨notRange, notText⟩
    simp only [apply, matchAt, stacked, Stack.take, unread]
    rfl
  | aborted stacked gaveUp | abortedUntold stacked gaveUp =>
    simp only [apply, onOutput, Stack.makeObject, stacked, gaveUp]
    rfl

theorem Denies.blames (denied : session.Denies factory call violation lost) :
    violation.operation = some call.operation := by
  cases denied <;> rfl

/-- Nothing else stops a call. -/
theorem exists_denies (refused : (session.apply factory call).refusal = some violation) :
    ∃ lost, session.Denies factory call violation lost := by
  by_cases short : session.output.length < call.neededValues
  · rw [apply_of_short short, Option.some.injEq] at refused
    exact ⟨0, refused ▸ .tooFewValues short⟩
  have enough := Nat.not_lt.mp short
  cases call with
  | pushInputRange start stop =>
    by_cases ordered : start ≤ stop ∧ stop ≤ session.input.length
    · simp [apply, onOutput, Stack.pushRange, InputRange.of?, ordered] at refused
    · simp only [apply, onOutput, Stack.pushRange, InputRange.of?, ordered, dif_neg,
        not_false_eq_true, Effect.refused_refusal, Option.some.injEq] at refused
      exact ⟨0, refused ▸ .inverted (by omega)⟩
  | pushArray wrapTop =>
    cases wrapTop with
    | false => contradiction
    | true =>
      obtain ⟨top, rest, stacked⟩ := List.exists_cons_of_length_pos enough
      simp [apply, onOutput, stacked, Stack.pushArray] at refused
  | appendToArray =>
    rcases stacked : session.output with _ | ⟨item, _ | ⟨other, rest⟩⟩
    · simp [stacked, Call.neededValues] at enough
    · simp [stacked, Call.neededValues] at enough
    by_cases array : other.kind = .array
    · obtain ⟨items, rfl⟩ := Value.array_of_kind array
      simp [apply, onOutput, stacked, Stack.appendToArray] at refused
    · simp only [apply, onOutput, stacked, Stack.appendToArray_misfit array,
        Effect.refused_refusal, Option.some.injEq] at refused
      exact ⟨2, refused ▸ .notArray stacked array⟩
  | makeLabel label =>
    obtain ⟨top, rest, stacked⟩ := List.exists_cons_of_length_pos enough
    simp [apply, onOutput, stacked, Stack.makeLabel] at refused
  | mergeLabels count =>
    have enough : count ≤ session.output.length := enough
    simp only [apply, onOutput, Stack.mergeLabels, Nat.not_lt.mpr enough, if_false] at refused
    obtain ⟨above, value, rest, stacked, within, labelled, misfit, rfl⟩ :=
      Stack.gather_refused enough refused
    exact ⟨_, .notLabelled enough stacked within labelled misfit⟩
  | makeObject className =>
    obtain ⟨payload, rest, stacked⟩ := List.exists_cons_of_length_pos enough
    cases made : factory className payload with
    | ok value => simp [apply, onOutput, stacked, Stack.makeObject, made] at refused
    | error abort =>
      simp only [apply, onOutput, stacked, Stack.makeObject, made, Effect.mapRefusal_refused,
        Effect.refused_refusal, Option.some.injEq] at refused
      obtain ⟨_ | message⟩ := abort
      · exact ⟨1, refused ▸ .abortedUntold stacked made⟩
      · exact ⟨1, refused ▸ .aborted stacked made⟩
  | pop =>
    obtain ⟨top, rest, stacked⟩ := List.exists_cons_of_length_pos enough
    simp [apply, onOutput, stacked, Stack.pop] at refused
  | localsPush count =>
    have enough : count ≤ session.output.length := enough
    simp [apply, onStacks, Locals.push, Nat.not_lt.mpr enough] at refused
  | localsLoad index =>
    cases found : session.locals[index]? with
    | some value => simp [apply, onStacks, Locals.load, found] at refused
    | none =>
      simp only [apply, onStacks, Locals.load, found, Effect.refused_refusal,
        Option.some.injEq] at refused
      exact ⟨0, refused ▸ .noSuchLocal (List.getElem?_eq_none_iff.mp found)⟩
  | localsPop count =>
    by_cases fewer : session.locals.length < count
    · simp only [apply, onStacks, Locals.pop, fewer, if_true, Effect.refused_refusal,
        Option.some.injEq] at refused
      exact ⟨0, refused ▸ .tooFewLocals fewer⟩
    · simp [apply, onStacks, Locals.pop, fewer] at refused
  | matchAt position =>
    obtain ⟨value, rest, stacked⟩ := List.exists_cons_of_length_pos enough
    cases read : value.bytes? with
    | some bytes =>
      simp only [apply, matchAt, stacked, Stack.take, read] at refused
      split at refused <;> contradiction
    | none =>
      obtain ⟨notRange, notText⟩ := Value.bytes?_eq_none.mp read
      simp only [apply, matchAt, stacked, Stack.take, read, Option.some.injEq] at refused
      exact ⟨1, refused ▸ .notComparable stacked notRange notText⟩
  | makeValue | setAsSource | readFromSource =>
    obtain rfl := Option.some.inj refused
    exact ⟨0, .reserved rfl⟩
  | pushEmpty | pushBoolean | pushString | traceEnter | traceLeave | traceFailure => contradiction

end Session

/-- How many values a refused call has taken from the top of the stack. A merge takes values one by
one, down to the first that it cannot merge. -/
def Call.forfeits (stack : Stack) (call : Call) : Violation → Nat
  | .wrongKind .. =>
    match call with
    | .appendToArray => 2
    | .matchAt _ => 1
    | .mergeLabels _ => stack.findIdx (!·.kind.labelled) + 1
    | _ => 0
  | .callbackAborted .. =>
    match call with
    | .makeObject _ => 1
    | _ => 0
  | _ => 0

namespace Session

variable {factory : Factory} {session : Session} {call : Call} {violation : Violation} {lost : Nat}

theorem Denies.lost_eq (denied : session.Denies factory call violation lost) :
    lost = call.forfeits session.output violation ∧ lost ≤ session.output.length := by
  cases denied with
  | reserved | inverted | tooFewValues | tooFewLocals | noSuchLocal =>
    exact ⟨rfl, Nat.zero_le _⟩
  | notArray stacked | notComparable stacked | aborted stacked | abortedUntold stacked =>
    rw [stacked]
    exact ⟨rfl, by simp⟩
  | @notLabelled count above rest value _ stacked _ labelled misfit =>
    have higher : above.findIdx (!·.kind.labelled) = above.length := by
      rw [List.findIdx_eq_length]
      intro other member
      simp [labelled other member]
    have first : session.output.findIdx (!·.kind.labelled) = above.length := by
      rw [stacked, List.findIdx_append, higher]
      simp [List.findIdx_cons, misfit]
    refine ⟨congrArg (· + 1) first.symm, ?_⟩
    rw [stacked]
    simp

/-- A refused operation leaves the locals, the failures and everything else as they were. From the
output stack it has taken values only if one of them was of the wrong kind or the factory gave up,
and then it took the values down to that one; it never puts any there. -/
theorem refused_forfeits (factory : Factory) (session : Session) :
    (∀ operation violation, session.output.take operation = .error violation →
      session.output = []) ∧
    ∀ call violation, (session.apply factory call).refusal = some violation →
      let lost := call.forfeits session.output violation
      (session.apply factory call).session =
        { session with output := session.output.drop lost } ∧
      lost ≤ session.output.length := by
  constructor
  · intro operation violation refused
    cases stacked : session.output with
    | nil => rfl
    | cons top rest =>
      rw [stacked] at refused
      contradiction
  · intro call violation refused
    obtain ⟨lost, denied⟩ := exists_denies refused
    obtain ⟨rfl, bounded⟩ := denied.lost_eq
    rw [denied.apply_eq]
    exact ⟨rfl, bounded⟩

theorem refused_merge_forfeits :
    let session : Session :=
      { input := [], output := [.empty, .mapping [], .boolean true, .text "kept"],
        locals := [.empty] }
    let reply := session.apply .identity (.mergeLabels 4)
    reply.refusal = some (.wrongKind .mergeLabels "mapping" .boolean) ∧
    reply.session = { session with output := [.text "kept"] } := by
  intro session reply
  have refused : reply.refusal = some (.wrongKind .mergeLabels "mapping" .boolean) := by rfl
  obtain ⟨_, law⟩ := refused_forfeits .identity session
  obtain ⟨left, _⟩ := law (.mergeLabels 4) _ refused
  exact ⟨refused, left⟩

end Session
end MatcherHost
