import MatcherHost.Proofs.Merging
import MatcherHost.Proofs.Provenance

/-! Labels stay in order. `Assembles` says once what each call does that puts values together, and
from it follows that no run ever leaves a mapping on a stack whose labels do not ascend, provided
the factory makes none up. -/
namespace MatcherHost

/-- Callbacks that put values on the output stack together, and neither move, copy nor drop any. -/
def Operation.assembles : Operation → Bool
  | .pushEmpty | .pushInputRange | .pushBoolean | .pushString | .pushArray | .appendToArray
  | .makeLabel | .mergeLabels | .makeObject => true
  | _ => false

/-- What calls that assemble values make of the output stack. -/
inductive Stack.Assembles (factory : Factory) (input : Bytes) : Call → Stack → Stack → Prop
  | pushEmpty {stack : Stack} : Assembles factory input .pushEmpty stack (.empty :: stack)
  | pushInputRange {stack : Stack} {start stop : Nat} {piece : InputRange} :
      InputRange.of? input start stop = some piece →
      Assembles factory input (.pushInputRange start stop) stack (.range piece :: stack)
  | pushBoolean {stack : Stack} {flag : Bool} :
      Assembles factory input (.pushBoolean flag) stack (.boolean flag :: stack)
  | pushString {stack : Stack} {content : String} :
      Assembles factory input (.pushString content) stack (.text content :: stack)
  | newArray {stack : Stack} :
      Assembles factory input (.pushArray false) stack (.array [] :: stack)
  | wrapArray {top : Value} {rest : Stack} :
      Assembles factory input (.pushArray true) (top :: rest) (.array [top] :: rest)
  | appendToArray {item : Value} {items : List Value} {rest : Stack} :
      Assembles factory input .appendToArray (item :: .array items :: rest)
        (.array (items ++ [item]) :: rest)
  | makeLabel {label : String} {top : Value} {rest : Stack} :
      Assembles factory input (.makeLabel label) (top :: rest) (.mapping [(label, top)] :: rest)
  | mergeLabels {values rest : Stack} : (∀ value ∈ values, value.kind.labelled = true) →
      Assembles factory input (.mergeLabels values.length) (values ++ rest)
        (.mapping (Stack.collect [] values) :: rest)
  | makeObject {className : String} {payload made : Value} {rest : Stack} :
      factory className payload = .ok made →
      Assembles factory input (.makeObject className) (payload :: rest) (made :: rest)

namespace Session

variable {factory : Factory} {session : Session} {call : Call}

/-- A call that assembles values, once it is served, does what is listed and nothing else. -/
theorem apply_assembles (assembling : call.operation.assembles = true)
    (served : (session.apply factory call).refusal = none) :
    ∃ stack, Stack.Assembles factory session.input call session.output stack ∧
      (session.apply factory call).session = { session with output := stack } := by
  cases call with
  | pushEmpty => exact ⟨_, .pushEmpty, rfl⟩
  | pushBoolean flag => exact ⟨_, .pushBoolean, rfl⟩
  | pushString content => exact ⟨_, .pushString, rfl⟩
  | pushInputRange start stop =>
    cases found : InputRange.of? session.input start stop with
    | none => simp [apply, onOutput, Stack.pushRange, found] at served
    | some piece =>
      refine ⟨_, .pushInputRange found, ?_⟩
      simp [apply, onOutput, Stack.pushRange, found]
  | pushArray wrapTop =>
    cases wrapTop with
    | false => exact ⟨_, .newArray, rfl⟩
    | true =>
      cases stacked : session.output with
      | nil => simp [apply, onOutput, Stack.pushArray, stacked] at served
      | cons top rest =>
        refine ⟨_, .wrapArray, ?_⟩
        simp [apply, onOutput, Stack.pushArray, stacked]
  | appendToArray =>
    rcases stacked : session.output with _ | ⟨item, _ | ⟨other, rest⟩⟩
    · simp [apply, onOutput, Stack.appendToArray, stacked] at served
    · simp [apply, onOutput, Stack.appendToArray, stacked] at served
    · cases other with
      | array items =>
        refine ⟨_, .appendToArray, ?_⟩
        simp [apply, onOutput, Stack.appendToArray, stacked]
      | _ => simp [apply, onOutput, Stack.appendToArray, stacked] at served
  | makeLabel label =>
    cases stacked : session.output with
    | nil => simp [apply, onOutput, Stack.makeLabel, stacked] at served
    | cons top rest =>
      refine ⟨_, .makeLabel, ?_⟩
      simp [apply, onOutput, Stack.makeLabel, stacked]
  | mergeLabels count =>
    obtain ⟨values, rest, stacked, rfl, labelled⟩ := Stack.mergeLabels_served served
    refine ⟨.mapping (Stack.collect [] values) :: rest, ?_, ?_⟩
    · rw [stacked]
      exact .mergeLabels labelled
    · simp [apply, onOutput, stacked, Stack.mergeLabels_collects rest labelled]
  | makeObject className =>
    cases stacked : session.output with
    | nil => simp [apply, onOutput, Stack.makeObject, stacked] at served
    | cons payload rest =>
      cases built : factory className payload with
      | error abort => simp [apply, onOutput, Stack.makeObject, stacked, built] at served
      | ok made =>
        refine ⟨_, .makeObject built, ?_⟩
        simp [apply, onOutput, Stack.makeObject, stacked, built]
  | _ => contradiction

end Session

namespace Value

theorem orderedItems_iff {items : List Value} :
    OrderedItems items ↔ ∀ item ∈ items, item.Ordered := by
  induction items with
  | nil => simp [OrderedItems]
  | cons item rest ih => rw [OrderedItems, ih, List.forall_mem_cons]

theorem orderedEntries_iff {entries : List (String × Value)} :
    OrderedEntries entries ↔ ∀ entry ∈ entries, entry.2.Ordered := by
  induction entries with
  | nil => simp [OrderedEntries]
  | cons entry rest ih => rw [OrderedEntries, ih, List.forall_mem_cons]

theorem Ordered.entries {value : Value} (ordered : value.Ordered) :
    value.entries.Ascending ∧ ∀ entry ∈ value.entries, entry.2.Ordered := by
  cases value with
  | mapping entries => exact ⟨ordered.1, orderedEntries_iff.mp ordered.2⟩
  | _ => exact ⟨Entries.ascending_nil, List.forall_mem_nil _⟩

end Value

def Factory.KeepsOrder (factory : Factory) : Prop :=
  ∀ className payload made, factory className payload = .ok made → payload.Ordered → made.Ordered

namespace Factory

theorem identity_keepsOrder : identity.KeepsOrder := by
  rintro className payload made built ordered
  obtain rfl : payload = made := Except.ok.inj built
  exact ordered

theorem tagging_keepsOrder : tagging.KeepsOrder := by
  rintro className payload made built ordered
  obtain rfl : Value.object className payload = made := Except.ok.inj built
  exact ordered

end Factory

namespace Stack

def Ordered (stack : Stack) : Prop := ∀ value ∈ stack, value.Ordered

theorem collect_ordered {merged : Entries Value} {values : Stack}
    (start : ∀ entry ∈ merged, entry.2.Ordered) (ordered : values.Ordered) :
    ∀ entry ∈ collect merged values, entry.2.Ordered := by
  induction values generalizing merged with
  | nil => exact start
  | cons value rest ih =>
    obtain ⟨first, later⟩ := List.forall_mem_cons.mp ordered
    refine ih (fun entry member => ?_) later
    rcases Entries.mem_update member with older | newer
    · exact start entry older
    · exact first.entries.2 entry newer

theorem Assembles.ordered {factory : Factory} {input : Bytes} {call : Call} {stack built : Stack}
    (keeps : factory.KeepsOrder) (assembles : Assembles factory input call stack built)
    (ordered : stack.Ordered) : built.Ordered := by
  cases assembles with
  | pushEmpty | pushInputRange | pushBoolean | pushString | newArray =>
    exact List.forall_mem_cons.mpr ⟨trivial, ordered⟩
  | wrapArray =>
    obtain ⟨first, later⟩ := List.forall_mem_cons.mp ordered
    exact List.forall_mem_cons.mpr ⟨⟨first, trivial⟩, later⟩
  | appendToArray =>
    obtain ⟨item, others⟩ := List.forall_mem_cons.mp ordered
    obtain ⟨items, later⟩ := List.forall_mem_cons.mp others
    refine List.forall_mem_cons.mpr ⟨Value.orderedItems_iff.mpr ?_, later⟩
    refine List.forall_mem_append.mpr ⟨Value.orderedItems_iff.mp items, ?_⟩
    exact List.forall_mem_singleton.mpr item
  | makeLabel =>
    obtain ⟨first, later⟩ := List.forall_mem_cons.mp ordered
    exact List.forall_mem_cons.mpr ⟨⟨List.pairwise_singleton _ _, first, trivial⟩, later⟩
  | mergeLabels =>
    obtain ⟨merged, later⟩ := List.forall_mem_append.mp ordered
    refine List.forall_mem_cons.mpr ⟨⟨collect_ascending Entries.ascending_nil, ?_⟩, later⟩
    exact Value.orderedEntries_iff.mpr (collect_ordered (List.forall_mem_nil _) merged)
  | makeObject built =>
    obtain ⟨payload, later⟩ := List.forall_mem_cons.mp ordered
    exact List.forall_mem_cons.mpr ⟨keeps _ _ _ built payload, later⟩

end Stack

namespace Session

variable {factory : Factory} {session : Session} {call : Call}

def Ordered (session : Session) : Prop := Stack.Ordered (session.output ++ session.locals)

theorem apply_ordered (keeps : factory.KeepsOrder) (ordered : session.Ordered) :
    (session.apply factory call).session.Ordered := by
  obtain ⟨output, locals⟩ := List.forall_mem_append.mp ordered
  have fewer {stack : Stack} (kept : stack ⊆ session.output) :
      Ordered { session with output := stack } :=
    List.forall_mem_append.mpr ⟨fun value member => output value (kept member), locals⟩
  cases refusal : (session.apply factory call).refusal with
  | some violation =>
    obtain ⟨lost, denied⟩ := exists_denies refusal
    rw [denied.apply_eq]
    exact fewer (List.drop_subset lost session.output)
  | none =>
    cases assembling : call.operation.assembles with
    | true =>
      obtain ⟨stack, assembles, same⟩ := apply_assembles assembling refusal
      rw [same]
      exact List.forall_mem_append.mpr ⟨assembles.ordered keeps output, locals⟩
    | false =>
      cases call with
      | pop =>
        cases stacked : session.output with
        | nil => simp [apply, onOutput, Stack.pop, stacked] at refusal
        | cons top rest =>
          simp only [apply, onOutput, Stack.pop, stacked]
          exact fewer (by simp [stacked])
      | localsPush count =>
        exact fun value member => ordered value (Locals.push_subset count _ _ member)
      | localsLoad index =>
        exact fun value member => ordered value (Locals.load_subset index _ _ member)
      | localsPop count =>
        exact fun value member => ordered value (Locals.pop_subset count _ _ member)
      | matchAt position =>
        rw [apply, matchAt_session]
        exact fewer fun _ => List.mem_of_mem_tail
      | makeValue | setAsSource | readFromSource | traceEnter | traceLeave | traceFailure =>
        exact ordered
      | _ => contradiction

theorem respond_ordered {setup : Setup} (keeps : setup.factory.KeepsOrder) (signal : Signal)
    (ordered : session.Ordered) : (session.respond setup signal).session.Ordered := by
  rcases respond_leaves setup session signal with ⟨_, same⟩ | ⟨call, _, _, _, same⟩
  · rw [same]
    exact ordered
  · rw [same]
    exact apply_ordered keeps ordered

/-- No run leaves a mapping whose labels are out of order. -/
theorem after_ordered {setup : Setup} (keeps : setup.factory.KeepsOrder) (input : Bytes)
    (signals : List Signal) : (Session.after setup signals { input }).Ordered := by
  refine after_invariant setup Ordered ?_ signals { input } (List.forall_mem_nil _)
  intro session signal ordered
  exact respond_ordered keeps signal ordered

end Session
end MatcherHost
