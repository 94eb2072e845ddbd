import Mathlib.Data.List.Induction
import MatcherHost.Proofs.Decoding
import MatcherHost.Proofs.Furthest
import MatcherHost.Proofs.Serving

/-! Where ranges come from. No operation makes a range up: one that is found anywhere in a run was
pushed by an earlier signal, over the session's own input, and the furthest failure was reported by
one. This holds of refused signals too, which may leave their work half-done. -/
namespace MatcherHost

theorem InputRange.offsets_of? {input : Bytes} {start stop : Nat} {piece : InputRange}
    (found : of? input start stop = some piece) :
    piece.input = input ∧ piece.start = start ∧ piece.stop = stop := by
  unfold of? at found
  split at found
  · obtain rfl := Option.some.inj found
    exact ⟨rfl, rfl, rfl⟩
  · contradiction

/-- The range stands somewhere in the value, at any depth. -/
inductive Value.Holds (piece : InputRange) : Value → Prop
  | range : Holds piece (.range piece)
  | array {items : List Value} {item : Value} : item ∈ items → Holds piece item →
      Holds piece (.array items)
  | mapping {entries : List (String × Value)} {entry : String × Value} : entry ∈ entries →
      Holds piece entry.2 → Holds piece (.mapping entries)
  | object {className : String} {payload : Value} : Holds piece payload →
      Holds piece (.object className payload)

def Factory.Conserves (factory : Factory) : Prop :=
  ∀ className payload made, factory className payload = .ok made →
    ∀ piece, made.Holds piece → payload.Holds piece

def Stack.Holds (piece : InputRange) (stack : Stack) : Prop := ∃ value ∈ stack, value.Holds piece

def Entries.Holds (piece : InputRange) (entries : Entries Value) : Prop :=
  ∃ entry ∈ entries, entry.2.Holds piece

namespace Value

variable {piece : InputRange}

@[simp] theorem not_holds_empty : ¬Value.empty.Holds piece := nofun

@[simp] theorem not_holds_boolean {flag : Bool} : ¬(Value.boolean flag).Holds piece := nofun

@[simp] theorem not_holds_text {content : String} : ¬(Value.text content).Holds piece := nofun

@[simp] theorem holds_range {other : InputRange} :
    (Value.range other).Holds piece ↔ piece = other := by
  constructor
  · rintro ⟨⟩
    rfl
  · rintro rfl
    exact .range

@[simp] theorem holds_array {items : List Value} :
    (Value.array items).Holds piece ↔ Stack.Holds piece items := by
  constructor
  · rintro (_ | ⟨member, held⟩)
    exact ⟨_, member, held⟩
  · rintro ⟨item, member, held⟩
    exact .array member held

@[simp] theorem holds_mapping {entries : Entries Value} :
    (Value.mapping entries).Holds piece ↔ Entries.Holds piece entries := by
  constructor
  · rintro (_ | _ | ⟨member, held⟩)
    exact ⟨_, member, held⟩
  · rintro ⟨entry, member, held⟩
    exact .mapping member held

@[simp] theorem holds_object {className : String} {payload : Value} :
    (Value.object className payload).Holds piece ↔ payload.Holds piece := by
  constructor
  · rintro (_ | _ | _ | held)
    exact held
  · exact .object

theorem holds_of_entries {value : Value} {entries : Entries Value}
    (labelled : value.entries? = some entries) (held : Entries.Holds piece entries) :
    value.Holds piece := by
  cases value with
  | empty =>
    obtain rfl : entries = [] := (Option.some.inj labelled).symm
    obtain ⟨entry, member, _⟩ := held
    contradiction
  | mapping own =>
    obtain rfl : own = entries := Option.some.inj labelled
    exact holds_mapping.mpr held
  | _ => contradiction

end Value

namespace Entries

variable {piece : InputRange} {α : Type}

theorem not_holds_nil : ¬Holds piece [] := by simp [Holds]

theorem holds_cons {label : String} {value : Value} {rest : Entries Value} :
    Holds piece ((label, value) :: rest) ↔ value.Holds piece ∨ Holds piece rest := by
  simp [Holds]

theorem mem_insert {label : String} {value : α} {entries : Entries α} {entry : String × α}
    (member : entry ∈ insert label value entries) : entry = (label, value) ∨ entry ∈ entries := by
  induction entries with
  | nil => exact .inl (List.mem_singleton.mp member)
  | cons first rest ih =>
    simp only [insert] at member
    split at member
    · exact List.mem_cons.mp member
    · split at member
      · rcases List.mem_cons.mp member with same | later
        · exact .inl same
        · exact .inr (List.mem_cons_of_mem _ later)
      · rcases List.mem_cons.mp member with same | later
        · exact .inr (List.mem_cons.mpr (.inl same))
        · exact (ih later).imp_right (List.mem_cons_of_mem _)

theorem mem_update {older newer : Entries α} {entry : String × α}
    (member : entry ∈ update older newer) : entry ∈ older ∨ entry ∈ newer := by
  induction newer generalizing older with
  | nil => exact .inl member
  | cons first rest ih =>
    rcases ih member with inserted | later
    · rcases mem_insert inserted with same | old
      · exact .inr (List.mem_cons.mpr (.inl same))
      · exact .inl old
    · exact .inr (List.mem_cons_of_mem _ later)

end Entries

namespace Factory

theorem identity_conserves : identity.Conserves := by
  rintro className payload made made_eq piece held
  obtain rfl : payload = made := Except.ok.inj made_eq
  exact held

theorem tagging_conserves : tagging.Conserves := by
  rintro className payload made made_eq piece held
  obtain rfl : Value.object className payload = made := Except.ok.inj made_eq
  exact Value.holds_object.mp held

end Factory

namespace Stack

variable {piece : InputRange} {stack : Stack}

@[simp] theorem not_holds_nil : ¬Holds piece [] := by simp [Holds]

@[simp] theorem holds_cons {value : Value} {rest : Stack} :
    Holds piece (value :: rest) ↔ value.Holds piece ∨ Holds piece rest := by
  simp [Holds]

@[simp] theorem holds_append {first second : Stack} :
    Holds piece (first ++ second) ↔ Holds piece first ∨ Holds piece second := by
  simp [Holds, or_and_right, exists_or]

theorem Holds.mono {part : Stack} (held : Holds piece part) (inside : part ⊆ stack) :
    Holds piece stack := by
  obtain ⟨value, member, holds⟩ := held
  exact ⟨value, inside member, holds⟩

theorem pushRange_holds {input : Bytes} {start stop : Nat}
    (held : Holds piece (stack.pushRange input start stop).state) :
    Holds piece stack ∨ piece.input = input ∧ piece.start = start ∧ piece.stop = stop ∧
      (stack.pushRange input start stop).refusal = none := by
  cases found : InputRange.of? input start stop with
  | none =>
    simp only [pushRange, found] at held
    exact .inl held
  | some pushed =>
    simp only [pushRange, found, Effect.done_state, holds_cons, Value.holds_range] at held ⊢
    rcases held with rfl | below
    · obtain ⟨overInput, starts, stops⟩ := InputRange.offsets_of? found
      exact .inr ⟨overInput, starts, stops, rfl⟩
    · exact .inl below

theorem pushArray_holds {wrapTop : Bool} (held : Holds piece (stack.pushArray wrapTop).state) :
    Holds piece stack := by
  cases wrapTop with
  | false => simpa [pushArray] using held
  | true =>
    cases stack with
    | nil => exact held
    | cons top rest => simpa [pushArray] using held

theorem appendToArray_holds (held : Holds piece stack.appendToArray.state) :
    Holds piece stack := by
  rcases stack with _ | ⟨item, _ | ⟨other, rest⟩⟩
  · exact held
  · exact held
  · have below (lower : Holds piece rest) : Holds piece (item :: other :: rest) :=
      holds_cons.mpr (.inr (holds_cons.mpr (.inr lower)))
    cases other with
    | array items =>
      simp only [appendToArray, Effect.done_state, holds_cons, Value.holds_array, holds_append,
        not_holds_nil, or_false] at held ⊢
      tauto
    | _ => exact below held

theorem makeLabel_holds {label : String} (held : Holds piece (stack.makeLabel label).state) :
    Holds piece stack := by
  cases stack with
  | nil => exact held
  | cons top rest => simpa [makeLabel, Entries.Holds] using held

/-- What a merge has gathered so far comes from the values it took, also when it stops at one of
another kind. -/
theorem gather_holds {count : Nat} {merged : Entries Value}
    (held : Holds piece (gather count merged stack).state) :
    Entries.Holds piece merged ∨ Holds piece stack := by
  induction count generalizing merged stack with
  | zero => simpa [gather] using held
  | succ count ih =>
    cases stack with
    | nil => exact .inr held
    | cons top rest =>
      cases labelled : top.entries? with
      | none =>
        simp only [gather, labelled] at held
        exact .inr (holds_cons.mpr (.inr held))
      | some entries =>
        simp only [gather, labelled] at held
        rcases ih held with ⟨entry, member, holds⟩ | below
        · rcases Entries.mem_update member with older | newer
          · exact .inl ⟨entry, older, holds⟩
          · have taken := Value.holds_of_entries labelled ⟨entry, newer, holds⟩
            exact .inr (holds_cons.mpr (.inl taken))
        · exact .inr (holds_cons.mpr (.inr below))

theorem mergeLabels_holds {count : Nat} (held : Holds piece (stack.mergeLabels count).state) :
    Holds piece stack := by
  unfold mergeLabels at held
  split at held
  · exact held
  · rcases gather_holds held with ⟨entry, member, _⟩ | below
    · contradiction
    · exact below

theorem makeObject_holds {factory : Factory} {className : String} (conserves : factory.Conserves)
    (held : Holds piece (stack.makeObject factory className).state) : Holds piece stack := by
  cases stack with
  | nil => exact held
  | cons payload rest =>
    rw [holds_cons]
    cases made : factory className payload with
    | error abort =>
      simp only [makeObject, made] at held
      exact .inr held
    | ok value =>
      simp only [makeObject, made, Effect.done_state, holds_cons] at held
      exact held.imp_left (conserves className payload value made piece)

theorem pop_holds (held : Holds piece stack.pop.state) : Holds piece stack := by
  cases stack with
  | nil => exact held
  | cons top rest => exact holds_cons.mpr (.inr held)

end Stack

namespace Locals

variable (count index : Nat) (output locals : Stack)

theorem push_subset : (push count output locals).state.1 ++ (push count output locals).state.2 ⊆
    output ++ locals := by
  unfold push
  split
  · exact List.Subset.refl _
  · intro value member
    simp only [Effect.done_state, List.mem_append, List.mem_reverse] at member ⊢
    rcases member with left | moved | bound
    · exact .inl (List.mem_of_mem_drop left)
    · exact .inl (List.mem_of_mem_take moved)
    · exact .inr bound

theorem load_subset : (load index output locals).state.1 ++ (load index output locals).state.2 ⊆
    output ++ locals := by
  unfold load
  split
  · rename_i copied found
    refine List.cons_subset.mpr ⟨?_, List.Subset.refl _⟩
    exact List.mem_append_right _ (List.mem_of_getElem? found)
  · exact List.Subset.refl _

theorem pop_subset : (pop count output locals).state.1 ++ (pop count output locals).state.2 ⊆
    output ++ locals := by
  unfold pop
  split
  · exact List.Subset.refl _
  · intro value member
    simp only [Effect.done_state, List.mem_append] at member ⊢
    exact member.imp_right List.mem_of_mem_drop

end Locals

namespace Session

variable {piece : InputRange} {session : Session}

def Holds (piece : InputRange) (session : Session) : Prop :=
  Stack.Holds piece (session.output ++ session.locals)

theorem onOutput_holds {effect : Effect Violation Stack}
    (kept : Stack.Holds piece effect.state → Stack.Holds piece session.output)
    (held : (session.onOutput effect).session.Holds piece) : session.Holds piece := by
  simp only [Holds, onOutput, Stack.holds_append] at held ⊢
  exact held.imp_left kept

theorem onStacks_holds {effect : Effect Violation (Stack × Stack)}
    (kept : effect.state.1 ++ effect.state.2 ⊆ session.output ++ session.locals)
    (held : (session.onStacks effect).session.Holds piece) : session.Holds piece :=
  Stack.Holds.mono held kept

theorem matchAt_holds {position : Nat} (held : (session.matchAt position).session.Holds piece) :
    session.Holds piece := by
  rw [matchAt_session] at held
  refine Stack.Holds.mono held fun value member => ?_
  rw [List.mem_append] at member ⊢
  exact member.imp_left List.mem_of_mem_tail

/-- A call brings in one range at most: the one it pushes. -/
theorem apply_holds {factory : Factory} {call : Call} (conserves : factory.Conserves)
    (held : (session.apply factory call).session.Holds piece) :
    session.Holds piece ∨ call = .pushInputRange piece.start piece.stop ∧
      piece.input = session.input ∧ (session.apply factory call).refusal = none := by
  cases call with
  | pushInputRange start stop =>
    simp only [Holds, Stack.holds_append] at held ⊢
    rcases held with onOutput | onLocals
    · rcases Stack.pushRange_holds onOutput with below | ⟨overInput, rfl, rfl, served⟩
      · exact .inl (.inl below)
      · exact .inr ⟨rfl, overInput, served⟩
    · exact .inl (.inr onLocals)
  | pushEmpty | pushBoolean | pushString =>
    refine .inl (onOutput_holds (fun pushed => ?_) held)
    simpa using pushed
  | pushArray => exact .inl (onOutput_holds Stack.pushArray_holds held)
  | appendToArray => exact .inl (onOutput_holds Stack.appendToArray_holds held)
  | makeLabel => exact .inl (onOutput_holds Stack.makeLabel_holds held)
  | mergeLabels => exact .inl (onOutput_holds Stack.mergeLabels_holds held)
  | makeObject => exact .inl (onOutput_holds (Stack.makeObject_holds conserves) held)
  | pop => exact .inl (onOutput_holds Stack.pop_holds held)
  | localsPush count => exact .inl (onStacks_holds (Locals.push_subset ..) held)
  | localsLoad index => exact .inl (onStacks_holds (Locals.load_subset ..) held)
  | localsPop count => exact .inl (onStacks_holds (Locals.pop_subset ..) held)
  | matchAt => exact .inl (matchAt_holds held)
  | makeValue | setAsSource | readFromSource | traceEnter | traceLeave | traceFailure =>
    exact .inl held

/-- Only a report moves the furthest failure, and only to where it says. -/
theorem apply_position {factory : Factory} {call : Call} {position : Nat}
    (reached : (session.apply factory call).session.failures.position = some position) :
    session.failures.position = some position ∨
      ∃ reason isExpectation, call = .traceFailure position reason isExpectation := by
  cases call with
  | traceFailure reported reason isExpectation =>
    have recorded : (session.failures.enter ⟨reported, reason, isExpectation⟩).position =
        some position := reached
    rcases Failures.enter_position recorded with before | rfl
    · exact .inl before
    · exact .inr ⟨reason, isExpectation, rfl⟩
  | matchAt place =>
    rw [apply, matchAt_session] at reached
    exact .inl reached
  | _ => exact .inl reached

/-- The signal at `index` was served as the call, in the session that the signals before it left. -/
def AcceptedAt (setup : Setup) (session : Session) (signals : List Signal) (index : Nat)
    (call : Call) : Prop :=
  ∃ signal, signals[index]? = some signal ∧
    let reached := session.after setup (signals.take index)
    reached.ignores setup signal = false ∧ signal.decode reached.input.length = .ok call ∧
      (reached.apply setup.factory call).refusal = none

variable {setup : Setup} {signals : List Signal} {signal : Signal} {index : Nat} {call : Call}

theorem AcceptedAt.append (accepted : AcceptedAt setup session signals index call)
    (more : List Signal) : AcceptedAt setup session (signals ++ more) index call := by
  obtain ⟨signal, sent, served⟩ := accepted
  have inside : index < signals.length := (List.getElem?_eq_some_iff.mp sent).1
  refine ⟨signal, ?_, ?_⟩
  · rw [List.getElem?_append_left inside, sent]
  · rwa [List.take_append_of_le_length (Nat.le_of_lt inside)]

theorem acceptedAt_last {reached : Session} (arrives : session.after setup signals = reached)
    (attended : reached.ignores setup signal = false)
    (decoded : signal.decode reached.input.length = .ok call)
    (served : (reached.apply setup.factory call).refusal = none) :
    AcceptedAt setup session (signals ++ [signal]) signals.length call := by
  refine ⟨signal, List.getElem?_concat_length, ?_⟩
  rw [List.take_left, arrives]
  exact ⟨attended, decoded, served⟩

/-- What stands on the stacks and among the failures goes back to accepted signals. -/
structure Traceable (setup : Setup) (input : Bytes) (signals : List Signal) (session : Session) :
    Prop where
  ranges : ∀ piece, session.Holds piece → piece.input = input ∧
    ∃ index, AcceptedAt setup { input } signals index (.pushInputRange piece.start piece.stop)
  position : ∀ position, session.failures.position = some position → position ≤ input.length ∧
    ∃ index reason isExpectation,
      AcceptedAt setup { input } signals index (.traceFailure position reason isExpectation)

theorem traceable_fresh (setup : Setup) (input : Bytes) : Traceable setup input [] { input } where
  ranges piece held := absurd held Stack.not_holds_nil
  position position known := by contradiction

/-- One more signal: what it brings in was accepted just now, and all else has its origin. -/
theorem Traceable.respond {input : Bytes} {reached : Session} (conserves : setup.factory.Conserves)
    (arrives : Session.after setup signals { input } = reached)
    (traceable : Traceable setup input signals reached) (signal : Signal) :
    Traceable setup input (signals ++ [signal]) (reached.respond setup signal).session := by
  have overInput : reached.input = input := by rw [← arrives, after_input]
  have known (piece : InputRange) (held : reached.Holds piece) : piece.input = input ∧
      ∃ index, AcceptedAt setup { input } (signals ++ [signal]) index
        (.pushInputRange piece.start piece.stop) := by
    obtain ⟨same, index, accepted⟩ := traceable.ranges piece held
    exact ⟨same, index, accepted.append [signal]⟩
  have reported (position : Nat) (here : reached.failures.position = some position) :
      position ≤ input.length ∧ ∃ index reason isExpectation,
        AcceptedAt setup { input } (signals ++ [signal]) index
          (.traceFailure position reason isExpectation) := by
    obtain ⟨bound, index, reason, isExpectation, accepted⟩ := traceable.position position here
    exact ⟨bound, index, reason, isExpectation, accepted.append [signal]⟩
  rcases respond_leaves setup reached signal with
    ⟨_, same⟩ | ⟨call, _, attended, decoded, same⟩
  · rw [same]
    exact ⟨known, reported⟩
  · rw [same]
    refine ⟨fun piece held => ?_, fun position here => ?_⟩
    -- Even a refused call leaves ranges: those it found, less what it took.
    · rcases apply_holds conserves held with before | ⟨rfl, own, served⟩
      · exact known piece before
      · exact ⟨own.trans overInput, _, acceptedAt_last arrives attended decoded served⟩
    · rcases apply_position here with before | ⟨reason, isExpectation, rfl⟩
      · exact reported position before
      · cases Signal.decode_eq_ok.mp decoded with
        | traceFailure bound =>
          rw [overInput] at bound
          exact ⟨bound, _, _, _, acceptedAt_last arrives attended decoded rfl⟩

theorem after_traceable (conserves : setup.factory.Conserves) (input : Bytes)
    (signals : List Signal) :
    Traceable setup input signals (Session.after setup signals { input }) := by
  induction signals using List.reverseRecOn with
  | nil => exact traceable_fresh setup input
  | append_singleton earlier signal ih =>
    rw [after_append]
    exact ih.respond conserves rfl signal

/-- A range over the input, within it, and pushed by one of the signals. -/
def Origin (setup : Setup) (input : Bytes) (signals : List Signal) (piece : InputRange) : Prop :=
  piece.input = input ∧ piece.start ≤ piece.stop ∧ piece.stop ≤ input.length ∧
    ∃ index, AcceptedAt setup { input } signals index (.pushInputRange piece.start piece.stop)

theorem after_origin (conserves : setup.factory.Conserves) {input : Bytes} {signals : List Signal}
    {piece : InputRange} (held : (Session.after setup signals { input }).Holds piece) :
    Origin setup input signals piece := by
  obtain ⟨overInput, pushed⟩ := (after_traceable conserves input signals).ranges piece held
  exact ⟨overInput, piece.start_le_stop, overInput ▸ piece.stop_le_length, pushed⟩

end Session

namespace Host

open Session

/-- A value that a parse gives is all that its run left on the output stack. -/
theorem output_of_parse {host : Host EntryPoint} {rule : String} {input : Bytes}
    {entry : EntryPoint} {value : Value} (found : host.resolve rule = .ok entry)
    (parsed : (host.parse rule input).result = .ok value) :
    (Session.after host.setup ((entry input).issued host.setup { input }) { input }).output =
      [value] := by
  rw [parse_result found] at parsed
  generalize Session.after host.setup ((entry input).issued host.setup { input }) { input } =
    session at parsed ⊢
  cases recorded : session.violation with
  | some violation => simp [host.conclude_violated recorded] at parsed
  | none =>
    rw [host.conclude_open recorded] at parsed
    split at parsed
    · contradiction
    · rcases stacked : session.output with _ | ⟨only, _ | ⟨next, rest⟩⟩ <;>
        simp_all

/-- Whatever was sent, refused or not: each range on a stack or in the result is over the input,
within it, and was pushed by a signal of the run, and the furthest failure was reported by one. This
asks of the factory that it makes up no ranges. -/
theorem ranges_have_origin (input : Bytes) :
    Factory.identity.Conserves ∧ Factory.tagging.Conserves ∧
    ∀ host : Host EntryPoint, host.factory.Conserves →
      (∀ signals, let session := Session.after host.setup signals { input }
        (∀ value ∈ session.output ++ session.locals, ∀ piece, value.Holds piece →
          Origin host.setup input signals piece) ∧
        ∀ position, session.failures.position = some position → position ≤ input.length ∧
          ∃ index reason isExpectation, AcceptedAt host.setup { input } signals index
            (.traceFailure position reason isExpectation)) ∧
      ∀ rule entry value, host.resolve rule = .ok entry →
        (host.parse rule input).result = .ok value → ∀ piece, value.Holds piece →
          Origin host.setup input ((entry input).issued host.setup { input }) piece := by
  refine ⟨Factory.identity_conserves, Factory.tagging_conserves, fun host conserves => ⟨?_, ?_⟩⟩
  · intro signals session
    refine ⟨fun value member piece held => ?_, ?_⟩
    · exact after_origin conserves ⟨value, member, held⟩
    · exact (after_traceable conserves input signals).position
  · intro rule entry value found parsed piece held
    refine after_origin conserves ⟨value, List.mem_append_left _ ?_, held⟩
    rw [output_of_parse found parsed]
    exact List.mem_singleton_self value

def wandering : EntryPoint := fun _ =>
  .sending [.pushInputRange (some 1) (some 3), .localsPush 1,
    .traceFailure (some 2) (some [101]) true, .localsLoad 0, .pushArray true,
    .makeObject (some [65])] (.done 1)

theorem ranges_have_origin_wandering :
    let host : Host EntryPoint := ⟨fun _ => .ok wandering, {}, .tagging⟩
    let input : Bytes := [97, 98, 99]
    let piece : InputRange := ⟨input, 1, 3, by decide, by decide⟩
    let signals := (wandering input).issued host.setup { input }
    (host.parse "word" input).result = .ok (.object "A" (.array [.range piece])) ∧
    Origin host.setup input signals piece ∧
    ∃ index reason isExpectation, AcceptedAt host.setup { input } signals index
      (.traceFailure 2 reason isExpectation) := by
  intro host input piece signals
  have parsed : (host.parse "word" input).result =
      .ok (.object "A" (.array [.range piece])) := by decide +kernel
  have reported : (Session.after host.setup signals { input }).failures.position = some 2 := by
    decide +kernel
  obtain ⟨_, conserves, origins⟩ := ranges_have_origin input
  obtain ⟨reached, given⟩ := origins host conserves
  have held : (Value.object "A" (.array [.range piece])).Holds piece := by
    simp
  exact ⟨parsed, given "word" wandering _ rfl parsed piece held, 
    ((reached signals).2 2 reported).2⟩

end Host
end MatcherHost
