import Mathlib.Data.List.Induction
import MatcherHost.Proofs.Decoding
import MatcherHost.Proofs.Serving
import MatcherHost.Proofs.Spelling

/-! Every tree can be built. `Value.program` lists the signals that put a given tree together; on a
host that keeps classes beside payloads they leave exactly that tree and touch nothing else. -/
namespace MatcherHost

namespace Entries

theorem insert_of_ascending {α : Type} {label : String} {value : α} {entries : Entries α}
    (ascending : Ascending ((label, value) :: entries)) :
    insert label value entries = (label, value) :: entries := by
  cases entries with
  | nil => rfl
  | cons entry rest =>
    obtain ⟨least, _⟩ := List.pairwise_cons.mp ascending
    have before : label < entry.1 := least entry.1 List.mem_cons_self
    simp [insert, before]

end Entries

namespace Value

/-- A text that its bytes up to the first zero byte spell in full. -/
def Spellable (content : String) : Prop := '\x00' ∉ content.toList

instance (content : String) : Decidable (Spellable content) :=
  inferInstanceAs (Decidable ('\x00' ∉ content.toList))

mutual

/-- All ranges are over `input`, and all texts, labels and classes are spellable. -/
def Buildable (input : Bytes) : Value → Prop
  | .empty | .boolean _ => True
  | .range piece => piece.input = input
  | .text content => Spellable content
  | .array items => BuildableItems input items
  | .mapping entries => BuildableEntries input entries
  | .object className payload => Spellable className ∧ Buildable input payload

def BuildableItems (input : Bytes) : List Value → Prop
  | [] => True
  | item :: rest => Buildable input item ∧ BuildableItems input rest

def BuildableEntries (input : Bytes) : List (String × Value) → Prop
  | [] => True
  | (label, value) :: rest =>
    Spellable label ∧ Buildable input value ∧ BuildableEntries input rest

end

mutual

/-- Signals that put a tree together, leaves first. The entries of a mapping are labelled one by
one and merged in the end; a merge of none makes the empty mapping. -/
def program : Value → List Signal
  | .empty => [.pushEmpty]
  | .range piece => [.pushInputRange (some piece.start) (some piece.stop)]
  | .boolean flag => [.pushBoolean flag]
  | .text content => [.pushString (some (Utf8.encode content))]
  | .array items => .pushArray false :: itemPrograms items
  | .mapping entries => entryPrograms entries ++ [.mergeLabels entries.length]
  | .object className payload =>
    program payload ++ [.makeObject (some (Utf8.encode className))]

def itemPrograms : List Value → List Signal
  | [] => []
  | item :: rest => program item ++ .appendToArray :: itemPrograms rest

def entryPrograms : List (String × Value) → List Signal
  | [] => []
  | (label, value) :: rest =>
    program value ++ .makeLabel (some (Utf8.encode label)) :: entryPrograms rest

end

def labelled (entry : String × Value) : Value := .mapping [entry]

end Value

namespace Stack

open Value

/-- The offsets of a range are enough to get it back. -/
theorem pushRange_piece (piece : InputRange) {input : Bytes} (same : piece.input = input)
    (stack : Stack) :
    stack.pushRange input piece.start piece.stop = .done (.range piece :: stack) := by
  subst same
  simp [pushRange, InputRange.of?, piece.start_le_stop, piece.stop_le_length]

/-- Merging takes the last entry first, and each of the others goes before it. -/
theorem gather_labelled (entries merged : Entries Value) (stack : Stack)
    (ascending : Entries.Ascending (entries ++ merged)) :
    gather entries.length merged ((entries.map labelled).reverse ++ stack) =
      .done (.mapping (entries ++ merged) :: stack) := by
  induction entries using List.reverseRecOn generalizing merged with
  | nil => rfl
  | append_singleton front entry ih =>
    rw [List.append_assoc, List.singleton_append] at ascending
    have later : Entries.Ascending (entry :: merged) := by
      rw [Entries.Ascending, Entries.labels, List.map_append] at ascending
      exact (List.pairwise_append.mp ascending).2.1
    have placed : Entries.update merged [entry] = entry :: merged :=
      Entries.insert_of_ascending later
    rw [List.length_append, List.length_singleton, List.map_append, List.reverse_append,
      List.map_singleton, List.reverse_singleton, List.singleton_append, List.cons_append]
    simp only [gather, labelled, entries?, placed]
    rw [ih (entry :: merged) ascending, List.append_assoc, List.singleton_append]

theorem mergeLabels_labelled (entries : Entries Value) (stack : Stack)
    (ascending : entries.Ascending) :
    mergeLabels entries.length ((entries.map labelled).reverse ++ stack) =
      .done (.mapping entries :: stack) := by
  have enough : ¬((entries.map labelled).reverse ++ stack).length < entries.length := by
    rw [List.length_append, List.length_reverse, List.length_map]
    omega
  have gathered := gather_labelled entries [] stack (by rwa [List.append_nil])
  rw [List.append_nil] at gathered
  simp only [mergeLabels, enough, if_false, gathered]

end Stack

namespace Session

open Value

def holding (session : Session) (stack : Stack) : Session := { session with output := stack }

variable {setup : Setup} {session : Session} {stack before : Stack}

/-- A signal that amounts to a call which only builds, builds. -/
theorem respond_builds {signal : Signal} {call : Call} (opened : session.violation = none)
    (decodes : signal.Decodes session.input.length call) (heard : signal.isTraceHook = false)
    (built : (session.holding before).apply setup.factory call =
      (session.holding before).onOutput (.done stack)) :
    ((session.holding before).respond setup signal).session = session.holding stack := by
  have attended : (session.holding before).ignores setup signal = false := by
    simp [ignores, closed, holding, opened, heard]
  have served : ((session.holding before).apply setup.factory call).refusal = none := by
    rw [built]
    rfl
  rw [respond_of_served attended (Signal.decode_eq_ok.mpr decodes) served, built]
  rfl

mutual

/-- The program of a tree pushes it on any stack. -/
theorem after_program (tags : setup.factory = .tagging) (opened : session.violation = none)
    (stack : Stack) (value : Value) (ordered : value.Ordered)
    (buildable : value.Buildable session.input) :
    (session.holding stack).after setup value.program = session.holding (value :: stack) := by
  match value with
  | .empty => exact respond_builds opened .pushEmpty rfl rfl
  | .boolean flag => exact respond_builds opened .pushBoolean rfl rfl
  | .range piece =>
    have inside : piece.start ≤ session.input.length ∧ piece.stop ≤ session.input.length := by
      have := piece.start_le_stop
      have := piece.stop_le_length
      rw [← show piece.input = session.input from buildable]
      omega
    refine respond_builds opened (.pushInputRange inside.1 inside.2) rfl ?_
    exact congrArg (session.holding stack).onOutput (Stack.pushRange_piece piece buildable stack)
  | .text content =>
    exact respond_builds opened (.pushString (Argument.text_encode _ buildable)) rfl rfl
  | .array items =>
    rw [program, after_cons, respond_builds opened .pushArray rfl rfl]
    exact after_itemPrograms tags opened [] stack items ordered buildable
  | .mapping entries =>
    rw [program, after_append, after_entryPrograms tags opened stack entries ordered.2 buildable]
    refine respond_builds opened .mergeLabels rfl ?_
    exact congrArg (session.holding _).onOutput
      (Stack.mergeLabels_labelled entries stack ordered.1)
  | .object className payload =>
    rw [program, after_append, after_program tags opened stack payload ordered buildable.2]
    refine respond_builds opened (.makeObject (Argument.text_encode _ buildable.1)) rfl ?_
    rw [tags]
    rfl

/-- The programs of items move them one by one into the array on top. -/
theorem after_itemPrograms (tags : setup.factory = .tagging) (opened : session.violation = none)
    (done : List Value) (stack : Stack) (items : List Value) (ordered : OrderedItems items)
    (buildable : BuildableItems session.input items) :
    (session.holding (.array done :: stack)).after setup (itemPrograms items) =
      session.holding (.array (done ++ items) :: stack) := by
  match items with
  | [] => rw [List.append_nil]; rfl
  | item :: rest =>
    rw [itemPrograms, after_append,
      after_program tags opened (.array done :: stack) item ordered.1 buildable.1, after_cons,
      respond_builds opened .appendToArray rfl rfl,
      after_itemPrograms tags opened (done ++ [item]) stack rest ordered.2 buildable.2,
      List.append_assoc, List.singleton_append]

/-- The programs of entries leave each in a mapping of its own, the last on top. -/
theorem after_entryPrograms (tags : setup.factory = .tagging) (opened : session.violation = none)
    (stack : Stack) (entries : List (String × Value)) (ordered : OrderedEntries entries)
    (buildable : BuildableEntries session.input entries) :
    (session.holding stack).after setup (entryPrograms entries) =
      session.holding ((entries.map labelled).reverse ++ stack) := by
  match entries with
  | [] => rfl
  | (label, value) :: rest =>
    rw [entryPrograms, after_append,
      after_program tags opened stack value ordered.1 buildable.2.1, after_cons,
      respond_builds opened (.makeLabel (Argument.text_encode _ buildable.1)) rfl rfl,
      after_entryPrograms tags opened (.mapping [(label, value)] :: stack) rest ordered.2
        buildable.2.2,
      List.map_cons, List.reverse_cons, List.append_assoc, List.singleton_append]
    rfl

end

end Session

/-- A tree whose labels ascend, whose ranges are over the input and whose texts are spellable is
built by its program from any open session, which is otherwise left as it was. So a matcher that
issues the program and returns a match makes the parse give that tree. -/
theorem Host.program_builds (input : Bytes) (value : Value) (ordered : value.Ordered)
    (buildable : value.Buildable input) :
    (∀ (tracing : Bool) (session : Session), session.input = input → session.violation = none →
      session.after ⟨.tagging, tracing⟩ value.program =
        { session with output := value :: session.output }) ∧
    ∀ (host : Host EntryPoint) (rule : String) (entry : EntryPoint), host.factory = .tagging →
      host.resolve rule = .ok entry →
      (entry input).issued host.setup { input } = value.program →
      ((entry input).run host.setup { input }).status ≠ 0 →
      (host.parse rule input).result = .ok value := by
  refine ⟨fun tracing session same opened => ?_, ?_⟩
  · subst same
    exact Session.after_program rfl opened session.output value ordered buildable
  · intro host rule entry tags found issues claimed
    have built : Session.after host.setup value.program { input } = { input, output := [value] } :=
      @Session.after_program host.setup { input } tags rfl [] value ordered buildable
    rw [parse_result found, issues, built, host.conclude_open rfl, if_neg claimed]

def Value.specimen : Value :=
  .object "Pair" (.mapping [
    ("a", .array [.range ⟨[97, 98, 99], 0, 2, by decide, by decide⟩, .empty]),
    ("b", .mapping []),
    ("c", .text "é")])

theorem Host.program_builds_specimen :
    let host : Host EntryPoint :=
      ⟨fun _ => .ok fun _ => .sending Value.specimen.program (.done 7), {}, .tagging⟩
    Value.specimen.Ordered ∧ Value.specimen.Buildable [97, 98, 99] ∧
      (host.parse "pair" [97, 98, 99]).result = .ok Value.specimen := by
  intro host
  have ordered : Value.specimen.Ordered :=
    ⟨by decide, ⟨trivial, trivial, trivial⟩, ⟨by decide, trivial⟩, trivial, trivial⟩
  have buildable : Value.specimen.Buildable [97, 98, 99] :=
    ⟨by decide, by decide, ⟨rfl, trivial, trivial⟩, by decide, trivial, by decide,
      show Value.Spellable "é" by decide, trivial⟩
  refine ⟨ordered, buildable, ?_⟩
  exact (program_builds [97, 98, 99] Value.specimen ordered buildable).2 host "pair" _ rfl rfl
    (Matcher.issued_sending ..) (by rw [Matcher.run_sending_status]; decide)

end MatcherHost
