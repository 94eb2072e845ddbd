import MatcherHost.Proofs.Independence
import MatcherHost.Proofs.Ordering

/-! What is pushed is what is built. The leaves of the values on the stack, read from the bottom to
the top, are the leaves pushed so far in the order of pushing: assembling values only puts brackets
around them. A merge sorts by label, so it may change their order, but while no two of the merged
values share a label it neither loses nor repeats any. -/
namespace MatcherHost

namespace Value

mutual

/-- The ranges, truth values and texts of a tree, from left to right. -/
def leaves : Value → List Value
  | .empty => []
  | .range piece => [.range piece]
  | .boolean flag => [.boolean flag]
  | .text content => [.text content]
  | .array items => itemLeaves items
  | .mapping entries => entryLeaves entries
  | .object _ payload => leaves payload

def itemLeaves : List Value → List Value
  | [] => []
  | item :: rest => leaves item ++ itemLeaves rest

def entryLeaves : List (String × Value) → List Value
  | [] => []
  | (_, value) :: rest => leaves value ++ entryLeaves rest

end

theorem itemLeaves_eq (items : List Value) : itemLeaves items = items.flatMap leaves := by
  induction items with
  | nil => rfl
  | cons item rest ih => rw [itemLeaves, ih, List.flatMap_cons]

theorem entryLeaves_eq (entries : List (String × Value)) :
    entryLeaves entries = entries.flatMap (·.2.leaves) := by
  induction entries with
  | nil => rfl
  | cons entry rest ih => rw [entryLeaves, ih, List.flatMap_cons]

theorem leaves_of_labelled {value : Value} (labelled : value.kind.labelled = true) :
    value.leaves = value.entries.flatMap (·.2.leaves) := by
  cases value with
  | empty => rfl
  | mapping entries => exact entryLeaves_eq entries
  | _ => contradiction

end Value

def Call.leaves (input : Bytes) : Call → List Value
  | .pushInputRange start stop => ((InputRange.of? input start stop).map .range).toList
  | .pushBoolean flag => [.boolean flag]
  | .pushString content => [.text content]
  | _ => []

def Signal.leaves (input : Bytes) (signals : List Signal) : List Value :=
  (calls input.length signals).flatMap (Call.leaves input)

theorem Signal.leaves_cons {input : Bytes} {signal : Signal} {call : Call} {rest : List Signal}
    (decoded : signal.decode input.length = .ok call) :
    leaves input (signal :: rest) = call.leaves input ++ leaves input rest := by
  rw [leaves, calls_cons_of_ok decoded, List.flatMap_cons]
  rfl

def Factory.KeepsLeaves (factory : Factory) : Prop :=
  ∀ className payload made, factory className payload = .ok made → made.leaves = payload.leaves

namespace Factory

theorem identity_keepsLeaves : identity.KeepsLeaves := by
  rintro className payload made built
  obtain rfl : payload = made := Except.ok.inj built
  rfl

theorem tagging_keepsLeaves : tagging.KeepsLeaves := by
  rintro className payload made built
  obtain rfl : Value.object className payload = made := Except.ok.inj built
  rfl

end Factory

namespace Entries

variable {α : Type}

theorem insert_perm {label : String} {value : α} {entries : Entries α}
    (fresh : label ∉ entries.labels) :
    (insert label value entries).Perm ((label, value) :: entries) := by
  induction entries with
  | nil => rfl
  | cons entry rest ih =>
    obtain ⟨other, old⟩ := entry
    simp only [labels, List.map_cons, List.mem_cons, not_or] at fresh
    rw [insert]
    split
    · rfl
    · rw [if_neg fresh.1]
      exact ((ih fresh.2).cons _).trans (.swap ..)

/-- Entries with new labels join those that are there. -/
theorem update_perm {older newer : Entries α} (distinct : newer.labels.Nodup)
    (fresh : ∀ label ∈ newer.labels, label ∉ older.labels) :
    (update older newer).Perm (older ++ newer) := by
  induction newer generalizing older with
  | nil => rw [List.append_nil]; rfl
  | cons entry rest ih =>
    obtain ⟨label, value⟩ := entry
    obtain ⟨unlisted, distinct⟩ := List.nodup_cons.mp distinct
    obtain ⟨first, later⟩ := List.forall_mem_cons.mp fresh
    have freshToo : ∀ other ∈ labels rest, other ∉ labels (insert label value older) := by
      intro other member listed
      rcases mem_labels_insert.mp listed with rfl | old
      · exact unlisted member
      · exact later other member old
    have updated : (update (insert label value older) rest).Perm
        (insert label value older ++ rest) := ih distinct freshToo
    exact updated.trans (((insert_perm first).append_right rest).trans List.perm_middle.symm)

end Entries

namespace Stack

/-- The leaves of the values on a stack, from the bottom to the top. -/
def leaves (stack : Stack) : List Value := stack.reverse.flatMap Value.leaves

@[simp] theorem leaves_cons (top : Value) (rest : Stack) :
    leaves (top :: rest) = leaves rest ++ top.leaves := by
  simp [leaves]

theorem leaves_append (above below : Stack) :
    leaves (above ++ below) = leaves below ++ leaves above := by
  simp [leaves]

/-- Values that share no label keep all their entries. -/
theorem collect_entries_perm {merged : Entries Value} {values : Stack}
    (keyed : ∀ value ∈ values, value.entries.Ascending) (apart : values.Pairwise Value.Apart)
    (fresh : ∀ value ∈ values, ∀ label ∈ value.labels, label ∉ merged.labels) :
    (collect merged values).Perm (merged ++ values.flatMap Value.entries) := by
  induction values generalizing merged with
  | nil => rw [List.flatMap_nil, List.append_nil]; rfl
  | cons value rest ih =>
    obtain ⟨ascending, keyed⟩ := List.forall_mem_cons.mp keyed
    obtain ⟨others, apart⟩ := List.pairwise_cons.mp apart
    obtain ⟨first, later⟩ := List.forall_mem_cons.mp fresh
    -- What is merged already grows by labels that no later value has.
    have freshToo : ∀ other ∈ rest, ∀ label ∈ other.labels,
        label ∉ (merged.update value.entries).labels := by
      intro other member label listed
      rw [Entries.mem_labels_update, not_or]
      exact ⟨later other member label listed, (others other member).symm label listed⟩
    have joined := (Entries.update_perm ascending.nodup first).append_right
      (rest.flatMap Value.entries)
    rw [List.flatMap_cons, ← List.append_assoc]
    exact (ih keyed apart freshToo).trans joined

theorem collect_leaves_perm {values : Stack}
    (labelled : ∀ value ∈ values, value.kind.labelled = true) (ordered : values.Ordered)
    (apart : values.Pairwise Value.Apart) :
    (Value.mapping (collect [] values)).leaves.Perm values.leaves := by
  have keyed : ∀ value ∈ values, value.entries.Ascending :=
    fun value member => (ordered value member).entries.1
  have entries : (collect [] values).Perm (values.flatMap Value.entries) :=
    collect_entries_perm keyed apart (by simp [Entries.labels])
  have same : values.flatMap Value.leaves =
      (values.flatMap Value.entries).flatMap (·.2.leaves) := by
    rw [List.flatMap_assoc]
    exact List.flatMap_congr fun value member => Value.leaves_of_labelled (labelled value member)
  rw [Value.leaves, Value.entryLeaves_eq]
  refine (entries.flatMap_right _).trans ?_
  -- A merge goes from the top down, the leaves of a stack are read from the bottom up.
  rw [← same]
  exact (List.reverse_perm values).symm.flatMap_right _

variable {factory : Factory} {input : Bytes} {call : Call} {stack built : Stack}

/-- Assembling without a merge puts the leaf of the call, if it has one, after all others. -/
theorem Assembles.leaves_eq (keeps : factory.KeepsLeaves)
    (assembles : Assembles factory input call stack built)
    (plain : call.operation ≠ .mergeLabels) : built.leaves = stack.leaves ++ call.leaves input := by
  cases assembles with
  | pushEmpty | pushBoolean | pushString | newArray =>
    simp [Value.leaves, Value.itemLeaves, Call.leaves]
  | pushInputRange found => simp [Value.leaves, Call.leaves, found]
  | wrapArray | makeLabel => simp [Value.leaves, Value.itemLeaves, Value.entryLeaves, Call.leaves]
  | appendToArray => simp [Value.leaves, Value.itemLeaves_eq, Call.leaves]
  | makeObject made => simp [Call.leaves, keeps _ _ _ made]
  | mergeLabels => contradiction

theorem Assembles.leaves_perm (keeps : factory.KeepsLeaves)
    (assembles : Assembles factory input call stack built) (ordered : stack.Ordered)
    (apart : ∀ count, call = .mergeLabels count →
      (List.take count stack).Pairwise Value.Apart) :
    built.leaves.Perm (stack.leaves ++ call.leaves input) := by
  by_cases merge : call.operation = .mergeLabels
  · cases assembles with
    | @mergeLabels values rest labelled =>
      have merged : values.Ordered := (List.forall_mem_append.mp ordered).1
      have apart := apart values.length rfl
      rw [List.take_left] at apart
      have silent : Call.leaves input (.mergeLabels values.length) = [] := rfl
      rw [leaves_cons, leaves_append, silent, List.append_nil]
      exact (collect_leaves_perm labelled merged apart).append_left rest.leaves
    | _ => contradiction
  · rw [assembles.leaves_eq keeps merge]

end Stack

namespace Session

variable {setup : Setup} {session : Session} {signal : Signal} {signals : List Signal}

/-- What an accepted signal that assembles values does. -/
theorem respond_assembles (opened : session.violation = none)
    (accepted : session.refusal? setup signal = none)
    (assembling : signal.operation.assembles = true) :
    ∃ call stack, signal.decode session.input.length = .ok call ∧
      Stack.Assembles setup.factory session.input call session.output stack ∧
      (session.respond setup signal).session = { session with output := stack } := by
  rcases respond_cases accepted with ⟨ignored, _⟩ | ⟨call, _, decoded, served, same⟩
  · have hook := hook_of_ignored opened ignored
    cases signal <;> contradiction
  · have decodes := Signal.decode_eq_ok.mp decoded
    rw [← decodes.operation] at assembling
    obtain ⟨stack, assembles, left⟩ := apply_assembles assembling served
    exact ⟨call, stack, decoded, assembles, by rw [same, left]⟩

/-- Each merge on the way is over values that share no label. -/
def MergesApart (setup : Setup) (session : Session) (signals : List Signal) : Prop :=
  ∀ (earlier later : List Signal) (count : Nat), signals = earlier ++ .mergeLabels count :: later →
    (List.take count (session.after setup earlier).output).Pairwise Value.Apart

theorem mergesApart_cons : session.MergesApart setup (signal :: signals) ↔
    (∀ count : Nat, signal = .mergeLabels count →
      (List.take count session.output).Pairwise Value.Apart) ∧
    (session.respond setup signal).session.MergesApart setup signals := by
  constructor
  · refine fun apart => ⟨?_, ?_⟩
    · rintro count rfl
      exact apart [] signals count rfl
    · rintro earlier later count rfl
      exact apart (signal :: earlier) later count rfl
  · rintro ⟨first, rest⟩ (_ | ⟨other, earlier⟩) later count split
    · exact first count (List.cons.inj split).1
    · obtain ⟨rfl, remaining⟩ := List.cons.inj split
      exact rest earlier later count remaining

theorem after_leaves_eq (keeps : setup.factory.KeepsLeaves)
    (clean : (session.after setup signals).violation = none)
    (assembling : ∀ signal ∈ signals,
      signal.operation.assembles = true ∧ signal.operation ≠ .mergeLabels) :
    (session.after setup signals).output.leaves =
      session.output.leaves ++ Signal.leaves session.input signals := by
  induction signals generalizing session with
  | nil => exact (List.append_nil _).symm
  | cons signal rest ih =>
    obtain ⟨opened, accepted⟩ := accepted_of_after_cons clean
    obtain ⟨⟨assembles, plain⟩, later⟩ := List.forall_mem_cons.mp assembling
    obtain ⟨call, stack, decoded, assembled, same⟩ := respond_assembles opened accepted assembles
    have plain : call.operation ≠ .mergeLabels := by
      rwa [(Signal.decode_eq_ok.mp decoded).operation]
    rw [after_cons] at clean ⊢
    rw [same] at clean ⊢
    rw [ih clean later, assembled.leaves_eq keeps plain, Signal.leaves_cons decoded,
      List.append_assoc]

theorem after_leaves_perm (keeps : setup.factory.KeepsLeaves)
    (keepsOrder : setup.factory.KeepsOrder) (ordered : session.Ordered)
    (clean : (session.after setup signals).violation = none)
    (assembling : ∀ signal ∈ signals, signal.operation.assembles = true)
    (apart : session.MergesApart setup signals) :
    (session.after setup signals).output.leaves.Perm
      (session.output.leaves ++ Signal.leaves session.input signals) := by
  induction signals generalizing session with
  | nil => exact .of_eq (List.append_nil _).symm
  | cons signal rest ih =>
    obtain ⟨opened, accepted⟩ := accepted_of_after_cons clean
    obtain ⟨assembles, later⟩ := List.forall_mem_cons.mp assembling
    obtain ⟨call, stack, decoded, assembled, same⟩ := respond_assembles opened accepted assembles
    obtain ⟨merges, apart⟩ := mergesApart_cons.mp apart
    have merges (count : Nat) (merge : call = .mergeLabels count) :
        (List.take count session.output).Pairwise Value.Apart := by
      subst merge
      cases Signal.decode_eq_ok.mp decoded
      exact merges count rfl
    have first := assembled.leaves_perm keeps (List.forall_mem_append.mp ordered).1 merges
    have ordered := respond_ordered keepsOrder signal ordered
    rw [after_cons] at clean ⊢
    rw [same] at clean ordered apart ⊢
    rw [Signal.leaves_cons decoded, ← List.append_assoc]
    exact (ih ordered clean later apart).trans (first.append_right _)

/-- With a factory that drops or keeps classes, whatever a run without a violation assembles has
its labels in order. Without a merge, the leaves on the stack are the pushed ones in the order of
pushing; with merges of values that share no label they are still the pushed ones, in some order. -/
theorem pushed_leaves_kept (setup : Setup) (input : Bytes) (signals : List Signal)
    (keeps : setup.factory = .identity ∨ setup.factory = .tagging)
    (clean : (Session.after setup signals { input }).violation = none)
    (assembling : ∀ signal ∈ signals, signal.operation.assembles = true) :
    let built := (Session.after setup signals { input }).output
    (∀ value ∈ built, value.Ordered) ∧
    ((∀ signal ∈ signals, signal.operation ≠ .mergeLabels) →
      built.leaves = Signal.leaves input signals) ∧
    (Session.MergesApart setup { input } signals →
      built.leaves.Perm (Signal.leaves input signals)) := by
  intro built
  obtain ⟨keepsLeaves, keepsOrder⟩ : setup.factory.KeepsLeaves ∧ setup.factory.KeepsOrder := by
    rcases keeps with same | same <;> rw [same]
    · exact ⟨Factory.identity_keepsLeaves, Factory.identity_keepsOrder⟩
    · exact ⟨Factory.tagging_keepsLeaves, Factory.tagging_keepsOrder⟩
  refine ⟨?_, fun plain => ?_, fun apart => ?_⟩
  · exact (List.forall_mem_append.mp (after_ordered keepsOrder input signals)).1
  · exact @after_leaves_eq setup { input } signals keepsLeaves clean fun signal member =>
      ⟨assembling signal member, plain signal member⟩
  · exact @after_leaves_perm setup { input } signals keepsLeaves keepsOrder (List.forall_mem_nil _)
      clean assembling apart

def packing : List Signal :=
  [.pushString (some [121]), .makeLabel (some [98]), .pushInputRange (some 0) (some 1),
    .pushArray true, .pushBoolean true, .appendToArray, .makeLabel (some [97]), .mergeLabels 2,
    .makeObject (some [80])]

theorem pushed_leaves_kept_packing :
    let setup : Setup := ⟨.tagging, false⟩
    let input : Bytes := [97]
    let built := (Session.after setup packing { input }).output
    (Session.after setup packing { input }).violation = none ∧
    Session.MergesApart setup { input } packing ∧
    Signal.leaves input packing =
      [.text "y", .range ⟨input, 0, 1, by decide, by decide⟩, .boolean true] ∧
    built.leaves.Perm (Signal.leaves input packing) := by
  intro setup input built
  have clean : (Session.after setup packing { input }).violation = none := by decide +kernel
  have apart : Session.MergesApart setup { input } packing := by
    simp only [packing, mergesApart_cons]
    refine ⟨nofun, nofun, nofun, nofun, nofun, nofun, nofun, ?_, nofun, ?_⟩
    · rintro count same
      obtain rfl : count = 2 := by
        have := Signal.mergeLabels.inj same
        omega
      decide +kernel
    · simp [MergesApart]
  have assembling : ∀ signal ∈ packing, signal.operation.assembles = true := by decide
  obtain ⟨_, _, kept⟩ := pushed_leaves_kept setup input packing (.inr rfl) clean assembling
  exact ⟨clean, apart, by decide +kernel, kept apart⟩

end Session
end MatcherHost
