import Mathlib.Data.List.Induction
import MatcherHost.Proofs.Serving

/-! The first refusal decides a run. Whatever a matcher sends after it, and whatever it returns,
the session stays as the refused signal left it and the parse reports that signal's violation. -/
namespace MatcherHost

namespace Session

/-- The signal at `index` is refused in the session that the signals before it leave. -/
def RefusedAt (setup : Setup) (session : Session) (signals : List Signal) (index : Nat)
    (violation : Violation) : Prop :=
  ∃ signal, signals[index]? = some signal ∧
    (session.after setup (signals.take index)).refusal? setup signal = some violation

variable {setup : Setup} {session : Session} {signals others : List Signal} {index : Nat}
  {violation : Violation}

theorem RefusedAt.recorded (refused : RefusedAt setup session signals index violation) :
    (session.after setup (signals.take (index + 1))).violation = some violation := by
  obtain ⟨signal, sent, cause⟩ := refused
  rw [List.take_add_one, sent, Option.toList_some, after_append]
  exact (respond_of_refused cause).1

/-- From the refused signal on, serving the rest adds empty answers and nothing else. -/
theorem RefusedAt.serve_eq (refused : RefusedAt setup session signals index violation) :
    session.serve setup signals =
      let stopped := session.serve setup (signals.take (index + 1))
      ⟨stopped.session,
        stopped.answers ++ List.replicate (signals.length - (index + 1)) none,
        stopped.events⟩ := by
  have closed : (session.serve setup (signals.take (index + 1))).session.closed = true :=
    Option.isSome_iff_exists.mpr ⟨violation, refused.recorded⟩
  conv => lhs; rw [← List.take_append_drop (index + 1) signals]
  rw [serve_append]
  simp only [serve_of_closed closed, List.length_drop, List.append_nil]

theorem RefusedAt.after_eq (refused : RefusedAt setup session signals index violation) :
    session.after setup signals = session.after setup (signals.take (index + 1)) := by
  rw [after, refused.serve_eq]
  rfl

theorem RefusedAt.of_take_eq (refused : RefusedAt setup session signals index violation)
    (same : others.take (index + 1) = signals.take (index + 1)) :
    RefusedAt setup session others index violation := by
  obtain ⟨signal, sent, cause⟩ := refused
  have before : others.take index = signals.take index := by
    simpa [List.take_take] using congrArg (List.take index) same
  refine ⟨signal, ?_, before ▸ cause⟩
  rw [← sent, ← List.getElem?_take_of_lt (Nat.lt_succ_self index), same,
    List.getElem?_take_of_lt (Nat.lt_succ_self index)]

/-- After one refusal there is no other: the session is closed by then. -/
theorem RefusedAt.not_later (refused : RefusedAt setup session signals index violation)
    {later : Nat} (order : index < later) (cause : Violation) :
    ¬RefusedAt setup session signals later cause := by
  rintro ⟨signal, _, again⟩
  have earlier : RefusedAt setup session (signals.take later) index violation := by
    refine refused.of_take_eq ?_
    rw [List.take_take, Nat.min_eq_left order]
  have opened := open_of_refused again
  rw [earlier.after_eq, earlier.recorded] at opened
  contradiction

theorem RefusedAt.unique (refused : RefusedAt setup session signals index violation)
    {other : Nat} {cause : Violation} (again : RefusedAt setup session signals other cause) :
    other = index := by
  rcases Nat.lt_trichotomy other index with before | same | later
  · exact absurd refused (again.not_later before violation)
  · exact same
  · exact absurd again (refused.not_later later cause)

theorem RefusedAt.unanswered (refused : RefusedAt setup session signals index violation)
    {later : Nat} (order : index < later) (sent : later < signals.length) :
    (session.serve setup signals).answers[later]? = some none := by
  have served : (session.serve setup (signals.take (index + 1))).answers.length = index + 1 := by
    rw [answers_length, List.length_take]
    omega
  rw [refused.serve_eq]
  simp only
  rw [List.getElem?_append_right (by omega), List.getElem?_replicate_of_lt (by omega)]

/-- A violation on record after a run from an open session is why one of its signals was refused. -/
theorem exists_refusedAt (opened : session.violation = none)
    (recorded : (session.after setup signals).violation = some violation) :
    ∃ index, RefusedAt setup session signals index violation := by
  induction signals using List.reverseRecOn with
  | nil =>
    rw [after_nil, opened] at recorded
    contradiction
  | append_singleton earlier signal ih =>
    rw [after_append, after_cons, after_nil, respond_violation] at recorded
    cases before : (session.after setup earlier).violation with
    | some cause =>
      rw [before, Option.some_or, Option.some.injEq] at recorded
      obtain ⟨index, refused⟩ := ih (before.trans (congrArg some recorded))
      have ⟨_, sent, _⟩ := refused
      have inside : index + 1 ≤ earlier.length := (List.getElem?_eq_some_iff.mp sent).1
      exact ⟨index, refused.of_take_eq (List.take_append_of_le_length inside)⟩
    | none =>
      rw [before, Option.none_or] at recorded
      refine ⟨earlier.length, signal, List.getElem?_concat_length, ?_⟩
      rwa [List.take_left]

theorem not_refusedAt_of_clean (clean : (session.after setup signals).violation = none)
    (index : Nat) (violation : Violation) : ¬RefusedAt setup session signals index violation := by
  intro refused
  rw [refused.after_eq, refused.recorded] at clean
  contradiction

end Session

namespace Host

open Session

variable {host : Host EntryPoint} {rule : String} {input : Bytes} {entry : EntryPoint}
  {index : Nat} {violation : Violation}

/-- All of a parse is decided when a signal is refused: the events up to there are the last, and
the violation is the result. -/
theorem parse_of_refused (found : host.resolve rule = .ok entry)
    (refused : RefusedAt host.setup { input } ((entry input).issued host.setup { input }) index
      violation) :
    host.parse rule input =
      ⟨.invoking rule input.length :: (Session.serve host.setup
          (((entry input).issued host.setup { input }).take (index + 1)) { input }).events,
        .error (.contract rule violation)⟩ := by
  rw [parse_found found, runMatcher, Matcher.run_events, Matcher.run_session, refused.after_eq,
    refused.serve_eq, host.conclude_violated refused.recorded]
  simp only [List.append_nil]

/-- A refused signal is the first and the only one. The stacks and the failures stay as it left
them, no later match is answered, the parse ends with its violation, and it would end in just the
same way for any other matcher that agrees up to there. -/
theorem parse_ends_at_first_refusal (found : host.resolve rule = .ok entry)
    (refused : RefusedAt host.setup { input } ((entry input).issued host.setup { input }) index
      violation) :
    let signals := (entry input).issued host.setup { input }
    let stopped := Session.after host.setup (signals.take (index + 1)) { input }
    let final := ((entry input).run host.setup { input }).session
    (∀ other cause, RefusedAt host.setup { input } signals other cause → other = index) ∧
    final.output = stopped.output ∧ final.locals = stopped.locals ∧
    final.failures = stopped.failures ∧
    (∀ later, index < later → later < signals.length →
      (Session.serve host.setup signals { input }).answers[later]? = some none) ∧
    (host.parse rule input).result = .error (.contract rule violation) ∧
    ∀ (other : Host EntryPoint) (alike : EntryPoint), other.setup = host.setup →
      other.resolve rule = .ok alike →
      ((alike input).issued host.setup { input }).take (index + 1) = signals.take (index + 1) →
      other.parse rule input = host.parse rule input := by
  intro signals stopped final
  have same : final = stopped := (Matcher.run_session ..).trans refused.after_eq
  refine ⟨fun other cause again => refused.unique again, by rw [same], by rw [same], by rw [same],
    fun later order sent => refused.unanswered order sent, ?_, ?_⟩
  · rw [parse_of_refused found refused]
  · intro other alike setups resolved agree
    have refusedToo := refused.of_take_eq agree
    rw [← setups] at refusedToo agree
    rw [parse_of_refused resolved refusedToo, parse_of_refused found refused, agree, setups]

/-- A matcher that goes on after its object was not made, and claims a match. -/
def heedless : EntryPoint := fun _ =>
  .sending [.pushBoolean true, .pushEmpty, .makeObject (some [65]), .matchAt (some 0),
    .mergeLabels (-1), .pop] (.done 1)

def heeding : EntryPoint := fun _ =>
  .sending [.pushBoolean true, .pushEmpty, .makeObject (some [65])] (.done 0)

theorem parse_ends_at_abort :
    let host : Host EntryPoint :=
      ⟨fun _ => .ok heedless, { traceCallbacks := true }, .refusing fun _ => some "no"⟩
    let other : Host EntryPoint := { host with resolve := fun _ => .ok heeding }
    RefusedAt host.setup { input := [97] } ((heedless [97]).issued host.setup { input := [97] }) 2
      (.callbackAborted .makeObject "no") ∧
    (host.parse "word" [97]).result =
      .error (.contract "word" (.callbackAborted .makeObject "no")) ∧
    other.parse "word" [97] = host.parse "word" [97] := by
  intro host other
  have refused : RefusedAt host.setup { input := [97] }
      ((heedless [97]).issued host.setup { input := [97] }) 2
      (.callbackAborted .makeObject "no") := ⟨_, rfl, rfl⟩
  obtain ⟨_, _, _, _, _, result, alike⟩ :=
    @parse_ends_at_first_refusal host "word" [97] heedless 2 _ rfl refused
  exact ⟨refused, result, alike other heeding rfl rfl rfl⟩

end Host
end MatcherHost
