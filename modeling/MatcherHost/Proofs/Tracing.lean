import MatcherHost.Proofs.Serving

/-! Tracing is for readers of the log only. Whether hooks are observed, passed over or never sent,
the same is answered and the same comes out, provided that the names given to observed hooks can be
read. -/
namespace MatcherHost

/-- Some text is given, and it is one. -/
def Argument.legible (bytes : Option Bytes) : Bool :=
  (bytes.bind fun content => Utf8.decode? (content.takeWhile (· ≠ 0))).isSome

def Signal.legible : Signal → Bool
  | .traceEnter rule | .traceLeave rule _ => Argument.legible rule
  | _ => true

theorem Argument.text_of_legible (operation : Operation) {bytes : Option Bytes}
    (legible : Argument.legible bytes = true) : ∃ name, text operation bytes = .ok name := by
  obtain ⟨name, read⟩ := Option.isSome_iff_exists.mp legible
  exact ⟨name, by simp only [text, read]⟩

namespace Session

variable {setup other : Setup} {session : Session} {signal : Signal} {signals : List Signal}

/-- The hooks among the signals have readable names, if anyone reads them. -/
def Readable (setup : Setup) (signals : List Signal) : Prop :=
  setup.tracing = true → ∀ signal ∈ signals, signal.legible = true

theorem readable_cons {rest : List Signal} : Readable setup (signal :: rest) ↔
    (setup.tracing = true → signal.legible = true) ∧ Readable setup rest := by
  simp only [Readable, List.forall_mem_cons, imp_and]

theorem ignores_of_heard (heard : signal.isTraceHook = false) :
    session.ignores setup signal = session.closed := by
  simp [ignores, heard]

/-- A readable hook does nothing but be noted. -/
theorem respond_hook (hook : signal.isTraceHook = true)
    (legible : setup.tracing = true → signal.legible = true) :
    (session.respond setup signal).session = session ∧
      (session.respond setup signal).answer = none := by
  cases ignored : session.ignores setup signal with
  | true =>
    rw [respond_of_ignored ignored]
    exact ⟨rfl, rfl⟩
  | false =>
    have tracing : setup.tracing = true := by
      simp only [ignores, hook, Bool.true_and, Bool.or_eq_false_iff, Bool.not_eq_false'] at ignored
      exact ignored.2
    have readable := legible tracing
    cases signal with
    | traceEnter rule =>
      obtain ⟨name, read⟩ := Argument.text_of_legible .traceEnter readable
      have decoded : (Signal.traceEnter rule).decode session.input.length =
          .ok (.traceEnter name) := by
        simp only [Signal.decode, read, Except.map]
      rw [respond_of_served ignored decoded rfl]
      exact ⟨rfl, rfl⟩
    | traceLeave rule successful =>
      obtain ⟨name, read⟩ := Argument.text_of_legible .traceLeave readable
      have decoded : (Signal.traceLeave rule successful).decode session.input.length =
          .ok (.traceLeave name successful) := by
        simp only [Signal.decode, read, Except.map]
      rw [respond_of_served ignored decoded rfl]
      exact ⟨rfl, rfl⟩
    | _ => contradiction

/-- Whether anyone reads the log makes no difference to other signals. -/
theorem respond_heard (factories : other.factory = setup.factory)
    (heard : signal.isTraceHook = false) :
    (session.respond other signal).session = (session.respond setup signal).session ∧
      (session.respond other signal).answer = (session.respond setup signal).answer := by
  simp only [respond, ignores_of_heard heard, factories]
  split
  · exact ⟨rfl, rfl⟩
  · split
    · exact ⟨rfl, rfl⟩
    · split <;> exact ⟨rfl, rfl⟩

theorem respond_agrees (factories : other.factory = setup.factory)
    (mine : setup.tracing = true → signal.legible = true)
    (yours : other.tracing = true → signal.legible = true) :
    (session.respond other signal).session = (session.respond setup signal).session ∧
      (session.respond other signal).answer = (session.respond setup signal).answer := by
  cases hook : signal.isTraceHook with
  | false => exact respond_heard factories hook
  | true =>
    obtain ⟨kept, unanswered⟩ := @respond_hook setup session signal hook mine
    obtain ⟨keptToo, unansweredToo⟩ := @respond_hook other session signal hook yours
    exact ⟨keptToo.trans kept.symm, unansweredToo.trans unanswered.symm⟩

/-- Two runs over the same signals, observed or not. -/
theorem after_agrees (factories : other.factory = setup.factory) (mine : Readable setup signals)
    (yours : Readable other signals) :
    session.after other signals = session.after setup signals ∧
      session.matchAnswers other signals = session.matchAnswers setup signals := by
  induction signals generalizing session with
  | nil => exact ⟨rfl, rfl⟩
  | cons signal rest ih =>
    obtain ⟨first, others⟩ := readable_cons.mp mine
    obtain ⟨firstToo, othersToo⟩ := readable_cons.mp yours
    obtain ⟨sessions, answers⟩ :=
      @respond_agrees setup other session signal factories first firstToo
    have later := @ih (session.respond setup signal).session others othersToo
    rw [after_cons, after_cons, matchAnswers_cons, matchAnswers_cons, sessions, answers, later.1,
      later.2]
    exact ⟨rfl, rfl⟩

/-- A run without its hooks. -/
theorem after_filter (readable : Readable setup signals) :
    session.after setup (signals.filter (!·.isTraceHook)) = session.after setup signals ∧
      session.matchAnswers setup (signals.filter (!·.isTraceHook)) =
        session.matchAnswers setup signals := by
  induction signals generalizing session with
  | nil => exact ⟨rfl, rfl⟩
  | cons signal rest ih =>
    obtain ⟨first, others⟩ := readable_cons.mp readable
    have later := @ih (session.respond setup signal).session others
    cases hook : signal.isTraceHook with
    | false =>
      rw [List.filter_cons_of_pos (by simp [hook]), after_cons, after_cons, matchAnswers_cons,
        matchAnswers_cons, later.1, later.2]
      exact ⟨rfl, rfl⟩
    | true =>
      obtain ⟨kept, _⟩ := @respond_hook setup session signal hook first
      rw [kept] at later
      rw [List.filter_cons_of_neg (by simp [hook]), after_cons, matchAnswers_cons, kept,
        Signal.isMatch_of_hook hook]
      exact later

theorem readable_filter (setup : Setup) (signals : List Signal) :
    Readable setup (signals.filter (!·.isTraceHook)) := by
  intro _ signal member
  obtain ⟨_, heard⟩ := List.mem_filter.mp member
  cases signal with
  | traceEnter | traceLeave => contradiction
  | _ => rfl

end Session

namespace Matcher

open Session

/-- A matcher that is answered alike goes on alike. -/
theorem issued_agrees {setup other : Setup} (factories : other.factory = setup.factory)
    (matcher : Matcher) (session : Session)
    (mine : Readable setup (matcher.issued setup session))
    (yours : Readable other (matcher.issued setup session)) :
    matcher.issued other session = matcher.issued setup session ∧
      (matcher.run other session).status = (matcher.run setup session).status := by
  induction matcher generalizing session with
  | done status => exact ⟨rfl, rfl⟩
  | send signal next ih =>
    obtain ⟨first, others⟩ := readable_cons.mp mine
    obtain ⟨firstToo, othersToo⟩ := readable_cons.mp yours
    obtain ⟨sessions, answers⟩ :=
      @respond_agrees setup other session signal factories first firstToo
    have later := ih (session.respond setup signal).answer (session.respond setup signal).session
      others othersToo
    simp only [issued, run, sessions, answers, later, and_self]

end Matcher

namespace Host

open Session

variable {loud quiet bare : Host EntryPoint} {rule : String} {input : Bytes}
  {entry stripped : EntryPoint}

/-- On a host that does not trace, a matcher fares like one that sends the same without any trace
hooks, whatever the hooks carry. If their names can be read, it sends the same, is answered the
same and fares the same on any host, so also on one that traces. -/
theorem tracing_keeps_outcome (silent : quiet.config.traceCallbacks = false)
    (alike : loud.Alike quiet) (alikeToo : bare.Alike quiet)
    (found : loud.resolve rule = .ok entry) (foundToo : quiet.resolve rule = .ok entry)
    (foundBare : bare.resolve rule = .ok stripped)
    (deleted : (stripped input).issued bare.setup { input } =
      ((entry input).issued quiet.setup { input }).filter (!·.isTraceHook))
    (returns : ((stripped input).run bare.setup { input }).status =
      ((entry input).run quiet.setup { input }).status) :
    let signals := (entry input).issued quiet.setup { input }
    (bare.parse rule input).result = (quiet.parse rule input).result ∧
    Session.matchAnswers bare.setup (signals.filter (!·.isTraceHook)) { input } =
      Session.matchAnswers quiet.setup signals { input } ∧
    ((∀ signal ∈ signals, signal.legible = true) →
      (entry input).issued loud.setup { input } = signals ∧
      (loud.parse rule input).result = (quiet.parse rule input).result ∧
      Session.matchAnswers loud.setup signals { input } =
        Session.matchAnswers quiet.setup signals { input }) := by
  intro signals
  -- Three runs meet in one: the quiet run without hooks.
  have unread : Readable quiet.setup signals := by
    intro tracing
    exact absurd (silent.symm.trans tracing) Bool.false_ne_true
  obtain ⟨kept, answered⟩ := @after_filter quiet.setup { input } signals unread
  obtain ⟨sessions, answers⟩ := @after_agrees quiet.setup bare.setup { input }
    (signals.filter (!·.isTraceHook)) alikeToo.factory (readable_filter _ _) (readable_filter _ _)
  refine ⟨?_, answers.trans answered, fun legible => ?_⟩
  · rw [parse_result foundBare, parse_result foundToo, deleted, returns, sessions, kept,
      alikeToo.conclude]
  · have read : Readable loud.setup signals := fun _ => legible
    obtain ⟨sends, status⟩ :=
      Matcher.issued_agrees alike.factory (entry input) { input } unread read
    obtain ⟨reached, answeredToo⟩ :=
      @after_agrees quiet.setup loud.setup { input } signals alike.factory unread read
    refine ⟨sends, ?_, answeredToo⟩
    rw [parse_result found, parse_result foundToo, sends, status, reached, alike.conclude]

def observed : EntryPoint := fun _ =>
  .sending [.traceEnter (some [97]), .pushString (some [98]), .matchAt (some 1),
    .traceLeave (some [97]) true, .pop] (.done 1)

def unobserved : EntryPoint := fun _ =>
  .sending [.pushString (some [98]), .matchAt (some 1), .pop] (.done 1)

theorem tracing_keeps_observed :
    let quiet : Host EntryPoint := ⟨fun _ => .ok observed, {}, .identity⟩
    let loud : Host EntryPoint := { quiet with config := { traceCallbacks := true } }
    let bare : Host EntryPoint := { quiet with resolve := fun _ => .ok unobserved }
    let input : Bytes := [97, 98]
    let signals := (observed input).issued quiet.setup { input }
    (∀ signal ∈ signals, signal.legible = true) ∧
    (loud.parse "a" input).result = (quiet.parse "a" input).result ∧
    (bare.parse "a" input).result = (quiet.parse "a" input).result ∧
    (quiet.parse "a" input).result = .error (.contract "a" (.outputUnderflow .pop 1 0)) ∧
    Session.matchAnswers loud.setup signals { input } = [some 2] := by
  intro quiet loud bare input signals
  have legible : ∀ signal ∈ signals, signal.legible = true := by decide +kernel
  obtain ⟨same, _, read⟩ := @tracing_keeps_outcome loud quiet bare "a" input observed unobserved
    rfl ⟨rfl, rfl⟩ ⟨rfl, rfl⟩ rfl rfl rfl (by decide +kernel) (by decide +kernel)
  obtain ⟨_, sameToo, answers⟩ := read legible
  refine ⟨legible, sameToo, same, rfl, ?_⟩
  rw [answers]
  decide +kernel

end Host
end MatcherHost
