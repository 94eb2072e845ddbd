import MatcherHost.Running.Host

/-! How runs decompose. A run of a matcher is the serving of the signals it issued, and serving
splits at any point, so what holds of lists of signals holds of matchers that look at the
answers. -/
namespace MatcherHost

def Signal.isMatch : Signal → Bool
  | .matchAt _ => true
  | _ => false

theorem Signal.isMatch_of_hook {signal : Signal} (hook : signal.isTraceHook = true) :
    signal.isMatch = false := by
  cases signal with
  | matchAt => contradiction
  | _ => rfl

namespace Session

/-- Why a signal is refused, if it is: its arguments make no sense, or the call they amount to
cannot be served. A signal that is passed over is not refused. -/
def refusal? (setup : Setup) (session : Session) (signal : Signal) : Option Violation :=
  if session.ignores setup signal then none
  else
    match signal.decode session.input.length with
    | .error violation => some violation
    | .ok call => (session.apply setup.factory call).refusal

def after (setup : Setup) (signals : List Signal) (session : Session) : Session :=
  (session.serve setup signals).session

@[simp] theorem after_nil (setup : Setup) (session : Session) : session.after setup [] = session :=
  rfl

@[simp] theorem after_cons (setup : Setup) (signal : Signal) (rest : List Signal)
    (session : Session) :
    session.after setup (signal :: rest) = (session.respond setup signal).session.after setup rest :=
  rfl

theorem serve_append (setup : Setup) (first second : List Signal) (session : Session) :
    session.serve setup (first ++ second) =
      let early := session.serve setup first
      let late := early.session.serve setup second
      ⟨late.session, early.answers ++ late.answers, early.events ++ late.events⟩ := by
  induction first generalizing session with
  | nil => rfl
  | cons signal rest ih =>
    simp only [List.cons_append, serve, ih, List.append_assoc]

theorem after_append (setup : Setup) (first second : List Signal) (session : Session) :
    session.after setup (first ++ second) = (session.after setup first).after setup second := by
  simp only [after, serve_append]

theorem answers_length (setup : Setup) (signals : List Signal) (session : Session) :
    (session.serve setup signals).answers.length = signals.length := by
  induction signals generalizing session with
  | nil => rfl
  | cons signal rest ih => simp only [serve, List.length_cons, ih]

def matchAnswers (setup : Setup) (signals : List Signal) (session : Session) :
    List (Option Nat) :=
  ((signals.zip (session.serve setup signals).answers).filter (·.1.isMatch)).map Prod.snd

theorem matchAnswers_cons (setup : Setup) (signal : Signal) (rest : List Signal)
    (session : Session) :
    session.matchAnswers setup (signal :: rest) =
      (if signal.isMatch then [(session.respond setup signal).answer] else []) ++
        (session.respond setup signal).session.matchAnswers setup rest := by
  cases asked : signal.isMatch <;> simp [matchAnswers, serve, asked]

theorem after_invariant (setup : Setup) (property : Session → Prop)
    (preserved : ∀ session signal, property session →
      property (session.respond setup signal).session)
    (signals : List Signal) (session : Session) (initial : property session) :
    property (session.after setup signals) := by
  induction signals generalizing session with
  | nil => exact initial
  | cons signal rest ih => exact ih _ (preserved session signal initial)

@[simp] theorem onOutput_violation (session : Session) (effect : Effect Violation Stack) :
    (session.onOutput effect).session.violation = session.violation := rfl

@[simp] theorem onStacks_violation (session : Session)
    (effect : Effect Violation (Stack × Stack)) :
    (session.onStacks effect).session.violation = session.violation := rfl

@[simp] theorem onOutput_input (session : Session) (effect : Effect Violation Stack) :
    (session.onOutput effect).session.input = session.input := rfl

@[simp] theorem onStacks_input (session : Session) (effect : Effect Violation (Stack × Stack)) :
    (session.onStacks effect).session.input = session.input := rfl

/-- A match takes the top value if there is one, whatever comes of it. -/
theorem matchAt_session (session : Session) (position : Nat) :
    (session.matchAt position).session = { session with output := session.output.tail } := by
  unfold matchAt
  cases stacked : session.output with
  | nil =>
    have same : session = { session with output := [] } := by rw [← stacked]
    exact same
  | cons value rest =>
    simp only [Stack.take, List.tail_cons]
    split
    · rfl
    · split <;> rfl

/-- Neither the input nor the record of a violation is a call's business: only the answer to a
refusal writes the latter. -/
theorem apply_unrelated (factory : Factory) (session : Session) (call : Call) :
    (session.apply factory call).session.violation = session.violation ∧
      (session.apply factory call).session.input = session.input := by
  cases call <;> simp only [apply, onOutput_violation, onStacks_violation, onOutput_input,
    onStacks_input, and_self]
  case matchAt position =>
    rw [matchAt_session]
    exact ⟨rfl, rfl⟩

theorem apply_violation (factory : Factory) (session : Session) (call : Call) :
    (session.apply factory call).session.violation = session.violation :=
  (apply_unrelated factory session call).1

theorem apply_input (factory : Factory) (session : Session) (call : Call) :
    (session.apply factory call).session.input = session.input :=
  (apply_unrelated factory session call).2

/-! One signal is passed over, served, or refused. -/

theorem respond_of_ignored {setup : Setup} {session : Session} {signal : Signal}
    (ignored : session.ignores setup signal = true) :
    session.respond setup signal = { session } := by
  simp only [respond, ignored, if_true]

theorem respond_of_served {setup : Setup} {session : Session} {signal : Signal} {call : Call}
    (attended : session.ignores setup signal = false)
    (decoded : signal.decode session.input.length = .ok call)
    (served : (session.apply setup.factory call).refusal = none) :
    session.respond setup signal =
      ⟨(session.apply setup.factory call).session, (session.apply setup.factory call).answer,
        noted setup.tracing call⟩ := by
  simp [respond, attended, decoded, served]

/-- An open session serves what it can of signals that are no hooks, tracing or not. -/
theorem respond_of_heard {setup : Setup} {session : Session} {signal : Signal} {call : Call}
    (opened : session.violation = none) (heard : signal.isTraceHook = false)
    (decoded : signal.decode session.input.length = .ok call)
    (served : (session.apply setup.factory call).refusal = none) :
    session.respond setup signal =
      ⟨(session.apply setup.factory call).session, (session.apply setup.factory call).answer,
        noted setup.tracing call⟩ := by
  have attended : session.ignores setup signal = false := by
    simp [ignores, closed, opened, heard]
  exact respond_of_served attended decoded served

/-- A refused signal is not answered, and its violation goes on record. -/
theorem respond_of_refused {setup : Setup} {session : Session} {signal : Signal}
    {violation : Violation} (refused : session.refusal? setup signal = some violation) :
    (session.respond setup signal).session.violation = some violation ∧
      (session.respond setup signal).answer = none := by
  unfold refusal? at refused
  unfold respond
  split at refused
  · contradiction
  · rename_i attended
    rw [if_neg attended]
    cases decoded : signal.decode session.input.length with
    | error cause =>
      rw [decoded] at refused
      exact ⟨refused, rfl⟩
    | ok call =>
      simp only [decoded] at refused
      simp only [refused, and_true]
      rfl

/-- Everything that can become of a signal that is not refused. -/
theorem respond_cases {setup : Setup} {session : Session} {signal : Signal}
    (accepted : session.refusal? setup signal = none) :
    session.ignores setup signal = true ∧ session.respond setup signal = { session } ∨
      ∃ call, session.ignores setup signal = false ∧
        signal.decode session.input.length = .ok call ∧
        (session.apply setup.factory call).refusal = none ∧
        session.respond setup signal =
          ⟨(session.apply setup.factory call).session, (session.apply setup.factory call).answer,
            noted setup.tracing call⟩ := by
  unfold refusal? at accepted
  split at accepted
  · rename_i ignored
    exact .inl ⟨ignored, respond_of_ignored ignored⟩
  · rename_i attended
    have attended := Bool.eq_false_iff.mpr attended
    cases decoded : signal.decode session.input.length with
    | error cause => simp [decoded] at accepted
    | ok call =>
      simp only [decoded] at accepted
      exact .inr ⟨call, attended, rfl, accepted, respond_of_served attended decoded accepted⟩

/-- What any signal leaves, apart from the record of a violation: the session as it was, or as the
call it amounts to left it, refused or not. -/
theorem respond_leaves (setup : Setup) (session : Session) (signal : Signal) :
    (∃ violation, (session.respond setup signal).session = { session with violation }) ∨
      ∃ call violation, session.ignores setup signal = false ∧
        signal.decode session.input.length = .ok call ∧
        (session.respond setup signal).session =
          { (session.apply setup.factory call).session with violation } := by
  unfold respond
  split
  · exact .inl ⟨session.violation, rfl⟩
  · rename_i attended
    cases decoded : signal.decode session.input.length with
    | error violation => exact .inl ⟨some violation, rfl⟩
    | ok call =>
      have attended := Bool.eq_false_iff.mpr attended
      cases refusal : (session.apply setup.factory call).refusal with
      | none =>
        refine .inr ⟨call, (session.apply setup.factory call).session.violation, attended, rfl, ?_⟩
        simp only [refusal]
      | some violation =>
        refine .inr ⟨call, some violation, attended, rfl, ?_⟩
        simp only [refusal]
        rfl

theorem ignores_of_closed {setup : Setup} {session : Session} {signal : Signal}
    (closed : session.closed = true) : session.ignores setup signal = true := by
  simp [ignores, closed]

theorem hook_of_ignored {setup : Setup} {session : Session} {signal : Signal}
    (opened : session.violation = none) (ignored : session.ignores setup signal = true) :
    signal.isTraceHook = true := by
  simp only [ignores, closed, opened, Option.isSome_none, Bool.false_or, Bool.and_eq_true]
    at ignored
  exact ignored.1

theorem open_of_refused {setup : Setup} {session : Session} {signal : Signal}
    {violation : Violation} (refused : session.refusal? setup signal = some violation) :
    session.violation = none := by
  cases recorded : session.violation with
  | none => rfl
  | some earlier =>
    have closed : session.closed = true := by simp [closed, recorded]
    simp [refusal?, ignores_of_closed closed] at refused

/-- The record of a violation after one signal: the one already there, or why the signal was
refused. -/
theorem respond_violation (setup : Setup) (session : Session) (signal : Signal) :
    (session.respond setup signal).session.violation =
      session.violation.or (session.refusal? setup signal) := by
  cases refused : session.refusal? setup signal with
  | some violation =>
    rw [(respond_of_refused refused).1, open_of_refused refused, Option.none_or]
  | none =>
    rw [Option.or_none]
    rcases respond_cases refused with ⟨_, same⟩ | ⟨call, _, _, _, same⟩
    · rw [same]
    · rw [same]
      exact apply_violation setup.factory session call

theorem respond_input (setup : Setup) (session : Session) (signal : Signal) :
    (session.respond setup signal).session.input = session.input := by
  rcases respond_leaves setup session signal with ⟨_, same⟩ | ⟨call, _, _, _, same⟩
  · rw [same]
  · rw [same]
    exact apply_input setup.factory session call

theorem after_input (setup : Setup) (signals : List Signal) (session : Session) :
    (session.after setup signals).input = session.input := by
  refine after_invariant setup (fun reached => reached.input = session.input) ?_ signals session rfl
  intro reached signal same
  rw [respond_input, same]

/-- A closed session is inert: nothing is answered, noted or changed. -/
theorem serve_of_closed {setup : Setup} {session : Session} {signals : List Signal}
    (closed : session.closed = true) :
    session.serve setup signals = ⟨session, List.replicate signals.length none, []⟩ := by
  induction signals with
  | nil => rfl
  | cons signal rest ih =>
    simp only [serve, respond_of_ignored (ignores_of_closed closed), ih, List.length_cons,
      List.replicate_succ, List.nil_append]

theorem open_of_after {setup : Setup} {session : Session} {signals : List Signal}
    (clean : (session.after setup signals).violation = none) : session.violation = none := by
  cases recorded : session.violation with
  | none => rfl
  | some earlier =>
    have closed : session.closed = true := by simp [closed, recorded]
    rw [after, serve_of_closed closed, recorded] at clean
    contradiction

theorem accepted_of_after_cons {setup : Setup} {session : Session} {signal : Signal}
    {rest : List Signal} (clean : (session.after setup (signal :: rest)).violation = none) :
    session.violation = none ∧ session.refusal? setup signal = none := by
  rw [after_cons] at clean
  have first := open_of_after clean
  rwa [respond_violation, Option.or_eq_none_iff] at first

end Session

namespace Matcher

/-- The signals a matcher sends until it returns. Each may depend on the answers before it. -/
def issued (setup : Setup) : Matcher → Session → List Signal
  | .done _, _ => []
  | .send signal next, session =>
    let response := session.respond setup signal
    signal :: issued setup (next response.answer) response.session

/-- The session and the events of a run are those of serving what was issued. -/
theorem run_eq_serve_issued (setup : Setup) (matcher : Matcher) (session : Session) :
    (matcher.run setup session).session = session.after setup (matcher.issued setup session) ∧
      (matcher.run setup session).events =
        (session.serve setup (matcher.issued setup session)).events := by
  induction matcher generalizing session with
  | done status => exact ⟨rfl, rfl⟩
  | send signal next ih =>
    obtain ⟨sessions, events⟩ :=
      ih (session.respond setup signal).answer (session.respond setup signal).session
    exact ⟨sessions, congrArg ((session.respond setup signal).events ++ ·) events⟩

theorem run_session (setup : Setup) (matcher : Matcher) (session : Session) :
    (matcher.run setup session).session = session.after setup (matcher.issued setup session) :=
  (run_eq_serve_issued setup matcher session).1

theorem run_events (setup : Setup) (matcher : Matcher) (session : Session) :
    (matcher.run setup session).events =
      (session.serve setup (matcher.issued setup session)).events :=
  (run_eq_serve_issued setup matcher session).2

theorem issued_sending (setup : Setup) (signals : List Signal) (status : Int)
    (session : Session) :
    (sending signals (.done status)).issued setup session = signals := by
  induction signals generalizing session with
  | nil => rfl
  | cons signal rest ih => exact congrArg (signal :: ·) (ih (session.respond setup signal).session)

theorem run_sending_status (setup : Setup) (signals : List Signal) (status : Int)
    (session : Session) : ((sending signals (.done status)).run setup session).status = status := by
  rw [run_sending]
  rfl

end Matcher

namespace Host

variable {ε : Type} {rule : String}

theorem conclude_open (host : Host ε) {session : Session} (clean : session.violation = none)
    (status : Int) :
    (host.conclude rule session status).result =
      if status = 0 then
        .error (.unmatched
          (.ofFailures host.config.contextBytes session.input session.failures))
      else
        match session.output with
        | [value] => .ok value
        | stack => .error (.contract rule (.unbalancedResult stack.length)) := by
  by_cases failed : status = 0
  · simp [conclude, Session.conclude, clean, failed]
  · simp only [conclude, Session.conclude, clean, failed, if_false]
    rcases session.output with _ | ⟨value, _ | ⟨next, rest⟩⟩ <;> rfl

theorem conclude_violated (host : Host ε) {session : Session} {violation : Violation}
    (recorded : session.violation = some violation) (status : Int) :
    host.conclude rule session status = ⟨[], .error (.contract rule violation)⟩ := by
  simp [conclude, Session.conclude, recorded]

/-- Hosts that agree on what decides a result; where rules are found and what is noted may differ. -/
structure Alike (host other : Host ε) : Prop where
  factory : host.factory = other.factory
  contextBytes : host.config.contextBytes = other.config.contextBytes

theorem Alike.conclude {host other : Host ε} (alike : host.Alike other) (session : Session)
    (status : Int) :
    (host.conclude rule session status).result = (other.conclude rule session status).result := by
  simp only [Host.conclude, alike.contextBytes]

variable {host : Host EntryPoint} {input : Bytes} {entry : EntryPoint}

theorem parse_found (found : host.resolve rule = .ok entry) :
    host.parse rule input = host.runMatcher rule input (entry input) := by
  simp only [parse, found]

/-- The result of a parse, by what its matcher issued and returned on a fresh session. -/
theorem parse_result (found : host.resolve rule = .ok entry) :
    (host.parse rule input).result =
      (host.conclude rule
        (Session.after host.setup ((entry input).issued host.setup { input }) { input })
        ((entry input).run host.setup { input }).status).result := by
  rw [parse_found found, ← Matcher.run_session]
  rfl

end Host
end MatcherHost
