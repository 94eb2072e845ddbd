import MatcherHost.Proofs.Decoding
import MatcherHost.Proofs.Furthest
import MatcherHost.Proofs.Serving

/-! Reporting failures and building values do not mix. A run without a violation is two runs laid
over each other: its building calls alone decide the stacks and the answers, and the set of its
reports alone decides the failures. -/
namespace MatcherHost

namespace Call

def isMatch : Call → Bool
  | .matchAt _ => true
  | _ => false

def builds : Call → Bool
  | .traceEnter _ | .traceLeave .. | .traceFailure .. => false
  | _ => true

def report? : Call → Option Report
  | .traceFailure position reason isExpectation => some ⟨position, reason, isExpectation⟩
  | _ => none

end Call

namespace Signal

def calls (length : Nat) (signals : List Signal) : List Call :=
  signals.filterMap fun signal => (signal.decode length).toOption

def buildingCalls (length : Nat) (signals : List Signal) : List Call :=
  (calls length signals).filter Call.builds

def reports (length : Nat) (signals : List Signal) : List Report :=
  (calls length signals).filterMap Call.report?

variable {length : Nat} {signal : Signal} {call : Call} {rest : List Signal}

theorem calls_cons_of_ok (decoded : signal.decode length = .ok call) :
    calls length (signal :: rest) = call :: calls length rest := by
  simp [calls, decoded, Except.toOption]

theorem calls_cons_of_error {violation : Violation}
    (decoded : signal.decode length = .error violation) :
    calls length (signal :: rest) = calls length rest := by
  simp [calls, decoded, Except.toOption]

theorem Decodes.isMatch (decodes : signal.Decodes length call) :
    call.isMatch = signal.isMatch := by
  cases decodes <;> rfl

end Signal

namespace Session

variable {factory : Factory} {session : Session} {call : Call}

/-- Calls in order, refused or not, with the answers to the matches among them. -/
def perform (factory : Factory) : List Call → Session → Session × List (Option Nat)
  | [], session => (session, [])
  | call :: rest, session =>
    let reply := session.apply factory call
    let later := perform factory rest reply.session
    (later.1, (if call.isMatch then [reply.answer] else []) ++ later.2)

theorem apply_hook {signal : Signal} {length : Nat} (decodes : signal.Decodes length call)
    (hook : signal.isTraceHook = true) : session.apply factory call = { session } := by
  cases decodes with
  | traceEnter | traceLeave => rfl
  | _ => contradiction

/-- A run without a violation performs the calls that its signals amount to. Hooks nobody observes
are as good as performed. -/
theorem serve_eq_perform {setup : Setup} {signals : List Signal}
    (clean : (session.after setup signals).violation = none) :
    (session.after setup signals, session.matchAnswers setup signals) =
      session.perform setup.factory (Signal.calls session.input.length signals) := by
  induction signals generalizing session with
  | nil => rfl
  | cons signal rest ih =>
    obtain ⟨opened, accepted⟩ := accepted_of_after_cons clean
    rw [after_cons] at clean ⊢
    have later := ih clean
    rw [respond_input] at later
    rw [matchAnswers_cons]
    rcases respond_cases accepted with ⟨ignored, same⟩ | ⟨call, _, decoded, _, same⟩
    · have hook := hook_of_ignored opened ignored
      rw [same] at later ⊢
      rw [Signal.isMatch_of_hook hook]
      cases decoded : signal.decode session.input.length with
      | error violation => rwa [Signal.calls_cons_of_error decoded]
      | ok call =>
        have decodes := Signal.decode_eq_ok.mp decoded
        rw [Signal.calls_cons_of_ok decoded, perform, apply_hook decodes hook, decodes.isMatch,
          Signal.isMatch_of_hook hook, ← later]
    · rw [same] at later ⊢
      rw [Signal.calls_cons_of_ok decoded, perform, ← later,
        (Signal.decode_eq_ok.mp decoded).isMatch]

def withFailures (failures : Failures) (session : Session) : Session := { session with failures }

/-- Building calls neither read nor write the failures. -/
theorem apply_withFailures (builds : call.builds = true) (failures : Failures) :
    (session.withFailures failures).apply factory call =
      { session.apply factory call with
        session := (session.apply factory call).session.withFailures failures } := by
  cases call with
  | traceEnter | traceLeave | traceFailure => contradiction
  | matchAt position =>
    cases stacked : session.output with
    | nil => simp [apply, matchAt, withFailures, stacked, Stack.take]
    | cons value rest =>
      simp only [apply, matchAt, withFailures, stacked, Stack.take]
      split
      · rfl
      · split <;> rfl
  | _ => rfl

theorem apply_failures (builds : call.builds = true) :
    (session.apply factory call).session.failures = session.failures := by
  have same := @apply_withFailures factory session call builds session.failures
  have reply := congrArg (fun reply => reply.session.failures) same
  exact reply

theorem perform_withFailures {calls : List Call} (building : ∀ call ∈ calls, call.builds = true)
    (failures : Failures) :
    (session.withFailures failures).perform factory calls =
      ((session.perform factory calls).1.withFailures failures,
        (session.perform factory calls).2) := by
  induction calls generalizing session with
  | nil => rfl
  | cons call rest ih =>
    obtain ⟨first, others⟩ := List.forall_mem_cons.mp building
    rw [perform, apply_withFailures first, ih others]
    rfl

/-- Reports and building calls can be told apart: what is built is what the latter build alone. -/
theorem perform_split (calls : List Call) (session : Session) :
    session.perform factory calls =
      let built := session.perform factory (calls.filter Call.builds)
      let failures := (calls.filterMap Call.report?).foldl Failures.enter session.failures
      (built.1.withFailures failures, built.2) := by
  induction calls generalizing session with
  | nil => rfl
  | cons call rest ih =>
    cases builds : call.builds with
    | true =>
      have silent : call.report? = none := by
        cases call with
        | traceFailure => contradiction
        | _ => rfl
      rw [perform, ih, List.filter_cons_of_pos builds, List.filterMap_cons_none silent, perform,
        apply_failures builds]
    | false =>
      -- A report made now is seen by later reports only, so it can be left to the end.
      have building : ∀ other ∈ rest.filter Call.builds, other.builds = true :=
        fun other member => (List.mem_filter.mp member).2
      cases call with
      | traceEnter | traceLeave => exact ih session
      | traceFailure position reason isExpectation =>
        let report : Report := ⟨position, reason, isExpectation⟩
        have reported :
            (session.apply factory (.traceFailure position reason isExpectation)).session =
              session.withFailures (session.failures.enter report) := rfl
        rw [perform, reported, ih, perform_withFailures building]
        rfl
      | _ => contradiction

/-- Two runs without a violation that build the same and report the same. -/
theorem run_eq_of_reports {setup other : Setup} {input : Bytes} {first second : List Signal}
    (factories : other.factory = setup.factory)
    (clean : (Session.after setup first { input }).violation = none)
    (cleanToo : (Session.after other second { input }).violation = none)
    (building : Signal.buildingCalls input.length first =
      Signal.buildingCalls input.length second)
    (reporting : ∀ report, report ∈ Signal.reports input.length first ↔
      report ∈ Signal.reports input.length second) :
    (Session.after setup first { input }, Session.matchAnswers setup first { input }) =
      (Session.after other second { input }, Session.matchAnswers other second { input }) := by
  have failures : Failures.ofReports (Signal.reports input.length first) =
      Failures.ofReports (Signal.reports input.length second) :=
    (Failures.summarises_ofReports _).eq_of_mem_iff (Failures.summarises_ofReports _) reporting
  simp only [Signal.buildingCalls, Signal.reports, Failures.ofReports] at building failures
  rw [serve_eq_perform clean, serve_eq_perform cleanToo,
    perform_split (Signal.calls input.length first),
    perform_split (Signal.calls input.length second), factories, building, failures]

end Session

namespace Host

open Session

variable {host other : Host EntryPoint} {rule : String} {input : Bytes}
  {entry different : EntryPoint}

/-- Two matchers that build the same, in the same order, and report the same failures, in any order
and any number of times, are answered the same and leave the same stacks and the same failures, so
the same comes of them if they return the same. -/
theorem reports_independent_of_building (alike : host.Alike other)
    (found : host.resolve rule = .ok entry) (foundToo : other.resolve rule = .ok different)
    (clean : (Session.after host.setup ((entry input).issued host.setup { input })
      { input }).violation = none)
    (cleanToo : (Session.after other.setup ((different input).issued other.setup { input })
      { input }).violation = none)
    (building : Signal.buildingCalls input.length ((entry input).issued host.setup { input }) =
      Signal.buildingCalls input.length ((different input).issued other.setup { input }))
    (reporting : ∀ report,
      report ∈ Signal.reports input.length ((entry input).issued host.setup { input }) ↔
        report ∈ Signal.reports input.length ((different input).issued other.setup { input })) :
    let first := (entry input).issued host.setup { input }
    let second := (different input).issued other.setup { input }
    let reached := Session.after host.setup first { input }
    let reachedToo := Session.after other.setup second { input }
    Session.matchAnswers host.setup first { input } =
      Session.matchAnswers other.setup second { input } ∧
    reached.output = reachedToo.output ∧ reached.locals = reachedToo.locals ∧
    reached.failures = reachedToo.failures ∧
    (((entry input).run host.setup { input }).status =
        ((different input).run other.setup { input }).status →
      (host.parse rule input).result = (other.parse rule input).result) := by
  intro first second reached reachedToo
  have runs := run_eq_of_reports alike.factory.symm clean cleanToo building reporting
  obtain ⟨same, answers⟩ := Prod.mk.inj runs
  refine ⟨answers, congrArg output same, congrArg locals same, congrArg failures same, ?_⟩
  intro returns
  rw [parse_result found, parse_result foundToo, same, returns, alike.conclude]

def eager : EntryPoint := fun _ =>
  .sending [.traceFailure (some 1) (some [98]) true, .pushInputRange (some 0) (some 1),
    .traceFailure (some 0) (some [97]) true, .matchAt (some 0), .pushEmpty,
    .traceFailure (some 1) (some [99]) false] (.done 0)

/-- The same as `eager`, but reports come late, in another order, and one of them twice. -/
def late : EntryPoint := fun _ =>
  .sending [.traceEnter none, .pushInputRange (some 0) (some 1), .matchAt (some 0),
    .traceFailure (some 1) (some [99]) false, .traceFailure (some 0) (some [97]) true, .pushEmpty,
    .traceFailure (some 1) (some [98]) true, .traceFailure (some 1) (some [98]) true] (.done 0)

theorem reports_independent_eager_late :
    let host : Host EntryPoint := ⟨fun _ => .ok eager, {}, .identity⟩
    let other : Host EntryPoint := { host with resolve := fun _ => .ok late }
    let input : Bytes := [97, 98]
    (host.parse "word" input).result = (other.parse "word" input).result ∧
    Session.matchAnswers host.setup ((eager input).issued host.setup { input }) { input } =
      Session.matchAnswers other.setup ((late input).issued other.setup { input }) { input } := by
  intro host other input
  let early := Signal.reports input.length ((eager input).issued host.setup { input })
  let delayed := Signal.reports input.length ((late input).issued other.setup { input })
  have covered : (∀ report ∈ early, report ∈ delayed) ∧ ∀ report ∈ delayed, report ∈ early := by
    decide +kernel
  obtain ⟨answers, _, _, _, results⟩ := @reports_independent_of_building host other "word" input
    eager late ⟨rfl, rfl⟩ rfl rfl (by decide +kernel) (by decide +kernel) (by decide +kernel)
    (fun report => ⟨covered.1 report, covered.2 report⟩)
  exact ⟨results (by decide +kernel), answers⟩

end Host
end MatcherHost
