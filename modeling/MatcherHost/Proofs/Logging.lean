import MatcherHost.Proofs.FirstRefusal
import MatcherHost.Proofs.Grounds

/-! The log of a parse. It opens with the invocation and closes with what came of it; in between,
tracing tells of each signal up to the first that is refused, and the refusal is told in any case.
A log warns once at most, and exactly when the parse ends with a refused signal's violation. -/
namespace MatcherHost

namespace Signal

def announced (length : Nat) (signal : Signal) : List Event :=
  match signal.decode length with
  | .ok call => [.callback call]
  | .error _ => []

def passage (length : Nat) (signal : Signal) : List Event :=
  match signal.decode length with
  | .ok (.traceEnter rule) => [.entering rule]
  | .ok (.traceLeave rule successful) => [.leaving rule successful]
  | _ => []

def transcript (length : Nat) (signal : Signal) : List Event :=
  signal.announced length ++ signal.passage length

theorem transcript_debug {length : Nat} {signal : Signal} {event : Event}
    (told : event ∈ signal.transcript length) : event.level = .debug := by
  unfold transcript announced passage at told
  cases decoded : signal.decode length with
  | error => simp [decoded] at told
  | ok call =>
    rw [decoded] at told
    rcases List.mem_append.mp told with first | second
    · obtain rfl := List.mem_singleton.mp first
      rfl
    · split at second
      · obtain rfl := List.mem_singleton.mp second
        rfl
      · obtain rfl := List.mem_singleton.mp second
        rfl
      · contradiction

end Signal

namespace Session

variable {setup : Setup} {session : Session} {signal : Signal} {signals : List Signal}
  {index : Nat} {violation : Violation}

/-- What the log of a run says of a signal that is not refused. -/
def told (tracing : Bool) (length : Nat) (signal : Signal) : List Event :=
  if tracing then signal.transcript length else []

theorem flatMap_told (tracing : Bool) (length : Nat) (signals : List Signal) :
    signals.flatMap (told tracing length) =
      if tracing then signals.flatMap (Signal.transcript length) else [] := by
  cases tracing with
  | false => simp [told]
  | true => rfl

theorem noted_eq_told {call : Call} (decoded : signal.decode session.input.length = .ok call) :
    noted setup.tracing call = told setup.tracing session.input.length signal := by
  unfold noted told Signal.transcript Signal.announced Signal.passage
  rw [decoded]
  cases call <;> rfl

theorem respond_events_of_accepted (opened : session.violation = none)
    (accepted : session.refusal? setup signal = none) :
    (session.respond setup signal).events = told setup.tracing session.input.length signal := by
  rcases respond_cases accepted with ⟨ignored, same⟩ | ⟨call, _, decoded, _, same⟩
  · have silent : setup.tracing = false := by
      simp only [ignores, closed, opened, Option.isSome_none, Bool.false_or, Bool.and_eq_true,
        Bool.not_eq_true'] at ignored
      exact ignored.2
    rw [same, silent]
    rfl
  · rw [same]
    exact noted_eq_told decoded

/-- A refused signal is announced if it reached the session, and then complained of. A call that is
refused there is never a hook. -/
theorem respond_events_of_refused (refused : session.refusal? setup signal = some violation) :
    (session.respond setup signal).events =
      (if setup.tracing then signal.announced session.input.length else []) ++
        [.refused violation] := by
  unfold refusal? at refused
  unfold respond Signal.announced
  split at refused
  · contradiction
  · rename_i attended
    rw [if_neg attended]
    cases decoded : signal.decode session.input.length with
    | error cause =>
      rw [decoded] at refused
      obtain rfl := Option.some.inj refused
      simp
    | ok call =>
      simp only [decoded] at refused
      have plain : noted setup.tracing call = if setup.tracing then [.callback call] else [] := by
        cases call with
        | traceEnter | traceLeave => contradiction
        | _ => rfl
      simp only [refused, plain]

theorem serve_events_of_clean (clean : (session.after setup signals).violation = none) :
    (session.serve setup signals).events =
      signals.flatMap (told setup.tracing session.input.length) := by
  induction signals generalizing session with
  | nil => rfl
  | cons signal rest ih =>
    obtain ⟨opened, accepted⟩ := accepted_of_after_cons clean
    rw [after_cons] at clean
    have later := ih clean
    rw [respond_input] at later
    simp only [serve, List.flatMap_cons, respond_events_of_accepted opened accepted, later]

theorem RefusedAt.serve_events (refused : RefusedAt setup session signals index violation)
    (sent : signals[index]? = some signal) :
    (session.serve setup signals).events =
      (if setup.tracing then
        (signals.take index).flatMap (Signal.transcript session.input.length) ++
          signal.announced session.input.length
      else []) ++ [.refused violation] := by
  have stopped := congrArg Service.events refused.serve_eq
  obtain ⟨_, sentToo, cause⟩ := refused
  obtain rfl := Option.some.inj (sent.symm.trans sentToo)
  have before := serve_events_of_clean (open_of_refused cause)
  have last := respond_events_of_refused cause
  rw [after_input] at last
  rw [stopped, List.take_add_one, sent, Option.toList_some, serve_append]
  calc (session.serve setup (signals.take index)).events ++
        (((session.after setup (signals.take index)).respond setup signal).events ++ [])
      = (signals.take index).flatMap (told setup.tracing session.input.length) ++
          ((if setup.tracing then signal.announced session.input.length else []) ++
            [.refused violation]) := by rw [before, last, List.append_nil]
    _ = _ := by
      rw [flatMap_told, ← List.append_assoc]
      split <;> rfl

end Session

namespace Host

open Session

variable {host : Host EntryPoint} {rule : String} {input : Bytes} {entry : EntryPoint}

/-- The event that a result closes the log with. A broken contract closes it with none. -/
def closing (rule : String) : Except HostError Value → List Event
  | .ok value => [.matched rule value.kind]
  | .error (.unmatched diagnostic) => [.unmatched rule diagnostic]
  | .error _ => []

theorem conclude_events (host : Host EntryPoint) (session : Session) (status : Int) :
    (host.conclude rule session status).events =
      closing rule (host.conclude rule session status).result := by
  unfold conclude
  split <;> rfl

theorem closing_debug {result : Except HostError Value} {event : Event}
    (closes : event ∈ closing rule result) : event.level = .debug := by
  unfold closing at closes
  split at closes
  · obtain rfl := List.mem_singleton.mp closes
    rfl
  · obtain rfl := List.mem_singleton.mp closes
    rfl
  · contradiction

def warnings (events : List Event) : Nat := events.countP fun event => event.level = .warn

theorem warnings_eq_zero {events : List Event} (plain : ∀ event ∈ events, event.level = .debug) :
    warnings events = 0 := by
  refine List.countP_eq_zero.mpr fun event member => ?_
  simp [plain event member]

theorem warnings_append (first second : List Event) :
    warnings (first ++ second) = warnings first + warnings second := List.countP_append

theorem warnings_log (rule : String) (length : Nat) (body : List Event)
    (result : Except HostError Value) :
    warnings (.invoking rule length :: body ++ closing rule result) = warnings body := by
  have silent : warnings (closing rule result) = 0 := warnings_eq_zero fun _ => closing_debug
  rw [warnings_append, silent, Nat.add_zero]
  exact List.countP_cons_of_neg (by simp [Event.level])

theorem warnings_transcript (length : Nat) (signals : List Signal) :
    warnings (signals.flatMap (Signal.transcript length)) = 0 := by
  refine warnings_eq_zero fun event told => ?_
  obtain ⟨signal, _, member⟩ := List.mem_flatMap.mp told
  exact Signal.transcript_debug member

theorem parse_events (found : host.resolve rule = .ok entry) :
    (host.parse rule input).events =
      .invoking rule input.length ::
        (Session.serve host.setup ((entry input).issued host.setup { input }) { input }).events ++
        closing rule (host.parse rule input).result := by
  rw [parse_found found, runMatcher, Matcher.run_events, conclude_events]

/-- A violation that is found when the run is over is not one of a signal's. -/
theorem unbalanced_of_clean (found : host.resolve rule = .ok entry) {violation : Violation}
    (clean : (Session.after host.setup ((entry input).issued host.setup { input })
      { input }).violation = none)
    (broken : (host.parse rule input).result = .error (.contract rule violation)) :
    ∃ remaining, violation = .unbalancedResult remaining := by
  rw [parse_result found, host.conclude_open clean] at broken
  split at broken
  · nomatch broken
  · split at broken
    · nomatch broken
    · obtain rfl : _ = violation := by simpa using broken
      exact ⟨_, rfl⟩

/-- The log of a parse: the invocation, a body and the closing event. While tracing, the body tells
of every signal before the first that is refused and announces that one; in any case it warns of
the refusal. So there is one warning or none, and one just if a signal's violation is the result. -/
theorem parse_log (found : host.resolve rule = .ok entry) :
    let signals := (entry input).issued host.setup { input }
    let parse := host.parse rule input
    (∃ body, parse.events = .invoking rule input.length :: body ++ closing rule parse.result ∧
      (((∀ index violation, ¬RefusedAt host.setup { input } signals index violation) ∧
        body = if host.config.traceCallbacks then
            signals.flatMap (Signal.transcript input.length)
          else []) ∨
      ∃ index signal violation, RefusedAt host.setup { input } signals index violation ∧
        signals[index]? = some signal ∧
        body = (if host.config.traceCallbacks then
            (signals.take index).flatMap (Signal.transcript input.length) ++
              signal.announced input.length
          else []) ++ [.refused violation])) ∧
    warnings parse.events ≤ 1 ∧
    (warnings parse.events = 1 ↔ ∃ violation, parse.result = .error (.contract rule violation) ∧
      ∀ remaining, violation ≠ .unbalancedResult remaining) := by
  intro signals parse
  have events : parse.events = _ := parse_events found
  cases recorded : (Session.after host.setup signals { input }).violation with
  | none =>
    have body := serve_events_of_clean recorded
    rw [flatMap_told] at body
    have quiet : warnings parse.events = 0 := by
      rw [events, warnings_log, body]
      split
      · exact warnings_transcript _ _
      · rfl
    refine ⟨⟨_, events, .inl ⟨not_refusedAt_of_clean recorded, body⟩⟩, by omega, by omega, ?_⟩
    rintro ⟨violation, broken, balanced⟩
    obtain ⟨remaining, unbalanced⟩ := unbalanced_of_clean found recorded broken
    exact absurd unbalanced (balanced remaining)
  | some violation =>
    obtain ⟨index, refused⟩ := exists_refusedAt rfl recorded
    have ⟨signal, sent, cause⟩ := refused
    have body := refused.serve_events sent
    have warned : warnings parse.events = 1 := by
      have announced : warnings (signal.announced input.length) = 0 :=
        warnings_eq_zero fun event member =>
          Signal.transcript_debug (List.mem_append_left _ member)
      rw [events, warnings_log, body, warnings_append]
      split
      · rw [warnings_append, warnings_transcript, announced]
        rfl
      · rfl
    have broken : parse.result = .error (.contract rule violation) := by
      rw [show parse = _ from parse_of_refused found refused]
    refine ⟨⟨_, events, .inr ⟨index, signal, violation, refused, sent, body⟩⟩, by omega, ?_⟩
    refine iff_of_true warned ⟨violation, broken, ?_⟩
    rintro remaining rfl
    exact nomatch refusal?_blames cause

def stumbling : EntryPoint := fun _ =>
  .sending [.traceEnter (some [97]), .pushEmpty, .appendToArray, .pop] (.done 1)

theorem parse_log_stumbling :
    let host : Host EntryPoint :=
      ⟨fun _ => .ok stumbling, { traceCallbacks := true }, .identity⟩
    (host.parse "a" []).events =
      [.invoking "a" 0, .callback (.traceEnter "a"), .entering "a", .callback .pushEmpty,
        .callback .appendToArray, .refused (.outputUnderflow .appendToArray 2 1)] ∧
    warnings (host.parse "a" []).events = 1 := by
  intro host
  have broken : (host.parse "a" []).result =
      .error (.contract "a" (.outputUnderflow .appendToArray 2 1)) := by rfl
  obtain ⟨_, _, warned⟩ := @parse_log host "a" [] stumbling rfl
  exact ⟨by decide +kernel, warned.mpr ⟨_, broken, nofun⟩⟩

end Host
end MatcherHost
