import MatcherHost.Running.Host

/-! Rules written down as steps, for rehearsing a host without compiled matchers. Running one
reports every step on its own. -/
namespace MatcherHost

namespace Script

inductive Step
  /-- Sends a signal. If it is a match that is not answered, the rule may return at once. -/
  | send (signal : Signal) (otherwise : Option Int)
  /-- Sends a signal outside of any session, where nobody serves it. -/
  | stray (signal : Signal) (otherwise : Option Int)
  /-- Returns a status at once. -/
  | leave (status : Int)
  /-- Parses another input with the same host while this run waits. -/
  | nested (rule : String) (input : Bytes)

/-- The step taken outside of any session. Only signals depend on the session they are sent in. -/
def Step.detach : Step → Step
  | .send signal otherwise => .stray signal otherwise
  | step => step

end Script

structure Script where
  steps : List Script.Step
  status : Int

namespace Script

mutual

/-- What a step came to. `answer` is there for matches only. -/
inductive Report
  | mk (events : List Event) (answer : Option (Option Nat)) (nested : Option Rehearsal)

/-- What a whole run came to. `entered` tells whether the rule was found. -/
inductive Rehearsal
  | mk (input : Bytes) (before : List Event) (entered : Bool) (steps : List Report)
    (after : List Event) (result : Except HostError Value)

end

def shown (signal : Signal) (answer : Option Nat) : Option (Option Nat) :=
  match signal with
  | .matchAt _ => some answer
  | _ => none

/-- The status to return early with after a signal: that of a match without an answer. -/
def earlyReturn (signal : Signal) (answer : Option Nat) (otherwise : Option Int) : Option Int :=
  match signal, answer with
  | .matchAt _, none => otherwise
  | _, _ => none

structure Performance where
  reports : List Report
  session : Session
  status : Int

def Performance.after (report : Report) (performance : Performance) : Performance :=
  { performance with reports := report :: performance.reports }

def perform (setup : Setup) (nest : String → Bytes → Option Rehearsal) (status : Int) :
    List Step → Session → Performance
  | [], session => ⟨[], session, status⟩
  | .send signal otherwise :: rest, session =>
    let response := session.respond setup signal
    let report := .mk response.events (shown signal response.answer) none
    match earlyReturn signal response.answer otherwise with
    | some early => ⟨[report], response.session, early⟩
    | none => (perform setup nest status rest response.session).after report
  | .stray signal otherwise :: rest, session =>
    let report := .mk [] (shown signal none) none
    match earlyReturn signal none otherwise with
    | some early => ⟨[report], session, early⟩
    | none => (perform setup nest status rest session).after report
  | .leave early :: _, session => ⟨[.mk [] none none], session, early⟩
  | .nested rule input :: rest, session =>
    (perform setup nest status rest session).after (.mk [] none (nest rule input))

def rehearseWithin (host : Host Script) : Nat → String → Bytes → Option Rehearsal
  | 0, _, _ => none
  | depth + 1, rule, input =>
    match host.resolve rule with
    | .error error => some (.mk input [] false [] [] (.error error))
    | .ok script =>
      let performance :=
        perform host.setup (rehearseWithin host depth) script.status script.steps { input }
      let parse := host.conclude rule performance.session performance.status
      some (.mk input [.invoking rule input.length] true performance.reports parse.events
        parse.result)

/-- How many parses the scripts can nest without a rule being entered again on the same input:
one for each place that starts one, and the outermost. A script runs alike on equal inputs, so
deeper nesting would never end. -/
def depthBound (registry : Registry Script) : Nat :=
  let isNested : Step → Bool
    | .nested .. => true
    | _ => false
  (registry.rules.flatMap fun entry => entry.2.steps).countP isNested + 1

def rehearse (registry : Registry Script) (config : Config) (factory : Factory) (rule : String)
    (input : Bytes) : Option Rehearsal :=
  rehearseWithin ⟨registry.resolve, config, factory⟩ (depthBound registry) rule input

end Script
end MatcherHost
