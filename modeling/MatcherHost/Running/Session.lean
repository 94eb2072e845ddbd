import MatcherHost.Building.Locals
import MatcherHost.Contract.Signal
import MatcherHost.Reporting.Event

/-! The state of one run of a matcher. Signals arrive one at a time; the first one that is
refused closes the session, and a closed session ignores everything until the matcher returns. -/
namespace MatcherHost

structure Session where
  input : Bytes
  output : Stack := []
  locals : Stack := []
  failures : Failures := {}
  /-- Why the session was closed. -/
  violation : Option Violation := none

structure Setup where
  factory : Factory
  tracing : Bool

/-- What a call did: the state it left, the answer to a match, and why it was refused. -/
structure Reply where
  session : Session
  answer : Option Nat := none
  refusal : Option Violation := none

/-- What a signal came to. Only a match is ever answered. -/
structure Response where
  session : Session
  answer : Option Nat := none
  events : List Event := []

structure Service where
  session : Session
  answers : List (Option Nat) := []
  events : List Event := []

inductive Outcome
  | matched (value : Value)
  | failed (failures : Failures)
  | violated (violation : Violation)

namespace Session

def closed (session : Session) : Bool := session.violation.isSome

def close (session : Session) (violation : Violation) : Session :=
  { session with violation := some violation }

def onOutput (session : Session) (effect : Effect Violation Stack) : Reply :=
  ⟨{ session with output := effect.state }, none, effect.refusal⟩

def onStacks (session : Session) (effect : Effect Violation (Stack × Stack)) : Reply :=
  ⟨{ session with output := effect.state.1, locals := effect.state.2 }, none, effect.refusal⟩

/-- Takes the top value and compares its bytes with the input from `position` on. The answer is
where they end. -/
def matchAt (session : Session) (position : Nat) : Reply :=
  match session.output.take .matchAt with
  | .error violation => ⟨session, none, some violation⟩
  | .ok (value, rest) =>
    let after := { session with output := rest }
    match value.bytes? with
    | none => ⟨after, none, some (.wrongKind .matchAt "range or text" value.kind)⟩
    | some bytes =>
      if bytes.isPrefixOf (session.input.drop position) then
        ⟨after, some (position + bytes.length), none⟩
      else ⟨after, none, none⟩

def apply (factory : Factory) (session : Session) : Call → Reply
  | .pushEmpty => session.onOutput (.done (.empty :: session.output))
  | .pushInputRange start stop =>
    session.onOutput (session.output.pushRange session.input start stop)
  | .pushBoolean flag => session.onOutput (.done (.boolean flag :: session.output))
  | .pushString content => session.onOutput (.done (.text content :: session.output))
  | .pushArray wrapTop => session.onOutput (session.output.pushArray wrapTop)
  | .appendToArray => session.onOutput session.output.appendToArray
  | .makeLabel label => session.onOutput (session.output.makeLabel label)
  | .mergeLabels count => session.onOutput (session.output.mergeLabels count)
  | .makeObject className =>
    session.onOutput ((session.output.makeObject factory className).mapRefusal Stack.NotMade.blame)
  | .pop => session.onOutput session.output.pop
  | .localsPush count => session.onStacks (Locals.push count session.output session.locals)
  | .localsLoad index => session.onStacks (Locals.load index session.output session.locals)
  | .localsPop count => session.onStacks (Locals.pop count session.output session.locals)
  | .matchAt position => session.matchAt position
  | .traceEnter _ | .traceLeave .. => ⟨session, none, none⟩
  | .traceFailure position reason isExpectation =>
    ⟨{ session with failures := session.failures.record position reason isExpectation }, none, none⟩
  | .makeValue => ⟨session, none, some (.unsupported .makeValue)⟩
  | .setAsSource => ⟨session, none, some (.unsupported .setAsSource)⟩
  | .readFromSource => ⟨session, none, some (.unsupported .readFromSource)⟩

/-- What tracing notes of a call before it is known to succeed. -/
def noted (tracing : Bool) (call : Call) : List Event :=
  if tracing then
    .callback call :: match call with
      | .traceEnter rule => [.entering rule]
      | .traceLeave rule successful => [.leaving rule successful]
      | _ => []
  else []

/-- Whether a signal is passed over: the session is closed, or nobody observes the hook. -/
def ignores (setup : Setup) (session : Session) (signal : Signal) : Bool :=
  session.closed || signal.isTraceHook && !setup.tracing

def respond (setup : Setup) (session : Session) (signal : Signal) : Response :=
  if session.ignores setup signal then { session }
  else
    match signal.decode session.input.length with
    | .error violation => ⟨session.close violation, none, [.refused violation]⟩
    | .ok call =>
      let reply := session.apply setup.factory call
      match reply.refusal with
      | none => ⟨reply.session, reply.answer, noted setup.tracing call⟩
      | some violation =>
        ⟨reply.session.close violation, none, noted setup.tracing call ++ [.refused violation]⟩

/-- Serves signals in order, whatever the answers. -/
def serve (setup : Setup) : List Signal → Session → Service
  | [], session => { session }
  | signal :: rest, session =>
    let first := session.respond setup signal
    let later := serve setup rest first.session
    ⟨later.session, first.answer :: later.answers, first.events ++ later.events⟩

/-- Ends the run: a violation outweighs the status, a status of zero is a failure, and anything
else is a match that must have left one value. -/
def conclude (session : Session) (status : Int) : Outcome :=
  match session.violation with
  | some violation => .violated violation
  | none =>
    if status = 0 then .failed session.failures
    else
      match session.output.result with
      | .ok value => .matched value
      | .error violation => .violated violation

end Session
end MatcherHost
