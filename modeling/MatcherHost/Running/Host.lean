import MatcherHost.Config
import MatcherHost.Rules.Registry
import MatcherHost.Running.Matcher

/-! Running one rule over one input. -/
namespace MatcherHost

structure Host (ε : Type) where
  resolve : String → Except HostError ε
  config : Config := {}
  factory : Factory := Factory.identity

structure Parse where
  events : List Event
  result : Except HostError Value

namespace Host

variable {ε : Type}

def setup (host : Host ε) : Setup := ⟨host.factory, host.config.traceCallbacks⟩

/-- The result of a run and the event that closes it. A broken contract has been noted when it
was found, or only shows in the result. -/
def conclude (host : Host ε) (rule : String) (session : Session) (status : Int) : Parse :=
  match session.conclude status with
  | .matched value => ⟨[.matched rule value.kind], .ok value⟩
  | .failed failures =>
    let diagnostic := Diagnostic.ofFailures host.config.contextBytes session.input failures
    ⟨[.unmatched rule diagnostic], .error (.unmatched diagnostic)⟩
  | .violated violation => ⟨[], .error (.contract rule violation)⟩

def runMatcher (host : Host ε) (rule : String) (input : Bytes) (matcher : Matcher) : Parse :=
  let run := matcher.run host.setup { input }
  let parse := host.conclude rule run.session run.status
  { parse with events := .invoking rule input.length :: run.events ++ parse.events }

/-- Matches `rule` against the whole of `input`. Nothing is noted of a rule that is not found. -/
def parse (host : Host EntryPoint) (rule : String) (input : Bytes) : Parse :=
  match host.resolve rule with
  | .error error => ⟨[], .error error⟩
  | .ok entry => host.runMatcher rule input (entry input)

def inspectEmpty (config : Config) : String :=
  "Parser \x7b engine: StaticEngine \x7b rules: \x7b\x7d \x7d, config: " ++ config.inspect
    ++ ", .. \x7d"

end Host
end MatcherHost
