import MatcherHost.Running.Session

/-! Matchers as values: a matcher either returns a status or sends a signal and goes on with the
answer. -/
namespace MatcherHost

inductive Matcher
  | done (status : Int)
  | send (signal : Signal) (next : Option Nat → Matcher)

abbrev EntryPoint := Bytes → Matcher

structure Run where
  session : Session
  status : Int
  events : List Event

namespace Matcher

/-- Sends signals in order, whatever the answers, and goes on as `next`. -/
def sending (signals : List Signal) (next : Matcher) : Matcher :=
  signals.foldr (fun signal rest => .send signal fun _ => rest) next

def run (setup : Setup) : Matcher → Session → Run
  | .done status, session => ⟨session, status, []⟩
  | .send signal next, session =>
    let response := session.respond setup signal
    let rest := run setup (next response.answer) response.session
    { rest with events := response.events ++ rest.events }

/-- A matcher that does not look at answers is served like a list of signals. -/
theorem run_sending (setup : Setup) (signals : List Signal) (next : Matcher) (session : Session) :
    (sending signals next).run setup session =
      let service := session.serve setup signals
      let rest := next.run setup service.session
      { rest with events := service.events ++ rest.events } := by
  induction signals generalizing session with
  | nil => simp [sending, Session.serve]
  | cons signal rest ih =>
    have step := ih (session.respond setup signal).session
    simp only [sending, List.foldr_cons, run, Session.serve] at step ⊢
    simp [step]

end Matcher
end MatcherHost
