import MatcherHost.Tree.Value

/-! How the embedding program turns a class name and a payload into a value. Its code may give
up, and what it says then is part of the report. -/
namespace MatcherHost

/-- A factory that gave up, with what it said. Something other than text may be all it left. -/
structure Abort where
  message : Option String
  deriving DecidableEq, Repr

def Abort.report (abort : Abort) : String := abort.message.getD "non-string panic payload"

abbrev Factory := String → Value → Except Abort Value

namespace Factory

def identity : Factory := fun _ payload => .ok payload

def tagging : Factory := fun className payload => .ok (.object className payload)

/-- A text of the class in capitals, a colon, and the payload's text if it has one. -/
def caption : Factory := fun className payload =>
  .ok (.text (className.map Char.toUpper ++ ":" ++ payload.text?.getD ""))

def refusing (reason : String → Option String) : Factory := fun className _ =>
  .error ⟨reason className⟩

end Factory
end MatcherHost
