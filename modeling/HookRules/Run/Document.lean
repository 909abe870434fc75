import HookRules.Document.Load
import HookRules.Document.Reader
import HookRules.Fact.Repository
import HookRules.Run.Evaluation

/-!
Evaluating the document of a file on some occasion.
-/

set_option autoImplicit false

namespace HookRules

variable {World : Type}

def Element.ofFile (path source : String) : Except LoadError Element :=
  (Element.parse source).mapError (.unusable path source)

def Host.load (host : Host World) (path : String) : StateM World (Except LoadError Element) := do
  match ← host.read path with
  | .error cause => return .error (.unreadable path cause)
  | .ok source => return Element.ofFile path source

def Event.place (event : Event) (settings : Settings) : Repository where
  path := event.repository
  subject := event.subject
  user := event.user
  look := settings.look
  client := settings.client

namespace Evaluation

/-- Evaluates the document of a file; the answer is the code to end with. A document that can not
be used is an internal failure. The environment gives tokens that the event may hide. -/
def runFile [Scribe World] (setting : Setting World) (path : String) (environment : Tokens) :
    Step World Int := do
  match ← Step.ofWorld (setting.host.load path) with
  | .error error =>
    Step.note (.documentUnusable error path)
    tellInternal setting
    return Outcome.internalCode
  | .ok root =>
    let event := setting.event
    Step.note (.evaluationBegan event.kind event.repository path)
    let (outcome, _) ← run setting Registry.standard root (event.initialTokens environment)
    Step.note (.evaluationEnded event.kind outcome.exitCode)
    return outcome.exitCode

end Evaluation

end HookRules
