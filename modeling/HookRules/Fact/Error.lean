import HookRules.Text.Quoted

/-!
Queries to a repository, and why a fact about it cannot be had.
-/

set_option autoImplicit false

namespace HookRules

structure Query where
  program : String
  arguments : List String
  deriving Repr, DecidableEq, Inhabited

/-- The query in one line, for logs and messages. Words are not quoted. -/
def Query.line (query : Query) : String := " ".intercalate (query.program :: query.arguments)

/-- What a finished program leaves behind. There is no code where a signal ended it. -/
structure Output where
  code : Option Int
  stdout : String
  stderr : String
  deriving Repr, DecidableEq, Inhabited

def Output.succeeded (output : Output) : Bool := output.code == some 0

inductive FactError
  | unavailable (fact : String)
  /-- A query ended with another code than zero, or was killed. -/
  | queryFailed (query : Query) (code : Option Int) (stderr : String)
  | notStarted (program cause : String)
  /-- A source of facts gave a reason of its own. -/
  | refused (reason : String)
  deriving Repr, DecidableEq

def FactError.message : FactError → String
  | .unavailable fact => fact ++ " is not available for this event"
  | .queryFailed query code stderr =>
    let ending := match code with
      | some code => " failed with exit code " ++ toString code
      | none => " was terminated by a signal"
    "`" ++ query.line ++ "`" ++ ending ++ (if stderr.isEmpty then "" else ": " ++ stderr)
  | .notStarted program cause => "Failed to execute " ++ program ++ ": " ++ cause
  | .refused reason => reason

end HookRules
