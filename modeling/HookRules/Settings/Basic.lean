import HookRules.Path

/-!
Settings: which tools are run, how mail is delivered, and where the log goes.
-/

set_option autoImplicit false

namespace HookRules

structure Settings where
  look : String
  client : String
  logLevel : String
  logFile : Option String
  mailTimeout : Nat
  mailPort : Nat
  deriving Repr, DecidableEq, Inhabited

namespace Settings

def defaults : Settings where
  look := "svnlook"
  client := "svn"
  logLevel := "info"
  logFile := none
  mailTimeout := 60
  mailPort := 25

/-- The file that the log of a document goes to: the one that is set, or one beside the
document. -/
def logPath (settings : Settings) (document : String) : String :=
  settings.logFile.getD (Path.withExtension document "log")

end Settings

end HookRules
