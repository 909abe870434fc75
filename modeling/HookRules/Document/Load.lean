import HookRules.Document.Malformed

/-!
Why a rule document cannot be had from its file.
-/

set_option autoImplicit false

namespace HookRules

inductive LoadError
  | unreadable (path cause : String)
  | unusable (path source : String) (error : DocumentError)
  deriving Repr, DecidableEq

def LoadError.message : LoadError → String
  | .unreadable path cause => "Failed to read configuration: " ++ path ++ ": " ++ cause
  | .unusable path source error =>
    path ++ ":\n" ++ error.render source ++ ": " ++ error.message

end HookRules
