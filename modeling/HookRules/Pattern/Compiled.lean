import HookRules.Pattern.Match
import HookRules.Pattern.Reader
import HookRules.Pattern.Size

/-!
Patterns that may be used: read, and not too large to be matched.
-/

set_option autoImplicit false

namespace HookRules.Pattern

def compile (ignoreCase : Bool) (text : String) : Except String Pattern :=
  match read ignoreCase text with
  | .error fault => .error (fault.report text)
  | .ok pattern =>
    if pattern.size ≤ sizeLimit then .ok pattern
    else .error ("Compiled regex exceeds size limit of " ++ toString sizeLimit ++ " bytes.")

end HookRules.Pattern
