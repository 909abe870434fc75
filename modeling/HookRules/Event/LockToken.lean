import HookRules.Text.Blank
import HookRules.Text.Line
import HookRules.Text.Search

/-!
The lock tokens that a commit presents: a header line, then on each line a path, a bar, and the
token.
-/

set_option autoImplicit false

namespace HookRules

/-- A token that shows its holder may change a locked path. -/
structure LockToken where
  path : String
  token : String
  deriving Repr, DecidableEq, Inhabited

namespace LockToken

def header : List Char := "LOCK-TOKENS:".toList

/-- One line; the first bar divides it. White space around the line does not count, and a line
without a bar holds no token. -/
def ofLine? (line : List Char) : Option LockToken :=
  let line := Text.trimChars line
  if line = [] ∨ line = header then none
  else (Text.splitAtFirst '|' line).map fun (path, token) =>
    ⟨String.ofList path, String.ofList token⟩

def readAll (input : String) : List LockToken :=
  (Text.lineChars input.toList).filterMap ofLine?

end LockToken

end HookRules
