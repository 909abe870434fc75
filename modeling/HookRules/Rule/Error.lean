import HookRules.Document.Span
import HookRules.Text.Quoted

/-!
Why no rule can be built from an element.
-/

set_option autoImplicit false

namespace HookRules

/-- A mistake in a rule document. Most know their place in it. -/
inductive RuleError
  | missingTag (tag : String) (span : Span)
  | missingAttribute (rule name : String) (span : Span)
  | invalidAttribute (rule name value : String) (span : Span)
  | missingText (tag : String) (span : Span)
  | invalidPattern (tag reason : String) (span : Span)
  | unknownRule (name : String) (span : Span)
  /-- A rule of an extension gave a reason of its own. -/
  | refused (reason : String)
  deriving Repr, DecidableEq

namespace RuleError

def message : RuleError → String
  | .missingTag tag _ => "Required tag missing: " ++ tag
  | .missingAttribute rule name _ =>
    "Required attribute missing: " ++ name ++ " (in " ++ rule ++ ")"
  | .invalidAttribute rule name value _ =>
    "Not a valid " ++ name ++ " for " ++ rule ++ ": " ++ Text.quoted value
  | .missingText tag _ => "Required tag content missing: " ++ tag
  | .invalidPattern tag reason _ => "Invalid pattern in " ++ tag ++ ": " ++ reason
  | .unknownRule name _ => "Unknown action or filter: " ++ name
  | .refused reason => reason

def span? : RuleError → Option Span
  | .missingTag _ span | .missingAttribute _ _ span | .invalidAttribute _ _ _ span
  | .missingText _ span | .invalidPattern _ _ span | .unknownRule _ span => some span
  | .refused _ => none

end RuleError

end HookRules
