import HookRules.Pattern.Compiled
import HookRules.Rule.Parameter

/-!
Gates: children of a filter that hold a pattern, and let a text pass or not.
-/

set_option autoImplicit false

namespace HookRules

/-- A pattern in an element of its own. With a false sense it lets pass what does not match. -/
structure Gate where
  tag : String
  pattern : Pattern
  sense : Bool
  deriving Repr

namespace Gate

def admits (gate : Gate) (text : String) : Bool := gate.pattern.occursIn text == gate.sense

def ofElement (tag : String) (ignoreCase : Bool) (element : Element) : Except RuleError Gate :=
  match element.text.getD "" with
  | "" => .error (.missingText tag element.span)
  | text =>
    match Pattern.compile ignoreCase text with
    | .error reason => .error (.invalidPattern tag reason element.span)
    | .ok pattern => .ok ⟨tag, pattern, element.switch "sense" true⟩

def find? (element : Element) (tag : String) (ignoreCase : Bool) : Except RuleError (Option Gate) :=
  match element.child? tag with
  | none => .ok none
  | some child => (ofElement tag ignoreCase child).map some

def require (element : Element) (tag : String) (ignoreCase : Bool) : Except RuleError Gate := do
  match ← find? element tag ignoreCase with
  | some gate => return gate
  | none => throw (.missingTag tag element.span)

def requireEither (element : Element) (first second : String) (ignoreFirst ignoreSecond : Bool) :
    Except RuleError (Option Gate × Option Gate) := do
  let left ← find? element first ignoreFirst
  let right ← find? element second ignoreSecond
  if left.isNone && right.isNone then
    throw (.missingTag (first ++ " or " ++ second) element.span)
  return (left, right)

/-- A gate that is not there lets everything pass. -/
def allows (gate : Option Gate) (text : String) : Bool := gate.all fun gate => gate.admits text

end Gate

end HookRules
