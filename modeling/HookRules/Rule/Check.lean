import HookRules.Rule.Registry

/-!
Finding the mistakes of a document without evaluating it: every element that is a rule is built,
wherever it stands.
-/

set_option autoImplicit false

namespace HookRules

structure Problem where
  span : Span
  element : String
  error : RuleError
  deriving Repr, DecidableEq

namespace Problem

def message (problem : Problem) : String := problem.error.message

def describe (problem : Problem) : String :=
  problem.span.describe ++ ": " ++ problem.element ++ ": " ++ problem.message

def ofError (element : Element) (error : RuleError) : Problem :=
  ⟨error.span?.getD element.span, element.name, error⟩

end Problem

namespace Registry

variable {World : Type}

def problemAt? (registry : Registry World) (element : Element) : Option Problem :=
  match registry.lookup? element.name with
  | none => none
  | some build =>
    match build element with
    | .ok _ => none
    | .error error => some (.ofError element error)

def rootProblem? (registry : Registry World) (root : Element) : Option Problem :=
  if registry.contains root.name then none
  else some (.ofError root (.unknownRule root.name root.span))

/-- All mistakes of a document, in document order, the root's name first. -/
def check (registry : Registry World) (root : Element) : List Problem :=
  (registry.rootProblem? root).toList ++ root.nodes.filterMap registry.problemAt?

end Registry

end HookRules
