import HookRules.Rule.Action
import HookRules.Rule.Filter

/-!
Which elements are rules, and how rules are built from them. The rules that are built in come
first; extensions add further names.
-/

set_option autoImplicit false

namespace HookRules

inductive Rule (World : Type)
  | filter (filter : Filter)
  | action (action : Action)
  /-- A rule of an extension. It evaluates no elements, and says which tokens hold afterwards. -/
  | custom (perform : Setting World → Tokens → Act World (Outcome × Tokens))

abbrev Builder (World : Type) := Element → Except RuleError (Rule World)

/-- The rules that extensions add, those added last first. -/
structure Registry (World : Type) where
  extensions : List (String × Builder World)

namespace Registry

variable {World : Type}

def builtIn? (name : String) : Option (Builder World) :=
  match Filter.build? name, Action.build? name with
  | some build, _ => some fun element => (build element).map .filter
  | none, some build => some fun element => (build element).map .action
  | none, none => none

def standard : Registry World := ⟨[]⟩

/-- Adds a rule. A name that is built in keeps its meaning. -/
def extend (registry : Registry World) (name : String) (build : Builder World) : Registry World :=
  ⟨(name, build) :: registry.extensions⟩

def lookup? (registry : Registry World) (name : String) : Option (Builder World) :=
  builtIn? name <|> registry.extensions.lookup name

def contains (registry : Registry World) (name : String) : Bool := (registry.lookup? name).isSome

end Registry

end HookRules
