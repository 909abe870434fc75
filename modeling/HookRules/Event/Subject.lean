/-!
What a hook asks its repository about, and how the repository's tools are told.
-/

set_option autoImplicit false

namespace HookRules

/-- The state of the repository that facts are read from. -/
inductive Subject
  | youngest
  | revision (number : Nat)
  | transaction (name : String)
  deriving Repr, DecidableEq, Inhabited

namespace Subject

def qualifier : Subject → List String
  | .youngest => []
  | .revision number => ["-r", toString number]
  | .transaction name => ["-t", name]

def revision? : Subject → Option Nat
  | .revision number => some number
  | _ => none

def transaction? : Subject → Option String
  | .transaction name => some name
  | _ => none

end Subject

/-- The address of a repository by its path. Backslashes become slashes, and there are three
slashes before the path in any case. -/
def repositoryUrl (path : String) : String :=
  let path := path.map fun c => if c = '\\' then '/' else c
  if path.startsWith "/" then "file://" ++ path else "file:///" ++ path

end HookRules
