/-!
Paths as texts of names with slashes between them. Slashes at the end and steps that stay in
place do not count; nothing here looks at what the paths lead to.
-/

set_option autoImplicit false

namespace HookRules.Path

/-- The reversed path without slashes and steps in place at its end. A path that is a single
slash or begins with a step in place keeps it. -/
def dropTail : List Char → List Char
  | ['/'] => ['/']
  | '/' :: rest => dropTail rest
  | '.' :: '/' :: rest => dropTail ('/' :: rest)
  | path => path

def dropName (path : List Char) : List Char := dropTail (path.dropWhile (· ≠ '/'))

def lastName (path : List Char) : List Char := path.takeWhile (· ≠ '/')

def parent? (path : String) : Option String :=
  match dropTail path.toList.reverse with
  | [] | ['/'] => none
  | path => some (String.ofList (dropName path).reverse)

/-- The path of `name` seen from `base`. A `name` that begins at the root stands alone. -/
def join (base name : String) : String :=
  if name.startsWith "/" || base.isEmpty then name
  else if base.endsWith "/" then base ++ name
  else base ++ "/" ++ name

/-- The reversed name without its last dot and what follows it. A name that begins with its only
dot keeps it. -/
def dropExtension (name : List Char) : List Char :=
  match name.dropWhile (· ≠ '.') with
  | [] | ['.'] => name
  | _ :: stem => stem

/-- The path with the extension of its last name replaced. A path that ends in no name is left
alone. -/
def withExtension (path extension : String) : String :=
  let whole := dropTail path.toList.reverse
  let name := lastName whole
  if name = [] ∨ name = ['.'] ∨ name = ['.', '.'] then path
  else
    String.ofList (dropExtension name ++ whole.drop name.length).reverse ++ "." ++ extension

end HookRules.Path
