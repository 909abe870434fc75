/-!
Commands of a shell.
-/

set_option autoImplicit false

namespace HookRules.Shell

/-- A part of a word. What is quoted is not cut at white space. -/
inductive WordPart
  | text (chars : List Char) (quoted : Bool)
  | parameter (name : String) (quoted : Bool)
  | output (source : List Char) (quoted : Bool)
  deriving Repr, DecidableEq, Inhabited

abbrev Word := List WordPart

inductive RedirectionKind
  | write
  | append
  | read
  | same
  deriving Repr, DecidableEq

structure Redirection where
  stream : Nat
  kind : RedirectionKind
  target : Word
  deriving Repr

inductive Command
  | nothing
  | simple (assignments : List (String × Word)) (words : List Word)
      (redirections : List Redirection)
  | sequence (first second : Command)
  | both (first second : Command)
  | either (first second : Command)
  | negated (body : Command)
  | pipe (first second : Command)
  /-- A body with streams of its own, in a process of its own if `apart`. -/
  | group (apart : Bool) (body : Command) (redirections : List Redirection)
  /-- A body for each word; without words, for each argument. -/
  | forEach (name : String) (words : Option (List Word)) (body : Command)
  | branch (condition yes no : Command)
  | repeatWhile (expected : Bool) (condition body : Command)
  | clause (word : Word) (patterns : List Word) (body next : Command)
  deriving Repr, Inhabited

end HookRules.Shell
