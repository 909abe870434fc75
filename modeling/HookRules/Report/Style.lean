import HookRules.Text.Search

/-!
Emphasis on terminals.
-/

set_option autoImplicit false

namespace HookRules

inductive Style
  | fault
  | strong
  | frame
  | faint
  | hint
  | success
  deriving Repr, DecidableEq

namespace Style

def reset : List Char := "\x1b[0m".toList

def opening : Style → List Char
  | .fault => "\x1b[1;31m".toList
  | .strong => "\x1b[1m".toList
  | .frame => "\x1b[1;34m".toList
  | .faint => "\x1b[2m".toList
  | .hint => "\x1b[1;36m".toList
  | .success => "\x1b[1;32m".toList

/-- The text with the style taken up again wherever it would be reset. `skip` characters belong
to a reset already found. -/
def keep (opening : List Char) (skip : Nat) : List Char → List Char
  | [] => []
  | c :: rest =>
    match skip with
    | 0 =>
      if reset.isPrefixOf (c :: rest) then c :: keep opening (reset.length - 1) rest
      else c :: keep opening 0 rest
    | 1 => c :: opening ++ keep opening 0 rest
    | more + 2 => c :: keep opening (more + 1) rest

def paint (coloured : Bool) (style : Style) (text : String) : String :=
  if coloured then
    String.ofList (style.opening ++ keep style.opening 0 text.toList ++ reset)
  else text

end Style

end HookRules
