/-!
Cutting a command line into words as a shell would: white space divides, quotes and backslashes
protect, and a number sign before a word begins a comment. Nothing is expanded.
-/

set_option autoImplicit false

namespace HookRules.Command

inductive WordState
  | between
  | escapedStart
  | word
  | escaped
  | singleQuoted
  | doubleQuoted
  | doubleEscaped
  | comment
  deriving Repr, DecidableEq

def isDivider (c : Char) : Bool := c = ' ' || c = '\t' || c = '\n'

/-- Reads words. `word` is the word being read, its last character first; no answer means that a
quotation is not closed. -/
def readWords (state : WordState) (word : List Char) : List Char → Option (List String)
  | [] =>
    let finished := String.ofList word.reverse
    match state with
    | .between | .comment => some []
    | .escapedStart => some ["\\"]
    | .word => some [finished]
    | .escaped => some [finished ++ "\\"]
    | .singleQuoted | .doubleQuoted | .doubleEscaped => none
  | c :: rest =>
    let finished := String.ofList word.reverse
    match state with
    | .between =>
      if c = '\'' then readWords .singleQuoted [] rest
      else if c = '"' then readWords .doubleQuoted [] rest
      else if c = '\\' then readWords .escapedStart [] rest
      else if isDivider c then readWords .between [] rest
      else if c = '#' then readWords .comment [] rest
      else readWords .word [c] rest
    | .escapedStart =>
      if c = '\n' then readWords .between [] rest else readWords .word [c] rest
    | .word =>
      if c = '\'' then readWords .singleQuoted word rest
      else if c = '"' then readWords .doubleQuoted word rest
      else if c = '\\' then readWords .escaped word rest
      else if isDivider c then (readWords .between [] rest).map (finished :: ·)
      else readWords .word (c :: word) rest
    | .escaped =>
      if c = '\n' then readWords .word word rest else readWords .word (c :: word) rest
    | .singleQuoted =>
      if c = '\'' then readWords .word word rest else readWords .singleQuoted (c :: word) rest
    | .doubleQuoted =>
      if c = '"' then readWords .word word rest
      else if c = '\\' then readWords .doubleEscaped word rest
      else readWords .doubleQuoted (c :: word) rest
    | .doubleEscaped =>
      if c = '\n' then readWords .doubleQuoted word rest
      else if c = '$' || c = '\x60' || c = '"' || c = '\\' then
        readWords .doubleQuoted (c :: word) rest
      else readWords .doubleQuoted (c :: '\\' :: word) rest
    | .comment =>
      if c = '\n' then readWords .between [] rest else readWords .comment [] rest

def words? (line : String) : Option (List String) := readWords .between [] line.toList

end HookRules.Command
