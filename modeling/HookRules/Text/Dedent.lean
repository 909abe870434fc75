import HookRules.Text.Blank
import HookRules.Text.Line

/-!
Removing the indentation that a block of lines shares, so that a message can be indented inside
the document that holds it.
-/

set_option autoImplicit false

namespace HookRules.Text

def isLineEnding (c : Char) : Bool := c = '\n' || c = '\r'

def isIndent (c : Char) : Bool := c = ' ' || c = '\t'

def commonStart : List Char → List Char → List Char
  | a :: left, b :: right => if a = b then a :: commonStart left right else []
  | _, _ => []

/-- The indentation shared by every line that is not blank; blank lines have no say. -/
def margin (lines : List (List Char)) : List Char :=
  match (lines.filter fun line => !allBlank line).map (·.takeWhile isIndent) with
  | [] => []
  | indent :: more => more.foldl commonStart indent

/-- The text without the start, or the whole text where it begins otherwise. -/
def dropStart (start text : List Char) : List Char :=
  if start.isPrefixOf text then text.drop start.length else text

/-- One piece without the margin. A blank line keeps its line ending alone. -/
def dedentPiece (margin piece : List Char) : List Char :=
  let body := dropEndWhile isLineEnding piece
  (if allBlank body then [] else dropStart margin body) ++ takeEndWhile isLineEnding piece

def dedentChars (text : List Char) : List Char :=
  let block := text.dropWhile isLineEnding
  (pieces block).flatMap (dedentPiece (margin (lineChars block)))

/-- Drops the line endings at the start and the indentation shared by all lines that are not
blank. Blank lines become empty, and all else stays. -/
def dedent (text : String) : String := String.ofList (dedentChars text.toList)

end HookRules.Text
