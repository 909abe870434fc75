import HookRules.Text.Line
import HookRules.Document.Span

/-!
A message under the line of the document it is about, with a caret at its column and one line of
the document on either side.
-/

set_option autoImplicit false

namespace HookRules.Excerpt

def numbered (number : Nat) (line : String) : String :=
  " " ++ toString number ++ " | " ++ line ++ "\n"

/-- The row below the line at fault: the caret under its column, then the message. -/
def caretRow (column : Nat) (message : String) : String :=
  "   | " ++ String.ofList (List.replicate (column - 1) ' ') ++ "^ " ++ message ++ "\n"

/-- Shows `message` at the line and column of `span`. A line that the source does not have is
named instead of shown. -/
def render (message source : String) (span : Span) : String :=
  let lines := Text.lines source
  let index := span.line - 1
  match lines[index]? with
  | none => message ++ " at line " ++ toString span.line
  | some line =>
    let before := if index = 0 then "" else
      match lines[index - 1]? with
      | some previous => numbered (span.line - 1) previous
      | none => ""
    let after := match lines[index + 1]? with
      | some next => numbered (span.line + 1) next
      | none => ""
    "  --> line " ++ toString span.line ++ ":" ++ toString span.column ++ "\n" ++ "   |\n" ++ before
      ++ numbered span.line line ++ caretRow span.column message ++ after ++ "   |"

end HookRules.Excerpt
