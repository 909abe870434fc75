import HookRules.Document.Span
import HookRules.Report.Style
import HookRules.Text.Line

/-!
Messages about a rule document for someone who edits it, with the lines they are about.
-/

set_option autoImplicit false

namespace HookRules

structure Diagnostic where
  message : String
  span : Option Span
  file : Option String
  source : Option String
  help : Option String
  deriving Repr, DecidableEq, Inhabited

namespace Diagnostic

def plain (message : String) : Diagnostic := ⟨message, none, none, none, none⟩

def alignRight (width : Nat) (text : String) : String :=
  String.ofList (List.replicate (width - text.length) ' ') ++ text

/-- A line of the source behind its number. The line at fault has a caret under it. -/
def row (coloured : Bool) (width fault column : Nat) (entry : Nat × String) : String :=
  let (number, line) := entry
  let bar := Style.frame.paint coloured "|"
  let numbered := alignRight width (toString number)
  if number = fault then
    Style.frame.paint coloured numbered ++ " " ++ bar ++ " " ++ line ++ "\n"
      ++ alignRight width "" ++ " " ++ bar ++ " " ++ String.ofList (List.replicate (column - 1) ' ')
      ++ Style.fault.paint coloured "^" ++ "\n"
  else Style.faint.paint coloured numbered ++ " " ++ bar ++ " " ++ line ++ "\n"

/-- The line at fault between its neighbours. There is nothing to show of a line that the source
does not have. -/
def excerpt (coloured : Bool) (source : String) (span : Span) : String :=
  let lines := Text.lines source
  let index := span.line - 1
  if lines.length ≤ index then ""
  else
    let first := index - 1
    let last := min (index + 2) lines.length
    let shown := (lines.take last).drop first
    let entries := (List.range shown.length).map (fun offset => first + offset + 1) |>.zip shown
    String.join (entries.map (row coloured (toString last).length (index + 1) span.column))

def display (coloured : Bool) (diagnostic : Diagnostic) : String :=
  let place := match diagnostic.file, diagnostic.span with
    | some file, some span =>
      "  " ++ Style.frame.paint coloured "-->" ++ " " ++ file ++ ":" ++ toString span.line ++ ":"
        ++ toString span.column ++ "\n"
    | _, _ => ""
  let lines := match diagnostic.source, diagnostic.span with
    | some source, some span => excerpt coloured source span
    | _, _ => ""
  let help := match diagnostic.help with
    | some help => Style.hint.paint coloured "help:" ++ " " ++ help ++ "\n"
    | none => ""
  Style.fault.paint coloured "error:" ++ " " ++ Style.strong.paint coloured diagnostic.message
    ++ "\n" ++ place ++ lines ++ help ++ "\n"

end Diagnostic

end HookRules
