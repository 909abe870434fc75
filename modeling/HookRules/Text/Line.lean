/-!
Lines of a text. A line ends at a line feed, and a carriage return directly before the feed
belongs to the ending; a carriage return anywhere else is an ordinary character.
-/

set_option autoImplicit false

namespace HookRules.Text

/-- The text cut after each line feed. Pieces keep their line feeds, and none is empty. -/
def pieces : List Char → List (List Char)
  | [] => []
  | c :: rest =>
    if c = '\n' then [c] :: pieces rest
    else match pieces rest with
      | [] => [[c]]
      | piece :: more => (c :: piece) :: more

def chomp (piece : List Char) : List Char :=
  match piece.reverse with
  | '\n' :: '\r' :: rest => rest.reverse
  | '\n' :: rest => rest.reverse
  | _ => piece

/-- The lines of a text without their endings. An ending after the last line starts no new one. -/
def lineChars (text : List Char) : List (List Char) := (pieces text).map chomp

def lines (text : String) : List String := (lineChars text.toList).map String.ofList

end HookRules.Text
