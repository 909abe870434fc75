import HookRules.Text.Blank
import HookRules.Text.Line

/-!
Why a text is no pattern, and how that is shown: the text with carets under the stretch at fault,
and the reason.
-/

set_option autoImplicit false

namespace HookRules.Pattern

def depthLimit : Nat := 250

inductive Problem
  | escapeUnfinished
  | escapeUnknown
  | backreference
  | hexEmpty
  | hexInvalid
  | hexDigit
  | classInvalid
  | edgeUnclosed
  | edgeUnknown
  | edgeUnfinished
  | setUnclosed
  | escapeInSet
  | rangeBoundary
  | rangeReversed
  | nothingRepeated
  | countUnclosed
  | countEmpty
  | countReversed
  | numberInvalid
  | groupUnclosed
  | groupUnopened
  | lookAround
  | nameUnclosed
  | nameEmpty
  | nameInvalid
  | nameTwice
  | flagMissing
  | flagUnknown
  | flagTwice
  | negationTwice
  | negationDangling
  | tooDeep
  | unicodeNotAllowed
  | invalidUtf8
  | propertyUnknown
  | valueUnknown
  deriving Repr, DecidableEq

def Problem.message : Problem → String
  | .escapeUnfinished => "incomplete escape sequence, reached end of pattern prematurely"
  | .escapeUnknown => "unrecognized escape sequence"
  | .backreference => "backreferences are not supported"
  | .hexEmpty => "hexadecimal literal empty"
  | .hexInvalid => "hexadecimal literal is not a Unicode scalar value"
  | .hexDigit => "invalid hexadecimal digit"
  | .classInvalid => "invalid Unicode character class"
  | .edgeUnclosed =>
    "special word boundary assertion is either unclosed or contains an invalid character"
  | .edgeUnknown =>
    "unrecognized special word boundary assertion, valid choices are: "
      ++ "start, end, start-half or end-half"
  | .edgeUnfinished =>
    "found either the beginning of a special word boundary or a bounded repetition on a \\b "
      ++ "with an opening brace, but no closing brace"
  | .setUnclosed => "unclosed character class"
  | .escapeInSet => "invalid escape sequence found in character class"
  | .rangeBoundary => "invalid range boundary, must be a literal"
  | .rangeReversed => "invalid character class range, the start must be <= the end"
  | .nothingRepeated => "repetition operator missing expression"
  | .countUnclosed => "unclosed counted repetition"
  | .countEmpty => "repetition quantifier expects a valid decimal"
  | .countReversed => "invalid repetition count range, the start must be <= the end"
  | .numberInvalid => "decimal literal invalid"
  | .groupUnclosed => "unclosed group"
  | .groupUnopened => "unopened group"
  | .lookAround => "look-around, including look-ahead and look-behind, is not supported"
  | .nameUnclosed => "unclosed capture group name"
  | .nameEmpty => "empty capture group name"
  | .nameInvalid => "invalid capture group character"
  | .nameTwice => "duplicate capture group name"
  | .flagMissing => "expected flag but got end of regex"
  | .flagUnknown => "unrecognized flag"
  | .flagTwice => "duplicate flag"
  | .negationTwice => "flag negation operator repeated"
  | .negationDangling => "dangling flag negation operator"
  | .tooDeep =>
    "exceed the maximum number of nested parentheses/brackets (" ++ toString depthLimit ++ ")"
  | .unicodeNotAllowed => "Unicode not allowed here"
  | .invalidUtf8 => "pattern can match invalid UTF-8"
  | .propertyUnknown => "Unicode property not found"
  | .valueUnknown => "Unicode property value not found"

/-- A stretch of a text, by what is left of the text where it begins and where it ends. -/
structure Stretch where
  start : List Char
  stop : List Char
  deriving Repr, DecidableEq

structure Fault where
  problem : Problem
  stretch : Stretch
  /-- The first of two things that may stand only once. -/
  earlier : Option Stretch
  deriving Repr, DecidableEq

def refuse {Answer : Type} (problem : Problem) (start stop : List Char) : Except Fault Answer :=
  .error ⟨problem, ⟨start, stop⟩, none⟩

structure Place where
  line : Nat
  column : Nat

def Place.of (text left : List Char) : Place :=
  let before := text.take (text.length - left.length)
  ⟨before.count '\n', (Text.takeEndWhile (· ≠ '\n') before).length⟩

namespace Fault

/-- Carets under stretches of one line, from the given column on. An empty stretch has a caret
too. -/
def carets (column : Nat) : List (Place × Place) → String
  | [] => ""
  | (first, last) :: more =>
    let marks := max 1 (last.column - first.column)
    String.ofList (List.replicate (first.column - column) ' ' ++ List.replicate marks '^')
      ++ carets (max column first.column + marks) more

/-- A line of the text and the carets under it. Lines have numbers if there are several. -/
def row (width : Nat) (marked : List (Place × Place)) (entry : String × Nat) : String :=
  let number := toString (entry.2 + 1)
  let lead := if width = 0 then "    "
    else String.ofList (List.replicate (width - number.length) ' ') ++ number ++ ": "
  let here := (marked.filter fun stretch => stretch.1.line = entry.2).mergeSort
    fun one other => one.1.column ≤ other.1.column
  let notes := if here.isEmpty then ""
    else String.ofList (List.replicate lead.length ' ') ++ carets 0 here ++ "\n"
  lead ++ entry.1 ++ "\n" ++ notes

def range (stretch : Place × Place) : String :=
  "on line " ++ toString (stretch.1.line + 1) ++ " (column " ++ toString (stretch.1.column + 1)
    ++ ") through line " ++ toString (stretch.2.line + 1) ++ " (column "
    ++ toString stretch.2.column ++ ")"

def report (text : String) (fault : Fault) : String :=
  let place := Place.of text.toList
  let (marked, wide) := (fault.stretch :: fault.earlier.toList).map
      (fun stretch => (place stretch.start, place stretch.stop))
    |>.partition fun stretch => stretch.1.line = stretch.2.line
  let lines := Text.lines text
  let count := lines.length + if text.toList.getLast? = some '\n' then 1 else 0
  let width := if count ≤ 1 then 0 else (toString count).length
  let rows := String.join (lines.zipIdx.map (row width marked))
  let divider := String.ofList (List.replicate 79 '~') ++ "\n"
  let notes := if wide.isEmpty then "" else "\n".intercalate (wide.map range) ++ "\n"
  "regex parse error:\n"
    ++ (if text.toList.contains '\n' then divider ++ rows ++ divider ++ notes else rows)
    ++ "error: " ++ fault.problem.message

end Fault

end HookRules.Pattern
