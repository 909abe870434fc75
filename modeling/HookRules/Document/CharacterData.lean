import HookRules.Document.Cursor
import HookRules.Text.Numeral

/-!
The text that character data stands for: references are replaced by the characters they name,
and line endings and white space are brought to one form. A character that is named by a
reference is not touched by the latter.
-/

set_option autoImplicit false

namespace HookRules.Markup

inductive Reference
  | char (c : Char)
  | entity (name : String)
  deriving Repr, DecidableEq

/-- The character of a numeric reference. A number that is no character's stands for the
replacement character; one that does not fit 32 bits, or a character that a document may not
hold, is refused. -/
def referencedChar? (base : Nat) (digits : List Char) : Option Char :=
  let value := digits.foldl (fun value c =>
    value * base + (if c.isDigit then c.toNat - 48 else c.toLower.toNat - 87)) 0
  if digits.isEmpty || Text.maxWord32 < value then none
  else
    let c := if value.isValidChar then Char.ofNat value else '\ufffd'
    if isLegal c then some c else none

def predefined? : String → Option Char
  | "quot" => some '"'
  | "amp" => some '&'
  | "apos" => some '\''
  | "lt" => some '<'
  | "gt" => some '>'
  | _ => none

def isHexDigit (c : Char) : Bool :=
  c.isDigit || ('a' ≤ c && c ≤ 'f') || ('A' ≤ c && c ≤ 'F')

def reference? (rest : List Char) : Option (Reference × Nat) :=
  let (reference, used) : Option Reference × Nat := match rest with
    | '#' :: 'x' :: more =>
      let digits := more.takeWhile isHexDigit
      ((referencedChar? 16 digits).map .char, digits.length + 2)
    | '#' :: more =>
      let digits := more.takeWhile Char.isDigit
      ((referencedChar? 10 digits).map .char, digits.length + 1)
    | more =>
      let name := more.takeWhile isNameChar
      if name.head?.any isNameStart then
        let name' := String.ofList name
        (some ((predefined? name').elim (.entity name') .char), name.length)
      else (none, 0)
  match reference, rest[used]? with
  | some reference, some ';' => some (reference, used + 1)
  | _, _ => none

inductive Written
  | plain (c : Char)
  | named (c : Char)
  deriving Repr, DecidableEq

/-- Replaces the references in a text that starts at `position`. The first `covered` characters
belong to a reference already replaced. -/
def resolve (covered : Nat) (position : Position) : List Char → Except Malformed (List Written)
  | [] => .ok []
  | c :: rest =>
    let next := position.advance c
    match covered with
    | covered + 1 => resolve covered next rest
    | 0 =>
      if c = '&' then
        match reference? rest with
        | none => .error (.at position .referenceMalformed)
        | some (.entity name, _) => .error (.at position (.referenceUnknown name))
        | some (.char named, used) => do pure (.named named :: (← resolve used next rest))
      else do pure (.plain c :: (← resolve 0 next rest))

/-- Puts the next written character behind the text so far, which is in reverse. A carriage
return becomes a line feed once the next character or the end shows that it ends a line, and
swallows a line feed directly after it. -/
def endLine (before : List Char) (c : Char) (atEnd : Bool) : List Char :=
  match before with
  | '\r' :: before =>
    if atEnd && c = '\r' then '\n' :: '\n' :: before
    else if c = '\n' then '\n' :: before
    else c :: '\n' :: before
  | before => if atEnd && c = '\r' then '\n' :: before else c :: before

/-- Brings line endings to one form. The character after a named one is taken as it is
(`asIs`). -/
def normalizeLines (asIs : Bool) (before : List Char) : List Written → List Char
  | [] => before.reverse
  | .named c :: rest => normalizeLines true (c :: before) rest
  | .plain c :: rest =>
    if asIs then normalizeLines false (c :: before) rest
    else normalizeLines false (endLine before c rest.isEmpty) rest

def textOf (position : Position) (raw : List Char) : Except Malformed (List Char) := do
  pure (normalizeLines false [] (← resolve 0 position raw))

def sectionText (raw : List Char) : List Char := normalizeLines false [] (raw.map .plain)

def normalizeSpaces : List Written → List Char
  | [] => []
  | .plain '\r' :: .plain '\n' :: rest => ' ' :: normalizeSpaces rest
  | .plain c :: rest => (if isSpace c then ' ' else c) :: normalizeSpaces rest
  | .named c :: rest => c :: normalizeSpaces rest

def attributeValue (position : Position) (raw : List Char) : Except Malformed String := do
  pure (String.ofList (normalizeSpaces (← resolve 0 position raw)))

end HookRules.Markup
