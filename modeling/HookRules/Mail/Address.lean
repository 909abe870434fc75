import HookRules.Text.Blank
import HookRules.Text.Utf8

/-!
Addresses of mail: a mailbox at a domain, alone or in angle brackets behind a name.

A reader takes a beginning of the text and hands on what follows it. The mailbox and the domain
are read first by where they end, and their characters and lengths are checked afterwards.
-/

set_option autoImplicit false

namespace HookRules.Address

abbrev Cut := List Char × List Char

/-- Characters of an atom. Characters outside ASCII are all allowed. -/
def isAtomChar (c : Char) : Bool :=
  if c.toNat < 128 then c.isAlphanum || "!#$%&'*+-/=?^_\x60\x7b|\x7d~".toList.contains c
  else true

def isSpace (c : Char) : Bool := c = ' ' || c = '\t'

def isQuotedChar (c : Char) : Bool :=
  !isSpace c && c ≠ '\n' && c ≠ '\r' && c ≠ '\x00' && c ≠ '"' && c ≠ '\\'

def isEscapable (c : Char) : Bool :=
  c ≠ '\n' && c ≠ '\r' && c ≠ '\x00' && c.toNat < 128

/-- What stands between the two marks of a quoted text, read from behind the first. Blanks in a
row count as the first of them, `pending` until a character follows, and those before the second
mark are left out. -/
def insideQuotes (pending : List Char) : List Char → Option Cut
  | [] => none
  | '"' :: rest => some ([], rest)
  | '\\' :: c :: rest =>
    if isEscapable c then
      (insideQuotes [] rest).map fun cut => (pending ++ c :: cut.1, cut.2)
    else none
  | c :: rest =>
    if isSpace c then insideQuotes (if pending = [] then [c] else pending) rest
    else if isQuotedChar c then
      (insideQuotes [] rest).map fun cut => (pending ++ c :: cut.1, cut.2)
    else if Text.isBlank c then
      match rest.dropWhile Text.isBlank with
      | '"' :: rest => some ([], rest)
      | _ => none
    else none

def quoted? : List Char → Option Cut
  | '"' :: rest => insideQuotes [] rest
  | _ => none

def run? (allowed : Char → Bool) (text : List Char) : Option Cut :=
  let body := text.dropWhile isSpace
  match body.takeWhile allowed with
  | [] => none
  | word => some ((text.takeWhile isSpace).take 1 ++ word, body.dropWhile allowed)

/-- Atoms and dots in a row. Where the dots may stand is checked with the rest of the text. -/
def dotted? : List Char → Option Cut := run? fun c => isAtomChar c || c = '.'

def pair? (text : List Char) : Option (List Char × Cut) :=
  match (dotted? text).orElse fun _ => quoted? text with
  | some (mailbox, '@' :: rest) => (dotted? rest).map fun cut => (mailbox, cut)
  | _ => none

def word? (text : List Char) : Option Cut := (run? isAtomChar text).orElse fun _ => quoted? text

def afterWords (text : List Char) : List Char :=
  match text, word? text with
  | '.' :: rest, _ => afterWords rest
  | text, some (_, rest) => if rest.length < text.length then afterWords rest else text
  | text, none => text
termination_by text.length

def afterName (text : List Char) : List Char :=
  match word? text with
  | some (_, rest) => afterWords rest
  | none => text

def named? (text : List Char) : Option (List Char × Cut) :=
  match Text.trimStartChars (afterName text) with
  | '<' :: inside =>
    match pair? inside with
    | some (mailbox, domain, '>' :: rest) => some (mailbox, domain, rest)
    | _ => none
  | _ => none

def labels (text : List Char) : List (List Char) :=
  (String.ofList text).splitOn "." |>.map String.toList

def isDotted (text : List Char) : Bool :=
  (labels text).all fun label => !label.isEmpty && label.all isAtomChar

/-- Quotes around a text of printable characters, with quotes and backslashes in it behind a
backslash. -/
def isQuoted : List Char → Bool
  | '"' :: rest => rest.length ≥ 2 && rest.getLast? = some '"' && inside rest.dropLast
  | _ => false
where
  inside : List Char → Bool
    | [] => true
    | '\\' :: c :: rest => '!' ≤ c && c ≤ '~' && inside rest
    | c :: rest => (isSpace c || '!' ≤ c && isQuotedChar c && c ≠ '\x7f') && inside rest

/-- A mailbox takes at most 64 bytes. -/
def isMailboxName (text : List Char) : Bool :=
  Text.byteCount text ≤ 64 && (isDotted text || isQuoted text)

def isEdge (c : Char) : Bool := c.isAlphanum || 128 ≤ c.toNat

/-- A label takes at most 63 bytes. -/
def isLabel (text : List Char) : Bool :=
  Text.byteCount text ≤ 63 && text.all isAtomChar && text.head?.any isEdge
    && text.getLast?.any isEdge

def isDomain (text : List Char) : Bool := Text.byteCount text ≤ 254 && (labels text).all isLabel

/-- Whether a text is an address that mail can be sent from and to. White space around it does
not count. -/
def isMailbox (text : String) : Bool :=
  let text := Text.trimStartChars text.toList
  match (named? text).orElse fun _ => pair? text with
  | none => false
  | some (mailbox, domain, rest) => Text.allBlank rest && isMailboxName mailbox && isDomain domain

end HookRules.Address
