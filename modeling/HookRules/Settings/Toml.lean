import HookRules.Text.Numeral

/-!
The part of TOML that settings are written in: one `key = value` on a line, with strings and
integers for values, and comments. A text that uses anything else, such as tables, lists or
dates, is refused.
-/

set_option autoImplicit false

namespace HookRules.Toml

inductive Value
  | text (content : String)
  | number (value : Int)
  deriving Repr, DecidableEq

def isBlank (c : Char) : Bool := c = ' ' || c = '\t'

def skipBlanks (text : List Char) : List Char := text.dropWhile isBlank

/-- Whether a character may stand in a comment or a string at all. Line ends are not among
them. -/
def isPrintable (c : Char) : Bool := c = '\t' || 0x20 ≤ c.toNat && c.toNat ≠ 0x7F

def lineEnd? (text : List Char) : Option (List Char) :=
  let rest := match skipBlanks text with
    | '#' :: comment => comment.dropWhile isPrintable
    | rest => rest
  match rest with
  | [] => some []
  | '\n' :: after => some after
  | '\r' :: '\n' :: after => some after
  | _ => none

def hexDigit? (c : Char) : Option Nat :=
  if c.isDigit then some (c.toNat - '0'.toNat)
  else if 'a' ≤ c ∧ c ≤ 'f' then some (c.toNat - 'a'.toNat + 10)
  else if 'A' ≤ c ∧ c ≤ 'F' then some (c.toNat - 'A'.toNat + 10)
  else none

def digitsValue? (base : Nat) (digits : List Char) : Option Nat :=
  digits.foldlM (fun value c => do
    let digit ← hexDigit? c
    guard (digit < base)
    return value * base + digit) 0

def codePoint? (digits : List Char) : Option Char := do
  let code ← digitsValue? 16 digits
  guard code.isValidChar
  return Char.ofNat code

def escaped? : Char → Option Char
  | 'b' => some '\x08'
  | 't' => some '\t'
  | 'n' => some '\n'
  | 'f' => some '\x0c'
  | 'r' => some '\r'
  | '"' => some '"'
  | '\\' => some '\\'
  | _ => none

/-- Puts a character before what was read, if there is one. Readers give what they read together
with what follows it. -/
def before (c : Option Char) (reading : Option (List Char × List Char)) :
    Option (List Char × List Char) :=
  c.bind fun c => reading.map fun (content, rest) => (c :: content, rest)

def quoted : List Char → Option (List Char × List Char)
  | [] => none
  | '"' :: rest => some ([], rest)
  | '\\' :: 'u' :: a :: b :: c :: d :: rest =>
    before (codePoint? [a, b, c, d]) (quoted rest)
  | '\\' :: 'U' :: a :: b :: c :: d :: e :: f :: g :: h :: rest =>
    before (codePoint? [a, b, c, d, e, f, g, h]) (quoted rest)
  | '\\' :: letter :: rest => before (escaped? letter) (quoted rest)
  | c :: rest => if isPrintable c then before (some c) (quoted rest) else none

def plain : List Char → Option (List Char × List Char)
  | [] => none
  | '\'' :: rest => some ([], rest)
  | c :: rest => if isPrintable c then before (some c) (plain rest) else none

/-- Where the reader of a string of several lines is: in its content, between a backslash and the
end of its line, or past that end, in white space that does not count. -/
inductive Fold
  | content
  | folding
  | folded
  deriving DecidableEq

/-- A string of several lines up to its three quotation marks. Up to two more may stand before
these and belong to the content. A backslash at the end of a line takes away all white space up
to the next character. -/
def quotedLines : Fold → List Char → Option (List Char × List Char)
  | _, [] => none
  | .folding, '\n' :: rest | .folding, '\r' :: '\n' :: rest => quotedLines .folded rest
  | .folding, c :: rest => if isBlank c then quotedLines .folding rest else none
  | .folded, '\n' :: rest | .folded, '\r' :: '\n' :: rest => quotedLines .folded rest
  | _, '"' :: '"' :: '"' :: '"' :: '"' :: rest => some (['"', '"'], rest)
  | _, '"' :: '"' :: '"' :: '"' :: rest => some (['"'], rest)
  | _, '"' :: '"' :: '"' :: rest => some ([], rest)
  | _, '\\' :: 'u' :: a :: b :: c :: d :: rest =>
    before (codePoint? [a, b, c, d]) (quotedLines .content rest)
  | _, '\\' :: 'U' :: a :: b :: c :: d :: e :: f :: g :: h :: rest =>
    before (codePoint? [a, b, c, d, e, f, g, h]) (quotedLines .content rest)
  | _, '\\' :: '\n' :: rest | _, '\\' :: '\r' :: '\n' :: rest => quotedLines .folded rest
  | _, '\\' :: letter :: rest =>
    if isBlank letter then quotedLines .folding rest
    else before (escaped? letter) (quotedLines .content rest)
  | _, '\n' :: rest | _, '\r' :: '\n' :: rest => before (some '\n') (quotedLines .content rest)
  | fold, c :: rest =>
    if fold = .folded ∧ isBlank c then quotedLines .folded rest
    else if isPrintable c then before (some c) (quotedLines .content rest)
    else none

/-- A string of several lines up to its three apostrophes. Up to two more may stand before
these and belong to the content. -/
def plainLines : List Char → Option (List Char × List Char)
  | [] => none
  | '\'' :: '\'' :: '\'' :: '\'' :: '\'' :: rest => some (['\'', '\''], rest)
  | '\'' :: '\'' :: '\'' :: '\'' :: rest => some (['\''], rest)
  | '\'' :: '\'' :: '\'' :: rest => some ([], rest)
  | '\n' :: rest | '\r' :: '\n' :: rest => before (some '\n') (plainLines rest)
  | c :: rest => if isPrintable c then before (some c) (plainLines rest) else none

/-- A line end directly after the opening of a string of several lines does not count. -/
def skipFirstEnd : List Char → List Char
  | '\n' :: rest | '\r' :: '\n' :: rest => rest
  | text => text

def joined? : List Char → Option (List Char)
  | [] => none
  | [c] => if c = '_' then none else some [c]
  | c :: '_' :: rest => if c = '_' then none else (joined? rest).map (c :: ·)
  | c :: rest => if c = '_' then none else (joined? rest).map (c :: ·)

def decimal? (numeral : List Char) : Option Nat := do
  let digits ← joined? numeral
  guard (digits.head? ≠ some '0' ∨ digits.length = 1)
  digitsValue? 10 digits

def integer? (numeral : List Char) : Option Int := do
  let value ← match numeral with
    | '0' :: 'x' :: digits => ((joined? digits).bind (digitsValue? 16)).map Int.ofNat
    | '0' :: 'o' :: digits => ((joined? digits).bind (digitsValue? 8)).map Int.ofNat
    | '0' :: 'b' :: digits => ((joined? digits).bind (digitsValue? 2)).map Int.ofNat
    | '+' :: digits => (decimal? digits).map Int.ofNat
    | '-' :: digits => (decimal? digits).map fun value => -(value : Int)
    | digits => (decimal? digits).map Int.ofNat
  guard (-(Text.maxInt64 : Int) - 1 ≤ value ∧ value ≤ Text.maxInt64)
  return value

def isNumeralChar (c : Char) : Bool := c.isAlphanum || c = '_' || c = '+' || c = '-'

def value? (text : List Char) : Option (Value × List Char) :=
  let ofText := fun (reading : Option (List Char × List Char)) =>
    reading.map fun (content, rest) => (Value.text (String.ofList content), rest)
  match text with
  | '"' :: '"' :: '"' :: rest => ofText (quotedLines .content (skipFirstEnd rest))
  | '"' :: rest => ofText (quoted rest)
  | '\'' :: '\'' :: '\'' :: rest => ofText (plainLines (skipFirstEnd rest))
  | '\'' :: rest => ofText (plain rest)
  | text => do
    let value ← integer? (text.takeWhile isNumeralChar)
    return (.number value, text.dropWhile isNumeralChar)

def isKeyChar (c : Char) : Bool := c.isAlphanum || c = '_' || c = '-'

def key? (text : List Char) : Option (String × List Char) :=
  let ofText := fun (reading : Option (List Char × List Char)) =>
    reading.map fun (content, rest) => (String.ofList content, rest)
  match text with
  | '"' :: rest => ofText (quoted rest)
  | '\'' :: rest => ofText (plain rest)
  | text =>
    match text.takeWhile isKeyChar with
    | [] => none
    | key => some (String.ofList key, text.dropWhile isKeyChar)

def pair? (text : List Char) : Option ((String × Value) × List Char) := do
  let (key, rest) ← key? (skipBlanks text)
  match skipBlanks rest with
  | '=' :: rest =>
    let (value, rest) ← value? (skipBlanks rest)
    return ((key, value), rest)
  | _ => none

def pairsWithin? (limit : Nat) (text : List Char) : Option (List (String × Value)) :=
  match limit, text with
  | _, [] => some []
  | 0, _ :: _ => none
  | limit + 1, text =>
    match lineEnd? text with
    | some rest => pairsWithin? limit rest
    | none => do
      let (pair, rest) ← pair? text
      let rest ← lineEnd? rest
      return pair :: (← pairsWithin? limit rest)

def pairs? (text : String) : Option (List (String × Value)) :=
  let text := match text.toList with
    | '\ufeff' :: rest => rest
    | text => text
  pairsWithin? text.length text

end HookRules.Toml
