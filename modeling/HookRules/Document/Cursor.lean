import HookRules.Document.Malformed

/-!
Reading a text from the left: the place reached and what is still to be read, and the readers for
the smallest parts of markup.
-/

set_option autoImplicit false

namespace HookRules

structure Cursor where
  position : Position
  rest : List Char
  deriving Repr, DecidableEq, Inhabited

/-- A step of reading: it moves the cursor and answers, or tells what is wrong. -/
abbrev Reader (α : Type) := StateT Cursor (Except Malformed) α

namespace Cursor

def ofText (text : String) : Cursor := ⟨Position.first, text.toList⟩

def atEnd (cursor : Cursor) : Bool := cursor.rest.isEmpty

def startsWith (cursor : Cursor) (text : String) : Bool := text.toList.isPrefixOf cursor.rest

def skipRun (test : Char → Bool) (position : Position) : List Char → Cursor
  | [] => ⟨position, []⟩
  | c :: rest => if test c then skipRun test (position.advance c) rest else ⟨position, c :: rest⟩

def skipWhile (test : Char → Bool) (cursor : Cursor) : Cursor :=
  skipRun test cursor.position cursor.rest

def skip : Nat → Cursor → Cursor
  | 0, cursor => cursor
  | _ + 1, ⟨position, []⟩ => ⟨position, []⟩
  | count + 1, ⟨position, c :: rest⟩ => skip count ⟨position.advance c, rest⟩

end Cursor

namespace Markup

def isSpace (c : Char) : Bool := c = ' ' || c = '\t' || c = '\n' || c = '\r'

def isLegal (c : Char) : Bool :=
  if c.toNat < 0x20 then isSpace c else c.toNat ≠ 0xFFFE && c.toNat ≠ 0xFFFF

def isForeignNameStart (code : Nat) : Bool :=
  (0xC0 ≤ code && code ≤ 0xD6) || (0xD8 ≤ code && code ≤ 0xF6) || (0xF8 ≤ code && code ≤ 0x2FF)
    || (0x370 ≤ code && code ≤ 0x37D) || (0x37F ≤ code && code ≤ 0x1FFF)
    || (0x200C ≤ code && code ≤ 0x200D) || (0x2070 ≤ code && code ≤ 0x218F)
    || (0x2C00 ≤ code && code ≤ 0x2FEF) || (0x3001 ≤ code && code ≤ 0xD7FF)
    || (0xF900 ≤ code && code ≤ 0xFDCF) || (0xFDF0 ≤ code && code ≤ 0xFFFD)
    || (0x10000 ≤ code && code ≤ 0xEFFFF)

/-- Characters that may begin a name. The colon is one; it parts a prefix from a local name. -/
def isNameStart (c : Char) : Bool :=
  c.isAlpha || c = ':' || c = '_' || isForeignNameStart c.toNat

def isNameChar (c : Char) : Bool :=
  isNameStart c || c.isDigit || c = '-' || c = '.' || c.toNat = 0xB7
    || (0x300 ≤ c.toNat && c.toNat ≤ 0x36F) || (0x203F ≤ c.toNat && c.toNat ≤ 0x2040)

/-- The character that the first byte of `c` stands for when it is shown alone. -/
def leadByte (c : Char) : Char :=
  let code := c.toNat
  if code < 0x80 then c
  else if code < 0x800 then Char.ofNat (0xC0 + code / 64)
  else if code < 0x10000 then Char.ofNat (0xE0 + code / 4096)
  else Char.ofNat (0xF0 + code / 262144)

def fail {α : Type} (position : Position) (fault : Fault) : Reader α :=
  throw (.at position fault)

/-- The character that follows. At the end of the text there is none to give. -/
def current : Reader Char := do
  match (← get).rest with
  | [] => throw .endOfText
  | c :: _ => pure c

def skipSpaces : Reader Unit := modify fun cursor => cursor.skipWhile isSpace

def expectChar (expected : Char) : Reader Unit := do
  let found ← current
  if found = expected then modify (Cursor.skip 1)
  else fail (← get).position (.expectedChar expected (leadByte found))

def expectText (expected : String) : Reader Unit := do
  let cursor ← get
  if cursor.startsWith expected then set (cursor.skip expected.length)
  else fail cursor.position (.expectedText expected)

/-- Reads legal characters up to where `stop` holds of what follows, or up to the end. -/
def readUntilFrom (stop : List Char → Bool) :
    Position → List Char → Except Malformed (List Char × Cursor)
  | position, [] => .ok ([], ⟨position, []⟩)
  | position, c :: rest =>
    if !isLegal c then .error (.at position (.illegalChar c))
    else if stop (c :: rest) then .ok ([], ⟨position, c :: rest⟩)
    else do
      let (text, cursor) ← readUntilFrom stop (position.advance c) rest
      pure (c :: text, cursor)

def readUntil (stop : List Char → Bool) : Reader (List Char) := fun cursor =>
  readUntilFrom stop cursor.position cursor.rest

def readName : Reader String := do
  let start ← get
  let name := start.rest.takeWhile isNameChar
  match name with
  | [] => fail start.position .invalidName
  | c :: _ =>
    if isNameStart c then
      set (start.skip name.length)
      pure (String.ofList name)
    else fail start.position .invalidName

structure QualifiedName where
  space : String
  localName : String
  deriving Repr, DecidableEq

def QualifiedName.describe (name : QualifiedName) : String :=
  if name.space.isEmpty then name.localName else name.space ++ ":" ++ name.localName

/-- Splits a run of name characters at its colon. There may be one colon at most, the local name
may not be empty, and both parts must begin as names do. -/
def qualifiedName? (run : List Char) : Option QualifiedName :=
  let begins (part : List Char) : Bool := match part with
    | [] => false
    | c :: _ => isNameStart c && c ≠ ':'
  let before := run.takeWhile (· ≠ ':')
  match run.dropWhile (· ≠ ':') with
  | [] => if begins before then some ⟨"", String.ofList before⟩ else none
  | _ :: after =>
    if after.contains ':' || !begins after || !(before.isEmpty || begins before) then none
    else some ⟨String.ofList before, String.ofList after⟩

def readQualifiedName : Reader QualifiedName := do
  let start ← get
  let run := start.rest.takeWhile isNameChar
  match qualifiedName? run with
  | none => fail start.position .invalidName
  | some name =>
    set (start.skip run.length)
    pure name

def readEquals : Reader Unit := do
  skipSpaces
  expectChar '='
  skipSpaces

def readQuoted : Reader (Position × List Char) := do
  let quote ← current
  if quote = '"' || quote = '\'' then
    modify (Cursor.skip 1)
    let start := (← get).position
    let value ← readUntil fun
      | c :: _ => c = quote || c = '<'
      | [] => true
    expectChar quote
    pure (start, value)
  else fail (← get).position (.expectedKind "a quote" (leadByte quote))

end Markup

end HookRules
