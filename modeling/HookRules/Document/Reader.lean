import HookRules.Document.Element
import HookRules.Document.Tag
import HookRules.Text.Search

/-!
Reading a rule document. The tree holds elements alone: comments and processing instructions are
checked and dropped, and character data is kept only where an element begins with it.
-/

set_option autoImplicit false

namespace HookRules.Markup

def readComment : Reader Unit := do
  let start := (← get).position
  modify (Cursor.skip 4)
  let text ← readUntil fun rest => "-->".toList.isPrefixOf rest
  expectText "-->"
  if Text.occursIn "--".toList text || text.getLast? = some '-' then fail start .commentDashes

def readInstruction : Reader Unit := do
  let start ← get
  if start.startsWith "<?xml " then fail start.position .lateDeclaration
  modify (Cursor.skip 2)
  let _ ← readName
  skipSpaces
  let _ ← readUntil fun rest => "?>".toList.isPrefixOf rest
  expectText "?>"

def readSection : Reader (List Char) := do
  modify (Cursor.skip 9)
  let raw ← readUntil fun rest => "]]>".toList.isPrefixOf rest
  expectText "]]>"
  pure (sectionText raw)

def readText : Reader (List Char) := do
  let start := (← get).position
  let raw ← readUntil fun rest => rest.head? = some '<'
  if Text.occursIn "]]>".toList raw then fail (← get).position .sectionEndInText
  textOf start raw

/-- What an element has shown of its content: the text it begins with, whether text that follows
would still belong to it, and its children. -/
structure Content where
  text : Option (List Char)
  growing : Bool
  children : List Element

namespace Content

def start : Content := ⟨none, true, []⟩

/-- Takes in text. It counts only while nothing but text has been seen. -/
def addText (content : Content) (text : List Char) : Content :=
  if content.growing then { content with text := some (content.text.getD [] ++ text) }
  else content

/-- Takes in a comment or a processing instruction, which ends the text. -/
def addOther (content : Content) : Content := { content with growing := false }

def addChild (content : Content) (child : Element) : Content :=
  { content with growing := false, children := content.children ++ [child] }

end Content

def spanFrom (start stop : Position) : Span := ⟨start.line, start.column, start.offset, stop.offset⟩

mutual

/-- Reads an element from its less-than sign. An element that is never closed is an error, and
which one depends on whether its own start tag is whole: `whenCut` says what it is otherwise.
Every call reads at least one character, so `steps` is never used up when it is more than the
number of characters left. -/
def readElement : Nat → Scope → Malformed → Reader Element
  | 0, _, whenCut => throw whenCut
  | steps + 1, scope, whenCut => do
    let start := (← get).position
    let tag ← readStartTag scope
    match tag.ending with
    | .cut => throw whenCut
    | .closed =>
      pure ⟨tag.name.localName, tag.attributes, none, [], spanFrom start (← get).position⟩
    | .opened =>
      let content ← readContent steps tag.scope tag.name Content.start
      pure ⟨tag.name.localName, tag.attributes, content.text.map String.ofList, content.children,
        spanFrom start (← get).position⟩

def readContent : Nat → Scope → QualifiedName → Content → Reader Content
  | 0, _, _, _ => throw .rootUnclosed
  | steps + 1, scope, opened, content => do
    let cursor ← get
    match cursor.rest with
    | [] => throw .rootUnclosed
    | '<' :: '!' :: _ =>
      if cursor.startsWith "<!--" then
        readComment
        readContent steps scope opened content.addOther
      else if cursor.startsWith "<![CDATA[" then
        let text ← readSection
        readContent steps scope opened (content.addText text)
      else fail cursor.position .unknownToken
    | '<' :: '?' :: _ =>
      readInstruction
      readContent steps scope opened content.addOther
    | '<' :: '/' :: _ =>
      let closed ← readEndTag
      if closed = opened then pure content
      else fail cursor.position (.closedByOther opened.describe closed.describe)
    | ['<'] => fail cursor.position .unknownToken
    | '<' :: _ =>
      let child ← readElement steps scope .rootUnclosed
      readContent steps scope opened (content.addChild child)
    | _ =>
      let text ← readText
      readContent steps scope opened (content.addText text)

end

def readMiscellany : Nat → Reader Unit
  | 0 => pure ()
  | steps + 1 => do
    if (← get).atEnd then return
    skipSpaces
    if (← get).startsWith "<!--" then
      readComment
      readMiscellany steps
    else if (← get).startsWith "<?" then
      readInstruction
      readMiscellany steps

def readDeclarationSpace : Reader Unit := do
  let cursor ← get
  match cursor.rest with
  | [] => pure ()
  | c :: _ =>
    if isSpace c then skipSpaces
    else unless cursor.startsWith "?>" do
      fail cursor.position (.expectedKind "a whitespace" (leadByte c))

/-- Moves over one part of the declaration, such as its version. The value is not checked. -/
def readDeclarationPart : Reader Unit := do
  let _ ← readQualifiedName
  readEquals
  let _ ← readQuoted

/-- Fails unless the text follows. It is not moved over. -/
def requireAhead (text : String) : Reader Unit := do
  unless (← get).startsWith text do expectText text

def readEncoding : Reader Unit := do
  if (← get).startsWith "encoding" then
    readDeclarationPart
    readDeclarationSpace

def readStandalone : Reader Unit := do
  if (← get).startsWith "standalone" then readDeclarationPart

def readDeclaration : Reader Unit := do
  modify (Cursor.skip 5)
  readDeclarationSpace
  requireAhead "version"
  readDeclarationPart
  readDeclarationSpace
  readEncoding
  readStandalone
  skipSpaces
  expectText "?>"

def readMark : Reader Unit := do
  if (← get).startsWith "\ufeff" then modify (Cursor.skip 1)

def readHead : Reader Unit := do
  if (← get).startsWith "<?xml " then readDeclaration

def refuseDoctype : Reader Unit := do
  if (← get).startsWith "<!DOCTYPE" then throw .doctype

def readRoot (steps : Nat) : Reader (Option Element) := do
  if (← get).startsWith "<" then some <$> readElement steps [] .noRoot else pure none

def endDocument (root : Option Element) : Reader Element := do
  let stop ← get
  if !stop.atEnd then fail stop.position .unknownToken
  match root with
  | some root => pure root
  | none => throw .noRoot

def readDocument : Reader Element := do
  let steps := (← get).rest.length + 1
  readMark
  readHead
  readMiscellany steps
  skipSpaces
  refuseDoctype
  let root ← readRoot steps
  readMiscellany steps
  endDocument root

end HookRules.Markup

namespace HookRules

def Element.parse (source : String) : Except DocumentError Element :=
  if Text.isBlankText source then .error .empty
  else match Markup.readDocument.run (Cursor.ofText source) with
    | .ok (root, _) => .ok root
    | .error cause => .error (.malformed cause)

end HookRules
