import HookRules.Document.CharacterData

/-!
Start tags: the name of an element, its attributes, and the name spaces declared on it. Name
spaces decide only whether a prefix may be used and whether two attributes are the same; an
element keeps the local names.
-/

set_option autoImplicit false

namespace HookRules.Markup

/-- Declared prefixes with the name spaces they stand for, the innermost declaration first. The
prefix is `none` for the default name space. -/
abbrev Scope := List (Option String × String)

def xmlNamespace : String := "http://www.w3.org/XML/1998/namespace"

def xmlnsNamespace : String := "http://www.w3.org/2000/xmlns/"

structure WrittenAttribute where
  name : QualifiedName
  value : String
  position : Position

structure Heading where
  declared : Scope
  attributes : List WrittenAttribute

/-- How a start tag ends. A tag is `cut` where the text ends within it. -/
inductive TagEnd
  | opened
  | closed
  | cut
  deriving Repr, DecidableEq

/-- Takes in a declaration of a prefix, or of the default name space for `none`. The name space
of `xml` belongs to that prefix alone, that of `xmlns` to none, and a prefix is declared once. -/
def Heading.declare (heading : Heading) (position : Position) (declared : Option String)
    (uri : String) : Except Malformed Heading :=
  match declared with
  | some name =>
    if uri = xmlnsNamespace then .error (.at position .xmlnsNamespaceDeclared)
    else if name = "xml" && uri ≠ xmlNamespace then .error (.at position .xmlPrefixRebound)
    else if name ≠ "xml" && uri = xmlNamespace then .error (.at position .xmlNamespaceRebound)
    else if heading.declared.any fun entry => entry.1 == some name then
      .error (.at position (.prefixDeclaredTwice name))
    else if uri = xmlNamespace then .ok heading
    else .ok { heading with declared := heading.declared ++ [(some name, uri)] }
  | none =>
    if uri = xmlNamespace then .error (.at position .xmlNamespaceRebound)
    else if uri = xmlnsNamespace then .error (.at position .xmlnsNamespaceDeclared)
    else .ok { heading with declared := heading.declared ++ [(none, uri)] }

def Heading.take (heading : Heading) (position : Position) (name : QualifiedName)
    (value : String) : Except Malformed Heading :=
  if name.space = "xmlns" then heading.declare position (some name.localName) value
  else if name.localName = "xmlns" then heading.declare position none value
  else .ok { heading with attributes := heading.attributes ++ [⟨name, value, position⟩] }

def namespaceOf (scope : Scope) (position : Position) (name : String) :
    Except Malformed (Option String) :=
  match scope.find? fun entry => entry.1 == (if name.isEmpty then none else some name) with
  | some (_, uri) => .ok (some uri)
  | none => if name.isEmpty then .ok none else .error (.at position (.prefixUndeclared name))

/-- The name space of an attribute. One without a prefix has none, whatever the default is. -/
def attributeNamespace (scope : Scope) (written : WrittenAttribute) :
    Except Malformed (Option String) :=
  if written.name.space = "xml" then .ok (some xmlNamespace)
  else if written.name.space.isEmpty then .ok none
  else namespaceOf scope written.position written.name.space

/-- Checks the attributes in order: each prefix is declared, and no two attributes have the same
name space and local name. `seen` holds the names of those before. -/
def checkAttributes (scope : Scope) (seen : List (Option String × String)) :
    List WrittenAttribute → Except Malformed Unit
  | [] => .ok ()
  | written :: rest => do
    let name := (← attributeNamespace scope written, written.name.localName)
    if seen.contains name then
      throw (.at written.position (.attributeTwice written.name.localName))
    checkAttributes scope (name :: seen) rest

/-- Reads attributes up to the end of the tag. Each takes at least one character, so `steps` is
never used up when it is the number of characters left. -/
def readHeading : Nat → Heading → Reader (Heading × TagEnd)
  | 0, heading => pure (heading, .cut)
  | steps + 1, heading => do
    if (← get).atEnd then return (heading, .cut)
    let before := (← get).position
    skipSpaces
    let start := (← get).position
    let c ← current
    if c = '/' then
      modify (Cursor.skip 1)
      expectChar '>'
      return (heading, .closed)
    if c = '>' then
      modify (Cursor.skip 1)
      return (heading, .opened)
    if before = start then fail start (.expectedKind "a whitespace" (leadByte c))
    let name ← readQualifiedName
    readEquals
    let (valueStart, raw) ← readQuoted
    let value ← attributeValue valueStart raw
    readHeading steps (← heading.take start name value)

structure StartTag where
  name : QualifiedName
  attributes : List (String × String)
  scope : Scope
  ending : TagEnd

def readStartTag (scope : Scope) : Reader StartTag := do
  modify (Cursor.skip 1)
  let start := (← get).position
  let name ← readQualifiedName
  if name.space = "xmlns" then fail start .xmlnsPrefixUsed
  let (heading, ending) ← readHeading (← get).rest.length ⟨[], []⟩
  let inner := heading.declared ++ scope
  unless ending = .cut do
    checkAttributes inner [] heading.attributes
    let _ ← namespaceOf inner start name.space
  pure ⟨name, heading.attributes.map fun written => (written.name.localName, written.value),
    inner, ending⟩

def readEndTag : Reader QualifiedName := do
  modify (Cursor.skip 2)
  let name ← readQualifiedName
  skipSpaces
  expectChar '>'
  pure name

end HookRules.Markup
