import HookRules.Text.Blank
import HookRules.Text.Quoted
import HookRules.Document.Excerpt

/-!
Why a text is not a document: what is wrong with it, and where.
-/

set_option autoImplicit false

namespace HookRules

structure Position where
  offset : Nat
  line : Nat
  column : Nat
  deriving Repr, DecidableEq, Inhabited

namespace Position

def first : Position := ⟨0, 1, 1⟩

def advance (position : Position) (c : Char) : Position :=
  if c = '\n' then ⟨position.offset + c.utf8Size, position.line + 1, 1⟩
  else ⟨position.offset + c.utf8Size, position.line, position.column + 1⟩

def describe (position : Position) : String :=
  toString position.line ++ ":" ++ toString position.column

end Position

inductive Fault
  | xmlPrefixRebound
  | xmlNamespaceRebound
  | xmlnsNamespaceDeclared
  | xmlnsPrefixUsed
  | prefixDeclaredTwice (name : String)
  | prefixUndeclared (name : String)
  | closedByOther (opened closed : String)
  | referenceMalformed
  | referenceUnknown (name : String)
  | attributeTwice (name : String)
  | lateDeclaration
  | invalidName
  | illegalChar (c : Char)
  | expectedChar (expected found : Char)
  | expectedKind (kind : String) (found : Char)
  | expectedText (expected : String)
  | commentDashes
  | sectionEndInText
  | unknownToken
  deriving Repr, DecidableEq

def Fault.message (place : String) : Fault → String
  | .xmlPrefixRebound => "'xml' namespace prefix mapped to wrong URI at " ++ place
  | .xmlNamespaceRebound => "the 'xml' namespace URI is used for not 'xml' prefix at " ++ place
  | .xmlnsNamespaceDeclared =>
    "the 'xmlns' URI is used at " ++ place ++ ", but it must not be declared"
  | .xmlnsPrefixUsed => "the 'xmlns' prefix is used at " ++ place ++ ", but it must not be"
  | .prefixDeclaredTwice name => "namespace '" ++ name ++ "' at " ++ place ++ " is already defined"
  | .prefixUndeclared name => "an unknown namespace prefix '" ++ name ++ "' at " ++ place
  | .closedByOther opened closed =>
    "expected '" ++ opened ++ "' tag, not '" ++ closed ++ "' at " ++ place
  | .referenceMalformed => "malformed entity reference at " ++ place
  | .referenceUnknown name => "unknown entity reference '" ++ name ++ "' at " ++ place
  | .attributeTwice name => "attribute '" ++ name ++ "' at " ++ place ++ " is already defined"
  | .lateDeclaration => "unexpected XML declaration at " ++ place
  | .invalidName => "invalid name token at " ++ place
  | .illegalChar c => "a non-XML character " ++ Text.quotedSingle c ++ " found at " ++ place
  | .expectedChar expected found =>
    "expected '" ++ expected.toString ++ "' not '" ++ found.toString ++ "' at " ++ place
  | .expectedKind kind found =>
    "expected " ++ kind ++ " not '" ++ found.toString ++ "' at " ++ place
  | .expectedText expected => "expected '" ++ expected ++ "' at " ++ place
  | .commentDashes => "comment at " ++ place ++ " contains '--'"
  | .sectionEndInText => "']]>' at " ++ place ++ " is not allowed inside a character data"
  | .unknownToken => "unknown token at " ++ place

inductive Malformed
  | at (position : Position) (fault : Fault)
  | noRoot
  | rootUnclosed
  | doctype
  | endOfText
  deriving Repr, DecidableEq

namespace Malformed

def message : Malformed → String
  | .at position fault => fault.message position.describe
  | .noRoot => "the document does not have a root node"
  | .rootUnclosed => "the root node was opened but never closed"
  | .doctype => "XML with DTD detected"
  | .endOfText => "unexpected end of stream"

/-- Where the error is shown. What concerns the text as a whole is shown at its beginning. -/
def span : Malformed → Span
  | .at position _ => Span.point position.line position.column
  | _ => Span.point 1 1

end Malformed

inductive DocumentError
  | malformed (cause : Malformed)
  | empty
  deriving Repr, DecidableEq

namespace DocumentError

def message : DocumentError → String
  | .malformed cause => "malformed configuration: " ++ cause.message
  | .empty => "configuration document has no root element"

def span? : DocumentError → Option Span
  | .malformed cause => some cause.span
  | .empty => none

def render (error : DocumentError) (source : String) : String :=
  match error.span? with
  | none => error.message
  | some span => error.message ++ "\n" ++ Excerpt.render error.message source span

end DocumentError

end HookRules
