import HookRules.Unicode.CodeSet
import HookRules.Unicode.Property

/-!
Patterns: descriptions of stretches of text, built from sets of characters and from assertions
about the place between two characters.
-/

set_option autoImplicit false

namespace HookRules

inductive Assertion
  | textStart
  | textEnd
  | lineStart
  | lineEnd
  /-- As `lineStart` and `lineEnd`, but a carriage return ends a line too, and a carriage return
  with a line feed is one ending. -/
  | anyLineStart
  | anyLineEnd
  /-- The assertions below look at whether the characters around the place are word characters:
  of ASCII alone, or of any script. -/
  | wordEdge (ascii : Bool)
  | notWordEdge (ascii : Bool)
  | wordStart (ascii : Bool)
  | wordEnd (ascii : Bool)
  | wordStartHalf (ascii : Bool)
  | wordEndHalf (ascii : Bool)
  deriving Repr, DecidableEq

inductive Pattern
  | empty
  | oneOf (set : Unicode.CodeSet)
  | assertion (assertion : Assertion)
  | sequence (first second : Pattern)
  | choice (first second : Pattern)
  /-- Stretches of the body one after another: at least `least`, and at most `most` if given. -/
  | repeated (least : Nat) (most : Option Nat) (body : Pattern)
  deriving Repr, DecidableEq, Inhabited

def isWordChar (ascii : Bool) (c : Char) : Bool :=
  if c.toNat < 128 then c.isAlphanum || c = '_'
  else !ascii && Unicode.Property.word.contains c

def Assertion.holds (before after : Option Char) : Assertion → Bool :=
  let isWord := fun (ascii : Bool) (c : Option Char) => c.any (isWordChar ascii)
  fun
  | .textStart => before.isNone
  | .textEnd => after.isNone
  | .lineStart => before.isNone || before == some '\n'
  | .lineEnd => after.isNone || after == some '\n'
  | .anyLineStart =>
    before.isNone || before == some '\n' || (before == some '\r' && after != some '\n')
  | .anyLineEnd =>
    after.isNone || after == some '\r' || (after == some '\n' && before != some '\r')
  | .wordEdge ascii => isWord ascii before != isWord ascii after
  | .notWordEdge ascii => isWord ascii before == isWord ascii after
  | .wordStart ascii => !isWord ascii before && isWord ascii after
  | .wordEnd ascii => isWord ascii before && !isWord ascii after
  | .wordStartHalf ascii => !isWord ascii before
  | .wordEndHalf ascii => !isWord ascii after

end HookRules
