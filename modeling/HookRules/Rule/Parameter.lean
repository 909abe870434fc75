import HookRules.Document.Element
import HookRules.Rule.Error
import HookRules.Text.Blank
import HookRules.Text.Case
import HookRules.Text.Numeral

/-!
Reading the parameters of a rule from its element.
-/

set_option autoImplicit false

namespace HookRules.Element

/-- Three words mean yes, in any case and with white space around them; all else means no. -/
def readSwitch (text : String) : Bool :=
  ["1", "true", "yes"].contains (Text.asciiLower (Text.trim text))

def requireAttribute (element : Element) (name : String) : Except RuleError String :=
  match element.attribute? name with
  | some value => .ok value
  | none => .error (.missingAttribute element.name name element.span)

def requireText (element : Element) : Except RuleError String :=
  match element.text with
  | some text =>
    if Text.isBlankText text then .error (.missingText element.name element.span) else .ok text
  | none => .error (.missingText element.name element.span)

/-- The text of a child that has to be there; it may be empty. -/
def requireChildText (element : Element) (tag : String) : Except RuleError String :=
  match element.child? tag with
  | some child => .ok (child.text.getD "")
  | none => .error (.missingTag tag element.span)

/-- A switch, with the meaning of its absence. -/
def switch (element : Element) (name : String) (absent : Bool) : Bool :=
  ((element.attribute? name).map readSwitch).getD absent

/-- A number from one to `limit`, if the attribute is there. -/
def number? (element : Element) (name : String) (limit : Nat) : Except RuleError (Option Nat) :=
  match element.attribute? name with
  | none => .ok none
  | some text =>
    match Text.readNat limit (Text.trim text) with
    | .ok (value + 1) => .ok (some (value + 1))
    | _ => .error (.invalidAttribute element.name name text element.span)

end HookRules.Element
