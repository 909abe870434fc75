import HookRules.Token.Store
import HookRules.Unicode.Property

/-!
Placeholders in texts. A placeholder is a dollar sign followed by a name in braces; the name is
a run of letters, digits, marks and connectors of any script. Expansion puts the values of set
tokens in place of their placeholders, pass after pass, until a pass finds none.
-/

set_option autoImplicit false

namespace HookRules

def isNameChar (c : Char) : Bool :=
  if c.toNat < 128 then c.isAlphanum || c = '_' else Unicode.Property.word.contains c

/-- A text is a sequence of characters that stand for themselves and of placeholders. -/
inductive Fragment
  | char (c : Char)
  | placeholder (name : List Char)
  deriving Repr, DecidableEq

namespace Fragment

def source : Fragment → List Char
  | .char c => [c]
  | .placeholder name => ['$', '{'] ++ name ++ ['}']

def name? : List Char → Option (List Char)
  | '{' :: rest =>
    let name := rest.takeWhile isNameChar
    match name, rest.drop name.length with
    | _ :: _, '}' :: _ => some name
    | _, _ => none
  | _ => none

/-- The fragments of a text whose first `skip` characters belong to a placeholder already read. -/
def scan (skip : Nat) : List Char → List Fragment
  | [] => []
  | c :: rest =>
    match skip with
    | more + 1 => scan more rest
    | 0 => match if c = '$' then name? rest else none with
      | some name => .placeholder name :: scan (name.length + 2) rest
      | none => .char c :: scan 0 rest

def ofText (text : List Char) : List Fragment := scan 0 text

end Fragment

namespace Tokens

def valueOf? (tokens : Tokens) : Fragment → Option String
  | .char _ => none
  | .placeholder name => tokens.lookup? (String.ofList name)

/-- One pass: every placeholder of a set token becomes its value, and all else stays. -/
def substitute (tokens : Tokens) (fragments : List Fragment) : List Char :=
  fragments.flatMap fun fragment =>
    match tokens.valueOf? fragment with
    | some value => value.toList
    | none => fragment.source

/-- How many passes expansion may take, the last of which must find nothing to do. -/
def passLimit : Nat := 12

def expandWithin (tokens : Tokens) : Nat → List Char → Option (List Char)
  | 0, _ => none
  | passes + 1, text =>
    let fragments := Fragment.ofText text
    if fragments.any fun fragment => (tokens.valueOf? fragment).isSome then
      tokens.expandWithin passes (tokens.substitute fragments)
    else some text

/-- The text with every placeholder of a set token replaced, placeholders inside values
included. Placeholders of unset tokens stay. -/
def expand (tokens : Tokens) (text : String) : Except TokenError String :=
  match tokens.expandWithin passLimit text.toList with
  | some expanded => .ok (String.ofList expanded)
  | none => .error (.tooDeep text)

end Tokens

end HookRules
