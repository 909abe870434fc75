import HookRules.Pattern.Fault
import HookRules.Unicode.Age
import HookRules.Unicode.Break
import HookRules.Unicode.Letter

/-!
Sets of characters that patterns call by name. There are names without a set, which are told from
texts that are no names.
-/

set_option autoImplicit false

namespace HookRules.Pattern

open Unicode (CodeSet)

/-- Names are compared without case, spaces, dashes, underscores and anything that is not ASCII,
and a leading `is` does not count. The name `isc` alone is not shortened. -/
def plainName (name : String) : String :=
  let small := (name.toList.map Char.toLower)
  let short := match small with
    | 'i' :: 's' :: rest => rest
    | other => other
  let kept := fun (text : List Char) =>
    text.filter fun c => c ≠ ' ' && c ≠ '_' && c ≠ '-' && c.toNat < 128
  let found := kept short
  if short ≠ small ∧ found = ['c'] then "isc" else String.ofList found

def categoryGroups : List (String × String) :=
  [("c", "C"), ("other", "C"), ("l", "L"), ("letter", "L"), ("m", "M"), ("mark", "M"),
    ("combiningmark", "M"), ("n", "N"), ("number", "N"), ("p", "P"), ("punctuation", "P"),
    ("punct", "P"), ("s", "S"), ("symbol", "S"), ("z", "Z"), ("separator", "Z"),
    ("cntrl", "Cc"), ("digit", "Nd")]

def category? (name : String) : Option (Option CodeSet) :=
  match name with
  | "any" => some CodeSet.all
  | "ascii" => some (CodeSet.ofRanges [(0, 0x7F)])
  | "assigned" => some (Unicode.Category.withLead "Cn").complement
  | "lc" | "casedletter" => some Unicode.Category.casedLetters
  | "cs" | "surrogate" => some none
  | name =>
    match categoryGroups.lookup name with
    | some lead => some (Unicode.Category.withLead lead)
    | none =>
      (Unicode.Category.sets.find? fun row =>
        plainName row.1 == name || plainName row.2.1 == name).map fun row => some row.2.2

/-- The set of a script, by its name in plain form. Two scripts have a third name, and two names
stand for no script of their own. -/
def script? (find? : (String → Bool) → Option CodeSet) (name : String) :
    Option (Option CodeSet) :=
  let name := match name with
    | "qaai" => "zinh"
    | "qaac" => "copt"
    | other => other
  if ["hrkt", "katakanaorhiragana", "zzzz", "unknown"].contains name then some none
  else (find? fun given => plainName given == name).map some

/-- The set of a property, by its name in plain form. White space has a third name. Only
properties that characters either have or lack have a set. -/
def property? (name : String) : Option (Option CodeSet) :=
  let name := if name = "space" then "whitespace" else name
  if Unicode.Property.unlisted.contains name then some none
  else (Unicode.Property.find? fun given => plainName given == name).map some

/-- The set of a single name. Three names of properties give way to those of categories and
scripts. -/
def byName (name : String) : Except Problem CodeSet :=
  let name := plainName name
  let property := if ["cf", "sc", "lc"].contains name then none else property? name
  match property, category? name <|> script? Unicode.Script.find? name with
  | some (some set), _ | none, some (some set) => .ok set
  | none, some none => .error .valueUnknown
  | some none, _ | none, none => .error .propertyUnknown

def byValue (property value : String) : Except Problem CodeSet :=
  let value := plainName value
  let named := fun (given : String) => plainName given == value
  let found : Option (Option CodeSet) := match plainName property with
    | "gc" | "generalcategory" => category? value
    | "sc" | "script" => script? Unicode.Script.find? value
    | "scx" | "scriptextensions" => script? Unicode.Script.findExtended? value
    | "age" => Unicode.Age.upTo? value
    | "gcb" | "graphemeclusterbreak" => Unicode.Break.find? Unicode.Break.graphemes named
    | "wb" | "wordbreak" => Unicode.Break.find? Unicode.Break.words named
    | "sb" | "sentencebreak" => Unicode.Break.find? Unicode.Break.sentences named
    | _ => none
  match found with
  | some (some set) => .ok set
  | _ =>
    .error (if (property? (plainName property)).isSome then .valueUnknown else .propertyUnknown)

def asciiClass? (name : String) : Option CodeSet :=
  let ranges : Option (List (Char × Char)) := match name with
    | "alnum" => some [('0', '9'), ('A', 'Z'), ('a', 'z')]
    | "alpha" => some [('A', 'Z'), ('a', 'z')]
    | "ascii" => some [('\x00', '\x7f')]
    | "blank" => some [('\t', '\t'), (' ', ' ')]
    | "cntrl" => some [('\x00', '\x1f'), ('\x7f', '\x7f')]
    | "digit" => some [('0', '9')]
    | "graph" => some [('!', '~')]
    | "lower" => some [('a', 'z')]
    | "print" => some [(' ', '~')]
    | "punct" => some [('!', '/'), (':', '@'), ('[', '\x60'), ('\x7b', '~')]
    | "space" => some [('\t', '\r'), (' ', ' ')]
    | "upper" => some [('A', 'Z')]
    | "word" => some [('0', '9'), ('A', 'Z'), ('_', '_'), ('a', 'z')]
    | "xdigit" => some [('0', '9'), ('A', 'F'), ('a', 'f')]
    | _ => none
  ranges.map fun found => CodeSet.ofRanges (found.map fun (low, high) => (low.toNat, high.toNat))

def letterClass (ascii : Bool) (letter : Char) : CodeSet :=
  let byAscii := fun (name : String) => (asciiClass? name).getD CodeSet.empty
  match letter with
  | 'd' => if ascii then byAscii "digit" else Unicode.Property.decimalDigit
  | 's' => if ascii then byAscii "space" else Unicode.Property.whiteSpace
  | _ => if ascii then byAscii "word" else Unicode.Property.word

end HookRules.Pattern
