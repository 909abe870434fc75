import HookRules.Pattern.Basic
import HookRules.Pattern.Named

/-!
What the notation of a pattern says, part by part, and the pattern that it stands for. Flags in a
pattern change what the parts after them stand for, so a part is given the flags that are on and
gives back those that are on after it.
-/

set_option autoImplicit false

namespace HookRules.Pattern

open Unicode (CodeSet)

/-! ## Flags -/

structure Flags where
  ignoreCase : Bool
  multiLine : Bool
  dotAll : Bool
  unicode : Bool
  anyLineEnd : Bool
  deriving Repr, DecidableEq

namespace Flags

def initial (ignoreCase : Bool) : Flags := ⟨ignoreCase, false, false, true, false⟩

/-- Switches one flag. Greed can be switched too, but has no say in whether a pattern occurs. -/
def switch (flags : Flags) : Char × Bool → Flags
  | ('i', on) => { flags with ignoreCase := on }
  | ('m', on) => { flags with multiLine := on }
  | ('s', on) => { flags with dotAll := on }
  | ('u', on) => { flags with unicode := on }
  | ('R', on) => { flags with anyLineEnd := on }
  | _ => flags

def change (flags : Flags) (changes : List (Char × Bool)) : Flags := changes.foldl switch flags

/-- Closes a set under case if case does not count. Bytes know the case of ASCII letters only. -/
def fold (flags : Flags) (set : CodeSet) : CodeSet :=
  if !flags.ignoreCase then set
  else if flags.unicode then Unicode.Letter.closeUnderCase set
  else set.union ((Unicode.Letter.closeUnderCase set).inter (CodeSet.ofRanges [(0, 0x7F)]))

def negate (flags : Flags) (negated : Bool) (set : CodeSet) : CodeSet :=
  if !negated then set
  else if flags.unicode then set.complement
  else (CodeSet.ofRanges [(0, 0xFF)]).diff set

/-- Where bytes are read, a set that holds other than ASCII could divide a character. -/
def check (flags : Flags) (stretch : Stretch) (set : CodeSet) : Except Fault CodeSet :=
  if flags.unicode || set.ranges.all (fun (_, high) => high < 128) then .ok set
  else .error ⟨.invalidUtf8, stretch, none⟩

def complete (flags : Flags) (negated : Bool) (stretch : Stretch) (set : CodeSet) :
    Except Fault CodeSet :=
  flags.check stretch (flags.negate negated (flags.fold set))

def dot (flags : Flags) : CodeSet :=
  let endings := if flags.dotAll then [] else if flags.anyLineEnd then ['\n', '\r'] else ['\n']
  (CodeSet.ofRanges (endings.map fun c => (c.toNat, c.toNat))).complement

def caret (flags : Flags) : Assertion :=
  if !flags.multiLine then .textStart else if flags.anyLineEnd then .anyLineStart else .lineStart

def dollar (flags : Flags) : Assertion :=
  if !flags.multiLine then .textEnd else if flags.anyLineEnd then .anyLineEnd else .lineEnd

end Flags

/-! ## Characters and named sets -/

structure Literal where
  char : Char
  /-- Two hexadecimal digits stand for a byte where bytes are read. -/
  byte : Bool
  stretch : Stretch

namespace Literal

/-- The character outside of brackets, where a byte that is no ASCII character is refused. -/
def pattern (flags : Flags) (literal : Literal) : Except Fault Pattern :=
  if !flags.unicode && literal.byte && literal.char.toNat ≥ 128 then
    .error ⟨.invalidUtf8, literal.stretch, none⟩
  else if flags.ignoreCase && (flags.unicode || literal.char.toNat < 128) then
    .ok (.oneOf (flags.fold (CodeSet.singleton literal.char)))
  else .ok (.oneOf (CodeSet.singleton literal.char))

def member (flags : Flags) (literal : Literal) : Except Fault Char :=
  if flags.unicode || literal.char.toNat < 128 then .ok literal.char
  else
    .error ⟨if literal.byte then .invalidUtf8 else .unicodeNotAllowed, literal.stretch, none⟩

end Literal

inductive SetName
  | letter (letter : Char)
  | ascii (members : CodeSet)
  | property (name : String)
  | value (property value : String)

structure NamedSet where
  name : SetName
  negated : Bool
  stretch : Stretch

def NamedSet.members (flags : Flags) (set : NamedSet) : Except Fault CodeSet :=
  let called := fun (found : Except Problem CodeSet) =>
    match flags.unicode, found with
    | false, _ => .error ⟨.unicodeNotAllowed, set.stretch, none⟩
    | true, .error problem => .error ⟨problem, set.stretch, none⟩
    | true, .ok members => flags.complete set.negated set.stretch members
  match set.name with
  | .letter letter =>
    flags.check set.stretch (flags.negate set.negated (letterClass (!flags.unicode) letter))
  | .ascii members => flags.complete set.negated set.stretch members
  | .property name => called (byName name)
  | .value property value => called (byValue property value)

/-! ## Sets in brackets -/

inductive SetOperator
  | inter
  | diff
  | symmDiff
  deriving Repr, DecidableEq

def SetOperator.apply : SetOperator → CodeSet → CodeSet → CodeSet
  | .inter, left, right => left.inter right
  | .diff, left, right => left.diff right
  | .symmDiff, left, right => left.symmDiff right

inductive SetTree
  | empty (stretch : Stretch)
  | char (literal : Literal)
  | range (low high : Literal)
  | named (set : NamedSet)
  | bracketed (negated : Bool) (body : SetTree) (stretch : Stretch)
  | union (items : List SetTree) (stretch : Stretch)
  | operation (operator : SetOperator) (left right : SetTree)

namespace SetTree

def stretch : SetTree → Stretch
  | .empty stretch | .bracketed _ _ stretch | .union _ stretch => stretch
  | .char literal => literal.stretch
  | .range low high => ⟨low.stretch.start, high.stretch.stop⟩
  | .named set => set.stretch
  | .operation _ left right => ⟨left.stretch.start, right.stretch.stop⟩

/-- Several items are one set, and a single one is that set itself. -/
def ofItems (place : List Char) : List SetTree → SetTree
  | [] => .empty ⟨place, place⟩
  | [item] => item
  | first :: rest =>
    .union (first :: rest)
      ⟨first.stretch.start, (rest.getLast?.getD first).stretch.stop⟩

mutual

/-- The first part, from the outside, that is deeper than so many levels. -/
def tooDeep? : Nat → SetTree → Option Stretch
  | _, .empty _ | _, .char _ | _, .range _ _ | _, .named _ => none
  | 0, .bracketed _ _ stretch | 0, .union _ stretch => some stretch
  | 0, .operation _ left right => some ⟨left.stretch.start, right.stretch.stop⟩
  | levels + 1, .bracketed _ body _ => tooDeep? levels body
  | levels + 1, .union items _ => anyTooDeep? levels items
  | levels + 1, .operation _ left right => tooDeep? levels left <|> tooDeep? levels right

def anyTooDeep? (levels : Nat) : List SetTree → Option Stretch
  | [] => none
  | item :: rest => tooDeep? levels item <|> anyTooDeep? levels rest

end

mutual

def members (flags : Flags) : SetTree → Except Fault CodeSet
  | .empty _ => .ok CodeSet.empty
  | .char literal => (literal.member flags).map CodeSet.singleton
  | .range low high => do
    let low ← low.member flags
    let high ← high.member flags
    return CodeSet.ofRanges [(low.toNat, high.toNat)]
  | .named set => set.members flags
  | .bracketed negated body stretch => do flags.complete negated stretch (← members flags body)
  | .union items _ => membersOfAll flags items
  | .operation operator left right => do
    let left ← members flags left
    let right ← members flags right
    return operator.apply (flags.fold left) (flags.fold right)

def membersOfAll (flags : Flags) : List SetTree → Except Fault CodeSet
  | [] => .ok CodeSet.empty
  | item :: rest => do
    let first ← members flags item
    return first.union (← membersOfAll flags rest)

end

end SetTree

/-! ## Patterns -/

inductive Tree
  | empty
  | flags (changes : List (Char × Bool))
  | literal (literal : Literal)
  | dot (stretch : Stretch)
  | assertion (condition : Flags → Assertion) (stretch : Stretch)
  | named (set : NamedSet)
  | set (set : SetTree)
  | repeated (least : Nat) (most : Option Nat) (body : Tree) (stop : List Char)
  | group (changes : List (Char × Bool)) (body : Tree) (stretch : Stretch)
  | choice (parts : List Tree) (stretch : Stretch)
  | sequence (parts : List Tree) (stretch : Stretch)

namespace Tree

def start : Tree → List Char
  | .empty | .flags _ => []
  | .literal given => given.stretch.start
  | .named given => given.stretch.start
  | .set given => given.stretch.start
  | .repeated _ _ body _ => body.start
  | .dot stretch | .assertion _ stretch | .group _ _ stretch | .choice _ stretch
  | .sequence _ stretch => stretch.start

def ofParts (stretch : Stretch) : List Tree → Tree
  | [] => .empty
  | [part] => part
  | parts => .sequence parts stretch

mutual

def tooDeep? : Nat → Tree → Option Stretch
  | _, .empty | _, .flags _ | _, .literal _ | _, .dot _ | _, .assertion _ _ | _, .named _ => none
  | levels, .set given => given.tooDeep? levels
  | 0, .repeated _ _ body stop => some ⟨body.start, stop⟩
  | 0, .group _ _ stretch | 0, .choice _ stretch | 0, .sequence _ stretch => some stretch
  | levels + 1, .repeated _ _ body _ | levels + 1, .group _ body _ => tooDeep? levels body
  | levels + 1, .choice parts _ | levels + 1, .sequence parts _ => anyTooDeep? levels parts

def anyTooDeep? (levels : Nat) : List Tree → Option Stretch
  | [] => none
  | part :: rest => tooDeep? levels part <|> anyTooDeep? levels rest

end

mutual

/-- The pattern of a part, and the flags that are on after it. -/
def pattern (flags : Flags) : Tree → Except Fault (Pattern × Flags)
  | .empty => .ok (.empty, flags)
  | .flags changes => .ok (.empty, flags.change changes)
  | .literal given => do return (← given.pattern flags, flags)
  | .dot stretch =>
    if flags.unicode then .ok (.oneOf flags.dot, flags)
    else .error ⟨.invalidUtf8, stretch, none⟩
  | .assertion condition _ => .ok (.assertion (condition flags), flags)
  | .named given => do return (.oneOf (← given.members flags), flags)
  | .set given => do return (.oneOf (← given.members flags), flags)
  | .repeated least most body _ => do
    let (body, flags) ← pattern flags body
    return (.repeated least most body, flags)
  | .group changes body _ => do
    let (body, _) ← pattern (flags.change changes) body
    return (body, flags)
  | .choice parts _ => do
    let (patterns, flags) ← patterns flags parts
    match patterns with
    | [] => return (.empty, flags)
    | first :: rest => return (rest.foldl .choice first, flags)
  | .sequence parts _ => do
    let (patterns, flags) ← patterns flags parts
    return (patterns.foldr .sequence .empty, flags)

def patterns (flags : Flags) : List Tree → Except Fault (List Pattern × Flags)
  | [] => .ok ([], flags)
  | part :: rest => do
    let (first, flags) ← pattern flags part
    let (others, flags) ← patterns flags rest
    return (first :: others, flags)

end

end Tree

end HookRules.Pattern
