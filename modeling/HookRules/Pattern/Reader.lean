import HookRules.Pattern.Tree
import HookRules.Text.Blank
import HookRules.Text.Numeral

/-!
The notation of patterns. Groups and sets are kept on stacks while they are open, so that reading
is a sequence of steps, each of which takes at least one character.

A text that breaks a rule of the notation is refused before anything is made of what it says, and
so is one that is nested too deep.
-/

set_option autoImplicit false

namespace HookRules.Pattern

open Unicode (CodeSet)

/-! ## White space that does not count -/

/-- The characters up to the first that fails the test, each as what is left of the text at it.
In a verbose pattern white space and comments do not count. -/
def keep (verbose : Bool) (test : Char → Bool) :
    (comment : Bool) → List Char → List (List Char) × List Char
  | _, [] => ([], [])
  | true, c :: rest => keep verbose test (c ≠ '\n') rest
  | false, c :: rest =>
    if verbose && Text.isBlank c then keep verbose test false rest
    else if verbose && c = '#' then keep verbose test true rest
    else if test c then
      let (kept, after) := keep verbose test false rest
      ((c :: rest) :: kept, after)
    else ([], c :: rest)

def skip (verbose : Bool) (text : List Char) : List Char :=
  (keep verbose (fun _ => false) false text).2

def keepText (verbose : Bool) (test : Char → Bool) (text : List Char) : List Char × List Char :=
  let (kept, after) := keep verbose test false text
  (kept.filterMap List.head?, after)

/-- The next character that counts. The first word of a comment is taken for one. -/
def peek (verbose : Bool) (text : List Char) : Option Char :=
  if !verbose then text.head?
  else match text.dropWhile Text.isBlank with
    | [] => text.head?
    | '#' :: rest => (rest.dropWhile Text.isBlank).head? <|> text.head?
    | c :: _ => c

/-! ## Escapes -/

inductive Primitive
  | literal (literal : Literal)
  | named (set : NamedSet)
  | assertion (condition : Flags → Assertion) (stretch : Stretch)

namespace Primitive

def tree : Primitive → Tree
  | .literal given => .literal given
  | .named set => .named set
  | .assertion condition stretch => .assertion condition stretch

def item : Primitive → Except Fault SetTree
  | .literal given => .ok (.char given)
  | .named set => .ok (.named set)
  | .assertion _ stretch => .error ⟨.escapeInSet, stretch, none⟩

def boundary : Primitive → Except Fault Literal
  | .literal given => .ok given
  | .named set => .error ⟨.rangeBoundary, set.stretch, none⟩
  | .assertion _ stretch => .error ⟨.rangeBoundary, stretch, none⟩

end Primitive

def charOfNumber? (digits : List Char) : Option Char :=
  let number := CodeSet.hexValue (String.ofList digits)
  if number < 0xD800 ∨ (0xE000 ≤ number ∧ number ≤ CodeSet.last) then some (Char.ofNat number)
  else none

def isHexDigit (c : Char) : Bool :=
  c.isDigit || ('a' ≤ c && c ≤ 'f') || ('A' ≤ c && c ≤ 'F')

def readHexDigits (verbose : Bool) : Nat → List Char → Except Fault (List Char × List Char)
  | 0, rest => .ok ([], rest)
  | _ + 1, [] => refuse .escapeUnfinished [] []
  | count + 1, c :: rest =>
    if isHexDigit c then
      (readHexDigits verbose count (skip verbose rest)).map fun (digits, after) =>
        (c :: digits, after)
    else refuse .hexDigit (c :: rest) rest

def readNumber (verbose : Bool) (count : Nat) (text rest : List Char) :
    Except Fault (Primitive × List Char) :=
  match skip verbose rest with
  | [] => refuse .escapeUnfinished [] []
  | '{' :: inside =>
    let (digits, after) := keepText verbose isHexDigit inside
    match after with
    | [] => refuse .escapeUnfinished ('{' :: inside) []
    | '}' :: beyond =>
      let beyond := skip verbose beyond
      if digits.isEmpty then refuse .hexEmpty ('{' :: inside) beyond
      else match charOfNumber? digits with
        | none => refuse .hexInvalid inside after
        | some c => .ok (.literal ⟨c, false, ⟨text, beyond⟩⟩, beyond)
    | _ :: beyond => refuse .hexDigit after beyond
  | number => do
    let (digits, after) ← readHexDigits verbose count number
    match charOfNumber? digits with
    | none => refuse .hexInvalid number after
    | some c => return (.literal ⟨c, count = 2, ⟨text, after⟩⟩, after)

def nameOf (name : String) : SetName × Bool :=
  let split := fun (mark : String) => match name.splitOn mark with
    | property :: value :: more => some (.value property (mark.intercalate (value :: more)))
    | _ => none
  match split "!=", split ":", split "=" with
  | some differs, _, _ => (differs, true)
  | none, some same, _ | none, none, some same => (same, false)
  | none, none, none => (.property name, false)

def readNamedSet (verbose negated : Bool) (text rest : List Char) :
    Except Fault (Primitive × List Char) :=
  match skip verbose rest with
  | [] => refuse .escapeUnfinished [] []
  | '{' :: inside =>
    let (name, after) := keepText verbose (· ≠ '}') inside
    match after with
    | [] => refuse .escapeUnfinished [] []
    | _ :: beyond =>
      let (name, differs) := nameOf (String.ofList name)
      .ok (.named ⟨name, negated != differs, ⟨text, beyond⟩⟩, beyond)
  | c :: after =>
    if c = '\\' then refuse .classInvalid (c :: after) after
    else
      let beyond := skip verbose after
      .ok (.named ⟨.property c.toString, negated, ⟨text, beyond⟩⟩, beyond)

/-- Reads what may follow `b`: the name of a kind of word boundary in braces. Braces with
anything but letters and dashes are left to be read as a count. -/
def readWordEdge (verbose : Bool) (text rest : List Char) : Except Fault (Primitive × List Char) :=
  let isNameChar := fun (c : Char) => c.isAlpha || c = '-'
  let edge := fun (kind : Bool → Assertion) (after : List Char) =>
    .ok (.assertion (fun flags => kind (!flags.unicode)) ⟨text, after⟩, after)
  match rest with
  | '{' :: inside =>
    match skip verbose inside with
    | [] => refuse .edgeUnfinished text []
    | c :: named =>
      if !isNameChar c then edge .wordEdge rest
      else
        let (name, after) := keepText verbose isNameChar (c :: named)
        match after, String.ofList name with
        | '}' :: beyond, "start" => edge .wordStart beyond
        | '}' :: beyond, "end" => edge .wordEnd beyond
        | '}' :: beyond, "start-half" => edge .wordStartHalf beyond
        | '}' :: beyond, "end-half" => edge .wordEndHalf beyond
        | '}' :: _, _ => refuse .edgeUnknown (c :: named) after
        | _, _ => refuse .edgeUnclosed rest after
  | _ => edge .wordEdge rest

def isMeta (c : Char) : Bool :=
  ['\\', '.', '+', '*', '?', '(', ')', '|', '[', ']', '{', '}', '^', '$', '#', '&', '-',
    '~'].contains c

def isEscapable (c : Char) : Bool :=
  isMeta c || (c.toNat < 128 && !c.isAlphanum && c ≠ '<' && c ≠ '>')

def readEscape (verbose : Bool) (text : List Char) : Except Fault (Primitive × List Char) :=
  match text.drop 1 with
  | [] => refuse .escapeUnfinished text []
  | c :: rest =>
    let char := fun (c : Char) => .ok (.literal ⟨c, false, ⟨text, rest⟩⟩, rest)
    let assertion := fun (condition : Flags → Assertion) =>
      .ok (.assertion condition ⟨text, rest⟩, rest)
    if c.isDigit then refuse .backreference text rest
    else if isEscapable c then char c
    else match c with
      | 'x' => readNumber verbose 2 text rest
      | 'u' => readNumber verbose 4 text rest
      | 'U' => readNumber verbose 8 text rest
      | 'p' | 'P' => readNamedSet verbose (c = 'P') text rest
      | 'd' | 's' | 'w' | 'D' | 'S' | 'W' =>
        .ok (.named ⟨.letter c.toLower, c.isUpper, ⟨text, rest⟩⟩, rest)
      | 'a' => char '\x07'
      | 'f' => char '\x0c'
      | 't' => char '\t'
      | 'n' => char '\n'
      | 'r' => char '\r'
      | 'v' => char '\x0b'
      | 'A' => assertion fun _ => .textStart
      | 'z' => assertion fun _ => .textEnd
      | 'b' => readWordEdge verbose text rest
      | 'B' => assertion fun flags => .notWordEdge (!flags.unicode)
      | '<' => assertion fun flags => .wordStart (!flags.unicode)
      | '>' => assertion fun flags => .wordEnd (!flags.unicode)
      | _ => refuse .escapeUnknown text rest

/-! ## Sets in brackets -/

/-- A set in brackets that is still open: what stands before the last operator, and the items
after it with the last first. -/
structure OpenSet where
  negated : Bool
  opening : Stretch
  operation : Option (SetOperator × SetTree)
  items : List SetTree
  place : List Char

namespace OpenSet

def add (set : OpenSet) (item : SetTree) : OpenSet := { set with items := item :: set.items }

def combined (set : OpenSet) : SetTree :=
  let right := SetTree.ofItems set.place set.items.reverse
  match set.operation with
  | none => right
  | some (operator, left) => .operation operator left right

def operate (set : OpenSet) (operator : SetOperator) (place : List Char) : OpenSet :=
  { set with operation := some (operator, set.combined), items := [], place }

def close (set : OpenSet) (stop : List Char) : SetTree :=
  .bracketed set.negated set.combined ⟨set.opening.start, stop⟩

def unclosed {Answer : Type} (set : OpenSet) : Except Fault Answer :=
  .error ⟨.setUnclosed, set.opening, none⟩

end OpenSet

/-- Opens a set at its bracket, which begins the text: the sign of negation, dashes, and a closing
bracket that comes first. -/
def openSet (verbose : Bool) (text : List Char) : Except Fault (OpenSet × List Char) :=
  let (negated, inside) := match skip verbose (text.drop 1) with
    | '^' :: rest => (true, skip verbose rest)
    | rest => (false, rest)
  let char := fun (left : List Char) => SetTree.char ⟨left.headD ' ', false, ⟨left, left.drop 1⟩⟩
  let opened := fun (items : List (List Char)) (rest : List Char) =>
    .ok (⟨negated, ⟨text, rest⟩, none, (items.map char).reverse, inside⟩, rest)
  let (dashes, rest) := keep verbose (· = '-') false inside
  match dashes, rest with
  | [], [] => refuse .setUnclosed text []
  | _, [] => refuse .setUnclosed text text
  | [], ']' :: after =>
    match skip verbose after with
    | [] => refuse .setUnclosed text []
    | after => opened [rest] after
  | dashes, rest => opened dashes rest

def readPrimitive (verbose : Bool) : List Char → Except Fault (Primitive × List Char)
  | [] => refuse .escapeUnfinished [] []
  | c :: rest =>
    if c = '\\' then readEscape verbose (c :: rest)
    else .ok (.literal ⟨c, false, ⟨c :: rest, rest⟩⟩, rest)

/-- Reads an item, or a range between two characters. A dash before the closing bracket or
before another dash is an item of its own. -/
def readItem (verbose : Bool) (set : OpenSet) (text : List Char) :
    Except Fault (SetTree × List Char) := do
  let (first, after) ← readPrimitive verbose text
  match skip verbose after with
  | [] => set.unclosed
  | '-' :: rest =>
    if (peek verbose rest).any fun c => c = ']' || c = '-' then
      return (← first.item, '-' :: rest)
    match skip verbose rest with
    | [] => set.unclosed
    | next =>
      let (last, after) ← readPrimitive verbose next
      let low ← first.boundary
      let high ← last.boundary
      if low.char ≤ high.char then return (.range low high, after)
      else refuse .rangeReversed low.stretch.start high.stretch.stop
  | rest => return (← first.item, rest)

def readAsciiClass? (text : List Char) : Option (SetTree × List Char) :=
  match text with
  | '[' :: ':' :: rest =>
    let (negated, rest) := match rest with
      | '^' :: rest => (true, rest)
      | rest => (false, rest)
    let name := rest.takeWhile (· ≠ ':')
    match rest.drop name.length with
    | ':' :: ']' :: after => (asciiClass? (String.ofList name)).map fun members =>
      (.named ⟨.ascii members, negated, ⟨text, after⟩⟩, after)
    | _ => none
  | _ => none

/-- Reads sets in brackets until the outermost is closed. `outer` holds the sets around `set`.
Every step takes a character, so `steps` need not exceed the length of the text. -/
def readSet (verbose : Bool) : (steps : Nat) → (outer : List OpenSet) → (set : OpenSet) →
    List Char → Except Fault (SetTree × List Char)
  | 0, _, set, _ => set.unclosed
  | steps + 1, outer, set, text =>
    match skip verbose text with
    | [] => set.unclosed
    | '[' :: rest =>
      match readAsciiClass? ('[' :: rest) with
      | some (named, after) => readSet verbose steps outer (set.add named) after
      | none => do
        let (inner, after) ← openSet verbose ('[' :: rest)
        readSet verbose steps (set :: outer) inner after
    | ']' :: rest =>
      match outer with
      | [] => .ok (set.close rest, rest)
      | around :: outer => readSet verbose steps outer (around.add (set.close rest)) rest
    | '&' :: '&' :: rest => readSet verbose steps outer (set.operate .inter rest) rest
    | '-' :: '-' :: rest => readSet verbose steps outer (set.operate .diff rest) rest
    | '~' :: '~' :: rest => readSet verbose steps outer (set.operate .symmDiff rest) rest
    | rest => do
      let (item, after) ← readItem verbose set rest
      readSet verbose steps outer (set.add item) after

/-! ## Counts -/

/-- Reads a decimal numeral of at most 32 bits, with white space around it. The text goes on after
it also where there is no such numeral. -/
def readCount (verbose : Bool) (text : List Char) : Except Fault Nat × List Char :=
  let start := text.dropWhile Text.isBlank
  let (digits, after) := keepText verbose Char.isDigit start
  let number := digits.foldl (fun value c => value * 10 + (c.toNat - '0'.toNat)) 0
  let result := if digits.isEmpty then refuse .countEmpty start after
    else if Text.maxWord32 < number then refuse .numberInvalid start after
    else .ok number
  (result, after.dropWhile Text.isBlank)

/-- Reads the count of a repetition at its brace: one number, or a number and a comma, or two
numbers in order. A question mark after it only tells its greed. -/
def readCounts (verbose : Bool) (text : List Char) :
    Except Fault ((Nat × Option Nat) × List Char) := do
  let inside := skip verbose (text.drop 1)
  if inside.isEmpty then refuse .countUnclosed text []
  let (least, after) := readCount verbose inside
  let result : Except Fault ((Nat × Option Nat) × List Char) := match after with
    | [] => refuse .countUnclosed text []
    | ',' :: rest =>
      match skip verbose rest with
      | [] => refuse .countUnclosed text []
      | '}' :: rest => least.map fun least => ((least, none), '}' :: rest)
      | rest => do
        let least ← least
        let (most, after) := readCount verbose rest
        return ((least, some (← most)), after)
    | after => least.map fun least => ((least, some least), after)
  let (counts, after) ← result
  match after with
  | '}' :: beyond =>
    let stop := match skip verbose beyond with
      | '?' :: stop => stop
      | stop => stop
    if counts.2.any (· < counts.1) then refuse .countReversed text stop
    else return (counts, stop)
  | _ => refuse .countUnclosed text after

/-! ## Groups -/

/-- What is being read: the alternatives that are complete, and the parts of the one being read,
both with the last first, and what is left of the text where the first alternative begins and
where the last does. -/
structure Level where
  alternatives : List Tree
  parts : List Tree
  first : List Char
  start : List Char

namespace Level

def begin (place : List Char) : Level := ⟨[], [], place, place⟩

def push (level : Level) (part : Tree) : Level := { level with parts := part :: level.parts }

def last (level : Level) (stop : List Char) : Tree :=
  .ofParts ⟨level.start, stop⟩ level.parts.reverse

def alternate (level : Level) (bar next : List Char) : Level :=
  { level with alternatives := level.last bar :: level.alternatives, parts := [], start := next }

def whole (level : Level) (stop : List Char) : Tree :=
  match level.alternatives with
  | [] => level.last stop
  | alternatives => .choice (alternatives.reverse ++ [level.last stop]) ⟨level.first, stop⟩

end Level

/-- A group that is open: what was being read around it, its bracket, the flags it changes, and
whether patterns are verbose around it. -/
structure OpenGroup where
  around : Level
  bracket : Stretch
  changes : List (Char × Bool)
  verbose : Bool

structure ReaderState where
  level : Level
  outer : List OpenGroup
  verbose : Bool
  names : List (List Char × Stretch)

def isNameStart (c : Char) : Bool := c = '_' || Unicode.Property.alphabetic.contains c

def isNameRest (c : Char) : Bool :=
  isNameStart c || c = '.' || c = '[' || c = ']' || (Unicode.Category.withLead "N").contains c

def readName (valid : Char → Bool) : List Char → Except Fault (List Char × List Char)
  | [] => refuse .nameUnclosed [] []
  | c :: rest =>
    if c = '>' then .ok ([], rest)
    else if !valid c then refuse .nameInvalid (c :: rest) rest
    else (readName isNameRest rest).map fun (name, after) => (c :: name, after)

def flagLetters : List Char := ['i', 'm', 's', 'U', 'u', 'R', 'x']

/-- Reads flags up to a colon or a closing bracket, which is given back with what follows. Each
flag may stand once, and one dash may, though not at the end. `seen` holds those before, the last
first. -/
def readFlags (seen : List (Char × Stretch)) :
    List Char → Except Fault (List (Char × Stretch) × List Char)
  | [] => refuse .flagMissing [] []
  | c :: rest =>
    let stretch : Stretch := ⟨c :: rest, rest⟩
    if c = ':' ∨ c = ')' then
      match seen with
      | ('-', dash) :: _ => .error ⟨.negationDangling, dash, none⟩
      | _ => .ok (seen.reverse, c :: rest)
    else if c ≠ '-' && !flagLetters.contains c then
      .error ⟨.flagUnknown, stretch, none⟩
    else match seen.lookup c with
      | some earlier =>
        .error ⟨if c = '-' then .negationTwice else .flagTwice, stretch, some earlier⟩
      | none => readFlags ((c, stretch) :: seen) rest

def changesOf (flags : List Char) : List (Char × Bool) :=
  let on := flags.takeWhile (· ≠ '-')
  on.map (·, true) ++ (flags.drop (on.length + 1)).map (·, false)

namespace ReaderState

def push (state : ReaderState) (part : Tree) : ReaderState :=
  { state with level := state.level.push part }

def switch (state : ReaderState) (changes : List (Char × Bool)) : ReaderState :=
  { state with verbose := (changes.lookup 'x').getD state.verbose }

def openGroup (state : ReaderState) (bracket : List Char) (changes : List (Char × Bool))
    (inside : List Char) : ReaderState :=
  { state with
    level := .begin inside
    outer := ⟨state.level, ⟨bracket, bracket.drop 1⟩, changes, state.verbose⟩ :: state.outer }
  |>.switch changes

def closeGroup (state : ReaderState) (text : List Char) : Except Fault ReaderState :=
  let rest := text.drop 1
  match state.outer with
  | [] => refuse .groupUnopened text rest
  | group :: outer =>
    let body := state.level.whole text
    .ok { state with
      level := group.around.push (.group group.changes body ⟨group.bracket.start, rest⟩)
      outer := outer
      verbose := group.verbose }

def openNamed (state : ReaderState) (bracket text : List Char) :
    Except Fault (ReaderState × List Char) := do
  let (name, after) ← readName isNameStart text
  let stretch : Stretch := ⟨text, text.drop name.length⟩
  if name.isEmpty then refuse .nameEmpty text text
  match state.names.lookup name with
  | some earlier => .error ⟨.nameTwice, stretch, some earlier⟩
  | none =>
    return ({ state.openGroup bracket [] after with
      names := (name, stretch) :: state.names }, after)

def openBracket (state : ReaderState) (text : List Char) :
    Except Fault (ReaderState × List Char) :=
  let inner := skip state.verbose (text.drop 1)
  match inner with
  | '?' :: '=' :: rest | '?' :: '!' :: rest
  | '?' :: '<' :: '=' :: rest | '?' :: '<' :: '!' :: rest => refuse .lookAround text rest
  | '?' :: 'P' :: '<' :: rest | '?' :: '<' :: rest => state.openNamed text rest
  | ['?'] => refuse .groupUnclosed text (text.drop 1)
  | '?' :: rest => do
    let (flags, ending) ← readFlags [] rest
    let changes := changesOf (flags.map Prod.fst)
    let after := ending.drop 1
    if ending.head? = some ':' then return (state.openGroup text changes after, after)
    else if flags.isEmpty then refuse .nothingRepeated inner inner
    else return ((state.switch changes).push (.flags changes), after)
  | rest => .ok (state.openGroup text [] rest, rest)

def takeLast (state : ReaderState) (text : List Char) : Except Fault (Tree × ReaderState) :=
  match state.level.parts with
  | [] | .empty :: _ | .flags _ :: _ => refuse .nothingRepeated text text
  | part :: before => .ok (part, { state with level := { state.level with parts := before } })

def repeated (state : ReaderState) (least : Nat) (most : Option Nat) (text : List Char) :
    Except Fault (ReaderState × List Char) := do
  let (part, state) ← state.takeLast text
  let stop := match text.drop 1 with
    | '?' :: stop => stop
    | stop => stop
  return (state.push (.repeated least most part stop), stop)

def step (state : ReaderState) (text : List Char) : Except Fault (ReaderState × List Char) :=
  let verbose := state.verbose
  let leaf := fun (part : Tree) (rest : List Char) => .ok (state.push part, rest)
  match text with
  | [] => .ok (state, [])
  | '(' :: _ => state.openBracket text
  | ')' :: rest => do return (← state.closeGroup text, rest)
  | '|' :: rest => .ok ({ state with level := state.level.alternate text rest }, rest)
  | '[' :: _ => do
    let (set, after) ← openSet verbose text
    let (set, after) ← readSet verbose text.length [] set after
    return (state.push (.set set), after)
  | '?' :: _ => state.repeated 0 (some 1) text
  | '*' :: _ => state.repeated 0 none text
  | '+' :: _ => state.repeated 1 none text
  | '{' :: _ => do
    let (part, state) ← state.takeLast text
    let ((least, most), stop) ← readCounts verbose text
    return (state.push (.repeated least most part stop), stop)
  | '.' :: rest => leaf (.dot ⟨text, rest⟩) rest
  | '^' :: rest => leaf (.assertion Flags.caret ⟨text, rest⟩) rest
  | '$' :: rest => leaf (.assertion Flags.dollar ⟨text, rest⟩) rest
  | _ => do
    let (primitive, after) ← readPrimitive verbose text
    return (state.push primitive.tree, after)

def run : (steps : Nat) → ReaderState → List Char → Except Fault Tree
  | 0, state, _ => .ok (state.level.whole [])
  | steps + 1, state, text =>
    match skip state.verbose text with
    | [] =>
      match state.outer with
      | [] => .ok (state.level.whole [])
      | group :: _ => .error ⟨.groupUnclosed, group.bracket, none⟩
    | rest => do
      let (state, after) ← state.step rest
      run steps state after

end ReaderState

def read (ignoreCase : Bool) (text : String) : Except Fault Pattern := do
  let text := text.toList
  let tree ← ReaderState.run (text.length + 1) ⟨.begin text, [], false, []⟩ text
  match tree.tooDeep? depthLimit with
  | some stretch => .error ⟨.tooDeep, stretch, none⟩
  | none => return (← tree.pattern (.initial ignoreCase)).1

end HookRules.Pattern
