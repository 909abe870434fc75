import HookRules.Shell.Syntax

/-!
Cutting a script into words and signs.
-/

set_option autoImplicit false

namespace HookRules.Shell

inductive Token
  | word (word : Word)
  | redirect (stream : Option Nat) (sign : String)
  | sign (sign : String)
  deriving Repr, DecidableEq, Inhabited

namespace Token

def isNameStart (c : Char) : Bool := c.isAlpha || c = '_'

def isNameRest (c : Char) : Bool := c.isAlphanum || c = '_'

/-- Reads up to the bracket that closes a command whose opening bracket was read; `depth` counts
the brackets that are open inside. -/
def readNested (depth : Nat) : List Char → Option (List Char × List Char)
  | [] => none
  | c :: rest =>
    let go := fun (depth : Nat) =>
      (readNested depth rest).map fun (inside, after) => (c :: inside, after)
    if c = '(' then go (depth + 1)
    else if c = ')' then match depth with
      | 0 => some ([], rest)
      | depth + 1 => go depth
    else go depth

def readTo (mark : Char) : List Char → Option (List Char × List Char)
  | [] => none
  | c :: rest =>
    if c = mark then some ([], rest)
    else (readTo mark rest).map fun (inside, after) => (c :: inside, after)

def readDollar (quoted : Bool) (text : List Char) : Option (WordPart × List Char) :=
  match text with
  | '(' :: rest => (readNested 0 rest).map fun (source, after) => (.output source quoted, after)
  | '{' :: rest => (readTo '}' rest).map fun (name, after) =>
    (.parameter (String.ofList name) quoted, after)
  | c :: rest =>
    if c.isDigit || "@*#?$!-".toList.contains c then some (.parameter c.toString quoted, rest)
    else if isNameStart c then
      let name := text.takeWhile isNameRest
      some (.parameter (String.ofList name) quoted, text.drop name.length)
    else some (.text ['$'] quoted, text)
  | [] => some (.text ['$'] quoted, [])

/-- Reads the inside of double quotes. Every step takes a character. -/
def readDouble : (steps : Nat) → List Char → Option (Word × List Char)
  | 0, _ => none
  | _, [] => none
  | steps + 1, c :: rest =>
    let go := fun (part : WordPart) (after : List Char) =>
      (readDouble steps after).map fun (parts, after) => (part :: parts, after)
    if c = '"' then some ([], rest)
    else if c = '\\' then match rest with
      | [] => none
      | next :: after =>
        if next = '\n' then readDouble steps after
        else if ['$', '"', '\\', '\x60'].contains next then go (.text [next] true) after
        else go (.text ['\\', next] true) after
    else if c = '$' then (readDollar true rest).bind fun (part, after) => go part after
    else if c = '\x60' then (readTo '\x60' rest).bind fun (source, after) =>
      go (.output source true) after
    else go (.text [c] true) rest

def signs : List String := [";;", "&&", "||", ";", "&", "|", "(", ")", "\n"]

def redirectSigns : List String := [">>", ">&", "<&", ">|", ">", "<"]

def signAt? (signs : List String) (text : List Char) : Option (String × List Char) :=
  (signs.find? fun sign => sign.toList.isPrefixOf text).map fun sign =>
    (sign, text.drop sign.length)

def streamOf? (begun : Option Word) : Option Nat :=
  begun.bind fun parts =>
    let digits := parts.flatMap fun part =>
      match part with
      | .text chars false => chars
      | _ => ['x']
    if digits.isEmpty || !digits.all Char.isDigit then none else (String.ofList digits).toNat?

def finished (begun : Option Word) : List Token := (begun.map Token.word).toList

/-- Cuts a script. `begun` is the word being read, if there is one. No answer means that a
quotation is open. -/
def scan : (steps : Nat) → (begun : Option Word) → List Char → Option (List Token)
  | 0, _, _ => none
  | _, begun, [] => some (finished begun)
  | steps + 1, begun, text@(c :: rest) =>
    let extend := fun (parts : Word) (after : List Char) =>
      scan steps (some (begun.getD [] ++ parts)) after
    if c = ' ' ∨ c = '\t' then (scan steps none rest).map (finished begun ++ ·)
    else if c = '#' ∧ begun.isNone then scan steps none (rest.dropWhile (· ≠ '\n'))
    else match signAt? redirectSigns text with
      | some (found, after) =>
        match streamOf? begun with
        | some stream => (scan steps none after).map (.redirect (some stream) found :: ·)
        | none => (scan steps none after).map (finished begun ++ .redirect none found :: ·)
      | none =>
        match signAt? signs text with
        | some (found, after) => (scan steps none after).map (finished begun ++ .sign found :: ·)
        | none =>
          if c = '\'' then (readTo '\'' rest).bind fun (inside, after) =>
            extend [.text inside true] after
          else if c = '"' then (readDouble (rest.length + 1) rest).bind fun (parts, after) =>
            extend (.text [] true :: parts) after
          else if c = '\\' then match rest with
            | [] => extend [.text ['\\'] true] []
            | next :: after => if next = '\n' then scan steps begun after
              else extend [.text [next] true] after
          else if c = '$' then (readDollar false rest).bind fun (part, after) => extend [part] after
          else if c = '\x60' then (readTo '\x60' rest).bind fun (source, after) =>
            extend [.output source false] after
          else extend [.text [c] false] rest

def plain? : Word → Option (List Char)
  | [] => some []
  | .text chars false :: rest => (plain? rest).map (chars ++ ·)
  | _ :: _ => none

end Token

def tokens? (script : List Char) : Option (List Token) := Token.scan (script.length + 1) none script

end HookRules.Shell
