import HookRules.Shell.Token

/-!
The commands of a script. Every step takes a token or goes one construct deeper, so the number
of steps is bounded by that of the tokens; no answer means that a script breaks the grammar.
-/

set_option autoImplicit false

namespace HookRules.Shell

namespace Reader

def keyword? : List Token → Option String
  | .word word :: _ => (Token.plain? word).map String.ofList
  | _ => none

def closers : List String := ["then", "do", "done", "fi", "else", "elif", "esac", "\x7d"]

def atEnd (tokens : List Token) : Bool :=
  match tokens with
  | [] => true
  | .sign sign :: _ => sign = ")" || sign = ";;"
  | _ => (keyword? tokens).any closers.contains

def skipLines : List Token → List Token
  | .sign "\n" :: rest => skipLines rest
  | tokens => tokens

def skipDividers : List Token → List Token
  | .sign "\n" :: rest => skipDividers rest
  | .sign ";" :: rest => skipDividers rest
  | tokens => tokens

def expect (word : String) (tokens : List Token) : Option (List Token) :=
  if keyword? tokens = some word then some (tokens.drop 1) else none

/-- The kind of a redirection, and the stream that it concerns unless it says. -/
def redirectionOf : String → RedirectionKind × Nat
  | ">>" => (.append, 1)
  | ">&" => (.same, 1)
  | "<&" => (.same, 0)
  | "<" => (.read, 0)
  | _ => (.write, 1)

def readRedirections : List Token → Option (List Redirection × List Token)
  | .redirect stream sign :: .word target :: rest =>
    let (kind, usual) := redirectionOf sign
    (readRedirections rest).map fun (found, after) =>
      (⟨stream.getD usual, kind, target⟩ :: found, after)
  | .redirect _ _ :: _ => none
  | tokens => some ([], tokens)

def assignment? (word : Word) : Option (String × Word) :=
  let name := (word.takeWhile fun part =>
    match part with
    | .text [c] false => Token.isNameRest c
    | _ => false)
  match Token.plain? name, word.drop name.length with
  | some (first :: more), .text ['='] false :: value =>
    if Token.isNameStart first then some (String.ofList (first :: more), value) else none
  | _, _ => none

def readSimple : List Token → Option ((List Word × List Redirection) × List Token)
  | .word word :: rest => (readSimple rest).map fun ((words, redirections), after) =>
    ((word :: words, redirections), after)
  | .redirect stream sign :: .word target :: rest =>
    let (kind, usual) := redirectionOf sign
    (readSimple rest).map fun ((words, redirections), after) =>
      ((words, ⟨stream.getD usual, kind, target⟩ :: redirections), after)
  | .redirect _ _ :: _ => none
  | tokens => some (([], []), tokens)

def cutAssignments : List Word → List (String × Word) × List Word
  | [] => ([], [])
  | word :: rest =>
    match assignment? word with
    | some found =>
      let (assignments, words) := cutAssignments rest
      (found :: assignments, words)
    | none => ([], word :: rest)

def readWords : List Token → List Word × List Token
  | .word word :: rest =>
    let (words, after) := readWords rest
    (word :: words, after)
  | tokens => ([], tokens)

def readPatterns : List Token → Option (List Word × List Token)
  | .word word :: .sign ")" :: rest => some ([word], rest)
  | .word word :: .sign "|" :: rest =>
    (readPatterns rest).map fun (patterns, after) => (word :: patterns, after)
  | _ => none

mutual

def readList : Nat → List Token → Option (Command × List Token)
  | 0, _ => none
  | steps + 1, tokens =>
    let tokens := skipLines tokens
    if atEnd tokens then some (.nothing, tokens)
    else (readPipeline steps tokens).bind fun (first, after) =>
      (readChain steps first after).bind fun (first, after) =>
        match after with
        | .sign ";" :: rest | .sign "\n" :: rest | .sign "&" :: rest =>
          (readList steps rest).map fun (second, after) => (.sequence first second, after)
        | _ => some (first, after)

def readChain : Nat → Command → List Token → Option (Command × List Token)
  | 0, _, _ => none
  | steps + 1, first, tokens =>
    match tokens with
    | .sign "&&" :: rest => (readPipeline steps (skipLines rest)).bind fun (second, after) =>
      readChain steps (.both first second) after
    | .sign "||" :: rest => (readPipeline steps (skipLines rest)).bind fun (second, after) =>
      readChain steps (.either first second) after
    | _ => some (first, tokens)

def readPipeline : Nat → List Token → Option (Command × List Token)
  | 0, _ => none
  | steps + 1, tokens =>
    if keyword? tokens = some "!" then
      (readPipeline steps (tokens.drop 1)).map fun (body, after) => (.negated body, after)
    else (readCommand steps tokens).bind fun (first, after) =>
      match after with
      | .sign "|" :: rest => (readPipeline steps (skipLines rest)).map fun (second, after) =>
        (.pipe first second, after)
      | _ => some (first, after)

def readCommand : Nat → List Token → Option (Command × List Token)
  | 0, _ => none
  | steps + 1, tokens =>
    let grouped := fun (apart : Bool) (body : Command) (after : List Token) =>
      (readRedirections after).map fun (redirections, after) =>
        (Command.group apart body redirections, after)
    match tokens with
    | .sign "(" :: rest => (readList steps rest).bind fun (body, after) =>
      match after with
      | .sign ")" :: after => grouped true body after
      | _ => none
    | _ =>
      match keyword? tokens with
      | some "\x7b" => (readList steps (tokens.drop 1)).bind fun (body, after) =>
        (expect "\x7d" after).bind fun after => grouped false body after
      | some "if" => (readBranch steps (tokens.drop 1)).bind fun (body, after) =>
        grouped false body after
      | some "while" => (readLoop steps true (tokens.drop 1)).bind fun (body, after) =>
        grouped false body after
      | some "until" => (readLoop steps false (tokens.drop 1)).bind fun (body, after) =>
        grouped false body after
      | some "for" => (readFor steps (tokens.drop 1)).bind fun (body, after) =>
        grouped false body after
      | some "case" =>
        match tokens.drop 1 with
        | .word word :: rest => (expect "in" (skipLines rest)).bind fun rest =>
          (readClauses steps word rest).bind fun (body, after) => grouped false body after
        | _ => none
      | _ => (readSimple tokens).bind fun ((words, redirections), after) =>
        if words.isEmpty && redirections.isEmpty then none
        else
          let (assignments, words) := cutAssignments words
          some (.simple assignments words redirections, after)

def readBranch : Nat → List Token → Option (Command × List Token)
  | 0, _ => none
  | steps + 1, tokens =>
    (readList steps tokens).bind fun (condition, after) =>
      (expect "then" after).bind fun after =>
        (readList steps after).bind fun (yes, after) =>
          match keyword? after with
          | some "fi" => some (.branch condition yes .nothing, after.drop 1)
          | some "else" => (readList steps (after.drop 1)).bind fun (no, after) =>
            (expect "fi" after).map fun after => (.branch condition yes no, after)
          | some "elif" => (readBranch steps (after.drop 1)).map fun (no, after) =>
            (.branch condition yes no, after)
          | _ => none

def readLoop : Nat → Bool → List Token → Option (Command × List Token)
  | 0, _, _ => none
  | steps + 1, expected, tokens =>
    (readList steps tokens).bind fun (condition, after) =>
      (expect "do" after).bind fun after =>
        (readList steps after).bind fun (body, after) =>
          (expect "done" after).map fun after => (.repeatWhile expected condition body, after)

def readFor : Nat → List Token → Option (Command × List Token)
  | 0, _ => none
  | steps + 1, tokens =>
    (keyword? tokens).bind fun name =>
      let rest := skipLines (tokens.drop 1)
      let (words, rest) := if keyword? rest = some "in" then
          let (words, rest) := readWords (rest.drop 1)
          (some words, rest)
        else (none, rest)
      (expect "do" (skipDividers rest)).bind fun after =>
        (readList steps after).bind fun (body, after) =>
          (expect "done" after).map fun after => (.forEach name words body, after)

def readClauses : Nat → Word → List Token → Option (Command × List Token)
  | 0, _, _ => none
  | steps + 1, word, tokens =>
    let tokens := skipLines tokens
    if keyword? tokens = some "esac" then some (.nothing, tokens.drop 1)
    else
      let tokens := match tokens with
        | .sign "(" :: rest => rest
        | tokens => tokens
      (readPatterns tokens).bind fun (patterns, after) =>
        (readList steps after).bind fun (body, after) =>
          let after := match after with
            | .sign ";;" :: rest => rest
            | rest => rest
          (readClauses steps word after).map fun (next, after) =>
            (.clause word patterns body next, after)

end

end Reader

def read? (script : List Char) : Option Command :=
  (tokens? script).bind fun tokens =>
    match Reader.readList (8 * tokens.length + 8) tokens with
    | some (command, []) => some command
    | _ => none

end HookRules.Shell
