import HookRules.Shell.Program.Basic

/-!
The program that ends with success if a condition on its arguments holds.
-/

set_option autoImplicit false

namespace HookRules.Shell

inductive ConditionFault
  | unexpected (word : String)
  | notNumber (word : String)
  | noArgument (operator : String)
  | noBracket
  deriving Repr, DecidableEq

/-- The wording of the shell's own command, or else of the program. -/
def ConditionFault.message (own : Bool) (fault : ConditionFault) : String :=
  match fault, own with
  | unexpected word, true => word ++ ": unexpected operator"
  | unexpected word, false => "extra argument '" ++ word ++ "'"
  | notNumber word, true => "Illegal number: " ++ word
  | notNumber word, false => "invalid integer '" ++ word ++ "'"
  | noArgument operator, true => operator ++ ": argument expected"
  | noArgument operator, false => "missing argument after '" ++ operator ++ "'"
  | noBracket, true => "missing ]"
  | noBracket, false => "missing ']'"

namespace Condition

def onOne? (operator : String) : Option (Files → String → Bool) :=
  let onNode := fun (test : Node → Bool) => some fun (files : Files) (operand : String) =>
    match files.locate operand with
    | .ok (.found _ node) => test node
    | _ => false
  match operator with
  | "-n" => some fun _ operand => !operand.isEmpty
  | "-z" => some fun _ operand => operand.isEmpty
  | "-t" | "-L" | "-h" => some fun _ _ => false
  | "-e" | "-r" | "-w" => onNode fun _ => true
  | "-f" => onNode fun node => (node matches .file _ _)
  | "-d" => onNode fun node => (node matches .folder)
  | "-s" => onNode fun node => !(node matches .file [] _)
  | "-x" => onNode fun node => !(node matches .file _ false)
  | _ => none

def readInteger (word : String) : Except ConditionFault Int :=
  let chars := (word.toList.dropWhile (· = ' ')).reverse.dropWhile (· = ' ') |>.reverse
  let (negative, digits) := match chars with
    | '-' :: rest => (true, rest)
    | '+' :: rest => (false, rest)
    | rest => (false, rest)
  if digits.isEmpty || !digits.all Char.isDigit then .error (.notNumber word)
  else
    let value : Int := digits.foldl (fun value c => value * 10 + (c.toNat - '0'.toNat)) 0
    .ok (if negative then -value else value)

def onTwo? (operator : String) : Option (String → String → Except ConditionFault Bool) :=
  let onNumbers := fun (test : Int → Int → Bool) => some fun (left right : String) => do
    let first ← readInteger left
    let second ← readInteger right
    return test first second
  match operator with
  | "=" | "==" => some fun left right => .ok (left == right)
  | "!=" => some fun left right => .ok (left != right)
  | "-eq" => onNumbers (· == ·)
  | "-ne" => onNumbers (· != ·)
  | "-lt" => onNumbers (· < ·)
  | "-le" => onNumbers (· ≤ ·)
  | "-gt" => onNumbers (· > ·)
  | "-ge" => onNumbers (· ≥ ·)
  | _ => none

def single (files : Files) : List String → Except ConditionFault (Bool × List String)
  | [] => .ok (false, [])
  | "!" :: next :: rest => do
    let (value, rest) ← single files (next :: rest)
    return (!value, rest)
  | word :: rest =>
    match rest with
    | operator :: rest =>
      match onTwo? operator, rest with
      | some test, right :: rest => (test word right).map fun value => (value, rest)
      | two, _ =>
        match onOne? word with
        | some test => .ok (test files operator, rest)
        | none =>
          if two.isSome then .error (.noArgument operator)
          else .ok (!word.isEmpty, operator :: rest)
    | [] => .ok (!word.isEmpty, [])

/-- Conditions that all have to hold. Of the words at most `steps` conditions are read. -/
def all (files : Files) : (steps : Nat) → List String → Except ConditionFault (Bool × List String)
  | 0, words => .ok (false, words)
  | steps + 1, words => do
    match ← single files words with
    | (first, "-a" :: rest) =>
      let (second, rest) ← all files steps rest
      return (first && second, rest)
    | found => return found

def any (files : Files) : (steps : Nat) → List String → Except ConditionFault (Bool × List String)
  | 0, words => .ok (false, words)
  | steps + 1, words => do
    match ← all files (steps + 1) words with
    | (first, "-o" :: rest) =>
      let (second, rest) ← any files steps rest
      return (first || second, rest)
    | found => return found

def holds (files : Files) (words : List String) : Except ConditionFault Bool :=
  match any files (words.length + 1) words with
  | .error fault => .error fault
  | .ok (value, []) => .ok value
  | .ok (_, rest) =>
    .error (.unexpected ((words.take (words.length - rest.length)).getLast?.getD ""))

end Condition

namespace Program

/-- Ends with success if a condition holds. Under the name of a bracket, one closes it. -/
def test (own bracket : Bool) : Program := fun arguments _ files =>
  let complaint := fun (fault : ConditionFault) =>
    (Reply.silent files).complaining
      ((if bracket then "[: " else "test: ") ++ fault.message own) 2
  if bracket && arguments.getLast? ≠ some "]" then complaint .noBracket
  else match Condition.holds files (if bracket then arguments.dropLast else arguments) with
    | .ok value => ⟨[], [], if value then 0 else 1, files⟩
    | .error fault => complaint fault

end Program

end HookRules.Shell
