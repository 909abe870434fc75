import HookRules.Shell.Program.Basic
import HookRules.Text.Numeral

/-!
Programs that print their arguments: as they are, or as a format says. A shell has both as
commands of its own, which differ a little from the programs: `own` tells them apart.
-/

set_option autoImplicit false

namespace HookRules.Shell

inductive Escape
  /-- A byte, written with so many characters. -/
  | byte (value : UInt8) (length : Nat)
  | stop
  | none

namespace Escape

def letter? : Char → Option UInt8
  | 'a' => some 7
  | 'b' => some 8
  | 'e' => some 27
  | 'f' => some 12
  | 'n' => some 10
  | 'r' => some 13
  | 't' => some 9
  | 'v' => some 11
  | '\\' => some 92
  | _ => Option.none

def octal (before : Nat) (text : List Char) : Escape :=
  let digits := ((text.drop before).take 3).takeWhile fun c => '0' ≤ c && c ≤ '7'
  .byte (digits.foldl (fun value c => value * 8 + (c.toNat - '0'.toNat)) 0).toUInt8
    (before + digits.length)

def hexDigit? (c : Char) : Option Nat :=
  if c.isDigit then some (c.toNat - '0'.toNat)
  else if 'a' ≤ c ∧ c ≤ 'f' then some (c.toNat - 'a'.toNat + 10)
  else if 'A' ≤ c ∧ c ≤ 'F' then some (c.toNat - 'A'.toNat + 10)
  else Option.none

/-- Reads what follows a backslash. In an argument, a zero may stand before the octal digits. -/
def read (own inArgument : Bool) : List Char → Escape
  | [] => .none
  | c :: rest =>
    if inArgument ∧ c = '0' then octal 1 (c :: rest)
    else if '0' ≤ c ∧ c ≤ '7' then octal 0 (c :: rest)
    else if c = 'c' ∧ (inArgument ∨ !own) then .stop
    else if c = '"' ∧ !inArgument then .byte 34 1
    else if c = 'x' ∧ !own then
      match ((rest.take 2).takeWhile fun c => (hexDigit? c).isSome).filterMap hexDigit? with
      | [] => .none
      | digits => .byte (digits.foldl (fun value digit => value * 16 + digit) 0).toUInt8
          (digits.length + 1)
    else match letter? c with
      | some value => .byte value 1
      | Option.none => .none

end Escape

/-- The bytes of an argument with escapes, and whether printing goes on behind it. The first
`skip` characters belong to an escape already read. -/
def unescape (own : Bool) (skip : Nat) : List Char → List UInt8 × Bool
  | [] => ([], true)
  | c :: rest =>
    match skip with
    | more + 1 => unescape own more rest
    | 0 =>
      let go := fun (found : List UInt8) (skip : Nat) =>
        let (others, open?) := unescape own skip rest
        (found ++ others, open?)
      if c ≠ '\\' then go (Text.toBytes c.toString) 0
      else match Escape.read own true rest with
        | .byte value length => go [value] length
        | .stop => ([], false)
        | .none => go [92] 0

structure Directive where
  flags : List Char
  /-- The least width; without a value, an argument gives it. -/
  width : Option Nat
  precision : Option Nat
  kind : Char
  deriving Repr, DecidableEq

inductive FormatPart
  | bytes (found : List UInt8)
  | directive (directive : Directive)
  | stop
  | bad (text : String)
  | unfinished
  deriving Repr

namespace FormatPart

def kinds : List Char := ['s', 'b', 'c', 'd', 'i', 'u', 'o', 'x', 'X']

def readDirective (text : List Char) : FormatPart × Nat :=
  let flags := text.takeWhile fun c => ['-', '0', '+', ' ', '#'].contains c
  let afterFlags := text.drop flags.length
  let (width, afterWidth) := match afterFlags with
    | '*' :: rest => (none, rest)
    | rest =>
      let digits := rest.takeWhile Char.isDigit
      (some ((String.ofList digits).toNat?.getD 0), rest.drop digits.length)
  let (precision, afterPrecision) := match afterWidth with
    | '.' :: rest =>
      let digits := rest.takeWhile Char.isDigit
      (some ((String.ofList digits).toNat?.getD 0), rest.drop digits.length)
    | rest => (none, rest)
  let length := text.length - afterPrecision.length
  match afterPrecision with
  | [] => (.unfinished, length)
  | kind :: _ =>
    if kind = '%' ∧ length = 0 then (.bytes [37], 1)
    else if kinds.contains kind then (.directive ⟨flags, width, precision, kind⟩, length + 1)
    else (.bad ("%" ++ String.ofList (text.take (length + 1))), length + 1)

def readAll (own : Bool) (skip : Nat) : List Char → List FormatPart
  | [] => []
  | c :: rest =>
    match skip with
    | more + 1 => readAll own more rest
    | 0 =>
      if c = '\\' then
        match Escape.read own false rest with
        | .byte value length => .bytes [value] :: readAll own length rest
        | .stop => .stop :: readAll own 0 rest
        | .none => .bytes [92] :: readAll own 0 rest
      else if c = '%' then
        let (part, length) := readDirective rest
        part :: readAll own length rest
      else .bytes (Text.toBytes c.toString) :: readAll own 0 rest

end FormatPart

inductive PrintFault
  | noFormat
  | notNumber (text : String)
  | halfNumber (text : String)
  | badDirective (text : String)
  | unfinished
  deriving Repr, DecidableEq

namespace PrintFault

def message (own : Bool) (fault : PrintFault) : String :=
  "printf: " ++ match fault, own with
  | noFormat, true => "usage: printf format [arg ...]"
  | noFormat, false => "missing operand" ++ Program.hint "printf"
  | notNumber text, true => text ++ ": expected numeric value"
  | notNumber text, false => "'" ++ text ++ "': expected a numeric value"
  | halfNumber text, true => text ++ ": not completely converted"
  | halfNumber text, false => "'" ++ text ++ "': value not completely converted"
  | badDirective text, true => text ++ ": invalid directive"
  | badDirective text, false => text ++ ": invalid conversion specification"
  | unfinished, true => "missing format character"
  | unfinished, false => "%: invalid conversion specification"

def code (own : Bool) : PrintFault → Nat
  | notNumber _ | halfNumber _ => 1
  | _ => if own then 2 else 1

end PrintFault

def readNumber (text : String) : Int × Option PrintFault :=
  let chars := text.toList.dropWhile fun c => c = ' '
  let (negative, digits) := match chars with
    | '-' :: rest => (true, rest)
    | '+' :: rest => (false, rest)
    | rest => (false, rest)
  let (base, digits) := match digits with
    | '0' :: 'x' :: rest => (16, rest)
    | '0' :: rest => (8, '0' :: rest)
    | rest => (10, rest)
  let isDigit := fun (c : Char) => (Escape.hexDigit? c).any fun digit => decide (digit < base)
  let value := ((digits.takeWhile isDigit).filterMap Escape.hexDigit?).foldl
    (fun value digit => value * base + digit) 0
  match text.toList with
  | [] => (0, none)
  | '\'' :: c :: _ | '"' :: c :: _ => (c.toNat, none)
  | _ =>
    (if negative then -(value : Int) else value,
      if (digits.takeWhile isDigit).isEmpty then some (.notNumber text)
      else if (digits.dropWhile isDigit).isEmpty then none else some (.halfNumber text))

def pad (directive : Directive) (width : Nat) (text : List Char) : List Char :=
  let fill := List.replicate (width - text.length) ' '
  if directive.flags.contains '-' then text ++ fill else fill ++ text

def signed (directive : Directive) (value : Int) : List Char × List Char :=
  let bits := if value < 0 then (value + (Text.maxWord64 + 1)).toNat else value.toNat
  let marked := directive.flags.contains '#'
  match directive.kind with
  | 'x' => (if marked then ['0', 'x'] else [], Nat.toDigits 16 bits)
  | 'X' => (if marked then ['0', 'X'] else [], (Nat.toDigits 16 bits).map Char.toUpper)
  | 'o' => (if marked then ['0'] else [], Nat.toDigits 8 bits)
  | 'u' => ([], Nat.toDigits 10 bits)
  | _ =>
    (if value < 0 then ['-'] else if directive.flags.contains '+' then ['+']
      else if directive.flags.contains ' ' then [' '] else [], Nat.toDigits 10 value.natAbs)

def numeral (directive : Directive) (width : Nat) (value : Int) : List Char :=
  let (mark, digits) := signed directive value
  let digits := if directive.precision = some 0 ∧ value = 0 then [] else digits
  let zeros := directive.flags.contains '0' && !directive.flags.contains '-'
    && directive.precision.isNone
  let least := if zeros then width - mark.length else directive.precision.getD 0
  pad directive width (mark ++ List.replicate (least - digits.length) '0' ++ digits)

structure Printed where
  out : List UInt8
  faults : List PrintFault
  arguments : List String
  stopped : Bool

namespace Printed

def add (printed : Printed) (found : List UInt8) (fault : Option PrintFault) : Printed :=
  { printed with out := printed.out ++ found, faults := printed.faults ++ fault.toList }

def stop (printed : Printed) (fault : Option PrintFault) : Printed :=
  { printed.add [] fault with stopped := true }

/-- Puts an argument where a directive stands. A text takes as many characters as the precision
allows. The first character of an empty argument is the one that ends texts. -/
def addDirective (own : Bool) (printed : Printed) (directive : Directive) : Printed :=
  let (width, arguments) := match directive.width with
    | some width => (width, printed.arguments)
    | none => ((readNumber (printed.arguments.headD "")).1.toNat, printed.arguments.drop 1)
  let argument := arguments.headD ""
  let printed := { printed with arguments := arguments.drop 1 }
  let put := fun (text : List Char) => Text.toBytes (String.ofList (pad directive width text))
  match directive.kind with
  | 's' => printed.add (put (argument.toList.take (directive.precision.getD argument.length))) none
  | 'c' => printed.add (put [argument.toList.headD '\x00']) none
  | 'b' =>
    let (found, open?) := unescape own 0 argument.toList
    { printed.add found none with stopped := !open? }
  | _ =>
    let (value, fault) := readNumber argument
    printed.add (Text.toBytes (String.ofList (numeral directive width value))) fault

def addPart (own : Bool) (printed : Printed) (part : FormatPart) : Printed :=
  if printed.stopped then printed
  else match part with
    | .bytes found => printed.add found none
    | .directive directive => printed.addDirective own directive
    | .stop => printed.stop none
    | .bad text => printed.stop (some (.badDirective text))
    | .unfinished => printed.stop (some .unfinished)

/-- Prints a format again and again while it uses up arguments. -/
def rounds (own : Bool) (parts : List FormatPart) : (steps : Nat) → Printed → Printed
  | 0, printed => printed
  | steps + 1, printed =>
    let after := parts.foldl (addPart own) printed
    if after.stopped || after.arguments.isEmpty
        || after.arguments.length = printed.arguments.length then after
    else rounds own parts steps after

end Printed

namespace Program

def printf (own : Bool) : Program := fun arguments _ files =>
  let told := fun (reply : Reply) (fault : PrintFault) =>
    reply.complaining (fault.message own) (fault.code own)
  match if arguments.head? = some "--" then arguments.drop 1 else arguments with
  | [] => told (.silent files) .noFormat
  | text :: arguments =>
    let printed := Printed.rounds own (FormatPart.readAll own 0 text.toList)
      (arguments.length + 1) ⟨[], [], arguments, false⟩
    printed.faults.foldl told ⟨printed.out, [], 0, files⟩

def isEchoOption (argument : String) : Bool :=
  match argument.toList with
  | '-' :: letters => letters ≠ [] && letters.all ['n', 'e', 'E'].contains
  | _ => false

/-- Prints arguments with spaces between them and a line ending. The shell's own command heeds
escapes always, the program when it is told to. -/
def echo (own : Bool) : Program := fun arguments _ files =>
  let options := if own then (arguments.take 1).takeWhile (· = "-n")
    else arguments.takeWhile isEchoOption
  let letters := options.flatMap String.toList
  let escapes := own || (letters.filter fun c => c = 'e' || c = 'E').getLast? = some 'e'
  let text := " ".intercalate (arguments.drop options.length)
  let (printed, open?) :=
    if escapes then unescape own 0 text.toList else (Text.toBytes text, true)
  ⟨printed ++ (if open? && !letters.contains 'n' then [10] else []), [], 0, files⟩

end Program

end HookRules.Shell
