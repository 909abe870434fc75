/-!
Reading decimal integers of a bounded range: an optional sign, then ASCII digits and nothing
else. Which of two faults is reported is decided digit by digit from the left.
-/

set_option autoImplicit false

namespace HookRules.Text

inductive NumeralError
  | empty
  | invalidDigit
  | tooLarge
  | tooSmall
  deriving Repr, DecidableEq

def NumeralError.message : NumeralError → String
  | .empty => "cannot parse integer from empty string"
  | .invalidDigit => "invalid digit found in string"
  | .tooLarge => "number too large to fit in target type"
  | .tooSmall => "number too small to fit in target type"

def digit? (c : Char) : Option Nat := if c.isDigit then some (c.toNat - '0'.toNat) else none

/-- Reads digits into a value that is at most `limit`, reporting `beyond` as soon as it is not. -/
def readDigits (limit : Nat) (beyond : NumeralError) (value : Nat) :
    List Char → Except NumeralError Nat
  | [] => .ok value
  | c :: rest =>
    match digit? c with
    | none => .error .invalidDigit
    | some digit =>
      if value * 10 + digit ≤ limit then readDigits limit beyond (value * 10 + digit) rest
      else .error beyond

def readNat (limit : Nat) (text : String) : Except NumeralError Nat :=
  match text.toList with
  | [] => .error .empty
  | ['+'] => .error .invalidDigit
  | '+' :: digits => readDigits limit .tooLarge 0 digits
  | digits => readDigits limit .tooLarge 0 digits

def readInt (limit : Nat) (text : String) : Except NumeralError Int :=
  match text.toList with
  | [] => .error .empty
  | ['+'] | ['-'] => .error .invalidDigit
  | '+' :: digits => (readDigits limit .tooLarge 0 digits).map Int.ofNat
  | '-' :: digits => (readDigits (limit + 1) .tooSmall 0 digits).map fun value => -(value : Int)
  | digits => (readDigits limit .tooLarge 0 digits).map Int.ofNat

def maxWord16 : Nat := 65535

def maxWord32 : Nat := 4294967295

def maxWord64 : Nat := 18446744073709551615

def maxInt32 : Nat := 2147483647

def maxInt64 : Nat := 9223372036854775807

end HookRules.Text
