import HookRules.Unicode.Property

/-!
Texts and characters in quotes for messages. What a reader could not see, or what would end the
quotation, is written as an escape.
-/

set_option autoImplicit false

namespace HookRules.Text

def hexadecimal (value : Nat) : String := String.ofList (Nat.toDigits 16 value)

def codeEscape (c : Char) : String :=
  "\\u\x7b" ++ hexadecimal c.toNat ++ "\x7d"

/-- One character inside quotation marks of the kind `mark`; the other kind stays as it is. -/
def quotedChar (mark : Char) (c : Char) : String :=
  if c = '\t' then "\\t"
  else if c = '\r' then "\\r"
  else if c = '\n' then "\\n"
  else if c = '\x00' then "\\0"
  else if c = '\\' then "\\\\"
  else if c = mark then "\\" ++ c.toString
  else if 0x20 ≤ c.toNat && c.toNat < 0x7F then c.toString
  else if Unicode.Property.graphemeExtend.contains c || Unicode.Category.unprintable.contains c then
    codeEscape c
  else c.toString

def quoted (text : String) : String :=
  "\"" ++ String.join (text.toList.map (quotedChar '"')) ++ "\""

def quotedSingle (c : Char) : String := "'" ++ quotedChar '\'' c ++ "'"

def quotedList (texts : List String) : String :=
  "[" ++ ", ".intercalate (texts.map quoted) ++ "]"

end HookRules.Text
