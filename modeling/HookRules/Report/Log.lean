import HookRules.Run.Notice
import HookRules.Text.Case
import HookRules.Text.Numeral

/-!
Notices as lines of a log, and what is said of a line that the log does not take.
-/

set_option autoImplicit false

namespace HookRules

namespace Level

def all : List Level := [.error, .warn, .info, .debug, .trace]

def ofText? (text : String) : Option Level :=
  match Text.readNat Text.maxWord64 text with
  | .ok rank => all.find? fun level => level.rank == rank
  | .error _ => all.find? fun level => Text.asciiLower level.name == Text.asciiLower text

def threshold (text : String) : Level := (ofText? text).getD .info

def passes (level threshold : Level) : Bool := level.rank ≤ threshold.rank

end Level

namespace Notice

/-- A character of a message. Controls that would steer a terminal are written as escapes. -/
def logged (c : Char) : String :=
  let code := c.toNat
  if c = '\x1b' || c = '\x07' || c = '\x08' || c = '\x0c' || c = '\x7f' then
    "\\x" ++ (if code < 16 then "0" else "") ++ Text.hexadecimal code
  else if 0x80 ≤ code && code ≤ 0x9f then Text.codeEscape c
  else c.toString

def fieldText (field : String × String) : String :=
  let (name, value) := field
  " " ++ name ++ "=" ++ (if name = "node" || name = "filter" then Text.quoted value else value)

def logLine (notice : Notice) : String :=
  notice.level.name ++ " " ++ String.join (notice.message.toList.map logged)
    ++ String.join (notice.fields.map fieldText) ++ "\n"

def unloggedText (cause : String) : String :=
  "[tracing-subscriber] Unable to write an event to the Writer for this Subscriber! Error: "
    ++ cause ++ "\n\n"

end Notice

end HookRules
