import HookRules.Machine.Files

/-!
What a program is to those who call it.
-/

set_option autoImplicit false

namespace HookRules.Shell

structure Reply where
  out : List UInt8
  err : List UInt8
  code : Nat
  files : Files

abbrev Program := List String → List UInt8 → Files → Reply

namespace Reply

def silent (files : Files) : Reply := ⟨[], [], 0, files⟩

/-- The reply with one more line about what is wrong, and the code that this takes. -/
def complaining (reply : Reply) (message : String) (code : Nat) : Reply :=
  { reply with err := reply.err ++ Text.toBytes (message ++ "\n"), code := code }

end Reply

namespace Program

def ending (code : Nat) : Program := fun _ _ files => ⟨[], [], code, files⟩

def hint (program : String) : String := "\nTry '" ++ program ++ " --help' for more information."

def misused (program complaint : String) : Program := fun _ _ files =>
  (Reply.silent files).complaining (program ++ ": " ++ complaint ++ hint program) 1

def operands (arguments : List String) : List String :=
  arguments.filter fun argument => !argument.startsWith "-"

def hasOption (letter : Char) (arguments : List String) : Bool :=
  arguments.any fun argument => argument.startsWith "-" && argument.contains letter

end Program

end HookRules.Shell
