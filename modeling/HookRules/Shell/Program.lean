import HookRules.Shell.Program.Condition
import HookRules.Shell.Program.FileTool
import HookRules.Shell.Program.Print

/-!
The programs that scripts and rules find by their names.
-/

set_option autoImplicit false

namespace HookRules.Shell.Program

def own? : String → Option Program
  | "true" | ":" => some (ending 0)
  | "false" => some (ending 1)
  | "echo" => some (echo true)
  | "printf" => some (printf true)
  | "test" => some (test true false)
  | "[" => some (test true true)
  | _ => none

def named? : String → Option Program
  | "true" | "sleep" | "chmod" => some (ending 0)
  | "false" => some (ending 1)
  | "echo" => some (echo false)
  | "printf" => some (printf false)
  | "test" => some (test false false)
  | "[" => some (test false true)
  | "cat" => some cat
  | "touch" => some touch
  | "mkdir" => some mkdir
  | "rm" => some rm
  | "cp" => some (copy "cp" false)
  | "mv" => some (copy "mv" true)
  | "ls" => some ls
  | "wc" => some wc
  | _ => none

end HookRules.Shell.Program
