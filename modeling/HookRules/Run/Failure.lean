import HookRules.Fact.Error
import HookRules.Mail.Basic
import HookRules.Rule.Error
import HookRules.Token.Store

/-!
Why an evaluation is broken off, and what any evaluation ends in.
-/

set_option autoImplicit false

namespace HookRules

def TokenError.message : TokenError → String
  | .notFound name => "Token not found: " ++ name
  | .tooDeep text => "Maximum token recursion depth exceeded: text = " ++ Text.quoted text

inductive CommandError
  | unreadable (line : String)
  /-- No word is left of the command; `raw` is the command as the rule has it. -/
  | empty (raw : String)
  | notStarted (line cause : String)
  | killed (line : String)
  deriving Repr, DecidableEq

def CommandError.message : CommandError → String
  | .unreadable line => "Failed to parse command '" ++ line ++ "': missing closing quote"
  | .empty raw => "Command line is empty after expansion: " ++ Text.quoted raw
  | .notStarted line cause => "Failed to execute command: " ++ line ++ ": " ++ cause
  | .killed line => "Command terminated by signal: " ++ line

inductive Failure
  | rule (error : RuleError)
  | token (error : TokenError)
  | fact (error : FactError)
  | mail (error : MailError)
  | command (error : CommandError)
  | revisionNotWritten (path cause : String)
  | channelClosed (cause : String)
  /-- A reason from outside. -/
  | stated (reason : String)
  deriving Repr, DecidableEq

namespace Failure

def message : Failure → String
  | .rule error => error.message
  | .token error => error.message
  | .fact error => error.message
  | .mail error => error.message
  | .command error => error.message
  | .revisionNotWritten path cause => "Failed to write revision file: " ++ path ++ ": " ++ cause
  | .channelClosed cause => "Failed to write to stderr: " ++ cause
  | .stated reason => reason

def span? : Failure → Option Span
  | .rule error => error.span?
  | _ => none

end Failure

/-- What evaluating an element comes to. A code that a document asks for is kept apart from a
failure, so that the two cannot be confused. -/
inductive Outcome
  /-- The evaluation finished with this code; zero lets it go on. -/
  | code (value : Int)
  | internal (failure : Failure)
  deriving Repr, DecidableEq

namespace Outcome

def internalCode : Int := 255

def done : Outcome := .code 0

def stops : Outcome → Bool
  | .code value => value ≠ 0
  | .internal _ => true

def isInternal : Outcome → Bool
  | .code _ => false
  | .internal _ => true

def exitCode : Outcome → Int
  | .code value => value
  | .internal _ => internalCode

def failure? : Outcome → Option Failure
  | .code _ => none
  | .internal failure => some failure

end Outcome

end HookRules
