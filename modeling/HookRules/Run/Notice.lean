import HookRules.Document.Load
import HookRules.Event.Basic
import HookRules.Run.Failure

/-!
What is noted for the administrator in the course of an evaluation.
-/

set_option autoImplicit false

namespace HookRules

inductive Level
  | error
  | warn
  | info
  | debug
  | trace
  deriving Repr, DecidableEq, Inhabited

namespace Level

def name : Level → String
  | .error => "ERROR"
  | .warn => "WARN"
  | .info => "INFO"
  | .debug => "DEBUG"
  | .trace => "TRACE"

def rank : Level → Nat
  | .error => 1
  | .warn => 2
  | .info => 3
  | .debug => 4
  | .trace => 5

end Level

inductive Notice
  /-- A rule is about to be built and evaluated. -/
  | evaluating (rule : String) (line : Nat)
  /-- An element is no rule and belongs to its parent. -/
  | skipped (name : String)
  | unmatched (filter : String)
  | querying (query : Query)
  | telling (code : Int) (line : String)
  | failed (failure : Failure) (rule : String) (line column : Nat)
  | untold (failure : Failure)
  | mailing (recipients : List String) (subject : String)
  | mailingLog (recipients : List String) (subject : String)
  | connecting (server : String) (port recipients : Nat)
  | mailRejected (server reason : String)
  | starting (command : String)
  | revisionWritten (revision : Nat) (path : String)
  | evaluationBegan (kind : EventKind) (repository document : String)
  | evaluationEnded (kind : EventKind) (code : Int)
  | documentUnusable (error : LoadError) (document : String)
  | eventUnusable (reason : String) (kind : EventKind)
  | settingsUnusable (reason : String)
  deriving Repr, DecidableEq

namespace Notice

def level : Notice → Level
  | .evaluating .. | .skipped .. | .unmatched .. | .querying .. | .connecting .. => .debug
  | .mailing .. | .mailingLog .. | .starting .. | .revisionWritten .. | .evaluationBegan ..
  | .evaluationEnded .. => .info
  | .untold .. | .mailRejected .. | .settingsUnusable .. => .warn
  | .telling .. | .failed .. | .documentUnusable .. | .eventUnusable .. => .error

def message : Notice → String
  | .evaluating .. => "evaluating"
  | .skipped .. => "skipping parameter element"
  | .unmatched .. => "predicate did not match"
  | .querying .. => "running repository query"
  | .telling _ line => line
  | .failed failure .. => failure.message
  | .untold failure => failure.message
  | .mailing .. | .connecting .. => "sending mail"
  | .mailingLog .. => "sending revision log"
  | .mailRejected .. => "mail rejected by server"
  | .starting .. => "executing command"
  | .revisionWritten .. => "revision file written"
  | .evaluationBegan .. => "evaluating rules"
  | .evaluationEnded .. => "rules evaluated"
  | .documentUnusable error _ => error.message
  | .eventUnusable reason _ => reason
  | .settingsUnusable reason => reason ++ "; using default settings"

/-- Named details, in the order in which they are written. -/
def fields : Notice → List (String × String)
  | .evaluating rule line => [("node", rule), ("line", toString line)]
  | .skipped name => [("node", name)]
  | .unmatched filter => [("filter", filter)]
  | .querying query => [("command", query.line)]
  | .telling code _ => [("code", toString code)]
  | .failed _ rule line column =>
    [("node", rule), ("line", toString line), ("column", toString column)]
  | .mailing recipients subject | .mailingLog recipients subject =>
    [("to", Text.quotedList recipients), ("subject", subject)]
  | .connecting server port recipients =>
    [("server", server), ("port", toString port), ("recipients", toString recipients)]
  | .mailRejected server reason => [("server", server), ("error", reason)]
  | .starting command => [("command", command)]
  | .revisionWritten revision path => [("revision", toString revision), ("path", path)]
  | .evaluationBegan kind repository document =>
    [("hook", kind.name), ("repository", repository), ("config", document)]
  | .evaluationEnded kind code => [("hook", kind.name), ("code", toString code)]
  | .documentUnusable _ document => [("config", document)]
  | .eventUnusable _ kind => [("hook", kind.name)]
  | .untold .. | .settingsUnusable .. => []

end Notice

end HookRules
