import HookRules.Command.Words
import HookRules.Rule.Parameter
import HookRules.Run.Act
import HookRules.Text.Dedent
import HookRules.Token.Expansion

/-!
Actions: rules that do something and hold no rules of their own. Parameters are read when an
action is built, and expanded when it is performed.
-/

set_option autoImplicit false

namespace HookRules

structure Envelope where
  server : String
  port : Option Nat
  timeout : Option Nat
  sender : String
  recipients : List String
  subject : String
  deriving Repr, DecidableEq

inductive Action
  | setToken (name value : String)
  | sendError (code : Nat) (message : String)
  | sendMail (envelope : Envelope) (message : String)
  | sendLog (envelope : Envelope) (verbose : Bool)
  /-- Runs a command. A code of at least `errorLevel` ends the evaluation. -/
  | execute (command : String) (errorLevel : Nat)
  | recordRevision (path : String)
  deriving Repr, DecidableEq

namespace Envelope

/-- Reads the parts of an envelope; the first that is missing or not valid is reported. Recipients
without a text do not count. -/
def ofElement (element : Element) : Except RuleError Envelope := do
  let server ← element.requireAttribute "server"
  let port ← element.number? "port" Text.maxWord16
  let timeout ← element.number? "seconds" Text.maxWord64
  let sender ← element.requireChildText "FromAddress"
  let recipients := ((element.childrenNamed "ToAddress").filterMap Element.text).filter
    fun text => !Text.isBlankText text
  if recipients.isEmpty then throw (.missingTag "ToAddress" element.span)
  let subject ← element.requireChildText "Subject"
  return ⟨server, port, timeout, sender, recipients, subject⟩

def expandAll (tokens : Tokens) : List String → Except TokenError (List String)
  | [] => .ok []
  | text :: rest => do
    let expanded ← tokens.expand text
    return expanded :: (← expandAll tokens rest)

/-- The message that goes out: recipients are expanded first, then server, sender and subject. -/
def address (envelope : Envelope) (settings : Settings) (tokens : Tokens) (body : String) :
    Except TokenError Mail := do
  let recipients ← expandAll tokens (envelope.recipients.map Text.trim)
  let server ← tokens.expand envelope.server
  let sender ← tokens.expand (Text.trim envelope.sender)
  let subject ← tokens.expand (Text.trim envelope.subject)
  return ⟨server, envelope.port.getD settings.mailPort,
    envelope.timeout.getD settings.mailTimeout, sender, recipients, subject, body⟩

end Envelope

namespace Action

def maxCode : Nat := 254

def build? : String → Option (Element → Except RuleError Action)
  | "ExecuteCmd" => some fun element => do
    let command ← element.requireText
    let level ← element.number? "errorLevel" Text.maxInt32
    return .execute command (level.getD 1)
  | "SendError" => some fun element => do
    let code ← element.number? "exitCode" maxCode
    let message ← element.requireText
    return .sendError (code.getD 1) (Text.dedent message)
  | "SendLogSmtp" => some fun element => do
    return .sendLog (← Envelope.ofElement element) (element.switch "verbose" true)
  | "SendSmtp" => some fun element => do
    let envelope ← Envelope.ofElement element
    let message ← element.requireChildText "Message"
    return .sendMail envelope (Text.dedent message)
  | "SetRevisionFile" => some fun element => do
    return .recordRevision (← element.requireText)
  | "SetToken" => some fun element => do
    return .setToken (← element.requireAttribute "name") (element.text.getD "")
  | _ => none

variable {World : Type} [Scribe World]

def noteLines (code : Nat) : List String → Act World Unit
  | [] => pure ()
  | line :: rest => do
    Act.note (.telling code line)
    noteLines code rest

def commandWords (raw line : String) : Except CommandError (String × List String) :=
  match Command.words? line with
  | none => .error (.unreadable line)
  | some [] => .error (.empty raw)
  | some (program :: arguments) => .ok (program, arguments)

def conclude (channel : Channel) (line : String) (errorLevel : Nat) (output : Output) :
    Act World Outcome :=
  match output.code with
  | none => Act.fail (.command (.killed line))
  | some code =>
    if code ≥ errorLevel then do
      Act.tell channel output.stderr
      return .code (min code maxCode)
    else pure .done

def perform (setting : Setting World) (tokens : Tokens) : Action → Act World (Outcome × Tokens)
  | .setToken name value => pure (.done, tokens.set name value)
  | .sendError code message => do
    let message ← Act.ofTokens (tokens.expand message)
    noteLines code (Text.lines message)
    Act.tell setting.channel message
    return (.code code, tokens)
  | .sendMail envelope message => do
    let body ← Act.ofTokens (tokens.expand message)
    let mail ← Act.ofTokens (envelope.address setting.settings tokens body)
    Act.note (.mailing mail.recipients mail.subject)
    Act.send setting.mailer mail
    return (.done, tokens)
  | .sendLog envelope verbose => do
    let body ← Act.ask (setting.facts.revisionLog verbose)
    let mail ← Act.ofTokens (envelope.address setting.settings tokens body)
    Act.note (.mailingLog mail.recipients mail.subject)
    Act.send setting.mailer mail
    return (.done, tokens)
  | .execute command errorLevel => do
    let line ← Act.ofTokens (tokens.expand (Text.trim command))
    match commandWords command line with
    | .error error => Act.fail (.command error)
    | .ok (program, arguments) =>
      Act.note (.starting line)
      let output ← Act.execute setting.host line program arguments
      return (← conclude setting.channel line errorLevel output, tokens)
  | .recordRevision path => do
    match setting.facts.subject.revision? with
    | none => Act.fail (.fact (.unavailable "revision"))
    | some revision =>
      let path ← Act.ofTokens (tokens.expand (Text.trim path))
      Act.write setting.host path (toString revision ++ "\n")
      Act.note (.revisionWritten revision path)
      return (.done, tokens)

end Action

end HookRules
