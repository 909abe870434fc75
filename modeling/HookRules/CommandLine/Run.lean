import HookRules.CommandLine.Arguments
import HookRules.CommandLine.Log
import HookRules.Mail.Delivery
import HookRules.Report.Diagnostic
import HookRules.Rule.Check
import HookRules.Run.Document
import HookRules.Settings.Load

/-!
Answering a command line. What the client is told goes to standard error, and what the
administrator is told goes to the log; standard output is for someone who checks a document.
-/

set_option autoImplicit false

namespace HookRules.CommandLine

variable {World : Type}

structure Reply where
  code : Int
  stdout : String
  stderr : String
  deriving Repr, DecidableEq, Inhabited

structure Surroundings (World : Type) where
  environment : List (String × String)
  input : Except String String
  mailer : Mailer World := .offline

def textOf (input : Except String (List UInt8)) : Except String String := do
  match Text.ofBytes? (← input) with
  | some text => return text
  | none => throw FileError.notText.message

namespace Surroundings

def valueOf? (surroundings : Surroundings World) (name : String) : Option String :=
  surroundings.environment.lookup name

/-- Output goes to no terminal, so emphasis has to be asked for. -/
def coloured (surroundings : Surroundings World) : Bool :=
  (surroundings.valueOf? "CLICOLOR_FORCE").any fun value => value ≠ "0"

end Surroundings

def checked (coloured : Bool) (path source : String) : Reply :=
  let about := fun (message : String) (span : Option Span) =>
    (Diagnostic.mk message span (some path) (some source) none).display coloured
  match Element.parse source with
  | .error error => ⟨1, about error.message error.span?, ""⟩
  | .ok root =>
    match (Registry.standard : Registry Unit).check root with
    | [] =>
      let verdict := Style.strong.paint coloured (path ++ " is valid")
      ⟨0, Style.success.paint coloured "✓" ++ " " ++ verdict ++ "\n", ""⟩
    | problems =>
      let shown := problems.map fun problem =>
        about (problem.element ++ ": " ++ problem.message) (some problem.span)
      let verdict := Style.fault.paint coloured
        (toString problems.length ++ " problem(s) in " ++ path)
      ⟨1, String.join shown ++ Style.fault.paint coloured "✗" ++ " " ++ verdict ++ "\n", ""⟩

def check (host : Host World) (coloured : Bool) (path : String) : StateM World Reply := do
  match ← host.read path with
  | .ok source => return checked coloured path source
  | .error cause =>
    let diagnostic : Diagnostic :=
      { Diagnostic.plain ("Failed to read " ++ path ++ ": " ++ cause) with
        help := some "Pass the rule document with --cfgfile" }
    return ⟨1, diagnostic.display coloured, ""⟩

def settingFor [Scribe World] (mailer : Mailer World) (host : Host World) (event : Event)
    (settings : Settings) : Setting (Remembering World) where
  facts := (event.place settings).toFacts host.runner
  event := event
  settings := settings
  mailer := mailer.remembering
  channel := .working
  host := host.remembering

def evaluateWith [Scribe World] (mailer : Mailer World) (host : Host World) (event : Event)
    (settings : Settings) (document : String) (environment : Tokens) : Step World Int := fun run =>
  let (code, ended) := Evaluation.runFile (settingFor mailer host event settings) document
    environment ⟨⟨Memo.blank, run.world⟩, run.journal⟩
  (code, ⟨ended.world.world, ended.journal⟩)

/-- Evaluates a document where no mail server can be reached: the code to end with, and what
happened. -/
def evaluate (host : Host World) (event : Event) (settings : Settings) (document : String)
    (environment : Tokens) : StateM World (Int × Journal) := fun world =>
  let (code, run) := evaluateWith .offline host event settings document environment ⟨world, []⟩
  ((code, run.journal), run.world)

def eventOf (repository : String) (occasion : Occasion) (input : Except String String) :
    Except String Event := do
  let input ←
    if occasion.kind.readsInput then
      input.mapError fun cause => "Failed to read hook input from stdin: " ++ cause
    else pure ""
  (occasion.event repository input).mapError EventError.message

/-- Evaluates the document of a path for an event. Without an event the client is told that
something failed. -/
def attend [Scribe World] (mailer : Mailer World) (host : Host World) (kind : EventKind)
    (event : Except String Event) (settings : Settings) (path : String) (environment : Tokens) :
    Step World Int := do
  match event with
  | .error reason =>
    Step.note (.eventUnusable reason kind)
    Step.record (.told (internalMessage ++ "\n"))
    return Outcome.internalCode
  | .ok event => evaluateWith mailer host event settings path environment

def settle (host : Host World) (surroundings : Surroundings World) (path : String) :
    StateM World (Settings × Option Notice) := do
  match ← Settings.load host (surroundings.valueOf? "HOME") ((Path.parent? path).getD ".") with
  | .ok settings => return (settings, none)
  | .error error => return (Settings.defaults, some (.settingsUnusable error.message))

def warn [Scribe World] : Option Notice → Step World Unit
  | none => return ()
  | some notice => Step.note notice

/-- Evaluates the rules for an occasion. The log is opened first, so that everything can be noted
there. -/
def hook (host : Host World) (surroundings : Surroundings World) (repository : String)
    (document : Option String) (occasion : Occasion) : StateM World Reply := do
  let path := document.getD (defaultDocumentPath repository occasion.kind)
  let (settings, warning) ← settle host surroundings path
  let log ← Log.open host (settings.logPath path) (Level.threshold settings.logLevel)
  let (code, shown) ← Logged.run log do
    warn warning
    attend (surroundings.mailer.lift Logged.within) (host.lift Logged.within) occasion.kind
      (eventOf repository occasion surroundings.input) settings path
      (.ofList surroundings.environment)
  return ⟨code, "", String.join (shown.map Shown.text)⟩

def version : String := "svnhook 0.0.1"

def usageCode : Int := 2

def run (host : Host World) (surroundings : Surroundings World) (arguments : List String) :
    StateM World Reply :=
  match Request.read? arguments with
  | none => return ⟨usageCode, "", ""⟩
  | some .version => return ⟨0, version ++ "\n", ""⟩
  | some (.check document) => check host surroundings.coloured document
  | some (.hook repository document occasion) =>
    hook host surroundings repository document occasion

end HookRules.CommandLine
