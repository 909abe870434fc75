import HookRules.Fact.Basic
import HookRules.Run.Notice
import HookRules.Settings.Basic

/-!
What rules do to the world. Everything that happens in a run is one entry of its journal, in
order: what is noted, asked, told, mailed, started and written. What a client, a mailer or an
administrator sees is a view of the journal.
-/

set_option autoImplicit false

namespace HookRules

/-- One thing that happened. -/
inductive Entry
  | noted (notice : Notice)
  | asked (query : Query)
  | told (text : String)
  /-- The mailer was given the message, whether or not it delivered it. -/
  | mailed (mail : Mail)
  | started (program : String) (arguments : List String)
  | wrote (path text : String)
  deriving Repr, DecidableEq

namespace Entry

def notice? : Entry → Option Notice
  | .noted notice => some notice
  | .asked query => some (.querying query)
  | _ => none

def query? : Entry → Option Query
  | .asked query => some query
  | _ => none

def text? : Entry → Option String
  | .told text => some text
  | _ => none

def mail? : Entry → Option Mail
  | .mailed mail => some mail
  | _ => none

end Entry

abbrev Journal := List Entry

namespace Journal

def notices (journal : Journal) : List Notice := journal.filterMap Entry.notice?

def queries (journal : Journal) : List Query := journal.filterMap Entry.query?

def told (journal : Journal) : String := String.join (journal.filterMap Entry.text?)

def mails (journal : Journal) : List Mail := journal.filterMap Entry.mail?

end Journal

inductive Channel
  | working
  | broken (cause : String)
  deriving Repr, DecidableEq, Inhabited

/-- What can be done in a world: starting programs, and reading and writing files. What can not
be done has a cause. -/
structure Host (World : Type) where
  execute : (program : String) → (arguments : List String) → StateM World (Except String Output)
  read : (path : String) → StateM World (Except String String)
  isFile : (path : String) → StateM World Bool
  write : (path text : String) → StateM World (Except String Unit)
  /-- Opens a file to be added to, which is made if need be. The answer adds a text to the end of
  what was opened, whatever has become of the path. -/
  append : (path : String) →
    StateM World (Except String (String → StateM World (Except String Unit)))

/-- All that rules are evaluated with. -/
structure Setting (World : Type) where
  facts : Facts World
  event : Event
  settings : Settings
  mailer : Mailer World
  channel : Channel
  host : Host World

/-- What a world itself does when an entry is put into the journal. -/
class Scribe (World : Type) where
  keep : Entry → World → World

/-- Most worlds do nothing. -/
instance (priority := low) Scribe.idle {World : Type} : Scribe World := ⟨fun _ world => world⟩

structure Run (World : Type) where
  world : World
  journal : Journal

/-- A step of a run that nothing can break off. -/
abbrev Step (World : Type) := StateM (Run World)

/-- A step of a run that may fail. -/
abbrev Act (World : Type) := ExceptT Failure (Step World)

def Run.record {World : Type} [Scribe World] (run : Run World) (entry : Entry) : Run World :=
  ⟨Scribe.keep entry run.world, run.journal ++ [entry]⟩

namespace Step

variable {World : Type}

def ofWorld {Answer : Type} (step : StateM World Answer) : Step World Answer := fun run =>
  let (answer, world) := step run.world
  (answer, { run with world := world })

variable [Scribe World]

def record (entry : Entry) : Step World Unit := fun run => ((), run.record entry)

def note (notice : Notice) : Step World Unit := record (.noted notice)

end Step

namespace Act

variable {World Answer : Type}

def record [Scribe World] (entry : Entry) : Act World Unit := ExceptT.lift (Step.record entry)

def note [Scribe World] (notice : Notice) : Act World Unit := record (.noted notice)

def inWorld (step : StateM World Answer) : Act World Answer := ExceptT.lift (Step.ofWorld step)

def fail (failure : Failure) : Act World Answer := ExceptT.mk (pure (.error failure))

def orFail {Cause : Type} (failure : Cause → Failure) : Except Cause Answer → Act World Answer
  | .ok answer => pure answer
  | .error cause => fail (failure cause)

def ofTokens : Except TokenError Answer → Act World Answer := orFail .token

def ask (question : World → Answered World Answer) : Act World Answer := fun run =>
  let answered := question run.world
  let after : Run World := ⟨answered.world, run.journal ++ answered.queries.map .asked⟩
  match answered.result with
  | .ok answer => (.ok answer, after)
  | .error error => (.error (.fact error), after)

/-- Tells the client something. Telling nothing always succeeds. -/
def tell [Scribe World] (channel : Channel) (text : String) : Act World Unit :=
  match channel with
  | .working => record (.told text)
  | .broken cause => if text.isEmpty then record (.told text) else fail (.channelClosed cause)

/-- What the answer to a delivery comes to. A message that its server will never take counts as
sent. -/
def received [Scribe World] (server : String) : Except MailError Receipt → Act World Unit
  | .ok .taken => pure ()
  | .ok (.rejected reason) => note (.mailRejected server reason)
  | .error error => fail (.mail error)

def deliver [Scribe World] (mailer : Mailer World) (mail : Mail) : Act World Unit := do
  if mailer.connects mail then
    note (.connecting mail.server mail.port mail.recipients.length)
  received mail.server (← inWorld (mailer.deliver mail))

def send [Scribe World] (mailer : Mailer World) (mail : Mail) : Act World Unit := do
  record (.mailed mail)
  deliver mailer mail

def execute [Scribe World] (host : Host World) (line program : String) (arguments : List String) :
    Act World Output := do
  record (.started program arguments)
  orFail (fun cause => .command (.notStarted line cause))
    (← inWorld (host.execute program arguments))

def write [Scribe World] (host : Host World) (path text : String) : Act World Unit := do
  record (.wrote path text)
  orFail (.revisionNotWritten path) (← inWorld (host.write path text))

end Act

end HookRules
