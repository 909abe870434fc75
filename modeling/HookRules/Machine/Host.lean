import HookRules.Fact.Repository
import HookRules.Run.Act
import HookRules.Shell.Run

/-!
A machine whose whole state is a folder of files, on which programs can be run and rules can be
evaluated.
-/

set_option autoImplicit false

namespace HookRules

namespace Files

def replyOutput (reply : Shell.Reply) : Output :=
  ⟨some reply.code, Text.ofBytes reply.out, Text.ofBytes reply.err⟩

/-- Starts a program by its name or path and waits for it. There is nothing for it to read. -/
def execute (environment : Shell.Environment) (program : String) (arguments : List String)
    (files : Files) : Except String Output × Files :=
  if (program :: arguments).any fun word => word.toList.contains '\x00' then
    (.error "nul byte found in provided data", files)
  else if program.isEmpty then (.error FileError.notFound.message, files)
  else match Shell.Program.named? (Shell.usualName program) with
    | some found =>
      let reply := found arguments [] files
      (.ok (replyOutput reply), reply.files)
    | Option.none =>
      match Shell.launch Shell.stepLimit program arguments environment
          Shell.Session.firstStreams files [[], []] with
      | .error error => (.error error.message, files)
      | .ok session =>
        let buffer := fun (index : Nat) => Text.ofBytes (session.buffers[index]?.getD [])
        (.ok ⟨session.code.map Int.ofNat, buffer 0, buffer 1⟩, session.files)

/-- The file outside the folder that can be opened and has no space. -/
def full : String := "/dev/full"

def intoFull (text : String) : Except String Unit :=
  if text.isEmpty then .ok () else .error FileError.noSpace.message

def host (environment : Shell.Environment) : Host Files where
  execute := execute environment
  read := fun path files => ((files.readText path).mapError FileError.message, files)
  isFile := fun path files => (files.isFile path, files)
  write := fun path text files =>
    if path = full then (intoFull text, files) else
    match files.write path (Text.toBytes text) with
    | .ok after => (.ok (), after)
    | .error error => (.error error.message, files)
  append := fun path files =>
    if path = full then (.ok fun text files => (intoFull text, files), files) else
    match files.openFor path true with
    | .ok (names, files) =>
      let (file, files) := files.attach names
      (.ok fun text files => (.ok (), files.extendOpened file (Text.toBytes text)), files)
    | .error error => (.error error.message, files)

end Files

namespace Host

variable {World : Type}

/-- Makes queries by starting programs, each of which is put down before it is made. -/
def runner [Scribe World] (host : Host World) : Runner World := fun query world =>
  match host.execute query.program query.arguments (Scribe.keep (.asked query) world) with
  | (.ok output, after) => (.ok output, after)
  | (.error cause, after) => (.error (.notStarted query.program cause), after)

theorem runner_eq [Scribe World] (host : Host World) (query : Query) (world : World) :
    host.runner query world =
      let ended := host.execute query.program query.arguments (Scribe.keep (.asked query) world)
      (ended.1.mapError (.notStarted query.program), ended.2) := by
  rw [runner]
  rcases host.execute query.program query.arguments (Scribe.keep (.asked query) world) with
    ⟨cause | output, after⟩ <;> rfl

def lift {Wider : Type} (within : {Answer : Type} → StateM World Answer → StateM Wider Answer)
    (host : Host World) : Host Wider where
  execute := fun program arguments => within (host.execute program arguments)
  read := fun path => within (host.read path)
  isFile := fun path => within (host.isFile path)
  write := fun path text => within (host.write path text)
  append := fun path => do
    return (← within (host.append path)).map fun extend text => within (extend text)

def within {Answer : Type} (step : StateM World Answer) : StateM (Remembering World) Answer :=
  fun state =>
    let (answer, world) := step state.world
    (answer, { state with world := world })

def remembering (host : Host World) : Host (Remembering World) := host.lift within

end Host

def Mailer.remembering {World : Type} (mailer : Mailer World) : Mailer (Remembering World) :=
  mailer.lift Host.within

/-- What is put into the journal reaches the world that facts are remembered of. -/
instance {World : Type} [Scribe World] : Scribe (Remembering World) where
  keep := fun entry state => { state with world := Scribe.keep entry state.world }

end HookRules
