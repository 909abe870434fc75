import HookRules.CommandLine.Run
import HookRules.Machine.Transcript

/-!
The program: it answers its command line, doing on the real machine what the answer calls for.
Files are read and written; other programs are not started, so that queries and commands fail as
on a machine that has none.
-/

set_option autoImplicit false

namespace HookRules.Main

def causeOf (error : IO.Error) : String :=
  match error with
  | .noFileOrDirectory .. => FileError.notFound.message
  | .permissionDenied .. => FileError.denied.message
  | .alreadyExists .. => FileError.exists.message
  | .inappropriateType _ _ details =>
    if details = "not a directory" then FileError.notFolder.message
    else FileError.isFolder.message
  | error => toString error

def attempt {Answer : Type} (act : IO Answer) : IO (Except String Answer) := do
  try return .ok (← act)
  catch error => return .error (causeOf error)

def readText (path : String) : IO (Except String String) := do
  match ← attempt (IO.FS.readBinFile path) with
  | .error cause => return .error cause
  | .ok bytes => match Text.ofBytes? bytes.toList with
    | some text => return .ok text
    | none => return .error FileError.notText.message

abbrev Handles := List (String × IO.FS.Handle)

def extend (handles : Handles) (path text : String) : IO Unit := do
  match handles.lookup path with
  | some handle =>
    handle.putStr text
    handle.flush
  | none => throw (.userError "not open")

/-- Reads no more than one byte, since some files have no end. -/
def readByte (path : String) : IO ByteArray := do
  (← IO.FS.Handle.mk path .read).read 1

def perform (handles : Handles) : Errand → IO (Finding × Handles)
  | .execute _ _ => return (.output (.error FileError.notFound.message), handles)
  | .read path => return (.text (← readText path), handles)
  | .isFile path => return (.answer (← attempt (readByte path)).toBool, handles)
  | .write path text => return (.done (← attempt (IO.FS.writeFile path text)), handles)
  | .attach path => do
    match ← attempt (IO.FS.Handle.mk path .append) with
    | .ok handle => return (.done (.ok ()), (path, handle) :: handles)
    | .error cause => return (.done (.error cause), handles)
  | .extend path text => return (.done (← attempt (extend handles path text)), handles)

/-- Works a command line out, one errand after another. -/
partial def answer (surroundings : CommandLine.Surroundings Transcript) (arguments : List String)
    (findings : List Finding) (handles : Handles) : IO CommandLine.Reply := do
  let (reply, transcript) :=
    CommandLine.run Transcript.host surroundings arguments ⟨findings, none⟩
  match transcript.next with
  | none => return reply
  | some errand =>
    let (finding, handles) ← perform handles errand
    answer surroundings arguments (findings ++ [finding]) handles

def readEnvironment : IO (List (String × String)) := do
  match ← attempt (IO.FS.readBinFile "/proc/self/environ") with
  | .error _ => return []
  | .ok bytes =>
    let entries := (Text.ofBytes bytes.toList).splitOn "\x00"
    return entries.filterMap fun entry =>
      (Text.splitAtFirst '=' entry.toList).map fun (name, value) =>
        (String.ofList name, String.ofList value)

partial def readInput (stream : IO.FS.Stream) (before : ByteArray) : IO ByteArray := do
  let bytes ← stream.read 65536
  if bytes.isEmpty then return before else readInput stream (before ++ bytes)

def inputFor (arguments : List String) : IO (Except String String) := do
  match Request.read? arguments with
  | some (.hook _ _ occasion) =>
    if occasion.kind.readsInput then
      let bytes ← attempt (do readInput (← IO.getStdin) .empty)
      return CommandLine.textOf (bytes.map ByteArray.toList)
    else return .ok ""
  | _ => return .ok ""

end HookRules.Main

open HookRules in
def main (arguments : List String) : IO UInt32 := do
  let surroundings : CommandLine.Surroundings Transcript :=
    { environment := ← Main.readEnvironment, input := ← Main.inputFor arguments }
  let reply ← Main.answer surroundings arguments [] []
  IO.print reply.stdout
  IO.eprint reply.stderr
  return UInt32.ofNat (reply.code % 256).toNat
