import HookRules.Machine.Files
import HookRules.Shell.Glob

/-!
A shell at work: its files, what it has printed, and its variables.
-/

set_option autoImplicit false

namespace HookRules.Shell

inductive Stream
  | buffer (index : Nat)
  | file (names : List String)
  | nowhere
  deriving Repr, DecidableEq, Inhabited

inductive Ending
  | left (code : Nat)
  | killed (signal : Nat)
  deriving Repr, DecidableEq

abbrev Environment := List (String × String)

structure Session where
  files : Files
  buffers : List (List UInt8)
  name : String
  arguments : List String
  assigned : Environment
  exported : List String
  status : Nat
  ending : Option Ending

abbrev Streams := List (Nat × Stream)

namespace Session

def processNumber : String := "4242"

def start (files : Files) (buffers : List (List UInt8)) (environment : Environment)
    (name : String) (arguments : List String) : Session where
  files := files
  buffers := buffers
  name := name
  arguments := arguments
  assigned := environment
  exported := environment.map Prod.fst
  status := 0
  ending := none

def environment (session : Session) : Environment :=
  session.assigned.filter fun entry => session.exported.contains entry.1

/-- The streams of a shell that begins: nothing to read, and two buffers to write to. -/
def firstStreams : Streams := [(0, .nowhere), (1, .buffer 0), (2, .buffer 1)]

def addTo (session : Session) (stream : Stream) (bytes : List UInt8) : Session :=
  match stream with
  | .nowhere => session
  | .buffer index =>
    { session with buffers := session.buffers.modify index (· ++ bytes) }
  | .file names => { session with files := session.files.extend names bytes }

def write (session : Session) (streams : Streams) (number : Nat) (bytes : List UInt8) : Session :=
  match streams.lookup number with
  | some stream => session.addTo stream bytes
  | none => session

def complainAt (session : Session) (streams : Streams) (line : Nat) (message : String)
    (status : Nat) : Session :=
  { session.write streams 2
      (Text.toBytes (session.name ++ ": " ++ toString line ++ ": " ++ message ++ "\n")) with
    status := status }

def complain (session : Session) (streams : Streams) (message : String) (status : Nat) : Session :=
  session.complainAt streams 1 message status

def input (session : Session) (streams : Streams) : List UInt8 :=
  match streams.lookup 0 with
  | some (.buffer index) => session.buffers[index]?.getD []
  | _ => []

def consume (session : Session) (streams : Streams) (count : Nat) : Session :=
  match streams.lookup 0 with
  | some (.buffer index) =>
    { session with buffers := session.buffers.modify index fun bytes => bytes.drop count }
  | _ => session

def fresh (session : Session) (bytes : List UInt8) : Nat × Session :=
  (session.buffers.length, { session with buffers := session.buffers ++ [bytes] })

def assign (session : Session) (name value : String) : Session :=
  { session with assigned := (name, value) :: session.assigned.filter (·.1 ≠ name) }

def unassign (session : Session) (name : String) : Session :=
  { session with assigned := session.assigned.filter (·.1 ≠ name) }

def value? (session : Session) (name : String) : Option String :=
  match name with
  | "@" | "*" => some (" ".intercalate session.arguments)
  | "#" => some (toString session.arguments.length)
  | "?" => some (toString session.status)
  | "$" => some processNumber
  | "0" => some session.name
  | "!" | "-" => some ""
  | name =>
    match name.toNat? with
    | some number => session.arguments[number - 1]?
    | none => session.assigned.lookup name

def cutName (inside : List Char) : String × List Char :=
  let name := inside.takeWhile fun c => c.isAlphanum || c = '_'
  if name.isEmpty then (String.ofList (inside.take 1), inside.drop 1)
  else (String.ofList name, inside.drop name.length)

/-- What a parameter stands for, given what stands between its braces. -/
def parameter (session : Session) (inside : String) : String :=
  let pattern := fun (text : List Char) => Glob.read 0 (text.map fun c => (c, false))
  match inside.toList with
  | '#' :: c :: more =>
    toString ((session.value? (String.ofList (c :: more))).getD "").length
  | inside =>
    let (name, action) := cutName inside
    let found := session.value? name
    let text := found.getD ""
    let chars := text.toList
    match action with
    | ':' :: '-' :: other | ':' :: '=' :: other =>
      if text.isEmpty then String.ofList other else text
    | '-' :: other | '=' :: other => found.getD (String.ofList other)
    | ':' :: '+' :: other => if text.isEmpty then "" else String.ofList other
    | '+' :: other => if found.isSome then String.ofList other else ""
    | '#' :: '#' :: other =>
      String.ofList (chars.drop ((Glob.reach? true (pattern other) chars).getD 0))
    | '#' :: other => String.ofList (chars.drop ((Glob.reach? false (pattern other) chars).getD 0))
    | '%' :: '%' :: other =>
      String.ofList (chars.take ((Glob.reachBack? true (pattern other) chars).getD chars.length))
    | '%' :: other =>
      String.ofList (chars.take ((Glob.reachBack? false (pattern other) chars).getD chars.length))
    | _ => text

def code (session : Session) : Option Nat :=
  match session.ending with
  | some (.killed _) => none
  | some (.left code) => some code
  | none => some session.status

def obituary : Nat → String
  | 1 => "Hangup\n"
  | 6 => "Aborted\n"
  | 9 => "Killed\n"
  | 15 => "Terminated\n"
  | _ => ""

def resume (session : Session) (streams : Streams) (ended : Session) : Session :=
  let session := { session with files := ended.files, buffers := ended.buffers }
  match ended.ending with
  | some (.killed signal) =>
    { session.write streams 2 (Text.toBytes (obituary signal)) with status := 128 + signal }
  | some (.left code) => { session with status := code }
  | none => { session with status := ended.status }

end Session

end HookRules.Shell
