import HookRules.Shell.Session
import HookRules.Shell.Syntax

/-!
What words stand for. Commands inside words are run by a function that is given, which also says
how the session goes on.
-/

set_option autoImplicit false

namespace HookRules.Shell

abbrev Capture := List Char → Session → List Char × Session

inductive Stretch
  /-- Characters that stay together. -/
  | whole (chars : List Char)
  /-- Characters that are cut at white space. -/
  | loose (chars : List Char)
  | cut
  /-- The absence of arguments, which takes an empty word with it. -/
  | absent
  deriving Repr

def expandParts (capture : Capture) : Word → Session → List Stretch × Session
  | [], session => ([], session)
  | part :: rest, session =>
    let (found, session) : List Stretch × Session := match part with
      | .text chars _ => ([.whole chars], session)
      | .parameter "@" true =>
        match session.arguments with
        | [] => ([.absent], session)
        | arguments =>
          ((arguments.map fun argument => Stretch.whole argument.toList).intersperse .cut, session)
      | .parameter name quoted =>
        let value := (session.parameter name).toList
        ([if quoted then .whole value else .loose value], session)
      | .output source quoted =>
        let (printed, session) := capture source session
        ([if quoted then .whole printed else .loose printed], session)
    let (others, session) := expandParts capture rest session
    (found ++ others, session)

def isSpace (c : Char) : Bool := c = ' ' || c = '\t' || c = '\n'

def cutLoose (held : Option (List Char)) : List Char → List (List Char) × Option (List Char)
  | [] => ([], held)
  | c :: rest =>
    if isSpace c then
      let (fields, last) := cutLoose none rest
      (held.toList ++ fields, last)
    else cutLoose (some (held.getD [] ++ [c])) rest

def fieldsOf (held : Option (List Char)) : List Stretch → List (List Char)
  | [] => held.toList
  | .whole chars :: rest => fieldsOf (some (held.getD [] ++ chars)) rest
  | .loose chars :: rest =>
    let (fields, last) := cutLoose held chars
    fields ++ fieldsOf last rest
  | .cut :: rest => held.toList ++ fieldsOf none rest
  | .absent :: rest => fieldsOf (if held = some [] then none else held) rest

def expandWords (capture : Capture) : List Word → Session → List String × Session
  | [], session => ([], session)
  | word :: rest, session =>
    let (stretches, session) := expandParts capture word session
    let (others, session) := expandWords capture rest session
    ((fieldsOf none stretches).map String.ofList ++ others, session)

def expandWhole (capture : Capture) (word : Word) (session : Session) : String × Session :=
  let (stretches, session) := expandParts capture word session
  let chars := stretches.flatMap fun stretch =>
    match stretch with
    | .whole chars | .loose chars => chars
    | .cut => [' ']
    | .absent => []
  (String.ofList chars, session)

def expandAssignments (capture : Capture) :
    List (String × Word) → Session → List (String × String) × Session
  | [], session => ([], session)
  | (name, word) :: rest, session =>
    let (value, session) := expandWhole capture word session
    let (others, session) := expandAssignments capture rest session
    ((name, value) :: others, session)

def expandPattern (session : Session) (word : Word) : List Glob :=
  Glob.read 0 <| word.flatMap fun part =>
    match part with
    | .text chars quoted => chars.map fun c => (c, quoted)
    | .parameter name quoted => (session.parameter name).toList.map fun c => (c, quoted)
    | .output _ _ => []

/-- Values for names from a line: a word for each name, and what is left for the last one. -/
def deal (line : List Char) : List String → List (String × String)
  | [] => []
  | [name] =>
    let text := line.dropWhile isSpace
    [(name, String.ofList (text.reverse.dropWhile isSpace).reverse)]
  | name :: rest =>
    let text := line.dropWhile isSpace
    let isWord := fun c => !isSpace c
    (name, String.ofList (text.takeWhile isWord)) :: deal (text.dropWhile isWord) rest

def redirect (capture : Capture) :
    List Redirection → Streams → Session → Option Streams × Session
  | [], streams, session => (some streams, session)
  | redirection :: rest, streams, session =>
    let (target, session) := expandWhole capture redirection.target session
    let go := fun (stream : Stream) (session : Session) =>
      redirect capture rest ((redirection.stream, stream) :: streams) session
    let failed := fun (reason : FileError) (verb missing : String) =>
      let reason := if reason = .notFound then missing else reason.reason
      (none, session.complain streams ("cannot " ++ verb ++ " " ++ target ++ ": " ++ reason) 2)
    match redirection.kind with
    | .same =>
      match target.toNat? with
      | some number => go ((streams.lookup number).getD .nowhere) session
      | none => go .nowhere session
    | .read =>
      match session.files.readBytes target with
        | .ok content =>
          let (index, session) := session.fresh content
          go (.buffer index) session
        | .error error => failed error "open" "No such file"
    | kind =>
      match session.files.openFor target (kind = .append) with
        | .ok (names, files) => go (.file names) { session with files := files }
        | .error error => failed error "create" "Directory nonexistent"

end HookRules.Shell
