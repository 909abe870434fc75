import HookRules.Text.Utf8

/-!
The files below one folder, by the names that lead to them. Nothing is known of what lies outside
the folder.
-/

set_option autoImplicit false

namespace HookRules

inductive FileError
  | notFound
  | notFolder
  | isFolder
  | denied
  | nameTooLong
  | nulInName
  | notText
  | notExecutable
  | exists
  | noSpace
  deriving Repr, DecidableEq

def FileError.message : FileError → String
  | .notFound => "No such file or directory (os error 2)"
  | .notFolder => "Not a directory (os error 20)"
  | .isFolder => "Is a directory (os error 21)"
  | .denied => "Permission denied (os error 13)"
  | .nameTooLong => "File name too long (os error 36)"
  | .nulInName => "file name contained an unexpected NUL byte"
  | .notText => "stream did not contain valid UTF-8"
  | .notExecutable => "Exec format error (os error 8)"
  | .exists => "File exists (os error 17)"
  | .noSpace => "No space left on device (os error 28)"

def FileError.reason : FileError → String
  | .notFound => "No such file or directory"
  | .notFolder => "Not a directory"
  | .isFolder => "Is a directory"
  | .denied => "Permission denied"
  | .nameTooLong => "File name too long"
  | .exists => "File exists"
  | .noSpace => "No space left on device"
  | error => error.message

inductive Node
  | file (content : List UInt8) (executable : Bool)
  | folder
  deriving Repr, DecidableEq, Inhabited

/-- What lies below a folder, each by the names that lead to it. Each way leads to one node. -/
structure Files where
  nodes : List (List String × Node)
  /-- The ways to the files that were opened to be added to, for as long as they are there. -/
  opened : List (Option (List String))
  deriving Repr, DecidableEq, Inhabited

inductive Place
  | found (names : List String) (node : Node)
  /-- Nothing is there, but its folder is. `asFolder` says that the path can only be one. -/
  | vacant (names : List String) (asFolder : Bool)
  deriving Repr, DecidableEq

namespace Files

def none : Files := ⟨[], []⟩

def at? (files : Files) (names : List String) : Option Node :=
  if names = [] then some .folder else files.nodes.lookup names

def put (files : Files) (names : List String) (node : Node) : Files :=
  if (files.nodes.lookup names).isSome then
    { files with
      nodes := files.nodes.map fun entry => if entry.1 = names then (names, node) else entry }
  else { files with nodes := files.nodes ++ [(names, node)] }

def drop (files : Files) (names : List String) : Files where
  nodes := files.nodes.filter fun entry => !names.isPrefixOf entry.1
  opened := files.opened.map fun way => way.filter fun way => !names.isPrefixOf way

def walk (files : Files) (here : List String) : List String → Except FileError Place
  | [] => .ok (.found here .folder)
  | step :: rest =>
    if step = "" ∨ step = "." then files.walk here rest
    else if step = ".." then files.walk here.dropLast rest
    else if step.utf8ByteSize > 255 then .error .nameTooLong
    else
      let next := here ++ [step]
      match files.at? next, rest with
      | some (.file content executable), [] => .ok (.found next (.file content executable))
      | some (.file _ _), _ :: _ => .error .notFolder
      | some .folder, _ => files.walk next rest
      | Option.none, rest =>
        if rest.all (· == "") then .ok (.vacant next !rest.isEmpty) else .error .notFound

/-- The file outside the folder that is always empty and takes everything. -/
def sink : String := "/dev/null"

def outside : List String := ["/", "/tmp", "/dev"]

/-- Where a path leads. Of what lies outside only a few folders are known. -/
def locate (files : Files) (path : String) : Except FileError Place :=
  if path.toList.contains '\x00' then .error .nulInName
  else if outside.contains path then .ok (.found [] .folder)
  else if path.isEmpty ∨ path.startsWith "/" then .error .notFound
  else files.walk [] (path.splitOn "/")

def readBytes (files : Files) (path : String) : Except FileError (List UInt8) :=
  if path = sink then .ok [] else match files.locate path with
  | .error error => .error error
  | .ok (.found _ (.file content _)) => .ok content
  | .ok (.found _ .folder) => .error .isFolder
  | .ok (.vacant _ _) => .error .notFound

def readText (files : Files) (path : String) : Except FileError String :=
  match files.readBytes path with
  | .error error => .error error
  | .ok bytes => match Text.ofBytes? bytes with
    | some text => .ok text
    | Option.none => .error .notText

def isFile (files : Files) (path : String) : Bool :=
  match files.locate path with
  | .ok (.found _ (.file _ _)) => true
  | _ => false

/-- Opens a file to write to, which makes it if need be; `keep` says whether its content stays.
The way to it is the answer. -/
def openFor (files : Files) (path : String) (keep : Bool) :
    Except FileError (List String × Files) :=
  if path = sink then .ok ([], files) else match files.locate path with
  | .error error => .error error
  | .ok (.found _ .folder) | .ok (.vacant _ true) => .error .isFolder
  | .ok (.found names (.file _ executable)) =>
    .ok (names, if keep then files else files.put names (.file [] executable))
  | .ok (.vacant names false) => .ok (names, files.put names (.file [] false))

def extend (files : Files) (names : List String) (bytes : List UInt8) : Files :=
  match files.at? names with
  | some (.file content executable) => files.put names (.file (content ++ bytes) executable)
  | _ => files

def attach (files : Files) (names : List String) : Nat × Files :=
  (files.opened.length, { files with opened := files.opened ++ [some names] })

/-- Adds bytes to the end of an open file. Where it was taken away no one sees them. -/
def extendOpened (files : Files) (file : Nat) (bytes : List UInt8) : Files :=
  match files.opened[file]? with
  | some (some names) => files.extend names bytes
  | _ => files

/-- Takes a file that was copied to a place away from where it was; what is open stays with it. -/
def forward (files : Files) (names place : List String) : Files :=
  let lead := fun (way : List String) =>
    if way = names then some place else if way = place then Option.none else some way
  { files.drop names with opened := files.opened.map fun way => way.bind lead }

def write (files : Files) (path : String) (bytes : List UInt8) : Except FileError Files :=
  (files.openFor path false).map fun (names, files) => files.extend names bytes

def putFolders (files : Files) (names : List String) : Files :=
  ((List.range names.length).map fun count => names.take count).foldl
    (fun files names => if names = [] ∨ (files.at? names).isSome then files
      else files.put names .folder) files

/-- Puts a file and the folders on the way to it. A content that names an interpreter makes the
file executable. -/
def place (files : Files) (path content : String) : Files :=
  let names := (path.splitOn "/").filter fun step => step ≠ "" && step ≠ "."
  (files.putFolders names).put names
    (.file (Text.toBytes content) ("#!".toList.isPrefixOf content.toList))

def list (files : Files) : List (String × List UInt8) :=
  let found := files.nodes.filterMap fun entry =>
    match entry.2 with
    | .file content _ => some ("/".intercalate entry.1, content)
    | .folder => Option.none
  found.mergeSort fun left right => left.1 ≤ right.1

end Files

end HookRules
