import HookRules.Shell.Program.Basic

/-!
Programs that show, make, move and remove files.
-/

set_option autoImplicit false

namespace HookRules.Shell.Program

def about (program deed name : String) (error : FileError) : String :=
  program ++ ": " ++ deed ++ " '" ++ name ++ "': " ++ error.reason

def each (program deed : String) (act : String → Files → Except FileError Files) : Program :=
  fun names _ files => names.foldl (fun reply name =>
    match act name reply.files with
    | .ok files => { reply with files := files }
    | .error error => reply.complaining (about program deed name error) 1) (.silent files)

def cat : Program := fun arguments input files =>
  let names := if arguments.isEmpty then ["-"] else arguments
  names.foldl (fun reply name =>
    if name = "-" then { reply with out := reply.out ++ input }
    else match files.readBytes name with
      | .ok content => { reply with out := reply.out ++ content }
      | .error error => reply.complaining ("cat: " ++ name ++ ": " ++ error.reason) 1)
    (.silent files)

def touch : Program := fun arguments =>
  match operands arguments with
  | [] => misused "touch" "missing file operand" arguments
  | names => each "touch" "cannot touch" (fun name files =>
      (files.openFor name true).map Prod.snd) names

def mkdir : Program := fun arguments =>
  let parents := hasOption 'p' arguments
  match operands arguments with
  | [] => misused "mkdir" "missing operand" arguments
  | names => each "mkdir" "cannot create directory" (fun name files =>
      match files.locate name with
      | .ok (.vacant names _) => .ok (files.put names .folder)
      | .ok (.found _ .folder) => if parents then .ok files else .error .exists
      | .ok (.found _ _) => .error .exists
      | .error error =>
        if parents ∧ error = .notFound then
          let names := (name.splitOn "/").filter (· ≠ "")
          .ok ((files.putFolders names).put names .folder)
        else .error error) names

/-- Removes files, and folders if it is told to. When forced, what is missing is no failure. -/
def rm : Program := fun arguments =>
  let forced := hasOption 'f' arguments
  let deep := hasOption 'r' arguments || hasOption 'R' arguments
  match operands arguments with
  | [] => if forced then ending 0 arguments else misused "rm" "missing operand" arguments
  | names => each "rm" "cannot remove" (fun name files =>
      match files.locate name with
      | .ok (.found names (.file _ _)) => .ok (files.drop names)
      | .ok (.found names .folder) => if deep then .ok (files.drop names) else .error .isFolder
      | .ok (.vacant _ _) => if forced then .ok files else .error .notFound
      | .error error => if forced then .ok files else .error error) names

def destination (files : Files) (source target : String) : String :=
  match files.locate target with
  | .ok (.found _ .folder) => target ++ "/" ++ ((source.splitOn "/").getLast?.getD source)
  | _ => target

def copy (program : String) (move : Bool) : Program := fun arguments input files =>
  let fail := fun (message : String) => (Reply.silent files).complaining message 1
  match operands arguments with
  | [source, target] =>
    let target := destination files source target
    match files.locate source with
    | .ok (.found names (.file content _)) =>
      match files.openFor target false with
      | .error error =>
        fail (if move then
            program ++ ": cannot move '" ++ source ++ "' to '" ++ target ++ "': " ++ error.reason
          else about program "cannot create regular file" target error)
      | .ok (place, files) =>
        let files := files.extend place content
        .silent (if move ∧ place ≠ names then files.forward names place else files)
    | .ok (.found _ .folder) =>
      fail (program ++ ": -r not specified; omitting directory '" ++ source ++ "'")
    | .ok (.vacant _ _) => fail (about program "cannot stat" source .notFound)
    | .error error => fail (about program "cannot stat" source error)
  | [source] =>
    misused program ("missing destination file operand after '" ++ source ++ "'") arguments input
      files
  | _ => misused program "missing file operand" arguments input files

/-- The names in a folder in their order, without those that begin with a dot. -/
def namesIn (files : Files) (folder : List String) : List String :=
  let names := files.nodes.filterMap fun entry =>
    if entry.1.dropLast = folder then entry.1.getLast? else none
  (names.filter fun name => !name.startsWith ".").mergeSort

def ls : Program := fun arguments _ files =>
  let names := match operands arguments with
    | [] => ["."]
    | names => names.mergeSort
  let place := fun (name : String) => match files.locate name with
    | .ok (.found way node) => Except.ok (way, node)
    | .ok (.vacant _ _) => .error FileError.notFound
    | .error error => .error error
  let single := names.filter fun name => place name matches .ok (_, .file _ _)
  let blocks := names.filterMap fun name =>
    match place name with
    | .ok (way, .folder) =>
      let listed := namesIn files way
      some ((if names.length = 1 then listed else (name ++ ":") :: listed).map (· ++ "\n"))
    | _ => none
  let first := if single.isEmpty then [] else [single.map (· ++ "\n")]
  let printed := "\n".intercalate ((first ++ blocks).map String.join)
  names.foldl (fun reply name =>
    match place name with
    | .error error => reply.complaining (about "ls" "cannot access" name error) 2
    | .ok _ => reply) ⟨Text.toBytes printed, [], 0, files⟩

def counts (bytes : List UInt8) : List Nat :=
  let isSpace := fun (byte : UInt8) => byte = 32 || (9 ≤ byte && byte ≤ 13)
  let pairs := bytes.zip (32 :: bytes)
  [bytes.count 10, pairs.countP fun (byte, before) => !isSpace byte && isSpace before,
    bytes.length]

/-- Counts lines, words and bytes, or what the options pick of these: of one file, or of what it
reads. -/
def wc : Program := fun arguments input files =>
  let picked := ['l', 'w', 'c'].map fun letter => hasOption letter arguments
  let shown := fun (bytes : List UInt8) =>
    ((counts bytes).zip picked).filterMap fun (count, picked) =>
      if picked || !(['l', 'w', 'c'].any fun letter => hasOption letter arguments) then some count
      else none
  let line := fun (width : Nat) (bytes : List UInt8) (name : List String) =>
    let fields := (shown bytes).map fun count =>
      String.ofList (List.replicate (width - (toString count).length) ' ') ++ toString count
    Text.toBytes (" ".intercalate (fields ++ name) ++ "\n")
  match operands arguments with
  | [] => ⟨line (if (shown input).length = 1 then 1 else 7) input [], [], 0, files⟩
  | name :: _ =>
    match files.readBytes name with
    | .ok content => ⟨line (toString content.length).length content [name], [], 0, files⟩
    | .error error => (Reply.silent files).complaining ("wc: " ++ name ++ ": " ++ error.reason) 1

end HookRules.Shell.Program
