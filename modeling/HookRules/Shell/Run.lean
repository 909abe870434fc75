import HookRules.Shell.Expansion
import HookRules.Shell.Program
import HookRules.Shell.Reader
import HookRules.Text.Numeral

/-!
Running commands. What is printed goes to buffers or files; a command that runs too long is
killed, so that every script comes to an end.
-/

set_option autoImplicit false

namespace HookRules.Shell

def usualName (program : String) : String :=
  ["/bin/", "/usr/bin/"].foldl (fun name folder =>
    if program.startsWith folder then String.ofList (program.toList.drop folder.length) else name)
    program

def signals : List (String × Nat) :=
  [("HUP", 1), ("INT", 2), ("QUIT", 3), ("ABRT", 6), ("KILL", 9), ("USR1", 10), ("USR2", 12),
    ("PIPE", 13), ("ALRM", 14), ("TERM", 15)]

def signal? (text : String) : Option Nat := text.toNat? <|> signals.lookup text

def readKill : List String → Option (Nat × List String)
  | "-s" :: name :: targets => (signal? name).map fun signal => (signal, targets)
  | targets@(option :: rest) =>
    if option.startsWith "-" then
      (signal? (String.ofList (option.toList.drop 1))).map fun signal => (signal, rest)
    else some (15, targets)
  | [] => none

/-- Signals that end no process. -/
def harmless : List Nat := [0, 17, 18, 23, 28]

def exitCode? (text : String) : Option Nat :=
  (Text.readNat Text.maxInt32 text).toOption.map fun code => code % 256

def builtIn? (program : String) (arguments : List String) (streams : Streams)
    (session : Session) : Option Session :=
  let done : Session := { session with status := 0 }
  match program, arguments with
  | "exit", [] | "return", [] => some { session with ending := some (.left session.status) }
  | "exit", text :: _ | "return", text :: _ =>
    match exitCode? text with
    | some code => some { session with ending := some (.left code) }
    | none =>
      let told := session.complain streams (program ++ ": Illegal number: " ++ text) 2
      some { told with ending := some (.left 2) }
  | "kill", arguments =>
    match readKill arguments with
    | some (signal, targets) =>
      if targets.all (· = Session.processNumber) then
        some (if harmless.contains signal then done
          else { session with ending := some (.killed signal) })
      else some (session.complain streams "kill: No such process" 1)
    | none => some (session.complain streams "kill: Illegal option" 2)
  | "shift", [] => some { done with arguments := session.arguments.drop 1 }
  | "shift", count :: _ => some { done with arguments := session.arguments.drop (count.toNat?.getD 1) }
  | "set", "--" :: arguments => some { done with arguments := arguments }
  | "set", _ | "readonly", _ | "local", _ | "umask", _ | "trap", _ | "wait", _ => some done
  | "export", names =>
    some <| names.foldl (fun session word =>
      match word.splitOn "=" with
      | name :: value@(_ :: _) =>
        let session := session.assign name ("=".intercalate value)
        { session with exported := name :: session.exported }
      | _ => { session with exported := word :: session.exported }) done
  | "unset", names => some (names.foldl Session.unassign done)
  | "read", names =>
    let bytes := session.input streams
    let line := bytes.takeWhile (· ≠ 10)
    let ended := line.length < bytes.length
    let names := names.filter fun name => !name.startsWith "-"
    let dealt := deal (Text.ofBytes line).toList names
    let session := session.consume streams (line.length + 1)
    some { dealt.foldl (fun session pair => session.assign pair.1 pair.2) session with
      status := if ended then 0 else 1 }
  | _, _ => none

/-- The program that a script names in its first line, and what comes with it. -/
def interpreter (script : List Char) : List String :=
  match script with
  | '#' :: '!' :: rest =>
    ((String.ofList (rest.takeWhile (· ≠ '\n'))).splitOn " ").filter fun word => !word.isEmpty
  | _ => []

def isShell (words : List String) : Bool :=
  match words.map usualName with
  | "env" :: name :: _ | name :: _ => ["sh", "dash", "bash"].contains name
  | [] => false

def unreadable (script : List Char) : String :=
  if (tokens? script).isNone then "Syntax error: Unterminated quoted string" else "Syntax error"

mutual

/-- Runs a command. Once a process has ended, nothing more of it runs. -/
def run : (steps : Nat) → Command → Streams → Session → Session
  | 0, _, _, session => { session with ending := some (.killed 9) }
  | steps + 1, command, streams, session =>
    let capture : Capture := fun source session =>
      match read? source with
      | none => ([], session)
      | some inner =>
        let (index, opened) := session.fresh []
        let after := run steps inner ((1, .buffer index) :: streams) opened
        let printed := Text.ofBytes (after.buffers[index]?.getD [])
        ((printed.toList.reverse.dropWhile (· = '\n')).reverse, session.resume streams after)
    if session.ending.isSome then session
    else match command with
      | .nothing => session
      | .sequence first second => run steps second streams (run steps first streams session)
      | .both first second =>
        let after := run steps first streams session
        if after.status = 0 then run steps second streams after else after
      | .either first second =>
        let after := run steps first streams session
        if after.status = 0 then after else run steps second streams after
      | .negated body =>
        let after := run steps body streams session
        { after with status := if after.status = 0 then 1 else 0 }
      | .pipe first second =>
        let (index, opened) := session.fresh []
        let between := run steps first ((1, .buffer index) :: streams) opened
        let after := run steps second ((0, .buffer index) :: streams)
          { session with files := between.files, buffers := between.buffers }
        session.resume streams after
      | .group apart body redirections =>
        match redirect capture redirections streams session with
        | (none, session) => session
        | (some inner, session) =>
          let after := run steps body inner session
          if apart then session.resume streams after else after
      | .forEach name words body =>
        let (values, session) := match words with
          | some words => expandWords capture words session
          | none => (session.arguments, session)
        runEach steps name values body streams { session with status := 0 }
      | .branch condition yes no =>
        let after := run steps condition streams session
        if after.ending.isSome then after
        else if after.status = 0 then run steps yes streams { after with status := 0 }
        else run steps no streams { after with status := if no matches .nothing then 0 else after.status }
      | .repeatWhile expected condition body =>
        let after := run steps condition streams session
        if after.ending.isSome then after
        else if (after.status = 0) = expected then
          run steps (.repeatWhile expected condition body) streams (run steps body streams after)
        else { after with status := 0 }
      | .clause word patterns body next =>
        let (value, session) := expandWhole capture word session
        if patterns.any fun pattern =>
            Glob.matchesAll (expandPattern session pattern) value.toList then
          run steps body streams { session with status := 0 }
        else run steps next streams { session with status := 0 }
      | .simple assignments words redirections =>
        let (fields, session) := expandWords capture words session
        let (values, session) := expandAssignments capture assignments session
        match redirect capture redirections streams session with
        | (none, session) => session
        | (some inner, session) =>
          match fields with
          | [] =>
            let session := values.foldl (fun session pair => session.assign pair.1 pair.2) session
            let captures := assignments.any fun pair => pair.2.any fun part =>
              match part with
              | .output _ _ => true
              | _ => false
            if words.isEmpty && !captures then { session with status := 0 } else session
          | program :: arguments => call steps program arguments values inner session

def runEach : (steps : Nat) → String → List String → Command → Streams → Session → Session
  | 0, _, _, _, _, session => { session with ending := some (.killed 9) }
  | _, _, [], _, _, session => session
  | steps + 1, name, value :: rest, body, streams, session =>
    let after := run steps body streams (session.assign name value)
    if after.ending.isSome then after else runEach steps name rest body streams after

/-- Calls a program, or does what the shell does itself. `extra` is handed to the program besides
the environment. -/
def call : (steps : Nat) → String → List String → Environment → Streams → Session → Session
  | 0, _, _, _, _, session => { session with ending := some (.killed 9) }
  | steps + 1, program, arguments, extra, streams, session =>
    let reply := fun (own : Bool) (found : Program) =>
      let done := found arguments (session.input streams) session.files
      let after := { session with files := done.files, status := done.code }
      let after := after.write streams 1 done.out
      if own then
        (((Text.ofBytes done.err).splitOn "\n").filter (· ≠ "")).foldl
          (fun after line => after.complain streams line done.code) after
      else after.write streams 2 done.err
    match builtIn? program arguments streams session with
    | some after => after
    | none =>
      match program, arguments with
      | "exec", inner :: rest =>
        let after := call steps inner rest extra streams session
        { after with ending := after.ending <|> some (.left after.status) }
      | "command", inner :: rest => call steps inner rest extra streams session
      | "exec", [] | "command", [] => { session with status := 0 }
      | "eval", words =>
        match read? (" ".intercalate words).toList with
        | some inner => run steps inner streams { session with status := 0 }
        | none => session.complain streams "Syntax error" 2
      | program, arguments =>
        match Program.own? program, Program.named? (usualName program) with
        | some found, _ => reply true found
        | none, some found => reply false found
        | none, none =>
          match launch steps program arguments (extra ++ session.environment) streams session.files
              session.buffers with
          | .ok after => session.resume streams after
          | .error error =>
            if error = .notFound then session.complain streams (program ++ ": not found") 127
            else session.complain streams (program ++ ": " ++ error.reason) 126

def launch : (steps : Nat) → String → List String → Environment → Streams → Files →
    List (List UInt8) → Except FileError Session
  | 0, _, _, _, _, _, _ => .error .denied
  | steps + 1, program, arguments, environment, streams, files, buffers =>
    let start := Session.start files buffers environment
    let begin := fun (name : String) (arguments : List String) (script : List Char) =>
      match read? script with
      | some command => run steps command streams (start name arguments)
      | none => (start name arguments).complain streams (unreadable script) 2
    if usualName program = "sh" then
      match arguments with
      | "-c" :: script :: name :: rest => .ok (begin name rest script.toList)
      | ["-c", script] => .ok (begin "sh" [] script.toList)
      | ["-c"] => .ok ((start "sh" []).complainAt streams 0 "-c requires an argument" 2)
      | [] => .ok (begin "sh" [] (Text.ofBytes ((start "sh" []).input streams)).toList)
      | path :: rest =>
        match files.readBytes path with
        | .ok content => .ok (begin path rest (Text.ofBytes content).toList)
        | .error error =>
          .ok ((start "sh" []).complainAt streams 0 ("cannot open " ++ path ++ ": " ++
            if error = .notFound then "No such file" else error.reason) 2)
    else if !program.contains '/' then .error .notFound
    else match files.locate program with
      | .error error => .error error
      | .ok (.vacant _ _) => .error .notFound
      | .ok (.found _ .folder) | .ok (.found _ (.file _ false)) => .error .denied
      | .ok (.found _ (.file content true)) =>
        let script := (Text.ofBytes content).toList
        if isShell (interpreter script) then .ok (begin program arguments script)
        else match interpreter script with
          | [] => .error .notExecutable
          | name :: rest =>
            if (Program.named? (usualName name)).isSome then
              .ok (call steps name (rest ++ program :: arguments) [] streams
                (start program arguments))
            else .error .notFound

end

/-- How many steps a script may take in depth. -/
def stepLimit : Nat := 20000

end HookRules.Shell
