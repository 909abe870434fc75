import HookRules.Event.Basic

/-!
The command line: what is asked for, and how that is said.
-/

set_option autoImplicit false

namespace HookRules

inductive Occasion
  | startCommit (user capabilities : String)
  | preCommit (transaction : String)
  | postCommit (revision : String)
  | preRevpropChange (revision user property action : String)
  | postRevpropChange (revision user property action : String)
  | preLock (path user comment steal : String)
  | postLock (user : String)
  | preUnlock (path user token breakLock : String)
  | postUnlock (user : String)
  deriving Repr, DecidableEq

namespace Occasion

def kind : Occasion → EventKind
  | .startCommit .. => .startCommit
  | .preCommit .. => .preCommit
  | .postCommit .. => .postCommit
  | .preRevpropChange .. => .preRevpropChange
  | .postRevpropChange .. => .postRevpropChange
  | .preLock .. => .preLock
  | .postLock .. => .postLock
  | .preUnlock .. => .preUnlock
  | .postUnlock .. => .postUnlock

/-- What the operands after the repository say. The last ones may be left out on some
occasions. -/
def ofOperands? : EventKind → List String → Option Occasion
  | .startCommit, [user] => some (.startCommit user "")
  | .startCommit, [user, capabilities] => some (.startCommit user capabilities)
  | .preCommit, [transaction] => some (.preCommit transaction)
  | .postCommit, [revision] => some (.postCommit revision)
  | .preRevpropChange, [revision, user, property, action] =>
    some (.preRevpropChange revision user property action)
  | .postRevpropChange, [revision, user, property, action] =>
    some (.postRevpropChange revision user property action)
  | .preLock, [path, user] => some (.preLock path user "" "0")
  | .preLock, [path, user, comment] => some (.preLock path user comment "0")
  | .preLock, [path, user, comment, steal] => some (.preLock path user comment steal)
  | .postLock, [user] => some (.postLock user)
  | .preUnlock, [path, user] => some (.preUnlock path user "" "0")
  | .preUnlock, [path, user, token] => some (.preUnlock path user token "0")
  | .preUnlock, [path, user, token, breakLock] => some (.preUnlock path user token breakLock)
  | .postUnlock, [user] => some (.postUnlock user)
  | _, _ => none

def event (repository input : String) : Occasion → Except EventError Event
  | .startCommit user capabilities => .ok (.startCommit repository user capabilities)
  | .preCommit transaction => .ok (.preCommit repository transaction input)
  | .postCommit revision => Event.postCommit repository revision
  | .preRevpropChange revision user property action =>
    Event.revpropChange .preRevpropChange repository revision user property action input
  | .postRevpropChange revision user property action =>
    Event.revpropChange .postRevpropChange repository revision user property action input
  | .preLock path user comment steal => .ok (.preLock repository path user comment steal)
  | .postLock user => .ok (.lockNotice .postLock repository user input)
  | .preUnlock path user token breakLock =>
    .ok (.preUnlock repository path user token breakLock)
  | .postUnlock user => .ok (.lockNotice .postUnlock repository user input)

end Occasion

inductive Request
  | version
  | check (document : String)
  | hook (repository : String) (document : Option String) (occasion : Occasion)
  deriving Repr, DecidableEq

namespace Request

def documentOption : String := "--cfgfile"

def isOption (word : String) : Bool := word.startsWith "-" && word ≠ "-"

structure Operands where
  document : Option String
  values : List String
  deriving Repr, DecidableEq, Inhabited

def Operands.name? (operands : Operands) (path : String) : Option Operands :=
  if operands.document.isNone && !path.isEmpty then some { operands with document := some path }
  else none

/-- Reads the words after a command. A double dash ends the options. -/
def readOperands (operands : Operands) : List String → Option Operands
  | [] => some operands
  | "--" :: rest => some { operands with values := operands.values ++ rest }
  | word :: rest =>
    if word = documentOption then
      match rest with
      | [] => none
      | path :: rest =>
        if isOption path then none
        else (operands.name? path).bind fun operands => readOperands operands rest
    else if word.startsWith (documentOption ++ "=") then
      (operands.name? (String.ofList (word.toList.drop (documentOption.length + 1)))).bind
        fun operands => readOperands operands rest
    else if isOption word then none
    else readOperands { operands with values := operands.values ++ [word] } rest

def ofCommand? (command : String) (operands : Operands) : Option Request :=
  if command = "check" then
    match operands with
    | ⟨some document, []⟩ => some (.check document)
    | _ => none
  else do
    let kind ← EventKind.ofName? command
    match operands.values with
    | [] => none
    | repository :: values =>
      guard !repository.isEmpty
      return .hook repository operands.document (← Occasion.ofOperands? kind values)

/-- Whether a word asks for the version, in which case nothing after it is read. -/
def asksVersion (word : String) : Bool := word = "--version" || word.startsWith "-V"

def read? : List String → Option Request
  | [] => none
  | word :: rest =>
    if asksVersion word then some .version
    else (readOperands ⟨none, []⟩ rest).bind (ofCommand? word)

end Request

end HookRules
