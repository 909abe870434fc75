import HookRules.Event.Kind
import HookRules.Event.LockToken
import HookRules.Event.Subject
import HookRules.Text.Numeral
import HookRules.Text.Quoted
import HookRules.Token.Store
import HookRules.Path

/-!
Events: everything a repository tells about one occasion, and the tokens that rules start with.
-/

set_option autoImplicit false

namespace HookRules

/-- One occasion. What the kind of event does not carry is absent. -/
structure Event where
  kind : EventKind
  repository : String
  subject : Subject
  user : Option String
  capabilities : Option String
  path : Option String
  comment : Option String
  steal : Option Bool
  breakLock : Option Bool
  propertyName : Option String
  propertyAction : Option String
  /-- The value that a property is given, or had. -/
  propertyValue : Option String
  lockTokens : List LockToken
  paths : List String
  deriving Repr, DecidableEq, Inhabited

inductive EventError
  | unknownKind (name : String)
  | badRevision (text : String) (cause : Text.NumeralError)
  deriving Repr, DecidableEq

def EventError.message : EventError → String
  | .unknownKind name => "Unknown hook event: " ++ name
  | .badRevision text cause =>
    "Not a valid revision number: " ++ Text.quoted text ++ ": " ++ cause.message

namespace Event

def bare (kind : EventKind) (repository : String) (subject : Subject) : Event where
  kind := kind
  repository := repository
  subject := subject
  user := none
  capabilities := none
  path := none
  comment := none
  steal := none
  breakLock := none
  propertyName := none
  propertyAction := none
  propertyValue := none
  lockTokens := []
  paths := []

def readRevision (text : String) : Except EventError Nat :=
  match Text.readNat Text.maxWord64 (Text.trim text) with
  | .ok number => .ok number
  | .error cause => .error (.badRevision text cause)

/-- A flag is set by one of three words; everything else clears it. -/
def readFlag (text : String) : Bool := ["1", "true", "yes"].contains (Text.trim text)

def startCommit (repository user capabilities : String) : Event :=
  { bare .startCommit repository .youngest with
    user := some user, capabilities := some capabilities }

def preCommit (repository transaction input : String) : Event :=
  { bare .preCommit repository (.transaction transaction) with
    lockTokens := LockToken.readAll input }

def postCommit (repository revision : String) : Except EventError Event := do
  return bare .postCommit repository (.revision (← readRevision revision))

def revpropChange (kind : EventKind) (repository revision user property action input : String) :
    Except EventError Event := do
  let number ← readRevision revision
  return { bare kind repository (.revision number) with
    user := some user, propertyName := some property, propertyAction := some action,
    propertyValue := some input }

def preLock (repository path user comment steal : String) : Event :=
  { bare .preLock repository .youngest with
    path := some path, user := some user, comment := some comment,
    steal := some (readFlag steal) }

def preUnlock (repository path user token breakLock : String) : Event :=
  { bare .preUnlock repository .youngest with
    lockTokens := [⟨path, token⟩], path := some path, user := some user,
    breakLock := some (readFlag breakLock) }

def lockNotice (kind : EventKind) (repository user input : String) : Event :=
  { bare kind repository .youngest with
    user := some user,
    paths := ((Text.lines input).map Text.trim).filter fun line => !line.isEmpty }

def tokenPairs (event : Event) : List (String × String) :=
  let flag := fun (value : Bool) => if value then "1" else "0"
  let given := fun (name : String) (value : Option String) =>
    value.toList.map fun text => (name, text)
  [("ReposUrl", repositoryUrl event.repository), ("ReposPath", event.repository),
    ("Hook", event.kind.name)]
    ++ given "Revision" (event.subject.revision?.map toString)
    ++ given "Transaction" event.subject.transaction?
    ++ given "User" event.user
    ++ given "Capabilities" event.capabilities
    ++ given "Path" event.path
    ++ given "Comment" event.comment
    ++ given "PropName" event.propertyName
    ++ given "Action" event.propertyAction
    ++ given "Steal" (event.steal.map flag)
    ++ given "Break" (event.breakLock.map flag)
    ++ given "LockToken" (if event.kind = .preUnlock then
        event.lockTokens.head?.map LockToken.token else none)

/-- The tokens that rules start with: the environment, and over it what the event says. -/
def initialTokens (event : Event) (environment : Tokens) : Tokens :=
  environment.setAll event.tokenPairs

end Event

def defaultDocumentPath (repository : String) (kind : EventKind) : String :=
  Path.join (Path.join repository "hooks") (kind.name ++ ".xml")

end HookRules
