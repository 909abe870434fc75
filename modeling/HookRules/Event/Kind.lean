/-!
The moments in the life of a repository at which rules are evaluated.
-/

set_option autoImplicit false

namespace HookRules

inductive EventKind
  | startCommit
  | preCommit
  | postCommit
  | preRevpropChange
  | postRevpropChange
  | preLock
  | postLock
  | preUnlock
  | postUnlock
  deriving Repr, DecidableEq, Inhabited

namespace EventKind

def all : List EventKind :=
  [.startCommit, .preCommit, .postCommit, .preRevpropChange, .postRevpropChange, .preLock,
    .postLock, .preUnlock, .postUnlock]

def name : EventKind → String
  | .startCommit => "start-commit"
  | .preCommit => "pre-commit"
  | .postCommit => "post-commit"
  | .preRevpropChange => "pre-revprop-change"
  | .postRevpropChange => "post-revprop-change"
  | .preLock => "pre-lock"
  | .postLock => "post-lock"
  | .preUnlock => "pre-unlock"
  | .postUnlock => "post-unlock"

def ofName? (name : String) : Option EventKind := all.find? fun kind => kind.name == name

/-- Whether the repository hands the event data on its standard input. -/
def readsInput : EventKind → Bool
  | .preCommit | .preRevpropChange | .postRevpropChange | .postLock | .postUnlock => true
  | .startCommit | .postCommit | .preLock | .preUnlock => false

end EventKind

end HookRules
