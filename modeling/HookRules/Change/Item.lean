import HookRules.Text.Blank

/-!
A path that a revision or transaction touches, and how it touches it.
-/

set_option autoImplicit false

namespace HookRules

def isFolderPath (path : String) : Bool := path.toList.getLast? == some '/'

/-- One change. The flags are kept as they stand in the listing, padding included. -/
structure Change where
  flags : String
  path : String
  /-- Whether the listing holds both a removal and an addition of the path. -/
  replaced : Bool
  deriving Repr, DecidableEq, Inhabited

namespace Change

def ofFlags (flags path : String) : Change := ⟨flags, path, false⟩

def kind (change : Change) : String := Text.trimEnd change.flags

def isAdd (change : Change) : Bool := change.flags.toList.head? == some 'A'

def isDelete (change : Change) : Bool := change.flags.toList.head? == some 'D'

def isUpdate (change : Change) : Bool := change.flags.toList.contains 'U'

def isContentUpdate (change : Change) : Bool := change.flags.toList.head? == some 'U'

def isPropertyUpdate (change : Change) : Bool := change.flags.toList[1]? == some 'U'

def isFullUpdate (change : Change) : Bool := change.isContentUpdate && change.isPropertyUpdate

def isFolder (change : Change) : Bool := isFolderPath change.path

def markReplaced (change : Change) : Change := { change with replaced := true }

end Change

end HookRules
