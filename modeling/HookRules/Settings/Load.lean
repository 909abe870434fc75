import HookRules.Run.Act
import HookRules.Settings.Toml

/-!
Reading settings, and finding the files that hold them.
-/

set_option autoImplicit false

namespace HookRules

inductive SettingsError
  | malformed
  | malformedFile (path : String)
  | unreadable (path cause : String)
  deriving Repr, DecidableEq

def SettingsError.message : SettingsError → String
  | .malformed => "Failed to parse settings"
  | .malformedFile path => "Failed to parse " ++ path
  | .unreadable path _ => "Failed to read settings file: " ++ path

namespace Settings

def fileName : String := ".svnhookrc"

/-- Sets what a key names. There is nothing for another key to set, nor with another kind of
value. -/
def assign? (settings : Settings) (pair : String × Toml.Value) : Option Settings :=
  match pair with
  | ("svnlook", .text look) => some { settings with look := look }
  | ("svn", .text client) => some { settings with client := client }
  | ("log_level", .text level) => some { settings with logLevel := level }
  | ("log_file", .text path) => some { settings with logFile := some path }
  | ("smtp_timeout", .number seconds) =>
    if 0 ≤ seconds then some { settings with mailTimeout := seconds.toNat } else none
  | ("smtp_port", .number port) =>
    if 0 ≤ port ∧ port ≤ Text.maxWord16 then some { settings with mailPort := port.toNat } else none
  | _ => none

/-- Lets a text change settings. No key may come twice. -/
def readOver? (settings : Settings) (text : String) : Option Settings := do
  let pairs ← Toml.pairs? text
  guard (pairs.map Prod.fst).Nodup
  pairs.foldlM assign? settings

def read (text : String) : Except SettingsError Settings :=
  (readOver? defaults text).elim (.error .malformed) .ok

variable {World : Type}

def ofFileOver (host : Host World) (settings : Settings) (path : String) :
    StateM World (Except SettingsError Settings) := do
  match ← host.read path with
  | .error cause => return .error (.unreadable path cause)
  | .ok text => return (settings.readOver? text).elim (.error (.malformedFile path)) .ok

def ofFile (host : Host World) (path : String) : StateM World (Except SettingsError Settings) :=
  ofFileOver host defaults path

/-- The settings that the file of the home folder makes. A file that can not be used makes
none. -/
def shared (host : Host World) (home : Option String) : StateM World Settings := do
  match home.map fun home => Path.join home fileName with
  | none => return defaults
  | some path =>
    if ← host.isFile path then
      match ← ofFile host path with
      | .ok settings => return settings
      | .error _ => return defaults
    else return defaults

/-- The settings that hold for the documents of a folder: those of the home folder, and over them
those of the folder itself, which have to be usable. -/
def load (host : Host World) (home : Option String) (folder : String) :
    StateM World (Except SettingsError Settings) := do
  let settings ← shared host home
  let path := Path.join folder fileName
  if ← host.isFile path then ofFileOver host settings path else return .ok settings

end Settings

end HookRules
