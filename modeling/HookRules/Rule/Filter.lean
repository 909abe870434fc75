import HookRules.Rule.Gate
import HookRules.Run.Act

/-!
Filters. A filter selects items, each of which binds tokens, and the rules inside the filter are
evaluated once for each item; where nothing is selected they are not evaluated.
-/

set_option autoImplicit false

namespace HookRules

abbrev Bindings := List (String × String)

inductive Condition
  | always
  | token (name : String) (gate : Gate)
  | author (gate : Gate)
  | logMessage (gate : Gate)
  | changes (path kind : Option Gate)
  /-- The content of the file at the current path passes. Folders have none. -/
  | content (gate : Gate)
  /-- Added paths whose name differs only in ASCII case from an entry of the same folder. -/
  | caseConflict
  | properties (name value : Option Gate)
  | revisionProperty (name value : Option Gate)
  | lockPaths (gate : Gate)
  | lockTokens (gate : Gate)
  /-- Whether the user holds the lock of the current path agrees with the sense. -/
  | lockOwner (sense : Bool)
  | steal (sense : Bool)
  | breakLock (sense : Bool)
  deriving Repr

/-- A condition, the children that belong to it, and whether the first item is enough. -/
structure Filter where
  condition : Condition
  consumed : List String
  matchFirst : Bool
  deriving Repr

namespace Condition

def itemIf (holds : Bool) (bindings : Bindings) : List Bindings :=
  if holds then [bindings] else []

/-- The folder that holds a path, and the path's name in it. Slashes at the end do not count. -/
def splitPath (path : String) : String × String :=
  let reversed := (path.toList.reverse).dropWhile (· = '/')
  let name := (reversed.takeWhile (· ≠ '/')).reverse
  let folder := ((reversed.drop name.length).drop 1).reverse
  (String.ofList folder, String.ofList name)

def entryName (entry : String) : String :=
  String.ofList (Text.dropEndWhile (fun c => c = '/') entry.toList)

def conflictsWith (added : String) (entries : List String) : List String :=
  (entries.map entryName).filter fun existing =>
    existing ≠ added && Text.asciiLower existing == Text.asciiLower added

def mayConflict (change : Change) : Bool := change.isAdd && !change.replaced

def conflictBindings (change : Change) (folder existing added : String) : Bindings :=
  [("Folder", "/" ++ folder), ("Existing", existing), ("Added", added), ("Path", change.path)]

variable {World : Type}

def conflicts (facts : Facts World) : List Change → Act World (List Bindings)
  | [] => pure []
  | change :: rest => do
    if mayConflict change then
      let (folder, added) := splitPath change.path
      let entries ← Act.ask (facts.entries folder)
      let found := (conflictsWith added entries).map fun existing =>
        conflictBindings change folder existing added
      return found ++ (← conflicts facts rest)
    else conflicts facts rest

def changeBindings (change : Change) : Bindings :=
  [("ChgPath", change.path), ("ChgType", change.kind), ("Path", change.path)]

/-- A flag of the event, compared with the sense. -/
def flagItems (flag : Option Bool) (fact : String) (sense : Bool) : Act World (List Bindings) :=
  match flag with
  | some flag => pure (itemIf (flag == sense) [])
  | none => Act.fail (.fact (.unavailable fact))

def requireKind (event : Event) (kinds : List EventKind) (fact : String) : Act World Unit :=
  if kinds.contains event.kind then pure () else Act.fail (.fact (.unavailable fact))

def select (setting : Setting World) (tokens : Tokens) : Condition → Act World (List Bindings)
  | .always => pure [[]]
  | .token name gate => do
    let value ← Act.ofTokens (tokens.get name)
    return itemIf (gate.admits value) []
  | .author gate => do
    let author ← Act.ask setting.facts.author
    return itemIf (gate.admits author) [("Author", author)]
  | .logMessage gate => do
    let message ← Act.ask setting.facts.logMessage
    return itemIf (gate.admits message) [("LogMsg", message)]
  | .changes path kind => do
    let changes ← Act.ask setting.facts.changes
    return (changes.filter fun change =>
      Gate.allows path change.path && Gate.allows kind change.kind).map changeBindings
  | .content gate => do
    let path ← Act.ofTokens (tokens.get "Path")
    if isFolderPath path then return []
    let content ← Act.ask (setting.facts.content path)
    return itemIf (gate.admits content) []
  | .caseConflict => do conflicts setting.facts (← Act.ask setting.facts.changes)
  | .properties name value => do
    let path ← Act.ofTokens (tokens.get "Path")
    let properties ← Act.ask (setting.facts.properties path)
    return (properties.filter fun property =>
      Gate.allows name property.1 && Gate.allows value property.2).map fun property =>
        [("PropName", property.1), ("PropValue", property.2)]
  | .revisionProperty name value => do
    let changed ← Act.ofTokens (tokens.get "PropName")
    match setting.event.propertyValue with
    | none => Act.fail (.fact (.unavailable "revision property value"))
    | some given =>
      return itemIf (Gate.allows name changed && Gate.allows value given) [("PropValue", given)]
  | .lockPaths gate => do
    requireKind setting.event [.postLock, .postUnlock] "lock path list"
    return (setting.event.paths.filter gate.admits).map fun path => [("Path", path)]
  | .lockTokens gate => do
    requireKind setting.event [.preCommit, .preUnlock] "lock token"
    return (setting.event.lockTokens.filter fun lock => gate.admits lock.token).map fun lock =>
      [("LockToken", lock.token), ("Path", lock.path)]
  | .lockOwner sense => do
    let path ← Act.ofTokens (tokens.get "Path")
    let user ← Act.ofTokens (tokens.get "User")
    match ← Act.ask (setting.facts.lockOwner path) with
    | none => return []
    | some owner => return itemIf ((owner == user) == sense) [("LockOwner", owner)]
  | .steal sense => flagItems setting.event.steal "steal-lock flag" sense
  | .breakLock sense => flagItems setting.event.breakLock "break-unlock flag" sense

end Condition

namespace Filter

def chosen (filter : Filter) (items : List Bindings) : List Bindings :=
  if filter.matchFirst then items.take 1 else items

def around (element : Element) (condition : Condition) (consumed : List String) : Filter :=
  ⟨condition, consumed, element.switch "matchFirst" false⟩

def onToken (name tag : String) (ignoreCase : Bool) (element : Element) :
    Except RuleError Filter :=
  (Gate.require element tag ignoreCase).map fun gate => around element (.token name gate) [tag]

def onGate (condition : Gate → Condition) (tag : String) (ignoreCase : Bool) (element : Element) :
    Except RuleError Filter :=
  (Gate.require element tag ignoreCase).map fun gate => around element (condition gate) [tag]

def onEither (condition : Option Gate → Option Gate → Condition) (first second : String)
    (ignoreFirst ignoreSecond : Bool) (element : Element) : Except RuleError Filter :=
  (Gate.requireEither element first second ignoreFirst ignoreSecond).map fun (left, right) =>
    around element (condition left right) [first, second]

def plain (condition : Element → Condition) (element : Element) : Except RuleError Filter :=
  .ok (around element (condition element) [])

def build? : String → Option (Element → Except RuleError Filter)
  | "Actions" => some (plain fun _ => .always)
  | "FilterAddNameCase" => some (plain fun _ => .caseConflict)
  | "FilterAuthor" => some (onGate .author "AuthorRegex" true)
  | "FilterBreakUnlock" => some (plain fun element => .breakLock (element.switch "sense" true))
  | "FilterCapabilities" => some (onToken "Capabilities" "CapabilitiesRegex" false)
  | "FilterChanges" | "FilterCommitList" =>
    some (onEither .changes "PathRegex" "ChgTypeRegex" false true)
  | "FilterChgType" => some (onToken "Action" "ChgTypeRegex" true)
  | "FilterComment" => some (onToken "Comment" "CommentRegex" false)
  | "FilterFileContent" => some (onGate .content "ContentRegex" false)
  | "FilterLockOwner" => some (plain fun element => .lockOwner (element.switch "sense" true))
  | "FilterLockToken" => some (onGate .lockTokens "LockTokenRegex" false)
  | "FilterLogMsg" => some (onGate .logMessage "LogMsgRegex" false)
  | "FilterPath" => some (onToken "Path" "PathRegex" false)
  | "FilterPathList" => some (onGate .lockPaths "PathRegex" false)
  | "FilterPropList" => some (onEither .properties "PropNameRegex" "PropValueRegex" false false)
  | "FilterRevProp" =>
    some (onEither .revisionProperty "PropNameRegex" "PropValueRegex" false false)
  | "FilterStealLock" => some (plain fun element => .steal (element.switch "sense" true))
  | "FilterUser" => some (onToken "User" "UserRegex" true)
  | _ => none

end Filter

end HookRules
