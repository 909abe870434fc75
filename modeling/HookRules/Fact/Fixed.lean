import HookRules.Change.Listing
import HookRules.Fact.Basic

/-!
Facts that are given in advance. Nothing is asked, and what was not given cannot be had, except
that a path has no content, properties, lock or entries unless some were given.
-/

set_option autoImplicit false

namespace HookRules

/-- A repository described by rows. Of the rows for one path the last holds, save that
properties add up. -/
structure FixedFacts where
  repository : String
  subject : Subject
  user : Option String
  author : Option String
  logMessage : Option String
  changes : Option (List Change)
  revisionLog : Option String
  contents : List (String × String)
  properties : List (String × String × String)
  locks : List (String × String)
  entries : List (String × List String)
  deriving Repr, Inhabited

namespace FixedFacts

def lastFor {Value : Type} (rows : List (String × Value)) (key : String) : Option Value :=
  (rows.reverse.find? fun row => row.1 == key).map Prod.snd

def orUnavailable {World Answer : Type} (fact : String) (given : Option Answer) (world : World) :
    Answered World Answer :=
  match given with
  | some answer => .known answer world
  | none => .missing (.unavailable fact) world

def logOfRevision (facts : FixedFacts) : Option String :=
  facts.subject.revision?.bind fun _ => facts.revisionLog

def toFacts (World : Type) (facts : FixedFacts) : Facts World where
  repository := facts.repository
  subject := facts.subject
  user := facts.user
  author := orUnavailable "author" facts.author
  logMessage := orUnavailable "log message" facts.logMessage
  changes := orUnavailable "change list" facts.changes
  content := fun path => .known ((lastFor facts.contents path).getD "")
  properties := fun path => .known ((facts.properties.filter fun row => row.1 == path).map Prod.snd)
  lockOwner := fun path => .known (lastFor facts.locks path)
  revisionLog := fun _ => orUnavailable "revision log" facts.logOfRevision
  entries := fun folder =>
    .known ((lastFor (facts.entries.map fun row => (folderKey row.1, row.2))
      (folderKey folder)).getD [])

end FixedFacts

end HookRules
