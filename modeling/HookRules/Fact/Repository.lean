import HookRules.Change.Listing
import HookRules.Fact.Basic

/-!
Facts read from a repository by queries. Each fact is a query and a way to read its output; the
facts of one occasion are remembered once they were had, and a failure is not remembered.
-/

set_option autoImplicit false

namespace HookRules

/-- Makes a query in some world: its output, or why there is none. -/
abbrev Runner (World : Type) := Query → World → Except FactError Output × World

structure Repository where
  path : String
  subject : Subject
  user : Option String
  look : String
  client : String
  deriving Repr, DecidableEq, Inhabited

namespace Repository

variable {World : Type}

/-- Makes a query that has to end with code zero; the answer is what it printed. -/
def ask (runner : Runner World) (query : Query) (world : World) : Answered World String :=
  match runner query world with
  | (.error error, after) => ⟨[query], .error error, after⟩
  | (.ok output, after) =>
    if output.succeeded then ⟨[query], .ok output.stdout, after⟩
    else ⟨[query], .error (.queryFailed query output.code (Text.trim output.stderr)), after⟩

def lookQuery (repository : Repository) (subcommand : String) (details : List String)
    (qualifier : List String) : Query :=
  ⟨repository.look, subcommand :: repository.path :: details ++ qualifier⟩

def subjectQuery (repository : Repository) (subcommand : String) (details : List String) : Query :=
  repository.lookQuery subcommand details repository.subject.qualifier

def author (repository : Repository) (runner : Runner World) (world : World) :
    Answered World String :=
  (ask runner (repository.subjectQuery "author" []) world).map Text.trim

def logMessage (repository : Repository) (runner : Runner World) (world : World) :
    Answered World String :=
  (ask runner (repository.subjectQuery "log" []) world).map Text.trim

def changes (repository : Repository) (runner : Runner World) (layout : ListingLayout)
    (world : World) : Answered World (List Change × ListingLayout) :=
  (ask runner (repository.subjectQuery "changed" []) world).map layout.readListing

def content (repository : Repository) (runner : Runner World) (path : String) (world : World) :
    Answered World String :=
  (ask runner (repository.subjectQuery "cat" [path]) world).map Text.trim

def namesOf (listing : String) : List String :=
  ((Text.lines listing).map Text.trim).filter fun name => !name.isEmpty

def propertyValues (repository : Repository) (runner : Runner World) (path : String) :
    List String → World → Answered World (List (String × String))
  | [], world => .known [] world
  | name :: rest, world =>
    (ask runner (repository.subjectQuery "propget" [name, path]) world).andThen fun value world =>
      (repository.propertyValues runner path rest world).map ((name, Text.trim value) :: ·)

def properties (repository : Repository) (runner : Runner World) (path : String) (world : World) :
    Answered World (List (String × String)) :=
  (ask runner (repository.subjectQuery "proplist" [path]) world).andThen fun listing =>
    repository.propertyValues runner path (namesOf listing)

/-- The owner that the description of a lock names, on the first line for it. -/
def ownerOf (description : String) : Option String :=
  let label := "Owner:".toList
  ((Text.lineChars description.toList).find? label.isPrefixOf).bind fun line =>
    let owner := Text.trimChars (line.drop label.length)
    if owner.isEmpty then none else some (String.ofList owner)

/-- Locks belong to the repository and not to the subject. -/
def lockOwner (repository : Repository) (runner : Runner World) (path : String) (world : World) :
    Answered World (Option String) :=
  (ask runner (repository.lookQuery "lock" [path] []) world).map ownerOf

def logQuery (repository : Repository) (revision : Nat) (verbose : Bool) : Query :=
  ⟨repository.client, ["log", repositoryUrl repository.path, "-r", toString revision]
    ++ if verbose then ["--verbose"] else []⟩

def revisionLog (repository : Repository) (runner : Runner World) (verbose : Bool)
    (world : World) : Answered World String :=
  match repository.subject.revision? with
  | none => .missing (.unavailable "revision log") world
  | some revision => ask runner (repository.logQuery revision verbose) world

/-- The entries in the picture of a folder: a line for the folder itself, then its entries, each
indented by one space. -/
def entriesOf (tree : String) : List String :=
  ((Text.lineChars tree.toList).drop 1).filterMap fun line =>
    match line with
    | ' ' :: c :: rest => some (String.ofList (c :: rest))
    | _ => none

def entries (repository : Repository) (runner : Runner World) (folder : String) (world : World) :
    Answered World (List String) :=
  let key := folderKey folder
  let details := (if key.isEmpty then [] else [key]) ++ ["--non-recursive"]
  (ask runner (repository.subjectQuery "tree" details) world).map entriesOf

end Repository

structure Memo where
  author : Option String
  logMessage : Option String
  /-- How listings of changes are laid out, as the first line that was read shows. -/
  layout : ListingLayout
  changes : Option (List Change)
  contents : List (String × String)
  properties : List (String × List (String × String))
  locks : List (String × Option String)
  entries : List (String × List String)
  deriving Repr, Inhabited

def Memo.blank : Memo := ⟨none, none, .unknown, none, [], [], [], []⟩

/-- A world together with what is known of the repository in it. -/
structure Remembering (World : Type) where
  memo : Memo
  world : World

namespace Remembering

variable {World Answer : Type}

def orAsk (known : Memo → Option Answer) (keep : Answer → Memo → Memo)
    (ask : World → Answered World Answer) (state : Remembering World) :
    Answered (Remembering World) Answer :=
  match known state.memo with
  | some answer => .known answer state
  | none =>
    let answered := ask state.world
    match answered.result with
    | .ok answer => ⟨answered.queries, .ok answer, ⟨keep answer state.memo, answered.world⟩⟩
    | .error error => ⟨answered.queries, .error error, ⟨state.memo, answered.world⟩⟩

def forward (ask : World → Answered World Answer) (state : Remembering World) :
    Answered (Remembering World) Answer :=
  let answered := ask state.world
  ⟨answered.queries, answered.result, ⟨state.memo, answered.world⟩⟩

end Remembering

/-- The changes, which the youngest revision has none of. What a listing shows of the layout is
remembered with them. -/
def Repository.recallChanges {World : Type} (repository : Repository) (runner : Runner World)
    (state : Remembering World) : Answered (Remembering World) (List Change) :=
  if repository.subject = .youngest then .missing (.unavailable "change list") state
  else
    (Remembering.orAsk (fun memo => memo.changes.map fun changes => (changes, memo.layout))
      (fun found memo => { memo with changes := some found.1, layout := found.2 })
      (repository.changes runner state.memo.layout) state).map Prod.fst

/-- The facts of a repository. All but the log of a revision are remembered. -/
def Repository.toFacts {World : Type} (repository : Repository) (runner : Runner World) :
    Facts (Remembering World) where
  repository := repository.path
  subject := repository.subject
  user := repository.user
  author := Remembering.orAsk Memo.author (fun author memo => { memo with author := some author })
    (repository.author runner)
  logMessage := Remembering.orAsk Memo.logMessage
    (fun message memo => { memo with logMessage := some message }) (repository.logMessage runner)
  changes := repository.recallChanges runner
  content := fun path => Remembering.orAsk (fun memo => memo.contents.lookup path)
    (fun content memo => { memo with contents := (path, content) :: memo.contents })
    (repository.content runner path)
  properties := fun path => Remembering.orAsk (fun memo => memo.properties.lookup path)
    (fun found memo => { memo with properties := (path, found) :: memo.properties })
    (repository.properties runner path)
  lockOwner := fun path => Remembering.orAsk (fun memo => memo.locks.lookup path)
    (fun owner memo => { memo with locks := (path, owner) :: memo.locks })
    (repository.lockOwner runner path)
  revisionLog := fun verbose => Remembering.forward (repository.revisionLog runner verbose)
  entries := fun folder =>
    Remembering.orAsk (fun memo => memo.entries.lookup (folderKey folder))
      (fun names memo => { memo with entries := (folderKey folder, names) :: memo.entries })
      (repository.entries runner folder)

end HookRules
