import HookRules.Change.Item
import HookRules.Event.Subject
import HookRules.Fact.Error

/-!
Facts about a repository, as rules ask for them. Having a fact may take queries, and may change
the world that the queries are made in; it does nothing else that a rule could notice.
-/

set_option autoImplicit false

namespace HookRules

/-- What asking for a fact comes to: the queries made, in order, the fact or the reason why it
cannot be had, and the world afterwards. -/
structure Answered (World Answer : Type) where
  queries : List Query
  result : Except FactError Answer
  world : World

namespace Answered

variable {World Answer Other : Type}

def known (answer : Answer) (world : World) : Answered World Answer := ⟨[], .ok answer, world⟩

def missing (error : FactError) (world : World) : Answered World Answer :=
  ⟨[], .error error, world⟩

def map (change : Answer → Other) (answered : Answered World Answer) : Answered World Other :=
  ⟨answered.queries, answered.result.map change, answered.world⟩

def andThen (answered : Answered World Answer) (ask : Answer → World → Answered World Other) :
    Answered World Other :=
  match answered.result with
  | .error error => ⟨answered.queries, .error error, answered.world⟩
  | .ok answer =>
    let next := ask answer answered.world
    ⟨answered.queries ++ next.queries, next.result, next.world⟩

end Answered

/-- Everything a rule may ask about the repository. -/
structure Facts (World : Type) where
  repository : String
  subject : Subject
  user : Option String
  author : World → Answered World String
  logMessage : World → Answered World String
  changes : World → Answered World (List Change)
  content : (path : String) → World → Answered World String
  properties : (path : String) → World → Answered World (List (String × String))
  lockOwner : (path : String) → World → Answered World (Option String)
  revisionLog : (verbose : Bool) → World → Answered World String
  /-- The names directly inside a folder; the root has the empty name. -/
  entries : (folder : String) → World → Answered World (List String)

def folderKey (folder : String) : String :=
  let isSlash := fun c => c = '/'
  String.ofList (Text.dropEndWhile isSlash (folder.toList.dropWhile isSlash))

end HookRules
