import HookRules.Run.Act

/-!
Questions about a repository as data, and facts that are answers given in advance. With them
everything that rules may ask can be quantified over at once.
-/

set_option autoImplicit false

namespace HookRules

/-- What a rule may ask about the repository. -/
inductive Question
  | author
  | logMessage
  | changes
  | content (path : String)
  | properties (path : String)
  | lockOwner (path : String)
  | revisionLog (verbose : Bool)
  | entries (folder : String)
  deriving Repr, DecidableEq

def Question.Answer : Question → Type
  | .author | .logMessage | .content _ | .revisionLog _ => String
  | .changes => List Change
  | .properties _ => List (String × String)
  | .lockOwner _ => Option String
  | .entries _ => List String

/-- One answer to each question, or the reason why there is none. -/
abbrev Answers := (question : Question) → Except FactError question.Answer

def Answers.none : Answers := fun _ => .error (.unavailable "fact")

variable {World : Type}

def Facts.answer (facts : Facts World) :
    (question : Question) → World → Answered World question.Answer
  | .author => facts.author
  | .logMessage => facts.logMessage
  | .changes => facts.changes
  | .content path => facts.content path
  | .properties path => facts.properties path
  | .lockOwner path => facts.lockOwner path
  | .revisionLog verbose => facts.revisionLog verbose
  | .entries folder => facts.entries folder

/-- Facts that are the answers, whatever the world. No query is made for them. -/
def Answers.facts (answers : Answers) (repository : String) (subject : Subject)
    (user : Option String) : Facts World where
  repository := repository
  subject := subject
  user := user
  author := fun world => ⟨[], answers .author, world⟩
  logMessage := fun world => ⟨[], answers .logMessage, world⟩
  changes := fun world => ⟨[], answers .changes, world⟩
  content := fun path world => ⟨[], answers (.content path), world⟩
  properties := fun path world => ⟨[], answers (.properties path), world⟩
  lockOwner := fun path world => ⟨[], answers (.lockOwner path), world⟩
  revisionLog := fun verbose world => ⟨[], answers (.revisionLog verbose), world⟩
  entries := fun folder world => ⟨[], answers (.entries folder), world⟩

theorem Answers.answer_facts (answers : Answers) (repository : String) (subject : Subject)
    (user : Option String) (question : Question) (world : World) :
    (answers.facts repository subject user).answer question world =
      ⟨[], answers question, world⟩ := by
  cases question <;> rfl

/-- A host on which nothing can be started, and files are never there and always take a text. -/
def Host.idle : Host Unit where
  execute := fun _ _ => pure (.error "nothing can be started")
  read := fun _ => pure (.error "nothing can be read")
  isFile := fun _ => pure false
  write := fun _ _ => pure (.ok ())
  append := fun _ => pure (.ok fun _ => pure (.ok ()))

/-- Takes every mail, and does nothing with it. -/
def Mailer.accepting {World : Type} : Mailer World where
  connects := fun _ => false
  deliver := fun _ => pure (.ok .taken)

/-- Everything on paper: the facts are the answers, every mail is accepted, and nothing in the
world can change. -/
def Setting.onPaper (answers : Answers) (event : Event) : Setting Unit where
  facts := answers.facts event.repository event.subject event.user
  event := event
  settings := .defaults
  mailer := .accepting
  channel := .working
  host := .idle

end HookRules
