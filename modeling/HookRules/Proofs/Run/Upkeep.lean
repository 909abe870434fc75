import HookRules.Proofs.Fact.Answers
import HookRules.Proofs.Rule.Registry
import HookRules.Proofs.Run.Derivation

/-!
What runs uphold. A property of runs that every deed of a rule upholds holds after any evaluation.
Where an evaluation fails the property may be a weaker one, since nothing comes after that.
-/

set_option autoImplicit false

namespace HookRules

/-- What is to be upheld: what holds as long as a run goes on, and what holds wherever it ends. -/
structure Upkeep (World : Type) where
  going : Run World → Prop
  final : Run World → Prop

/-- How an act may end: an answer lets the run go on, and a failure ends it. -/
def Upkeep.Allows {World Answer : Type} (upkeep : Upkeep World) :
    Except Failure Answer × Run World → Prop
  | (.ok _, after) => upkeep.going after
  | (.error _, after) => upkeep.final after

variable {World : Type} {upkeep : Upkeep World}

namespace Act

variable {Answer Next : Type}

structure Upholds (upkeep : Upkeep World) (act : Act World Answer) : Prop where
  allowed : ∀ run, upkeep.going run → upkeep.Allows (act.run run)

private theorem upholds_pure (answer : Answer) : (pure answer : Act World Answer).Upholds upkeep :=
  ⟨fun _ going => going⟩

theorem Upholds.bind {act : Act World Answer} {next : Answer → Act World Next}
    (first : act.Upholds upkeep) (rest : ∀ answer, (next answer).Upholds upkeep) :
    (act >>= next).Upholds upkeep := by
  refine ⟨fun run going => ?_⟩
  have allowed := first.allowed run going
  rcases ended : act.run run with ⟨failure | answer, after⟩
  · rw [ended] at allowed
    rw [run_bind_error ended]
    exact allowed
  · rw [ended] at allowed
    rw [run_bind_ok ended]
    exact (rest answer).allowed after allowed

end Act

/-- Everything that rules do with a setting upholds a property, but for asking for a log. -/
structure Setting.Upholds [Scribe World] (setting : Setting World) (upkeep : Upkeep World) :
    Prop where
  ends : ∀ run, upkeep.going run → upkeep.final run
  recorded : ∀ entry run, entry.query? = none → upkeep.going run → upkeep.going (run.record entry)
  blamed : ∀ notice run, upkeep.final run → upkeep.final (run.note notice)
  asked : ∀ question, (∀ verbose, question ≠ .revisionLog verbose) →
    (Act.ask (setting.facts.answer question)).Upholds upkeep
  delivered : ∀ mail, (Act.inWorld (setting.mailer.deliver mail)).Upholds upkeep
  executed : ∀ program arguments,
    (Act.inWorld (setting.host.execute program arguments)).Upholds upkeep
  wrote : ∀ path text, (Act.inWorld (setting.host.write path text)).Upholds upkeep

variable [Scribe World] {setting : Setting World}

namespace Setting.Upholds

variable {Answer : Type} (upholds : setting.Upholds upkeep)

include upholds

theorem fail (failure : Failure) : (Act.fail failure : Act World Answer).Upholds upkeep :=
  ⟨upholds.ends⟩

theorem orFail {Cause : Type} (failure : Cause → Failure) (result : Except Cause Answer) :
    (Act.orFail failure result : Act World Answer).Upholds upkeep := by
  cases result with
  | ok answer => exact Act.upholds_pure answer
  | error cause => exact upholds.fail _

theorem ofTokens (result : Except TokenError Answer) :
    (Act.ofTokens result : Act World Answer).Upholds upkeep :=
  upholds.orFail .token result

theorem record {entry : Entry} (silent : entry.query? = none) :
    (Act.record entry : Act World Unit).Upholds upkeep :=
  ⟨fun run going => upholds.recorded entry run silent going⟩

theorem note (notice : Notice) : (Act.note notice : Act World Unit).Upholds upkeep :=
  upholds.record rfl

theorem tell (channel : Channel) (text : String) :
    (Act.tell channel text : Act World Unit).Upholds upkeep := by
  cases channel with
  | working => exact upholds.record rfl
  | broken cause =>
      rw [Act.tell]
      split
      · exact upholds.record rfl
      · exact upholds.fail _

theorem send (mail : Mail) : (Act.send setting.mailer mail).Upholds upkeep := by
  have received (result : Except MailError Receipt) :
      (Act.received mail.server result : Act World Unit).Upholds upkeep := by
    rcases result with error | _ | reason
    · exact upholds.fail _
    · exact Act.upholds_pure ()
    · exact upholds.note _
  refine (upholds.record rfl).bind fun _ => ?_
  rw [Act.deliver]
  split
  · exact (upholds.note _).bind fun _ => (upholds.delivered mail).bind received
  · exact (upholds.delivered mail).bind received

theorem execute (line program : String) (arguments : List String) :
    (Act.execute setting.host line program arguments).Upholds upkeep :=
  (upholds.record rfl).bind fun _ => (upholds.executed _ _).bind <| upholds.orFail _

theorem write (path text : String) : (Act.write setting.host path text).Upholds upkeep :=
  (upholds.record rfl).bind fun _ => (upholds.wrote _ _).bind <| upholds.orFail _

theorem conflicts (changes : List Change) :
    (Condition.conflicts setting.facts changes).Upholds upkeep := by
  induction changes with
  | nil => exact Act.upholds_pure _
  | cons change rest ih =>
      rw [Condition.conflicts]
      split
      · exact (upholds.asked (.entries _) nofun).bind fun entries =>
          ih.bind fun later => Act.upholds_pure _
      · exact ih

theorem select (tokens : Tokens) (condition : Condition) :
    (condition.select setting tokens).Upholds upkeep := by
  have flag (flag : Option Bool) (fact : String) (sense : Bool) :
      (Condition.flagItems flag fact sense : Act World _).Upholds upkeep := by
    cases flag with
    | none => exact upholds.fail _
    | some flag => exact Act.upholds_pure _
  have kind (kinds : List EventKind) (fact : String) :
      (Condition.requireKind setting.event kinds fact : Act World _).Upholds upkeep := by
    rw [Condition.requireKind]
    split
    · exact Act.upholds_pure _
    · exact upholds.fail _
  cases condition with
  | always => exact Act.upholds_pure _
  | token name gate => exact (upholds.ofTokens _).bind fun value => Act.upholds_pure _
  | author gate => exact (upholds.asked .author nofun).bind fun author => Act.upholds_pure _
  | logMessage gate =>
      exact (upholds.asked .logMessage nofun).bind fun message => Act.upholds_pure _
  | changes path kind =>
      exact (upholds.asked .changes nofun).bind fun changes => Act.upholds_pure _
  | content gate =>
      refine (upholds.ofTokens _).bind fun path => ?_
      split
      · exact Act.upholds_pure _
      · exact (upholds.asked (.content path) nofun).bind fun content => Act.upholds_pure _
  | caseConflict =>
      exact (upholds.asked .changes nofun).bind fun changes => upholds.conflicts changes
  | properties name value =>
      exact (upholds.ofTokens _).bind fun path =>
        (upholds.asked (.properties path) nofun).bind fun found => Act.upholds_pure _
  | revisionProperty name value =>
      refine (upholds.ofTokens _).bind fun changed => ?_
      split
      · exact upholds.fail _
      · exact Act.upholds_pure _
  | lockPaths gate => exact (kind _ _).bind fun _ => Act.upholds_pure _
  | lockTokens gate => exact (kind _ _).bind fun _ => Act.upholds_pure _
  | lockOwner sense =>
      refine (upholds.ofTokens _).bind fun path => (upholds.ofTokens _).bind fun user => ?_
      refine (upholds.asked (.lockOwner path) nofun).bind fun owner => ?_
      cases owner with
      | none => exact Act.upholds_pure _
      | some owner => exact Act.upholds_pure _
  | steal sense => exact flag _ _ _
  | breakLock sense => exact flag _ _ _

theorem noteLines (code : Nat) (lines : List String) :
    (Action.noteLines code lines : Act World Unit).Upholds upkeep := by
  induction lines with
  | nil => exact Act.upholds_pure ()
  | cons line rest ih => exact (upholds.note _).bind fun _ => ih

theorem conclude (channel : Channel) (line : String) (errorLevel : Nat) (output : Output) :
    (Action.conclude channel line errorLevel output : Act World Outcome).Upholds upkeep := by
  rw [Action.conclude]
  split
  · exact upholds.fail _
  · split
    · exact (upholds.tell _ _).bind fun _ => Act.upholds_pure _
    · exact Act.upholds_pure _

theorem perform (tokens : Tokens) {action : Action}
    (logged : ∀ envelope verbose, action = .sendLog envelope verbose →
      (Act.ask (setting.facts.revisionLog verbose)).Upholds upkeep) :
    (action.perform setting tokens).Upholds upkeep := by
  cases action with
  | setToken name value => exact Act.upholds_pure _
  | sendError code message =>
      exact (upholds.ofTokens _).bind fun text => (upholds.noteLines code _).bind fun _ =>
        (upholds.tell _ _).bind fun _ => Act.upholds_pure _
  | sendMail envelope message =>
      exact (upholds.ofTokens _).bind fun body => (upholds.ofTokens _).bind fun mail =>
        (upholds.note _).bind fun _ => (upholds.send mail).bind fun _ => Act.upholds_pure _
  | sendLog envelope verbose =>
      exact (logged envelope verbose rfl).bind fun body => (upholds.ofTokens _).bind fun mail =>
        (upholds.note _).bind fun _ => (upholds.send mail).bind fun _ => Act.upholds_pure _
  | execute command errorLevel =>
      rw [Action.perform]
      refine (upholds.ofTokens _).bind fun line => ?_
      split
      · exact upholds.fail _
      · exact (upholds.note _).bind fun _ => (upholds.execute _ _ _).bind fun output =>
          (upholds.conclude _ _ _ _).bind fun ended => Act.upholds_pure _
  | recordRevision path =>
      rw [Action.perform]
      split
      · exact upholds.fail _
      · exact (upholds.ofTokens _).bind fun path => (upholds.write _ _).bind fun _ =>
          (upholds.note _).bind fun _ => Act.upholds_pure _

end Setting.Upholds

/-- However an evaluation ends, what holds of runs that are over holds then; and where it goes on,
what holds of runs that go on. A log is asked for by one kind of element only. -/
theorem Evaluates.upholds {task : Task World} {tokens final : Tokens} {run after : Run World}
    {visits : List Visit} {outcome : Outcome}
    (evaluation : Evaluates setting .standard task tokens run visits outcome final after)
    (upholds : setting.Upholds upkeep) (registered : task.Registered .standard)
    (logged : (∃ element ∈ task.nodes, element.name = "SendLogSmtp") → ∀ verbose,
      (Act.ask (setting.facts.revisionLog verbose)).Upholds upkeep)
    (going : upkeep.going run) :
    upkeep.final after ∧ (outcome.stops = false → upkeep.going after) := by
  have deed {element : Element} {build : Builder World} {rule : Rule World} {tokens : Tokens}
      {act : Act World (Outcome × Tokens)}
      (known : Registry.standard.lookup? element.name = some build)
      (built : build element = .ok rule) (acts : rule.act? setting tokens = some act)
      (logged : (∃ other ∈ element.nodes, other.name = "SendLogSmtp") → ∀ verbose,
        (Act.ask (setting.facts.revisionLog verbose)).Upholds upkeep) : act.Upholds upkeep := by
    obtain ⟨filter, rfl⟩ | ⟨action, rfl, made⟩ := Registry.standard_built known built
    · cases acts
    · cases acts
      refine upholds.perform tokens fun envelope verbose same => logged ?_ verbose
      refine ⟨element, element.mem_nodes, ?_⟩
      generalize element.name = name at made
      cases made <;> cases same
      rfl
  have enter (element : Element) {run : Run World} (going : upkeep.going run) :
      upkeep.going (element.enter run) :=
    upholds.recorded _ run rfl going
  have within {Node : Type} {fewer more : List Node} {holds : Node → Prop} {implied : Prop}
      (stated : (∃ node ∈ more, holds node) → implied)
      (among : ∀ node ∈ fewer, node ∈ more) : (∃ node ∈ fewer, holds node) → implied :=
    fun ⟨node, member, held⟩ => stated ⟨node, among node member, held⟩
  induction evaluation with
  | @unbuilt _ element =>
      exact ⟨upholds.blamed _ _ (upholds.ends _ (enter element going)), nofun⟩
  | @performed _ element _ _ _ _ _ _ _ built acts performed =>
      have allowed := (deed registered built acts logged).allowed _ (enter element going)
      rw [performed] at allowed
      exact ⟨upholds.ends _ allowed, fun _ => allowed⟩
  | @unperformed _ element _ _ _ _ _ _ built acts performed =>
      have allowed := (deed registered built acts logged).allowed _ (enter element going)
      rw [performed] at allowed
      exact ⟨upholds.blamed _ _ allowed, nofun⟩
  | @unselected _ element filter tokens _ _ _ built selected =>
      have allowed := (upholds.select tokens filter.condition).allowed _ (enter element going)
      rw [selected] at allowed
      exact ⟨upholds.blamed _ _ allowed, nofun⟩
  | @unmatched _ element filter tokens _ _ built selected =>
      have allowed := (upholds.select tokens filter.condition).allowed _ (enter element going)
      rw [selected] at allowed
      have noted := upholds.recorded (.noted (.unmatched element.name)) _ rfl allowed
      exact ⟨upholds.ends _ noted, fun _ => noted⟩
  | @matched _ element filter _ tokens _ _ _ _ _ _ built _ selected _ ih =>
      have allowed := (upholds.select tokens filter.condition).allowed _ (enter element going)
      rw [selected] at allowed
      refine ih trivial (within logged fun inner member => ?_) allowed
      rw [Task.nodes, element.nodes_eq]
      exact List.mem_cons_of_mem _ member
  | noChildren => exact ⟨upholds.ends _ going, fun _ => going⟩
  | consumed _ _ ih =>
      exact ih trivial (within logged fun _ member => List.mem_append_right _ member) going
  | skipped _ _ _ ih =>
      exact ih trivial (within logged fun _ member => List.mem_append_right _ member)
        (upholds.recorded _ _ rfl going)
  | childStops _ known _ _ ih =>
      exact ih known (within logged fun _ member => List.mem_append_left _ member) going
  | childPasses _ known _ passes _ firstIH restIH =>
      have first := firstIH known (within logged fun _ member => List.mem_append_left _ member)
        going
      exact restIH trivial (within logged fun _ member => List.mem_append_right _ member)
        (first.2 passes)
  | noItems => exact ⟨upholds.ends _ going, fun _ => going⟩
  | itemStops _ _ ih => exact ih trivial logged going
  | itemPasses _ passes _ firstIH restIH =>
      exact restIH trivial logged ((firstIH trivial logged going).2 passes)

theorem Evaluation.execute_final (upholds : setting.Upholds upkeep) (root : Element)
    (tokens : Tokens) (logged : (∃ element ∈ root.nodes, element.name = "SendLogSmtp") → ∀ verbose,
      (Act.ask (setting.facts.revisionLog verbose)).Upholds upkeep)
    {run : Run World} (going : upkeep.going run) :
    upkeep.final (execute setting .standard root tokens run).2 := by
  cases known : Registry.standard.lookup? root.name with
  | none =>
      rw [execute_unknown known]
      exact upholds.blamed _ _ (upholds.ends run going)
  | some build =>
      obtain ⟨visits, visited⟩ := visits_exist setting .standard root tokens run
      simp only [Visits, known] at visited
      exact (visited.upholds upholds known logged going).1

end HookRules
