import HookRules.Fact.Fixed
import HookRules.Proofs.Fact.Transparency
import HookRules.Proofs.Rule.Token
import HookRules.Proofs.Text.Trim
import HookRules.Run.Evaluation
import HookRules.Machine.Host

/-!
Facts that are the text a query printed. White space is removed from both ends of it, so such a
fact is the text but for its end only where the text does not begin with white space, and a filter
on the content of a file decides as it would over the content itself only there.
-/

set_option autoImplicit false

namespace HookRules

variable {World : Type}

/-- A fact that is the text which one query about the subject printed. -/
inductive PrintedFact
  | logMessage
  | content (path : String)

namespace PrintedFact

def question : PrintedFact → Question
  | .logMessage => .logMessage
  | .content path => .content path

def query (repository : Repository) : PrintedFact → Query
  | .logMessage => repository.subjectQuery "log" []
  | .content path => repository.subjectQuery "cat" [path]

def ask (facts : Facts World) : PrintedFact → World → Answered World String
  | .logMessage => facts.logMessage
  | .content path => facts.content path

def answer? (memo : Memo) : PrintedFact → Option String
  | .logMessage => memo.logMessage
  | .content path => memo.contents.lookup path

end PrintedFact

namespace Repository

variable {repository : Repository} {runner : Runner World} {memo : Memo} {world : World}

private theorem tidy_step (tidy : memo.Tidy repository.subject) (runner : Runner World)
    (question : Question) (world : World) :
    ((repository.toFacts runner).answer question ⟨memo, world⟩).world.memo.Tidy
      repository.subject := by
  cases recalled : memo.answer? question with
  | some answer =>
      rw [answer_recalled tidy recalled]
      exact tidy
  | none =>
      obtain ⟨after, learns, answered⟩ := answer_unknown runner tidy recalled world
      rw [answered]
      exact learns.tidy

private theorem recalled_step {question : Question} {answer : question.Answer}
    (tidy : memo.Tidy repository.subject) (recalled : memo.answer? question = some answer)
    (runner : Runner World) (other : Question) (world : World) :
    ((repository.toFacts runner).answer other ⟨memo, world⟩).world.memo.answer? question =
      some answer := by
  cases known : memo.answer? other with
  | some value =>
      rw [answer_recalled tidy known]
      exact recalled
  | none =>
      obtain ⟨after, learns, answered⟩ := answer_unknown runner tidy known world
      rw [answered]
      change after.answer? question = some answer
      rw [learns.learned, ← recalled]
      cases (repository.inquire runner other world).result with
      | error error => rfl
      | ok value =>
          cases kept : other.key? with
          | none => rw [Memo.learn, Memo.keep_of_key?_none kept]
          | some key =>
              apply Memo.answer?_keep_other
              intro same
              have alike := Memo.answer?_isSome_of_key? memo (same.trans kept) kept
              rw [recalled, known] at alike
              cases alike

theorem tidy_askAll (runner : Runner World) (questions : List Question)
    (state : Remembering World) (tidy : state.memo.Tidy repository.subject) :
    ((repository.toFacts runner).askAll questions state).memo.Tidy repository.subject := by
  induction questions generalizing state with
  | nil => exact tidy
  | cons question questions ih => exact ih _ (tidy_step tidy runner question state.world)

theorem recalled_askAll {question : Question} {answer : question.Answer} (runner : Runner World)
    (questions : List Question) (state : Remembering World)
    (tidy : state.memo.Tidy repository.subject)
    (recalled : state.memo.answer? question = some answer) :
    ((repository.toFacts runner).askAll questions state).memo.answer? question = some answer := by
  induction questions generalizing state with
  | nil => exact recalled
  | cons other questions ih =>
      apply ih
      · exact tidy_step tidy runner other state.world
      · exact recalled_step tidy recalled runner other state.world

private theorem answer_first {question key : Question} {answer : question.Answer}
    (tidy : memo.Tidy repository.subject) (unknown : memo.answer? question = none)
    (kept : question.key? = some key)
    (inquired : (repository.inquire runner question world).result = .ok answer) :
    ((repository.toFacts runner).answer question ⟨memo, world⟩).result = .ok answer ∧
      ((repository.toFacts runner).answer question ⟨memo, world⟩).world.memo.answer? question =
        some answer := by
  obtain ⟨after, learns, answered⟩ := answer_unknown runner tidy unknown world
  rw [answered]
  constructor
  · exact inquired
  · rw [learns.learned, inquired]
    exact Memo.answer?_keep kept memo answer

private theorem ask_succeeded {query : Query} {output : Output}
    (printed : (runner query world).1 = .ok output) (succeeded : output.code = some 0) :
    (ask runner query world).result = .ok output.stdout := by
  rcases finished : runner query world with ⟨result, after⟩
  rw [finished] at printed
  obtain rfl : result = .ok output := printed
  have passed : output.succeeded = true := by
    rw [Output.succeeded, succeeded]
    rfl
  simp only [ask, finished, passed, if_true]

end Repository

namespace PrintedFact

variable {repository : Repository} {runner : Runner World} {memo : Memo} {world : World}

private theorem ask_recalled (fact : PrintedFact) {value : String}
    (tidy : memo.Tidy repository.subject) (recalled : fact.answer? memo = some value) :
    fact.ask (repository.toFacts runner) ⟨memo, world⟩ = .known value ⟨memo, world⟩ := by
  cases fact with
  | logMessage =>
      have known : memo.answer? .logMessage = some value := recalled
      exact Repository.answer_recalled tidy known world
  | content path =>
      have known : memo.answer? (.content path) = some value := recalled
      exact Repository.answer_recalled tidy known world

private theorem ask_unknown (fact : PrintedFact) (tidy : memo.Tidy repository.subject)
    (unknown : fact.answer? memo = none) {output : Output}
    (printed : (runner (fact.query repository) world).1 = .ok output)
    (succeeded : output.code = some 0) :
    (fact.ask (repository.toFacts runner) ⟨memo, world⟩).result = .ok (Text.trim output.stdout) ∧
      fact.answer? (fact.ask (repository.toFacts runner) ⟨memo, world⟩).world.memo =
        some (Text.trim output.stdout) := by
  have asked : ((Repository.ask runner (fact.query repository) world).map Text.trim).result =
      .ok (Text.trim output.stdout) :=
    congrArg (Except.map Text.trim) (Repository.ask_succeeded printed succeeded)
  cases fact with
  | logMessage =>
      have unasked : memo.answer? .logMessage = none := unknown
      exact Repository.answer_first tidy unasked rfl asked
  | content path =>
      have unasked : memo.answer? (.content path) = none := unknown
      exact Repository.answer_first tidy unasked rfl asked

private theorem tidy_ask (fact : PrintedFact) (tidy : memo.Tidy repository.subject)
    (runner : Runner World) (world : World) :
    (fact.ask (repository.toFacts runner) ⟨memo, world⟩).world.memo.Tidy repository.subject := by
  cases fact with
  | logMessage => exact Repository.tidy_step tidy runner .logMessage world
  | content path => exact Repository.tidy_step tidy runner (.content path) world

theorem recalled_askAll (fact : PrintedFact) {value : String} (runner : Runner World)
    (questions : List Question) (state : Remembering World)
    (tidy : state.memo.Tidy repository.subject) (recalled : fact.answer? state.memo = some value) :
    fact.answer? ((repository.toFacts runner).askAll questions state).memo = some value := by
  cases fact with
  | logMessage =>
      have known : state.memo.answer? .logMessage = some value := recalled
      exact Repository.recalled_askAll runner questions state tidy known
  | content path =>
      have known : state.memo.answer? (.content path) = some value := recalled
      exact Repository.recalled_askAll runner questions state tidy known

end PrintedFact

namespace Condition

private theorem select_content {setting : Setting World} {tokens : Tokens} {path content : String}
    {run : Run World} (gate : Gate) (located : tokens.lookup? "Path" = some path)
    (held : (setting.facts.content path run.world).result = .ok content) :
    (((Condition.content gate).select setting tokens).run run).1 =
      .ok (if isFolderPath path then [] else itemIf (gate.admits content) []) := by
  rw [select, get_set located, Act.ofTokens_ok_bind]
  cases isFolderPath path with
  | true => rfl
  | false =>
      change ((Act.ask (setting.facts.content path) >>= fun content =>
        pure (itemIf (gate.admits content) [])).run run).1 = _
      rw [Act.run_bind_ok (Act.run_ask_ok run held)]
      rfl

end Condition

theorem Element.Makes.content {element : Element} {filter : Filter}
    (named : element.name = "FilterFileContent") (makes : element.Makes filter) :
    ∃ gate, filter.condition = .content gate := by
  obtain ⟨make, known, made⟩ := makes
  rw [named] at known
  cases known
  obtain ⟨gate, -, rfl⟩ := except_map_ok made
  exact ⟨gate, rfl⟩

/-- In the state, elements that filter on the content of the path select what they select over
facts given in advance that hold this content. -/
def Facts.ShowsContent (facts : Facts World) (state : World) (path content : String) : Prop :=
  ∀ (element : Element) (filter : Filter), element.name = "FilterFileContent" →
    element.Makes filter →
    ∀ {Other : Type} (given : FixedFacts), FixedFacts.lastFor given.contents path = some content →
      ∀ (setting : Setting World) (prepared : Setting Other), setting.facts = facts →
        prepared.facts = given.toFacts Other →
        ∀ tokens : Tokens, tokens.lookup? "Path" = some path → ∀ (journal : Journal)
          (run : Run Other),
          ((filter.condition.select setting tokens).run ⟨state, journal⟩).1 =
            ((filter.condition.select prepared tokens).run run).1

private theorem Facts.showsContent {facts : Facts World} {state : World} {path content : String}
    (held : (facts.content path state).result = .ok content) :
    facts.ShowsContent state path content := by
  intro element filter named makes Other given row setting prepared rfl same tokens located journal
    run
  obtain ⟨gate, condition⟩ := makes.content named
  have prepares : (prepared.facts.content path run.world).result = .ok content := by
    rw [same]
    change Except.ok ((FixedFacts.lastFor given.contents path).getD "") = _
    rw [row]
    rfl
  rw [condition, Condition.select_content gate located held,
    Condition.select_content gate located prepares]

/-- A text that was printed by a query with code zero is had without the white space around it, and
had again without a query. Only its end is lost exactly where it does not begin with white space or
holds nothing else; a content that was printed with white space behind it is then found again, and
filters on it decide as over the content itself. -/
theorem printed_fact_trimmed (repository : Repository) (runner : Runner World) (start : World)
    (earlier later : List Question) (fact : PrintedFact) :
    let facts := repository.toFacts runner
    let state := facts.askAll earlier ⟨.blank, start⟩
    let reached := facts.askAll later (fact.ask facts state).world
    (fact.ask facts state).queries ≠ [] →
    ∀ output : Output, (runner (fact.query repository) state.world).1 = .ok output →
      output.code = some 0 →
      ∃ value, (fact.ask facts state).result = .ok value ∧
        fact.ask facts reached = .known value reached ∧
        Text.Trimmed output.stdout.toList value.toList ∧
        (Text.LosesEnd output.stdout.toList value.toList ↔
          (∀ c ∈ output.stdout.toList.head?, Text.isBlank c = false) ∨
            Text.allBlank output.stdout.toList = true) ∧
        ∀ content : String, Text.LosesEnd output.stdout.toList content.toList →
          (∀ c ∈ content.toList.getLast?, Text.isBlank c = false) →
          (value = content ↔ ∀ c ∈ content.toList.head?, Text.isBlank c = false) ∧
            ∀ path, fact = .content path → (∀ c ∈ content.toList.head?, Text.isBlank c = false) →
              facts.ShowsContent state path content ∧ facts.ShowsContent reached path content := by
  intro facts state reached queried output printed succeeded
  have tidy : state.memo.Tidy repository.subject :=
    Repository.tidy_askAll runner earlier ⟨.blank, start⟩ (Memo.tidy_blank repository.subject)
  have unknown : fact.answer? state.memo = none := by
    cases recalled : fact.answer? state.memo with
    | none => rfl
    | some value =>
        have known : fact.ask facts state = _ := fact.ask_recalled tidy recalled
        exact absurd (congrArg Answered.queries known) queried
  obtain ⟨result, kept⟩ := fact.ask_unknown tidy unknown printed succeeded
  have again : fact.ask facts reached = .known (Text.trim output.stdout) reached := by
    have tidied : (fact.ask facts state).world.memo.Tidy repository.subject :=
      fact.tidy_ask tidy runner state.world
    apply fact.ask_recalled
    · exact Repository.tidy_askAll runner later _ tidied
    · exact fact.recalled_askAll runner later _ tidied kept
  have chars : (Text.trim output.stdout).toList = Text.trimChars output.stdout.toList := by
    rw [Text.trim, String.toList_ofList]
  refine ⟨Text.trim output.stdout, result, again, ?_, ?_, ?_⟩
  · rw [chars]
    exact Text.trimmed_trimChars _
  · rw [chars]
    exact Text.losesEnd_trimChars_iff
  · intro content loses ends
    have found : Text.trim output.stdout = content ↔
        ∀ c ∈ content.toList.head?, Text.isBlank c = false := by
      rw [← loses.trimChars_eq_iff ends, ← chars, String.toList_inj]
    refine ⟨found, ?_⟩
    rintro path rfl begins
    have same := found.mpr begins
    constructor
    · apply Facts.showsContent
      rw [← same]
      exact result
    · apply Facts.showsContent
      have known := congrArg Answered.result again
      rw [same] at known
      exact known

/-- Line ends behind a makefile are all that is lost of it. -/
theorem makefile_shown :
    let repository : Repository := ⟨"/srv/repo", .revision 5, none, "svnlook", "svn"⟩
    let facts := repository.toFacts (.scripted fun _ => .ok ⟨some 0, "all:\n\tcc a.c\n\n", ""⟩)
    let state : Remembering Unit := facts.askAll [.author] ⟨.blank, ()⟩
    ((PrintedFact.content "Makefile").ask facts state).result = .ok "all:\n\tcc a.c" ∧
      facts.ShowsContent state "Makefile" "all:\n\tcc a.c" := by
  intro repository facts state
  obtain ⟨value, answered, -, -, -, found⟩ := printed_fact_trimmed repository
    (.scripted fun _ => .ok ⟨some 0, "all:\n\tcc a.c\n\n", ""⟩) () [.author] [.changes]
    (.content "Makefile") (by decide) ⟨some 0, "all:\n\tcc a.c\n\n", ""⟩ rfl rfl
  have begins : ∀ c ∈ "all:\n\tcc a.c".toList.head?, Text.isBlank c = false := by
    intro c first
    cases Option.some.inj first
    decide
  have ends : ∀ c ∈ "all:\n\tcc a.c".toList.getLast?, Text.isBlank c = false := by
    intro c last
    cases Option.some.inj last
    decide
  have content := found "all:\n\tcc a.c" ⟨['\n', '\n'], by decide, by decide⟩ ends
  constructor
  · rw [← content.1.mpr begins]
    exact answered
  · exact (content.2 "Makefile" rfl begins).1

/-- A tab before the first line is lost, and a filter that looks for it lets the file
pass, which it stops over the content itself. -/
theorem leading_tab_unseen :
    let repository : Repository := ⟨"/srv/repo", .youngest, none, "svnlook", "svn"⟩
    let facts := repository.toFacts (.scripted fun _ => .ok ⟨some 0, "\tcc a.c\n", ""⟩ : Runner Unit)
    let given : FixedFacts :=
      { (default : FixedFacts) with contents := [("a.mk", "\tcc a.c")] }
    let root : Element := ⟨"FilterFileContent", [], none,
      [⟨"ContentRegex", [], some "^\tcc", [], .nowhere⟩,
        ⟨"SendError", [], some "indented", [], .nowhere⟩], .nowhere⟩
    let tokens := Tokens.ofList [("Path", "a.mk")]
    Text.LosesEnd "\tcc a.c\n".toList "\tcc a.c".toList ∧
      (facts.content "a.mk" ⟨.blank, ()⟩).result = .ok "cc a.c" ∧
      ¬ Text.LosesEnd "\tcc a.c\n".toList "cc a.c".toList ∧
      (Evaluation.run ⟨facts, default, .defaults, .accepting, .working, Host.idle.remembering⟩ .standard
        root tokens ⟨⟨.blank, ()⟩, []⟩).1.1 = .done ∧
      (Evaluation.run ⟨given.toFacts Unit, default, .defaults, .accepting, .working, .idle⟩ .standard
        root tokens ⟨(), []⟩).1.1 = .code 1 := by
  intro repository facts given root tokens
  refine ⟨⟨['\n'], by decide, by decide⟩, by decide +kernel, ?_, by decide +kernel,
    by decide +kernel⟩
  rintro ⟨rest, whole, -⟩
  cases whole

end HookRules
