import HookRules.Fact.Repository
import HookRules.Proofs.Fact.Answers

/-!
What is remembered of a repository. A question whose answer is remembered is not asked again, and
a question that fails leaves the memory as it was; what a question comes to does not show whether
it was asked before.
-/

set_option autoImplicit false

namespace HookRules

/-- Queries answered from a script, in any world. -/
def Runner.scripted {World : Type} (script : Query → Except FactError Output) : Runner World :=
  fun query world => (script query, world)

namespace Question

/-- What the answer to a question is remembered under. A folder is known by its path without the
slashes around it, and the log of a revision is not remembered. -/
def key? : Question → Option Question
  | .entries folder => some (.entries (folderKey folder))
  | .revisionLog _ => none
  | question => some question

theorem eq_of_key? {first second key : Question} (left : first.key? = some key)
    (right : second.key? = some key) :
    first = second ∨ ∃ folder other, first = .entries folder ∧ second = .entries other ∧
      folderKey folder = folderKey other := by
  cases first <;> cases second <;> simp_all [key?]
  all_goals grind

end Question

namespace Memo

/-- The remembered answer to a question. -/
def answer? (memo : Memo) : (question : Question) → Option question.Answer
  | .author => memo.author
  | .logMessage => memo.logMessage
  | .changes => memo.changes
  | .content path => memo.contents.lookup path
  | .properties path => memo.properties.lookup path
  | .lockOwner path => memo.locks.lookup path
  | .revisionLog _ => none
  | .entries folder => memo.entries.lookup (folderKey folder)

theorem answer?_isSome_of_key? {first second key : Question} (memo : Memo)
    (left : first.key? = some key) (right : second.key? = some key) :
    (memo.answer? first).isSome = (memo.answer? second).isSome := by
  obtain rfl | ⟨folder, other, rfl, rfl, same⟩ := Question.eq_of_key? left right
  · rfl
  · rw [answer?, answer?, same]
    rfl

theorem answer?_of_key?_none {question : Question} (passed : question.key? = none) (memo : Memo) :
    memo.answer? question = none := by
  cases question with
  | revisionLog verbose => rfl
  | _ => cases passed

/-- Remembers the answer to a question. -/
def keep : (question : Question) → question.Answer → Memo → Memo
  | .author => fun author memo => { memo with author := some author }
  | .logMessage => fun message memo => { memo with logMessage := some message }
  | .changes => fun changes memo => { memo with changes := some changes }
  | .content path => fun content memo => { memo with contents := (path, content) :: memo.contents }
  | .properties path => fun found memo =>
      { memo with properties := (path, found) :: memo.properties }
  | .lockOwner path => fun owner memo => { memo with locks := (path, owner) :: memo.locks }
  | .revisionLog _ => fun _ memo => memo
  | .entries folder => fun names memo =>
      { memo with entries := (folderKey folder, names) :: memo.entries }

/-- The memo after an inquiry, of which only an answer is remembered. -/
def learn (memo : Memo) (question : Question) : Except FactError question.Answer → Memo
  | .ok answer => memo.keep question answer
  | .error _ => memo

/-- The layout of listings is remembered with the changes only, and only a subject that can have
changes has some remembered. -/
structure Tidy (memo : Memo) (subject : Subject) : Prop where
  layout : memo.changes = none → memo.layout = .unknown
  dated : subject = .youngest → memo.changes = none

theorem tidy_blank (subject : Subject) : Memo.blank.Tidy subject :=
  ⟨fun _ => rfl, fun _ => rfl⟩

theorem answer?_blank (question : Question) : Memo.blank.answer? question = none := by
  cases question <;> rfl

theorem answer?_keep {question key : Question} (kept : question.key? = some key) (memo : Memo)
    (answer : question.Answer) : (memo.keep question answer).answer? question = some answer := by
  cases question with
  | revisionLog verbose => cases kept
  | content path => exact List.lookup_cons_self
  | properties path => exact List.lookup_cons_self
  | lockOwner path => exact List.lookup_cons_self
  | entries folder => exact List.lookup_cons_self
  | _ => rfl

theorem keep_of_key?_none {question : Question} (passed : question.key? = none) (memo : Memo)
    (answer : question.Answer) : memo.keep question answer = memo := by
  cases question with
  | revisionLog verbose => rfl
  | _ => cases passed

theorem answer?_keep_other {question other : Question} (memo : Memo) (answer : question.Answer)
    (differ : other.key? ≠ question.key?) :
    (memo.keep question answer).answer? other = memo.answer? other := by
  have beyond {Value : Type} {name this : String} (value : Value) (rest : List (String × Value))
      (unequal : name ≠ this) : ((this, value) :: rest).lookup name = rest.lookup name := by
    rw [List.lookup_cons, beq_eq_false_iff_ne.mpr unequal]
  cases question <;> cases other <;> try rfl
  case author.author => exact absurd rfl differ
  case logMessage.logMessage => exact absurd rfl differ
  case changes.changes => exact absurd rfl differ
  case content.content => exact beyond _ _ fun equal => differ (by rw [equal])
  case properties.properties => exact beyond _ _ fun equal => differ (by rw [equal])
  case lockOwner.lockOwner => exact beyond _ _ fun equal => differ (by rw [equal])
  case entries.entries =>
    exact beyond _ _ fun equal => differ (by rw [Question.key?, Question.key?, equal])

theorem answer?_keep_isSome {memo : Memo} {question other : Question}
    (recalled : (memo.answer? other).isSome) (answer : question.Answer) :
    ((memo.keep question answer).answer? other).isSome := by
  cases kept : question.key? with
  | none => rwa [keep_of_key?_none kept]
  | some key =>
      by_cases same : other.key? = some key
      · rw [answer?_isSome_of_key? _ same kept, answer?_keep kept]
        rfl
      · rwa [answer?_keep_other memo answer (by rw [kept]; exact same)]

/-- What a memo becomes by an inquiry: as tidy as it was, it holds the answer, and a failure
leaves it alone. -/
structure Learns (memo : Memo) (subject : Subject) (question : Question)
    (result : Except FactError question.Answer) (after : Memo) : Prop where
  tidy : after.Tidy subject
  learned : ∀ other, after.answer? other = (memo.learn question result).answer? other
  failed : ∀ error, result = .error error → after = memo

private theorem Learns.of_other {memo : Memo} {subject : Subject} {question : Question}
    {result : Except FactError question.Answer} (tidy : memo.Tidy subject)
    (other : question ≠ .changes) :
    memo.Learns subject question result (memo.learn question result) := by
  refine ⟨?_, fun _ => rfl, ?_⟩
  · cases result with
    | error error => exact tidy
    | ok answer =>
        cases question with
        | changes => exact absurd rfl other
        | _ => exact ⟨tidy.layout, tidy.dated⟩
  · rintro error rfl
    rfl

end Memo

namespace Remembering

variable {World Answer : Type} {known : Memo → Option Answer} {keep : Answer → Memo → Memo}
  {ask : World → Answered World Answer} {memo : Memo} {world : World}

private theorem orAsk_known {answer : Answer} (recalled : known memo = some answer) :
    orAsk known keep ask ⟨memo, world⟩ = .known answer ⟨memo, world⟩ := by
  rw [orAsk, recalled]

private theorem orAsk_unknown (unknown : known memo = none) :
    orAsk known keep ask ⟨memo, world⟩ =
      ⟨(ask world).queries, (ask world).result, ⟨match (ask world).result with
        | .ok answer => keep answer memo
        | .error _ => memo, (ask world).world⟩⟩ := by
  simp only [orAsk, unknown]
  cases (ask world).result with
  | ok answer => rfl
  | error error => rfl

end Remembering

namespace Repository

variable {World : Type}

/-- The answer to a question, asked for without a memory. -/
def inquire (repository : Repository) (runner : Runner World) :
    (question : Question) → World → Answered World question.Answer
  | .author => repository.author runner
  | .logMessage => repository.logMessage runner
  | .changes => fun world =>
      if repository.subject = .youngest then .missing (.unavailable "change list") world
      else (repository.changes runner .unknown world).map Prod.fst
  | .content path => repository.content runner path
  | .properties path => repository.properties runner path
  | .lockOwner path => repository.lockOwner runner path
  | .revisionLog verbose => repository.revisionLog runner verbose
  | .entries folder => repository.entries runner folder

variable {repository : Repository} {runner : Runner World} {memo : Memo} {question : Question}

private theorem answer_eq_orAsk (other : question ≠ .changes) :
    (repository.toFacts runner).answer question =
      Remembering.orAsk (fun memo => memo.answer? question) (Memo.keep question)
        (repository.inquire runner question) := by
  cases question with
  | changes => exact absurd rfl other
  | revisionLog verbose =>
      funext state
      change Remembering.forward _ state = _
      simp only [Remembering.forward, Remembering.orAsk, Memo.answer?, inquire]
      split <;> rename_i answered <;> simp only [answered] <;> rfl
  | _ => rfl

theorem answer_recalled {answer : question.Answer} (tidy : memo.Tidy repository.subject)
    (recalled : memo.answer? question = some answer) (world : World) :
    (repository.toFacts runner).answer question ⟨memo, world⟩ = .known answer ⟨memo, world⟩ := by
  by_cases other : question ≠ .changes
  · rw [answer_eq_orAsk other, Remembering.orAsk_known recalled]
  · obtain rfl : question = .changes := Decidable.not_not.mp other
    have found : memo.changes = some answer := recalled
    have dated : repository.subject ≠ .youngest := by
      intro youngest
      rw [tidy.dated youngest] at found
      cases found
    have known : memo.changes.map (fun changes => (changes, memo.layout)) =
        some (answer, memo.layout) := by
      rw [found]
      rfl
    change repository.recallChanges runner ⟨memo, world⟩ = _
    rw [recallChanges, if_neg dated, Remembering.orAsk_known known]
    rfl

theorem answer_unknown (runner : Runner World) (tidy : memo.Tidy repository.subject)
    (unknown : memo.answer? question = none) (world : World) :
    ∃ after, memo.Learns repository.subject question
        (repository.inquire runner question world).result after ∧
      (repository.toFacts runner).answer question ⟨memo, world⟩ =
        ⟨(repository.inquire runner question world).queries,
          (repository.inquire runner question world).result,
          ⟨after, (repository.inquire runner question world).world⟩⟩ := by
  by_cases other : question ≠ .changes
  · refine ⟨memo.learn question (repository.inquire runner question world).result, ?_, ?_⟩
    · exact Memo.Learns.of_other tidy other
    · rw [answer_eq_orAsk other, Remembering.orAsk_unknown unknown]
      cases (repository.inquire runner question world).result with
      | ok answer => rfl
      | error error => rfl
  · obtain rfl : question = .changes := Decidable.not_not.mp other
    have none : memo.changes = none := unknown
    change ∃ after, _ ∧ repository.recallChanges runner ⟨memo, world⟩ = _
    by_cases youngest : repository.subject = .youngest
    · refine ⟨memo, ?_, ?_⟩
      · simp only [inquire, if_pos youngest]
        exact ⟨tidy, fun _ => rfl, fun _ _ => rfl⟩
      · simp only [recallChanges, inquire, if_pos youngest]
        rfl
    · simp only [recallChanges, inquire, if_neg youngest, tidy.layout none]
      rw [Remembering.orAsk_unknown (by rw [none]; rfl)]
      cases listed : (repository.changes runner .unknown world).result with
      | ok found =>
          refine ⟨{ memo with changes := some found.1, layout := found.2 }, ?_, ?_⟩
          · simp only [Answered.map, listed]
            refine ⟨⟨(fun lost => nomatch lost), fun undated => absurd undated youngest⟩, ?_, ?_⟩
            · intro question
              cases question <;> rfl
            · intro error failed
              cases failed
          · simp only [Answered.map, listed]
            rfl
      | error error =>
          refine ⟨memo, ?_, ?_⟩
          · simp only [Answered.map, listed]
            exact ⟨tidy, fun _ => rfl, fun _ _ => rfl⟩
          · simp only [Answered.map, listed]
            rfl

section Keeps

variable {holds : World → Prop}
  (queried : ∀ query world, holds world → holds (runner query world).2)

include queried

private theorem ask_keeps (query : Query) {world : World} (held : holds world) :
    holds (ask runner query world).world := by
  have after := queried query world held
  rw [ask]
  split <;> rename_i asked <;> rw [asked] at after
  · exact after
  · split <;> exact after

private theorem propertyValues_keeps (path : String) (names : List String) {world : World}
    (held : holds world) : holds (repository.propertyValues runner path names world).world := by
  induction names generalizing world with
  | nil => exact held
  | cons name rest ih =>
      have asked := ask_keeps queried (repository.subjectQuery "propget" [name, path]) held
      rw [propertyValues, Answered.andThen]
      split
      · exact asked
      · exact ih asked

theorem inquire_keeps (question : Question) {world : World} (held : holds world) :
    holds (repository.inquire runner question world).world := by
  have asked (query : Query) : holds (ask runner query world).world := ask_keeps queried query held
  cases question with
  | changes =>
      rw [inquire]
      split
      · exact held
      · exact asked _
  | properties path =>
      rw [inquire, properties, Answered.andThen]
      split
      · exact asked _
      · exact propertyValues_keeps queried _ _ (asked _)
  | revisionLog verbose =>
      rw [inquire, revisionLog]
      split
      · exact held
      · exact asked _
  | _ => exact asked _

theorem answer_keeps (question : Question) (state : Remembering World) (held : holds state.world) :
    holds ((repository.toFacts runner).answer question state).world.world := by
  have recalling {Answer : Type} (known : Memo → Option Answer) (keep : Answer → Memo → Memo)
      {ask : World → Answered World Answer} (asked : holds (ask state.world).world) :
      holds (Remembering.orAsk known keep ask state).world.world := by
    rw [Remembering.orAsk]
    split
    · exact held
    · dsimp only
      split <;> exact asked
  by_cases other : question ≠ .changes
  · rw [answer_eq_orAsk other]
    exact recalling _ _ (inquire_keeps queried question held)
  · obtain rfl : question = .changes := Decidable.not_not.mp other
    change holds (repository.recallChanges runner state).world.world
    rw [recallChanges]
    split
    · exact held
    · exact recalling _ _ (ask_keeps queried _ held)

end Keeps

end Repository

end HookRules
