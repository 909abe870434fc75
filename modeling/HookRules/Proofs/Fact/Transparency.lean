import HookRules.Proofs.Fact.Memory

/-!
Memory cannot be seen. Where a query always comes to the same, every question comes to what it
comes to when it is the first; what was asked before shows only in the queries that are saved.
-/

set_option autoImplicit false

namespace HookRules

variable {World : Type}

/-- What a query comes to depends on the query alone. -/
def Runner.Constant (runner : Runner World) : Prop :=
  ∀ query world other, (runner query world).1 = (runner query other).1

theorem Runner.constant_scripted (script : Query → Except FactError Output) :
    (scripted script : Runner World).Constant :=
  fun _ _ _ => rfl

/-- Two answers that took the same queries and came to the same. -/
structure Answered.Alike {Answer : Type} (left right : Answered World Answer) : Prop where
  queries : left.queries = right.queries
  result : left.result = right.result

namespace Answered.Alike

variable {Answer Other : Type} {left right : Answered World Answer}

theorem map (alike : left.Alike right) (change : Answer → Other) :
    (left.map change).Alike (right.map change) :=
  ⟨alike.queries, congrArg (Except.map change) alike.result⟩

theorem andThen (alike : left.Alike right) {ask : Answer → World → Answered World Other}
    (next : ∀ answer world other, (ask answer world).Alike (ask answer other)) :
    (left.andThen ask).Alike (right.andThen ask) := by
  rw [Answered.andThen, Answered.andThen, alike.queries, alike.result]
  cases right.result with
  | error error => exact ⟨rfl, rfl⟩
  | ok answer =>
      have same := next answer left.world right.world
      exact ⟨congrArg (right.queries ++ ·) same.queries, same.result⟩

end Answered.Alike

namespace Repository

variable {repository : Repository} {runner : Runner World}

private theorem ask_alike (constant : runner.Constant) (query : Query) (world other : World) :
    (ask runner query world).Alike (ask runner query other) := by
  have same := constant query world other
  simp only [ask]
  generalize runner query world = first at same ⊢
  generalize runner query other = second at same ⊢
  obtain ⟨left, after⟩ := first
  obtain ⟨right, later⟩ := second
  obtain rfl : left = right := same
  cases left with
  | error error => exact ⟨rfl, rfl⟩
  | ok output =>
      by_cases succeeded : output.succeeded
      · simp only [succeeded, if_true]
        exact ⟨rfl, rfl⟩
      · simp only [succeeded]
        exact ⟨rfl, rfl⟩

private theorem propertyValues_alike (constant : runner.Constant) (path : String)
    (names : List String) (world other : World) :
    (repository.propertyValues runner path names world).Alike
      (repository.propertyValues runner path names other) := by
  induction names generalizing world other with
  | nil => exact ⟨rfl, rfl⟩
  | cons name rest ih =>
      exact (ask_alike constant _ world other).andThen fun _ world other => (ih world other).map _

private theorem inquire_alike (constant : runner.Constant) (question : Question)
    (world other : World) :
    (repository.inquire runner question world).Alike
      (repository.inquire runner question other) := by
  cases question with
  | changes =>
      simp only [inquire]
      split
      · exact ⟨rfl, rfl⟩
      · exact ((ask_alike constant _ world other).map _).map _
  | properties path =>
      exact (ask_alike constant _ world other).andThen fun _ =>
        propertyValues_alike constant path _
  | revisionLog verbose =>
      simp only [inquire, revisionLog]
      split
      · exact ⟨rfl, rfl⟩
      · exact ask_alike constant _ world other
  | _ => exact (ask_alike constant _ world other).map _

private theorem answer_blank (question : Question) (world : World) :
    ((repository.toFacts runner).answer question ⟨.blank, world⟩).queries =
        (repository.inquire runner question world).queries ∧
      ((repository.toFacts runner).answer question ⟨.blank, world⟩).result =
        (repository.inquire runner question world).result := by
  obtain ⟨after, -, answered⟩ := answer_unknown runner (Memo.tidy_blank repository.subject)
    (Memo.answer?_blank question) world
  rw [answered]
  exact ⟨rfl, rfl⟩

end Repository

/-- The world after questions, asked in order. -/
def Facts.askAll (facts : Facts World) (questions : List Question) (world : World) : World :=
  questions.foldl (fun world question => (facts.answer question world).world) world

/-- One of the questions, asked in order, had an answer that is remembered under the key. -/
def Facts.Had (facts : Facts World) (questions : List Question) (world : World)
    (key : Question) : Prop :=
  ∃ before question after, questions = before ++ question :: after ∧ question.key? = some key ∧
    ∃ answer, (facts.answer question (facts.askAll before world)).result = .ok answer

private theorem Facts.had_nil {facts : Facts World} {world : World} {key : Question} :
    facts.Had [] world key ↔ False := by
  refine ⟨?_, False.elim⟩
  rintro ⟨before, question, after, same, -⟩
  cases before <;> cases same

private theorem Facts.had_cons {facts : Facts World} {question : Question}
    {questions : List Question} {world : World} {key : Question} :
    facts.Had (question :: questions) world key ↔
      (question.key? = some key ∧ ∃ answer, (facts.answer question world).result = .ok answer) ∨
        facts.Had questions (facts.answer question world).world key := by
  constructor
  · rintro ⟨_ | ⟨first, before⟩, asked, after, same, kept, had⟩
    · obtain ⟨rfl, rfl⟩ := List.cons_eq_cons.mp same
      exact .inl ⟨kept, had⟩
    · obtain ⟨rfl, rfl⟩ := List.cons_eq_cons.mp same
      exact .inr ⟨before, asked, after, rfl, kept, had⟩
  · rintro (⟨kept, had⟩ | ⟨before, asked, after, rfl, kept, had⟩)
    · exact ⟨[], question, questions, rfl, kept, had⟩
    · exact ⟨question :: before, asked, after, rfl, kept, had⟩

namespace Repository

variable {repository : Repository} {runner : Runner World}

/-- What is remembered of a repository: for the keys that were had, and for no others, what an
inquiry comes to. -/
structure Reflects (repository : Repository) (runner : Runner World)
    (had : Question → Prop) (memo : Memo) : Prop where
  tidy : memo.Tidy repository.subject
  faithful : ∀ question answer, memo.answer? question = some answer →
    ∀ world, (repository.inquire runner question world).result = .ok answer
  had : ∀ question key, question.key? = some key → ((memo.answer? question).isSome ↔ had key)

theorem reflects_blank (repository : Repository) (runner : Runner World) :
    repository.Reflects runner (fun _ => False) .blank where
  tidy := Memo.tidy_blank repository.subject
  faithful := by
    intro question answer recalled
    rw [Memo.answer?_blank] at recalled
    cases recalled
  had := by
    intro question key _
    simp [Memo.answer?_blank]

section Step

variable {had : Question → Prop} {memo : Memo}

/-- A question comes to what its inquiry comes to, by no query if it is remembered and by the
queries of the inquiry if not. -/
theorem Reflects.answer (reflects : repository.Reflects runner had memo)
    (constant : runner.Constant) (question : Question) (world other : World) :
    ((repository.toFacts runner).answer question ⟨memo, world⟩).result =
        (repository.inquire runner question other).result ∧
      ((repository.toFacts runner).answer question ⟨memo, world⟩).queries =
        if (memo.answer? question).isSome then []
        else (repository.inquire runner question other).queries := by
  have alike : (repository.inquire runner question world).Alike
      (repository.inquire runner question other) := inquire_alike constant question world other
  cases recalled : memo.answer? question with
  | some answer =>
      rw [answer_recalled reflects.tidy recalled]
      exact ⟨(reflects.faithful question answer recalled other).symm, rfl⟩
  | none =>
      obtain ⟨after, -, answered⟩ := answer_unknown runner reflects.tidy recalled world
      rw [answered]
      exact ⟨alike.result, alike.queries⟩

private theorem answer?_faithful_of_key? {asked other key : Question} {answer : asked.Answer}
    (left : asked.key? = some key) (right : other.key? = some key)
    (recalled : memo.answer? asked = some answer)
    (faithful : ∀ world, (repository.inquire runner asked world).result = .ok answer) :
    ∀ answer, memo.answer? other = some answer →
      ∀ world, (repository.inquire runner other world).result = .ok answer := by
  obtain rfl | ⟨folder, further, rfl, rfl, same⟩ := Question.eq_of_key? left right
  · intro value found world
    obtain rfl : answer = value := Option.some.inj (recalled.symm.trans found)
    exact faithful world
  · intro value found world
    have known : memo.entries.lookup (folderKey folder) = some answer := recalled
    have again : memo.entries.lookup (folderKey further) = some value := found
    rw [same, again] at known
    obtain rfl : value = answer := Option.some.inj known
    have inquired : (repository.entries runner folder world).result = .ok value := faithful world
    rw [entries, same] at inquired
    exact inquired

theorem Reflects.learn (reflects : repository.Reflects runner had memo) (constant : runner.Constant)
    {question : Question} {world : World} {after : Memo}
    (learns : memo.Learns repository.subject question
      (repository.inquire runner question world).result after) :
    repository.Reflects runner (fun key => had key ∨ question.key? = some key ∧
      ∃ answer, (repository.inquire runner question world).result = .ok answer) after := by
  cases inquired : (repository.inquire runner question world).result with
  | error error =>
      obtain rfl : after = memo := learns.failed error inquired
      exact ⟨reflects.tidy, reflects.faithful, by simpa using reflects.had⟩
  | ok answer =>
      have learned (other : Question) :
          after.answer? other = (memo.keep question answer).answer? other := by
        rw [learns.learned, inquired]
        rfl
      have always (other : World) :
          (repository.inquire runner question other).result = .ok answer :=
        (inquire_alike constant question other world).result.trans inquired
      refine ⟨learns.tidy, ?_, ?_⟩
      · intro other value found
        rw [learned] at found
        cases kept : question.key? with
        | none =>
            rw [Memo.keep_of_key?_none kept] at found
            exact reflects.faithful other value found
        | some key =>
            by_cases same : other.key? = some key
            · exact answer?_faithful_of_key? kept same (Memo.answer?_keep kept memo answer) always
                value found
            · rw [Memo.answer?_keep_other memo answer (by rw [kept]; exact same)] at found
              exact reflects.faithful other value found
      · intro other key known
        rw [learned]
        by_cases kept : question.key? = some key
        · rw [Memo.answer?_isSome_of_key? _ known kept, Memo.answer?_keep kept]
          simp [kept]
        · rw [Memo.answer?_keep_other memo answer (by rw [known]; exact Ne.symm kept)]
          simpa [kept] using reflects.had other key known

theorem Reflects.step (reflects : repository.Reflects runner had memo) (constant : runner.Constant)
    (question : Question) (world : World) :
    repository.Reflects runner (fun key => had key ∨ question.key? = some key ∧
        ∃ answer, ((repository.toFacts runner).answer question ⟨memo, world⟩).result = .ok answer)
      ((repository.toFacts runner).answer question ⟨memo, world⟩).world.memo := by
  cases recalled : memo.answer? question with
  | some answer =>
      rw [answer_recalled reflects.tidy recalled]
      refine ⟨reflects.tidy, reflects.faithful, fun other key known => ?_⟩
      refine (reflects.had other key known).trans ⟨.inl, ?_⟩
      rintro (had | ⟨kept, -⟩)
      · exact had
      · exact (reflects.had question key kept).mp (by rw [recalled]; rfl)
  | none =>
      obtain ⟨after, learns, answered⟩ := answer_unknown runner reflects.tidy recalled world
      rw [answered]
      exact reflects.learn constant learns

theorem Reflects.askAll (state : Remembering World)
    (reflects : repository.Reflects runner had state.memo) (constant : runner.Constant)
    (questions : List Question) :
    repository.Reflects runner
      (fun key => had key ∨ (repository.toFacts runner).Had questions state key)
      ((repository.toFacts runner).askAll questions state).memo := by
  induction questions generalizing had state with
  | nil =>
      refine ⟨reflects.tidy, reflects.faithful, fun other key known => ?_⟩
      rw [Facts.had_nil, or_false]
      exact reflects.had other key known
  | cons question questions ih =>
      have rest := ih _ (reflects.step constant question state.world)
      refine ⟨rest.tidy, rest.faithful, fun other key known => ?_⟩
      rw [Facts.had_cons, ← or_assoc]
      exact rest.had other key known

theorem Reflects.answer?_of_failed (reflects : repository.Reflects runner had memo)
    {failing later : Question} (same : later.key? = failing.key?) {world : World}
    {error : FactError} (failed : (repository.inquire runner failing world).result = .error error) :
    memo.answer? later = none := by
  cases kept : failing.key? with
  | none => exact Memo.answer?_of_key?_none (same.trans kept) memo
  | some key =>
      have alike := Memo.answer?_isSome_of_key? memo (same.trans kept) kept
      cases recalled : memo.answer? failing with
      | none => simpa [recalled] using alike
      | some answer =>
          have had := reflects.faithful failing answer recalled world
          rw [failed] at had
          cases had

/-- What is remembered is what inquiries come to. -/
def Recalls (repository : Repository) (runner : Runner World) (memo : Memo) : Prop :=
  ∃ had, repository.Reflects runner had memo

theorem recalls_blank (repository : Repository) (runner : Runner World) :
    repository.Recalls runner .blank :=
  ⟨_, reflects_blank repository runner⟩

theorem Recalls.answer (recalls : repository.Recalls runner memo) (constant : runner.Constant)
    (question : Question) (world other : World) :
    ((repository.toFacts runner).answer question ⟨memo, world⟩).result =
        (repository.inquire runner question other).result ∧
      repository.Recalls runner
        ((repository.toFacts runner).answer question ⟨memo, world⟩).world.memo := by
  obtain ⟨had, reflects⟩ := recalls
  exact ⟨(reflects.answer constant question world other).1, _,
    reflects.step constant question world⟩

end Step

/-- Where queries always come to the same, a question that follows others comes to what it comes
to as the first one. It makes no query if an answer is remembered under its key and the queries of
the first one otherwise. A failure changes nothing that is remembered, and questions of its key
make those queries again, however much later. -/
theorem memory_unseen (repository : Repository) (runner : Runner World)
    (constant : runner.Constant) (start : World) (earlier : List Question) (question : Question) :
    let facts := repository.toFacts runner
    let state := facts.askAll earlier ⟨.blank, start⟩
    let answered := facts.answer question state
    (∀ world, answered.result = (facts.answer question ⟨.blank, world⟩).result) ∧
      (∀ key, question.key? = some key → facts.Had earlier ⟨.blank, start⟩ key →
        answered.queries = []) ∧
      ((∀ key, question.key? = some key → ¬ facts.Had earlier ⟨.blank, start⟩ key) →
        ∀ world, answered.queries = (facts.answer question ⟨.blank, world⟩).queries) ∧
      ∀ error, answered.result = .error error →
        answered.world.memo = state.memo ∧
          ∀ between later, later.key? = question.key? → ∀ world,
            (facts.answer later (facts.askAll between answered.world)).queries =
              (facts.answer later ⟨.blank, world⟩).queries := by
  intro facts state answered
  have reflects : repository.Reflects runner (facts.Had earlier ⟨.blank, start⟩) state.memo := by
    have all := Reflects.askAll ⟨.blank, start⟩ (reflects_blank repository runner) constant earlier
    refine ⟨all.tidy, all.faithful, fun other key kept => ?_⟩
    exact (all.had other key kept).trans (or_iff_right id)
  have unasked {other : Question} {had : Question → Prop} {reached : Remembering World}
      (reflects : repository.Reflects runner had reached.memo)
      (unknown : reached.memo.answer? other = none) (world : World) :
      (facts.answer other reached).queries = (facts.answer other ⟨.blank, world⟩).queries := by
    rw [(reflects.answer constant other reached.world world).2, (answer_blank other world).1,
      unknown]
    rfl
  have result (world : World) :
      answered.result = (repository.inquire runner question world).result :=
    (reflects.answer constant question state.world world).1
  refine ⟨?alone, ?saved, ?made, ?failed⟩
  case alone =>
    intro world
    rw [result world, (answer_blank question world).2]
  case saved =>
    intro key kept had
    have recalled := (reflects.had question key kept).mpr had
    rw [(reflects.answer constant question state.world start).2, if_pos recalled]
  case made =>
    intro missing
    apply unasked reflects
    cases kept : question.key? with
    | none => exact Memo.answer?_of_key?_none kept state.memo
    | some key =>
        have forgotten := (not_congr (reflects.had question key kept)).mpr (missing key kept)
        exact Option.not_isSome_iff_eq_none.mp forgotten
  case failed =>
    intro error failed
    have inquired := (result state.world).symm.trans failed
    constructor
    · obtain ⟨after, learns, asked⟩ := answer_unknown runner reflects.tidy
        (reflects.answer?_of_failed rfl inquired) state.world
      have same : answered.world.memo = after :=
        congrArg (fun answered => answered.world.memo) asked
      rw [same, learns.failed error inquired]
    · intro between later same world
      have further := Reflects.askAll answered.world
        (reflects.step constant question state.world) constant between
      exact unasked further (further.answer?_of_failed same inquired) world

/-- A file with two properties, the second of which cannot be read. -/
def unreadableSecond (query : Query) : Except FactError Output :=
  if query.arguments.contains "proplist" then .ok ⟨some 0, "  mime-type\n  eol-style\n", ""⟩
  else if query.arguments.contains "eol-style" then .ok ⟨some 1, "", "E200017"⟩
  else .ok ⟨some 0, "trunk/\n a.txt\n", ""⟩

/-- A folder is not read again under another name of it, and properties are read again from the
first query when the last one failed. -/
theorem failed_properties_asked_again :
    let repository : Repository := ⟨"/srv/repo", .revision 5, none, "svnlook", "svn"⟩
    let runner : Runner Unit := .scripted unreadableSecond
    let facts := repository.toFacts runner
    let state := facts.askAll [.entries "trunk", .properties "a.txt"] ⟨.blank, ()⟩
    runner.Constant ∧
      (facts.answer (.entries "/trunk/") state).queries = [] ∧
      (facts.answer (.properties "a.txt") state).queries =
        [⟨"svnlook", ["proplist", "/srv/repo", "a.txt", "-r", "5"]⟩,
          ⟨"svnlook", ["propget", "/srv/repo", "mime-type", "a.txt", "-r", "5"]⟩,
          ⟨"svnlook", ["propget", "/srv/repo", "eol-style", "a.txt", "-r", "5"]⟩] := by
  intro repository runner facts state
  have constant : runner.Constant := Runner.constant_scripted unreadableSecond
  have listed : facts.Had [.entries "trunk", .properties "a.txt"] ⟨.blank, ()⟩ (.entries "trunk") :=
    ⟨[], .entries "trunk", [.properties "a.txt"], rfl, by decide +kernel, ["a.txt"], rfl⟩
  have folder := memory_unseen repository runner constant ()
    [.entries "trunk", .properties "a.txt"] (.entries "/trunk/")
  have failing := memory_unseen repository runner constant () [.entries "trunk"]
    (.properties "a.txt")
  obtain ⟨-, again⟩ := failing.2.2.2 (.queryFailed ⟨"svnlook",
    ["propget", "/srv/repo", "eol-style", "a.txt", "-r", "5"]⟩ (some 1) "E200017") rfl
  refine ⟨constant, folder.2.1 (.entries "trunk") (by decide +kernel) listed, ?_⟩
  exact (again [] (.properties "a.txt") rfl ()).trans (by decide +kernel)

end Repository

end HookRules
