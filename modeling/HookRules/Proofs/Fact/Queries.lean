import HookRules.Proofs.Fact.Memory
import Mathlib.Data.List.Nodup

/-!
Which queries serve which question. The queries of two questions differ unless both are remembered
under one key, so that remembering the answers saves every query from being made twice. The log of
a revision is the exception: it is not remembered, and its query is made whenever it is asked for.
-/

set_option autoImplicit false

namespace HookRules

private theorem repositoryUrl_ne (path : String) : repositoryUrl path ≠ path := by
  intro same
  have length := congrArg String.length same
  simp only [repositoryUrl] at length
  split at length <;> simp at length

namespace Repository

variable {World : Type}

/-- The query is one of those that an inquiry into the question can make. -/
def Serves (repository : Repository) : Question → Query → Prop
  | .author, query => query = repository.subjectQuery "author" []
  | .logMessage, query => query = repository.subjectQuery "log" []
  | .changes, query => query = repository.subjectQuery "changed" []
  | .content path, query => query = repository.subjectQuery "cat" [path]
  | .properties path, query => query = repository.subjectQuery "proplist" [path] ∨
      ∃ name, query = repository.subjectQuery "propget" [name, path]
  | .lockOwner path, query => query = repository.lookQuery "lock" [path] []
  | .revisionLog verbose, query => ∃ revision, repository.subject.revision? = some revision ∧
      query = repository.logQuery revision verbose
  | .entries folder, query => query = repository.subjectQuery "tree"
      ((if (folderKey folder).isEmpty then [] else [folderKey folder]) ++ ["--non-recursive"])

/-- Each listing of properties names a property at most once. -/
def NamesOnce (repository : Repository) (runner : Runner World) : Prop :=
  ∀ path world output, (runner (repository.subjectQuery "proplist" [path]) world).1 = .ok output →
    output.succeeded → (namesOf output.stdout).Nodup

variable {repository : Repository} {runner : Runner World}

/-- What a query asks for, under the key that it is remembered under. An entry of the log has no
key. -/
def keyOf (repository : Repository) (query : Query) : Option Question :=
  match query.arguments with
  | "author" :: _ => some .author
  | "log" :: place :: _ => if place = repository.path then some .logMessage else none
  | "changed" :: _ => some .changes
  | "cat" :: _ :: path :: _ => some (.content path)
  | "proplist" :: _ :: path :: _ => some (.properties path)
  | "propget" :: _ :: _ :: path :: _ => some (.properties path)
  | "lock" :: _ :: path :: _ => some (.lockOwner path)
  | "tree" :: _ :: folder :: "--non-recursive" :: _ => some (.entries folder)
  | "tree" :: _ => some (.entries "")
  | _ => none

private theorem keyOf_root : repository.keyOf (repository.subjectQuery "tree" ["--non-recursive"]) =
    some (.entries "") := by
  simp only [subjectQuery, lookQuery]
  cases repository.subject with
  | youngest => rfl
  | revision number => rfl
  | transaction name => rfl

private theorem Serves.keyOf_eq {question : Question} {query : Query}
    (serves : repository.Serves question query) : repository.keyOf query = question.key? := by
  cases question with
  | author => cases serves; rfl
  | logMessage =>
      cases serves
      exact if_pos rfl
  | changes => cases serves; rfl
  | content path => cases serves; rfl
  | properties path =>
      rcases serves with rfl | ⟨name, rfl⟩
      · rfl
      · rfl
  | lockOwner path => cases serves; rfl
  | revisionLog verbose =>
      obtain ⟨revision, -, rfl⟩ := serves
      exact if_neg (repositoryUrl_ne repository.path)
  | entries folder =>
      cases serves
      by_cases root : (folderKey folder).isEmpty
      · have empty : folderKey folder = "" := String.isEmpty_iff.mp root
        rw [if_pos root, Question.key?, empty]
        exact keyOf_root
      · rw [if_neg root]
        rfl

private theorem ask_queries (query : Query) (world : World) :
    (ask runner query world).queries = [query] := by
  rw [ask]
  split
  · rfl
  · split <;> rfl

private theorem propertyValues_queries {path : String} (names : List String) (world : World) :
    ((repository.propertyValues runner path names world).queries).Sublist
      (names.map fun name => repository.subjectQuery "propget" [name, path]) := by
  induction names generalizing world with
  | nil => exact .slnil
  | cons name rest ih =>
      rw [propertyValues, Answered.andThen, ask_queries]
      split
      · exact List.sublist_append_left [_] _
      · exact (ih _).cons_cons _

private theorem inquire_single (repository : Repository) (runner : Runner World)
    {question : Question} (other : ∀ path, question ≠ .properties path) (world : World) :
    (repository.inquire runner question world).queries = [] ∨
      ∃ query, (repository.inquire runner question world).queries = [query] ∧
        repository.Serves question query := by
  cases question with
  | changes =>
      simp only [inquire]
      split
      · exact .inl rfl
      · exact .inr ⟨_, ask_queries _ world, rfl⟩
  | properties path => exact absurd rfl (other path)
  | revisionLog verbose =>
      simp only [inquire, revisionLog]
      cases known : repository.subject.revision? with
      | none => exact .inl rfl
      | some revision => exact .inr ⟨_, ask_queries _ world, revision, known, rfl⟩
  | _ => exact .inr ⟨_, ask_queries _ world, rfl⟩

private theorem inquire_properties (repository : Repository) (runner : Runner World) (path : String)
    (world : World) :
    ∃ names : List String, ((repository.inquire runner (.properties path) world).queries).Sublist
        (repository.subjectQuery "proplist" [path] ::
          names.map fun name => repository.subjectQuery "propget" [name, path]) ∧
      (repository.NamesOnce runner → names.Nodup) := by
  rw [inquire, properties, Answered.andThen, ask]
  rcases asked : runner (repository.subjectQuery "proplist" [path]) world with ⟨_ | output, after⟩
  · exact ⟨[], .refl _, fun _ => .nil⟩
  · by_cases succeeded : output.succeeded
    · refine ⟨namesOf output.stdout, ?_, ?_⟩
      · simp only [succeeded, if_true]
        exact (propertyValues_queries (namesOf output.stdout) after).cons_cons _
      · intro namesOnce
        exact namesOnce path world output (by rw [asked]) succeeded
    · refine ⟨[], ?_, fun _ => .nil⟩
      simp [succeeded]

theorem inquire_serves (question : Question) (world : World) :
    ∀ query ∈ (repository.inquire runner question world).queries,
      repository.Serves question query := by
  intro query member
  by_cases other : ∀ path, question ≠ .properties path
  · obtain none | ⟨asked, single, serves⟩ := inquire_single repository runner other world
    · rw [none] at member
      cases member
    · rw [single] at member
      rwa [List.mem_singleton.mp member]
  · obtain ⟨path, rfl⟩ := Classical.not_forall_not.mp other
    obtain ⟨names, listed, -⟩ := inquire_properties repository runner path world
    rcases List.mem_cons.mp (listed.subset member) with rfl | value
    · exact .inl rfl
    · obtain ⟨name, -, rfl⟩ := List.mem_map.mp value
      exact .inr ⟨name, rfl⟩

theorem inquire_nodup (namesOnce : repository.NamesOnce runner) (question : Question)
    (world : World) : (repository.inquire runner question world).queries.Nodup := by
  by_cases other : ∀ path, question ≠ .properties path
  · obtain none | ⟨asked, single, -⟩ := inquire_single repository runner other world
    · simp [none]
    · simp [single]
  · obtain ⟨path, rfl⟩ := Classical.not_forall_not.mp other
    obtain ⟨names, listed, once⟩ := inquire_properties repository runner path world
    refine listed.nodup (List.nodup_cons.mpr ⟨?_, ?_⟩)
    · intro member
      obtain ⟨name, -, same⟩ := List.mem_map.mp member
      simp [subjectQuery, lookQuery] at same
    · refine List.Nodup.map (fun first second same => ?_) (once namesOnce)
      simpa [subjectQuery, lookQuery] using same

/-- Only entries of the log are asked for more than once, and only where they may be. -/
def Sparing (repository : Repository) (logs : Prop) (asked : List Query) : Prop :=
  ∀ query, 1 < asked.count query → logs ∧ ∃ verbose, repository.Serves (.revisionLog verbose) query

/-- What was asked of a repository is remembered, entries of the log apart. -/
structure Thrifty (repository : Repository) (logs : Prop) (memo : Memo) (asked : List Query) :
    Prop where
  tidy : memo.Tidy repository.subject
  sparing : repository.Sparing logs asked
  remembered : ∀ query ∈ asked, ∃ question, repository.Serves question query ∧
    (question.key? = none ∨ (memo.answer? question).isSome)

theorem thrifty_blank (repository : Repository) (logs : Prop) :
    repository.Thrifty logs .blank [] where
  tidy := Memo.tidy_blank repository.subject
  sparing := by
    intro query twice
    cases twice
  remembered := by
    intro query member
    cases member

section Step

variable {logs : Prop} {memo : Memo} {asked : List Query} {question : Question}

private theorem Thrifty.sparing_inquire (thrifty : repository.Thrifty logs memo asked)
    (namesOnce : repository.NamesOnce runner) (permitted : question.key? = none → logs)
    (unknown : memo.answer? question = none) (world : World) :
    repository.Sparing logs (asked ++ (repository.inquire runner question world).queries) := by
  intro query twice
  rw [List.count_append] at twice
  have once := List.nodup_iff_count_le_one.mp
    (inquire_nodup namesOnce question world) query
  by_cases member : query ∈ (repository.inquire runner question world).queries
  · have serves := inquire_serves question world query member
    cases kept : question.key? with
    | none =>
        refine ⟨permitted kept, ?_⟩
        cases question with
        | revisionLog verbose => exact ⟨verbose, serves⟩
        | _ => cases kept
    | some key =>
        have fresh : query ∉ asked := by
          intro earlier
          obtain ⟨other, served, recalled⟩ := thrifty.remembered query earlier
          have same : other.key? = some key :=
            served.keyOf_eq.symm.trans (serves.keyOf_eq.trans kept)
          rcases recalled with unkept | recalled
          · rw [unkept] at same
            cases same
          · rw [Memo.answer?_isSome_of_key? memo same kept, unknown] at recalled
            cases recalled
        rw [List.count_eq_zero.mpr fresh] at twice
        omega
  · rw [List.count_eq_zero.mpr member] at twice
    exact thrifty.sparing query (by omega)

theorem Thrifty.learn (thrifty : repository.Thrifty logs memo asked) {queries : List Query}
    (sparing : repository.Sparing logs (asked ++ queries))
    (serve : ∀ query ∈ queries, repository.Serves question query) {answer : question.Answer}
    {after : Memo} (learns : memo.Learns repository.subject question (.ok answer) after) :
    repository.Thrifty logs after (asked ++ queries) := by
  refine ⟨learns.tidy, sparing, ?_⟩
  intro query member
  rcases List.mem_append.mp member with earlier | added
  · obtain ⟨other, serves, recalled⟩ := thrifty.remembered query earlier
    refine ⟨other, serves, recalled.imp_right fun recalled => ?_⟩
    rw [learns.learned]
    exact Memo.answer?_keep_isSome recalled answer
  · refine ⟨question, serve query added, ?_⟩
    cases kept : question.key? with
    | none => exact .inl rfl
    | some key =>
        refine .inr ?_
        rw [learns.learned, Memo.learn, Memo.answer?_keep kept]
        rfl

theorem Thrifty.answer (thrifty : repository.Thrifty logs memo asked)
    (namesOnce : repository.NamesOnce runner) (permitted : question.key? = none → logs)
    (world : World) :
    let answered := (repository.toFacts runner).answer question ⟨memo, world⟩
    repository.Sparing logs (asked ++ answered.queries) ∧
      ∀ answer, answered.result = .ok answer →
        repository.Thrifty logs answered.world.memo (asked ++ answered.queries) := by
  cases recalled : memo.answer? question with
  | some answer =>
      rw [answer_recalled thrifty.tidy recalled]
      simpa [Answered.known] using ⟨thrifty.sparing, thrifty⟩
  | none =>
      obtain ⟨after, learns, inquired⟩ := answer_unknown runner thrifty.tidy recalled world
      rw [inquired]
      have sparing := thrifty.sparing_inquire namesOnce permitted recalled world
      refine ⟨sparing, ?_⟩
      intro answer had
      rw [show (repository.inquire runner question world).result = .ok answer from had] at learns
      exact thrifty.learn sparing (inquire_serves question world) learns

end Step

end Repository

end HookRules
