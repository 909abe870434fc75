import HookRules.Machine.Host
import HookRules.Proofs.Fact.Queries
import HookRules.Proofs.Run.Upkeep

/-!
The queries of a whole run. Whatever rules ask, and however often they are evaluated, no query is
made twice but for entries of the log.
-/

set_option autoImplicit false

namespace HookRules

private theorem Journal.queries_append (first second : Journal) :
    Journal.queries (first ++ second) = Journal.queries first ++ Journal.queries second :=
  List.filterMap_append

private theorem Journal.queries_asked (queries : List Query) :
    Journal.queries (queries.map .asked) = queries := by
  simp [Journal.queries, List.filterMap_map, Function.comp_def, Entry.query?]

variable {World : Type}

private theorem Run.queries_record [Scribe World] {run : Run World} {entry : Entry}
    (silent : entry.query? = none) :
    Journal.queries (run.record entry).journal = Journal.queries run.journal := by
  rw [Run.record_journal, Journal.queries_append]
  simp [Journal.queries, silent]

namespace Repository

/-- As long as a run goes on, everything that was asked in it is remembered in its world, entries of
the log apart; and wherever it ends, no other query was made twice. -/
def upkeep (repository : Repository) (logs : Prop) : Upkeep (Remembering World) where
  going := fun run => repository.Thrifty logs run.world.memo (Journal.queries run.journal)
  final := fun run => repository.Sparing logs (Journal.queries run.journal)

variable {repository : Repository} {logs : Prop} {runner : Runner World}

private theorem upholds_ask (namesOnce : repository.NamesOnce runner) (question : Question)
    (permitted : question.key? = none → logs) :
    (Act.ask ((repository.toFacts runner).answer question)).Upholds (repository.upkeep logs) := by
  refine ⟨fun run thrifty => ?_⟩
  obtain ⟨sparing, kept⟩ := thrifty.answer namesOnce permitted run.world.world
  rw [← Journal.queries_asked ((repository.toFacts runner).answer question _).queries,
    ← Journal.queries_append] at sparing kept
  simp only [Act.ask, ExceptT.run]
  cases answered : ((repository.toFacts runner).answer question run.world).result with
  | ok answer => exact kept answer answered
  | error error => exact sparing

theorem upholds_reading [Scribe World] (namesOnce : repository.NamesOnce runner) (event : Event)
    (settings : Settings) (mailer : Mailer World) (channel : Channel) (host : Host World) :
    Setting.Upholds ⟨repository.toFacts runner, event, settings, mailer.remembering, channel,
      host.remembering⟩ (repository.upkeep logs) where
  ends := fun _ thrifty => thrifty.sparing
  recorded := by
    intro entry run silent thrifty
    change repository.Thrifty logs run.world.memo (Journal.queries (run.record entry).journal)
    rw [Run.queries_record silent]
    exact thrifty
  blamed := by
    intro notice run sparing
    change repository.Sparing logs (Journal.queries (run.note notice).journal)
    rw [Run.note, Run.queries_record rfl]
    exact sparing
  asked := fun question other => upholds_ask namesOnce question fun unkept => by
    cases question with
    | revisionLog verbose => exact absurd rfl (other verbose)
    | _ => cases unkept
  delivered := fun _ => ⟨fun _ thrifty => thrifty⟩
  executed := fun _ _ => ⟨fun _ thrifty => thrifty⟩
  wrote := fun _ _ => ⟨fun _ thrifty => thrifty⟩

end Repository

theorem run_queries [Scribe World] (setting : Setting World) (registry : Registry World)
    (root : Element) (tokens : Tokens) (run : Run World) :
    Journal.queries (Evaluation.run setting registry root tokens run).2.journal =
      Journal.queries (Evaluation.execute setting registry root tokens run).2.journal := by
  rw [Evaluation.run, Step.run_bind]
  rcases Evaluation.execute setting registry root tokens run with ⟨⟨outcome, final⟩, after⟩
  cases outcome with
  | code value => rfl
  | internal failure =>
      change Journal.queries (Evaluation.tellInternal setting after).2.journal = _
      rw [Evaluation.tellInternal]
      cases setting.channel with
      | working =>
          change Journal.queries (after.record (.told (internalMessage ++ "\n"))).journal = _
          exact Run.queries_record rfl
      | broken cause =>
          change Journal.queries (after.note (.untold (.channelClosed cause))).journal = _
          exact Run.queries_record rfl

/-- In a whole run over one repository, whatever the document holds, only a query for an entry of
the log is ever made twice, and only where the document has a rule that mails the log. -/
theorem run_asks_sparingly [Scribe World] (repository : Repository) (runner : Runner World)
    (namesOnce : repository.NamesOnce runner) (event : Event) (settings : Settings)
    (mailer : Mailer World) (channel : Channel) (host : Host World) (root : Element) (tokens : Tokens)
    (world : World) :
    let setting : Setting (Remembering World) :=
      ⟨repository.toFacts runner, event, settings, mailer.remembering, channel, host.remembering⟩
    let ended := (Evaluation.run setting .standard root tokens ⟨⟨.blank, world⟩, []⟩).2
    ∀ query, 1 < (Journal.queries ended.journal).count query →
      (∃ element ∈ root.nodes, element.name = "SendLogSmtp") ∧
        ∃ revision verbose, repository.subject.revision? = some revision ∧
          query = repository.logQuery revision verbose := by
  intro setting ended
  have upholds (logs : Prop) : setting.Upholds (repository.upkeep logs) :=
    Repository.upholds_reading namesOnce event settings mailer channel host
  have sparing : (repository.upkeep (∃ element ∈ root.nodes, element.name = "SendLogSmtp")).final
      (Evaluation.execute setting .standard root tokens ⟨⟨.blank, world⟩, []⟩).2 :=
    Evaluation.execute_final (upholds _) root tokens
      (fun mails verbose => Repository.upholds_ask namesOnce (.revisionLog verbose) fun _ => mails)
      (Repository.thrifty_blank repository _)
  intro query twice
  rw [run_queries] at twice
  obtain ⟨mails, verbose, revision, dated, same⟩ := sparing query twice
  exact ⟨mails, revision, verbose, dated, same⟩

theorem Repository.namesOnce_scripted {repository : Repository} {output : Output}
    (once : (namesOf output.stdout).Nodup) :
    repository.NamesOnce (.scripted fun _ => .ok output : Runner World) := by
  intro path world printed same _
  cases same
  exact once

/-- Two filters ask for the owner of one lock, and the query is made once. -/
theorem lock_owner_asked_once :
    let repository : Repository := ⟨"/srv/repo", .youngest, none, "svnlook", "svn"⟩
    let runner : Runner Unit := .scripted fun _ => .ok ⟨some 0, "Owner: eve\n", ""⟩
    let setting : Setting (Remembering Unit) := ⟨repository.toFacts runner, default, .defaults,
      Mailer.accepting.remembering, .working, Host.idle.remembering⟩
    let held : Element := ⟨"FilterLockOwner", [], none, [], .nowhere⟩
    let root : Element := ⟨"Actions", [], none, [held, held], .nowhere⟩
    let tokens := Tokens.ofList [("Path", "a.txt"), ("User", "eve")]
    let ended := (Evaluation.run setting .standard root tokens ⟨⟨.blank, ()⟩, []⟩).2
    repository.NamesOnce runner ∧
      Journal.queries ended.journal = [⟨"svnlook", ["lock", "/srv/repo", "a.txt"]⟩] ∧
      (Journal.queries ended.journal).Nodup := by
  intro repository runner setting held root tokens ended
  have namesOnce : repository.NamesOnce runner := Repository.namesOnce_scripted (by decide +kernel)
  refine ⟨namesOnce, by decide +kernel, List.nodup_iff_count_le_one.mpr fun query => ?_⟩
  by_contra twice
  obtain ⟨⟨element, member, mails⟩, _⟩ := run_asks_sparingly repository runner namesOnce default
    .defaults .accepting .working .idle root tokens () query
    (Nat.lt_of_not_le twice)
  have unmailed : ∀ element ∈ root.nodes, element.name ≠ "SendLogSmtp" := by decide +kernel
  exact unmailed element member mails

/-- Two mails of the log, and its query is made for each. -/
theorem log_asked_for_twice :
    let repository : Repository := ⟨"/srv/repo", .revision 5, none, "svnlook", "svn"⟩
    let runner : Runner Unit := .scripted fun _ => .ok ⟨some 0, "r5\n", ""⟩
    let setting : Setting (Remembering Unit) := ⟨repository.toFacts runner, default, .defaults,
      Mailer.accepting.remembering, .working, Host.idle.remembering⟩
    let mail : Element := ⟨"SendLogSmtp", [("server", "mail")], none,
      [⟨"FromAddress", [], some "svn@site", [], .nowhere⟩,
        ⟨"ToAddress", [], some "eve@site", [], .nowhere⟩,
        ⟨"Subject", [], some "log", [], .nowhere⟩], .nowhere⟩
    let root : Element := ⟨"Actions", [], none, [mail, mail], .nowhere⟩
    let ended := (Evaluation.run setting .standard root (.ofList []) ⟨⟨.blank, ()⟩, []⟩).2
    repository.NamesOnce runner ∧
      Journal.queries ended.journal = [repository.logQuery 5 true, repository.logQuery 5 true] ∧
      ¬ (Journal.queries ended.journal).Nodup := by
  intro repository runner setting mail root ended
  exact ⟨Repository.namesOnce_scripted (by decide +kernel), by decide +kernel, by decide +kernel⟩

end HookRules
