import HookRules.Proofs.Fact.Answers
import HookRules.Proofs.Rule.Action
import HookRules.Proofs.Rule.Filter
import HookRules.Proofs.Rule.Registry
import HookRules.Proofs.Run.Derivation

/-!
What the client is told in a run. It is told one text at most, as the last thing that happens: the
message or the error output of the rule that ended the evaluation, or, where the evaluation
failed, that it failed and nothing more.
-/

set_option autoImplicit false

namespace HookRules

/-- How an element ends an evaluation with a code other than zero: the last entries it adds to the
journal, of which the very last tells the client something, and the world that it leaves. -/
inductive Ending {World : Type} [Scribe World] (host : Host World) (element : Element)
    (scope : Tokens) :
    Int → Journal → World → Prop
  /-- The element tells its own message. -/
  | refused {source code text world} :
      element.name = "SendError" → element.text = some source →
      element.number? "exitCode" Action.maxCode = .ok code →
      scope.expand (Text.dedent source) = .ok text →
      Ending host element scope (code.getD 1 : Nat) [.told text] world
  /-- The element runs a command, and tells what the command wrote to its error output. -/
  | stopped {source level line program arguments before output after} {code : Int} :
      element.name = "ExecuteCmd" → element.text = some source →
      element.number? "errorLevel" Text.maxInt32 = .ok level →
      scope.expand (Text.trim source) = .ok line →
      Command.words? line = some (program :: arguments) →
      host.execute program arguments before = (.ok output, after) → output.code = some code →
      (level.getD 1 : Nat) ≤ code →
      Ending host element scope (min code Action.maxCode)
        [.started program arguments, .told output.stderr]
        (Scribe.keep (.told output.stderr) after)

/-- What an evaluation of some elements comes to for the client. The last visited element decides
about codes other than zero; `notice` is what a failure adds to the journal at the end. -/
inductive Verdict {World : Type} [Scribe World] (host : Host World) (visits : List Visit)
    (world : World) (notice : Journal) : Outcome → Journal → Prop
  | passed {added} : (∀ entry ∈ added, entry.Untold) → Verdict host visits world notice .done added
  | ended {element scope code added ending} :
      (∀ entry ∈ added, entry.Untold) → visits.getLast? = some ⟨element, scope⟩ →
      Ending host element scope code ending world →
      Verdict host visits world notice (.code code) (added ++ ending)
  | failed {failure added} :
      (∀ entry ∈ added, entry.Untold) →
      Verdict host visits world notice (.internal failure) (added ++ notice)

private theorem Outcome.exitCode_of_internal {outcome : Outcome}
    (internal : outcome.isInternal = true) :
    outcome.exitCode = 255 := by
  cases outcome with
  | code value => cases internal
  | internal failure => rfl

section Verdict

variable {World : Type} [Scribe World] {host : Host World} {visits : List Visit} {world : World}
  {notice added : Journal} {outcome : Outcome}

theorem Ending.code_range {element : Element} {scope : Tokens} {code : Int} {ending : Journal}
    (ended : Ending host element scope code ending world) : 1 ≤ code ∧ code ≤ Action.maxCode := by
  cases ended with
  | refused named text number expanded =>
      have range := Element.number?_getD_range number (by decide)
      omega
  | stopped named text number expanded words executed ended reached =>
      have range := Element.number?_getD_range number (by decide)
      have above : (1 : Int) ≤ Action.maxCode := by decide
      omega

theorem Verdict.after {earlier : Journal} {before : List Visit}
    (quiet : ∀ entry ∈ earlier, entry.Untold)
    (verdict : Verdict host visits world notice outcome added) :
    Verdict host (before ++ visits) world notice outcome (earlier ++ added) := by
  cases verdict with
  | passed untold => exact .passed (Entry.untold_append quiet untold)
  | ended untold last ended =>
      rw [← List.append_assoc]
      refine .ended (Entry.untold_append quiet untold) ?_ ended
      rw [List.getLast?_append, last]
      rfl
  | failed untold =>
      rw [← List.append_assoc]
      exact .failed (Entry.untold_append quiet untold)

private theorem Verdict.delay {earlier : Journal} (quiet : ∀ entry ∈ earlier, entry.Untold)
    (verdict : Verdict host visits world notice outcome added) :
    Verdict host visits world notice outcome (earlier ++ added) := by
  rw [← List.nil_append visits]
  exact verdict.after quiet

private theorem Verdict.untold_of_passed (verdict : Verdict host visits world notice outcome added)
    (passes : outcome.stops = false) : ∀ entry ∈ added, entry.Untold := by
  cases verdict with
  | passed untold => exact untold
  | ended untold last ended =>
      have := ended.code_range
      simp only [Outcome.stops, ne_eq, decide_not, Bool.not_eq_eq_eq_not, Bool.not_false,
        decide_eq_true_eq] at passes
      omega
  | failed => cases passes

private theorem Verdict.announce {after : World}
    (verdict : Verdict host visits world [] outcome added)
    (notice : Journal) (same : outcome.isInternal = false → after = world) :
    Verdict host visits after notice outcome
      (added ++ if outcome.isInternal then notice else []) := by
  cases verdict with
  | passed untold =>
      simp only [Outcome.done, Outcome.isInternal, Bool.false_eq_true, ↓reduceIte, List.append_nil]
      exact .passed untold
  | ended untold last ended =>
      simp only [Outcome.isInternal, Bool.false_eq_true, ↓reduceIte, List.append_nil]
      rw [same rfl]
      exact .ended untold last ended
  | failed untold =>
      simp only [Outcome.isInternal, ↓reduceIte, List.append_nil]
      exact .failed untold

private theorem Verdict.outcome_range (verdict : Verdict host visits world notice outcome added) :
    outcome.isInternal ∨ ∃ code, outcome = .code code ∧ 0 ≤ code ∧ code ≤ Action.maxCode := by
  cases verdict with
  | passed untold => exact .inr ⟨0, rfl, by decide, by decide⟩
  | ended untold last ended =>
      obtain ⟨positive, bounded⟩ := ended.code_range
      exact .inr ⟨_, rfl, by omega, bounded⟩
  | failed untold => exact .inl rfl

end Verdict

section Evaluation

variable {World : Type} [Scribe World] {setting : Setting World}

private theorem verdict_of_failure {visits : List Visit} {world : World} {failure : Failure}
    {added : Journal} (untold : ∀ entry ∈ added, entry.Untold) :
    Verdict setting.host visits world [] (.internal failure) added := by
  rw [← List.append_nil added]
  exact .failed untold

private theorem untold_asked (query : Query) : (Entry.asked query).Untold := rfl

private theorem journal_of_visit {element : Element} {run after : Run World} {added : Journal}
    (extended : after.journal = (element.enter run).journal ++ added) (notice : Notice) :
    (after.note notice).journal = run.journal ++
      ([.noted (.evaluating element.name element.span.line)] ++ (added ++ [.noted notice])) := by
  rw [Run.note_journal, extended, Element.enter, Run.note_journal]
  simp only [List.append_assoc]

private theorem verdict_of_report {element : Element} {tokens final : Tokens} {action : Action}
    {outcome : Outcome} {added : Journal} {world : World}
    (made : Action.MadeFrom element element.name action)
    (report : Action.Report setting.host tokens action (.ok (outcome, final)) added world) :
    Verdict setting.host [⟨element, tokens⟩] world [] outcome added := by
  generalize named : element.name = name at made
  cases report with
  | passed untold => exact .passed untold
  | refused untold expanded =>
      cases made with
      | sendError text visible number =>
          exact .ended untold rfl (.refused named text number expanded)
  | stopped untold expanded words executed ended reached =>
      cases made with
      | execute text visible number =>
          exact .ended untold rfl
            (.stopped named text number expanded words executed ended reached)

theorem Evaluates.verdict {task : Task World} {tokens final : Tokens} {run after : Run World}
    {visits : List Visit} {outcome : Outcome}
    (evaluation : Evaluates setting .standard task tokens run visits outcome final after)
    (working : setting.channel = .working) (registered : task.Registered .standard) :
    ∃ added, after.journal = run.journal ++ added ∧
      Verdict setting.host visits after.world [] outcome added := by
  induction evaluation with
  | unbuilt unbuilt =>
      exact ⟨_, List.append_assoc _ _ _, verdict_of_failure
        (Entry.untold_append (Entry.untold_noted _) (Entry.untold_noted _))⟩
  | @performed _ element rule act tokens run outcome final after built acts performed =>
      obtain ⟨filter, rfl⟩ | ⟨action, rfl, made⟩ := Registry.standard_built registered built
      · cases acts
      · cases acts
        obtain ⟨added, extended, report⟩ :=
          Action.perform_reports setting working tokens action (element.enter run)
        rw [performed] at extended report
        rw [Element.enter, Run.note_journal, List.append_assoc] at extended
        refine ⟨_, extended, ?_⟩
        exact (verdict_of_report made report).delay (Entry.untold_noted _)
  | @unperformed _ element rule act tokens run failure after built acts performed =>
      obtain ⟨filter, rfl⟩ | ⟨action, rfl, made⟩ := Registry.standard_built registered built
      · cases acts
      · cases acts
        obtain ⟨added, extended, report⟩ :=
          Action.perform_reports setting working tokens action (element.enter run)
        rw [performed] at extended report
        cases report with
        | failed untold =>
            refine ⟨_, journal_of_visit extended _, verdict_of_failure ?_⟩
            exact Entry.untold_append (Entry.untold_noted _)
              (Entry.untold_append untold (Entry.untold_noted _))
  | @unselected _ element filter tokens run failure after built selected =>
      obtain ⟨added, extended, untold, _⟩ := Condition.select_confined untold_asked setting tokens
        filter.condition (element.enter run)
      rw [selected] at extended
      refine ⟨_, journal_of_visit extended _, verdict_of_failure ?_⟩
      exact Entry.untold_append (Entry.untold_noted _)
        (Entry.untold_append untold (Entry.untold_noted _))
  | @unmatched _ element filter tokens run after built selected =>
      obtain ⟨added, extended, untold, _⟩ := Condition.select_confined untold_asked setting tokens
        filter.condition (element.enter run)
      rw [selected] at extended
      refine ⟨_, journal_of_visit extended _, .passed ?_⟩
      exact Entry.untold_append (Entry.untold_noted _)
        (Entry.untold_append untold (Entry.untold_noted _))
  | @matched _ element filter items tokens run middle visits outcome final after built _ selected _
      ih =>
      obtain ⟨added, extended, untold, _⟩ := Condition.select_confined untold_asked setting tokens
        filter.condition (element.enter run)
      rw [selected] at extended
      obtain ⟨more, continued, verdict⟩ := ih trivial
      rw [extended, Element.enter, Run.note_journal, List.append_assoc, List.append_assoc]
        at continued
      have quiet := Entry.untold_append (Entry.untold_noted
        (.evaluating element.name element.span.line)) untold
      have visited : Verdict setting.host ([⟨element, tokens⟩] ++ visits) after.world [] outcome
          (([.noted (.evaluating element.name element.span.line)] ++ added) ++ more) :=
        verdict.after quiet
      exact ⟨_, by rw [continued, List.append_assoc], visited⟩
  | noChildren => exact ⟨[], by simp, .passed (by simp)⟩
  | consumed taken _ ih => exact ih trivial
  | skipped kept unknown _ ih =>
      obtain ⟨added, extended, verdict⟩ := ih trivial
      rw [Run.note_journal, List.append_assoc] at extended
      exact ⟨_, extended, verdict.delay (Entry.untold_noted _)⟩
  | childStops kept known _ stops ih => exact ih known
  | childPasses kept known _ passes _ firstIH restIH =>
      obtain ⟨added, extended, verdict⟩ := firstIH known
      obtain ⟨more, continued, final⟩ := restIH trivial
      rw [extended, List.append_assoc] at continued
      exact ⟨_, continued, final.after (verdict.untold_of_passed passes)⟩
  | noItems => exact ⟨[], by simp, .passed (by simp)⟩
  | itemStops _ stops ih => exact ih trivial
  | itemPasses _ passes _ firstIH restIH =>
      obtain ⟨added, extended, verdict⟩ := firstIH trivial
      obtain ⟨more, continued, final⟩ := restIH trivial
      rw [extended, List.append_assoc] at continued
      exact ⟨_, continued, final.after (verdict.untold_of_passed passes)⟩

private theorem execute_verdict (working : setting.channel = .working) (root : Element)
    (tokens : Tokens) (run : Run World) :
    let executed := Evaluation.execute setting .standard root tokens run
    ∃ visits added, Evaluation.Visits setting .standard root tokens run visits ∧
      executed.2.journal = run.journal ++ added ∧
      Verdict setting.host visits executed.2.world [] executed.1.1 added := by
  obtain ⟨visits, visited⟩ := Evaluation.visits_exist setting .standard root tokens run
  refine ⟨visits, ?_⟩
  cases known : Registry.standard.lookup? root.name with
  | none =>
      refine ⟨[.noted (.failed (.rule (.unknownRule root.name root.span)) root.name root.span.line
        root.span.column)], visited, ?_⟩
      rw [Evaluation.execute_unknown known]
      exact ⟨rfl, verdict_of_failure (Entry.untold_noted _)⟩
  | some build =>
      have evaluation := visited
      simp only [Evaluation.Visits, known] at evaluation
      obtain ⟨added, extended, verdict⟩ := evaluation.verdict working known
      exact ⟨added, visited, extended, verdict⟩

theorem run_working (working : setting.channel = .working) (registry : Registry World)
    (root : Element) (tokens : Tokens) (run : Run World) :
    let executed := Evaluation.execute setting registry root tokens run
    let ended := Evaluation.run setting registry root tokens run
    ended.2 = if executed.1.1.isInternal then executed.2.record (.told (internalMessage ++ "\n"))
      else executed.2 := by
  dsimp only
  rw [Evaluation.run, Step.run_bind]
  rcases Evaluation.execute setting registry root tokens run with ⟨⟨outcome, final⟩, after⟩
  cases outcome with
  | code value => rfl
  | internal failure =>
      rw [Evaluation.tellInternal, working]
      rfl

theorem run_verdict (working : setting.channel = .working) (root : Element) (tokens : Tokens)
    (run : Run World) :
    let ended := Evaluation.run setting .standard root tokens run
    ∃ visits added, Evaluation.Visits setting .standard root tokens run visits ∧
      ended.2.journal = run.journal ++ added ∧
      Verdict setting.host visits ended.2.world [.told (internalMessage ++ "\n")] ended.1.1
        added := by
  obtain ⟨visits, added, visited, extended, verdict⟩ := execute_verdict working root tokens run
  have ended := run_working working .standard root tokens run
  dsimp only at ended ⊢
  rw [Evaluation.run_result, ended]
  refine ⟨visits, _, visited, ?_, verdict.announce [.told (internalMessage ++ "\n")] ?_⟩
  · rw [← List.append_assoc, ← extended]
    split
    · rfl
    · exact (List.append_nil _).symm
  · intro passes
    rw [if_neg (Bool.eq_false_iff.mp passes)]

/-- What a run comes to for the client that ends in an outcome and leaves `after`. The client is
told one text at most, as the last thing of all, and nothing where everything passed. -/
structure ToldOnce (setting : Setting World) (root : Element) (tokens : Tokens) (run : Run World)
    (outcome : Outcome) (after : Run World) : Prop where
  range : outcome.isInternal ∨ ∃ code, outcome = .code code ∧ 0 ≤ code ∧ code ≤ 254
  exit : outcome.exitCode = 255 ↔ outcome.isInternal
  told : ∃ visits added, Evaluation.Visits setting .standard root tokens run visits ∧
    (∀ visit ∈ visits, visit.element ∈ root.nodes) ∧ after.journal = run.journal ++ added ∧
    Verdict setting.host visits after.world [.told (internalMessage ++ "\n")] outcome added ∧
    (outcome = .done → ∀ entry ∈ added, entry.Untold)

/-- Where the client can be told, every run with the standard rules tells it once at most. -/
theorem run_tells_client_once (setting : Setting World) (working : setting.channel = .working)
    (root : Element) (tokens : Tokens) (run : Run World) :
    ToldOnce setting root tokens run (Evaluation.run setting .standard root tokens run).1.1
      (Evaluation.run setting .standard root tokens run).2 := by
  obtain ⟨visits, added, visited, extended, verdict⟩ := run_verdict working root tokens run
  refine ⟨verdict.outcome_range, ?_, visits, added, visited, visited.in_nodes, extended, verdict, ?_⟩
  · obtain internal | ⟨code, ended, _, bounded⟩ := verdict.outcome_range
    · exact ⟨fun _ => internal, fun _ => Outcome.exitCode_of_internal internal⟩
    · rw [ended]
      constructor
      · intro largest
        have : code = 255 := largest
        have : (Action.maxCode : Int) = 254 := rfl
        omega
      · intro internal
        cases internal
  · intro passed
    exact verdict.untold_of_passed (by rw [passed]; rfl)

theorem refusal_told_once :
    let setting := Setting.onPaper .none default
    let root : Element := ⟨"SendError", [("exitCode", "3")], some "  no ${USER}\n", [], .nowhere⟩
    let tokens := Tokens.ofList [("user", "eve")]
    setting.channel = .working ∧
      (Evaluation.run setting .standard root tokens ⟨(), []⟩).1.1 = .code 3 ∧
      (Evaluation.run setting .standard root tokens ⟨(), []⟩).2.journal =
        [.noted (.evaluating "SendError" 0), .noted (.telling 3 "no eve"), .told "no eve\n"] ∧
      ToldOnce setting root tokens ⟨(), []⟩
        (Evaluation.run setting .standard root tokens ⟨(), []⟩).1.1
        (Evaluation.run setting .standard root tokens ⟨(), []⟩).2 := by
  refine ⟨rfl, ?_, ?_, run_tells_client_once _ rfl _ _ _⟩
  · decide +kernel
  · decide +kernel

end Evaluation

end HookRules
