import HookRules.Proofs.Rule.Action
import HookRules.Proofs.Rule.Agreement
import HookRules.Proofs.Rule.Filter
import HookRules.Proofs.Rule.Registry
import HookRules.Proofs.Run.Locality
import HookRules.Proofs.Run.Plan

/-!
Evaluating a document is going through its plan, with the same effects in the same order. Facts may
remember what they were asked, as long as their answers stay the same.
-/

set_option autoImplicit false

namespace HookRules

/-- Facts that give the same answers throughout a run, in worlds that are the same but for what
asking leaves in them. What asking leaves makes no difference to the deeds that count, and those
do not change an answer. -/
structure Setting.Steady {World : Type} (setting : Setting World) (answers : Answers)
    (did : Entry → Prop) (same : World → World → Prop) : Prop
    extends DeedsAgree did same setting.host setting.host setting.mailer setting.mailer where
  asked : ∀ question first second, same first second →
    (setting.facts.answer question first).result = answers question ∧
      same (setting.facts.answer question first).world second

def Setting.given {World : Type} (setting : Setting World) (answers : Answers) : Setting World :=
  { setting with
    facts := answers.facts setting.facts.repository setting.facts.subject setting.facts.user }

/-- An extension that keeps the tokens, takes nothing out of the journal that does not count, and
comes to the same where settings agree on what counts. -/
structure Extension.Orderly {World : Type} (did : Entry → Prop)
    (perform : Setting World → Tokens → Act World (Outcome × Tokens)) : Prop where
  keeps : ∀ setting tokens, (perform setting tokens).Keeps tokens
  counted : ∀ setting tokens run,
    ((perform setting tokens).run run).2.Counted did → run.Counted did
  parallel : ∀ same left right, Setting.Agree did same left right → ∀ tokens,
    Act.Parallel did same (perform left tokens) (perform right tokens)

/-- Whatever the registry builds that is no rule of its own is orderly. -/
def Registry.Orderly {World : Type} (registry : Registry World) (did : Entry → Prop) : Prop :=
  ∀ name build element perform, registry.lookup? name = some build →
    build element = .ok (.custom perform) → Extension.Orderly did perform

theorem Registry.standard_orderly {World : Type} (did : Entry → Prop) :
    (standard : Registry World).Orderly did := by
  intro name build element perform known built
  obtain ⟨filter, same⟩ | ⟨action, same, _⟩ := standard_built known built <;> cases same

section Steady

variable {World : Type} {setting : Setting World} {answers : Answers} {did : Entry → Prop}
  {same : World → World → Prop}

theorem Setting.Steady.agrees (steady : setting.Steady answers did same) :
    setting.Agree did same (setting.given answers) where
  event := rfl
  settings := rfl
  channel := rfl
  subject := rfl
  connects := rfl
  facts := by
    intro question first second alike
    rw [Setting.given, Answers.answer_facts]
    exact steady.asked question first second alike
  executed := steady.executed
  wrote := steady.wrote
  mailed := steady.mailed

theorem Setting.steady_of_constant (constant : ∀ question world,
    (setting.facts.answer question world).result = answers question ∧
      (setting.facts.answer question world).world = world) : setting.Steady answers did Eq where
  asked := by
    rintro question world _ rfl
    exact constant question world
  executed := by
    rintro program arguments _ world _ rfl
    exact ⟨rfl, rfl⟩
  wrote := by
    rintro path text _ world _ rfl
    exact ⟨rfl, rfl⟩
  mailed := by
    rintro mail _ world _ rfl
    exact ⟨rfl, rfl⟩

theorem Setting.onPaper_steady (answers : Answers) (event : Event) (did : Entry → Prop) :
    (Setting.onPaper answers event).Steady answers did Eq := by
  refine steady_of_constant fun question world => ?_
  rw [onPaper, Answers.answer_facts]
  exact ⟨rfl, rfl⟩

theorem Setting.Steady.selects (steady : setting.Steady answers did same) (condition : Condition)
    (scope : Tokens) {before : Journal} {run other : Run World}
    (alike : run.Alike same before other) :
    ((condition.select setting scope).run run).1 =
        condition.selected answers setting.event scope ∧
      ((condition.select setting scope).run run).2.Alike same before other := by
  let beside : World → Unit → Prop := fun world _ => same world other.world
  have facts : setting.facts.Agree beside (Setting.onPaper answers setting.event).facts := by
    intro question first second related
    rw [Setting.onPaper, Answers.answer_facts]
    exact steady.asked question first other.world related
  have agreed : Act.Agrees (fun _ => True) beside (condition.select setting scope)
      (condition.select (Setting.onPaper answers setting.event) scope) :=
    Condition.select_agrees (by rfl) facts scope condition
  obtain ⟨result, ended⟩ := agreed.parallel (Journal.effects run.journal) run ⟨(), []⟩
    ⟨alike.worlds, (List.append_nil _).symm⟩ fun _ _ => trivial
  refine ⟨result, ended.worlds, ?_⟩
  rw [Condition.select_effects, alike.effects]

/-- Going through a plan comes to an outcome that some evaluation has, with the same effects, and
the tokens are as planned where nothing stops. -/
structure Follows (same : World → World → Prop) (setting : Setting World) (before : Journal)
    (plan : List (PlanStep World) × Tokens) (start : Run World) (outcome : Outcome) (final : Tokens)
    (after : Run World) : Prop where
  comes : (PlanStep.performAll setting plan.1 start).1 = outcome
  runs : after.Alike same before (PlanStep.performAll setting plan.1 start).2
  scope : outcome.stops = false → final = plan.2

theorem Run.Alike.enter {before : Journal} {run start : Run World}
    (alike : run.Alike same before start) (element : Element) :
    (element.enter run).Alike same before start :=
  alike.note_left _

section Follows

variable {before : Journal} {plan more : List (PlanStep World) × Tokens} {start : Run World}
  {outcome passed : Outcome} {final scope : Tokens} {run middle after : Run World}

theorem Follows.nothing (alike : run.Alike same before start) (scope : Tokens) :
    Follows same setting before ([], scope) start .done scope run :=
  ⟨rfl, alike, fun _ => rfl⟩

theorem Follows.single {act : Act World (Outcome × Tokens)} {step : PlanStep World}
    {result : Except Failure (Outcome × Tokens)}
    (parallel : Act.Parallel did same act (step.act setting)) (alike : run.Alike same before start)
    (performed : act.run run = (result, after)) (counted : after.Counted did)
    (keeps : (Act.outcome result).stops = false → final = scope) :
    Follows same setting before ([step], scope) start (Act.outcome result) final after := by
  have compared := parallel before run start alike
  rw [performed] at compared
  obtain ⟨same, ended⟩ := compared counted
  have single : PlanStep.performAll setting [step] start =
      (Act.outcome ((step.act setting).run start).1, ((step.act setting).run start).2) :=
    PlanStep.performAll_single step start
  refine ⟨?_, ?_, keeps⟩
  · rw [single, ← same]
  · rw [single]
    exact ended

theorem Follows.failed {failure : Failure} (alike : run.Alike same before start) (scope : Tokens) :
    Follows same setting before ([.failure failure], scope) start (.internal failure) scope run :=
  ⟨rfl, alike, fun _ => rfl⟩

theorem Follows.note_left (followed : Follows same setting before plan start outcome final after)
    (notice : Notice) :
    Follows same setting before plan start outcome final (after.note notice) :=
  ⟨followed.comes, followed.runs.note_left notice, followed.scope⟩

theorem Follows.stops (first : Follows same setting before plan start outcome final after)
    (stops : outcome.stops = true) (later : List (PlanStep World)) (scope held : Tokens) :
    Follows same setting before (plan.1 ++ later, scope) start outcome held after := by
  have hidden : PlanStep.performAll setting (plan.1 ++ later) start =
      PlanStep.performAll setting plan.1 start := by
    rw [PlanStep.performAll_append, first.comes, if_pos stops]
  refine ⟨?_, ?_, ?_⟩
  · rw [hidden, first.comes]
  · rw [hidden]
    exact first.runs
  · intro passes
    rw [stops] at passes
    cases passes

theorem Follows.append (first : Follows same setting before plan start passed scope middle)
    (passes : passed.stops = false)
    (later : Follows same setting before more (PlanStep.performAll setting plan.1 start).2 outcome
      final after) :
    Follows same setting before (plan.1 ++ more.1, more.2) start outcome final after := by
  have continued : PlanStep.performAll setting (plan.1 ++ more.1) start =
      PlanStep.performAll setting more.1 (PlanStep.performAll setting plan.1 start).2 := by
    rw [PlanStep.performAll_append, first.comes, if_neg (Bool.eq_false_iff.mp passes)]
  refine ⟨?_, ?_, later.scope⟩
  · rw [continued, later.comes]
  · rw [continued]
    exact later.runs

end Follows

variable {registry : Registry World}

private theorem planned_act (steady : setting.Steady answers did same)
    (orderly : registry.Orderly did) {element : Element} {build : Builder World} {rule : Rule World}
    {tokens : Tokens} {act : Act World (Outcome × Tokens)}
    (known : registry.lookup? element.name = some build)
    (built : build element = .ok rule) (acts : rule.act? setting tokens = some act) :
    (∃ name value, act = pure (.done, tokens.set name value) ∧
        planOf answers setting.event registry build element tokens = ([], tokens.set name value)) ∨
      ∃ step, planOf answers setting.event registry build element tokens = ([step], tokens) ∧
        Act.Parallel did same act (step.act (setting.given answers)) ∧ act.Keeps tokens := by
  cases rule with
  | filter filter => cases acts
  | action action =>
      cases acts
      by_cases sets : ∃ name value, action = .setToken name value
      · obtain ⟨name, value, rfl⟩ := sets
        exact .inl ⟨name, value, rfl, planOf_setToken built⟩
      · have other : ∀ name value, action ≠ .setToken name value :=
          fun name value same => sets ⟨name, value, same⟩
        exact .inr ⟨.action action tokens, planOf_action built other,
          (Action.perform_agrees steady.agrees tokens action).parallel,
          (Action.perform_settles setting tokens other).keeps⟩
  | custom perform =>
      cases acts
      have extension := orderly _ _ _ _ known built
      exact .inr ⟨.custom perform tokens, planOf_custom built,
        extension.parallel same setting (setting.given answers) steady.agrees tokens,
        extension.keeps setting tokens⟩

private theorem counted_act (orderly : registry.Orderly did) {element : Element}
    {build : Builder World} {rule : Rule World} {tokens : Tokens}
    {act : Act World (Outcome × Tokens)} (known : registry.lookup? element.name = some build)
    (built : build element = .ok rule) (acts : rule.act? setting tokens = some act)
    (run : Run World) (counted : (act.run run).2.Counted did) : run.Counted did := by
  cases rule with
  | filter filter => cases acts
  | action action =>
      cases acts
      exact counted.before ((Action.perform_local setting tokens action).extends rfl)
  | custom perform =>
      cases acts
      exact (orderly _ _ _ _ known built).counted setting tokens run counted

private theorem plan_items_cons (consumed : List String) (children : List Element)
    (bindings : Bindings) (rest : List Bindings) (tokens : Tokens) :
    let first := planAll answers setting.event registry consumed children (tokens.setAll bindings)
    let later := Task.plan answers setting.event registry tokens (.items consumed children rest)
    Task.plan answers setting.event registry tokens (.items consumed children (bindings :: rest)) =
      (first.1 ++ later.1, later.2) := rfl

theorem Evaluates.counted {task : Task World} {tokens final : Tokens} {run after : Run World}
    {visits : List Visit} {outcome : Outcome}
    (evaluation : Evaluates setting registry task tokens run visits outcome final after)
    (orderly : registry.Orderly did) (registered : task.Registered registry)
    (counted : after.Counted did) : run.Counted did := by
  have relates : setting.Relates registry fun before after =>
      after.Counted did → before.Counted did :=
    { same := fun _ counted => counted
      joined := fun first second counted => first (second counted)
      noted := fun _ _ counted => counted.before (List.prefix_append _ _)
      acted := fun known built acts => counted_act orderly known built acts
      selected := fun condition tokens run counted =>
        counted.before (condition.select_grows setting tokens run) }
  exact evaluation.related relates registered counted

theorem Evaluates.follows {task : Task World} {tokens final : Tokens} {run after start : Run World}
    {visits : List Visit} {outcome : Outcome} {before : Journal}
    (evaluation : Evaluates setting registry task tokens run visits outcome final after)
    (steady : setting.Steady answers did same) (orderly : registry.Orderly did)
    (registered : task.Registered registry) (counted : after.Counted did)
    (alike : run.Alike same before start) :
    Follows same (setting.given answers) before
      (task.plan answers setting.event registry tokens) start outcome final after := by
  induction evaluation generalizing before start with
  | unbuilt unbuilt =>
      rw [Task.plan, planOf_unbuilt unbuilt]
      exact (Follows.failed (alike.note_left _) _).note_left _
  | @performed _ element _ act tokens run outcome final after built acts performed =>
      rw [Task.plan]
      have entered := alike.enter element
      obtain ⟨name, value, rfl, planned⟩ | ⟨step, planned, parallel, keeps⟩ :=
        planned_act steady orderly registered built acts
      · cases performed
        rw [planned]
        exact Follows.nothing entered _
      · rw [planned]
        exact Follows.single parallel entered performed counted fun _ => keeps _ _ _ _ performed
  | @unperformed _ element _ act tokens run failure after built acts performed =>
      rw [Task.plan]
      have entered := alike.enter element
      obtain ⟨name, value, rfl, planned⟩ | ⟨step, planned, parallel, keeps⟩ :=
        planned_act steady orderly registered built acts
      · cases performed
      · rw [planned]
        have performedCounted := counted.before (List.prefix_append _ _)
        exact (Follows.single parallel entered performed performedCounted fun _ => rfl).note_left _
  | @unselected _ element filter tokens run failure after built selected =>
      have entered := alike.enter element
      obtain ⟨result, ended⟩ := steady.selects filter.condition tokens entered
      rw [selected] at result ended
      rw [Task.plan, planOf_unselected built result.symm]
      exact (Follows.failed ended _).note_left _
  | @unmatched _ element filter tokens run after built selected =>
      have entered := alike.enter element
      obtain ⟨result, ended⟩ := steady.selects filter.condition tokens entered
      rw [selected] at result ended
      have nothing : filter.chosen [] = [] := by
        rw [Filter.chosen]
        split <;> rfl
      rw [Task.plan, planOf_selected built result.symm, nothing]
      exact (Follows.nothing ended _).note_left _
  | @matched _ element filter items tokens run middle visits outcome final after built _ selected _
      ih =>
      have entered := alike.enter element
      obtain ⟨result, ended⟩ := steady.selects filter.condition tokens entered
      rw [selected] at result ended
      have followed := ih trivial counted ended
      rw [Task.plan, planOf_selected built result.symm]
      exact ⟨followed.comes, followed.runs, fun _ => rfl⟩
  | noChildren => exact Follows.nothing alike _
  | consumed taken _ ih =>
      rw [Task.plan, planAll_consumed _ taken]
      exact ih trivial counted alike
  | skipped kept unknown _ ih =>
      rw [Task.plan, planAll_unknown _ kept unknown]
      exact ih trivial counted (alike.note_left _)
  | childStops kept known _ stops ih =>
      rw [Task.plan, planAll_known _ kept known]
      exact (ih known counted alike).stops stops _ _ _
  | childPasses kept known _ passes later firstIH restIH =>
      have first := firstIH known (later.counted orderly trivial counted) alike
      rw [Task.plan, planAll_known _ kept known]
      have later := restIH trivial counted first.runs
      rw [first.scope passes] at later
      exact first.append passes later
  | noItems => exact Follows.nothing alike _
  | itemStops _ stops ih =>
      rw [plan_items_cons]
      exact (ih trivial counted alike).stops stops _ _ _
  | itemPasses _ passes later firstIH restIH =>
      have first := firstIH trivial (later.counted orderly trivial counted) alike
      have later := restIH trivial counted first.runs
      rw [plan_items_cons]
      have followed := first.append passes later
      exact ⟨followed.comes, followed.runs, fun _ => rfl⟩

theorem execute_follows (steady : setting.Steady answers did same) (orderly : registry.Orderly did)
    (root : Element) (tokens : Tokens) {run start : Run World} {before : Journal}
    (counted : (Evaluation.execute setting registry root tokens run).2.Counted did)
    (alike : run.Alike same before start) :
    Follows same (setting.given answers) before
      (planRoot answers setting.event registry root tokens) start
      (Evaluation.execute setting registry root tokens run).1.1
      (Evaluation.execute setting registry root tokens run).1.2
      (Evaluation.execute setting registry root tokens run).2 := by
  rw [planRoot]
  cases known : registry.lookup? root.name with
  | none =>
      rw [Evaluation.execute_unknown known]
      exact (Follows.failed alike tokens).note_left _
  | some build =>
      obtain ⟨visits, visited⟩ := Evaluation.visits_exist setting registry root tokens run
      simp only [Evaluation.Visits, known] at visited
      exact visited.follows steady orderly known counted alike

/-- Executing a root has the effects of going through its plan, and comes to the same. Where nothing
stops, the tokens that hold afterwards are as planned. Only what is in the journal afterwards has to
count. -/
theorem execute_performs_plan (steady : setting.Steady answers did same)
    (orderly : registry.Orderly did) (root : Element) (tokens : Tokens) (run : Run World)
    (start : same run.world run.world)
    (counted : (Evaluation.execute setting registry root tokens run).2.Counted did) :
    let executed := Evaluation.execute setting registry root tokens run
    let plan := planRoot answers setting.event registry root tokens
    let performed := PlanStep.performAll (setting.given answers) plan.1 run
    executed.1.1 = performed.1 ∧
      Journal.effects executed.2.journal = Journal.effects performed.2.journal ∧
      same executed.2.world performed.2.world ∧
      (executed.1.1.stops = false → executed.1.2 = plan.2) := by
  have alike : run.Alike same [] run := ⟨start, rfl⟩
  have followed := execute_follows steady orderly root tokens counted alike
  exact ⟨followed.comes.symm, followed.runs.effects, followed.runs.worlds, followed.scope⟩

end Steady

/-- A token that is set inside a filter is not seen after it, and nothing comes after a refusal. -/
theorem refusal_performs_plan :
    let event : Event := { (default : Event) with steal := some true }
    let setting := Setting.onPaper .none event
    let say (text : String) : Element := ⟨"SendError", [], some text, [], .nowhere⟩
    let setWord (value : String) : Element :=
      ⟨"SetToken", [("name", "word")], some value, [], .nowhere⟩
    let root : Element := ⟨"Actions", [], none,
      [setWord "outer", ⟨"FilterStealLock", [], none, [setWord "inner"], .nowhere⟩,
        say "${word}", say "later"], .nowhere⟩
    let executed := Evaluation.execute setting .standard root .empty ⟨(), []⟩
    let plan := planRoot .none event .standard root .empty
    let performed := PlanStep.performAll (setting.given .none) plan.1 ⟨(), []⟩
    plan.1.length = 2 ∧ executed.1.1 = .code 1 ∧
      Journal.effects executed.2.journal = [.told "outer"] ∧
      executed.1.1 = performed.1 ∧
      Journal.effects executed.2.journal = Journal.effects performed.2.journal ∧
      (executed.1.1.stops = false → executed.1.2 = plan.2) := by
  intro event setting say setWord root executed plan performed
  obtain ⟨comes, effects, _, scope⟩ := execute_performs_plan
    (Setting.onPaper_steady .none event fun entry => entry ∈ executed.2.journal)
    (Registry.standard_orderly _) root .empty ⟨(), []⟩ rfl fun _ member => member
  refine ⟨?_, ?_, ?_, comes, effects, scope⟩
  · decide +kernel
  · decide +kernel
  · decide +kernel

end HookRules
