import HookRules.Proofs.Rule.Parameter
import HookRules.Proofs.Run.Mirror

/-!
Filters that take the first item. Such a filter does what the same filter does that takes every
item, up to the end of the first one, and it goes no further. Where the first item ends the
evaluation, or where there is no other one, the two cannot be told apart.
-/

set_option autoImplicit false

namespace HookRules

/-- The elements are the same but for one attribute. -/
structure Element.AlikeBut (key : String) (left right : Element) : Prop where
  name : left.name = right.name
  text : left.text = right.text
  children : left.children = right.children
  span : left.span = right.span
  attribute? : ∀ other, other ≠ key → left.attribute? other = right.attribute? other

namespace Element.AlikeBut

variable {World : Type} {key : String} {left right : Element}

theorem refl (key : String) (element : Element) : element.AlikeBut key element :=
  ⟨rfl, rfl, rfl, rfl, fun _ _ => rfl⟩

theorem switch (alike : left.AlikeBut key right) {name : String} (other : name ≠ key)
    (absent : Bool) : left.switch name absent = right.switch name absent := by
  rw [Element.switch, Element.switch, alike.attribute? name other]

theorem gate (alike : left.AlikeBut key right) (tag : String) (ignoreCase : Bool) :
    Gate.find? left tag ignoreCase = Gate.find? right tag ignoreCase := by
  rw [Gate.find?, Gate.find?, child?, child?, alike.children]

theorem enter (alike : left.AlikeBut key right) (run : Run World) :
    left.enter run = right.enter run := by
  rw [Element.enter, Element.enter, alike.name, alike.span]

theorem blame (alike : left.AlikeBut key right) (failure : Failure) (run : Run World) :
    left.blame failure run = right.blame failure run := by
  rw [Element.blame, Element.blame, alike.name, alike.span]

end Element.AlikeBut

namespace Filter

/-- The filter, but taking items as the element says. -/
def takingAs (element : Element) (filter : Filter) : Filter :=
  { filter with matchFirst := element.switch "matchFirst" false }

/-- Filters that are built so of elements alike are alike, but for the items that they take. -/
def ReadsMatchFirst (make : Element → Except RuleError Filter) : Prop :=
  ∀ left right : Element, left.AlikeBut "matchFirst" right →
    make right = (make left).map (takingAs right)

private theorem plain_readsMatchFirst {condition : Element → Condition}
    (reads : ∀ left right : Element, left.AlikeBut "matchFirst" right →
      condition left = condition right) : ReadsMatchFirst (plain condition) := by
  intro left right alike
  rw [plain, plain, reads left right alike]
  rfl

private theorem onGate_readsMatchFirst (condition : Gate → Condition) (tag : String)
    (ignoreCase : Bool) :
    ReadsMatchFirst (onGate condition tag ignoreCase) := by
  intro left right alike
  have same : Gate.require left tag ignoreCase = Gate.require right tag ignoreCase := by
    rw [Gate.require, Gate.require, alike.gate, alike.span]
  rw [onGate, onGate, same]
  cases Gate.require right tag ignoreCase <;> rfl

private theorem onEither_readsMatchFirst (condition : Option Gate → Option Gate → Condition)
    (first second : String) (ignoreFirst ignoreSecond : Bool) :
    ReadsMatchFirst (onEither condition first second ignoreFirst ignoreSecond) := by
  intro left right alike
  have same : Gate.requireEither left first second ignoreFirst ignoreSecond =
      Gate.requireEither right first second ignoreFirst ignoreSecond := by
    rw [Gate.requireEither, Gate.requireEither, alike.gate, alike.gate, alike.span]
  rw [onEither, onEither, same]
  cases Gate.requireEither right first second ignoreFirst ignoreSecond <;> rfl

theorem build?_readsMatchFirst {name : String} {make : Element → Except RuleError Filter}
    (known : build? name = some make) : ReadsMatchFirst make := by
  unfold build? at known
  split at known <;> cases known
  all_goals first
    | exact plain_readsMatchFirst fun _ _ _ => rfl
    | exact plain_readsMatchFirst fun _ _ alike => by rw [alike.switch (by decide)]
    | exact onGate_readsMatchFirst _ _ _
    | exact onEither_readsMatchFirst _ _ _ _ _

end Filter

namespace Element.Makes

variable {element other : Element} {filter : Filter}

theorem matchFirst (makes : element.Makes filter) :
    filter.matchFirst = element.switch "matchFirst" false := by
  obtain ⟨make, found, made⟩ := makes
  have again := Filter.build?_readsMatchFirst found element element (.refl _ element)
  rw [made] at again
  exact congrArg Filter.matchFirst (Except.ok.inj again)

private theorem takingAs (makes : element.Makes filter)
    (alike : element.AlikeBut "matchFirst" other) :
    other.Makes (filter.takingAs other) := by
  obtain ⟨make, found, made⟩ := makes
  refine ⟨make, alike.name ▸ found, ?_⟩
  rw [Filter.build?_readsMatchFirst found element other alike, made]
  rfl

end Element.Makes

variable {World : Type} {setting : Setting World}

private theorem Run.note_extends (run : Run World) (notice : Notice) :
    run.journal <+: (run.note notice).journal := ⟨_, rfl⟩

theorem Evaluates.extends {task : Task World} {tokens final : Tokens} {run after : Run World}
    {visits : List Visit} {outcome : Outcome}
    (evaluation : Evaluates setting .standard task tokens run visits outcome final after)
    (registered : task.Registered .standard) : run.journal <+: after.journal := by
  have relates : setting.Relates .standard fun before after => before.journal <+: after.journal :=
    { same := fun _ => List.prefix_rfl
      joined := List.IsPrefix.trans
      noted := Run.note_extends
      acted := fun known built acts _ => (Registry.standard_local known built acts).extends rfl
      selected := fun _ _ _ => (Condition.select_local _ _ _).extends rfl }
  exact evaluation.related relates registered

namespace Evaluation

variable {tokens : Tokens}

private theorem evaluateItem_extends (consumed : List String) (children : List Element)
    (tokens : Tokens) (bindings : Bindings) (run : Run World) : run.journal <+:
      (evaluateItem setting .standard consumed children tokens bindings run).2.journal := by
  obtain ⟨visits, evaluation⟩ :=
    (derived setting .standard).2 consumed children (tokens.setAll bindings) run
  exact evaluation.extends trivial

private theorem inTurn_extends {each : Bindings → Step World Outcome}
    (extended : ∀ bindings run, run.journal <+: (each bindings run).2.journal)
    (items : List Bindings) (run : Run World) :
    run.journal <+: (inTurn each items run).2.journal := by
  induction items generalizing run with
  | nil => exact List.prefix_rfl
  | cons bindings rest ih =>
      rw [inTurn_cons]
      dsimp only
      split
      · exact extended bindings run
      · exact (extended bindings run).trans (ih _)

/-- What comes after the selection in a filter that takes every one of the items. -/
def overAll (setting : Setting World) (element : Element) (filter : Filter) (tokens : Tokens) :
    List Bindings → Step World (Outcome × Tokens)
  | [] => do
    Step.note (.unmatched element.name)
    return (.done, tokens)
  | bindings :: rest => do
    return (← inTurn (evaluateItem setting .standard filter.consumed element.children tokens)
      (bindings :: rest), tokens)

variable {element : Element} {filter : Filter}

private theorem evaluate_overAll {build : Builder World} {items : List Bindings}
    {run after : Run World} (built : build element = .ok (.filter filter))
    (selected : (filter.condition.select setting tokens).run (element.enter run) =
      (.ok items, after)) :
    evaluate setting .standard build element tokens run =
      overAll setting element filter tokens (filter.chosen items) after := by
  cases items with
  | nil =>
      have nothing : filter.chosen [] = [] := by
        rw [Filter.chosen]
        split <;> rfl
      rw [(filter_unmatched built selected).1, nothing]
      rfl
  | cons bindings rest =>
      have some : ∃ others, filter.chosen (bindings :: rest) = bindings :: others := by
        rw [Filter.chosen]
        split
        · exact ⟨[], rfl⟩
        · exact ⟨rest, rfl⟩
      obtain ⟨others, chosen⟩ := some
      rw [(filter_matched built (List.cons_ne_nil bindings rest) selected).1, chosen]
      rfl

private theorem overAll_cons (bindings : Bindings) (rest : List Bindings) (run : Run World) :
    overAll setting element filter tokens (bindings :: rest) run =
      let each := evaluateItem setting .standard filter.consumed element.children tokens
      let first := each bindings run
      if first.1.stops then ((first.1, tokens), first.2)
      else (((inTurn each rest first.2).1, tokens), (inTurn each rest first.2).2) := by
  rw [overAll, Step.run_bind, inTurn_cons]
  dsimp only
  split <;> rfl

private theorem overAll_first (setting : Setting World) (element : Element) (filter : Filter)
    (tokens : Tokens) (items : List Bindings) (run : Run World) :
    let first := overAll setting element filter tokens (items.take 1) run
    let every := overAll setting element filter tokens items run
    first.2.journal <+: every.2.journal ∧ (first.1.1 ≠ .done → first = every) := by
  cases items with
  | nil => exact ⟨List.prefix_rfl, fun _ => rfl⟩
  | cons bindings rest =>
      rw [List.take_succ_cons, List.take_zero, overAll_cons, overAll_cons]
      dsimp only
      split
      · exact ⟨List.prefix_rfl, fun _ => rfl⟩
      · -- the first item lets the evaluation go on, and only the longer one does
        refine ⟨?_, fun unfinished => absurd rfl unfinished⟩
        exact inTurn_extends (evaluateItem_extends filter.consumed element.children tokens) rest _

/-- Two evaluations of a filter in one place, which takes its first item in one of them and every
item in the other. -/
structure FirstOf (setting : Setting World) (first every : Element) (tokens : Tokens)
    (start : Run World) : Prop where
  scope : (execute setting .standard first tokens start).1.2 = tokens ∧
    (execute setting .standard every tokens start).1.2 = tokens
  begins : ∃ made more,
    (execute setting .standard first tokens start).2.journal = start.journal ++ made ∧
      (execute setting .standard every tokens start).2.journal = start.journal ++ (made ++ more)
  stopped : (execute setting .standard first tokens start).1.1 ≠ .done →
    execute setting .standard first tokens start = execute setting .standard every tokens start
  items : ∀ filter items after, every.Makes filter →
    (filter.condition.select setting tokens).run (every.enter start) = (.ok items, after) →
    execute setting .standard every tokens start =
        overAll setting every filter tokens items after ∧
      execute setting .standard first tokens start =
        overAll setting every filter tokens (items.take 1) after ∧
      (items.length ≤ 1 → execute setting .standard first tokens start =
        execute setting .standard every tokens start)

private theorem execute_extends (setting : Setting World) (element : Element) (tokens : Tokens)
    (start : Run World) :
    start.journal <+: (execute setting .standard element tokens start).2.journal := by
  cases known : (Registry.standard : Registry World).lookup? element.name with
  | none =>
      rw [execute_unknown known]
      exact start.note_extends _
  | some build =>
      obtain ⟨visits, evaluation⟩ := (derived setting .standard).1 build element tokens start
      rw [execute_known known]
      exact evaluation.extends known

private theorem execute_scope {element : Element} (filters : (Filter.build? element.name).isSome)
    (tokens : Tokens) (start : Run World) :
    (execute setting .standard element tokens start).1.2 = tokens := by
  obtain ⟨build, known⟩ : ∃ build, (Registry.standard : Registry World).lookup? element.name =
      some build := by
    rw [← Option.isSome_iff_exists, Registry.standard_lookup?_isSome, Registry.isBuiltIn, filters]
    rfl
  rw [execute_known known]
  cases built : build element with
  | error error => rw [evaluate_unbuilt built]
  | ok rule =>
      obtain ⟨filter, rfl⟩ := Registry.standard_filter filters known built
      rcases selected : (filter.condition.select setting tokens).run (element.enter start) with
        ⟨failure | _ | ⟨bindings, rest⟩, after⟩
      · rw [(filter_unselected built selected).1]
      · rw [(filter_unmatched built selected).1]
      · rw [(filter_matched built (List.cons_ne_nil bindings rest) selected).1]

private theorem execute_unbuilt {element : Element} {make : Element → Except RuleError Filter}
    {error : RuleError} (found : Filter.build? element.name = some make)
    (fails : make element = .error error) (tokens : Tokens) (start : Run World) :
    execute setting .standard element tokens start =
      ((.internal (.rule error), tokens), element.blame (.rule error) (element.enter start)) := by
  have known : (Registry.standard : Registry World).lookup? element.name =
      some fun element => (make element).map .filter := by
    simp [Registry.lookup?, Registry.builtIn?, found]
  rw [execute_known known]
  exact evaluate_unbuilt (congrArg (Except.map Rule.filter) fails) start

private theorem execute_unselected {element : Element} {filter : Filter} {tokens : Tokens}
    {start after : Run World} {failure : Failure} (makes : element.Makes filter)
    (selected : (filter.condition.select setting tokens).run (element.enter start) =
      (.error failure, after)) :
    execute setting .standard element tokens start =
      ((.internal failure, tokens), element.blame failure after) := by
  obtain ⟨build, known⟩ : ∃ build, (Registry.standard : Registry World).lookup? element.name =
      some build := makes.known
  rw [execute_known known]
  exact (filter_unselected (makes.built known) selected).1

section Alike

variable {first every : Element} (alike : every.AlikeBut "matchFirst" first)

include alike

private theorem overAll_alike (filter : Filter) (tokens : Tokens) (items : List Bindings) :
    overAll setting first (filter.takingAs first) tokens items =
      overAll setting every filter tokens items := by
  cases items with
  | nil => rw [overAll, overAll, alike.name]
  | cons bindings rest => rw [overAll, overAll, alike.children, Filter.takingAs]

private theorem execute_overAll (takesFirst : first.switch "matchFirst" false = true)
    (takesEvery : every.switch "matchFirst" false = false) {filter : Filter} {tokens : Tokens}
    {items : List Bindings} {start after : Run World} (makes : every.Makes filter)
    (selected : (filter.condition.select setting tokens).run (every.enter start) =
      (.ok items, after)) :
    execute setting .standard every tokens start =
        overAll setting every filter tokens items after ∧
      execute setting .standard first tokens start =
        overAll setting every filter tokens (items.take 1) after := by
  have makesFirst := makes.takingAs alike
  obtain ⟨build, known⟩ : ∃ build, (Registry.standard : Registry World).lookup? every.name =
      some build := makes.known
  have knownFirst : Registry.standard.lookup? first.name = some build := alike.name ▸ known
  have chosenFirst : (filter.takingAs first).chosen items = items.take 1 := if_pos takesFirst
  have chosenEvery : filter.chosen items = items := by
    rw [Filter.chosen, makes.matchFirst, takesEvery]
    rfl
  constructor
  · rw [execute_known known, evaluate_overAll (makes.built known) selected, chosenEvery]
  · rw [alike.enter] at selected
    rw [execute_known knownFirst, evaluate_overAll (makesFirst.built knownFirst) selected,
      chosenFirst, overAll_alike alike]

/-- The shorter evaluation has a part of the other one behind it, and all of it if the first item
does not let the evaluation go on. -/
theorem execute_first (setting : Setting World)
    (takesFirst : first.switch "matchFirst" false = true)
    (takesEvery : every.switch "matchFirst" false = false)
    (filters : (Filter.build? every.name).isSome) (tokens : Tokens) (start : Run World) :
    let short := execute setting .standard first tokens start
    let long := execute setting .standard every tokens start
    short.2.journal <+: long.2.journal ∧ (short.1.1 ≠ .done → short = long) := by
  intro short long
  have same_both (same : short = long) :
      short.2.journal <+: long.2.journal ∧ (short.1.1 ≠ .done → short = long) :=
    ⟨same ▸ List.prefix_rfl, fun _ => same⟩
  obtain ⟨make, found⟩ := Option.isSome_iff_exists.mp filters
  have foundFirst : Filter.build? first.name = some make := alike.name ▸ found
  cases made : make every with
  | error error =>
      have madeFirst : make first = .error error := by
        rw [Filter.build?_readsMatchFirst found every first alike, made]
        rfl
      have shorter : short = _ := execute_unbuilt foundFirst madeFirst tokens start
      have longer : long = _ := execute_unbuilt found made tokens start
      refine same_both ?_
      rw [shorter, longer, alike.enter, alike.blame]
  | ok filter =>
      have makes : every.Makes filter := ⟨make, found, made⟩
      rcases selected : (filter.condition.select setting tokens).run (every.enter start) with
        ⟨failure | items, after⟩
      · have longer : long = _ := execute_unselected makes selected
        rw [alike.enter] at selected
        have shorter : short = _ := execute_unselected (makes.takingAs alike) selected
        refine same_both ?_
        rw [shorter, longer, alike.blame]
      · obtain ⟨longer, shorter⟩ := execute_overAll alike takesFirst takesEvery makes selected
        have compared := overAll_first setting every filter tokens items after
        rw [← longer, ← shorter] at compared
        exact compared

end Alike

end Evaluation

/-- A filter that takes its first item alone does what it would do if it took every item, up to the
end of the first one. -/
theorem match_first_takes_one (setting : Setting World) (first every : Element) (tokens : Tokens)
    (start : Run World) (filters : (Filter.build? every.name).isSome)
    (alike : every.AlikeBut "matchFirst" first)
    (takesFirst : first.switch "matchFirst" false = true)
    (takesEvery : every.switch "matchFirst" false = false) :
    Evaluation.FirstOf setting first every tokens start where
  scope := ⟨Evaluation.execute_scope (alike.name ▸ filters) tokens start,
    Evaluation.execute_scope filters tokens start⟩
  begins := by
    obtain ⟨made, short⟩ := Evaluation.execute_extends setting first tokens start
    obtain ⟨more, long⟩ :=
      (Evaluation.execute_first alike setting takesFirst takesEvery filters tokens start).1
    exact ⟨made, more, short.symm, by rw [← long, ← short, List.append_assoc]⟩
  stopped := (Evaluation.execute_first alike setting takesFirst takesEvery filters tokens start).2
  items := by
    intro filter items after makes selected
    obtain ⟨long, short⟩ := Evaluation.execute_overAll alike takesFirst takesEvery makes selected
    refine ⟨long, short, fun one => ?_⟩
    rw [short, long, List.take_of_length_le one]

/-- One number is written for each path that was locked, or for the first of them. -/
theorem locked_paths_taken_once :
    let event : Event :=
      { (default : Event) with kind := .postLock, subject := .revision 5, paths := ["/a", "/b"] }
    let setting := Setting.onPaper .none event
    let filter (attributes : List (String × String)) : Element :=
      ⟨"FilterPathList", attributes, none, [⟨"PathRegex", [], some "/", [], .nowhere⟩,
        ⟨"SetRevisionFile", [], some "${Path}", [], .nowhere⟩], .nowhere⟩
    let every := filter []
    let first := filter [("matchFirst", "true")]
    let written (root : Element) := Journal.effects
      (Evaluation.execute setting .standard root .empty ⟨(), []⟩).2.journal
    written every = [.wrote "/a" "5\n", .wrote "/b" "5\n"] ∧ written first = [.wrote "/a" "5\n"] ∧
      Evaluation.FirstOf setting first every .empty ⟨(), []⟩ := by
  intro event setting filter every first written
  have alike : every.AlikeBut "matchFirst" first := by
    refine ⟨rfl, rfl, rfl, rfl, fun other differs => ?_⟩
    simp [every, first, filter, Element.attribute?, Ne.symm differs]
  refine ⟨by decide +kernel, by decide +kernel, ?_⟩
  exact match_first_takes_one setting first every .empty ⟨(), []⟩ (by decide) alike
    (by decide +kernel) (by decide)

end HookRules
