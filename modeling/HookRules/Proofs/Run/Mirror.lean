import Mathlib.Data.List.Forall2
import HookRules.Proofs.Rule.Parameter
import HookRules.Proofs.Rule.Token
import HookRules.Proofs.Run.Derivation
import HookRules.Proofs.Run.Locality
import HookRules.Proofs.Run.Station

/-!
Trees that are evaluated alike. Two elements mirror each other where they stand under one name in
one place, are built alike, and hold children of which those that are evaluated mirror each other
in order. What one comes to, the other comes to; the elements that are passed over do not matter.
-/

set_option autoImplicit false

namespace HookRules

variable {World : Type}

/-- The child is evaluated where its parent takes the named children for itself. -/
def Element.live (consumed : List String) (child : Element) : Bool :=
  !consumed.contains child.name && Registry.isBuiltIn child.name

/-- The children that are evaluated are related one by one, in order. -/
def Element.LiveAlike (related : Element → Element → Prop) (consumed other : List String)
    (lefts rights : List Element) : Prop :=
  List.Forall₂ related (lefts.filter (live consumed)) (rights.filter (live other))

/-- Related elements mirror each other, as far as one can see from them to their children. -/
structure Element.Mirror (related : Element → Element → Prop) : Prop where
  name {left right : Element} : related left right → left.name = right.name
  span {left right : Element} : related left right → left.span = right.span
  built {left right : Element} {World : Type} {build : Builder World} : related left right →
    Registry.standard.lookup? left.name = some build → build left = build right
  inside {left right : Element} {filter : Filter} : related left right → left.Makes filter →
    LiveAlike related filter.consumed filter.consumed left.children right.children

/-- Tasks whose elements mirror each other. What is consumed may differ if the rest does not. -/
inductive Task.Mirrors (related : Element → Element → Prop) : Task World → Task World → Prop
  | element {build left right} :
      Registry.standard.lookup? left.name = some build → related left right →
      Mirrors related (.element build left) (.element build right)
  | children {consumed other lefts rights} :
      Element.LiveAlike related consumed other lefts rights →
      Mirrors related (.children consumed lefts) (.children other rights)
  | items {consumed other lefts rights items} :
      Element.LiveAlike related consumed other lefts rights →
      Mirrors related (.items consumed lefts items) (.items other rights items)

/-- Visits of related elements, with the same tokens. -/
structure Visit.Mirrors (related : Element → Element → Prop) (left right : Visit) : Prop where
  element : related left.element right.element
  scope : left.scope = right.scope

namespace Element

variable {related : Element → Element → Prop} {consumed : List String} {child : Element}
  {seen : Entry → Bool}

private theorem live_iff : child.live consumed = true ↔
    consumed.contains child.name = false ∧ Registry.isBuiltIn child.name = true := by
  rw [live, Bool.and_eq_true, Bool.not_eq_true']

private theorem live_of_known {build : Builder World} (kept : consumed.contains child.name = false)
    (known : Registry.standard.lookup? child.name = some build) : child.live consumed = true := by
  refine live_iff.mpr ⟨kept, ?_⟩
  rw [← @Registry.standard_lookup?_isSome World, known]
  rfl

theorem dead_of_consumed (taken : consumed.contains child.name = true) :
    child.live consumed = false := by
  rw [live, taken]
  rfl

private theorem dead_of_unknown
    (unknown : (Registry.standard : Registry World).lookup? child.name = none) :
    child.live consumed = false := by
  rw [live, ← @Registry.standard_lookup?_isSome World, unknown, Bool.and_eq_false_iff]
  exact .inr rfl

theorem LiveAlike.skip {other : List String} {lefts rights : List Element}
    (alike : LiveAlike related consumed other (child :: lefts) rights)
    (dead : child.live consumed = false) : LiveAlike related consumed other lefts rights := by
  rw [LiveAlike, List.filter_cons_of_neg (by simp [dead])] at alike
  exact alike

theorem LiveAlike.image {other : List String} {lefts rights : List Element}
    (alike : LiveAlike related consumed other (child :: lefts) rights)
    (live : child.live consumed = true) :
    ∃ before image rest, rights = before ++ image :: rest ∧
      (∀ child ∈ before, child.live other = false) ∧ image.live other = true ∧
      related child image ∧ LiveAlike related consumed other lefts rest := by
  rw [LiveAlike, List.filter_cons_of_pos live, List.forall₂_cons_left_iff] at alike
  obtain ⟨image, images, first, others, found⟩ := alike
  obtain ⟨before, rest, split, dead, alive, remaining⟩ := List.filter_eq_cons_iff.mp found
  rw [← remaining] at others
  exact ⟨before, image, rest, split, by simpa using dead, alive, first, others⟩

theorem Mirror.enter (mirror : Mirror related) {left right : Element} (alike : related left right)
    {first second : Run World} (same : first.Same seen second) :
    (left.enter first).Same seen (right.enter second) := by
  rw [Element.enter, Element.enter, mirror.name alike, mirror.span alike]
  exact same.note _

theorem Mirror.blame (mirror : Mirror related) {left right : Element} (alike : related left right)
    (failure : Failure) {first second : Run World} (same : first.Same seen second) :
    (left.blame failure first).Same seen (right.blame failure second) := by
  rw [Element.blame, Element.blame, mirror.name alike, mirror.span alike]
  exact same.note _

end Element

theorem Registry.standard_local {build : Builder World} {element : Element} {rule : Rule World}
    {setting : Setting World} {tokens : Tokens} {act : Act World (Outcome × Tokens)}
    (known : standard.lookup? element.name = some build) (built : build element = .ok rule)
    (acts : rule.act? setting tokens = some act) : act.Local := by
  obtain ⟨filter, rfl⟩ | ⟨action, rfl, _⟩ := standard_built known built
  · cases acts
  · cases acts
    exact action.perform_local setting tokens

section Mirrored

variable {setting : Setting World} {related : Element → Element → Prop} {seen : Entry → Bool}

variable (setting) in
theorem Evaluates.pass {consumed : List String} {before : List Element}
    (dead : ∀ child ∈ before, child.live consumed = false)
    (unseen : ∀ name, seen (.noted (.skipped name)) = false) (tokens : Tokens) (run : Run World) :
    ∃ middle, run.Same seen middle ∧ ∀ {rest visits outcome final after},
      Evaluates setting .standard (.children consumed rest) tokens middle visits outcome final
        after →
      Evaluates setting .standard (.children consumed (before ++ rest)) tokens run visits outcome
        final after := by
  induction before generalizing run with
  | nil => exact ⟨run, .refl seen run, id⟩
  | cons child before ih =>
      have beyond : ∀ other ∈ before, other.live consumed = false :=
        fun other member => dead other (List.mem_cons_of_mem _ member)
      have first := dead child List.mem_cons_self
      cases taken : consumed.contains child.name with
      | true =>
          obtain ⟨middle, same, onward⟩ := ih beyond run
          exact ⟨middle, same, fun evaluation => .consumed taken (onward evaluation)⟩
      | false =>
          have unknown : (Registry.standard : Registry World).lookup? child.name = none := by
            rw [Element.live, taken, ← @Registry.standard_lookup?_isSome World] at first
            exact Option.not_isSome_iff_eq_none.mp (by simpa using first)
          obtain ⟨middle, same, onward⟩ := ih beyond (run.note (.skipped child.name))
          have passed := (Run.Same.refl seen run).note_right (unseen child.name)
          refine ⟨middle, passed.trans same, fun evaluation => ?_⟩
          exact .skipped taken unknown (onward evaluation)

theorem Evaluates.mirrored (mirror : Element.Mirror related)
    (unseen : ∀ name, seen (.noted (.skipped name)) = false) {task image : Task World}
    {tokens final : Tokens} {run other after : Run World} {visits : List Visit} {outcome : Outcome}
    (evaluation : Evaluates setting .standard task tokens run visits outcome final after)
    (mirrors : task.Mirrors related image) (same : run.Same seen other) :
    ∃ images later, Evaluates setting .standard image tokens other images outcome final later ∧
      after.Same seen later ∧
      List.Forall₂ (Visit.Mirrors related) visits images := by
  induction evaluation generalizing image other with
  | unbuilt unbuilt =>
      cases mirrors with
      | element known alike =>
          rw [mirror.built alike known] at unbuilt
          refine ⟨_, _, .unbuilt unbuilt, ?_, .cons ⟨alike, rfl⟩ .nil⟩
          exact mirror.blame alike _ (mirror.enter alike same)
  | performed built acts performed =>
      cases mirrors with
      | element known alike =>
          have isLocal := Registry.standard_local known built acts
          obtain ⟨later, again, ended⟩ := isLocal.same (mirror.enter alike same) performed
          rw [mirror.built alike known] at built
          exact ⟨_, later, .performed built acts again, ended, .cons ⟨alike, rfl⟩ .nil⟩
  | unperformed built acts performed =>
      cases mirrors with
      | element known alike =>
          have isLocal := Registry.standard_local known built acts
          obtain ⟨later, again, ended⟩ := isLocal.same (mirror.enter alike same) performed
          rw [mirror.built alike known] at built
          refine ⟨_, _, .unperformed built acts again, ?_, .cons ⟨alike, rfl⟩ .nil⟩
          exact mirror.blame alike _ ended
  | unselected built selected =>
      cases mirrors with
      | element known alike =>
          obtain ⟨later, again, ended⟩ :=
            (Condition.select_local _ _ _).same (mirror.enter alike same) selected
          rw [mirror.built alike known] at built
          refine ⟨_, _, .unselected built again, ?_, .cons ⟨alike, rfl⟩ .nil⟩
          exact mirror.blame alike _ ended
  | unmatched built selected =>
      cases mirrors with
      | element known alike =>
          obtain ⟨later, again, ended⟩ :=
            (Condition.select_local _ _ _).same (mirror.enter alike same) selected
          rw [mirror.built alike known] at built
          refine ⟨_, _, .unmatched built again, ?_, .cons ⟨alike, rfl⟩ .nil⟩
          rw [mirror.name alike]
          exact ended.note _
  | matched built some selected _ ih =>
      cases mirrors with
      | element known alike =>
          obtain ⟨middle, again, reached⟩ :=
            (Condition.select_local _ _ _).same (mirror.enter alike same) selected
          have inside := mirror.inside alike (Registry.standard_makes known built)
          obtain ⟨images, later, items, ended, paired⟩ := ih (.items inside) reached
          rw [mirror.built alike known] at built
          exact ⟨_, later, .matched built some again items, ended, .cons ⟨alike, rfl⟩ paired⟩
  | @noChildren _ scope _ =>
      cases mirrors with
      | @children _ consumed _ rights alike =>
          have none : rights.filter (Element.live consumed) = [] :=
            List.forall₂_nil_left_iff.mp alike
          have dead : ∀ child ∈ rights, child.live consumed = false := by
            simpa using List.filter_eq_nil_iff.mp none
          obtain ⟨middle, passed, onward⟩ := Evaluates.pass setting dead unseen scope other
          have whole := onward .noChildren
          rw [List.append_nil] at whole
          exact ⟨[], middle, whole, same.trans passed, .nil⟩
  | consumed taken _ ih =>
      cases mirrors with
      | children alike =>
          exact ih (.children (alike.skip (Element.dead_of_consumed taken))) same
  | skipped kept unknown _ ih =>
      cases mirrors with
      | children alike =>
          have later := alike.skip (Element.dead_of_unknown unknown)
          exact ih (.children later) (same.note_left (unseen _))
  | childStops kept known _ stops ih =>
      cases mirrors with
      | children alike =>
          obtain ⟨before, image, rest, rfl, dead, alive, paired, _⟩ :=
            alike.image (Element.live_of_known kept known)
          obtain ⟨middle, passed, onward⟩ := Evaluates.pass setting dead unseen _ other
          obtain ⟨images, later, first, ended, visited⟩ :=
            ih (.element known paired) (same.trans passed)
          rw [mirror.name paired] at known
          have stays := (Element.live_iff.mp alive).1
          exact ⟨images, later, onward (.childStops stays known first stops), ended, visited⟩
  | childPasses kept known _ passes _ firstIH restIH =>
      cases mirrors with
      | children alike =>
          obtain ⟨before, image, rest, rfl, dead, alive, paired, others⟩ :=
            alike.image (Element.live_of_known kept known)
          obtain ⟨begun, passed, onward⟩ := Evaluates.pass setting dead unseen _ other
          obtain ⟨images, middle, first, reached, visited⟩ :=
            firstIH (.element known paired) (same.trans passed)
          obtain ⟨more, later, remaining, ended, visitedLater⟩ :=
            restIH (.children others) reached
          rw [mirror.name paired] at known
          have stays := (Element.live_iff.mp alive).1
          exact ⟨images ++ more, later, onward (.childPasses stays known first passes remaining),
            ended, List.rel_append visited visitedLater⟩
  | noItems =>
      cases mirrors with
      | items alike => exact ⟨[], other, .noItems, same, .nil⟩
  | itemStops _ stops ih =>
      cases mirrors with
      | items alike =>
          obtain ⟨images, later, first, ended, paired⟩ := ih (.children alike) same
          exact ⟨images, later, .itemStops first stops, ended, paired⟩
  | itemPasses _ passes _ firstIH restIH =>
      cases mirrors with
      | items alike =>
          obtain ⟨images, middle, first, reached, paired⟩ := firstIH (.children alike) same
          obtain ⟨more, later, rest, ended, others⟩ := restIH (.items alike) reached
          exact ⟨images ++ more, later, .itemPasses first passes rest, ended,
            List.rel_append paired others⟩

private theorem Evaluation.tellInternal_same (setting : Setting World) {first second : Run World}
    (same : first.Same seen second) :
    (tellInternal setting first).2.Same seen (tellInternal setting second).2 := by
  rw [tellInternal, Step.run_bind, Step.run_bind]
  rcases told : (Act.tell setting.channel (internalMessage ++ "\n")).run first with
    ⟨result, after⟩
  obtain ⟨later, again, ended⟩ := (Act.local_tell _ _).same same told
  rw [again]
  cases result with
  | ok taken => exact ended
  | error failure => exact ended.note _

theorem Evaluation.run_same {left right : Element} {tokens : Tokens} {first second : Run World}
    {result : Outcome × Tokens} {after later : Run World}
    (ended : execute setting .standard left tokens first = (result, after))
    (again : execute setting .standard right tokens second = (result, later))
    (same : after.Same seen later) :
    (run setting .standard right tokens second).1 = (run setting .standard left tokens first).1 ∧
      (run setting .standard left tokens first).2.Same seen
        (run setting .standard right tokens second).2 := by
  rw [run, run, Step.run_bind, Step.run_bind, ended, again]
  obtain ⟨outcome, final⟩ := result
  cases outcome with
  | code value => exact ⟨rfl, same⟩
  | internal failure => exact ⟨rfl, tellInternal_same setting same⟩

theorem Evaluation.run_mirrored (mirror : Element.Mirror related)
    (unseen : ∀ name, seen (.noted (.skipped name)) = false) {left right : Element}
    (registered : Registry.isBuiltIn left.name = true) (alike : related left right)
    (tokens : Tokens) (start : Run World) :
    let ended := run setting .standard left tokens start
    let image := run setting .standard right tokens start
    image.1 = ended.1 ∧ ended.2.Same seen image.2 := by
  obtain ⟨build, known⟩ : ∃ build, (Registry.standard : Registry World).lookup? left.name =
      some build := by
    rw [← Option.isSome_iff_exists, Registry.standard_lookup?_isSome]
    exact registered
  obtain ⟨visits, visited⟩ := visits_exist setting .standard left tokens start
  simp only [Visits, known] at visited
  obtain ⟨images, later, evaluation, same, -⟩ :=
    visited.mirrored mirror unseen (.element known alike) (.refl seen start)
  rw [mirror.name alike] at known
  exact run_same rfl (evaluation.executed known) same

end Mirrored

end HookRules
