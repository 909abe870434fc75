import HookRules.Proofs.Run.Conjunction
import HookRules.Proofs.Run.Isolation
import HookRules.Proofs.Token.Store

/-!
Neighbours that set tokens of different names. Documents that differ in the order of such neighbours
come to the same with the same deeds: what one of them sets may name the other, as a value is kept
as it is written and expanded only where it is used.
-/

set_option autoImplicit false

namespace HookRules

/-- Two documents that differ in the order of two neighbours, which set tokens of different names.
The path leads to the element that holds them. -/
def Element.ExchangedAt : List Nat → Element → Element → Prop
  | [], left, right => ∃ before first second after one other,
      left.children = before ++ first :: second :: after ∧
        right = { left with children := before ++ second :: first :: after } ∧
        first.Sets one ∧ second.Sets other ∧ Text.toUpper one ≠ Text.toUpper other
  | index :: path, left, right => ∃ before first second after,
      left.children = before ++ first :: after ∧
        right = { left with children := before ++ second :: after } ∧
        before.length = index ∧ first.ExchangedAt path second

namespace Element

theorem Sets.isBuiltIn {element : Element} {name : String} (sets : element.Sets name) :
    Registry.isBuiltIn element.name = true := by
  rw [sets.1]
  decide

theorem ExchangedAt.head {path : List Nat} {left right : Element}
    (exchanged : left.ExchangedAt path right) : left.head = right.head := by
  cases path with
  | nil =>
      obtain ⟨before, first, second, after, one, other, -, rfl, -⟩ := exchanged
      rfl
  | cons index path =>
      obtain ⟨before, first, second, after, -, rfl, -⟩ := exchanged
      rfl

theorem ExchangedAt.pruned {path : List Nat} {left right : Element}
    (exchanged : left.ExchangedAt path right) : left.pruned = right.pruned := by
  cases path with
  | nil =>
      obtain ⟨before, first, second, after, one, other, holds, rfl, sets, setsOther, -⟩ := exchanged
      simp [Element.pruned, holds, sets.isBuiltIn, setsOther.isBuiltIn]
  | cons index path =>
      obtain ⟨before, first, second, after, holds, rfl, -, inner⟩ := exchanged
      have named : first.name = second.name := congrArg (fun head => head.name) inner.head
      simp only [Element.pruned, holds, List.filter_append, List.filter_cons, named]
      split <;> simp [inner.head]

end Element

/-- From runs with the same deeds so far both steps come to the same, with the same deeds. -/
def Step.SameDeeds {World Answer : Type} (left right : Step World Answer) : Prop :=
  ∀ run other : Run World, run.Same Entry.deed other →
    (left run).1 = (right other).1 ∧ (left run).2.Same Entry.deed (right other).2

private theorem Run.Same.note_both {World : Type} {run other : Run World}
    (same : run.Same Entry.deed other)
    (first second : Notice) : (run.note first).Same Entry.deed (other.note second) :=
  (same.note_left rfl).note_right rfl

namespace Evaluation

variable {World : Type} {setting : Setting World}

private theorem evaluate_steady {build : Builder World} {element : Element}
    (known : Registry.standard.lookup? element.name = some build) (tokens : Tokens) :
    Step.SameDeeds (evaluate setting .standard build element tokens)
      (evaluate setting .standard build element tokens) := by
  intro run other same
  obtain ⟨visits, evaluation⟩ := (derived setting .standard).1 build element tokens run
  obtain ⟨images, later, again, ended, -⟩ := evaluation.mirrored Element.mirror_refl (fun _ => rfl)
    (.element known rfl) same
  rw [again.stationed.1]
  exact ⟨rfl, ended⟩

private theorem evaluateAll_steady (consumed : List String) (children : List Element)
    (tokens : Tokens) :
    Step.SameDeeds (evaluateAll setting .standard consumed children tokens)
      (evaluateAll setting .standard consumed children tokens) := by
  intro run other same
  obtain ⟨visits, evaluation⟩ := (derived setting .standard).2 consumed children tokens run
  obtain ⟨images, later, again, ended, -⟩ := evaluation.mirrored Element.mirror_refl (fun _ => rfl)
    (.children (List.forall₂_same.mpr fun _ _ => rfl)) same
  rw [again.stationed.1]
  exact ⟨rfl, ended⟩

private theorem inTurn_sameDeeds {left right : Bindings → Step World Outcome}
    (each : ∀ bindings, Step.SameDeeds (left bindings) (right bindings)) (items : List Bindings) :
    Step.SameDeeds (inTurn left items) (inTurn right items) := by
  induction items with
  | nil => exact fun _ _ same => ⟨rfl, same⟩
  | cons bindings rest ih =>
      intro run other same
      obtain ⟨result, ended⟩ := each bindings run other same
      rw [inTurn_cons, inTurn_cons]
      dsimp only
      rw [result]
      split
      · exact ⟨result, ended⟩
      · exact ih _ _ ended

section Filters

variable {left right : Element} {build : Builder World}

private theorem filter_sameDeeds {filter : Filter} (leftBuilt : build left = .ok (.filter filter))
    (rightBuilt : build right = .ok (.filter filter))
    (inside : ∀ scope, Step.SameDeeds
      (evaluateAll setting .standard filter.consumed left.children scope)
      (evaluateAll setting .standard filter.consumed right.children scope)) (tokens : Tokens) :
    Step.SameDeeds (evaluate setting .standard build left tokens)
      (evaluate setting .standard build right tokens) := by
  intro run other same
  have entered : (left.enter run).Same Entry.deed (right.enter other) := same.note_both _ _
  rcases selected : (filter.condition.select setting tokens).run (left.enter run) with
    ⟨chosen, after⟩
  obtain ⟨later, again, ended⟩ := (Condition.select_local _ _ _).same entered selected
  rcases chosen with failure | _ | ⟨bindings, rest⟩
  · rw [(filter_unselected leftBuilt selected).1, (filter_unselected rightBuilt again).1]
    exact ⟨rfl, ended.note_both _ _⟩
  · rw [(filter_unmatched leftBuilt selected).1, (filter_unmatched rightBuilt again).1]
    exact ⟨rfl, ended.note_both _ _⟩
  · have some := List.cons_ne_nil bindings rest
    rw [(filter_matched leftBuilt some selected).1, (filter_matched rightBuilt some again).1]
    have item (bindings : Bindings) : Step.SameDeeds
        (evaluateItem setting .standard filter.consumed left.children tokens bindings)
        (evaluateItem setting .standard filter.consumed right.children tokens bindings) := by
      intro run other same
      obtain ⟨result, ended⟩ := inside (tokens.setAll bindings) run other same
      exact ⟨congrArg (fun ended => ended.1) result, ended⟩
    obtain ⟨result, finished⟩ := inTurn_sameDeeds item (filter.chosen (bindings :: rest)) _ _ ended
    exact ⟨congrArg (fun outcome => (outcome, tokens)) result, finished⟩

private theorem element_sameDeeds (known : Registry.standard.lookup? left.name = some build)
    (heads : left.head = right.head) (pruned : left.pruned = right.pruned)
    (inside : ∀ filter scope, build left = .ok (.filter filter) → Step.SameDeeds
      (evaluateAll setting .standard filter.consumed left.children scope)
      (evaluateAll setting .standard filter.consumed right.children scope)) (tokens : Tokens) :
    Step.SameDeeds (evaluate setting .standard build left tokens)
      (evaluate setting .standard build right tokens) := by
  have same : build left = build right := by
    rw [← Registry.standard_pruned known left, ← Registry.standard_pruned known right, pruned]
  by_cases filters : ∃ filter, build left = .ok (.filter filter)
  · obtain ⟨filter, built⟩ := filters
    exact filter_sameDeeds built (same.symm.trans built) (fun scope => inside filter scope built)
      tokens
  · -- what is no filter evaluates none of its children
    have other : ∀ filter, build left ≠ .ok (.filter filter) :=
      fun filter built => filters ⟨filter, built⟩
    rw [← (shallow setting tokens heads same other).1]
    exact evaluate_steady known tokens

end Filters

section Children

variable {consumed : List String}

private theorem evaluateAll_cons_sameDeeds {left right : Element}
    {leftRest rightRest : List Element} (named : left.name = right.name)
    (first : ∀ build tokens, Registry.standard.lookup? left.name = some build →
      Step.SameDeeds (evaluate setting .standard build left tokens)
        (evaluate setting .standard build right tokens))
    (later : ∀ scope, Step.SameDeeds (evaluateAll setting .standard consumed leftRest scope)
      (evaluateAll setting .standard consumed rightRest scope)) (tokens : Tokens) :
    Step.SameDeeds (evaluateAll setting .standard consumed (left :: leftRest) tokens)
      (evaluateAll setting .standard consumed (right :: rightRest) tokens) := by
  intro run other same
  cases taken : consumed.contains left.name with
  | true =>
      rw [evaluateAll.eq_2, if_pos taken, evaluateAll.eq_2, if_pos (named ▸ taken)]
      exact later tokens run other same
  | false =>
      cases known : (Registry.standard : Registry World).lookup? left.name with
      | none =>
          rw [evaluateAll_unknown taken known,
            evaluateAll_unknown (named ▸ taken) (named ▸ known)]
          exact later tokens _ _ (same.note_both _ _)
      | some build =>
          obtain ⟨result, ended⟩ := first build tokens known run other same
          rw [evaluateAll_known taken known, evaluateAll_known (named ▸ taken) (named ▸ known)]
          dsimp only
          rw [result]
          split
          · exact ⟨result, ended⟩
          · exact later _ _ _ ended

private theorem evaluateAll_append_sameDeeds {leftRest rightRest : List Element}
    (before : List Element)
    (later : ∀ scope, Step.SameDeeds (evaluateAll setting .standard consumed leftRest scope)
      (evaluateAll setting .standard consumed rightRest scope)) (tokens : Tokens) :
    Step.SameDeeds (evaluateAll setting .standard consumed (before ++ leftRest) tokens)
      (evaluateAll setting .standard consumed (before ++ rightRest) tokens) := by
  induction before generalizing tokens with
  | nil => exact later tokens
  | cons child rest ih =>
      exact evaluateAll_cons_sameDeeds rfl (fun _ scope known => evaluate_steady known scope) ih
        tokens

private theorem evaluate_sets {build : Builder World} {element : Element} {name : String}
    (known : Registry.standard.lookup? element.name = some build) (sets : element.Sets name)
    (tokens : Tokens) (run : Run World) :
    evaluate setting .standard build element tokens run =
      ((.done, tokens.set name (element.text.getD "")), element.enter run) := by
  obtain ⟨named, token, required, same⟩ := sets
  have built : build element = .ok (.action (.setToken token (element.text.getD ""))) := by
    rw [named] at known
    cases known
    change Except.map Rule.action (element.requireAttribute "name" >>= fun token =>
      pure (.setToken token (element.text.getD ""))) = _
    rw [required]
    rfl
  rw [evaluate_act built rfl, Tokens.set_congr same.symm]
  rfl

private theorem evaluateAll_sets {element : Element} {name : String}
    (kept : consumed.contains "SetToken" = false) (sets : element.Sets name) (rest : List Element)
    (tokens : Tokens) (run : Run World) :
    evaluateAll setting .standard consumed (element :: rest) tokens run =
      evaluateAll setting .standard consumed rest (tokens.set name (element.text.getD ""))
        (element.enter run) := by
  obtain ⟨build, known⟩ : ∃ build, (Registry.standard : Registry World).lookup? element.name =
      some build := by
    rw [sets.1]
    exact ⟨_, rfl⟩
  rw [evaluateAll_known (sets.1 ▸ kept) known, evaluate_sets known sets]
  rfl

private theorem evaluateAll_exchange {first second : Element} {one other : String}
    (kept : consumed.contains "SetToken" = false) (sets : first.Sets one)
    (setsOther : second.Sets other) (apart : Text.toUpper one ≠ Text.toUpper other)
    (after : List Element) (tokens : Tokens) :
    Step.SameDeeds (evaluateAll setting .standard consumed (first :: second :: after) tokens)
      (evaluateAll setting .standard consumed (second :: first :: after) tokens) := by
  intro run start same
  rw [evaluateAll_sets kept sets, evaluateAll_sets kept setsOther, evaluateAll_sets kept setsOther,
    evaluateAll_sets kept sets, Tokens.set_comm apart]
  have entered : (second.enter (first.enter run)).Same Entry.deed
      (first.enter (second.enter start)) := (same.note_both _ _).note_both _ _
  exact evaluateAll_steady consumed after _ _ _ entered

end Children

private theorem exchanged_sameDeeds {path : List Nat} {left right : Element} {build : Builder World}
    (exchanged : left.ExchangedAt path right)
    (known : Registry.standard.lookup? left.name = some build) (tokens : Tokens) :
    Step.SameDeeds (evaluate setting .standard build left tokens)
      (evaluate setting .standard build right tokens) := by
  induction path generalizing left right build tokens with
  | nil =>
      refine element_sameDeeds known exchanged.head exchanged.pruned (fun filter scope built => ?_)
        tokens
      obtain ⟨before, first, second, after, one, other, holds, rfl, sets, setsOther, apart⟩ :=
        exchanged
      have parameters := Registry.standard_consumed known built
      have kept := Registry.not_consumed parameters sets.isBuiltIn
      rw [holds]
      exact evaluateAll_append_sameDeeds before
        (evaluateAll_exchange (sets.1 ▸ kept) sets setsOther apart after) scope
  | cons index path ih =>
      refine element_sameDeeds known exchanged.head exchanged.pruned (fun filter scope built => ?_)
        tokens
      obtain ⟨before, first, second, after, holds, rfl, -, inner⟩ := exchanged
      have named : first.name = second.name := congrArg (fun head => head.name) inner.head
      rw [holds]
      refine evaluateAll_append_sameDeeds before (fun scope => ?_) scope
      exact evaluateAll_cons_sameDeeds named (fun build scope known => ih inner known scope)
        (evaluateAll_steady filter.consumed after) scope

end Evaluation

/-- The order of neighbours that set tokens of different names makes no difference to what a
document comes to, nor to what is done on the way: which questions are asked, what the client is
told, and which messages, commands and files there are. -/
theorem independent_tokens_commute {World : Type} (setting : Setting World) (path : List Nat)
    (left right : Element) (tokens : Tokens) (start : Run World)
    (exchanged : left.ExchangedAt path right) :
    let ended := Evaluation.run setting .standard left tokens start
    let other := Evaluation.run setting .standard right tokens start
    other.1 = ended.1 ∧ ended.2.Same Entry.deed other.2 := by
  have named : left.name = right.name := congrArg (fun head => head.name) exchanged.head
  have executed : (Evaluation.execute setting .standard left tokens start).1 =
        (Evaluation.execute setting .standard right tokens start).1 ∧
      (Evaluation.execute setting .standard left tokens start).2.Same Entry.deed
        (Evaluation.execute setting .standard right tokens start).2 := by
    cases known : (Registry.standard : Registry World).lookup? left.name with
    | none =>
        have placed : left.span = right.span := congrArg (fun head => head.span) exchanged.head
        rw [Evaluation.execute_unknown known, Evaluation.execute_unknown (named ▸ known), named,
          placed]
        exact ⟨rfl, (Run.Same.refl Entry.deed start).note_both _ _⟩
    | some build =>
        rw [Evaluation.execute_known known, Evaluation.execute_known (named ▸ known)]
        exact Evaluation.exchanged_sameDeeds exchanged known tokens start start (.refl _ start)
  rcases ended : Evaluation.execute setting .standard left tokens start with ⟨result, after⟩
  rcases again : Evaluation.execute setting .standard right tokens start with ⟨result', later⟩
  rw [ended, again] at executed
  obtain ⟨rfl, same⟩ := executed
  exact Evaluation.run_same ended again same

/-- A value that names the other token may be set before that token or after it. -/
theorem named_value_expanded_later :
    let setting := Setting.onPaper .none { (default : Event) with subject := .revision 5 }
    let say (name value : String) : Element :=
      ⟨"SetToken", [("name", name)], some value, [], .nowhere⟩
    let root (children : List Element) : Element := ⟨"Actions", [], none,
      children ++ [⟨"SetRevisionFile", [], some "${File}", [], .nowhere⟩], .nowhere⟩
    let left := root [say "file" "/${Name}", say "name" "kept"]
    let right := root [say "name" "kept", say "file" "/${Name}"]
    let ended := Evaluation.run setting .standard left .empty ⟨(), []⟩
    let other := Evaluation.run setting .standard right .empty ⟨(), []⟩
    ended.2.journal.filter Entry.deed = [.wrote "/kept" "5\n"] ∧
      other.1 = ended.1 ∧ ended.2.Same Entry.deed other.2 := by
  intro setting say root left right ended other
  have exchanged : left.ExchangedAt [] right :=
    ⟨[], say "file" "/${Name}", say "name" "kept", _, "file", "name", rfl, rfl,
      ⟨rfl, "file", rfl, rfl⟩, ⟨rfl, "name", rfl, rfl⟩, by decide⟩
  exact ⟨by decide +kernel,
    independent_tokens_commute setting [] left right .empty ⟨(), []⟩ exchanged⟩

end HookRules
