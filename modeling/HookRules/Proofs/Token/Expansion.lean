import HookRules.Proofs.Token.Height

/-!
What expansion comes to. Where it succeeds on guarded texts, every placeholder of a set token is
replaced by the full expansion of its value; how high a text may be is decided by the number of
passes, since every pass takes one link off every chain of references.
-/

set_option autoImplicit false

namespace HookRules.Tokens

/-- The full expansion of a text: every placeholder of a set token is replaced by the full expansion
of its value, and all else stays. -/
inductive Expands (tokens : Tokens) : List Char → List Char → Prop
  | nil : Expands tokens [] []
  | replaced {name rest held inner result} :
      IsName name → tokens.lookup? (String.ofList name) = some held →
      Expands tokens held.toList inner → Expands tokens rest result →
      Expands tokens ((Fragment.placeholder name).source ++ rest) (inner ++ result)
  | unset {name rest result} :
      IsName name → tokens.lookup? (String.ofList name) = none → Expands tokens rest result →
      Expands tokens ((Fragment.placeholder name).source ++ rest)
        ((Fragment.placeholder name).source ++ result)
  | char {c rest result} :
      ¬ BeginsPlaceholder (c :: rest) → Expands tokens rest result →
      Expands tokens (c :: rest) (c :: result)

inductive Means (tokens : Tokens) : List Fragment → List Char → Prop
  | nil : Means tokens [] []
  | replaced {fragment rest held inner result} :
      tokens.valueOf? fragment = some held → Means tokens (Fragment.ofText held.toList) inner →
      Means tokens rest result → Means tokens (fragment :: rest) (inner ++ result)
  | kept {fragment rest result} :
      tokens.valueOf? fragment = none → Means tokens rest result →
      Means tokens (fragment :: rest) (fragment.source ++ result)

/-- What one pass makes of fragments. -/
def step (tokens : Tokens) (fragments : List Fragment) : List Fragment :=
  fragments.flatMap fun fragment =>
    match tokens.valueOf? fragment with
    | some held => Fragment.ofText held.toList
    | none => [fragment]

variable {tokens : Tokens} {text result : List Char} {fragments : List Fragment}

section Meaning

theorem Means.expands (means : tokens.Means fragments result) (reads : Reads text fragments) :
    tokens.Expands text result := by
  induction means generalizing text with
  | nil =>
      cases reads
      exact .nil
  | replaced set _ _ innerIH restIH =>
      cases reads with
      | placeholder named rest => exact .replaced named set (innerIH (reads_ofText _)) (restIH rest)
      | char _ _ => cases set
  | kept unset _ ih =>
      cases reads with
      | placeholder named rest => exact .unset named unset (ih rest)
      | char plain rest => exact .char plain (ih rest)

theorem expands_iff : tokens.Expands text result ↔ tokens.Means (Fragment.ofText text) result := by
  constructor
  · intro expands
    induction expands with
    | nil => exact .nil
    | replaced named set _ _ innerIH restIH =>
        rw [Fragment.ofText_placeholder named]
        exact .replaced set innerIH restIH
    | unset named unset _ ih =>
        rw [Fragment.ofText_placeholder named]
        exact .kept unset ih
    | char plain _ ih =>
        rw [Fragment.ofText_char plain]
        exact .kept rfl ih
  · intro means
    exact means.expands (reads_ofText text)

theorem Means.unique {other : List Char} (means : tokens.Means fragments result)
    (again : tokens.Means fragments other) : result = other := by
  induction means generalizing other with
  | nil =>
      cases again
      rfl
  | replaced set _ _ innerIH restIH =>
      cases again with
      | replaced setAgain inner rest =>
          rw [set] at setAgain
          cases setAgain
          rw [innerIH inner, restIH rest]
      | kept unset _ =>
          rw [set] at unset
          cases unset
  | kept unset _ ih =>
      cases again with
      | replaced set _ _ =>
          rw [unset] at set
          cases set
      | kept _ rest => rw [ih rest]

theorem Means.split {first second : List Fragment}
    (means : tokens.Means (first ++ second) result) :
    ∃ left right, result = left ++ right ∧ tokens.Means first left ∧ tokens.Means second right := by
  induction first generalizing result with
  | nil => exact ⟨[], result, rfl, .nil, means⟩
  | cons fragment first ih =>
      cases means with
      | replaced set inner rest =>
          obtain ⟨left, right, rfl, before, after⟩ := ih rest
          exact ⟨_, right, (List.append_assoc _ _ _).symm, .replaced set inner before, after⟩
      | kept unset rest =>
          obtain ⟨left, right, rfl, before, after⟩ := ih rest
          exact ⟨_, right, (List.append_assoc _ _ _).symm, .kept unset before, after⟩

private theorem Means.of_step (means : tokens.Means (tokens.step fragments) result) :
    tokens.Means fragments result := by
  induction fragments generalizing result with
  | nil => exact means
  | cons fragment rest ih =>
      rw [step, List.flatMap_cons] at means
      obtain ⟨left, right, rfl, first, later⟩ := means.split
      cases set : tokens.valueOf? fragment with
      | some held =>
          simp only [set] at first
          exact .replaced set first (ih later)
      | none =>
          simp only [set] at first
          cases first with
          | replaced wrong _ _ =>
              rw [set] at wrong
              cases wrong
          | kept _ nothing =>
              cases nothing
              rw [List.append_nil]
              exact .kept set (ih later)

private theorem means_written (plain : ∀ fragment ∈ fragments, tokens.valueOf? fragment = none) :
    tokens.Means fragments (Fragment.written fragments) := by
  induction fragments with
  | nil => exact .nil
  | cons fragment rest ih =>
      exact .kept (plain fragment List.mem_cons_self)
        (ih fun later member => plain later (List.mem_cons_of_mem _ member))

end Meaning

section Pass

private theorem step_cons (fragment : Fragment) (rest : List Fragment) :
    tokens.step (fragment :: rest) = (match tokens.valueOf? fragment with
      | some held => Fragment.ofText held.toList
      | none => [fragment]) ++ tokens.step rest := rfl

private theorem substitute_cons (fragment : Fragment) (rest : List Fragment) :
    tokens.substitute (fragment :: rest) = (match tokens.valueOf? fragment with
      | some held => held.toList
      | none => fragment.source) ++ tokens.substitute rest := rfl

private theorem substitute_append (first second : List Fragment) :
    tokens.substitute (first ++ second) = tokens.substitute first ++ tokens.substitute second :=
  List.flatMap_append

private theorem written_step (fragments : List Fragment) :
    Fragment.written (tokens.step fragments) = tokens.substitute fragments := by
  induction fragments with
  | nil => rfl
  | cons fragment rest ih =>
      rw [step_cons, substitute_cons, ← ih, Fragment.written_append]
      cases tokens.valueOf? fragment with
      | some held => rw [written_ofText]
      | none =>
          rw [Fragment.written, List.flatMap_singleton]

private theorem step_safe
    (values : ∀ name held, tokens.lookup? name = some held → Guarded held.toList)
    (safe : Safe fragments) : Safe (tokens.step fragments) := by
  induction safe with
  | nil => exact .nil
  | @placeholder name rest named _ ih =>
      rw [step_cons]
      refine Safe.append ?_ ih
      cases set : tokens.valueOf? (.placeholder name) with
      | some held => exact guarded_iff.mp (values _ _ set)
      | none => exact .placeholder named .nil
  | char plain _ ih => exact .char plain ih
  | dollar other brace _ ih => exact .dollar other brace ih

private theorem ofText_substitute
    (values : ∀ name held, tokens.lookup? name = some held → Guarded held.toList)
    (guarded : Guarded text) :
    Fragment.ofText (tokens.substitute (Fragment.ofText text)) =
      tokens.step (Fragment.ofText text) := by
  rw [← written_step]
  exact (step_safe values (guarded_iff.mp guarded)).reads.fragments_eq

private theorem substitute_guarded
    (values : ∀ name held, tokens.lookup? name = some held → Guarded held.toList)
    (guarded : Guarded text) : Guarded (tokens.substitute (Fragment.ofText text)) := by
  rw [← written_step]
  exact (step_safe values (guarded_iff.mp guarded)).guarded

private theorem infix_substitute {value : List Char} (refers : tokens.Refers text value) :
    value <:+: tokens.substitute (Fragment.ofText text) := by
  obtain ⟨fragment, member, held, set, rfl⟩ := refers_iff.mp refers
  obtain ⟨before, after, parts⟩ := List.append_of_mem member
  refine ⟨tokens.substitute before, tokens.substitute after, ?_⟩
  rw [parts, substitute_append, substitute_cons, set, List.append_assoc]

private theorem deep_substitute {links : Nat} (deep : tokens.Deep (links + 1) text) :
    tokens.Deep links (tokens.substitute (Fragment.ofText text)) := by
  obtain ⟨value, refers, rest⟩ := deep
  exact rest.infix (infix_substitute refers)

private theorem deep_of_substitute
    (values : ∀ name held, tokens.lookup? name = some held → Guarded held.toList)
    (guarded : Guarded text) {links : Nat}
    (deep : tokens.Deep (links + 1) (tokens.substitute (Fragment.ofText text))) :
    tokens.Deep (links + 2) text := by
  obtain ⟨value, refers, rest⟩ := deep
  obtain ⟨inner, member, held, set, rfl⟩ := refers_iff.mp refers
  rw [ofText_substitute values guarded] at member
  obtain ⟨outer, listed, produced⟩ := List.mem_flatMap.mp member
  cases outerSet : tokens.valueOf? outer with
  | some middle =>
      simp only [outerSet] at produced
      exact ⟨middle.toList, valueOf?_refers listed outerSet, held.toList,
        valueOf?_refers produced set, rest⟩
  | none =>
      simp only [outerSet, List.mem_singleton] at produced
      rw [produced, outerSet] at set
      cases set

end Pass

section Passes

private theorem any_valueOf?_iff : ((Fragment.ofText text).any fun fragment =>
    (tokens.valueOf? fragment).isSome) = true ↔ ∃ value, tokens.Refers text value := by
  rw [List.any_eq_true]
  constructor
  · rintro ⟨fragment, member, set⟩
    obtain ⟨held, set⟩ := Option.isSome_iff_exists.mp set
    exact ⟨held.toList, valueOf?_refers member set⟩
  · rintro ⟨value, refers⟩
    obtain ⟨fragment, member, held, set, _⟩ := refers_iff.mp refers
    exact ⟨fragment, member, Option.isSome_iff_exists.mpr ⟨held, set⟩⟩

private theorem expandWithin_plain (plain : ∀ value, ¬ tokens.Refers text value) (passes : Nat) :
    tokens.expandWithin (passes + 1) text = some text := by
  rw [expandWithin]
  exact if_neg fun found => by
    obtain ⟨value, refers⟩ := any_valueOf?_iff.mp found
    exact plain value refers

private theorem expandWithin_refers {value : List Char} (refers : tokens.Refers text value)
    (passes : Nat) :
    tokens.expandWithin (passes + 1) text =
      tokens.expandWithin passes (tokens.substitute (Fragment.ofText text)) := by
  rw [expandWithin]
  exact if_pos (any_valueOf?_iff.mpr ⟨value, refers⟩)

private theorem expandWithin_deep {passes : Nat} (deep : tokens.Deep passes text) :
    tokens.expandWithin passes text = none := by
  induction passes generalizing text with
  | zero => rfl
  | succ passes ih =>
      obtain ⟨value, refers, _⟩ := id deep
      rw [expandWithin_refers refers]
      exact ih (deep_substitute deep)

private theorem expandWithin_guarded
    (values : ∀ name held, tokens.lookup? name = some held → Guarded held.toList) {passes : Nat}
    (guarded : Guarded text) (shallow : ¬ tokens.Deep passes text) :
    ∃ result, tokens.expandWithin passes text = some result ∧
      tokens.Means (Fragment.ofText text) result := by
  induction passes generalizing text with
  | zero => exact absurd trivial shallow
  | succ passes ih =>
      by_cases plain : ∃ value, tokens.Refers text value
      · obtain ⟨value, refers⟩ := plain
        have shallowNext : ¬ tokens.Deep passes (tokens.substitute (Fragment.ofText text)) := by
          intro deep
          cases passes with
          | zero => exact shallow ⟨value, refers, trivial⟩
          | succ passes => exact shallow (deep_of_substitute values guarded deep)
        obtain ⟨result, expanded, means⟩ := ih (substitute_guarded values guarded) shallowNext
        rw [ofText_substitute values guarded] at means
        rw [expandWithin_refers refers]
        exact ⟨result, expanded, means.of_step⟩
      · have unset : ∀ fragment ∈ Fragment.ofText text, tokens.valueOf? fragment = none := by
          intro fragment member
          cases set : tokens.valueOf? fragment with
          | none => rfl
          | some held => exact absurd ⟨_, valueOf?_refers member set⟩ plain
        rw [expandWithin_plain fun value refers => plain ⟨value, refers⟩]
        have means := means_written unset
        rw [written_ofText] at means
        exact ⟨text, rfl, means⟩

theorem expandWithin_complete {passes : Nat}
    (expanded : tokens.expandWithin passes text = some result) :
    ∀ value, ¬ tokens.Refers result value := by
  induction passes generalizing text with
  | zero => cases expanded
  | succ passes ih =>
      by_cases refers : ∃ value, tokens.Refers text value
      · obtain ⟨value, refers⟩ := refers
        rw [expandWithin_refers refers] at expanded
        exact ih expanded
      · have plain : ∀ value, ¬ tokens.Refers text value := fun value found => refers ⟨value, found⟩
        rw [expandWithin_plain plain] at expanded
        cases expanded
        exact plain

end Passes

/-- Expansion by the height of a text. From twelve on, or where there is a cycle, it fails and names
the text; up to eleven it gives the full expansion of a guarded text; and its results have nothing
left to expand. -/
theorem expand_by_height (tokens : Tokens) (text : String) :
    (tokens.Cyclic text.toList ∨ 12 ≤ tokens.height text.toList →
      tokens.expand text = .error (.tooDeep text)) ∧
    (Guarded text.toList →
      (∀ name held, tokens.lookup? name = some held → Guarded held.toList) →
      tokens.height text.toList ≤ 11 →
      ∃ result, tokens.expand text = .ok result ∧
        ∀ other, tokens.Expands text.toList other ↔ other = result.toList) ∧
    (∀ result, tokens.expand text = .ok result →
      (∀ name, Occurs name result.toList → tokens.lookup? (String.ofList name) = none) ∧
        tokens.expand result = .ok result) := by
  refine ⟨?_, ?_, ?_⟩
  · intro high
    have deep : tokens.Deep 12 text.toList := by
      rcases high with cyclic | high
      · exact cyclic.deep 12
      · exact le_height_iff.mp high
    rw [expand, passLimit, expandWithin_deep deep]
  · intro guarded values low
    have shallow : ¬ tokens.Deep 12 text.toList := height_le_iff.mp low
    obtain ⟨result, expanded, means⟩ := expandWithin_guarded values guarded shallow
    refine ⟨String.ofList result, ?_, fun other => ?_⟩
    · rw [expand, passLimit, expanded]
    · rw [expands_iff, String.toList_ofList]
      exact ⟨fun again => again.unique means, fun same => same ▸ means⟩
  · intro result expanded
    rw [expand] at expanded
    split at expanded
    · rename_i final found
      cases expanded
      have plain := expandWithin_complete found
      rw [String.toList_ofList]
      refine ⟨fun name occurs => ?_, ?_⟩
      · cases set : tokens.lookup? (String.ofList name) with
        | none => rfl
        | some held => exact absurd ⟨name, held, occurs, set, rfl⟩ (plain held.toList)
      · rw [expand, String.toList_ofList, passLimit, expandWithin_plain plain]
    · cases expanded

/-- A text that leads back to itself, and one with an unset name and a sign that is none. -/
theorem expand_loop_and_nesting :
    let looping := Tokens.ofList [("loop", "again ${Loop}")]
    let nested := Tokens.ofList [("quote", "for $1: ${Happy}!"), ("happy", "joy")]
    looping.Cyclic "${loop}".toList ∧
      looping.expand "${loop}" = .error (.tooDeep "${loop}") ∧
      Guarded "<${Quote} ${nobody}>".toList ∧ nested.height "<${Quote} ${nobody}>".toList ≤ 11 ∧
      (∃ result, nested.expand "<${Quote} ${nobody}>" = .ok result ∧
        ∀ other, nested.Expands "<${Quote} ${nobody}>".toList other ↔ other = result.toList) ∧
      nested.expand "<for $1: joy! ${nobody}>" = .ok "<for $1: joy! ${nobody}>" := by
  intro looping nested
  have start : looping.Refers "${loop}".toList "again ${Loop}".toList :=
    refers_iff.mpr ⟨.placeholder "loop".toList, by decide +kernel, "again ${Loop}",
      by decide +kernel, rfl⟩
  have again : looping.Refers "again ${Loop}".toList "again ${Loop}".toList :=
    refers_iff.mpr ⟨.placeholder "Loop".toList, by decide +kernel, "again ${Loop}",
      by decide +kernel, rfl⟩
  have cyclic : looping.Cyclic "${loop}".toList := ⟨_, .single start, .single again⟩
  have guarded : Guarded "<${Quote} ${nobody}>".toList := by decide +kernel
  have values : ∀ name held, nested.lookup? name = some held → Guarded held.toList := by
    have held : ∀ entry ∈ nested.entries, Guarded entry.2.toList := by decide +kernel
    intro name value set
    exact held _ ((nested.mem_entries_iff name value).mpr set)
  have low : nested.height "<${Quote} ${nobody}>".toList ≤ (11 : Nat) :=
    height_le_iff.mpr (by decide +kernel)
  have expanded : nested.expand "<${Quote} ${nobody}>" = .ok "<for $1: joy! ${nobody}>" := by
    decide +kernel
  obtain ⟨fails, _, _⟩ := expand_by_height looping "${loop}"
  obtain ⟨_, succeeds, complete⟩ := expand_by_height nested "<${Quote} ${nobody}>"
  exact ⟨cyclic, fails (.inl cyclic), guarded, low, succeeds guarded values low,
    (complete _ expanded).2⟩

end HookRules.Tokens
