import HookRules.Proofs.Fact.Answers
import HookRules.Proofs.Run.Derivation
import Mathlib.Data.List.Forall2
import Mathlib.Data.List.TakeWhile

/-!
Case conflicts. Of a listing the additions that replace nothing are looked at, each beside the
entries of its parent folder, and nothing else is asked for. An addition conflicts with every entry
whose name is its own but for the case of ASCII letters.
-/

set_option autoImplicit false

namespace HookRules

namespace Condition

/-- The text without the slashes at its end. -/
def Trimmed (text short : String) : Prop :=
  ∃ slashes, (∀ c ∈ slashes, c = '/') ∧ text.toList = short.toList ++ slashes ∧
    short.toList.getLast? ≠ some '/'

/-- The folder is what precedes the last slash of the path, slashes at its end apart, and the name
is what follows; without such a slash it is the root. -/
def Parent (path folder name : String) : Prop :=
  ∃ short, Trimmed path short ∧ '/' ∉ name.toList ∧
    (short.toList = folder.toList ++ '/' :: name.toList ∨ folder = "" ∧ short = name)

/-- The addition and the entry have names that differ in the case of ASCII letters alone, and this
is what a match binds. -/
inductive Conflict (change : Change) (entry : String) : Bindings → Prop
  | intro {folder existing added : String} :
      Parent change.path folder added → Trimmed entry existing → existing ≠ added →
      Text.asciiLower existing = Text.asciiLower added →
      Conflict change entry
        [("Folder", "/" ++ folder), ("Existing", existing), ("Added", added), ("Path", change.path)]

/-! ## Paths and names -/

private theorem trimmed_iff {text short : String} :
    Trimmed text short ↔ entryName text = short := by
  constructor
  · rintro ⟨slashes, trailing, whole, ends⟩
    have stays : ∀ c ∈ short.toList.getLast?, decide (c = '/') = false := by
      intro c last
      have other : c ≠ '/' := fun same => ends (same ▸ last)
      simp [other]
    rw [entryName, whole, Text.dropEndWhile_append (by simpa using trailing) stays,
      String.ofList_toList]
  · rintro rfl
    refine ⟨Text.takeEndWhile (fun c => c = '/') text.toList, ?_, ?_, ?_⟩
    · intro c member
      simpa using List.mem_takeWhile_imp (List.mem_reverse.mp member)
    · rw [entryName, String.toList_ofList, Text.dropEndWhile_append_takeEndWhile]
    · intro last
      have stays := List.head?_dropWhile_not (fun c => decide (c = '/')) text.toList.reverse
      rw [entryName, String.toList_ofList, Text.dropEndWhile, List.getLast?_reverse] at last
      rw [last] at stays
      simp at stays

private theorem splitPath_of_reversed {path : String} {name rest : List Char}
    (reversed : (entryName path).toList.reverse = name ++ rest) (plain : '/' ∉ name)
    (ends : ∀ c ∈ rest.head?, c = '/') :
    splitPath path = (String.ofList (rest.drop 1).reverse, String.ofList name.reverse) := by
  have passes : ∀ c ∈ name, decide (c ≠ '/') = true := by
    intro c member
    have other : c ≠ '/' := fun same => plain (same ▸ member)
    simp [other]
  have taken : (name ++ rest).takeWhile (· ≠ '/') = name := by
    rw [List.takeWhile_append_of_pos passes]
    cases rest with
    | nil => simp
    | cons c rest =>
        obtain rfl : c = '/' := ends c rfl
        simp
  rw [entryName, String.toList_ofList, Text.dropEndWhile, List.reverse_reverse] at reversed
  rw [splitPath, reversed, taken, List.length_reverse, List.drop_left]

private theorem Parent.splitPath_eq {path folder name : String} (parent : Parent path folder name) :
    splitPath path = (folder, name) := by
  obtain ⟨short, trimmed, plain, inside⟩ := parent
  obtain rfl := trimmed_iff.mp trimmed
  have plain' : '/' ∉ name.toList.reverse := by simpa using plain
  rcases inside with inside | ⟨rfl, rfl⟩
  · have reversed : (entryName path).toList.reverse =
        name.toList.reverse ++ '/' :: folder.toList.reverse := by simp [inside]
    rw [splitPath_of_reversed reversed plain' (by simp)]
    simp
  · rw [splitPath_of_reversed (List.append_nil _).symm plain' (by simp)]
    simp

private theorem exists_parent (path : String) : ∃ folder name, Parent path folder name := by
  have trimmed := trimmed_iff.mpr (rfl : entryName path = _)
  by_cases inside : '/' ∈ (entryName path).toList.reverse
  · obtain ⟨name, folder, whole, plain⟩ := List.eq_append_cons_of_mem inside
    refine ⟨String.ofList folder.reverse, String.ofList name.reverse, _, trimmed, ?_, .inl ?_⟩
    · simpa using plain
    · rw [← List.reverse_reverse (entryName path).toList, whole]
      simp
  · exact ⟨"", entryName path, _, trimmed, by simpa using inside, .inr ⟨rfl, rfl⟩⟩

theorem parent_iff {path folder name : String} :
    Parent path folder name ↔ splitPath path = (folder, name) := by
  constructor
  · exact Parent.splitPath_eq
  · intro split
    obtain ⟨_, _, parent⟩ := exists_parent path
    have same := parent.splitPath_eq
    rw [split, Prod.mk.injEq] at same
    rwa [same.1, same.2]

/-! ## Conflicts -/

/-- What the addition and the entry bind, if they conflict. -/
def conflict? (change : Change) (entry : String) : Option Bindings :=
  let (folder, added) := splitPath change.path
  let existing := entryName entry
  if existing ≠ added ∧ Text.asciiLower existing = Text.asciiLower added then
    some (conflictBindings change folder existing added)
  else none

theorem conflict?_iff {change : Change} {entry : String} {bindings : Bindings} :
    conflict? change entry = some bindings ↔ Conflict change entry bindings := by
  obtain ⟨folder, added, parent⟩ := exists_parent change.path
  rw [conflict?, parent.splitPath_eq, Option.ite_none_right_eq_some]
  constructor
  · rintro ⟨⟨differs, same⟩, bound⟩
    cases bound
    exact .intro parent (trimmed_iff.mpr rfl) differs same
  · rintro ⟨other, trimmed, differs, same⟩
    obtain ⟨rfl, rfl⟩ := Prod.mk.inj (parent.splitPath_eq.symm.trans other.splitPath_eq)
    obtain rfl := trimmed_iff.mp trimmed
    exact ⟨⟨differs, same⟩, rfl⟩

private theorem map_conflictsWith {change : Change} {folder added : String}
    (split : splitPath change.path = (folder, added)) (entries : List String) :
    (conflictsWith added entries).map (conflictBindings change folder · added) =
      entries.filterMap (conflict? change) := by
  induction entries with
  | nil => rfl
  | cons entry entries ih =>
      rw [List.filterMap_cons, conflict?, split, ← ih, conflictsWith, conflictsWith, List.map_cons,
        List.filter_cons]
      by_cases conflicting : entryName entry ≠ added ∧
          Text.asciiLower (entryName entry) = Text.asciiLower added
      · simp [conflicting]
      · simp [conflicting]

private theorem toNat_toLower (c : Char) :
    c.toLower.toNat = if 65 ≤ c.toNat ∧ c.toNat ≤ 90 then c.toNat + 32 else c.toNat := by
  have capital_iff : (c.val ≥ 'A'.val ∧ c.val ≤ 'Z'.val) ↔ 65 ≤ c.toNat ∧ c.toNat ≤ 90 := by
    rw [ge_iff_le, UInt32.le_iff_toNat_le, UInt32.le_iff_toNat_le]
    rfl
  by_cases capital : 65 ≤ c.toNat ∧ c.toNat ≤ 90
  · have bounded : c.val.toNat ≤ 90 := capital.2
    unfold Char.toLower
    rw [dif_pos (capital_iff.mpr capital), if_pos capital]
    change (c.val + 32).toNat = c.val.toNat + 32
    have shift : (32 : UInt32).toNat = 32 := rfl
    rw [UInt32.toNat_add, shift]
    omega
  · unfold Char.toLower
    rw [dif_neg (fun found => capital (capital_iff.mp found)), if_neg capital]

private theorem isAlpha_iff (c : Char) : c.isAlpha = true ↔
    65 ≤ c.toNat ∧ c.toNat ≤ 90 ∨ 97 ≤ c.toNat ∧ c.toNat ≤ 122 := by
  unfold Char.isAlpha Char.isUpper Char.isLower
  simp only [Bool.or_eq_true, Bool.and_eq_true, decide_eq_true_eq, ge_iff_le,
    UInt32.le_iff_toNat_le]
  rfl

private theorem toLower_eq {c d : Char} (same : c.toLower = d.toLower) :
    c = d ∨ c.isAlpha = true ∧ d.isAlpha = true := by
  have numbers := congrArg Char.toNat same
  rw [toNat_toLower, toNat_toLower] at numbers
  rw [isAlpha_iff, isAlpha_iff, ← Char.toNat_inj]
  split at numbers <;> split at numbers <;> omega

theorem asciiLower_iff {left right : String} :
    Text.asciiLower left = Text.asciiLower right ↔
      left.toList.map Char.toLower = right.toList.map Char.toLower := by
  rw [← String.toList_inj, Text.asciiLower, Text.asciiLower, String.toList_map, String.toList_map]

private theorem asciiLower_eq {left right : String}
    (same : Text.asciiLower left = Text.asciiLower right) :
    List.Forall₂ (fun c d => c = d ∨ c.isAlpha = true ∧ d.isAlpha = true) left.toList
      right.toList := by
  have mapped := asciiLower_iff.mp same
  rw [← List.forall₂_eq_eq_eq, List.forall₂_map_left_iff, List.forall₂_map_right_iff] at mapped
  exact mapped.imp fun _ _ => toLower_eq

/-! ## The survey of a listing -/

variable {World : Type}

/-- The changes are gone through in order. Additions that replace nothing are looked at beside the
entries of their parent folder, for which the facts are asked; of the others nothing is asked. -/
inductive Surveyed (facts : Facts World) :
    List Change → World → List (Change × List String) → List Query → World → Prop
  | done {world} : Surveyed facts [] world [] [] world
  | passed {change rest world found queries final} :
      change.isAdd = false ∨ change.replaced = true →
      Surveyed facts rest world found queries final →
      Surveyed facts (change :: rest) world found queries final
  | looked {change rest world folder added entries found queries final} :
      change.isAdd = true → change.replaced = false → Parent change.path folder added →
      (facts.entries folder world).result = .ok entries →
      Surveyed facts rest (facts.entries folder world).world found queries final →
      Surveyed facts (change :: rest) world ((change, entries) :: found)
        ((facts.entries folder world).queries ++ queries) final

/-- One item for each addition and entry that conflict, in the order of the additions and, beside
one addition, of the entries. -/
def Selects (found : List (Change × List String)) (items : List Bindings) : Prop :=
  ∃ pick : Change → String → Option Bindings,
    (∀ change entry bindings, pick change entry = some bindings ↔ Conflict change entry bindings) ∧
      items = found.flatMap fun looked => looked.2.filterMap (pick looked.1)

theorem Selects.mem_iff {found : List (Change × List String)} {items : List Bindings}
    (selects : Selects found items) {bindings : Bindings} :
    bindings ∈ items ↔
      ∃ looked ∈ found, ∃ entry ∈ looked.2, Conflict looked.1 entry bindings := by
  obtain ⟨pick, picks, rfl⟩ := selects
  simp only [List.mem_flatMap, List.mem_filterMap, picks]

private theorem Selects.ne_nil_iff {found : List (Change × List String)} {items : List Bindings}
    (selects : Selects found items) :
    items ≠ [] ↔
      ∃ looked ∈ found, ∃ entry ∈ looked.2, ∃ bindings, Conflict looked.1 entry bindings := by
  constructor
  · intro some
    obtain ⟨bindings, member⟩ := List.exists_mem_of_ne_nil items some
    obtain ⟨looked, among, entry, within, conflict⟩ := selects.mem_iff.mp member
    exact ⟨looked, among, entry, within, bindings, conflict⟩
  · rintro ⟨looked, among, entry, within, bindings, conflict⟩
    exact List.ne_nil_of_mem (selects.mem_iff.mpr ⟨looked, among, entry, within, conflict⟩)

private theorem mayConflict_iff {change : Change} :
    mayConflict change = true ↔ change.isAdd = true ∧ change.replaced = false := by
  simp [mayConflict]

private theorem conflicts_run (facts : Facts World)
    (answered : ∀ folder world, ∃ entries, (facts.entries folder world).result = .ok entries)
    (changes : List Change) (world : World) :
    ∃ found queries final, Surveyed facts changes world found queries final ∧
      ∀ journal, (conflicts facts changes).run ⟨world, journal⟩ =
        (.ok (found.flatMap fun looked => looked.2.filterMap (conflict? looked.1)),
          ⟨final, journal ++ queries.map .asked⟩) := by
  induction changes generalizing world with
  | nil => exact ⟨[], [], world, .done, fun journal => by simp [conflicts]⟩
  | cons change rest ih =>
      cases candidate : mayConflict change with
      | false =>
          obtain ⟨found, queries, final, surveyed, ran⟩ := ih world
          have other : change.isAdd = false ∨ change.replaced = true := by
            simpa [mayConflict, ← Bool.not_eq_true, ← imp_iff_not_or] using candidate
          refine ⟨found, queries, final, .passed other surveyed, fun journal => ?_⟩
          rw [conflicts, if_neg (by simp [candidate])]
          exact ran journal
      | true =>
          obtain ⟨adds, fresh⟩ := mayConflict_iff.mp candidate
          obtain ⟨folder, added, parent⟩ := exists_parent change.path
          obtain ⟨entries, listed⟩ := answered folder world
          obtain ⟨found, queries, final, surveyed, ran⟩ := ih (facts.entries folder world).world
          refine ⟨_, _, final, .looked adds fresh parent listed surveyed, fun journal => ?_⟩
          have asked := Act.run_ask_ok ⟨world, journal⟩ listed
          rw [conflicts, if_pos candidate, parent.splitPath_eq]
          refine (Act.run_bind_ok asked).trans ?_
          rw [Act.run_bind_ok (ran _), Act.run_pure, map_conflictsWith parent.splitPath_eq]
          simp

private theorem Surveyed.looked_among {facts : Facts World} {changes : List Change}
    {world final : World} {found : List (Change × List String)} {queries : List Query}
    (surveyed : Surveyed facts changes world found queries final) :
    ∀ looked ∈ found,
      looked.1 ∈ changes ∧ looked.1.isAdd = true ∧ looked.1.replaced = false := by
  induction surveyed with
  | done => exact fun _ member => by cases member
  | passed _ _ ih => exact fun looked member => (ih looked member).imp (List.mem_cons_of_mem _) id
  | looked adds fresh _ _ _ ih =>
      intro looked member
      rcases List.mem_cons.mp member with rfl | later
      · exact ⟨List.mem_cons_self, adds, fresh⟩
      · exact (ih looked later).imp (List.mem_cons_of_mem _) id

private theorem select_caseConflict (setting : Setting World) (tokens : Tokens) {world : World}
    {changes : List Change} (listed : (setting.facts.changes world).result = .ok changes)
    (journal : Journal) :
    (select setting tokens .caseConflict).run ⟨world, journal⟩ =
      (conflicts setting.facts changes).run ⟨(setting.facts.changes world).world,
        journal ++ (setting.facts.changes world).queries.map .asked⟩ := by
  have asked := Act.run_ask_ok ⟨world, journal⟩ listed
  exact Act.run_bind_ok asked

end Condition

/-! ## What runs inside -/

section Inside

variable {World : Type} {setting : Setting World} {registry : Registry World} {tokens final : Tokens}
  {run after : Run World} {visits : List Visit} {outcome : Outcome} {children : List Element}

/-- Some child is a rule. -/
def Registry.Knows (registry : Registry World) (children : List Element) : Prop :=
  ∃ child ∈ children, registry.contains child.name = true

private theorem Evaluates.children_visited
    (evaluation : Evaluates setting registry (.children [] children) tokens run visits outcome final
      after) : visits ≠ [] ↔ registry.Knows children := by
  induction children generalizing tokens run visits with
  | nil =>
      cases evaluation with
      | noChildren => simp [Registry.Knows]
  | cons child rest ih =>
      cases evaluation with
      | consumed taken _ => cases taken
      | skipped _ unknown later =>
          have absent : registry.contains child.name = false := by simp [Registry.contains, unknown]
          rw [ih later]
          simp [Registry.Knows, absent]
      | childStops _ known first _ =>
          obtain ⟨_, rfl⟩ := first.begins
          simp [Registry.Knows, Registry.contains, known]
      | childPasses _ known first _ _ =>
          obtain ⟨_, rfl⟩ := first.begins
          simp [Registry.Knows, Registry.contains, known]

private theorem Evaluates.items_visited {items : List Bindings}
    (evaluation : Evaluates setting registry (.items [] children items) tokens run visits outcome
      final after) : visits ≠ [] ↔ items ≠ [] ∧ registry.Knows children := by
  induction items generalizing run visits final with
  | nil =>
      cases evaluation with
      | noItems => simp
  | cons bindings rest ih =>
      cases evaluation with
      | itemStops first _ => simp [first.children_visited]
      | itemPasses first _ later =>
          rw [ne_eq, List.append_eq_nil_iff, not_and_or, ← ne_eq, ← ne_eq, first.children_visited,
            ih later]
          simp

private theorem Filter.chosen_ne_nil (filter : Filter) {items : List Bindings} :
    filter.chosen items ≠ [] ↔ items ≠ [] := by
  rw [Filter.chosen]
  split
  · simp
  · rfl

theorem Evaluates.inside_visited {build : Builder World} {element : Element} {filter : Filter}
    {items : List Bindings} {selected : Run World}
    (evaluation : Evaluates setting registry (.element build element) tokens run visits outcome final
      after)
    (built : build element = .ok (.filter filter)) (takesNone : filter.consumed = [])
    (selects : (filter.condition.select setting tokens).run (element.enter run) =
      (.ok items, selected)) :
    visits.tail ≠ [] ↔ items ≠ [] ∧ registry.Knows element.children := by
  cases evaluation with
  | unbuilt unbuilt =>
      rw [built] at unbuilt
      cases unbuilt
  | performed again acts _ =>
      rw [built] at again
      cases again
      cases acts
  | unperformed again acts _ =>
      rw [built] at again
      cases again
      cases acts
  | unselected again failed =>
      rw [built] at again
      cases again
      rw [selects] at failed
      cases failed
  | unmatched again nothing =>
      rw [built] at again
      cases again
      rw [selects] at nothing
      cases nothing
      simp
  | matched again _ found inner =>
      rw [built] at again
      cases again
      rw [selects] at found
      cases found
      rw [takesNone] at inner
      rw [List.tail_cons, inner.items_visited, filter.chosen_ne_nil]

end Inside

namespace Condition

variable {World : Type}

private theorem caseConflict_built {registry : Registry World} {build : Builder World}
    {element : Element} (named : element.name = "FilterAddNameCase")
    (known : registry.lookup? element.name = some build) :
    build element = .ok (.filter (Filter.around element .caseConflict [])) := by
  rw [named] at known
  have builtIn : Registry.builtIn? "FilterAddNameCase" = some build := known
  cases builtIn
  rfl

/-- The filter selects the case conflicts of a listing, and rules inside it are evaluated if there
are any. -/
theorem case_conflicts_selected (setting : Setting World) (tokens : Tokens) (world : World)
    {changes : List Change} (listed : (setting.facts.changes world).result = .ok changes)
    (answered : ∀ folder world, ∃ entries, (setting.facts.entries folder world).result = .ok entries) :
    ∃ found queries final items,
      Surveyed setting.facts changes (setting.facts.changes world).world found queries final ∧
      Selects found items ∧
      (∀ journal, (caseConflict.select setting tokens).run ⟨world, journal⟩ =
        (.ok items, ⟨final,
          journal ++ ((setting.facts.changes world).queries ++ queries).map .asked⟩)) ∧
      (∀ looked ∈ found, looked.1 ∈ changes ∧ looked.1.isAdd = true ∧ looked.1.isDelete = false ∧
        looked.1.isContentUpdate = false ∧ looked.1.replaced = false) ∧
      (∀ change entry bindings folder existing added, Conflict change entry bindings →
        Parent change.path folder added → Trimmed entry existing →
        List.Forall₂ (fun c d => c = d ∨ c.isAlpha = true ∧ d.isAlpha = true) existing.toList
          added.toList) ∧
      ∀ registry build element journal visits outcome remaining after,
        element.name = "FilterAddNameCase" → registry.lookup? element.name = some build →
        Evaluates setting registry (.element build element) tokens ⟨world, journal⟩ visits outcome
          remaining after →
        (visits.tail ≠ [] ↔
          (∃ looked ∈ found, ∃ entry ∈ looked.2, ∃ bindings, Conflict looked.1 entry bindings) ∧
            registry.Knows element.children) := by
  obtain ⟨found, queries, final, surveyed, ran⟩ :=
    conflicts_run setting.facts answered changes (setting.facts.changes world).world
  have selects : Selects found
      (found.flatMap fun looked => looked.2.filterMap (conflict? looked.1)) :=
    ⟨conflict?, fun _ _ _ => conflict?_iff, rfl⟩
  have selected (journal : Journal) :=
    (select_caseConflict setting tokens listed journal).trans (ran _)
  refine ⟨found, queries, final, _, surveyed, selects, ?_, ?_, ?_, ?_⟩
  · intro journal
    rw [selected journal, List.map_append, List.append_assoc]
  · intro looked member
    obtain ⟨among, adds, fresh⟩ := surveyed.looked_among looked member
    have first : looked.1.flags.toList.head? = some 'A' := by simpa [Change.isAdd] using adds
    exact ⟨among, adds, by simp [Change.isDelete, first],
      by simp [Change.isContentUpdate, first], fresh⟩
  · rintro change entry bindings folder existing added ⟨parent, trimmed, _, same⟩ parent' trimmed'
    obtain ⟨rfl, rfl⟩ := Prod.mk.inj (parent'.splitPath_eq.symm.trans parent.splitPath_eq)
    obtain rfl := (trimmed_iff.mp trimmed').symm.trans (trimmed_iff.mp trimmed)
    exact asciiLower_eq same
  · intro registry build element journal visits outcome remaining after named known evaluation
    rw [evaluation.inside_visited (caseConflict_built named known) rfl (selected _),
      selects.ne_nil_iff]

theorem readme_conflict_selected :
    let listing : List Change :=
      [⟨"D  ", "README", false⟩, ⟨"A  ", "trunk/Readme/", false⟩, ⟨"A  ", "trunk/LICENSE", true⟩]
    let answers : Answers := fun
      | .changes => .ok listing
      | .entries folder => .ok (if folder = "trunk" then ["Readme/", "README", "license"] else [])
      | question => Answers.none question
    let setting := Setting.onPaper answers (.bare .postCommit "/srv/repo" (.revision 5))
    (setting.facts.changes ()).result = .ok listing ∧
      (∀ folder world, ∃ entries, (setting.facts.entries folder world).result = .ok entries) ∧
      ∃ items, (∀ journal, ((caseConflict.select setting .empty).run ⟨(), journal⟩).1 = .ok items) ∧
        [("Folder", "/trunk"), ("Existing", "README"), ("Added", "Readme"),
          ("Path", "trunk/Readme/")] ∈ items := by
  intro listing answers setting
  have answered (folder : String) (world : Unit) :
      ∃ entries, (setting.facts.entries folder world).result = .ok entries := ⟨_, rfl⟩
  obtain ⟨found, queries, final, items, surveyed, selects, ran, _⟩ :=
    case_conflicts_selected setting .empty () rfl answered
  refine ⟨rfl, answered, items, fun journal => congrArg Prod.fst (ran journal), ?_⟩
  have parent : Parent "trunk/Readme/" "trunk" "Readme" := parent_iff.mpr (by decide)
  have trimmed : Trimmed "README" "README" := trimmed_iff.mpr (by decide)
  have conflict : Conflict ⟨"A  ", "trunk/Readme/", false⟩ "README" _ :=
    .intro parent trimmed (by decide) (asciiLower_iff.mpr (by decide))
  dsimp only [listing] at surveyed
  cases surveyed with
  | looked adds => cases adds
  | passed _ surveyed =>
      cases surveyed with
      | passed other => rcases other with other | other <;> cases other
      | looked _ _ parent' listed _ =>
          obtain ⟨rfl, _⟩ := Prod.mk.inj (parent'.splitPath_eq.symm.trans parent.splitPath_eq)
          cases listed
          exact selects.mem_iff.mpr ⟨_, List.mem_cons_self, "README", by decide, conflict⟩

end Condition

end HookRules
