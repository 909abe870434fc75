import HookRules.Proofs.Change.Listing
import Mathlib.Data.List.Perm.Basic

/-!
Which changes are marked as replacements. A pass over a listing meets its changes in order and
marks, of a path that was added and deleted by then, the latest addition and the latest deletion. So
a change is marked if its opposite stands before it, or behind it with no repetition of the change
between.
-/

set_option autoImplicit false

namespace HookRules.Change

/-- One adds the path that the other deletes. -/
def Opposes (left right : Change) : Prop :=
  left.path = right.path ∧
    (left.isAdd = true ∧ right.isDelete = true ∨ left.isDelete = true ∧ right.isAdd = true)

/-- Both add the path, or both delete it. -/
def Repeats (left right : Change) : Prop :=
  left.path = right.path ∧
    (left.isAdd = true ∧ right.isAdd = true ∨ left.isDelete = true ∧ right.isDelete = true)

/-- An opposite stands before the change, or behind it with nothing between that repeats the change.
-/
def Faced (change : Change) (before after : List Change) : Prop :=
  (∃ other ∈ before, change.Opposes other) ∨
    ∃ between other beyond, after = between ++ other :: beyond ∧ change.Opposes other ∧
      ∀ passed ∈ between, ¬ change.Repeats passed

section Kinds

variable {left right other : Change}

private theorem not_isDelete_of_isAdd {change : Change} (adds : change.isAdd = true) :
    change.isDelete = false := by
  have first : change.flags.toList.head? = some 'A' := by simpa [isAdd] using adds
  simp [isDelete, first]

private theorem not_isAdd_of_isDelete {change : Change} (deletes : change.isDelete = true) :
    change.isAdd = false := by
  cases adds : change.isAdd with
  | false => rfl
  | true => exact deletes.symm.trans (not_isDelete_of_isAdd adds)

private theorem not_both {change : Change} (adds : change.isAdd = true) :
    change.isDelete ≠ true := by
  simp [not_isDelete_of_isAdd adds]

theorem Opposes.symm (opposes : left.Opposes right) : right.Opposes left :=
  ⟨opposes.1.symm, opposes.2.symm.imp And.symm And.symm⟩

theorem Repeats.symm (repeats : left.Repeats right) : right.Repeats left :=
  ⟨repeats.1.symm, repeats.2.imp And.symm And.symm⟩

private theorem Opposes.not_repeats (opposes : left.Opposes right) : ¬ left.Repeats right := by
  rintro ⟨_, ⟨adds, added⟩ | ⟨deletes, deleted⟩⟩
  · rcases opposes.2 with ⟨_, deleted⟩ | ⟨deletes, _⟩
    · exact absurd deleted (not_both added)
    · exact absurd deletes (not_both adds)
  · rcases opposes.2 with ⟨adds, _⟩ | ⟨_, added⟩
    · exact absurd deletes (not_both adds)
    · exact absurd deleted (not_both added)

theorem Repeats.opposes (repeats : left.Repeats right) (opposes : left.Opposes other) :
    right.Opposes other := by
  refine ⟨repeats.1.symm.trans opposes.1, ?_⟩
  rcases repeats.2 with ⟨adds, added⟩ | ⟨deletes, deleted⟩
  · rcases opposes.2 with ⟨_, deletion⟩ | ⟨deletes, _⟩
    · exact .inl ⟨added, deletion⟩
    · exact absurd deletes (not_both adds)
  · rcases opposes.2 with ⟨adds, _⟩ | ⟨_, addition⟩
    · exact absurd deletes (not_both adds)
    · exact .inr ⟨deleted, addition⟩

end Kinds

/-! ## The pass -/

/-- The place of the latest change of a kind to the path, if one was seen. -/
inductive Latest (kind : Change → Bool) (path : String) (seen : List Change) : Option Nat → Prop
  | none : (∀ change ∈ seen, kind change = true → change.path ≠ path) → Latest kind path seen none
  | some {before : List Change} {change : Change} {after : List Change} {place : Nat} :
      seen = before ++ change :: after → before.length = place → kind change = true →
      change.path = path → (∀ later ∈ after, kind later = true → later.path ≠ path) →
      Latest kind path seen (some place)

section Latest

variable {kind : Change → Bool} {path : String} {seen before after : List Change} {change : Change}

theorem latest_some_iff (split : seen = before ++ change :: after) :
    Latest kind path seen (some before.length) ↔
      kind change = true ∧ change.path = path ∧
        ∀ later ∈ after, kind later = true → later.path ≠ path := by
  constructor
  · intro latest
    cases latest with
    | some again place kinded same last =>
        obtain ⟨rfl, rest⟩ := List.append_inj (again.symm.trans split) place
        obtain ⟨rfl, rfl⟩ := List.cons_eq_cons.mp rest
        exact ⟨kinded, same, last⟩
  · rintro ⟨kinded, same, last⟩
    exact .some split rfl kinded same last

private theorem places_ordered {again beyond : List Change} {other : Change}
    (same : before ++ change :: after = again ++ other :: beyond) :
    before.length = again.length ∨ other ∈ after ∨ change ∈ beyond := by
  rcases List.append_eq_append_iff.mp same with ⟨between, _, rest⟩ | ⟨between, _, rest⟩
  · cases between with
    | nil => simp_all
    | cons head tail => exact .inr (.inl (by simp [(List.cons_eq_cons.mp rest).2]))
  · cases between with
    | nil => simp_all
    | cons head tail => exact .inr (.inr (by simp [(List.cons_eq_cons.mp rest).2]))

theorem Latest.unique {first second : Option Nat} (left : Latest kind path seen first)
    (right : Latest kind path seen second) : first = second := by
  cases left with
  | none absent =>
      cases right with
      | none _ => rfl
      | some split _ kinded same _ => exact absurd same (absent _ (by simp [split]) kinded)
  | some split place kinded same last =>
      cases right with
      | none absent => exact absurd same (absent _ (by simp [split]) kinded)
      | some again beside kinded' same' last' =>
          rcases places_ordered (split.symm.trans again) with equal | behind | behind
          · rw [← place, ← beside, equal]
          · exact absurd same' (last _ behind kinded')
          · exact absurd same (last' _ behind kinded)

theorem Latest.append {place : Option Nat} (latest : Latest kind path seen place)
    (passed : kind change = true → change.path ≠ path) :
    Latest kind path (seen ++ [change]) place := by
  have further {rest : List Change}
      (absent : ∀ other ∈ rest, kind other = true → other.path ≠ path) :
      ∀ other ∈ rest ++ [change], kind other = true → other.path ≠ path := by
    intro other member
    rcases List.mem_append.mp member with earlier | last
    · exact absent other earlier
    · rw [List.mem_singleton.mp last]
      exact passed
  cases latest with
  | none absent => exact .none (further absent)
  | @some before found after place split length kinded same last =>
      exact .some (by rw [split, List.append_assoc, List.cons_append]) length kinded same
        (further last)

private theorem latest_lookup {places : List (String × Nat)}
    (latest : ∀ path, Latest kind path seen (places.lookup path)) (change : Change)
    (path : String) :
    Latest kind path (seen ++ [change])
      ((if kind change then (change.path, seen.length) :: places else places).lookup path) := by
  cases kinded : kind change with
  | false => exact (latest path).append (by simp [kinded])
  | true =>
      simp only [if_true, List.lookup_cons]
      by_cases same : path = change.path
      · subst same
        rw [beq_self_eq_true]
        exact .some rfl rfl kinded rfl (by simp)
      · rw [beq_eq_false_iff_ne.mpr same]
        exact (latest path).append fun _ equal => same equal.symm

/-- A change of the first kind is at the place that is marked, if it is the latest one to the path
and the path has a change of the second kind. -/
theorem latest_pair_iff {first second : Change → Bool}
    (apart : ∀ change, first change = true → second change = false)
    {places others : Option Nat} (latest : Latest first path seen places)
    (opposite : Latest second path seen others) (split : seen = before ++ change :: after)
    (kinded : first change = true) :
    (∃ place other, places = some place ∧ others = some other ∧
        (before.length = place ∨ before.length = other)) ↔
      change.path = path ∧ (∀ later ∈ after, first later = true → later.path ≠ path) ∧
        ∃ other ∈ before ++ after, second other = true ∧ other.path = path := by
  constructor
  · rintro ⟨place, other, rfl, rfl, here | here⟩
    · subst here
      obtain ⟨_, same, last⟩ := (latest_some_iff split).mp latest
      refine ⟨same, last, ?_⟩
      cases opposite with
      | @some front found rest place again _ opposed equal _ =>
          refine ⟨found, ?_, opposed, equal⟩
          have member : found ∈ before ++ change :: after := by simp [← split, again]
          have other : found ≠ change := by
            rintro rfl
            simp [apart found kinded] at opposed
          simpa [other] using member
    · subst here
      obtain ⟨opposed, _⟩ := (latest_some_iff split).mp opposite
      simp [apart change kinded] at opposed
  · rintro ⟨same, last, other, member, opposed, equal⟩
    have found := latest.unique ((latest_some_iff split).mpr ⟨kinded, same, last⟩)
    cases opposite with
    | none absent =>
        have among : other ∈ seen := by
          rw [split]
          rcases List.mem_append.mp member with earlier | later
          · exact List.mem_append_left _ earlier
          · exact List.mem_append_right _ (List.mem_cons_of_mem _ later)
        exact absurd equal (absent other among opposed)
    | some _ _ _ _ _ => exact ⟨_, _, found, rfl, .inl rfl⟩

end Latest

def unmarked (change : Change) : Change := { change with replaced := false }

/-- What a pass knows of the changes that it has met. -/
structure ReplacementPass.Knows (pass : ReplacementPass) (seen : List Change) : Prop where
  changes : pass.changes.map unmarked = seen
  additions : ∀ path, Latest isAdd path seen (pass.additions.lookup path)
  deletions : ∀ path, Latest isDelete path seen (pass.deletions.lookup path)
  marks : ∀ before change after, seen = before ++ change :: after →
    ∀ found ∈ pass.changes[before.length]?, found.replaced = true ↔ change.Faced before after

section Step

variable {pass : ReplacementPass} {seen before after : List Change} {change latest : Change}

private theorem faced_nil : change.Faced before [] ↔ ∃ other ∈ before, change.Opposes other := by
  simp [Faced]

/-- A change that comes last faces an earlier one that has no repetition before it. -/
theorem faced_append : change.Faced before (after ++ [latest]) ↔
    change.Faced before after ∨
      change.Opposes latest ∧ ∀ passed ∈ after, ¬ change.Repeats passed := by
  constructor
  · rintro (earlier | ⟨between, other, beyond, split, opposes, fresh⟩)
    · exact .inl (.inl earlier)
    · rcases List.eq_nil_or_concat beyond with rfl | ⟨rest, last, rfl⟩
      · obtain ⟨rfl, same⟩ := List.append_inj' split rfl
        obtain ⟨rfl, _⟩ := List.cons_eq_cons.mp same
        exact .inr ⟨opposes, fresh⟩
      · rw [List.concat_eq_append, ← List.cons_append, ← List.append_assoc] at split
        exact .inl (.inr ⟨between, other, rest, (List.append_inj' split rfl).1, opposes, fresh⟩)
  · rintro ((earlier | ⟨between, other, beyond, rfl, opposes, fresh⟩) | ⟨opposes, fresh⟩)
    · exact .inl earlier
    · exact .inr ⟨between, other, beyond ++ [latest], by simp, opposes, fresh⟩
    · exact .inr ⟨after, latest, [], rfl, opposes, fresh⟩

private theorem faced_or_pair :
    (change.Faced before after ∨ change.path = latest.path ∧
        (∀ later ∈ after ++ [latest], ¬ change.Repeats later) ∧
          ∃ other ∈ before ++ (after ++ [latest]), change.Opposes other) ↔
      change.Faced before after ∨
        change.Opposes latest ∧ ∀ passed ∈ after, ¬ change.Repeats passed := by
  constructor
  · rintro (faced | ⟨_, fresh, other, member, opposes⟩)
    · exact .inl faced
    · have last : ∀ passed ∈ after, ¬ change.Repeats passed := fun passed among =>
        fresh passed (List.mem_append_left _ among)
      rcases List.mem_append.mp member with earlier | later
      · exact .inl (.inl ⟨other, earlier, opposes⟩)
      · rcases List.mem_append.mp later with behind | same
        · obtain ⟨between, beyond, rfl⟩ := List.append_of_mem behind
          exact .inl (.inr ⟨between, other, beyond, rfl, opposes, fun passed among =>
            last passed (List.mem_append_left _ among)⟩)
        · obtain rfl := List.mem_singleton.mp same
          exact .inr ⟨opposes, last⟩
  · rintro (faced | ⟨opposes, last⟩)
    · exact .inl faced
    · refine .inr ⟨opposes.1, ?_, latest, by simp, opposes⟩
      intro later member
      rcases List.mem_append.mp member with among | same
      · exact last later among
      · rw [List.mem_singleton.mp same]
        exact opposes.not_repeats

/-- The two places that are marked hold opposites, of which neither is repeated later. -/
theorem pair_iff {added deleted : Option Nat} (additions : Latest isAdd latest.path seen added)
    (deletions : Latest isDelete latest.path seen deleted)
    (split : seen = before ++ change :: after) :
    (∃ first second, added = some first ∧ deleted = some second ∧
        (before.length = first ∨ before.length = second)) ↔
      change.path = latest.path ∧ (∀ later ∈ after, ¬ change.Repeats later) ∧
        ∃ other ∈ before ++ after, change.Opposes other := by
  cases adds : change.isAdd with
  | true =>
      have apart := not_isDelete_of_isAdd adds
      rw [latest_pair_iff (fun _ => not_isDelete_of_isAdd) additions deletions split adds]
      simp only [Repeats, Opposes, adds, apart, true_and, false_and, or_false, Bool.false_eq_true]
      grind
  | false =>
      cases deletes : change.isDelete with
      | true =>
          have swapped : (∃ first second, added = some first ∧ deleted = some second ∧
              (before.length = first ∨ before.length = second)) ↔
              ∃ first second, deleted = some first ∧ added = some second ∧
                (before.length = first ∨ before.length = second) := by grind
          rw [swapped, latest_pair_iff (fun _ => not_isAdd_of_isDelete) deletions additions split
            deletes]
          simp only [Repeats, Opposes, adds, deletes, true_and, false_and, false_or,
            Bool.false_eq_true]
          grind
      | false =>
          constructor
          · rintro ⟨first, second, rfl, rfl, rfl | rfl⟩
            · have kinded := ((latest_some_iff split).mp additions).1
              simp [adds] at kinded
            · have kinded := ((latest_some_iff split).mp deletions).1
              simp [deletes] at kinded
          · rintro ⟨_, _, other, _, _, ⟨added, _⟩ | ⟨deleted, _⟩⟩
            · simp [adds] at added
            · simp [deletes] at deleted

private theorem mem_modify {changes : List Change} {place spot : Nat} {found : Change}
    (member : found ∈ (changes.modify spot markReplaced)[place]?) :
    ∃ old ∈ changes[place]?, (found.replaced = true ↔ old.replaced = true ∨ place = spot) := by
  rw [List.getElem?_modify] at member
  obtain ⟨old, here, rfl⟩ := Option.map_eq_some_iff.mp member
  refine ⟨old, here, ?_⟩
  by_cases same : spot = place
  · simp [same, markReplaced]
  · simp [same, Ne.symm same]

private theorem meet_changes (pass : ReplacementPass) (latest : Change) {place : Nat}
    {found : Change} (member : found ∈ (pass.meet latest).changes[place]?) :
    ∃ old ∈ (pass.changes ++ [latest])[place]?, (found.replaced = true ↔ old.replaced = true ∨
      ∃ first second, (pass.meet latest).additions.lookup latest.path = some first ∧
        (pass.meet latest).deletions.lookup latest.path = some second ∧
        (place = first ∨ place = second)) := by
  simp only [ReplacementPass.meet] at member ⊢
  split at member
  · rename_i first second added deleted
    obtain ⟨middle, within, marked⟩ := mem_modify member
    obtain ⟨old, before, earlier⟩ := mem_modify within
    refine ⟨old, before, ?_⟩
    rw [marked, earlier, added, deleted]
    grind
  · rename_i unpaired
    refine ⟨found, member, ?_⟩
    constructor
    · exact .inl
    · rintro (marked | ⟨first, second, added, deleted, _⟩)
      · exact marked
      · exact absurd deleted (unpaired first second added)

theorem ReplacementPass.Knows.meet (knows : pass.Knows seen) (fresh : latest.replaced = false) :
    (pass.meet latest).Knows (seen ++ [latest]) := by
  have length : pass.changes.length = seen.length := by
    rw [← knows.changes, List.length_map]
  have additions (path : String) : Latest isAdd path (seen ++ [latest])
      ((pass.meet latest).additions.lookup path) := by
    have found := latest_lookup knows.additions latest path
    rwa [← length] at found
  have deletions (path : String) : Latest isDelete path (seen ++ [latest])
      ((pass.meet latest).deletions.lookup path) := by
    have found := latest_lookup knows.deletions latest path
    rwa [← length] at found
  have same : latest.unmarked = latest := by rw [unmarked, ← fresh]
  refine ⟨?_, additions, deletions, ?_⟩
  · rw [map_meet (fun _ => rfl), knows.changes, same]
  · intro before change after split found member
    obtain ⟨old, held, marked⟩ := meet_changes pass latest member
    rw [marked, pair_iff (additions latest.path) (deletions latest.path) split]
    rcases List.eq_nil_or_concat after with rfl | ⟨rest, last, rfl⟩
    · obtain ⟨rfl, equal⟩ := List.append_inj' split rfl
      obtain ⟨rfl, _⟩ := List.cons_eq_cons.mp equal
      rw [← length, List.getElem?_append_right (Nat.le_refl _), Nat.sub_self] at held
      obtain rfl : latest = old := Option.some.inj held
      simp [faced_nil, fresh]
    · rw [List.concat_eq_append, ← List.cons_append, ← List.append_assoc] at split
      obtain ⟨rfl, equal⟩ := List.append_inj' split rfl
      obtain ⟨rfl, _⟩ := List.cons_eq_cons.mp equal
      rw [List.concat_eq_append, faced_append]
      have earlier : before.length < pass.changes.length := by
        rw [length, List.length_append, List.length_cons]
        omega
      rw [List.getElem?_append_left earlier] at held
      rw [knows.marks before change rest rfl old held]
      exact faced_or_pair

theorem ReplacementPass.Knows.run (knows : pass.Knows seen) {changes : List Change}
    (fresh : ∀ change ∈ changes, change.replaced = false) :
    (changes.foldl ReplacementPass.meet pass).Knows (seen ++ changes) := by
  induction changes generalizing pass seen with
  | nil => simpa using knows
  | cons change changes ih =>
      obtain ⟨first, rest⟩ := List.forall_mem_cons.mp fresh
      simpa using ih (knows.meet first) rest

theorem knows_all {changes : List Change} (fresh : ∀ change ∈ changes, change.replaced = false) :
    (changes.foldl ReplacementPass.meet ⟨[], [], []⟩).Knows changes := by
  have start : ReplacementPass.Knows ⟨[], [], []⟩ [] :=
    ⟨rfl, fun _ => .none (by simp), fun _ => .none (by simp), by simp⟩
  exact start.run fresh

private theorem map_unmarked {changes : List Change}
    (fresh : ∀ change ∈ changes, change.replaced = false) :
    (markReplacements changes).map unmarked = changes := (knows_all fresh).changes

end Step

/-! ## The marks of a listing -/

private theorem not_opposes_self (change : Change) : ¬ change.Opposes change := by
  rintro ⟨_, ⟨adds, deletes⟩ | ⟨deletes, adds⟩⟩
  · exact absurd deletes (not_both adds)
  · exact absurd deletes (not_both adds)

instance (left right : Change) : Decidable (left.Opposes right) :=
  inferInstanceAs (Decidable (_ ∧ _))

instance (left right : Change) : Decidable (left.Repeats right) :=
  inferInstanceAs (Decidable (_ ∧ _))

/-- No path that is both added and deleted is added twice, or deleted twice. -/
def Single (changes : List Change) : Prop :=
  ∀ other ∈ changes, changes.Pairwise fun left right => left.Repeats right → ¬ left.Opposes other

instance (changes : List Change) : Decidable (Single changes) :=
  inferInstanceAs (Decidable (∀ other ∈ changes, _))

/-- The change, marked if the others have an opposite of it. -/
def markAmong (others : List Change) (change : Change) : Change :=
  { change with replaced := decide (∃ other ∈ others, change.Opposes other) }

section Marks

variable {before after changes others : List Change} {change : Change}

private theorem faced_unmarked : change.unmarked.Faced (before.map unmarked) (after.map unmarked) ↔
    change.Faced before after := by
  constructor
  · rintro (⟨_, member, opposes⟩ | ⟨_, _, _, split, opposes, fresh⟩)
    · obtain ⟨other, earlier, rfl⟩ := List.mem_map.mp member
      exact .inl ⟨other, earlier, opposes⟩
    · obtain ⟨between, rest, rfl, rfl, behind⟩ := List.map_eq_append_iff.mp split
      obtain ⟨other, beyond, rfl, rfl, _⟩ := List.map_eq_cons_iff.mp behind
      exact .inr ⟨between, other, beyond, rfl, opposes, fun passed among =>
        fresh passed.unmarked (List.mem_map_of_mem among)⟩
  · rintro (⟨other, earlier, opposes⟩ | ⟨between, other, beyond, rfl, opposes, fresh⟩)
    · exact .inl ⟨_, List.mem_map_of_mem earlier, opposes⟩
    · refine .inr ⟨between.map unmarked, other.unmarked, beyond.map unmarked, by simp, opposes, ?_⟩
      intro _ member
      obtain ⟨passed, among, rfl⟩ := List.mem_map.mp member
      exact fresh passed among

theorem marked_iff_faced (fresh : ∀ change ∈ changes, change.replaced = false)
    (split : markReplacements changes = before ++ change :: after) :
    change.replaced = true ↔ change.Faced before after := by
  have origin := map_unmarked fresh
  rw [split, List.map_append, List.map_cons] at origin
  have here : change ∈ (markReplacements changes)[(before.map unmarked).length]? := by simp [split]
  exact ((knows_all fresh).marks _ _ _ origin.symm change here).trans faced_unmarked

private theorem Faced.exists_opposite (faced : change.Faced before after) :
    ∃ other ∈ before ++ change :: after, change.Opposes other := by
  rcases faced with ⟨other, earlier, opposes⟩ | ⟨between, other, beyond, rfl, opposes, _⟩
  · exact ⟨other, List.mem_append_left _ earlier, opposes⟩
  · exact ⟨other, by simp, opposes⟩

private theorem Single.faced_iff (single : Single (before ++ change :: after)) :
    change.Faced before after ↔ ∃ other ∈ before ++ change :: after, change.Opposes other := by
  constructor
  · exact Faced.exists_opposite
  · rintro ⟨other, member, opposes⟩
    have apart := (List.pairwise_append.mp (single other member)).2.1
    rcases List.mem_append.mp member with earlier | here
    · exact .inl ⟨other, earlier, opposes⟩
    · rcases List.mem_cons.mp here with rfl | later
      · exact absurd opposes (not_opposes_self _)
      · obtain ⟨between, beyond, rfl⟩ := List.append_of_mem later
        refine .inr ⟨between, other, beyond, rfl, opposes, fun passed among repeats => ?_⟩
        exact List.rel_of_pairwise_cons apart (List.mem_append_left _ among) repeats opposes

private theorem faced_next {other : Change} (opposes : change.Opposes other) :
    change.Faced before (other :: after) :=
  .inr ⟨[], other, after, rfl, opposes, by simp⟩

private theorem Repeats.not_faced {again : Change} (repeats : change.Repeats again) :
    ¬ change.Faced [] (again :: after) := by
  rintro (⟨_, earlier, _⟩ | ⟨between, other, beyond, split, opposes, fresh⟩)
  · cases earlier
  · cases between with
    | nil =>
        obtain ⟨rfl, _⟩ := List.cons_eq_cons.mp split
        exact opposes.not_repeats repeats
    | cons passed between =>
        obtain ⟨rfl, _⟩ := List.cons_eq_cons.mp split
        exact fresh again List.mem_cons_self repeats

private theorem single_unmarked : Single (changes.map unmarked) ↔ Single changes := by
  constructor
  · intro single other member
    exact List.pairwise_map.mp (single other.unmarked (List.mem_map_of_mem member))
  · intro single _ member
    obtain ⟨other, among, rfl⟩ := List.mem_map.mp member
    exact List.pairwise_map.mpr (single other among)

theorem Single.perm (single : Single changes) (perm : changes.Perm others) : Single others := by
  intro other member
  refine (perm.pairwise_iff ?_).mp (single other (perm.mem_iff.mpr member))
  exact fun apart repeats opposes => apart repeats.symm (repeats.opposes opposes)

private theorem markAmong_perm (perm : changes.Perm others) :
    markAmong changes = markAmong others := by
  funext change
  simp [markAmong, perm.mem_iff]

/-- Where no change is repeated beside an opposite, the order that a pass meets them in has no part
in the marks. -/
theorem Single.markReplacements_eq (single : Single changes)
    (fresh : ∀ change ∈ changes, change.replaced = false) :
    markReplacements changes = changes.map (markAmong changes) := by
  have origin := map_unmarked fresh
  have marked :
      ∀ change ∈ markReplacements changes, markAmong changes change.unmarked = change := by
    intro change member
    obtain ⟨before, after, split⟩ := List.append_of_mem member
    have same : before.map unmarked ++ change.unmarked :: after.map unmarked = changes := by
      rw [← origin, split, List.map_append, List.map_cons]
    have faced := faced_unmarked.symm.trans (Single.faced_iff (same.symm ▸ single))
    rw [← marked_iff_faced fresh split, same] at faced
    have mark : decide (∃ other ∈ changes, change.unmarked.Opposes other) = change.replaced := by
      rw [Bool.eq_iff_iff, decide_eq_true_iff, ← faced]
    rw [markAmong, mark, unmarked]
  calc
    markReplacements changes
    _ = (markReplacements changes).map (markAmong changes ∘ unmarked) :=
      ((List.map_congr_left marked).trans (List.map_id _)).symm
    _ = ((markReplacements changes).map unmarked).map (markAmong changes) := List.map_map.symm
    _ = changes.map (markAmong changes) := by rw [origin]

end Marks

/-- Every line shows the same column for the paths. -/
def LinesUp (listing : String) : Prop :=
  ∃ column, ∀ line ∈ listed listing, pathColumn line.toList = column

/-- Reordering the lines reorders the changes, and changes nothing else of them. -/
def OrderImmaterial (listing : String) : Prop :=
  ∀ reordered, (listed reordered).Perm (listed listing) → ∃ read : String → Change,
    ofListing listing = (listed listing).map read ∧
      ofListing reordered = (listed reordered).map read

section Order

variable {listing : String} {column : Nat}

private theorem exists_column (listing : String) : ∃ column,
    (∀ line ∈ (listed listing).head?, pathColumn line.toList = column) ∧
      ofListing listing =
        markReplacements ((listed listing).map fun line => ofLineAt column line.toList) := by
  cases shown : listed listing with
  | nil => exact ⟨0, by simp, by rw [ofListing, ListingLayout.readListing, ← listed, shown]; rfl⟩
  | cons line rest => exact ⟨_, by simp, ofListing_cons shown⟩

private theorem ofListing_lined (lined : ∀ line ∈ listed listing, pathColumn line.toList = column) :
    ofListing listing =
      markReplacements ((listed listing).map fun line => ofLineAt column line.toList) := by
  obtain ⟨shown, first, read⟩ := exists_column listing
  cases lines : listed listing with
  | nil => simpa [lines] using read
  | cons line rest =>
      have same : shown = column := by
        rw [← first line (by simp [lines]), lined line (by simp [lines])]
      rw [read, same, lines]

private theorem fresh_read (column : Nat) (lines : List String) :
    ∀ change ∈ lines.map fun line => ofLineAt column line.toList, change.replaced = false := by
  intro change member
  obtain ⟨line, _, rfl⟩ := List.mem_map.mp member
  rfl

private theorem listed_ofLines {lines : List String} (perm : lines.Perm (listed listing)) :
    listed (Text.ofLines lines) = lines := by
  have among {line : String} (member : line ∈ lines) : line ∈ listed listing :=
    perm.mem_iff.mp member
  rw [listed, Text.lines_ofLines fun line member =>
    Text.lines_feedless (List.mem_filter.mp (among member)).1]
  exact List.filter_eq_self.mpr fun line member => (List.mem_filter.mp (among member)).2

private theorem exists_repeated {lines : List String} {read : String → Change}
    (repeated : ¬ Single (lines.map read)) :
    ∃ left right other rest, lines.Perm (left :: right :: other :: rest) ∧
      (read left).Repeats (read right) ∧ (read left).Opposes (read other) := by
  simp only [Single, not_forall] at repeated
  obtain ⟨_, member, together⟩ := repeated
  obtain ⟨other, among, rfl⟩ := List.mem_map.mp member
  rw [List.pairwise_map, List.pairwise_iff_forall_sublist] at together
  push Not at together
  obtain ⟨left, right, both, repeats, opposes⟩ := together
  obtain ⟨rest, perm⟩ := both.exists_perm_append
  have inside : other ∈ rest := by
    rcases List.mem_append.mp (perm.mem_iff.mp among) with first | inside
    · rcases List.mem_pair.mp first with rfl | rfl
      · exact absurd opposes (not_opposes_self _)
      · exact absurd repeats opposes.not_repeats
    · exact inside
  have further := ((List.perm_cons_erase inside).cons right).cons left
  exact ⟨left, right, other, rest.erase other, perm.trans further, repeats, opposes⟩

private theorem marked_first (lined : ∀ line ∈ listed listing, pathColumn line.toList = column)
    {first : String} {rest : List String} (perm : (first :: rest).Perm (listed listing))
    {read : String → Change}
    (shown : ofListing (Text.ofLines (first :: rest)) = (first :: rest).map read) :
    (read first).replaced = true ↔ (ofLineAt column first.toList).Faced []
      (rest.map fun line => ofLineAt column line.toList) := by
  have again : ∀ line ∈ listed (Text.ofLines (first :: rest)), pathColumn line.toList = column := by
    rw [listed_ofLines perm]
    exact fun line member => lined line (perm.mem_iff.mp member)
  have marked := ofListing_lined again
  rw [listed_ofLines perm, shown] at marked
  have knows := knows_all (fresh_read column (first :: rest))
  refine knows.marks [] _ _ rfl (read first) ?_
  change _ ∈ (markReplacements _)[0]?
  rw [← marked]
  rfl

theorem Single.orderImmaterial (lined : ∀ line ∈ listed listing, pathColumn line.toList = column)
    (single : Single ((listed listing).map fun line => ofLineAt column line.toList)) :
    OrderImmaterial listing := by
  intro reordered perm
  have read := ofListing_lined lined
  have again : ofListing reordered = _ := ofListing_lined fun line member =>
    lined line (perm.mem_iff.mp member)
  have moved := perm.map fun line => ofLineAt column line.toList
  rw [single.markReplacements_eq (fresh_read _ _), List.map_map] at read
  rw [(single.perm moved.symm).markReplacements_eq (fresh_read _ _), markAmong_perm moved,
    List.map_map] at again
  exact ⟨_, read, again⟩

/-- Of a change that is repeated beside an opposite the mark tells whether the repetition or the
opposite comes next. -/
theorem OrderImmaterial.single (immaterial : OrderImmaterial listing)
    (lined : ∀ line ∈ listed listing, pathColumn line.toList = column) :
    Single ((listed listing).map fun line => ofLineAt column line.toList) := by
  by_contra repeated
  obtain ⟨left, right, other, rest, perm, repeats, opposes⟩ := exists_repeated repeated
  have swapped : (left :: other :: right :: rest).Perm (listed listing) :=
    ((List.Perm.swap right other rest).cons left).trans perm.symm
  obtain ⟨values, here, shown⟩ := immaterial (Text.ofLines (left :: right :: other :: rest))
    (by rw [listed_ofLines perm.symm]; exact perm.symm)
  obtain ⟨values', here', shown'⟩ := immaterial (Text.ofLines (left :: other :: right :: rest))
    (by rw [listed_ofLines swapped]; exact swapped)
  rw [listed_ofLines perm.symm] at shown
  rw [listed_ofLines swapped] at shown'
  have same : values left = values' left :=
    List.map_inj_left.mp (here.symm.trans here') left (perm.symm.mem_iff.mp List.mem_cons_self)
  have marked : (values left).replaced = true := by
    rw [same]
    exact (marked_first lined swapped shown').mpr (faced_next opposes)
  exact repeats.not_faced ((marked_first lined perm.symm shown).mp marked)

theorem orderImmaterial_iff (linesUp : LinesUp listing) :
    OrderImmaterial listing ↔ Single (ofListing listing) := by
  obtain ⟨column, lined⟩ := linesUp
  have origin := map_unmarked (fresh_read column (listed listing))
  rw [← ofListing_lined lined] at origin
  rw [← single_unmarked, origin]
  constructor
  · exact fun immaterial => immaterial.single lined
  · exact Single.orderImmaterial lined

end Order

/-- What the marks of a listing say. They tell a replacement wherever no change is repeated beside
an opposite, and only there the order of lines that line up has no part in them. -/
theorem replacements_marked (listing : String) :
    (∀ before change after, ofListing listing = before ++ change :: after →
      (change.replaced = true ↔ change.Faced before after)) ∧
    (∀ change ∈ ofListing listing, change.replaced = true →
      ∃ other ∈ ofListing listing, change.Opposes other) ∧
    (Single (ofListing listing) → ∀ change ∈ ofListing listing,
      (change.replaced = true ↔ ∃ other ∈ ofListing listing, change.Opposes other)) ∧
    (LinesUp listing → (OrderImmaterial listing ↔ Single (ofListing listing))) := by
  obtain ⟨column, _, read⟩ := exists_column listing
  have faced (before : List Change) (change : Change) (after : List Change)
      (split : ofListing listing = before ++ change :: after) :
      change.replaced = true ↔ change.Faced before after :=
    marked_iff_faced (fresh_read column (listed listing)) (read.symm.trans split)
  refine ⟨faced, ?_, ?_, orderImmaterial_iff⟩
  · intro change member marked
    obtain ⟨before, after, split⟩ := List.append_of_mem member
    rw [split]
    exact ((faced before change after split).mp marked).exists_opposite
  · intro single change member
    obtain ⟨before, after, split⟩ := List.append_of_mem member
    rw [faced before change after split, split]
    exact (split ▸ single).faced_iff

theorem single_replacement_marked :
    let listing := "D   a\nA   a\nU   b\nA   c\n"
    let reordered := "A   c\nA   a\nU   b\nD   a\n"
    Single (ofListing listing) ∧ LinesUp listing ∧ (listed reordered).Perm (listed listing) ∧
      (∀ change ∈ ofListing listing,
        (change.replaced = true ↔ ∃ other ∈ ofListing listing, change.Opposes other)) ∧
      ∃ read : String → Change, ofListing listing = (listed listing).map read ∧
        ofListing reordered = (listed reordered).map read := by
  intro listing reordered
  have single : Single (ofListing listing) := by decide +kernel
  have lined : LinesUp listing := ⟨4, by decide +kernel⟩
  have perm : (listed reordered).Perm (listed listing) := by decide +kernel
  obtain ⟨_, _, marked, order⟩ := replacements_marked listing
  exact ⟨single, lined, perm, marked single, (order lined).mpr single reordered perm⟩

/-- An addition that is repeated before the deletion is not marked; behind it, it is. -/
theorem repeated_addition_unmarked :
    let listing := "A   a\nA   a\nD   a\n"
    let reordered := "A   a\nD   a\nA   a\n"
    LinesUp listing ∧ (listed reordered).Perm (listed listing) ∧
      (∃ change ∈ ofListing listing, change.replaced = false ∧
        ∃ other ∈ ofListing listing, change.Opposes other) ∧
      ∀ change ∈ ofListing reordered, change.replaced = true :=
  ⟨⟨4, by decide +kernel⟩, by decide +kernel, by decide +kernel, by decide +kernel⟩

end HookRules.Change
