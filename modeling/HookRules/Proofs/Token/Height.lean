import Mathlib.Data.ENat.Lattice
import Mathlib.Logic.Relation
import Mathlib.Order.CompletePartialOrder
import HookRules.Proofs.Token.Placeholder
import HookRules.Proofs.Token.Store

/-!
How deep placeholders are nested. A text refers to the values of the set tokens that it has
placeholders of; its height is the length of the longest chain of such references, and it is
infinite where a reference leads into a cycle.
-/

set_option autoImplicit false

namespace HookRules.Tokens

/-- The text has a placeholder of a set token, which has the value. -/
def Refers (tokens : Tokens) (text value : List Char) : Prop :=
  ∃ name held, Occurs name text ∧ tokens.lookup? (String.ofList name) = some held ∧
    value = held.toList

/-- A chain of so many references begins at the text. -/
def Deep (tokens : Tokens) : Nat → List Char → Prop
  | 0, _ => True
  | links + 1, text => ∃ value, tokens.Refers text value ∧ tokens.Deep links value

/-- The length of the longest chain of references from the text. -/
noncomputable def height (tokens : Tokens) (text : List Char) : ℕ∞ :=
  ⨆ (links : ℕ) (_ : tokens.Deep links text), (links : ℕ∞)

/-- References lead from the text to a value that leads back to itself. -/
def Cyclic (tokens : Tokens) (text : List Char) : Prop :=
  ∃ value, Relation.ReflTransGen tokens.Refers text value ∧
    Relation.TransGen tokens.Refers value value

variable {tokens : Tokens} {text value : List Char}

theorem valueOf?_refers {fragment : Fragment} {held : String}
    (member : fragment ∈ Fragment.ofText text) (set : tokens.valueOf? fragment = some held) :
    tokens.Refers text held.toList := by
  cases fragment with
  | char c => cases set
  | placeholder name => exact ⟨name, held, occurs_iff.mpr member, set, rfl⟩

theorem refers_iff : tokens.Refers text value ↔
    ∃ fragment ∈ Fragment.ofText text, ∃ held, tokens.valueOf? fragment = some held ∧
      value = held.toList := by
  constructor
  · rintro ⟨name, held, occurs, set, rfl⟩
    exact ⟨.placeholder name, occurs_iff.mp occurs, held, set, rfl⟩
  · rintro ⟨fragment, member, held, set, rfl⟩
    exact valueOf?_refers member set

private theorem deep_succ_iff {links : Nat} : tokens.Deep (links + 1) text ↔
    ∃ fragment ∈ Fragment.ofText text, ∃ held ∈ tokens.valueOf? fragment,
      tokens.Deep links held.toList := by
  constructor
  · rintro ⟨value, refers, rest⟩
    obtain ⟨fragment, member, held, set, rfl⟩ := refers_iff.mp refers
    exact ⟨fragment, member, held, set, rest⟩
  · rintro ⟨fragment, member, held, set, rest⟩
    exact ⟨held.toList, valueOf?_refers member set, rest⟩

instance decidableDeep (tokens : Tokens) :
    (links : Nat) → (text : List Char) → Decidable (tokens.Deep links text)
  | 0, _ => .isTrue trivial
  | links + 1, _ =>
    have := decidableDeep tokens links
    decidable_of_iff _ deep_succ_iff.symm

theorem Refers.infix {inner outer : List Char} (refers : tokens.Refers inner value)
    (within : inner <:+: outer) : tokens.Refers outer value := by
  obtain ⟨name, held, occurs, set, same⟩ := refers
  exact ⟨name, held, occurs.infix within, set, same⟩

theorem Deep.infix {inner outer : List Char} {links : Nat} (deep : tokens.Deep links inner)
    (within : inner <:+: outer) : tokens.Deep links outer := by
  cases links with
  | zero => trivial
  | succ links =>
      obtain ⟨value, refers, rest⟩ := deep
      exact ⟨value, refers.infix within, rest⟩

theorem Deep.mono {fewer links : Nat} (deep : tokens.Deep links text) (le : fewer ≤ links) :
    tokens.Deep fewer text := by
  induction fewer generalizing links text with
  | zero => trivial
  | succ fewer ih =>
      cases links with
      | zero => omega
      | succ links =>
          obtain ⟨value, refers, rest⟩ := deep
          exact ⟨value, refers, ih rest (by omega)⟩

theorem le_height_iff {links : Nat} :
    (links : ℕ∞) ≤ tokens.height text ↔ tokens.Deep links text := by
  constructor
  · intro high
    by_contra shallow
    have bounded : tokens.height text ≤ ((links - 1 : Nat) : ℕ∞) := by
      refine iSup₂_le fun longer deep => ?_
      have shorter : longer < links := by
        by_contra longEnough
        exact shallow (deep.mono (by omega))
      exact_mod_cast (by omega : longer ≤ links - 1)
    have positive : links ≠ 0 := by
      rintro rfl
      exact shallow trivial
    have : links ≤ links - 1 := by exact_mod_cast high.trans bounded
    omega
  · intro deep
    exact le_iSup₂_of_le links deep le_rfl

theorem height_le_iff {links : Nat} :
    tokens.height text ≤ links ↔ ¬ tokens.Deep (links + 1) text := by
  rw [← le_height_iff, not_le, Nat.cast_succ]
  exact (ENat.lt_add_one_iff (ENat.natCast_ne_top links)).symm

theorem height_eq_zero (plain : ∀ value, ¬ tokens.Refers text value) : tokens.height text = 0 := by
  refine ENat.eq_of_forall_natCast_le_iff fun links => ?_
  cases links with
  | zero => simp
  | succ links =>
      rw [le_height_iff]
      constructor
      · rintro ⟨value, refers, _⟩
        exact absurd refers (plain value)
      · intro le
        simp at le

theorem height_succ_le (refers : tokens.Refers text value) :
    tokens.height value + 1 ≤ tokens.height text := by
  refine ENat.forall_natCast_le_iff_le.mp fun links le => ?_
  cases links with
  | zero => simp
  | succ links =>
      have high : (links : ℕ∞) ≤ tokens.height value := by
        rw [Nat.cast_succ] at le
        exact (ENat.add_le_add_iff_right ENat.one_ne_top).mp le
      exact le_height_iff.mpr ⟨value, refers, le_height_iff.mp high⟩

theorem height_eq_succ (refers : tokens.Refers text value) :
    tokens.height text =
      1 + ⨆ (held : List Char) (_ : tokens.Refers text held), tokens.height held := by
  apply le_antisymm
  · refine iSup₂_le fun links deep => ?_
    cases links with
    | zero => simp
    | succ links =>
        obtain ⟨held, refers, rest⟩ := deep
        rw [Nat.cast_succ, add_comm]
        gcongr
        exact (le_height_iff.mpr rest).trans (le_iSup₂_of_le held refers le_rfl)
  · have positive : 1 ≤ tokens.height text := le_trans (by simp) (height_succ_le refers)
    have bounded : ⨆ (held : List Char) (_ : tokens.Refers text held), tokens.height held ≤
        tokens.height text - 1 :=
      iSup₂_le fun held reference =>
        (ENat.addLECancellable_of_ne_top ENat.one_ne_top).le_tsub_of_add_le_right
          (height_succ_le reference)
    calc 1 + ⨆ (held : List Char) (_ : tokens.Refers text held), tokens.height held
        ≤ 1 + (tokens.height text - 1) := by gcongr
      _ = tokens.height text := add_tsub_cancel_of_le positive

theorem Cyclic.deep (cyclic : tokens.Cyclic text) (links : Nat) : tokens.Deep links text := by
  induction links generalizing text with
  | zero => trivial
  | succ links ih =>
      obtain ⟨value, path, loop⟩ := cyclic
      rcases Relation.ReflTransGen.cases_head path with rfl | ⟨next, refers, rest⟩
      · obtain ⟨next, refers, back⟩ := Relation.TransGen.head'_iff.mp loop
        exact ⟨next, refers, ih ⟨text, back, loop⟩⟩
      · exact ⟨next, refers, ih ⟨value, rest, loop⟩⟩

open Classical in
/-- The values that references from the text lead to. -/
noncomputable def reached (tokens : Tokens) (text : List Char) : Finset (List Char) :=
  (tokens.entries.map fun entry => entry.2.toList).toFinset.filter fun value =>
    Relation.TransGen tokens.Refers text value

open Classical in
private theorem mem_reached :
    value ∈ tokens.reached text ↔ Relation.TransGen tokens.Refers text value := by
  rw [reached, Finset.mem_filter, List.mem_toFinset, and_iff_right_iff_imp]
  intro path
  obtain ⟨last, _, name, held, _, set, rfl⟩ := Relation.TransGen.tail'_iff.mp path
  exact List.mem_map.mpr ⟨_, (tokens.mem_entries_iff _ _).mpr set, rfl⟩

/-- Without a cycle a chain visits a value once at most. -/
theorem Deep.le_reached {links : Nat} (acyclic : ¬ tokens.Cyclic text)
    (deep : tokens.Deep links text) : links ≤ (tokens.reached text).card := by
  induction links generalizing text with
  | zero => exact Nat.zero_le _
  | succ links ih =>
      obtain ⟨value, refers, rest⟩ := deep
      have acyclicNext : ¬ tokens.Cyclic value := by
        rintro ⟨target, path, loop⟩
        exact acyclic ⟨target, path.head refers, loop⟩
      -- the value is reached from the text, but not from itself
      have fewer : tokens.reached value ⊂ tokens.reached text := by
        refine Finset.ssubset_iff_of_subset ?_ |>.mpr ⟨value, ?_, ?_⟩
        · intro target member
          exact mem_reached.mpr ((mem_reached.mp member).head refers)
        · exact mem_reached.mpr (.single refers)
        · intro member
          exact acyclic ⟨value, .single refers, mem_reached.mp member⟩
      have := Finset.card_lt_card fewer
      have := ih acyclicNext rest
      omega

theorem height_eq_top_iff : tokens.height text = ⊤ ↔ tokens.Cyclic text := by
  constructor
  · intro infinite
    by_contra acyclic
    have high : (((tokens.reached text).card + 1 : Nat) : ℕ∞) ≤ tokens.height text := by
      rw [infinite]
      exact le_top
    have := (le_height_iff.mp high).le_reached acyclic
    omega
  · intro cyclic
    refine top_le_iff.mp (ENat.forall_natCast_le_iff_le.mp fun links _ => ?_)
    exact le_height_iff.mpr (cyclic.deep links)

end HookRules.Tokens
