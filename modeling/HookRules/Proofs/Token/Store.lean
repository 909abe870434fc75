import HookRules.Token.Store
import Mathlib.Data.List.Sort

/-!
Look-ups in a store. Setting a token answers the look-ups of its name, in any case of letters, and
no other ones; of several pairs the last one of a name counts. A store is its answers, so tokens of
different names may be set in any order.
-/

set_option autoImplicit false

namespace HookRules.Tokens

private theorem find?_place (key value other : String) (entries : List (String × String)) :
    ((place key value entries).find? fun entry => entry.1 == other).map Prod.snd =
      if key = other then some value
      else (entries.find? fun entry => entry.1 == other).map Prod.snd := by
  induction entries with
  | nil =>
      by_cases same : key = other
      · simp [place, same]
      · have differs : (key == other) = false := by simpa using same
        simp [place, same, differs]
  | cons entry rest ih =>
      obtain ⟨name, held⟩ := entry
      rw [place]
      split
      · rename_i replaced
        subst replaced
        by_cases same : key = other <;> simp [same]
      · rename_i differs
        split
        · by_cases same : key = other <;> simp [same]
        · by_cases found : name = other
          · subst found
            simp [differs]
          · simpa [found] using ih

theorem lookup?_set (tokens : Tokens) (name value other : String) :
    (tokens.set name value).lookup? other =
      if Text.toUpper name = Text.toUpper other then some value else tokens.lookup? other :=
  find?_place _ _ _ _

theorem lookup?_set_other {tokens : Tokens} {name other : String} (value : String)
    (differs : Text.toUpper name ≠ Text.toUpper other) :
    (tokens.set name value).lookup? other = tokens.lookup? other := by
  rw [lookup?_set, if_neg differs]

private theorem mem_iff_find?_eq {entries : List (String × String)}
    (ordered : entries.Pairwise fun entry later => entry.1 < later.1) (key value : String) :
    (key, value) ∈ entries ↔
      (entries.find? fun entry => entry.1 == key).map Prod.snd = some value := by
  induction ordered with
  | nil => simp
  | @cons entry rest above _ ih =>
      obtain ⟨name, held⟩ := entry
      by_cases found : name = key
      · subst found
        have absent : (name, value) ∉ rest := fun member =>
          String.lt_irrefl name (above (name, value) member)
        simp [absent, eq_comm]
      · have differs : (name == key) = false := by simpa using found
        simp [differs, Ne.symm found, ih]

theorem mem_entries_iff (tokens : Tokens) (name value : String) :
    (Text.toUpper name, value) ∈ tokens.entries ↔ tokens.lookup? name = some value :=
  mem_iff_find?_eq tokens.ordered (Text.toUpper name) value

theorem eq_of_lookup?_eq {first second : Tokens}
    (same : ∀ name, first.lookup? name = second.lookup? name) : first = second := by
  have irreflexive : Std.Irrefl fun entry later : String × String => entry.1 < later.1 :=
    ⟨fun entry => String.lt_irrefl entry.1⟩
  have included {one other : Tokens} (alike : ∀ name, one.lookup? name = other.lookup? name)
      (entry : String × String) (member : entry ∈ one.entries) : entry ∈ other.entries := by
    obtain ⟨key, value⟩ := entry
    obtain ⟨name, rfl⟩ := one.named (key, value) member
    rw [mem_entries_iff] at member ⊢
    rw [← alike, member]
  refine Tokens.ext (first.ordered.eq_of_mem_iff second.ordered fun entry => ?_)
  exact ⟨included same entry, included (fun name => (same name).symm) entry⟩

theorem set_comm {one other : String} (apart : Text.toUpper one ≠ Text.toUpper other)
    (tokens : Tokens) (first second : String) :
    (tokens.set one first).set other second = (tokens.set other second).set one first := by
  refine eq_of_lookup?_eq fun name => ?_
  simp only [lookup?_set]
  by_cases left : Text.toUpper one = Text.toUpper name
  · have right : Text.toUpper other ≠ Text.toUpper name := fun same => apart (left.trans same.symm)
    simp only [if_pos left, if_neg right]
  · simp only [if_neg left]

theorem set_congr {one other : String} (same : Text.toUpper one = Text.toUpper other)
    (tokens : Tokens) (value : String) : tokens.set one value = tokens.set other value :=
  Tokens.ext (congrArg (place · value tokens.entries) same)

theorem setAll_cons (tokens : Tokens) (pair : String × String) (rest : List (String × String)) :
    tokens.setAll (pair :: rest) = (tokens.set pair.1 pair.2).setAll rest := rfl

theorem setAll_append (tokens : Tokens) (first second : List (String × String)) :
    tokens.setAll (first ++ second) = (tokens.setAll first).setAll second :=
  List.foldl_append

theorem lookup?_setAll_other {tokens : Tokens} {pairs : List (String × String)} {name : String}
    (absent : ∀ pair ∈ pairs, Text.toUpper pair.1 ≠ Text.toUpper name) :
    (tokens.setAll pairs).lookup? name = tokens.lookup? name := by
  induction pairs generalizing tokens with
  | nil => rfl
  | cons pair rest ih =>
      have later : ((tokens.set pair.1 pair.2).setAll rest).lookup? name =
          (tokens.set pair.1 pair.2).lookup? name :=
        ih fun other member => absent other (List.mem_cons_of_mem pair member)
      rw [setAll_cons, later]
      exact lookup?_set_other pair.2 (absent pair List.mem_cons_self)

theorem lookup?_setAll_congr {first second : Tokens} {name : String}
    (same : first.lookup? name = second.lookup? name) (pairs : List (String × String)) :
    (first.setAll pairs).lookup? name = (second.setAll pairs).lookup? name := by
  induction pairs generalizing first second with
  | nil => exact same
  | cons pair rest ih =>
      refine ih ?_
      rw [lookup?_set, lookup?_set, same]

theorem lookup?_setAll_given (tokens : Tokens) (given name : String) (value : Option String) :
    (tokens.setAll (value.toList.map fun text => (given, text))).lookup? name =
      if Text.toUpper given = Text.toUpper name then value <|> tokens.lookup? name
      else tokens.lookup? name := by
  cases value with
  | none => exact (ite_self _).symm
  | some text => exact lookup?_set tokens given text name

end HookRules.Tokens
