/-!
Finding a part of a text.
-/

set_option autoImplicit false

namespace HookRules.Text

def occursIn (part : List Char) : List Char → Bool
  | [] => part.isEmpty
  | c :: rest => part.isPrefixOf (c :: rest) || occursIn part rest

def splitAtFirst (c : Char) : List Char → Option (List Char × List Char)
  | [] => none
  | head :: rest =>
    if head = c then some ([], rest)
    else (splitAtFirst c rest).map fun (before, after) => (head :: before, after)

theorem splitAtFirst_eq_some_iff {c : Char} {text before after : List Char} :
    splitAtFirst c text = some (before, after) ↔ text = before ++ c :: after ∧ c ∉ before := by
  induction text generalizing before after with
  | nil => simp [splitAtFirst]
  | cons head rest ih =>
    by_cases same : head = c
    · cases before with
      | nil => simp [splitAtFirst, same]
      | cons first more => simp [splitAtFirst, same]; grind
    · cases before with
      | nil => simp [splitAtFirst, same]
      | cons first more =>
        simp only [splitAtFirst, same, if_false, Option.map_eq_some_iff, Prod.mk.injEq,
          Prod.exists, List.cons_append, List.cons.injEq, List.mem_cons, not_or]
        constructor
        · rintro ⟨inner, last, found, ⟨rfl, rfl⟩, rfl⟩
          exact ⟨⟨rfl, (ih.1 found).1⟩, Ne.symm same, (ih.1 found).2⟩
        · rintro ⟨⟨rfl, rfl⟩, _, absent⟩
          exact ⟨more, after, ih.2 ⟨rfl, absent⟩, ⟨rfl, rfl⟩, rfl⟩

end HookRules.Text
