import HookRules.Text.Numeral

/-!
Which texts are numerals of a bounded range, and what they denote.
-/

set_option autoImplicit false

namespace HookRules.Text

/-- The value of decimal digits after others that have a value already. -/
def valueFrom (value : Nat) (digits : List Char) : Nat :=
  digits.foldl (fun value c => value * 10 + (c.toNat - '0'.toNat)) value

/-- The text is an unsigned decimal numeral: digits, of which there is one at least, and perhaps a
plus sign before them. -/
def Denotes (text : String) (value : Nat) : Prop :=
  ∃ digits, digits ≠ [] ∧ (text.toList = digits ∨ text.toList = '+' :: digits) ∧
    (∀ c ∈ digits, c.isDigit = true) ∧ valueFrom 0 digits = value

private theorem le_valueFrom (value : Nat) (digits : List Char) :
    value ≤ valueFrom value digits := by
  induction digits generalizing value with
  | nil => exact Nat.le_refl value
  | cons c rest ih =>
      have grows : value ≤ value * 10 + (c.toNat - '0'.toNat) := by omega
      exact Nat.le_trans grows (ih _)

theorem readDigits_eq_ok {limit value read : Nat} {beyond : NumeralError} {digits : List Char}
    (inside : value ≤ limit) :
    readDigits limit beyond value digits = .ok read ↔
      (∀ c ∈ digits, c.isDigit = true) ∧ valueFrom value digits = read ∧ read ≤ limit := by
  induction digits generalizing value with
  | nil =>
      rw [readDigits]
      constructor
      · intro same
        cases same
        exact ⟨nofun, rfl, inside⟩
      · rintro ⟨-, rfl, -⟩
        rfl
  | cons c rest ih =>
      rw [readDigits, digit?, List.forall_mem_cons]
      cases digit : c.isDigit with
      | false => simp
      | true =>
          rw [valueFrom, List.foldl_cons, ← valueFrom]
          simp only [↓reduceIte]
          split
          · rename_i bounded
            rw [ih bounded]
            simp
          · -- what follows makes the value no smaller
            rename_i beyondLimit
            have grows := le_valueFrom (value * 10 + (c.toNat - '0'.toNat)) rest
            simp only [reduceCtorEq, false_iff, not_and]
            intro _ same
            omega

theorem readNat_eq_ok {limit value : Nat} {text : String} :
    readNat limit text = .ok value ↔ Denotes text value ∧ value ≤ limit := by
  have plus : ('+' : Char).isDigit = false := rfl
  rw [readNat]
  split
  · rename_i empty
    simp only [reduceCtorEq, false_iff, not_and]
    rintro ⟨digits, some, written, -⟩
    rw [empty] at written
    rcases written with rfl | written
    · exact absurd rfl some
    · cases written
  · rename_i single
    simp only [reduceCtorEq, false_iff, not_and]
    rintro ⟨digits, some, written, allDigits, -⟩
    rw [single] at written
    rcases written with rfl | written
    · simp [plus] at allDigits
    · cases written
      exact absurd rfl some
  · rename_i digits some written
    rw [readDigits_eq_ok (Nat.zero_le limit)]
    constructor
    · rintro ⟨allDigits, same, bounded⟩
      exact ⟨⟨digits, some, .inr written, allDigits, same⟩, bounded⟩
    · rintro ⟨⟨others, -, same, allDigits, denoted⟩, bounded⟩
      rw [written] at same
      rcases same with rfl | same
      · rw [List.forall_mem_cons, plus] at allDigits
        cases allDigits.1
      · cases same
        exact ⟨allDigits, denoted, bounded⟩
  · rename_i some _ unsigned
    rw [readDigits_eq_ok (Nat.zero_le limit)]
    constructor
    · rintro ⟨allDigits, same, bounded⟩
      exact ⟨⟨_, some, .inl rfl, allDigits, same⟩, bounded⟩
    · rintro ⟨⟨digits, _, same, allDigits, denoted⟩, bounded⟩
      rcases same with rfl | same
      · exact ⟨allDigits, denoted, bounded⟩
      · exact absurd same (unsigned digits)

end HookRules.Text
