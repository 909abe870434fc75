import Mathlib.Data.List.TakeWhile
import HookRules.Text.Blank
import HookRules.Text.Line

/-!
What removing white space from the ends of a text comes to. Only white space is lost, and none is
left at an end; the beginning of the text is kept where it does not begin with white space.
-/

set_option autoImplicit false

namespace HookRules.Text

/-- The text is what is kept, with white space before it and behind it, and what is kept neither
begins nor ends with white space. -/
structure Trimmed (text kept : List Char) : Prop where
  surrounded : ∃ before after, text = before ++ (kept ++ after) ∧ allBlank before = true ∧
    allBlank after = true
  begins : ∀ c ∈ kept.head?, isBlank c = false
  ends : ∀ c ∈ kept.getLast?, isBlank c = false

/-- The text begins with what is kept, and the rest of it is white space. -/
def LosesEnd (text kept : List Char) : Prop := ∃ rest, text = kept ++ rest ∧ allBlank rest = true

theorem allBlank_append {first second : List Char} :
    allBlank (first ++ second) = true ↔ allBlank first = true ∧ allBlank second = true := by
  rw [allBlank, List.all_append, Bool.and_eq_true]
  rfl

private theorem trimChars_of_allBlank {text : List Char} (blank : allBlank text = true) :
    trimChars text = [] := by
  have dropped : trimStartChars text = [] :=
    List.dropWhile_eq_nil_iff.mpr (List.all_eq_true.mp blank)
  rw [trimChars, dropped]
  rfl

private theorem takeEndWhile_allBlank (text : List Char) :
    allBlank (takeEndWhile isBlank text) = true := by
  rw [allBlank, takeEndWhile, List.all_reverse]
  exact List.all_takeWhile

private theorem dropEndWhile_ends (text : List Char) :
    ∀ c ∈ (dropEndWhile isBlank text).getLast?, isBlank c = false := by
  intro c last
  rw [dropEndWhile, List.getLast?_reverse] at last
  have stays := List.head?_dropWhile_not isBlank text.reverse
  rw [Option.mem_def.mp last] at stays
  exact stays

theorem trimmed_trimChars (text : List Char) : Trimmed text (trimChars text) := by
  have started : text.takeWhile isBlank ++ trimStartChars text = text :=
    List.takeWhile_append_dropWhile
  have ended := dropEndWhile_append_takeEndWhile isBlank (trimStartChars text)
  refine ⟨⟨text.takeWhile isBlank, takeEndWhile isBlank (trimStartChars text), ?_,
    List.all_takeWhile, takeEndWhile_allBlank _⟩, ?_, dropEndWhile_ends _⟩
  · rw [trimChars, trimEndChars, ended, started]
  · intro c first
    have stays := List.head?_dropWhile_not isBlank text
    cases kept : trimChars text with
    | nil =>
        rw [kept] at first
        cases first
    | cons d rest =>
        rw [kept] at first
        cases first
        have begins : trimStartChars text =
            (c :: rest) ++ takeEndWhile isBlank (trimStartChars text) := by
          rw [← kept, trimChars, trimEndChars, ended]
        rw [trimStartChars] at begins
        rw [begins] at stays
        exact stays

theorem Trimmed.trimChars_eq {text kept : List Char} (trimmed : Trimmed text kept) :
    trimChars text = kept := by
  obtain ⟨⟨before, after, rfl, blank, blankAfter⟩, begins, ends⟩ := trimmed
  cases kept with
  | nil =>
      exact trimChars_of_allBlank (allBlank_append.mpr ⟨blank, blankAfter⟩)
  | cons c rest =>
      have stays : isBlank c = false := begins c rfl
      have started : trimStartChars (before ++ ((c :: rest) ++ after)) = (c :: rest) ++ after := by
        rw [trimStartChars, List.dropWhile_append_of_pos (List.all_eq_true.mp blank),
          List.cons_append, List.dropWhile_cons_of_neg (by simp [stays])]
      rw [trimChars, started]
      exact dropEndWhile_append (List.all_eq_true.mp blankAfter) ends

private theorem trimChars_append_blank (text : List Char) {blank : List Char}
    (isBlank : allBlank blank = true) : trimChars (text ++ blank) = trimChars text := by
  obtain ⟨⟨before, after, whole, blankBefore, blankAfter⟩, begins, ends⟩ := trimmed_trimChars text
  refine Trimmed.trimChars_eq ⟨⟨before, after ++ blank, ?_, blankBefore, ?_⟩, begins, ends⟩
  · rw [← List.append_assoc, ← List.append_assoc, List.append_assoc before, ← whole]
  · exact allBlank_append.mpr ⟨blankAfter, isBlank⟩

theorem trimChars_chomp (piece : List Char) : trimChars (chomp piece) = trimChars piece := by
  rw [chomp]
  split
  · rename_i rest reversed
    have whole : piece = rest.reverse ++ ['\r', '\n'] := by
      rw [← List.reverse_reverse piece, reversed]
      simp
    rw [whole, trimChars_append_blank rest.reverse rfl]
  · rename_i rest _ reversed
    have whole : piece = rest.reverse ++ ['\n'] := by
      rw [← List.reverse_reverse piece, reversed, List.reverse_cons]
    rw [whole, trimChars_append_blank rest.reverse rfl]
  · rfl

theorem Trimmed.mem_iff {text kept : List Char} (trimmed : Trimmed text kept) {c : Char}
    (visible : isBlank c = false) : c ∈ text ↔ c ∈ kept := by
  obtain ⟨⟨before, after, rfl, blank, blankAfter⟩, -, -⟩ := trimmed
  have apart (rest : List Char) (blank : allBlank rest = true) : c ∉ rest := by
    intro member
    rw [List.all_eq_true.mp blank c member] at visible
    cases visible
  simp [apart before blank, apart after blankAfter]

/-- Only the end is lost of a text that begins with no white space, or is white space alone. -/
theorem losesEnd_trimChars_iff {text : List Char} :
    LosesEnd text (trimChars text) ↔
      (∀ c ∈ text.head?, isBlank c = false) ∨ allBlank text = true := by
  constructor
  · rintro ⟨rest, whole, blank⟩
    cases kept : trimChars text with
    | nil =>
        rw [kept, List.nil_append] at whole
        rw [whole]
        exact .inr blank
    | cons c more =>
        left
        rw [kept] at whole
        rw [whole]
        intro d first
        apply (trimmed_trimChars text).begins
        rw [kept]
        exact first
  · rintro (begins | blank)
    · refine ⟨takeEndWhile isBlank text, ?_, takeEndWhile_allBlank text⟩
      have whole : trimStartChars text = text := by
        cases text with
        | nil => rfl
        | cons c rest => exact List.dropWhile_cons_of_neg (by simp [begins c rfl])
      rw [trimChars, whole]
      exact (dropEndWhile_append_takeEndWhile isBlank text).symm
    · exact ⟨text, by rw [trimChars_of_allBlank blank, List.nil_append], blank⟩

theorem LosesEnd.trimChars_eq_iff {text content : List Char} (loses : LosesEnd text content)
    (ends : ∀ c ∈ content.getLast?, isBlank c = false) :
    trimChars text = content ↔ ∀ c ∈ content.head?, isBlank c = false := by
  constructor
  · rintro rfl
    exact (trimmed_trimChars text).begins
  · intro begins
    obtain ⟨rest, whole, blank⟩ := loses
    exact Trimmed.trimChars_eq ⟨⟨[], rest, whole, rfl, blank⟩, begins, ends⟩

end HookRules.Text
