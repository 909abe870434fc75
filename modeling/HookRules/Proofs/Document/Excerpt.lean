import HookRules.Document.Malformed

/-!
What an excerpt shows of its source: the line that a message is about and its neighbours, each
behind its number, and the message behind a caret. The rows of the lines are indented by their
numbers, and the row of the caret is indented as if there were one digit, so the caret stands under
its column on the first nine lines and too far to the left on all others.
-/

set_option autoImplicit false

namespace HookRules.Excerpt

/-- The lines that stand next to a line, and the line itself, with their numbers. -/
def around (lines : List String) (number : Nat) : List (String × Nat) :=
  (lines.zipIdx 1).filter fun entry => number ≤ entry.2 + 1 ∧ entry.2 ≤ number + 1

def rows (lines : List (String × Nat)) : String :=
  String.join (lines.map fun entry => numbered entry.2 entry.1)

/-- How many characters stand before a column of a line in the row of the line. -/
def indentOf (number column : Nat) : Nat := (" " ++ toString number ++ " | ").length + (column - 1)

/-- The lines that an excerpt shows, and what stands before its caret. -/
structure Parts where
  above : List (String × Nat)
  line : String
  below : List (String × Nat)
  gap : String

/-- The text is an excerpt of these parts, for a span of the source. -/
structure Parts.Shows (parts : Parts) (message source : String) (span : Span) (text : String) :
    Prop where
  lines : around (Text.lines source) span.line =
    parts.above ++ (parts.line, span.line) :: parts.below
  whole : text = "  --> line " ++ toString span.line ++ ":" ++ toString span.column ++ "\n" ++
    "   |\n" ++ rows parts.above ++ numbered span.line parts.line ++
    (parts.gap ++ "^ " ++ message ++ "\n") ++ rows parts.below ++ "   |"
  blank : ∀ c ∈ parts.gap.toList, c = ' ' ∨ c = '|'
  column : ∀ c, parts.line.toList[span.column - 1]? = some c →
    (numbered span.line parts.line).toList[indentOf span.line span.column]? = some c

private theorem rows_split (above : List (String × Nat)) (number : Nat) (line : String)
    (below : List (String × Nat)) :
    rows (above ++ (line, number) :: below) = rows above ++ numbered number line ++ rows below := by
  rw [rows, List.map_append, String.join_append, List.map_cons, String.join_cons,
    ← String.append_assoc]
  rfl

section Split

variable {front back : List String} {line : String}

def lineAbove (front : List String) : List (String × Nat) :=
  front.getLast?.toList.map fun previous => (previous, front.length)

def lineBelow (front back : List String) : List (String × Nat) :=
  back.head?.toList.map fun next => (next, front.length + 2)

private theorem filter_zipIdx_none {lines : List String} {start number : Nat}
    (apart : start + lines.length < number ∨ number + 1 < start) :
    ((lines.zipIdx start).filter fun entry =>
      number ≤ entry.2 + 1 ∧ entry.2 ≤ number + 1) = [] := by
  refine List.filter_eq_nil_iff.mpr fun entry member => ?_
  have lower := List.le_snd_of_mem_zipIdx member
  have upper := List.snd_lt_add_of_mem_zipIdx member
  simp only [decide_eq_true_eq, not_and]
  omega

theorem around_split (front : List String) (line : String) (back : List String) :
    around (front ++ line :: back) (front.length + 1) =
      lineAbove front ++ (line, front.length + 1) :: lineBelow front back := by
  have before : ((front.zipIdx 1).filter fun entry =>
      front.length + 1 ≤ entry.2 + 1 ∧ entry.2 ≤ front.length + 1 + 1) = lineAbove front := by
    rcases List.eq_nil_or_concat front with rfl | ⟨rest, previous, rfl⟩
    · rfl
    · have length : (rest.concat previous).length = 1 + rest.length := by
        rw [List.length_concat, Nat.add_comm]
      rw [lineAbove, length, List.concat_eq_append, List.zipIdx_append, List.filter_append,
        filter_zipIdx_none (.inl (by omega)), List.getLast?_concat, List.nil_append,
        List.zipIdx_singleton, List.filter_cons_of_pos (by simp; omega)]
      rfl
  have behind : ((back.zipIdx (front.length + 2)).filter fun entry =>
      front.length + 1 ≤ entry.2 + 1 ∧ entry.2 ≤ front.length + 1 + 1) = lineBelow front back := by
    cases back with
    | nil => rfl
    | cons next rest =>
        rw [List.zipIdx_cons, List.filter_cons_of_pos (by simp),
          filter_zipIdx_none (.inr (by omega))]
        rfl
  rw [around, List.zipIdx_append, List.filter_append, before, List.zipIdx_cons,
    Nat.add_comm 1 front.length, List.filter_cons_of_pos (by simp), behind]

private theorem render_split (message source : String) (span : Span)
    (cut : Text.lines source = front ++ line :: back) (numbers : span.line = front.length + 1) :
    render message source span =
      "  --> line " ++ toString span.line ++ ":" ++ toString span.column ++ "\n" ++ "   |\n" ++
        rows (lineAbove front) ++ numbered span.line line ++ caretRow span.column message ++
        rows (lineBelow front back) ++ "   |" := by
  have own : (front ++ line :: back)[front.length]? = some line := by simp
  have next : (front ++ line :: back)[front.length + 1]? = back.head? := by cases back <;> simp
  rw [render]
  simp only [cut, numbers, Nat.add_sub_cancel, own, next]
  rcases List.eq_nil_or_concat front with rfl | ⟨rest, previous, rfl⟩
  · cases back <;> simp [rows, lineAbove, lineBelow, String.join]
  · cases back <;> simp [rows, lineAbove, lineBelow, String.join]

end Split

private theorem numbered_at {number column : Nat} {line : String} {c : Char}
    (found : line.toList[column - 1]? = some c) :
    (numbered number line).toList[indentOf number column]? = some c := by
  have inside : column - 1 < line.toList.length := (List.getElem?_eq_some_iff.mp found).1
  rw [numbered, String.toList_append, String.toList_append, indentOf, ← String.length_toList,
    List.append_assoc, List.getElem?_append_right (Nat.le_add_right _ _), Nat.add_sub_cancel_left,
    List.getElem?_append_left inside, found]

private theorem length_gutter (number : Nat) :
    (" " ++ toString number ++ " | ").length = (toString number).length + 4 := by
  have before : " ".length = 1 := rfl
  have behind : " | ".length = 3 := rfl
  rw [String.length_append, String.length_append, before, behind]
  omega

private theorem one_digit_iff (number : Nat) : (toString number).length = 1 ↔ number < 10 := by
  have positive : 0 < (Nat.toDigits 10 number).length := Nat.length_toDigits_pos
  have bounded : (Nat.toDigits 10 number).length ≤ 1 ↔ number < 10 ^ 1 :=
    Nat.length_toDigits_le_iff (by decide) (by decide)
  rw [Nat.toString_eq_repr, ← String.length_toList, Nat.toList_repr]
  omega

/-- What stands before the caret in its row. -/
def gapOf (column : Nat) : String := "   | " ++ String.ofList (List.replicate (column - 1) ' ')

private theorem length_gapOf (column : Nat) : (gapOf column).length = 5 + (column - 1) := by
  have gutter : "   | ".length = 5 := rfl
  rw [gapOf, String.length_append, gutter, String.length_ofList, List.length_replicate]

private theorem gapOf_blank (column : Nat) : ∀ c ∈ (gapOf column).toList, c = ' ' ∨ c = '|' := by
  have gutter : "   | ".toList = [' ', ' ', ' ', '|', ' '] := rfl
  rw [gapOf, String.toList_append, gutter]
  intro c member
  rcases List.mem_append.mp member with before | spaces
  · simp only [List.mem_cons, List.not_mem_nil, or_false] at before
    grind
  · rw [String.toList_ofList] at spaces
    exact .inl (List.mem_replicate.mp spaces).2

section Shown

variable {message source text : String} {span : Span} {front back : List String} {line : String}

private theorem shows_split (message : String) (cut : Text.lines source = front ++ line :: back)
    (numbers : span.line = front.length + 1) :
    (Parts.mk (lineAbove front) line (lineBelow front back) (gapOf span.column)).Shows message
      source span (render message source span) where
  lines := by
    rw [cut, numbers]
    exact around_split front line back
  whole := render_split message source span cut numbers
  blank := gapOf_blank span.column
  column := fun _ found => numbered_at found

private theorem Parts.Shows.same_gap {parts other : Parts}
    (shows : parts.Shows message source span text)
    (again : other.Shows message source span text) : parts.gap.length = other.gap.length := by
  have total {parts : Parts} (shows : parts.Shows message source span text) :
      (rows parts.above ++ numbered span.line parts.line ++ rows parts.below).length =
        (rows (around (Text.lines source) span.line)).length := by
    rw [shows.lines, rows_split]
  have first := total shows
  have second := total again
  have whole := congrArg String.length (shows.whole.symm.trans again.whole)
  simp only [String.length_append] at first second whole
  omega

end Shown

theorem exists_split {lines : List String} {number : Nat} (counted : 1 ≤ number)
    (among : number ≤ lines.length) :
    ∃ front line back, lines = front ++ line :: back ∧ number = front.length + 1 := by
  have inside : number - 1 < lines.length := by omega
  refine ⟨lines.take (number - 1), lines[number - 1], lines.drop (number - 1 + 1), ?_, ?_⟩
  · rw [← List.drop_eq_getElem_cons inside, List.take_append_drop]
  · rw [List.length_take]
    omega

/-- On a line that the source has, an excerpt shows the lines next to it and the line itself, each
as it is and behind its own number, and below the line a caret. The caret is as many characters to
the left of its column as the number of the line has digits beyond the first, so it stands under its
column exactly on the first nine lines. -/
theorem neighbours_shown (message source : String) (span : Span) (counted : 1 ≤ span.line)
    (among : span.line ≤ (Text.lines source).length) :
    (∃ parts : Parts, parts.Shows message source span (render message source span)) ∧
    (∀ parts : Parts, parts.Shows message source span (render message source span) →
      parts.gap.length + (toString span.line).length = indentOf span.line span.column + 1 ∧
      (parts.gap.length = indentOf span.line span.column ↔ span.line < 10)) ∧
    ∀ error : DocumentError, error.span? = some span →
      error.render source = error.message ++ "\n" ++ render error.message source span := by
  obtain ⟨front, line, back, cut, numbers⟩ := exists_split counted among
  have shown := shows_split message cut numbers
  refine ⟨⟨_, shown⟩, fun parts shows => ?_, fun error located => ?_⟩
  · have gap : parts.gap.length = 5 + (span.column - 1) :=
      (shows.same_gap shown).trans (length_gapOf span.column)
    have digits := one_digit_iff span.line
    rw [gap, indentOf, length_gutter]
    omega
  · rw [DocumentError.render, located]

/-- A tag that is closed by another one on the third line. -/
theorem third_line_pointed_at :
    let source := "<Actions>\n  <SendError>\n</Actions>"
    let span := Span.point 3 3
    render "mismatched tag" source span = "  --> line 3:3\n   |\n 2 |   <SendError>\n" ++
        " 3 | </Actions>\n   |   ^ mismatched tag\n   |" ∧
      ∃ parts : Parts, parts.Shows "mismatched tag" source span
          (render "mismatched tag" source span) ∧ parts.gap.length = indentOf 3 3 := by
  intro source span
  obtain ⟨⟨parts, shows⟩, aligned, -⟩ := neighbours_shown "mismatched tag" source span
    (by decide) (by decide +kernel)
  exact ⟨by decide +kernel, parts, shows, (aligned parts shows).2.mpr (by decide)⟩

/-- On the tenth line the caret stands one character to the left of its column. -/
theorem tenth_line_missed :
    let source := "<Actions>\n1\n2\n3\n4\n5\n6\n7\n8\n</actions>"
    let span := Span.point 10 3
    render "mismatched tag" source span = "  --> line 10:3\n   |\n 9 | 8\n" ++
        " 10 | </actions>\n   |   ^ mismatched tag\n   |" ∧
      ¬ ∃ parts : Parts, parts.Shows "mismatched tag" source span
          (render "mismatched tag" source span) ∧ parts.gap.length = indentOf 10 3 := by
  intro source span
  refine ⟨by decide +kernel, ?_⟩
  rintro ⟨parts, shows, aligned⟩
  have cut : Text.lines source =
      ["<Actions>", "1", "2", "3", "4", "5", "6", "7", "8"] ++ "</actions>" :: [] := by
    decide +kernel
  have gap := shows.same_gap (shows_split "mismatched tag" cut rfl)
  rw [aligned] at gap
  exact absurd gap (by decide +kernel)

end HookRules.Excerpt
