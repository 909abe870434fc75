import HookRules.Proofs.Document.Excerpt
import HookRules.Proofs.Text.Line
import HookRules.Report.Diagnostic
import Mathlib.Data.List.Forall2
import Mathlib.Data.List.Zip

/-!
The layout of the excerpt in a message about a document. Each row has a label at the right end of
a margin, then a bar, and behind the bar what the row shows: a line of the document behind its
number, or the caret behind no label. The margin is as wide as the largest number that stands in
it, so no number moves a bar, and the caret stands under its column on every line.
-/

set_option autoImplicit false

namespace HookRules.Diagnostic

private theorem length_toString_le {small large : Nat} (le : small ≤ large) :
    (toString small).length ≤ (toString large).length := by
  have positive : 0 < (toString large).length := by
    rw [Nat.toString_eq_repr, ← String.length_toList, Nat.toList_repr]
    exact Nat.length_toDigits_pos
  have bounded : large < 10 ^ (toString large).length :=
    (Nat.length_repr_le_iff positive).mp (Nat.le_refl _)
  exact (Nat.length_repr_le_iff positive).mpr (Nat.lt_of_le_of_lt le bounded)

private theorem not_mem_toString {c : Char} (other : c.isDigit = false) (number : Nat) :
    c ∉ (toString number).toList := by
  intro member
  rw [Nat.toString_eq_repr, Nat.toList_repr] at member
  have digit := Nat.isDigit_of_mem_toDigits (by decide) (by decide) member
  rw [other] at digit
  cases digit

/-! ## Rows -/

/-- The row has its label at the right end of a margin of the given width, then the bar between two
blanks, and then what it shows. -/
def Lays (width : Nat) (label shown row : String) : Prop :=
  ∃ blanks, blanks + label.length = width ∧
    row.toList = List.replicate blanks ' ' ++ label.toList ++ [' ', '|', ' '] ++ shown.toList

def laid (width : Nat) (label shown : String) : String := alignRight width label ++ " | " ++ shown

private theorem lays_laid {width : Nat} {label : String} (fits : label.length ≤ width)
    (shown : String) :
    Lays width label shown (laid width label shown) := by
  refine ⟨width - label.length, Nat.sub_add_cancel fits, ?_⟩
  simp only [laid, alignRight, String.toList_append, String.toList_ofList]
  rfl

private theorem idxOf?_behind {before : List Char} {c : Char} {place : Nat} (absent : c ∉ before)
    (long : before.length = place) (after : List Char) :
    (before ++ c :: after).idxOf? c = some place := by
  induction before generalizing place with
  | nil => simp [← long, List.idxOf?_cons]
  | cons first rest ih =>
      simp only [List.mem_cons, not_or] at absent
      have other : ¬ (first == c) = true := by simpa using Ne.symm absent.1
      rw [List.cons_append, List.idxOf?_cons, if_neg other, ih absent.2 rfl]
      exact congrArg some long

section Row

variable {width : Nat} {label shown row : String}

theorem Lays.bar (lays : Lays width label shown row) (barless : '|' ∉ label.toList) :
    row.toList.idxOf? '|' = some (width + 1) := by
  obtain ⟨blanks, rfl, written⟩ := lays
  have absent : '|' ∉ List.replicate blanks ' ' ++ label.toList ++ [' '] := by
    simp [List.mem_replicate, barless]
  have long : (List.replicate blanks ' ' ++ label.toList ++ [' ']).length =
      blanks + label.length + 1 := by simp [String.length_toList, Nat.add_assoc]
  rw [written]
  simpa using idxOf?_behind absent long (' ' :: shown.toList)

theorem Lays.column (lays : Lays width label shown row) {column : Nat} (counted : 1 ≤ column) :
    row.toList[width + 2 + column]? = shown.toList[column - 1]? := by
  obtain ⟨blanks, rfl, written⟩ := lays
  have margin : (List.replicate blanks ' ' ++ label.toList ++ [' ', '|', ' ']).length =
      blanks + label.length + 3 := by simp [String.length_toList, Nat.add_assoc]
  rw [written, List.getElem?_append_right (by omega), margin]
  congr 1
  omega

theorem Lays.single (lays : Lays width label shown row) (first : '\n' ∉ label.toList)
    (second : '\n' ∉ shown.toList) : '\n' ∉ row.toList := by
  obtain ⟨blanks, -, written⟩ := lays
  simp [written, List.mem_replicate, first, second]

end Row

def pointer (column : Nat) : String := String.ofList (List.replicate (column - 1) ' ') ++ "^"

private theorem toList_pointer (column : Nat) :
    (pointer column).toList = List.replicate (column - 1) ' ' ++ ['^'] := by
  rw [pointer, String.toList_append, String.toList_ofList]
  rfl

theorem Lays.caret {width column : Nat} {row : String} (lays : Lays width "" (pointer column) row)
    (placed : 1 ≤ column) : row.toList.idxOf? '^' = some (width + 2 + column) := by
  obtain ⟨blanks, rfl, written⟩ := lays
  have absent : '^' ∉ List.replicate blanks ' ' ++ [' ', '|', ' '] ++
      List.replicate (column - 1) ' ' := by
    simp [List.mem_replicate]
  have long : (List.replicate blanks ' ' ++ [' ', '|', ' '] ++
      List.replicate (column - 1) ' ').length = blanks + "".length + 2 + column := by
    simp only [List.length_append, List.length_replicate, List.length_cons, List.length_nil,
      String.length_empty]
    omega
  rw [written, toList_pointer]
  simpa using idxOf?_behind absent long []

/-! ## Layouts -/

/-- The rows of an excerpt from top to bottom, and the width of their margin. -/
structure Layout where
  width : Nat
  above : List String
  own : String
  caret : String
  below : List String

namespace Layout

/-- The rows that show lines. -/
def lineRows (layout : Layout) : List String := layout.above ++ layout.own :: layout.below

def rows (layout : Layout) : List String :=
  layout.above ++ layout.own :: layout.caret :: layout.below

/-- Where the rows have a column of what they show. -/
def placeOf (layout : Layout) (column : Nat) : Nat := layout.width + 2 + column

/-- The text is made of these rows. They show the line of a span and the lines next to it, each as
it is and behind its number, and the row of the caret follows that of the line. The margin is no
wider than the numbers need. -/
structure Prints (layout : Layout) (source : String) (span : Span) (line text : String) : Prop where
  whole : text = String.join (layout.rows.map (· ++ "\n"))
  lines : List.Forall₂ (fun entry row => Lays layout.width (toString entry.2) entry.1 row)
    (Excerpt.around (Text.lines source) span.line) layout.lineRows
  narrow : ∃ entry ∈ Excerpt.around (Text.lines source) span.line,
    (toString entry.2).length = layout.width
  own : Lays layout.width (toString span.line) line layout.own
  caret : Lays layout.width "" (pointer span.column) layout.caret

/-- No row is broken, all rows have their first bar in one place, and the caret stands in the place
that the row of the line has for the column. -/
structure Aligned (layout : Layout) (line : String) (column : Nat) : Prop where
  single : ∀ row ∈ layout.rows, '\n' ∉ row.toList
  bars : ∀ row ∈ layout.rows, row.toList.idxOf? '|' = some (layout.width + 1)
  columns : ∀ counted, 1 ≤ counted →
    layout.own.toList[layout.placeOf counted]? = line.toList[counted - 1]?
  pointed : layout.caret.toList.idxOf? '^' = some (layout.placeOf column)

variable {layout : Layout} {source line text : String} {span : Span}

private theorem mem_rows {row : String} :
    row ∈ layout.rows ↔ row = layout.caret ∨ row ∈ layout.lineRows := by
  simp only [rows, lineRows, List.mem_append, List.mem_cons]
  grind

private theorem Prints.exists_entry (prints : layout.Prints source span line text) {row : String}
    (member : row ∈ layout.lineRows) :
    ∃ entry ∈ Excerpt.around (Text.lines source) span.line,
      Lays layout.width (toString entry.2) entry.1 row := by
  obtain ⟨place, inside, rfl⟩ := List.mem_iff_getElem.mp member
  have bounded := prints.lines.length_eq ▸ inside
  exact ⟨_, List.getElem_mem bounded, prints.lines.get bounded inside⟩

private theorem Prints.lays (prints : layout.Prints source span line text) {row : String}
    (member : row ∈ layout.rows) :
    ∃ label shown, Lays layout.width label shown row ∧ '|' ∉ label.toList ∧
      '\n' ∉ label.toList ∧ '\n' ∉ shown.toList := by
  rcases mem_rows.mp member with rfl | member
  · refine ⟨_, _, prints.caret, by simp, by simp, ?_⟩
    simp [toList_pointer, List.mem_replicate]
  · obtain ⟨entry, shown, lays⟩ := prints.exists_entry member
    have among : entry.1 ∈ Text.lines source :=
      List.fst_mem_of_mem_zipIdx (List.mem_filter.mp shown).1
    exact ⟨_, _, lays, not_mem_toString rfl _, not_mem_toString rfl _, Text.lines_feedless among⟩

theorem Prints.aligned (prints : layout.Prints source span line text) (placed : 1 ≤ span.column) :
    layout.Aligned line span.column where
  single := by
    intro row member
    obtain ⟨label, shown, lays, -, first, second⟩ := prints.lays member
    exact lays.single first second
  bars := by
    intro row member
    obtain ⟨label, shown, lays, barless, -⟩ := prints.lays member
    exact lays.bar barless
  columns := fun _ counted => prints.own.column counted
  pointed := prints.caret.caret placed

end Layout

/-! ## Excerpts -/

private theorem paint_plain (style : Style) (text : String) : style.paint false text = text := rfl

private theorem le_of_mem_around {lines : List String} {number : Nat} {entry : String × Nat}
    (member : entry ∈ Excerpt.around lines number) : entry.2 ≤ min (number + 1) lines.length := by
  obtain ⟨counted, near⟩ := List.mem_filter.mp member
  have upper := List.snd_lt_add_of_mem_zipIdx counted
  simp only [decide_eq_true_eq] at near
  omega

private theorem exists_last_around {lines : List String} {number : Nat} (counted : 1 ≤ number)
    (among : number ≤ lines.length) :
    ∃ entry ∈ Excerpt.around lines number, entry.2 = min (number + 1) lines.length := by
  obtain ⟨last, same⟩ : ∃ last, last = min (number + 1) lines.length := ⟨_, rfl⟩
  have inside : last - 1 < lines.length := by omega
  refine ⟨(lines[last - 1], last), List.mem_filter.mpr ⟨?_, ?_⟩, same⟩
  · refine List.mk_mem_zipIdx_iff_le_and_getElem?_sub.mpr ⟨by omega, ?_⟩
    exact List.getElem?_eq_getElem inside
  · simp only [decide_eq_true_eq]
    omega

/-- The row of a line, given with its number. -/
def rowOf (width : Nat) (entry : String × Nat) : String := laid width (toString entry.2) entry.1

private theorem row_other {width number column : Nat} {entry : String × Nat}
    (apart : entry.2 ≠ number) :
    row false width number column entry.swap = rowOf width entry ++ "\n" := by
  rw [row, Prod.fst_swap, Prod.snd_swap, if_neg apart]
  simp [rowOf, laid, paint_plain, String.append_assoc]

private theorem row_own (width number column : Nat) (line : String) :
    row false width number column (number, line) =
      rowOf width (line, number) ++ "\n" ++ (laid width "" (pointer column) ++ "\n") := by
  rw [row, if_pos rfl]
  simp [rowOf, laid, pointer, paint_plain, String.append_assoc]

/-- The layout for a line, given its number and the lines above and below it. -/
def layoutOf (width number column : Nat) (above : List (String × Nat)) (line : String)
    (below : List (String × Nat)) : Layout where
  width := width
  above := above.map (rowOf width)
  own := rowOf width (line, number)
  caret := laid width "" (pointer column)
  below := below.map (rowOf width)

private theorem join_others {width number column : Nat} {entries : List (String × Nat)}
    (apart : ∀ entry ∈ entries, entry.2 ≠ number) :
    String.join (entries.map fun entry => row false width number column entry.swap) =
      String.join ((entries.map (rowOf width)).map (· ++ "\n")) := by
  rw [List.map_map]
  refine congrArg String.join (List.map_congr_left fun entry member => ?_)
  exact row_other (apart entry member)

private theorem join_rows {width number : Nat} {above below : List (String × Nat)}
    (before : ∀ entry ∈ above, entry.2 ≠ number) (behind : ∀ entry ∈ below, entry.2 ≠ number)
    (column : Nat) (line : String) :
    String.join ((above ++ (line, number) :: below).map fun entry =>
        row false width number column entry.swap) =
      String.join ((layoutOf width number column above line below).rows.map (· ++ "\n")) := by
  simp only [List.map_append, List.map_cons, String.join_append, String.join_cons,
    join_others before, join_others behind, Prod.swap_prod_mk, row_own, Layout.rows, layoutOf,
    String.append_assoc]

/-- Counting lines from a number is the same in either order of the pairs. -/
theorem zip_counted (first : Nat) (shown : List String) :
    ((List.range shown.length).map fun offset => first + offset + 1).zip shown =
      (shown.zipIdx (first + 1)).map Prod.swap := by
  rw [List.zipIdx_eq_zip_range', List.zip_swap, List.range'_eq_map_range]
  congr 2
  funext offset
  omega

section Split

open Excerpt

variable {source line : String} {span : Span} {front back : List String}

private theorem cut_split (front : List String) (line : String) (back : List String) :
    (((front ++ line :: back).take (front.length + 2)).drop (front.length - 1)).zipIdx
      (front.length - 1 + 1) =
      lineAbove front ++ (line, front.length + 1) :: lineBelow front back := by
  rcases List.eq_nil_or_concat front with rfl | ⟨rest, previous, rfl⟩
  · cases back <;> rfl
  · rw [List.concat_eq_append, List.append_assoc, List.length_append, List.length_singleton,
      Nat.add_sub_cancel, Nat.add_assoc, List.take_length_add_append, List.drop_left]
    cases back <;> simp [lineAbove, lineBelow]

def widthOf (lines : List String) (number : Nat) : Nat :=
  (toString (min (number + 1) lines.length)).length

private theorem excerpt_split (cut : Text.lines source = front ++ line :: back)
    (numbers : span.line = front.length + 1) :
    excerpt false source span = String.join
      ((layoutOf (widthOf (Text.lines source) span.line) span.line span.column (lineAbove front)
        line (lineBelow front back)).rows.map (· ++ "\n")) := by
  have above : ∀ entry ∈ lineAbove front, entry.2 ≠ front.length + 1 := by
    simp [lineAbove]
  have below : ∀ entry ∈ lineBelow front back, entry.2 ≠ front.length + 1 := by
    simp [lineBelow]
  have present : ¬ (front ++ line :: back).length ≤ front.length := by simp
  rw [numbers, ← join_rows above below, excerpt]
  simp only [cut, numbers, Nat.add_sub_cancel, if_neg present]
  rw [zip_counted, ← List.take_eq_take_min, cut_split, List.map_map]
  rfl

private theorem lineRows_layoutOf (width number column : Nat) (above : List (String × Nat))
    (line : String) (below : List (String × Nat)) :
    (layoutOf width number column above line below).lineRows =
      (above ++ (line, number) :: below).map (rowOf width) := by
  rw [List.map_append, List.map_cons]
  rfl

private theorem lays_rowOf {lines : List String} {number : Nat} {entry : String × Nat}
    (member : entry ∈ around lines number) :
    Lays (widthOf lines number) (toString entry.2) entry.1
      (rowOf (widthOf lines number) entry) :=
  lays_laid (length_toString_le (le_of_mem_around member)) entry.1

private theorem prints_split (cut : Text.lines source = front ++ line :: back)
    (numbers : span.line = front.length + 1) :
    (layoutOf (widthOf (Text.lines source) span.line) span.line span.column (lineAbove front) line
      (lineBelow front back)).Prints source span line (excerpt false source span) := by
  have shown : around (Text.lines source) span.line =
      lineAbove front ++ (line, span.line) :: lineBelow front back := by
    rw [cut, numbers]
    exact around_split front line back
  have among : span.line ≤ (Text.lines source).length := by
    rw [cut, numbers, List.length_append, List.length_cons]
    omega
  have own : (line, span.line) ∈ around (Text.lines source) span.line := by simp [shown]
  have ownRow := lays_rowOf own
  obtain ⟨last, member, same⟩ := exists_last_around (by omega) among
  exact
    { whole := excerpt_split cut numbers
      lines := by
        rw [lineRows_layoutOf, ← shown, List.forall₂_map_right_iff, List.forall₂_same]
        exact fun _ member => lays_rowOf member
      narrow := ⟨last, member, congrArg (fun number => (toString number).length) same⟩
      own := ownRow
      caret := lays_laid (Nat.zero_le _) _ }

end Split

private theorem display_around (message : String) (span : Span) (file : Option String)
    (source : String) (help : Option String) :
    ∃ heading rest, (Diagnostic.mk message (some span) file (some source) help).display false =
        heading ++ "\n" ++ excerpt false source span ++ rest ∧
      (Diagnostic.mk message (some span) file none help).display false =
        heading ++ "\n" ++ rest := by
  let closing := (help.elim "" fun help => "help:" ++ " " ++ help ++ "\n") ++ "\n"
  cases file with
  | none =>
      refine ⟨"error:" ++ " " ++ message, closing, ?_, ?_⟩ <;> cases help <;>
        simp only [display, closing, Option.elim, paint_plain, String.append_assoc,
          String.empty_append]
  | some path =>
      refine ⟨"error:" ++ " " ++ message ++ "\n" ++ ("  " ++ "-->" ++ " " ++ path ++ ":" ++
        toString span.line ++ ":" ++ toString span.column), closing, ?_, ?_⟩ <;> cases help <;>
        simp only [display, closing, Option.elim, paint_plain, String.append_assoc,
          String.empty_append]

/-- Where the source has no such line, an excerpt shows nothing. Otherwise its rows show the line
and those next to it, each as it is and behind its number, and directly below the line the caret.
The numbers end in one place, the bars stand in one place, and the caret stands in the place of its
column. The whole message has the excerpt on rows of its own. -/
theorem excerpt_aligned (source : String) (span : Span) (counted : 1 ≤ span.line)
    (placed : 1 ≤ span.column) :
    ((Text.lines source).length < span.line → excerpt false source span = "") ∧
    (span.line ≤ (Text.lines source).length → ∃ (line : String) (layout : Layout),
      (Text.lines source)[span.line - 1]? = some line ∧
      layout.Prints source span line (excerpt false source span) ∧
      layout.Aligned line span.column) ∧
    ∀ message file help, ∃ heading rest,
      (Diagnostic.mk message (some span) file (some source) help).display false =
        heading ++ "\n" ++ excerpt false source span ++ rest ∧
      (Diagnostic.mk message (some span) file none help).display false =
        heading ++ "\n" ++ rest := by
  refine ⟨fun past => ?_, fun among => ?_, fun message file help => ?_⟩
  · have absent : (Text.lines source).length ≤ span.line - 1 := by omega
    rw [excerpt]
    exact if_pos absent
  · obtain ⟨front, line, back, cut, numbers⟩ := Excerpt.exists_split counted among
    have prints := prints_split cut numbers
    refine ⟨line, _, ?_, prints, prints.aligned placed⟩
    simp [cut, numbers]
  · exact display_around message span file source help

/-- A mistake on the ninth line, between rows of one digit and of two; there is no eleventh line. -/
theorem ninth_line_aligned :
    let source := "<Actions>\n1\n2\n3\n4\n5\n6\n7\n  <SendEror/>\n</Actions>\n"
    excerpt false source (.point 9 3) =
        " 8 | 7\n 9 |   <SendEror/>\n   |   ^\n10 | </Actions>\n" ∧
      (∃ (line : String) (layout : Layout),
        layout.Prints source (.point 9 3) line (excerpt false source (.point 9 3)) ∧
        layout.Aligned line 3) ∧
      excerpt false source (.point 11 1) = "" := by
  intro source
  have nine : 9 ≤ (Text.lines source).length := by decide +kernel
  obtain ⟨line, layout, -, prints, aligned⟩ :=
    (excerpt_aligned source (.point 9 3) (by decide) (by decide)).2.1 nine
  have past := (excerpt_aligned source (.point 11 1) (by decide) (by decide)).1 (by decide +kernel)
  exact ⟨by decide +kernel, ⟨line, layout, prints, aligned⟩, past⟩

end HookRules.Diagnostic
