import HookRules.Proofs.Text.Line
import Mathlib.Data.List.Basic
import Mathlib.Data.List.TakeWhile

/-!
What removing the shared indentation comes to. The margin is the longest indentation that all lines
which are not blank begin with, and nothing but the margin, blank bodies and line endings at the
start is lost; so a block that is indented further reads the same.
-/

set_option autoImplicit false

namespace HookRules.Text

def IsIndentation (text : List Char) : Prop := ∀ c ∈ text, c = ' ' ∨ c = '\t'

/-- Every carriage return is followed by a line feed, other returns between them apart. -/
def ReturnsEndLines (text : List Char) : Prop :=
  ∀ before after, text = before ++ '\r' :: after →
    ∃ returns rest, (∀ c ∈ returns, c = '\r') ∧ after = returns ++ '\n' :: rest

namespace Line

def isBlank (line : Line) : Bool := allBlank line.body

/-- The line without the margin; a blank line keeps its ending alone. -/
def dedented (margin : List Char) (line : Line) : Line :=
  ⟨if line.isBlank then [] else line.body.drop margin.length, line.ending⟩

/-- The line with an indentation before it, unless it is blank. -/
def indented (indent : List Char) (line : Line) : Line :=
  ⟨if line.isBlank then line.body else indent ++ line.body, line.ending⟩

end Line

/-- Every line that is not blank begins with the indentation. -/
def Shared (lines : List Line) (indent : List Char) : Prop :=
  ∀ line ∈ lines, line.isBlank = false → indent <+: line.body

/-- The longest indentation that is shared. Where all lines are blank none is the longest, and any
one will do. -/
structure IsMargin (lines : List Line) (margin : List Char) : Prop where
  indents : IsIndentation margin
  shared : Shared lines margin
  longest : (∃ line ∈ lines, line.isBlank = false) →
    ∀ other, IsIndentation other → Shared lines other → other.length ≤ margin.length

/-- A text is line endings, and then lines of which the first begins with something else. -/
structure Block (text head : List Char) (lines : List Line) : Prop where
  whole : text = head ++ join lines
  endings : ∀ c ∈ head, c = '\n' ∨ c = '\r'
  begins : ∀ c ∈ (join lines).head?, c ≠ '\n' ∧ c ≠ '\r'
  cut : Line.Cut lines

section Margin

private theorem prefix_commonStart {start left right : List Char} :
    start <+: commonStart left right ↔ start <+: left ∧ start <+: right := by
  induction left generalizing start right with
  | nil =>
      cases start with
      | nil => simp
      | cons c start => simp [commonStart]
  | cons a left ih =>
      cases right with
      | nil => cases start <;> simp [commonStart]
      | cons b right =>
          cases start with
          | nil => simp
          | cons c start =>
              rw [commonStart]
              by_cases same : a = b
              · subst same
                simp only [if_true, List.cons_prefix_cons, ih]
                grind
              · simp only [same, if_false, List.cons_prefix_cons, List.prefix_nil, reduceCtorEq,
                  false_iff]
                grind

private theorem prefix_foldl_commonStart {start indent : List Char} {more : List (List Char)} :
    start <+: more.foldl commonStart indent ↔
      start <+: indent ∧ ∀ other ∈ more, start <+: other := by
  induction more generalizing indent with
  | nil => simp
  | cons other more ih => simp [ih, prefix_commonStart, and_assoc]

private theorem prefix_takeWhile_isIndent {start text : List Char} (indents : IsIndentation start) :
    start <+: text.takeWhile isIndent ↔ start <+: text := by
  constructor
  · intro found
    exact found.trans (List.takeWhile_prefix _)
  · rintro ⟨rest, rfl⟩
    have passes : ∀ c ∈ start, isIndent c = true := by
      intro c member
      simpa [isIndent] using indents c member
    rw [List.takeWhile_append_of_pos passes]
    exact List.prefix_append start _

private theorem isIndentation_takeWhile (text : List Char) :
    IsIndentation (text.takeWhile isIndent) := by
  intro c member
  simpa [isIndent] using List.mem_takeWhile_imp member

private theorem IsIndentation.shorten {start text : List Char} (indents : IsIndentation text)
    (found : start <+: text) : IsIndentation start :=
  fun c member => indents c (found.subset member)

/-- The indentations of the lines that are not blank. -/
def indentations (bodies : List (List Char)) : List (List Char) :=
  (bodies.filter fun body => !allBlank body).map (·.takeWhile isIndent)

private theorem margin_eq (bodies : List (List Char)) :
    margin bodies = match indentations bodies with
      | [] => []
      | indent :: more => more.foldl commonStart indent := rfl

private theorem mem_indentations {bodies : List (List Char)} {indent : List Char} :
    indent ∈ indentations bodies ↔
      ∃ body ∈ bodies, allBlank body = false ∧ body.takeWhile isIndent = indent := by
  simp [indentations, and_assoc]

theorem isMargin_margin (lines : List Line) : IsMargin lines (margin (lines.map Line.body)) := by
  have shared_iff (start : List Char) (indents : IsIndentation start) :
      Shared lines start ↔ ∀ indent ∈ indentations (lines.map Line.body), start <+: indent := by
    simp only [mem_indentations, Shared, Line.isBlank]
    constructor
    · rintro shared indent ⟨body, member, visible, rfl⟩
      obtain ⟨line, among, rfl⟩ := List.mem_map.mp member
      exact (prefix_takeWhile_isIndent indents).mpr (shared line among visible)
    · intro each line among visible
      exact (prefix_takeWhile_isIndent indents).mp
        (each _ ⟨line.body, List.mem_map_of_mem among, visible, rfl⟩)
  rw [margin_eq]
  cases found : indentations (lines.map Line.body) with
  | nil =>
      have none : ¬ ∃ line ∈ lines, line.isBlank = false := by
        rintro ⟨line, among, visible⟩
        have member : line.body.takeWhile isIndent ∈ indentations (lines.map Line.body) :=
          mem_indentations.mpr ⟨line.body, List.mem_map_of_mem among, visible, rfl⟩
        rw [found] at member
        cases member
      refine ⟨by simp [IsIndentation], fun line _ _ => List.nil_prefix, fun some => ?_⟩
      exact absurd some none
  | cons indent more =>
      have prefix_iff (start : List Char) :
          start <+: more.foldl commonStart indent ↔
            ∀ other ∈ indentations (lines.map Line.body), start <+: other := by
        rw [prefix_foldl_commonStart, found]
        simp
      have indents : IsIndentation (more.foldl commonStart indent) := by
        have first := (prefix_iff _).mp (List.prefix_refl _) indent (by simp [found])
        obtain ⟨body, _, _, rfl⟩ := mem_indentations.mp (found ▸ List.mem_cons_self)
        exact (isIndentation_takeWhile body).shorten first
      refine ⟨indents, ?_, ?_⟩
      · exact (shared_iff _ indents).mpr ((prefix_iff _).mp (List.prefix_refl _))
      · intro _ other otherIndents shared
        exact ((prefix_iff other).mpr ((shared_iff other otherIndents).mp shared)).length_le

theorem IsMargin.unique {lines : List Line} {first second : List Char}
    (left : IsMargin lines first) (right : IsMargin lines second)
    (visible : ∃ line ∈ lines, line.isBlank = false) : first = second := by
  have some := visible
  obtain ⟨line, among, unblank⟩ := visible
  have start := left.shared line among unblank
  have begun := right.shared line among unblank
  have no_longer := right.longest some first left.indents left.shared
  have no_shorter := left.longest some second right.indents right.shared
  exact (List.prefix_of_prefix_length_le start begun no_longer).eq_of_length_le no_shorter

end Margin

section Block

variable {text head indent : List Char} {lines : List Line}

private theorem allBlank_append_returns {body returns : List Char}
    (returned : ∀ c ∈ returns, c = '\r') :
    allBlank (body ++ returns) = allBlank body := by
  have blank : returns.all isBlank = true := by
    rw [List.all_eq_true]
    intro c member
    rw [returned c member]
    rfl
  rw [allBlank, List.all_append, blank, Bool.and_true, allBlank]

private theorem takeWhile_isIndent_returns {body returns : List Char}
    (returned : ∀ c ∈ returns, c = '\r') :
    (body ++ returns).takeWhile isIndent = body.takeWhile isIndent := by
  induction body with
  | nil =>
      cases returns with
      | nil => rfl
      | cons c returns =>
          obtain rfl := returned c List.mem_cons_self
          rfl
  | cons c body ih =>
      simp only [List.cons_append, List.takeWhile_cons, ih]

private theorem margin_lineChars (cut : Line.Cut lines) :
    margin (lineChars (join lines)) = margin (lines.map Line.body) := by
  have same : indentations (lineChars (join lines)) = indentations (lines.map Line.body) := by
    rw [lineChars, cut.pieces_join, indentations, indentations]
    simp only [List.filter_map, List.map_map]
    have visible : lines.filter ((fun body => !allBlank body) ∘ chomp ∘ Line.whole) =
        lines.filter ((fun body => !allBlank body) ∘ Line.body) := by
      apply List.filter_congr
      intro line member
      obtain ⟨returns, stands, chomped⟩ := cut.chomp member
      simp [chomped, allBlank_append_returns stands.returned]
    rw [visible]
    apply List.map_congr_left
    intro line member
    obtain ⟨returns, stands, chomped⟩ := cut.chomp (List.mem_filter.mp member).1
    simp [chomped, takeWhile_isIndent_returns stands.returned]
  rw [margin_eq, margin_eq, same]

private theorem dropStart_append (start rest : List Char) :
    dropStart start (start ++ rest) = rest := by
  simp [dropStart]

private theorem dedentPiece_whole (cut : Line.Cut lines) (shared : Shared lines indent)
    {line : Line}
    (member : line ∈ lines) : dedentPiece indent line.whole = (line.dedented indent).whole := by
  obtain ⟨body, ending⟩ := cut.parted member
  rw [dedentPiece, body, ending, Line.dedented, Line.whole]
  cases blank : line.isBlank with
  | true =>
      rw [Line.isBlank] at blank
      simp [blank]
  | false =>
      obtain ⟨rest, same⟩ := shared line member blank
      rw [Line.isBlank] at blank
      rw [← same] at blank ⊢
      simp [blank, dropStart_append]

private theorem IsMargin.dedented_eq {first second : List Char} (left : IsMargin lines first)
    (right : IsMargin lines second) {line : Line} (member : line ∈ lines) :
    line.dedented first = line.dedented second := by
  cases blank : line.isBlank with
  | true => simp [Line.dedented, blank]
  | false => rw [left.unique right ⟨line, member, blank⟩]

theorem exists_block (text : List Char) : ∃ head lines, Block text head lines := by
  obtain ⟨lines, cut, same⟩ := Line.exists_cut (text.dropWhile isLineEnding)
  refine ⟨text.takeWhile isLineEnding, lines, ?_, ?_, ?_, cut⟩
  · rw [same, List.takeWhile_append_dropWhile]
  · intro c member
    simpa [isLineEnding] using List.mem_takeWhile_imp member
  · intro c first
    rw [same] at first
    have stays := List.head?_dropWhile_not isLineEnding text
    rw [first] at stays
    simpa [isLineEnding] using stays

private theorem Block.dedentChars_eq (block : Block text head lines)
    (isMargin : IsMargin lines indent) :
    dedentChars text = join (lines.map (Line.dedented indent)) := by
  have opened : text.dropWhile isLineEnding = join lines := by
    rw [block.whole, List.dropWhile_append_of_pos fun c member => by
      simpa [isLineEnding] using block.endings c member]
    cases begun : join lines with
    | nil => rfl
    | cons c rest =>
        have other := block.begins c (by rw [begun]; rfl)
        exact List.dropWhile_cons_of_neg (by simp [isLineEnding, other])
  have found := isMargin_margin lines
  have each : ∀ line ∈ lines,
      dedentPiece (margin (lines.map Line.body)) line.whole = (line.dedented indent).whole := by
    intro line member
    rw [dedentPiece_whole block.cut found.shared member, found.dedented_eq isMargin member]
  calc dedentChars text
    _ = (lines.map Line.whole).flatMap (dedentPiece (margin (lines.map Line.body))) := by
        rw [dedentChars, opened, block.cut.pieces_join, margin_lineChars block.cut]
    _ = lines.flatMap fun line => (line.dedented indent).whole := by
        rw [List.flatMap_map]
        rw [List.flatMap_def, List.flatMap_def, List.map_congr_left each]
    _ = join (lines.map (Line.dedented indent)) := by rw [join, List.flatMap_map]

end Block

section Result

variable {lines : List Line} {indent : List Char}

theorem IsIndentation.allBlank_append (indents : IsIndentation indent) (body : List Char) :
    allBlank (indent ++ body) = allBlank body := by
  have blank : indent.all Text.isBlank = true := by
    rw [List.all_eq_true]
    intro c member
    rcases indents c member with rfl | rfl <;> rfl
  rw [allBlank, List.all_append, blank, Bool.true_and, allBlank]

private theorem Line.dedented_body_suffix (line : Line) (indent : List Char) :
    (line.dedented indent).body <:+ line.body := by
  rw [Line.dedented]
  split
  · exact List.nil_suffix
  · exact List.drop_suffix _ _

private theorem Line.Cut.dedented (cut : Line.Cut lines) (indent : List Char) :
    ∃ results, Line.Cut results ∧ join results = join (lines.map (Line.dedented indent)) ∧
      ∀ line, line.body ≠ [] → (line ∈ results ↔ line ∈ lines.map (Line.dedented indent)) := by
  induction cut with
  | nothing => exact ⟨[], .nothing, rfl, fun line _ => Iff.rfl⟩
  | @last body returns stands _ =>
      have stood := stands.suffix (Line.dedented_body_suffix ⟨body, returns⟩ indent)
      by_cases some : (Line.dedented indent ⟨body, returns⟩).whole = []
      · refine ⟨[], .nothing, by simp [join, some], fun line visible => ?_⟩
        simp only [List.not_mem_nil, List.map_cons, List.map_nil, List.mem_singleton, false_iff]
        rintro rfl
        exact visible (List.append_eq_nil_iff.mp some).1
      · exact ⟨[Line.dedented indent ⟨body, returns⟩], .last stood some, rfl, fun line _ => Iff.rfl⟩
  | @next body returns rest stands _ ih =>
      have stood := stands.suffix (Line.dedented_body_suffix ⟨body, returns ++ ['\n']⟩ indent)
      obtain ⟨results, cut, same, visible⟩ := ih
      refine ⟨Line.dedented indent ⟨body, returns ++ ['\n']⟩ :: results, .next stood cut, ?_, ?_⟩
      · simp [same]
      · intro line unblank
        simp [visible line unblank]

private theorem IsMargin.dedented (isMargin : IsMargin lines indent) (cut : Line.Cut lines)
    {results : List Line} (again : Line.Cut results)
    (same : join results = join (lines.map (Line.dedented indent))) : IsMargin results [] := by
  obtain ⟨others, recut, join, members⟩ := cut.dedented indent
  obtain rfl : results = others := again.unique recut (same.trans join.symm)
  have body_ne {line : Line} (visible : line.isBlank = false) : line.body ≠ [] := by
    intro empty
    simp [Line.isBlank, empty, allBlank] at visible
  refine ⟨by simp [IsIndentation], fun line _ _ => List.nil_prefix, ?_⟩
  rintro ⟨line, among, visible⟩ other indents shared
  have wider : Shared lines (indent ++ other) := by
    intro line member visible
    obtain ⟨rest, begins⟩ := isMargin.shared line member visible
    have left : line.dedented indent = ⟨rest, line.ending⟩ := by
      simp [Line.dedented, visible, ← begins]
    have restVisible : (⟨rest, line.ending⟩ : Line).isBlank = false := by
      rw [Line.isBlank, ← begins, isMargin.indents.allBlank_append] at visible
      exact visible
    have found : (⟨rest, line.ending⟩ : Line) ∈ results :=
      (members _ (body_ne restVisible)).mpr (List.mem_map.mpr ⟨line, member, left⟩)
    obtain ⟨after, rfl⟩ := shared _ found restVisible
    exact ⟨after, by rw [← begins, List.append_assoc]⟩
  have widens : IsIndentation (indent ++ other) := by
    intro c member
    rcases List.mem_append.mp member with first | second
    · exact isMargin.indents c first
    · exact indents c second
  have some : ∃ line ∈ lines, line.isBlank = false := by
    obtain ⟨original, member, rfl⟩ := List.mem_map.mp ((members line (body_ne visible)).mp among)
    refine ⟨original, member, ?_⟩
    cases blank : original.isBlank with
    | false => rfl
    | true => exact absurd (by simp [Line.dedented, blank]) (body_ne visible)
  have bounded := isMargin.longest some (indent ++ other) widens wider
  rw [List.length_append] at bounded
  rw [List.length_nil]
  omega

end Result

section Indented

variable {lines : List Line} {indent shorter : List Char}

private theorem eq_returns_of_append {more returns before after : List Char}
    (feedless : '\n' ∉ more)
    (returned : ∀ c ∈ returns, c = '\r') (same : more ++ before = returns ++ '\n' :: after) :
    ∀ c ∈ more, c = '\r' := by
  rcases List.append_eq_append_iff.mp same with ⟨rest, whole, _⟩ | ⟨rest, whole, fed⟩
  · intro c member
    exact returned c (whole ▸ List.mem_append_left rest member)
  · cases rest with
    | nil => simpa [whole] using returned
    | cons c rest =>
        obtain ⟨rfl, _⟩ := List.cons_eq_cons.mp fed
        exact absurd (by simp [whole]) feedless

theorem ReturnsEndLines.begins (ends : ReturnsEndLines (join lines)) (cut : Line.Cut lines) :
    ∀ line ∈ lines, line.body.head? ≠ some '\r' := by
  intro line member begun
  obtain ⟨returns, stands, _⟩ := cut.chomp member
  obtain ⟨more, body⟩ := List.head?_eq_some_iff.mp begun
  obtain ⟨before, after, rfl⟩ := List.append_of_mem member
  obtain ⟨returns, rest, returned, followed⟩ :=
    ends (join before) (more ++ (line.ending ++ join after)) (by simp [join, Line.whole, body])
  have feedless : '\n' ∉ more := fun inside => stands.feedless (by simp [body, inside])
  have all := eq_returns_of_append feedless returned followed
  -- so the body is returns alone, and the last of them would belong to the ending
  cases last : more.getLast? with
  | none =>
      obtain rfl := List.getLast?_eq_none_iff.mp last
      exact stands.bare (by rw [body]; rfl)
  | some c =>
      obtain rfl := all c (List.mem_of_getLast? last)
      exact stands.bare (by rw [body, List.getLast?_cons, last]; rfl)

private theorem Line.Cut.block_behind (cut : Line.Cut lines)
    (begins : ∀ line ∈ lines, line.body.head? ≠ some '\r') :
    ∃ front rest, lines = front ++ rest ∧ (∀ line ∈ front, line.body = []) ∧
      Block (join lines) (join front) rest := by
  induction lines with
  | nil => exact ⟨[], [], rfl, by simp, ⟨rfl, by simp [join], by simp [join], .nothing⟩⟩
  | cons line lines ih =>
      cases body : line.body with
      | nil =>
          obtain ⟨front, rest, rfl, empty, block⟩ :=
            ih cut.tail fun other member => begins other (List.mem_cons_of_mem line member)
          refine ⟨line :: front, rest, rfl, ?_, ?_, ?_, block.begins, block.cut⟩
          · simpa [body] using empty
          · simp [join]
          · intro c member
            rcases List.mem_append.mp member with first | later
            · rw [Line.whole, body] at first
              exact cut.ending c first
            · exact block.endings c later
      | cons c more =>
          refine ⟨[], line :: lines, rfl, by simp, rfl, by simp [join], ?_, cut⟩
          obtain ⟨returns, stands, _⟩ := cut.head
          have other : c ≠ '\n' := fun same => stands.feedless (by simp [body, same])
          have bare : c ≠ '\r' := fun same =>
            begins line List.mem_cons_self (by simp [body, same])
          simp [Line.whole, body, other, bare]

theorem Line.Stands.indented {body returns : List Char} (stands : Line.Stands body returns)
    (indents : IsIndentation indent) (some : body ≠ []) : Line.Stands (indent ++ body) returns := by
  refine ⟨?_, ?_, stands.returned⟩
  · intro member
    rcases List.mem_append.mp member with first | later
    · rcases indents _ first with same | same <;> cases same
    · exact stands.feedless later
  · rw [List.getLast?_append, Option.or_of_isSome (by simpa using some)]
    exact stands.bare

theorem Line.Cut.indented (cut : Line.Cut lines) (indents : IsIndentation indent) :
    Line.Cut (lines.map (Line.indented indent)) := by
  have stood {body returns ending : List Char} (stands : Line.Stands body returns) :
      Line.Stands (Line.indented indent ⟨body, ending⟩).body returns := by
    rw [Line.indented]
    split
    · exact stands
    · rename_i visible
      exact stands.indented indents (by rintro rfl; exact visible rfl)
  induction cut with
  | nothing => exact .nothing
  | @last body returns stands some =>
      have longer : (Line.indented indent ⟨body, returns⟩).whole ≠ [] := by
        rw [Line.whole, Line.indented]
        split
        · exact some
        · simp only [List.append_assoc]
          exact List.append_ne_nil_of_right_ne_nil indent some
      exact .last (stood stands) longer
  | next stands _ ih => exact .next (stood stands) ih

private theorem Line.indented_isBlank (indents : IsIndentation indent) (line : Line) :
    (line.indented indent).isBlank = line.isBlank := by
  cases blank : line.isBlank with
  | true => rw [Line.indented, blank]; exact blank
  | false =>
      rw [Line.indented, blank]
      exact (indents.allBlank_append line.body).trans blank

private theorem Line.dedented_indented (indents : IsIndentation indent) (line : Line) :
    (line.indented indent).dedented (indent ++ shorter) = line.dedented shorter := by
  rw [Line.dedented, line.indented_isBlank indents, Line.dedented]
  cases blank : line.isBlank with
  | true => rfl
  | false => simp [Line.indented, blank]

theorem IsMargin.indented (isMargin : IsMargin lines shorter) (indents : IsIndentation indent) :
    IsMargin (lines.map (Line.indented indent)) (indent ++ shorter) := by
  have body {line : Line} (visible : line.isBlank = false) :
      (line.indented indent).body = indent ++ line.body := by simp [Line.indented, visible]
  refine ⟨?_, ?_, ?_⟩
  · intro c member
    rcases List.mem_append.mp member with first | second
    · exact indents c first
    · exact isMargin.indents c second
  · intro line member visible
    obtain ⟨original, among, rfl⟩ := List.mem_map.mp member
    rw [Line.indented_isBlank indents] at visible
    rw [body visible, List.prefix_append_right_inj]
    exact isMargin.shared original among visible
  · rintro ⟨line, member, visible⟩ other otherIndents shared
    obtain ⟨original, among, rfl⟩ := List.mem_map.mp member
    rw [Line.indented_isBlank indents] at visible
    have begins (line : Line) (among : line ∈ lines) (visible : line.isBlank = false) :
        other <+: indent ++ line.body := by
      rw [← body visible]
      exact shared _ (List.mem_map_of_mem among) ((line.indented_isBlank indents).trans visible)
    rcases List.prefix_or_prefix_of_prefix (begins original among visible)
      (List.prefix_append indent original.body) with within | ⟨rest, rfl⟩
    · have bounded := within.length_le
      rw [List.length_append]
      omega
    · have further : Shared lines rest := by
        intro line among visible
        exact (List.prefix_append_right_inj indent).mp (begins line among visible)
      have bounded := isMargin.longest ⟨original, among, visible⟩ rest
        (fun c inside => otherIndents c (List.mem_append_right indent inside)) further
      rw [List.length_append, List.length_append]
      omega

theorem Block.indented {text head : List Char} (block : Block text head lines)
    (indents : IsIndentation indent) :
    Block (head ++ join (lines.map (Line.indented indent))) head
      (lines.map (Line.indented indent)) := by
  refine ⟨rfl, block.endings, ?_, block.cut.indented indents⟩
  cases lines with
  | nil => exact block.begins
  | cons line lines =>
      have begins : ∀ c ∈ line.whole.head?, c ≠ '\n' ∧ c ≠ '\r' := by
        intro c first
        exact block.begins c (by simp [List.head?_append_of_ne_nil _ block.cut.whole_ne_nil, first])
      intro c first
      rw [List.map_cons, join_cons,
        List.head?_append_of_ne_nil _ (block.cut.indented indents).whole_ne_nil] at first
      rw [Line.whole, Line.indented] at first
      cases blank : line.isBlank with
      | true => exact begins c (by simpa [blank, Line.whole] using first)
      | false =>
          cases indent with
          | nil => exact begins c (by simpa [blank, Line.whole] using first)
          | cons d indent =>
              obtain rfl : d = c := by simpa [blank] using first
              rcases indents d List.mem_cons_self with rfl | rfl <;> simp

private theorem dedentChars_indented (ends : ReturnsEndLines (join lines)) (cut : Line.Cut lines)
    (indents : IsIndentation indent) :
    dedentChars (join (lines.map (Line.indented indent))) = dedentChars (join lines) := by
  obtain ⟨front, rest, rfl, empty, block⟩ := cut.block_behind (ends.begins cut)
  have unchanged : front.map (Line.indented indent) = front := by
    refine (List.map_congr_left fun line member => ?_).trans (List.map_id front)
    have blank : line.isBlank = true := by rw [Line.isBlank, empty line member]; rfl
    simp [Line.indented, blank]
  have isMargin := isMargin_margin rest
  have each : rest.map (Line.dedented (indent ++ margin (rest.map Line.body)) ∘ Line.indented indent) =
      rest.map (Line.dedented (margin (rest.map Line.body))) :=
    List.map_congr_left fun line _ => line.dedented_indented indents
  have whole : join ((front ++ rest).map (Line.indented indent)) =
      join front ++ join (rest.map (Line.indented indent)) := by
    rw [List.map_append, unchanged, join, List.flatMap_append]
    rfl
  rw [whole, (block.indented indents).dedentChars_eq (isMargin.indented indents),
    block.dedentChars_eq isMargin, List.map_map, each]

end Indented

/-- Of every text only line endings at its start, what stands on blank lines and the margin are
lost. What is left has no margin, and where carriage returns only end lines, an indentation before
the lines that are not blank makes no difference. -/
theorem dedent_exact (text : String) :
    (∃ head lines indent, Block text.toList head lines ∧ IsMargin lines indent) ∧
      (∀ head lines indent, Block text.toList head lines → IsMargin lines indent →
        (dedent text).toList = join (lines.map (Line.dedented indent)) ∧
          ∀ line ∈ lines, line.isBlank = false →
            line.body = indent ++ (line.dedented indent).body) ∧
      (∀ results, Line.Cut results → join results = (dedent text).toList → IsMargin results []) ∧
      (ReturnsEndLines text.toList → ∀ lines indent, Line.Cut lines → join lines = text.toList →
        IsIndentation indent →
          dedent (String.ofList (join (lines.map (Line.indented indent)))) = dedent text) := by
  obtain ⟨head, lines, block⟩ := exists_block text.toList
  have isMargin := isMargin_margin lines
  have dedented : (dedent text).toList = dedentChars text.toList := by simp [dedent]
  refine ⟨⟨head, lines, _, block, isMargin⟩, ?_, ?_, ?_⟩
  · intro head lines indent block isMargin
    refine ⟨dedented.trans (block.dedentChars_eq isMargin), fun line member visible => ?_⟩
    obtain ⟨rest, begins⟩ := isMargin.shared line member visible
    simp [Line.dedented, visible, ← begins]
  · intro results cut same
    rw [dedented, block.dedentChars_eq isMargin] at same
    exact isMargin.dedented block.cut cut same
  · intro ends lines indent cut whole indents
    rw [← whole] at ends
    rw [dedent, dedent, String.toList_ofList, dedentChars_indented ends cut indents, whole]

theorem indented_block_reads_same :
    let text := "\r\n  a\n\t\n b"
    let lines : List Line := [⟨"  a".toList, ['\n']⟩, ⟨['\t'], ['\n']⟩, ⟨" b".toList, []⟩]
    let all : List Line := ⟨[], ['\r', '\n']⟩ :: lines
    Block text.toList ['\r', '\n'] lines ∧ IsMargin lines [' '] ∧ ReturnsEndLines text.toList ∧
      Line.Cut all ∧ join all = text.toList ∧ dedent text = " a\n\nb" ∧
      dedent (String.ofList (join (all.map (Line.indented ['\t', ' '])))) = " a\n\nb" := by
  intro text lines all
  have stands (body : List Char) (feedless : '\n' ∉ body) (bare : body.getLast? ≠ some '\r') :
      Line.Stands body [] := ⟨feedless, bare, by simp⟩
  have cut : Line.Cut lines :=
    .next (stands _ (by decide) (by decide)) (.next (stands _ (by decide) (by decide))
      (.last (stands _ (by decide) (by decide)) (by decide)))
  have returned : Line.Stands [] ['\r'] := ⟨by simp, by simp, by simp⟩
  have cutAll : Line.Cut all := .next returned cut
  have whole : join all = text.toList := by decide
  have block : Block text.toList ['\r', '\n'] lines :=
    ⟨by decide, by simp, by simp [join, lines, Line.whole], cut⟩
  have isMargin : IsMargin lines [' '] := isMargin_margin lines
  have ends : ReturnsEndLines text.toList := by
    intro before after same
    rw [show text.toList = '\r' :: '\n' :: "  a\n\t\n b".toList by decide] at same
    cases before with
    | nil => exact ⟨[], _, by simp, (List.cons_eq_cons.mp same).2.symm⟩
    | cons c before =>
        have absent : '\r' ∉ '\n' :: "  a\n\t\n b".toList := by decide
        rw [(List.cons_eq_cons.mp same).2] at absent
        simp at absent
  obtain ⟨_, exact, _, same⟩ := dedent_exact text
  have read : dedent text = " a\n\nb" :=
    String.toList_inj.mp ((exact _ _ _ block isMargin).1.trans (by decide))
  have indents : IsIndentation ['\t', ' '] := by simp [IsIndentation]
  exact ⟨block, isMargin, ends, cutAll, whole, read,
    (same ends all _ cutAll whole indents).trans read⟩

end HookRules.Text
