import HookRules.Change.Listing
import HookRules.Proofs.Text.Line
import Mathlib.Data.List.TakeWhile

/-!
Listings are read as they are written. The first line alone decides: where its flags are one word
and padding and its path does not begin with a space, it shows the column of the paths, and every
line is cut there, whatever gaps its flags have and however its path begins or ends.
-/

set_option autoImplicit false

namespace HookRules

namespace Change

/-! ## The column of a line -/

section Column

variable {word gap rest : List Char}

private theorem scanColumn_gap (spaces : ∀ c ∈ gap, c = ' ') (starts : rest.head? ≠ some ' ')
    (passed : Nat) : scanColumn .gap passed (gap ++ rest) = passed + Text.byteCount gap := by
  induction gap generalizing passed with
  | nil =>
      cases rest with
      | nil => rfl
      | cons c rest =>
          have path : c ≠ ' ' := by simpa using starts
          simp [scanColumn, path, Text.byteCount]
  | cons c gap ih =>
      obtain ⟨rfl, more⟩ := List.forall_mem_cons.mp spaces
      simp only [List.cons_append, scanColumn, if_true, ih more, Text.byteCount]
      omega

private theorem scanColumn_flags (solid : ' ' ∉ word) (spaces : ∀ c ∈ gap, c = ' ')
    (starts : rest.head? ≠ some ' ') (passed : Nat) :
    scanColumn .flags passed (word ++ ' ' :: (gap ++ rest)) =
      passed + Text.byteCount word + Text.byteCount gap + 1 := by
  induction word generalizing passed with
  | nil =>
      have one : (' ' : Char).utf8Size = 1 := rfl
      simp only [List.nil_append, scanColumn, if_true, scanColumn_gap spaces starts, Text.byteCount,
        one]
      omega
  | cons c word ih =>
      simp only [List.mem_cons, not_or] at solid
      simp only [List.cons_append, scanColumn, Ne.symm solid.1, if_false, ih solid.2,
        Text.byteCount]
      omega

private theorem gap_cons (spaces : ∀ c ∈ gap, c = ' ') :
    gap ++ ' ' :: rest = ' ' :: (gap ++ rest) := by
  induction gap with
  | nil => rfl
  | cons c gap ih =>
      obtain ⟨rfl, more⟩ := List.forall_mem_cons.mp spaces
      rw [List.cons_append, ih more, List.cons_append]

/-- A line that begins with a word has its path behind the gap that follows. -/
theorem pathColumn_line (begun : word ≠ []) (solid : ' ' ∉ word) (spaces : ∀ c ∈ gap, c = ' ')
    (starts : rest.head? ≠ some ' ') :
    pathColumn ((word ++ gap) ++ ' ' :: rest) = Text.byteCount (word ++ gap) + 1 := by
  rw [List.append_assoc, gap_cons spaces, Text.byteCount_append]
  have scanned := scanColumn_flags solid spaces starts 0
  cases word with
  | nil => exact absurd rfl begun
  | cons c word =>
      simp only [List.mem_cons, not_or] at solid
      rw [List.cons_append, scanColumn, if_neg (Ne.symm solid.1)] at scanned
      rw [pathColumn, List.cons_append, scanColumn, if_neg (Ne.symm solid.1), scanned]
      omega

private theorem exists_word_gap {line : List Char} (spaced : ' ' ∈ line) :
    ∃ word gap rest, line = (word ++ gap) ++ ' ' :: rest ∧ ' ' ∉ word ∧ (∀ c ∈ gap, c = ' ') ∧
      rest.head? ≠ some ' ' := by
  obtain ⟨word, after, rfl, solid⟩ := List.eq_append_cons_of_mem spaced
  have spaces : ∀ c ∈ after.takeWhile (· = ' '), c = ' ' := by
    intro c member
    simpa using List.mem_takeWhile_imp member
  refine ⟨word, after.takeWhile (· = ' '), after.dropWhile (· = ' '), ?_, solid, spaces, ?_⟩
  · rw [List.append_assoc, gap_cons spaces, List.takeWhile_append_dropWhile]
  · intro first
    have stays := List.head?_dropWhile_not (· = ' ') after
    rw [first] at stays
    simp at stays

private theorem cutAt?_append (before after : List Char) :
    cutAt? (Text.byteCount before) (before ++ after) = some (before, after) := by
  induction before with
  | nil => cases after <;> rfl
  | cons c before ih =>
      obtain ⟨size, counted⟩ := Nat.exists_eq_add_one_of_ne_zero (Nat.ne_of_gt c.utf8Size_pos)
      have total : Text.byteCount (c :: before) = size + Text.byteCount before + 1 := by
        rw [Text.byteCount, counted]
        omega
      rw [List.cons_append, total, cutAt?, if_pos (by omega)]
      have left : size + Text.byteCount before + 1 - c.utf8Size = Text.byteCount before := by omega
      rw [left, ih]
      rfl

private theorem ofLineAt_append (flags path : List Char) :
    ofLineAt (Text.byteCount flags + 1) (flags ++ ' ' :: path) =
      ofFlags (String.ofList flags) (String.ofList path) := by
  have before := cutAt?_append flags (' ' :: path)
  have after := cutAt?_append (flags ++ [' ']) path
  have one : Text.byteCount [' '] = 1 := rfl
  rw [Text.byteCount_append, one, List.append_assoc, List.singleton_append] at after
  simp only [ofLineAt, Nat.add_sub_cancel, before, after, Option.map_some, Option.getD_some]

end Column

/-! ## Rows and the listings they make -/

/-- A row: flags, and a path. -/
abbrev Row := String × String

/-- How the row is written on a line of its own. -/
def Row.line (row : Row) : String := row.1 ++ " " ++ row.2

/-- The row can be told from its line: flags of the given width that do not begin with white space,
and a path that ends where the line does. -/
structure Row.Fits (width : Nat) (row : Row) : Prop where
  ascii : ∀ c ∈ row.1.toList, c.toNat < 128
  width : row.1.length = width
  flags : '\n' ∉ row.1.toList
  visible : ∀ c ∈ row.1.toList.head?, Text.isBlank c = false
  path : '\n' ∉ row.2.toList
  bare : row.2.toList.getLast? ≠ some '\r'

/-- The flags are one word and its padding, and the path does not begin with a space. -/
def Row.ShowsColumn (row : Row) : Prop :=
  ∃ word padding, row.1.toList = word ++ padding ∧ ' ' ∉ word ∧ (∀ c ∈ padding, c = ' ') ∧
    row.2.toList.head? ≠ some ' '

/-- The rows, each on its line; `fed` says whether a line feed ends the last one too. -/
def written (fed : Bool) : List Row → String
  | [] => ""
  | [row] => row.line ++ if fed then "\n" else ""
  | row :: rest => row.line ++ "\n" ++ written fed rest

def row (change : Change) : Row := (change.flags, change.path)

section Rows

variable {width : Nat} {rows : List Row} {item : Row}

private theorem Row.toList_line (item : Row) :
    item.line.toList = item.1.toList ++ ' ' :: item.2.toList := by
  simp [Row.line]

theorem Row.Fits.feedless (fits : item.Fits width) : '\n' ∉ item.line.toList := by
  rw [Row.toList_line]
  simp [fits.flags, fits.path]

private theorem Row.Fits.line_bare (fits : item.Fits width) :
    item.line.toList.getLast? ≠ some '\r' := by
  rw [Row.toList_line, List.getLast?_append, List.getLast?_cons]
  cases last : item.2.toList.getLast? with
  | none => simp
  | some c => simpa [last] using fits.bare

theorem Row.Fits.byteCount (fits : item.Fits width) : Text.byteCount item.1.toList = width := by
  rw [Text.byteCount_ascii fits.ascii, String.length_toList, fits.width]

theorem Row.Fits.begins (fits : item.Fits width) (positive : 1 ≤ width) :
    ∃ c more, item.1.toList = c :: more ∧ Text.isBlank c = false := by
  cases flags : item.1.toList with
  | nil =>
      have empty := fits.width
      rw [← String.length_toList, flags, List.length_nil] at empty
      omega
  | cons c more => exact ⟨c, more, rfl, fits.visible c (by rw [flags]; rfl)⟩

theorem Row.Fits.unblank (fits : item.Fits width) (positive : 1 ≤ width) :
    Text.isBlankText item.line = false := by
  obtain ⟨c, more, flags, visible⟩ := fits.begins positive
  simp [Text.isBlankText, Text.allBlank, Row.toList_line, flags, visible]

private theorem lines_written (fed : Bool) (fits : ∀ item ∈ rows, item.Fits width) :
    Text.lines (written fed rows) = rows.map Row.line := by
  suffices cut : Text.lineChars (written fed rows).toList = rows.map (·.line.toList) by
    rw [Text.lines, cut, List.map_map]
    exact List.map_congr_left fun item _ => String.ofList_toList
  induction rows with
  | nil => rfl
  | cons first rest ih =>
      obtain ⟨fitting, others⟩ := List.forall_mem_cons.mp fits
      cases rest with
      | nil =>
          cases fed with
          | false =>
              have some : first.line.toList ≠ [] := by simp [Row.toList_line]
              simpa [written] using Text.lineChars_feedless fitting.feedless some
          | true =>
              have cut := Text.lineChars_feed fitting.feedless fitting.line_bare []
              simpa [written, Text.lineChars, Text.pieces] using cut
      | cons second rest =>
          have cut := Text.lineChars_feed fitting.feedless fitting.line_bare
            (written fed (second :: rest)).toList
          rw [ih others] at cut
          simpa [written] using cut

theorem Row.Fits.read (fits : item.Fits width) :
    row (ofLineAt (width + 1) item.line.toList) = item := by
  rw [Row.toList_line, ← fits.byteCount, ofLineAt_append]
  simp [row, ofFlags]

end Rows

end Change

namespace ListingLayout

open Change (Row)

private theorem readLines_known (column : Nat) (lines : List String) :
    (⟨some column⟩ : ListingLayout).readLines lines =
      (lines.map fun line => Change.ofLineAt column line.toList, ⟨some column⟩) := by
  induction lines with
  | nil => rfl
  | cons line lines ih => simp [readLines, readLine, ih]

private theorem readLines_unknown (line : String) (lines : List String) :
    (unknown.readLines (line :: lines)).1 = (line :: lines).map fun line' =>
      Change.ofLineAt (Change.pathColumn line.toList) line'.toList := by
  rw [readLines, readLine, unknown]
  simp only [Option.getD_none, readLines_known, List.map_cons]

end ListingLayout

namespace Change

private theorem map_modify_of_same {Value : Type} {values : Change → Value}
    (same : ∀ change, values change.markReplaced = values change) (changes : List Change)
    (place : Nat) : (changes.modify place markReplaced).map values = changes.map values := by
  induction changes generalizing place with
  | nil => simp
  | cons change rest ih =>
      cases place with
      | zero => simp [same]
      | succ place => simp [ih]

theorem map_meet {Value : Type} {values : Change → Value}
    (same : ∀ change, values change.markReplaced = values change) (pass : ReplacementPass)
    (change : Change) :
    (pass.meet change).changes.map values = pass.changes.map values ++ [values change] := by
  simp only [ReplacementPass.meet]
  split
  · simp [map_modify_of_same same]
  · simp

theorem map_markReplacements {Value : Type} {values : Change → Value}
    (same : ∀ change, values change.markReplaced = values change) (changes : List Change) :
    (markReplacements changes).map values = changes.map values := by
  have run (pass : ReplacementPass) : (changes.foldl ReplacementPass.meet pass).changes.map values =
      pass.changes.map values ++ changes.map values := by
    induction changes generalizing pass with
    | nil => simp
    | cons change rest ih => simp [ih, map_meet same]
  exact run ⟨[], [], []⟩

/-- The lines of a listing that count. -/
def listed (listing : String) : List String :=
  (Text.lines listing).filter fun line => !Text.isBlankText line

theorem ofListing_cons {listing line : String} {rest : List String}
    (shown : listed listing = line :: rest) :
    ofListing listing = markReplacements ((line :: rest).map fun other =>
      ofLineAt (pathColumn line.toList) other.toList) := by
  rw [ofListing, ListingLayout.readListing, ← listed, shown]
  exact congrArg markReplacements (ListingLayout.readLines_unknown line rest)

/-- What is read of rows is the rows that were written, if and only if the first of them shows the
column. -/
theorem listing_decodes_iff (width : Nat) (positive : 1 ≤ width) (fed : Bool) (first : Row)
    (rest : List Row) (fits : ∀ item ∈ first :: rest, item.Fits width) :
    (ofListing (written fed (first :: rest))).map (fun change => (change.flags, change.path)) =
        first :: rest ↔
      first.ShowsColumn := by
  have fitting := fits first List.mem_cons_self
  obtain ⟨c, more, flags, visible⟩ := fitting.begins positive
  have starts : c ≠ ' ' := by
    rintro rfl
    cases visible
  have shown : listed (written fed (first :: rest)) = first.line :: rest.map Row.line := by
    rw [listed, lines_written fed fits, List.filter_eq_self.mpr, List.map_cons]
    intro line member
    obtain ⟨item, among, rfl⟩ := List.mem_map.mp member
    simp [(fits item among).unblank positive]
  change (ofListing _).map row = _ ↔ _
  rw [ofListing_cons shown, map_markReplacements fun _ => rfl, List.map_map]
  constructor
  · intro decoded
    have spaced : ' ' ∈ first.line.toList := by simp [Row.toList_line]
    obtain ⟨word, gap, path, line, solid, spaces, behind⟩ := exists_word_gap spaced
    have begun : word ≠ [] := by
      rintro rfl
      rw [List.nil_append, gap_cons spaces, Row.toList_line, flags] at line
      exact starts (List.cons_eq_cons.mp line).1
    have same : row (ofLineAt (pathColumn first.line.toList) first.line.toList) = first :=
      (List.cons_eq_cons.mp decoded).1
    rw [line, pathColumn_line begun solid spaces behind, ofLineAt_append] at same
    subst same
    exact ⟨word, gap, by simp [row, ofFlags], solid, spaces, by simpa [row, ofFlags] using behind⟩
  · rintro ⟨word, padding, field, solid, spaces, path⟩
    have begun : word ≠ [] := by
      rintro rfl
      exact starts (spaces c (by rw [← List.nil_append padding, ← field, flags]; simp))
    have column : pathColumn first.line.toList = width + 1 := by
      rw [Row.toList_line, ← fitting.byteCount, field, pathColumn_line begun solid spaces path]
    rw [column, ← List.map_cons, List.map_map]
    exact (List.map_congr_left fun item among => (fits item among).read).trans (List.map_id _)

theorem gaps_after_padded_flags_decoded :
    let rows : List Row := [("A  ", "a b "), ("A +", "  c"), ("UU ", "")]
    (∀ item ∈ rows, item.Fits 3) ∧ Row.ShowsColumn ("A  ", "a b ") ∧
      (ofListing "A   a b \nA +   c\nUU  ").map (fun change => (change.flags, change.path)) =
        rows := by
  intro rows
  have fits : ∀ item ∈ rows, item.Fits 3 := by
    intro item member
    simp only [rows, List.mem_cons, List.not_mem_nil, or_false] at member
    rcases member with rfl | rfl | rfl <;>
      exact ⟨by simp, by decide, by decide, by simp [Text.isBlank], by decide, by decide⟩
  have shows : Row.ShowsColumn ("A  ", "a b ") :=
    ⟨['A'], [' ', ' '], by decide, by decide, by simp, by decide⟩
  have decoded := (listing_decodes_iff 3 (by decide) false _ _ fits).mpr shows
  exact ⟨fits, shows, decoded⟩

end Change

end HookRules
