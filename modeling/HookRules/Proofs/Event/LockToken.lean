import Mathlib.Data.List.Forall2
import HookRules.Event.LockToken
import HookRules.Proofs.Text.Line
import HookRules.Proofs.Text.Trim

/-!
Lock tokens are read as they are written, whatever other lines stand between them and however lines
end; and what is read of any input are its lines with a bar, one by one and in their order.
-/

set_option autoImplicit false

namespace HookRules

namespace LockToken

def line (lock : LockToken) : List Char := lock.path.toList ++ '|' :: lock.token.toList

/-- The token can be told from its line. -/
structure Plain (lock : LockToken) : Prop where
  unbarred : '|' ∉ lock.path.toList
  begins : ∀ c ∈ lock.path.toList.head?, Text.isBlank c = false
  ends : ∀ c ∈ lock.token.toList.getLast?, Text.isBlank c = false
  path : '\n' ∉ lock.path.toList
  token : '\n' ∉ lock.token.toList

instance (lock : LockToken) : Decidable lock.Plain :=
  decidable_of_iff ('|' ∉ lock.path.toList ∧
      (lock.path.toList.head?.all fun c => !Text.isBlank c) = true ∧
      (lock.token.toList.getLast?.all fun c => !Text.isBlank c) = true ∧
      '\n' ∉ lock.path.toList ∧ '\n' ∉ lock.token.toList) <| by
    simp only [Option.all_eq_true, Bool.not_eq_true']
    exact ⟨fun ⟨unbarred, begins, ends, path, token⟩ => ⟨unbarred, begins, ends, path, token⟩,
      fun plain => ⟨plain.unbarred, plain.begins, plain.ends, plain.path, plain.token⟩⟩

/-- The lock token that a line stands for: the line less the white space around it, cut at its first
bar. -/
structure Reads (lock : LockToken) (line : List Char) : Prop where
  unbarred : '|' ∉ lock.path.toList
  trimmed : Text.Trimmed line lock.line

private theorem bar_mem_line (lock : LockToken) : '|' ∈ lock.line :=
  List.mem_append_right _ List.mem_cons_self

private theorem ofLine?_eq_some {line : List Char} {lock : LockToken} :
    ofLine? line = some lock ↔ lock.Reads line := by
  rw [ofLine?]
  constructor
  · intro read
    split at read
    · cases read
    · obtain ⟨⟨path, token⟩, cut, rfl⟩ := Option.map_eq_some_iff.mp read
      obtain ⟨whole, unbarred⟩ := Text.splitAtFirst_eq_some_iff.mp cut
      refine ⟨by rwa [String.toList_ofList], ?_⟩
      rw [LockToken.line, String.toList_ofList, String.toList_ofList, ← whole]
      exact Text.trimmed_trimChars line
  · rintro ⟨unbarred, trimmed⟩
    have barred := lock.bar_mem_line
    have kept : ¬ (lock.line = [] ∨ lock.line = header) := by
      rintro (empty | heading)
      · rw [empty] at barred
        cases barred
      · rw [heading] at barred
        exact absurd barred (by decide)
    have cut : Text.splitAtFirst '|' lock.line = some (lock.path.toList, lock.token.toList) :=
      Text.splitAtFirst_eq_some_iff.mpr ⟨rfl, unbarred⟩
    rw [trimmed.trimChars_eq, if_neg kept, cut]
    simp only [Option.map_some, String.ofList_toList]

theorem exists_reads_iff {line : List Char} :
    (∃ lock : LockToken, lock.Reads line) ↔ '|' ∈ line := by
  have visible : Text.isBlank '|' = false := rfl
  constructor
  · rintro ⟨lock, -, trimmed⟩
    exact (trimmed.mem_iff visible).mpr lock.bar_mem_line
  · intro barred
    have kept := Text.trimmed_trimChars line
    obtain ⟨path, token, whole, unbarred⟩ :=
      List.eq_append_cons_of_mem ((kept.mem_iff visible).mp barred)
    refine ⟨⟨String.ofList path, String.ofList token⟩, by rwa [String.toList_ofList], ?_⟩
    rw [LockToken.line, String.toList_ofList, String.toList_ofList, ← whole]
    exact kept

private theorem ofLine?_eq_none {line : List Char} (unbarred : '|' ∉ line) :
    ofLine? line = none := by
  rw [Option.eq_none_iff_forall_ne_some]
  intro lock read
  exact unbarred (exists_reads_iff.mp ⟨lock, ofLine?_eq_some.mp read⟩)

theorem filterMap_ofLine?_iff {lines : List (List Char)} {locks : List LockToken} :
    lines.filterMap ofLine? = locks ↔
      List.Forall₂ Reads locks (lines.filter fun line => line.contains '|') := by
  induction lines generalizing locks with
  | nil =>
      rw [List.filter_nil, List.forall₂_nil_right_iff]
      exact eq_comm
  | cons line rest ih =>
      by_cases barred : '|' ∈ line
      · obtain ⟨lock, reads⟩ := exists_reads_iff.mpr barred
        rw [List.filterMap_cons_some (ofLine?_eq_some.mpr reads),
          List.filter_cons_of_pos (by simpa using barred), List.forall₂_cons_right_iff]
        constructor
        · rintro rfl
          exact ⟨lock, _, reads, ih.mp rfl, rfl⟩
        · rintro ⟨other, locks, again, others, rfl⟩
          have same := (ofLine?_eq_some.mpr reads).symm.trans (ofLine?_eq_some.mpr again)
          rw [ih.mpr others, Option.some.inj same]
      · rw [List.filterMap_cons_none (ofLine?_eq_none barred),
          List.filter_cons_of_neg (by simpa using barred), ih]

/-! ## Inputs that are written -/

/-- How a line ends. -/
inductive Ending
  | feed
  | returnFeed

def Ending.source : Ending → List Char
  | .feed => ['\n']
  | .returnFeed => ['\r', '\n']

/-- What stands on a line: a token that can be told from it, or anything else without a bar, such as
the header or nothing but white space. -/
inductive Row
  | token (lock : LockToken) (plain : lock.Plain)
  | other (line : List Char) (unbarred : '|' ∉ line) (feedless : '\n' ∉ line)

namespace Row

def line : Row → List Char
  | .token lock _ => lock.line
  | .other line _ _ => line

def lock? : Row → Option LockToken
  | .token lock _ => some lock
  | .other _ _ _ => none

theorem feedless (row : Row) : '\n' ∉ row.line := by
  cases row with
  | token lock plain => simp [line, LockToken.line, plain.path, plain.token]
  | other line _ feedless => exact feedless

end Row

/-- An input of rows, each with its ending; the last row may have none. -/
def written (rows : List (Row × Ending)) (last : Option Row) : String :=
  String.ofList (rows.flatMap (fun row => row.1.line ++ row.2.source) ++
    last.toList.flatMap Row.line)

theorem Plain.reads {lock : LockToken} (plain : lock.Plain) {blank : List Char}
    (isBlank : Text.allBlank blank = true) : lock.Reads (lock.line ++ blank) := by
  refine ⟨plain.unbarred, ⟨[], blank, rfl, rfl, isBlank⟩, ?_, ?_⟩
  · intro c first
    rw [LockToken.line] at first
    cases path : lock.path.toList with
    | nil =>
        rw [path] at first
        cases first
        rfl
    | cons d rest =>
        rw [path] at first
        exact plain.begins c (by rwa [path])
  · intro c last
    rw [LockToken.line, List.getLast?_append, List.getLast?_cons] at last
    cases token : lock.token.toList.getLast? with
    | none =>
        rw [token] at last
        cases last
        rfl
    | some d =>
        rw [token] at last
        exact plain.ends c (by rwa [token])

/-- Whatever white space follows what stands on a line, the ending of the line among it. -/
theorem Row.ofLine?_line (row : Row) {blank : List Char} (isBlank : Text.allBlank blank = true) :
    ofLine? (row.line ++ blank) = row.lock? := by
  cases row with
  | token lock plain => exact ofLine?_eq_some.mpr (plain.reads isBlank)
  | other line unbarred _ =>
      apply ofLine?_eq_none
      intro barred
      rcases List.mem_append.mp barred with inside | behind
      · exact unbarred inside
      · cases List.all_eq_true.mp isBlank '|' behind

private theorem Ending.allBlank_source (ending : Ending) : Text.allBlank ending.source = true := by
  cases ending <;> rfl

private theorem Row.pieces_line (row : Row) (ending : Ending) (rest : List Char) :
    Text.pieces (row.line ++ ending.source ++ rest) =
      (row.line ++ ending.source) :: Text.pieces rest := by
  have feedless := row.feedless
  cases ending with
  | feed => simpa [Ending.source] using Text.pieces_feed feedless rest
  | returnFeed =>
      have returned : '\n' ∉ row.line ++ ['\r'] := by simp [feedless]
      simpa [Ending.source] using Text.pieces_feed returned rest

/-- Line endings are white space, so they may be left in place. -/
theorem readAll_pieces (input : List Char) :
    readAll (String.ofList input) = (Text.pieces input).filterMap ofLine? := by
  rw [readAll, String.toList_ofList, Text.lineChars, List.filterMap_map]
  refine List.filterMap_congr fun piece _ => ?_
  rw [Function.comp_apply, ofLine?, Text.trimChars_chomp, ofLine?]

theorem readAll_written (rows : List (Row × Ending)) (last : Option Row) :
    readAll (written rows last) = (rows.map Prod.fst ++ last.toList).filterMap Row.lock? := by
  rw [written, readAll_pieces]
  induction rows with
  | nil =>
      cases last with
      | none => rfl
      | some row =>
          have read : ofLine? (row.line ++ []) = row.lock? := row.ofLine?_line rfl
          rw [List.append_nil] at read
          have source : [].flatMap (fun row : Row × Ending => row.1.line ++ row.2.source) ++
              (some row).toList.flatMap Row.line = row.line := by simp
          rw [source, List.map_nil, List.nil_append, Option.toList_some, List.filterMap_cons, ← read,
            List.filterMap_nil]
          cases shown : row.line with
          | nil => rfl
          | cons c rest =>
              have written : row.line ≠ [] := by
                rw [shown]
                exact List.cons_ne_nil c rest
              have cut := Text.pieces_feedless row.feedless written
              rw [← shown, cut, List.filterMap_cons, List.filterMap_nil]
  | cons first rest ih =>
      obtain ⟨row, ending⟩ := first
      have read := row.ofLine?_line ending.allBlank_source
      have cut := row.pieces_line ending
        (rest.flatMap (fun row => row.1.line ++ row.2.source) ++ last.toList.flatMap Row.line)
      rw [List.flatMap_cons, List.append_assoc, cut, List.filterMap_cons, read, ih, List.map_cons,
        List.cons_append, List.filterMap_cons]

/-- Reading gives back what is written, and of any input it gives the lines with a bar. -/
theorem lock_tokens_decoded :
    (∀ (rows : List (Row × Ending)) (last : Option Row),
      readAll (written rows last) = (rows.map Prod.fst ++ last.toList).filterMap Row.lock?) ∧
    ∀ (input : String) (locks : List LockToken),
      readAll input = locks ↔
        List.Forall₂ Reads locks
          ((Text.lineChars input.toList).filter fun line => line.contains '|') :=
  ⟨readAll_written, fun _ _ => filterMap_ofLine?_iff⟩

/-- Two tokens, with the header and a line without a bar around them. The last line has no ending.
-/
theorem sent_tokens_decoded :
    let first : LockToken := ⟨"/trunk/a", "opaque|1"⟩
    let second : LockToken := ⟨"/b", ""⟩
    first.Plain ∧ second.Plain ∧
      readAll "LOCK-TOKENS:\r\n/trunk/a|opaque|1\r\nno bar\n/b|" = [first, second] := by
  intro first second
  let rows : List (Row × Ending) :=
    [(.other "LOCK-TOKENS:".toList (by decide +kernel) (by decide +kernel), .returnFeed),
      (.token first (by decide +kernel), .returnFeed),
      (.other "no bar".toList (by decide +kernel) (by decide +kernel), .feed)]
  let last : Option Row := some (.token second (by decide +kernel))
  have source : written rows last = "LOCK-TOKENS:\r\n/trunk/a|opaque|1\r\nno bar\n/b|" := by
    decide +kernel
  have decoded := lock_tokens_decoded.1 rows last
  rw [source] at decoded
  exact ⟨by decide +kernel, by decide +kernel, decoded⟩

end LockToken

end HookRules
