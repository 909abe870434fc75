import HookRules.Change.Item
import HookRules.Text.Line
import HookRules.Text.Utf8

/-!
Reading a listing of changes: on each line the flags, then the path in a fixed column. The column
is where the path of the first line read begins, and every later line is cut at the same place,
so that a path may begin with a space. A path that is both added and deleted was replaced.
-/

set_option autoImplicit false

namespace HookRules

namespace Change

/-- Cuts a text after a number of bytes, unless it is shorter or the cut would divide a
character. -/
def cutAt? : Nat → List Char → Option (List Char × List Char)
  | 0, rest => some ([], rest)
  | _ + 1, [] => none
  | count + 1, c :: rest =>
    if c.utf8Size ≤ count + 1 then
      (cutAt? (count + 1 - c.utf8Size) rest).map fun (before, after) => (c :: before, after)
    else none

inductive ScanStage
  | padding
  | flags
  | gap

/-- The column of the path, where the scan has passed so many bytes. A line without a path has its
column at its end. -/
def scanColumn : ScanStage → Nat → List Char → Nat
  | _, passed, [] => passed
  | .padding, passed, c :: rest =>
    scanColumn (if c = ' ' then .padding else .flags) (passed + c.utf8Size) rest
  | .flags, passed, c :: rest =>
    scanColumn (if c = ' ' then .gap else .flags) (passed + c.utf8Size) rest
  | .gap, passed, c :: rest =>
    if c = ' ' then scanColumn .gap (passed + c.utf8Size) rest else passed

def pathColumn (line : List Char) : Nat := scanColumn .padding 0 line

/-- One line whose path is in the given column; the character before it separates. Where the
line cannot be cut there, the whole line is flags, or the path is empty. -/
def ofLineAt (column : Nat) (line : List Char) : Change :=
  let flags := ((cutAt? (column - 1) line).map Prod.fst).getD line
  let path := ((cutAt? column line).map Prod.snd).getD []
  ofFlags (String.ofList flags) (String.ofList path)

/-- A pass over changes: those it has come by, and where among them each path was added and deleted,
the latest first. -/
structure ReplacementPass where
  changes : List Change
  additions : List (String × Nat)
  deletions : List (String × Nat)

/-- Comes by one more change. If its path was both added and deleted by now, the latest addition and
the latest deletion are marked. -/
def ReplacementPass.meet (pass : ReplacementPass) (change : Change) : ReplacementPass :=
  let place := (change.path, pass.changes.length)
  let additions := if change.isAdd then place :: pass.additions else pass.additions
  let deletions := if change.isDelete then place :: pass.deletions else pass.deletions
  let changes := pass.changes ++ [change]
  { changes := match additions.lookup change.path, deletions.lookup change.path with
      | some added, some deleted => (changes.modify added markReplaced).modify deleted markReplaced
      | _, _ => changes
    additions := additions
    deletions := deletions }

def markReplacements (changes : List Change) : List Change :=
  (changes.foldl ReplacementPass.meet ⟨[], [], []⟩).changes

end Change

structure ListingLayout where
  column : Option Nat
  deriving Repr, DecidableEq, Inhabited

namespace ListingLayout

def unknown : ListingLayout := ⟨none⟩

def readLine (layout : ListingLayout) (line : String) : Change × ListingLayout :=
  let column := layout.column.getD (Change.pathColumn line.toList)
  (Change.ofLineAt column line.toList, ⟨some column⟩)

def readLines (layout : ListingLayout) : List String → List Change × ListingLayout
  | [] => ([], layout)
  | line :: rest =>
    let (change, learned) := layout.readLine line
    let (changes, final) := learned.readLines rest
    (change :: changes, final)

/-- Reads a listing. Blank lines do not count. -/
def readListing (layout : ListingLayout) (listing : String) : List Change × ListingLayout :=
  let (changes, learned) :=
    layout.readLines ((Text.lines listing).filter fun line => !Text.isBlankText line)
  (Change.markReplacements changes, learned)

end ListingLayout

def Change.ofListing (listing : String) : List Change :=
  (ListingLayout.unknown.readListing listing).1

end HookRules
