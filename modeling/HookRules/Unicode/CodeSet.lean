/-!
Sets of code points. A set is a list of ranges in increasing order with a gap between any two,
so equal sets have equal lists; every operation below answers in that form.
-/

set_option autoImplicit false

namespace HookRules.Unicode

structure CodeSet where
  ranges : List (Nat × Nat)
  deriving Repr, DecidableEq, Inhabited

namespace CodeSet

def last : Nat := 0x10FFFF

def empty : CodeSet := ⟨[]⟩

def all : CodeSet := ⟨[(0, last)]⟩

def isEmpty (set : CodeSet) : Bool := set.ranges.isEmpty

def containsCode (set : CodeSet) (code : Nat) : Bool :=
  set.ranges.any fun (low, high) => low ≤ code && code ≤ high

def contains (set : CodeSet) (c : Char) : Bool := set.containsCode c.toNat

/-- Joins each range with the next while they touch or overlap. The ranges are in order of their
lower ends; `low` and `high` are the range being built. -/
def join (low high : Nat) : List (Nat × Nat) → List (Nat × Nat)
  | [] => [(low, high)]
  | (nextLow, nextHigh) :: rest =>
    if nextLow ≤ high + 1 then join low (max high nextHigh) rest
    else (low, high) :: join nextLow nextHigh rest

/-- The set of all code points in the given ranges, in any order and with any overlap. A range
whose lower end is above its upper end is empty. -/
def ofRanges (ranges : List (Nat × Nat)) : CodeSet :=
  match (ranges.filter fun (low, high) => low ≤ high).mergeSort fun a b => a.1 ≤ b.1 with
  | [] => empty
  | (low, high) :: rest => ⟨join low high rest⟩

def singleton (c : Char) : CodeSet := ⟨[(c.toNat, c.toNat)]⟩

def union (a b : CodeSet) : CodeSet := ofRanges (a.ranges ++ b.ranges)

def unions (sets : List CodeSet) : CodeSet := ofRanges (sets.flatMap ranges)

def gaps (low : Nat) : List (Nat × Nat) → List (Nat × Nat)
  | [] => if low ≤ last then [(low, last)] else []
  | (first, final) :: rest =>
    if low < first then (low, first - 1) :: gaps (final + 1) rest else gaps (final + 1) rest

def complement (set : CodeSet) : CodeSet := ⟨gaps 0 set.ranges⟩

def inter (a b : CodeSet) : CodeSet := (a.complement.union b.complement).complement

def diff (a b : CodeSet) : CodeSet := a.inter b.complement

def symmDiff (a b : CodeSet) : CodeSet := (a.diff b).union (b.diff a)

def hexValue (text : String) : Nat :=
  text.toList.foldl (fun value c =>
    value * 16 +
      if c.isDigit then c.toNat - '0'.toNat
      else if 'a' ≤ c && c ≤ 'f' then c.toNat - 'a'.toNat + 10
      else if 'A' ≤ c && c ≤ 'F' then c.toNat - 'A'.toNat + 10
      else 0) 0

def words (text : String) : List String :=
  ((text.map fun c => if c = '\n' then ' ' else c).splitOn " ").filter fun word => !word.isEmpty

/-- Reads ranges written in hexadecimal: `41-5a`, or `aa`, or `100-12e/2` for every second code
point from the first to the last. -/
def rangesOfWord (word : String) : List (Nat × Nat) :=
  match word.splitOn "-" with
  | [code] => [(hexValue code, hexValue code)]
  | [first, rest] =>
    match (rest.splitOn "/").map hexValue with
    | [last] => [(hexValue first, last)]
    | [last, step] =>
      (List.range ((last - hexValue first) / step + 1)).map fun index =>
        (hexValue first + index * step, hexValue first + index * step)
    | _ => []
  | _ => []

def ofText (text : String) : CodeSet := ofRanges ((words text).flatMap rangesOfWord)

end CodeSet

end HookRules.Unicode
