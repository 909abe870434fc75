/-!
Patterns of a shell, which have to match a whole text.
-/

set_option autoImplicit false

namespace HookRules.Shell

inductive Glob
  | char (c : Char)
  | one
  | any
  | set (inside : Bool) (ranges : List (Char × Char))
  deriving Repr, DecidableEq

namespace Glob

/-- Reads the ranges of a set up to its bracket. Characters are given with whether they are
quoted. A bracket at the very beginning belongs to the set. -/
def readRanges (first : Bool) : List (Char × Bool) → Option (List (Char × Char))
  | [] => none
  | (low, lowQuoted) :: ('-', false) :: (high, highQuoted) :: rest =>
    if low = ']' ∧ !lowQuoted ∧ !first then some []
    else if high = ']' ∧ !highQuoted then some [(low, low), ('-', '-')]
    else (readRanges false rest).map ((low, high) :: ·)
  | (c, quoted) :: rest =>
    if c = ']' ∧ !quoted ∧ !first then some []
    else (readRanges false rest).map ((c, c) :: ·)

def setLength (first : Bool) : List (Char × Bool) → Nat
  | [] => 0
  | (c, quoted) :: rest => if c = ']' ∧ !quoted ∧ !first then 1 else setLength false rest + 1

/-- Reads a pattern whose first `skip` characters belong to a set already read. -/
def read (skip : Nat) : List (Char × Bool) → List Glob
  | [] => []
  | (c, quoted) :: rest =>
    match skip with
    | more + 1 => read more rest
    | 0 =>
      if quoted then .char c :: read 0 rest
      else if c = '*' then .any :: read 0 rest
      else if c = '?' then .one :: read 0 rest
      else if c = '[' then
        let negated := rest.head?.any fun entry => entry.1 = '!' || entry.1 = '^'
        let inside := if negated then rest.drop 1 else rest
        match readRanges true inside with
        | some ranges =>
          .set (!negated) ranges :: read (setLength true inside + if negated then 1 else 0) rest
        | none => .char c :: read 0 rest
      else .char c :: read 0 rest

def admits (part : Glob) (c : Char) : Bool :=
  match part with
  | .char expected => c = expected
  | .one => true
  | .any => false
  | .set inside ranges => (ranges.any fun (low, high) => low ≤ c && c ≤ high) == inside

def matchesAll : List Glob → List Char → Bool
  | [], text => text.isEmpty
  | .any :: rest, text =>
    (List.range (text.length + 1)).any fun count => matchesAll rest (text.drop count)
  | part :: rest, text =>
    match text with
    | [] => false
    | c :: more => part.admits c && matchesAll rest more

/-- How many characters a pattern takes from the beginning of a text: as few as possible, or as
many. -/
def reach? (longest : Bool) (pattern : List Glob) (text : List Char) : Option Nat :=
  let counts := List.range (text.length + 1)
  (if longest then counts.reverse else counts).find? fun count =>
    matchesAll pattern (text.take count)

/-- The same from the end of a text: how many characters are left before it. -/
def reachBack? (longest : Bool) (pattern : List Glob) (text : List Char) : Option Nat :=
  let counts := List.range (text.length + 1)
  (if longest then counts else counts.reverse).find? fun count =>
    matchesAll pattern (text.drop count)

end Glob

end HookRules.Shell
