import HookRules.Pattern.Basic

/-!
How large a pattern becomes once it is laid out for matching, where every repetition with a
bound is written out. Patterns that become too large are refused.
-/

set_option autoImplicit false

namespace HookRules.Pattern

def stateSize : Nat := 32

/-- The size of a set of characters. Sets beyond ASCII take states for the bytes of their
ranges. -/
def setSize (set : Unicode.CodeSet) : Nat :=
  match set.ranges with
  | [] => stateSize
  | [(low, high)] => if high < 128 || low = high then stateSize * 2 else stateSize * 8
  | ranges =>
    if ranges.all fun (_, high) => high < 128 then stateSize + 8 * ranges.length
    else 2 * stateSize * ranges.length

def size : Pattern → Nat
  | .empty => stateSize
  | .oneOf set => setSize set
  | .assertion _ => stateSize
  | .sequence first second => first.size + second.size
  | .choice first second => first.size + second.size + stateSize
  | .repeated least most body =>
    let copies := max 1 (most.getD least)
    copies * body.size + stateSize * (copies - least + 1)

/-- The largest size that is accepted: ten mebibytes. -/
def sizeLimit : Nat := 10485760

end HookRules.Pattern
