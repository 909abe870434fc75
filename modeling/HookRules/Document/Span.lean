/-!
Where something stands in the text of a document.
-/

set_option autoImplicit false

namespace HookRules

/-- A stretch of a document. Line and column are those of its first character and count from
one, the column in characters; `start` and `stop` are offsets in bytes, and the stretch ends
before `stop`. -/
structure Span where
  line : Nat
  column : Nat
  start : Nat
  stop : Nat
  deriving Repr, DecidableEq, Inhabited

namespace Span

def nowhere : Span := ⟨0, 0, 0, 0⟩

def point (line column : Nat) : Span := ⟨line, column, 0, 0⟩

def describe (span : Span) : String :=
  "line " ++ toString span.line ++ ", column " ++ toString span.column

end Span

end HookRules
