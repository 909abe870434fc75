/-!
White space, and removing it from the ends of a text. White space is the Unicode property of
that name, not ASCII white space alone.
-/

set_option autoImplicit false

namespace HookRules.Text

def isBlank (c : Char) : Bool :=
  let code := c.toNat
  (9 ≤ code && code ≤ 13) || code = 0x20 || code = 0x85 || code = 0xA0 || code = 0x1680
    || (0x2000 ≤ code && code ≤ 0x200A) || code = 0x2028 || code = 0x2029 || code = 0x202F
    || code = 0x205F || code = 0x3000

def dropEndWhile (test : Char → Bool) (text : List Char) : List Char :=
  (text.reverse.dropWhile test).reverse

def takeEndWhile (test : Char → Bool) (text : List Char) : List Char :=
  (text.reverse.takeWhile test).reverse

theorem dropEndWhile_append_takeEndWhile (test : Char → Bool) (text : List Char) :
    dropEndWhile test text ++ takeEndWhile test text = text := by
  rw [dropEndWhile, takeEndWhile, ← List.reverse_append, List.takeWhile_append_dropWhile,
    List.reverse_reverse]

theorem dropEndWhile_append {test : Char → Bool} {kept ended : List Char}
    (passes : ∀ c ∈ ended, test c = true) (stays : ∀ c ∈ kept.getLast?, test c = false) :
    dropEndWhile test (kept ++ ended) = kept := by
  have dropped : (ended.reverse ++ kept.reverse).dropWhile test = kept.reverse.dropWhile test :=
    List.dropWhile_append_of_pos fun c member => passes c (List.mem_reverse.mp member)
  rw [dropEndWhile, List.reverse_append, dropped]
  cases reversed : kept.reverse with
  | nil => simpa using reversed.symm
  | cons last before =>
      have fails : test last = false := by
        apply stays
        rw [← List.head?_reverse, reversed]
        rfl
      rw [List.dropWhile_cons_of_neg (by simp [fails]), ← reversed, List.reverse_reverse]

theorem takeEndWhile_append {test : Char → Bool} {kept ended : List Char}
    (passes : ∀ c ∈ ended, test c = true) (stays : ∀ c ∈ kept.getLast?, test c = false) :
    takeEndWhile test (kept ++ ended) = ended := by
  have whole := dropEndWhile_append_takeEndWhile test (kept ++ ended)
  rw [dropEndWhile_append passes stays] at whole
  exact List.append_cancel_left whole

def allBlank (text : List Char) : Bool := text.all isBlank

def trimStartChars (text : List Char) : List Char := text.dropWhile isBlank

def trimEndChars (text : List Char) : List Char := dropEndWhile isBlank text

def trimChars (text : List Char) : List Char := trimEndChars (trimStartChars text)

def trimEnd (text : String) : String := String.ofList (trimEndChars text.toList)

def trim (text : String) : String := String.ofList (trimChars text.toList)

def isBlankText (text : String) : Bool := allBlank text.toList

end HookRules.Text
