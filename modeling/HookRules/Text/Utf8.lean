/-!
Text from bytes. Each longest start of a character that is cut short or continued wrongly is one
fault; decoding either puts the replacement character in its place or refuses.
-/

set_option autoImplicit false

namespace HookRules.Text

/-- A character of several bytes of which some have been read: its bits so far, how many bytes
are to come, and the range the next one must lie in. -/
structure Unfinished where
  bits : Nat
  left : Nat
  low : Nat
  high : Nat

inductive Lead
  | char (c : Char)
  | unfinished (state : Unfinished)
  | fault

def lead (byte : UInt8) : Lead :=
  let code := byte.toNat
  if code < 0x80 then .char (Char.ofNat code)
  else if code < 0xC2 then .fault
  else if code < 0xE0 then .unfinished ⟨code - 0xC0, 1, 0x80, 0xBF⟩
  else if code = 0xE0 then .unfinished ⟨0, 2, 0xA0, 0xBF⟩
  else if code = 0xED then .unfinished ⟨0xD, 2, 0x80, 0x9F⟩
  else if code < 0xF0 then .unfinished ⟨code - 0xE0, 2, 0x80, 0xBF⟩
  else if code = 0xF0 then .unfinished ⟨0, 3, 0x90, 0xBF⟩
  else if code < 0xF4 then .unfinished ⟨code - 0xF0, 3, 0x80, 0xBF⟩
  else if code = 0xF4 then .unfinished ⟨4, 3, 0x80, 0x8F⟩
  else .fault

/-- The characters of a byte sequence, `none` for each fault. -/
def decode (pending : Option Unfinished) : List UInt8 → List (Option Char)
  | [] => match pending with
    | none => []
    | some _ => [none]
  | byte :: rest =>
    let start (before : List (Option Char)) : List (Option Char) :=
      match lead byte with
      | .char c => before ++ some c :: decode none rest
      | .unfinished state => before ++ decode (some state) rest
      | .fault => before ++ none :: decode none rest
    match pending with
    | none => start []
    | some state =>
      if state.low ≤ byte.toNat ∧ byte.toNat ≤ state.high then
        let bits := state.bits * 64 + byte.toNat % 64
        if state.left = 1 then some (Char.ofNat bits) :: decode none rest
        else decode (some ⟨bits, state.left - 1, 0x80, 0xBF⟩) rest
      else start [none]

/-- The text of the bytes, with the replacement character for each fault. -/
def ofBytes (bytes : List UInt8) : String :=
  String.ofList ((decode none bytes).map fun c => c.getD '\ufffd')

def ofBytes? (bytes : List UInt8) : Option String :=
  ((decode none bytes).mapM id).map String.ofList

def byteCount : List Char → Nat
  | [] => 0
  | c :: rest => c.utf8Size + byteCount rest

theorem byteCount_append (first second : List Char) :
    byteCount (first ++ second) = byteCount first + byteCount second := by
  induction first with
  | nil => exact (Nat.zero_add _).symm
  | cons c rest ih => rw [List.cons_append, byteCount, byteCount, ih, Nat.add_assoc]

theorem byteCount_ascii {text : List Char} (ascii : ∀ c ∈ text, c.toNat < 128) :
    byteCount text = text.length := by
  induction text with
  | nil => rfl
  | cons c rest ih =>
      obtain ⟨small, smaller⟩ := List.forall_mem_cons.mp ascii
      have bounded : c.val ≤ 127 := UInt32.le_iff_toNat_le.mpr (Nat.le_of_lt_succ small)
      have single : c.utf8Size = 1 := by simp [Char.utf8Size, bounded]
      rw [byteCount, single, ih smaller, List.length_cons, Nat.add_comm]

def toBytes (text : String) : List UInt8 := text.toUTF8.toList

end HookRules.Text
