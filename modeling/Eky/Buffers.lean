import Mathlib.Data.List.Induction
import Mathlib.Tactic.IntervalCases

/-! # Buffers — numbers and texts as bytes

    A binary format puts numbers of a fixed width and texts one behind another.
    For each kind of field there is a function that writes it and one that reads
    it, and what matters of a pair is the same every time: reading undoes writing,
    and writing undoes reading of what has the right length.

    - `uintBE` and `readUIntBE`: unsigned numbers, the most significant byte first;
    - `toHex` and `ofHex`: bytes as hexadecimal digits;
    - `utf8` and `utf8?`: texts, and `textDecode?`, which takes a leading byte order
      mark for no part of the text. -/

/-- Bytes in memory. -/
abbrev Buffer := List UInt8

-- Bytes and characters form finite types, whose elements would be tried one by one.
/-- What is asked of the elements of a list is decided by going over the list. -/
instance (priority := 2000) decidableForallMem {α : Type} (p : α → Prop) [DecidablePred p]
    (l : List α) : Decidable (∀ x ∈ l, p x) :=
  List.decidableBAll p l

namespace Buffers

/-! ## Ranges -/

/-- The `length` bytes from `offset` on, as far as there are any. -/
def slice (bytes : Buffer) (offset length : Nat) : Buffer := (bytes.drop offset).take length

variable {bytes rest : Buffer} {n width offset length : Nat} {c : Char} {text : String}

theorem slice_length (h : offset + length ≤ bytes.length) :
    (slice bytes offset length).length = length := by
  rw [slice, List.length_take, List.length_drop]
  omega

/-- The first part is read back. -/
theorem slice_append_left {first : Buffer} (h : first.length = length) :
    slice (first ++ rest) 0 length = first := by
  rw [slice, List.drop_zero, List.take_left' h]

/-- What is read behind the first part, counted from its end. -/
theorem slice_append_right {first : Buffer} (behind : Nat) (h : first.length + behind = offset) :
    slice (first ++ rest) offset length = slice rest behind length := by
  rw [slice, slice, ← h, List.drop_length_add_append]

/-- A part that is known to begin at an offset. -/
theorem slice_of_drop {part : Buffer} (h : bytes.drop offset = part ++ rest)
    (hlength : part.length = length) :
    slice bytes offset length = part ∧ bytes.drop (offset + length) = rest := by
  rw [slice, ← List.drop_drop, h, List.take_left' hlength, List.drop_left' hlength]
  exact ⟨rfl, rfl⟩

/-- It ends within the bytes, unless it is empty. -/
theorem le_length_of_drop {part : Buffer} (h : bytes.drop offset = part ++ rest)
    (hlength : part.length = length) (hoffset : offset ≤ bytes.length) :
    offset + length ≤ bytes.length := by
  have hsum := congrArg List.length h
  rw [List.length_drop, List.length_append] at hsum
  omega

/-- A range and the rest behind it. -/
theorem drop_eq_slice_append :
    bytes.drop offset = slice bytes offset length ++ bytes.drop (offset + length) := by
  rw [slice, ← List.drop_drop]
  exact (List.take_append_drop length (bytes.drop offset)).symm

/-! ## Numbers -/

/-- `n` in `width` bytes, the most significant byte first. -/
def uintBE : Nat → Nat → Buffer
  | 0, _ => []
  | width + 1, n => uintBE width (n / 256) ++ [UInt8.ofNat n]

/-- The number that the bytes stand for. -/
def readUIntBE (bytes : Buffer) : Nat := bytes.foldl (fun n byte => 256 * n + byte.toNat) 0

@[simp] theorem uintBE_length (width n : Nat) : (uintBE width n).length = width := by
  induction width generalizing n with
  | zero => rfl
  | succ width ih => rw [uintBE, List.length_append, ih, List.length_singleton]

theorem readUIntBE_concat (bytes : Buffer) (byte : UInt8) :
    readUIntBE (bytes ++ [byte]) = 256 * readUIntBE bytes + byte.toNat := by
  rw [readUIntBE, List.foldl_append]
  rfl

/-- A number that fits its width is read back. -/
theorem readUIntBE_uintBE (h : n < 256 ^ width) : readUIntBE (uintBE width n) = n := by
  induction width generalizing n with
  | zero =>
      rw [Nat.pow_zero] at h
      show 0 = n
      omega
  | succ width ih =>
      have hhigh : n / 256 < 256 ^ width := by
        rw [Nat.pow_succ, Nat.mul_comm] at h
        exact Nat.div_lt_of_lt_mul h
      rw [uintBE, readUIntBE_concat, ih hhigh, UInt8.toNat_ofNat']
      omega

/-- The bytes of a number are those it was read from. -/
theorem uintBE_readUIntBE (h : bytes.length = width) : uintBE width (readUIntBE bytes) = bytes := by
  induction bytes using List.reverseRecOn generalizing width with
  | nil =>
      obtain rfl : 0 = width := h
      rfl
  | append_singleton bytes byte ih =>
      rw [List.length_append, List.length_singleton] at h
      obtain ⟨width, rfl⟩ : ∃ k, width = k + 1 := ⟨bytes.length, h.symm⟩
      have hbyte := UInt8.toNat_lt byte
      have hhigh : (256 * readUIntBE bytes + byte.toNat) / 256 = readUIntBE bytes := by omega
      have hlow : UInt8.ofNat (256 * readUIntBE bytes + byte.toNat) = byte := by
        refine UInt8.toNat_inj.mp ?_
        rw [UInt8.toNat_ofNat']
        omega
      rw [readUIntBE_concat, uintBE, hhigh, hlow, ih (by omega)]

/-- The bytes of a field are those of the number it is read as. -/
theorem uintBE_slice (h : offset + width ≤ bytes.length) :
    uintBE width (readUIntBE (slice bytes offset width)) = slice bytes offset width :=
  uintBE_readUIntBE (slice_length h)

/-! ## Hexadecimal digits -/

/-- The digit of a number below sixteen. -/
def hexDigit (n : Nat) : Char := if n < 10 then Char.ofNat (48 + n) else Char.ofNat (87 + n)

/-- The number of a lower-case digit. -/
def hexValue (c : Char) : Nat := if c.toNat < 58 then c.toNat - 48 else c.toNat - 87

/-- `[0-9a-f]` -/
def IsHexChar (c : Char) : Prop :=
  (48 ≤ c.toNat ∧ c.toNat ≤ 57) ∨ (97 ≤ c.toNat ∧ c.toNat ≤ 102)

/-- Two digits for each byte. -/
def toHex : Buffer → List Char
  | [] => []
  | byte :: rest => hexDigit (byte.toNat / 16) :: hexDigit (byte.toNat % 16) :: toHex rest

/-- One byte for each two digits. -/
def ofHex : List Char → Buffer
  | high :: low :: rest => UInt8.ofNat (16 * hexValue high + hexValue low) :: ofHex rest
  | _ => []

theorem hexDigit_toNat (h : n < 16) : (hexDigit n).toNat = if n < 10 then 48 + n else 87 + n := by
  interval_cases n <;> rfl

theorem isHexChar_hexDigit (h : n < 16) : IsHexChar (hexDigit n) := by
  rw [IsHexChar, hexDigit_toNat h]
  split
  · omega
  · omega

theorem hexValue_hexDigit (h : n < 16) : hexValue (hexDigit n) = n := by
  rw [hexValue, hexDigit_toNat h]
  by_cases hdigit : n < 10
  · rw [if_pos hdigit, if_pos (by omega)]
    omega
  · rw [if_neg hdigit, if_neg (by omega)]
    omega

theorem hexValue_lt (h : IsHexChar c) : hexValue c < 16 := by
  rw [IsHexChar] at h
  rw [hexValue]
  split
  · omega
  · omega

theorem hexDigit_hexValue (h : IsHexChar c) : hexDigit (hexValue c) = c := by
  have hlt := hexValue_lt h
  refine Char.toNat_inj.mp ?_
  rw [hexDigit_toNat hlt]
  rw [IsHexChar] at h
  rw [hexValue]
  split
  · split
    · omega
    · omega
  · split
    · omega
    · omega

theorem ofHex_toHex (bytes : Buffer) : ofHex (toHex bytes) = bytes := by
  induction bytes with
  | nil => rfl
  | cons byte rest ih =>
      have hbyte := UInt8.toNat_lt byte
      rw [toHex, ofHex, hexValue_hexDigit (by omega), hexValue_hexDigit (by omega), ih]
      refine congrArg (· :: rest) (UInt8.toNat_inj.mp ?_)
      rw [UInt8.toNat_ofNat']
      omega

theorem toHex_length (bytes : Buffer) : (toHex bytes).length = 2 * bytes.length := by
  induction bytes with
  | nil => rfl
  | cons byte rest ih =>
      rw [toHex, List.length_cons, List.length_cons, ih, List.length_cons]
      omega

theorem isHexChar_of_mem_toHex (h : c ∈ toHex bytes) : IsHexChar c := by
  induction bytes with
  | nil => exact nomatch h
  | cons byte rest ih =>
      have hbyte := UInt8.toNat_lt byte
      rw [toHex] at h
      rcases List.mem_cons.mp h with rfl | h
      · exact isHexChar_hexDigit (by omega)
      · rcases List.mem_cons.mp h with rfl | h
        · exact isHexChar_hexDigit (by omega)
        · exact ih h

theorem ofHex_length {digits : List Char} (h : digits.length = 2 * n) :
    (ofHex digits).length = n := by
  induction n generalizing digits with
  | zero =>
      obtain rfl : digits = [] := List.eq_nil_of_length_eq_zero h
      rfl
  | succ n ih =>
      match digits, h with
      | high :: low :: rest, h =>
          rw [List.length_cons, List.length_cons] at h
          rw [ofHex, List.length_cons, ih (by omega)]

theorem toHex_ofHex {digits : List Char} (h : digits.length = 2 * n)
    (hdigits : ∀ c ∈ digits, IsHexChar c) : toHex (ofHex digits) = digits := by
  induction n generalizing digits with
  | zero =>
      obtain rfl : digits = [] := List.eq_nil_of_length_eq_zero h
      rfl
  | succ n ih =>
      match digits, h with
      | high :: low :: rest, h =>
          rw [List.length_cons, List.length_cons] at h
          have hhigh := hdigits high List.mem_cons_self
          have hlow := hdigits low (List.mem_cons_of_mem _ List.mem_cons_self)
          have h₁ := hexValue_lt hhigh
          have h₂ := hexValue_lt hlow
          have hbyte : (UInt8.ofNat (16 * hexValue high + hexValue low)).toNat
              = 16 * hexValue high + hexValue low := by
            rw [UInt8.toNat_ofNat']
            omega
          have hdiv : (16 * hexValue high + hexValue low) / 16 = hexValue high := by omega
          have hmod : (16 * hexValue high + hexValue low) % 16 = hexValue low := by omega
          rw [ofHex, toHex, hbyte, hdiv, hmod, hexDigit_hexValue hhigh, hexDigit_hexValue hlow,
            ih (by omega) (fun c hc => hdigits c
              (List.mem_cons_of_mem _ (List.mem_cons_of_mem _ hc)))]

/-! ## Texts -/

/-- The bytes of a text in UTF-8. -/
def utf8 (text : String) : Buffer := text.toByteArray.data.toList

/-- The text that the bytes stand for, if they are UTF-8. -/
def utf8? (bytes : Buffer) : Option String := String.fromUTF8? ⟨⟨bytes⟩⟩

theorem utf8?_eq_some : utf8? bytes = some text ↔ utf8 text = bytes := by
  unfold utf8? utf8 String.fromUTF8?
  constructor
  · intro h
    split at h
    · cases h
      rfl
    · cases h
  · rintro rfl
    have hvalid : ByteArray.IsValidUTF8 ⟨⟨text.toByteArray.data.toList⟩⟩ := text.isValidUTF8
    rw [dif_pos hvalid]
    rfl

theorem utf8_inj {first second : String} : utf8 first = utf8 second ↔ first = second := by
  constructor
  · intro h
    have hfirst := utf8?_eq_some.mpr h
    exact Option.some.inj (hfirst.symm.trans (utf8?_eq_some.mpr rfl))
  · rintro rfl
    rfl

@[simp] theorem utf8_empty : utf8 "" = [] := rfl

/-- U+FEFF in UTF-8. -/
def byteOrderMark : Buffer := [0xEF, 0xBB, 0xBF]

/-- The bytes begin with a byte order mark. -/
def StartsWithMark (bytes : Buffer) : Prop := byteOrderMark <+: bytes

instance (bytes : Buffer) : Decidable (StartsWithMark bytes) :=
  inferInstanceAs (Decidable (_ <+: _))

/-- `new TextDecoder('utf-8', { fatal: true }).decode` -/
def textDecode? (bytes : Buffer) : Option String :=
  if StartsWithMark bytes then utf8? (bytes.drop 3) else utf8? bytes

/-- Without a mark the decoded text has the bytes it was read from. -/
theorem textDecode?_eq_some (h : ¬ StartsWithMark bytes) :
    textDecode? bytes = some text ↔ utf8 text = bytes := by
  rw [textDecode?, if_neg h, utf8?_eq_some]

/-- A mark is lost in the decoded text. -/
theorem textDecode?_of_mark (h : StartsWithMark bytes) (hdecoded : textDecode? bytes = some text) :
    byteOrderMark ++ utf8 text = bytes := by
  rw [textDecode?, if_pos h, utf8?_eq_some] at hdecoded
  obtain ⟨rest, rfl⟩ := h
  rw [hdecoded]
  rfl

end Buffers
