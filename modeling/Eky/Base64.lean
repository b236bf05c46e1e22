import Eky.Buffers

/-! # Base64 — bytes as printable characters

    Three bytes become four characters of an alphabet of 64; a last group of one or two
    bytes is filled up with `=`.  Reading undoes writing (`decode_encode`), also when
    characters outside the alphabet, such as line breaks, have been put in between
    (`decodeText_eq`). -/

namespace Base64

/-- The character of a number below 64. -/
def digit (n : Nat) : Char :=
  if n < 26 then Char.ofNat (65 + n)
  else if n < 52 then Char.ofNat (71 + n)
  else if n < 62 then Char.ofNat (n - 4)
  else if n = 62 then '+' else '/'

/-- The number of a character of the alphabet. -/
def value? (c : Char) : Option Nat :=
  let n := c.toNat
  if 65 ≤ n ∧ n ≤ 90 then some (n - 65)
  else if 97 ≤ n ∧ n ≤ 122 then some (n - 71)
  else if 48 ≤ n ∧ n ≤ 57 then some (n + 4)
  else if n = 43 then some 62
  else if n = 47 then some 63
  else none

/-- The alphabet and the filling. -/
def isBase64Char (c : Char) : Bool := (value? c).isSome || c == '='

/-- The base64 text of bytes, with padding. -/
def encode : Buffer → List Char
  | [] => []
  | [a] => [digit (a.toNat / 4), digit (16 * (a.toNat % 4)), '=', '=']
  | [a, b] =>
      [digit (a.toNat / 4), digit (16 * (a.toNat % 4) + b.toNat / 16),
        digit (4 * (b.toNat % 16)), '=']
  | a :: b :: c :: rest =>
      digit (a.toNat / 4) :: digit (16 * (a.toNat % 4) + b.toNat / 16)
        :: digit (4 * (b.toNat % 16) + c.toNat / 64) :: digit (c.toNat % 64) :: encode rest

/-- The bytes of a group whose third and fourth character may be the filling. -/
def decodeGroup (a b c d : Char) : Option Buffer :=
  match value? a, value? b with
  | some v, some w =>
      let first := UInt8.ofNat (4 * v + w / 16)
      if c = '=' then if d = '=' then some [first] else none
      else
        match value? c with
        | none => none
        | some x =>
            let second := UInt8.ofNat (16 * (w % 16) + x / 4)
            if d = '=' then some [first, second]
            else (value? d).map fun y => [first, second, UInt8.ofNat (64 * (x % 4) + y)]
  | _, _ => none

/-- Only the last group may be filled up. -/
def decode : List Char → Option Buffer
  | [] => some []
  | a :: b :: c :: d :: rest =>
      if d = '=' ∧ rest ≠ [] then none
      else
        match decodeGroup a b c d, decode rest with
        | some group, some bytes => some (group ++ bytes)
        | _, _ => none
  | _ => none

/-- Characters outside the alphabet are passed over. -/
def decodeText (text : List Char) : Option Buffer := decode (text.filter isBase64Char)

variable {n : Nat} {bytes : Buffer}

/-! ## Digits -/

theorem value?_digit (h : n < 64) : value? (digit n) = some n := by
  interval_cases n <;> rfl

theorem digit_ne_fill (h : n < 64) : digit n ≠ '=' := by
  intro he
  have hvalue := value?_digit h
  rw [he] at hvalue
  exact nomatch hvalue

theorem isBase64Char_digit (h : n < 64) : isBase64Char (digit n) = true := by
  rw [isBase64Char, value?_digit h]
  rfl

/-- The alphabet lies between `+` and `z`. -/
theorem toNat_of_isBase64Char {c : Char} (h : isBase64Char c = true) :
    43 ≤ c.toNat ∧ c.toNat ≤ 122 ∧ c.toNat ≠ 45 ∧ c.toNat ≠ 46 ∧ c.toNat ≠ 95 := by
  rw [isBase64Char, Bool.or_eq_true, beq_iff_eq] at h
  rcases h with h | rfl
  · simp only [value?] at h
    split at h
    · omega
    · split at h
      · omega
      · split at h
        · omega
        · split at h
          · omega
          · split at h
            · omega
            · exact nomatch h
  · decide

/-! ## Groups -/

section Groups

variable {a b c : UInt8}

theorem decodeGroup_one :
    decodeGroup (digit (a.toNat / 4)) (digit (16 * (a.toNat % 4))) '=' '=' = some [a] := by
  have ha := UInt8.toNat_lt a
  rw [decodeGroup, value?_digit (by omega), value?_digit (by omega)]
  refine congrArg (fun n => some [n]) (UInt8.toNat_inj.mp ?_)
  rw [UInt8.toNat_ofNat']
  omega

theorem decodeGroup_two :
    decodeGroup (digit (a.toNat / 4)) (digit (16 * (a.toNat % 4) + b.toNat / 16))
      (digit (4 * (b.toNat % 16))) '=' = some [a, b] := by
  have ha := UInt8.toNat_lt a
  have hb := UInt8.toNat_lt b
  rw [decodeGroup, value?_digit (by omega), value?_digit (by omega)]
  simp only [digit_ne_fill (show 4 * (b.toNat % 16) < 64 by omega), if_false,
    value?_digit (show 4 * (b.toNat % 16) < 64 by omega), if_true]
  congr 2
  · refine UInt8.toNat_inj.mp ?_
    rw [UInt8.toNat_ofNat']
    omega
  · refine congrArg (· :: []) (UInt8.toNat_inj.mp ?_)
    rw [UInt8.toNat_ofNat']
    omega

theorem decodeGroup_three :
    decodeGroup (digit (a.toNat / 4)) (digit (16 * (a.toNat % 4) + b.toNat / 16))
      (digit (4 * (b.toNat % 16) + c.toNat / 64)) (digit (c.toNat % 64))
      = some [a, b, c] := by
  have ha := UInt8.toNat_lt a
  have hb := UInt8.toNat_lt b
  have hc := UInt8.toNat_lt c
  have hthird : 4 * (b.toNat % 16) + c.toNat / 64 < 64 := by omega
  have hfourth : c.toNat % 64 < 64 := by omega
  rw [decodeGroup, value?_digit (by omega), value?_digit (by omega)]
  simp only [digit_ne_fill hthird, if_false, value?_digit hthird, digit_ne_fill hfourth,
    value?_digit hfourth, Option.map_some]
  congr 2
  · refine UInt8.toNat_inj.mp ?_
    rw [UInt8.toNat_ofNat']
    omega
  · congr 1
    · refine UInt8.toNat_inj.mp ?_
      rw [UInt8.toNat_ofNat']
      omega
    · refine congrArg (· :: []) (UInt8.toNat_inj.mp ?_)
      rw [UInt8.toNat_ofNat']
      omega

end Groups

/-! ## Texts -/

/-- Reading undoes writing. -/
theorem decode_encode (bytes : Buffer) : decode (encode bytes) = some bytes := by
  induction bytes using encode.induct with
  | case1 => rfl
  | case2 a =>
      rw [encode, decode, decodeGroup_one]
      rfl
  | case3 a b =>
      rw [encode, decode, decodeGroup_two]
      rfl
  | case4 a b c rest ih =>
      have hfill : ¬(digit (c.toNat % 64) = '=' ∧ encode rest ≠ []) :=
        fun h => digit_ne_fill (Nat.mod_lt _ (by decide)) h.1
      rw [encode, decode, if_neg hfill, decodeGroup_three, ih]
      rfl

theorem isBase64Char_of_mem_encode {c : Char} (h : c ∈ encode bytes) : isBase64Char c = true := by
  induction bytes using encode.induct with
  | case1 => exact nomatch h
  | case2 a =>
      have ha := UInt8.toNat_lt a
      simp only [encode, List.mem_cons, List.not_mem_nil, or_false] at h
      rcases h with rfl | rfl | rfl | rfl
      · exact isBase64Char_digit (by omega)
      · exact isBase64Char_digit (by omega)
      · rfl
      · rfl
  | case3 a b =>
      have ha := UInt8.toNat_lt a
      have hb := UInt8.toNat_lt b
      simp only [encode, List.mem_cons, List.not_mem_nil, or_false] at h
      rcases h with rfl | rfl | rfl | rfl
      · exact isBase64Char_digit (by omega)
      · exact isBase64Char_digit (by omega)
      · exact isBase64Char_digit (by omega)
      · rfl
  | case4 a b d rest ih =>
      have ha := UInt8.toNat_lt a
      have hb := UInt8.toNat_lt b
      have hd := UInt8.toNat_lt d
      simp only [encode, List.mem_cons] at h
      rcases h with rfl | rfl | rfl | rfl | h
      · exact isBase64Char_digit (by omega)
      · exact isBase64Char_digit (by omega)
      · exact isBase64Char_digit (by omega)
      · exact isBase64Char_digit (by omega)
      · exact ih h

/-- Four characters for every three bytes that are begun. -/
theorem encode_length (bytes : Buffer) :
    (encode bytes).length = 4 * ((bytes.length + 2) / 3) := by
  induction bytes using encode.induct with
  | case1 => rfl
  | case2 a => simp [encode]
  | case3 a b => simp [encode]
  | case4 a b c rest ih =>
      simp only [encode, List.length_cons, ih]
      omega

theorem encode_eq_nil : encode bytes = [] ↔ bytes = [] := by
  rw [← List.length_eq_zero_iff, encode_length, ← List.length_eq_zero_iff]
  omega

/-- A text that holds the characters of an encoding in their order, and others outside the
    alphabet, is read as the bytes. -/
theorem decodeText_eq {text : List Char} (h : text.filter isBase64Char = encode bytes) :
    decodeText text = some bytes := by
  rw [decodeText, h, decode_encode]

end Base64
