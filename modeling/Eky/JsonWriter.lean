import Eky.JavaScript
import Eky.JsonGrammar

/-! # Writing JSON

    `JSON.stringify` of a value is put together from the texts of its parts.  The texts are
    lists of characters, and their 16-bit units are what is parsed (`utf16`).

    - `fromUtf16_utf16`: the units of a text give the text back;
    - `Written text v`: the units of `text` follow the grammar and stand for `v`; each of the
      pieces is written so. -/

namespace Json

/-! ## UTF-16 -/

/-- The 16-bit units of a character. -/
def utf16Char (c : Char) : Units := (JavaScript.codeUnits c.toNat).map Nat.toUInt16

/-- The 16-bit units of a text. -/
def utf16 (text : List Char) : Units := text.flatMap utf16Char

/-- The first unit of a pair. -/
def isHighSurrogate (u : UInt16) : Bool := 0xD800 ≤ u && u ≤ 0xDBFF

/-- The second unit of a pair. -/
def isLowSurrogate (u : UInt16) : Bool := 0xDC00 ≤ u && u ≤ 0xDFFF

/-- The characters of a text without unpaired surrogates. -/
def fromUtf16 : Units → Option (List Char)
  | [] => some []
  | u :: rest =>
      if isHighSurrogate u then
        match rest with
        | [] => none
        | v :: rest =>
            if isLowSurrogate v then
              (fromUtf16 rest).map fun text =>
                Char.ofNat (0x10000 + (u.toNat - 0xD800) * 0x400 + (v.toNat - 0xDC00)) :: text
            else none
      else if isLowSurrogate u then none
      else (fromUtf16 rest).map fun text => Char.ofNat u.toNat :: text

variable {texts : List (List Char)} {n : Nat} {u : UInt16} {c : Char} {text : List Char}

theorem toNat_toUInt16 (h : n < 65536) : n.toUInt16.toNat = n :=
  UInt16.toNat_ofNat_of_lt' h

theorem isHighSurrogate_iff : isHighSurrogate u = true ↔ 0xD800 ≤ u.toNat ∧ u.toNat ≤ 0xDBFF := by
  simp only [isHighSurrogate, Bool.and_eq_true, decide_eq_true_eq, UInt16.le_iff_toNat_le]
  rfl

theorem isLowSurrogate_iff : isLowSurrogate u = true ↔ 0xDC00 ≤ u.toNat ∧ u.toNat ≤ 0xDFFF := by
  simp only [isLowSurrogate, Bool.and_eq_true, decide_eq_true_eq, UInt16.le_iff_toNat_le]
  rfl

@[simp] theorem utf16_nil : utf16 [] = [] := rfl

theorem utf16_cons (c : Char) (text : List Char) : utf16 (c :: text) = utf16Char c ++ utf16 text :=
  rfl

/-- A character of the basic plane is a single unit. -/
theorem utf16Char_basic (h : c.toNat < 0x10000) : utf16Char c = [c.toNat.toUInt16] := by
  rw [utf16Char, JavaScript.codeUnits_basic h]
  rfl

/-- Every other one is a high and a low surrogate. -/
theorem utf16Char_supplementary (h : 0x10000 ≤ c.toNat) :
    utf16Char c = [(0xD800 + (c.toNat - 0x10000) / 0x400).toUInt16,
      (0xDC00 + (c.toNat - 0x10000) % 0x400).toUInt16] := by
  rw [utf16Char, JavaScript.codeUnits_supplementary h]
  rfl

theorem utf16_append (left right : List Char) : utf16 (left ++ right) = utf16 left ++ utf16 right :=
  List.flatMap_append

/-- A character outside the basic plane has two surrogates. -/
theorem char_toNat (c : Char) :
    (c.toNat < 0xD800 ∨ (0xDFFF < c.toNat ∧ c.toNat < 0x10000))
      ∨ (0x10000 ≤ c.toNat ∧ c.toNat < 0x110000) := by
  rcases c.valid with h | ⟨hlow, hhigh⟩
  · exact .inl (.inl h)
  · by_cases hbasic : c.toNat < 0x10000
    · exact .inl (.inr ⟨hlow, hbasic⟩)
    · exact .inr ⟨Nat.not_lt.mp hbasic, hhigh⟩

theorem fromUtf16_utf16 (text : List Char) : fromUtf16 (utf16 text) = some text := by
  induction text with
  | nil => rfl
  | cons c text ih =>
      rw [utf16_cons]
      rcases char_toNat c with hbasic | ⟨hlow, hhigh⟩
      · have hnat := @toNat_toUInt16 c.toNat (by omega)
        have hnothigh : ¬ isHighSurrogate c.toNat.toUInt16 = true := by
          rw [isHighSurrogate_iff, hnat]
          omega
        have hnotlow : ¬ isLowSurrogate c.toNat.toUInt16 = true := by
          rw [isLowSurrogate_iff, hnat]
          omega
        rw [utf16Char_basic (by omega), List.singleton_append]
        unfold fromUtf16
        rw [if_neg hnothigh, if_neg hnotlow, ih, hnat, Option.map_some, Char.ofNat_toNat]
      · have hnat := @toNat_toUInt16 (0xD800 + (c.toNat - 0x10000) / 0x400) (by omega)
        have hnat' := @toNat_toUInt16 (0xDC00 + (c.toNat - 0x10000) % 0x400) (by omega)
        rw [utf16Char_supplementary (by omega), List.cons_append, List.singleton_append]
        unfold fromUtf16
        rw [if_pos (isHighSurrogate_iff.mpr (by rw [hnat]; omega))]
        dsimp only
        rw [if_pos (isLowSurrogate_iff.mpr (by rw [hnat']; omega)), ih, hnat, hnat',
          Option.map_some]
        have hvalue : 0x10000 + (0xD800 + (c.toNat - 0x10000) / 0x400 - 0xD800) * 0x400
            + (0xDC00 + (c.toNat - 0x10000) % 0x400 - 0xDC00) = c.toNat := by
          omega
        rw [hvalue, Char.ofNat_toNat]

/-! ## Strings -/

/-- The hexadecimal digit of a number below 16. -/
def hexDigit (n : Nat) : Char := if n < 10 then Char.ofNat (48 + n) else Char.ofNat (87 + n)

/-- A character in a string. -/
def quoteChar (c : Char) : List Char :=
  if c = '"' then ['\\', '"']
  else if c = '\\' then ['\\', '\\']
  else if c.toNat = 8 then ['\\', 'b']
  else if c.toNat = 12 then ['\\', 'f']
  else if c = '\n' then ['\\', 'n']
  else if c = '\r' then ['\\', 'r']
  else if c = '\t' then ['\\', 't']
  else if c.toNat < 32 then
    ['\\', 'u', '0', '0', hexDigit (c.toNat / 16), hexDigit (c.toNat % 16)]
  else [c]

/-- The literal of a well-formed string. -/
def quote (text : List Char) : List Char := '"' :: text.flatMap quoteChar ++ ['"']

theorem decode_plain (hback : u ≠ unit '\\') (hquote : u ≠ unit '"') (hlow : ¬ u < 32)
    (rest : Units) : decode (u :: rest) = (decode rest).map (u :: ·) := by
  conv_lhs => unfold decode
  rw [if_neg hback, if_neg (not_or.mpr ⟨hquote, hlow⟩)]
  cases decode rest with
  | none => rfl
  | some value => rfl

theorem decode_escape {e v : UInt16} (hu : e ≠ unit 'u') (he : escapes.lookup e = some v)
    (rest : Units) : decode (unit '\\' :: e :: rest) = (decode rest).map (v :: ·) := by
  conv_lhs => unfold decode
  rw [if_pos rfl]
  dsimp only
  rw [if_neg hu, he]
  cases decode rest with
  | none => rfl
  | some value => rfl

theorem decode_hex {a b c d v : UInt16} (h : hexUnit a b c d = some v) (rest : Units) :
    decode (unit '\\' :: unit 'u' :: a :: b :: c :: d :: rest) = (decode rest).map (v :: ·) := by
  conv_lhs => unfold decode
  rw [if_pos rfl]
  dsimp only
  rw [if_pos rfl, h]
  cases decode rest with
  | none => rfl
  | some value => rfl

/-- A unit is the character it was made of. -/
theorem eq_of_unit_eq (hn : n < 65536) (hc : c.toNat < 65536) (h : n.toUInt16 = unit c) :
    n = c.toNat := by
  rw [← toNat_toUInt16 hn, h]
  exact toNat_toUInt16 hc

theorem decode_unit (hn : n < 65536) (hback : n ≠ 92) (hquote : n ≠ 34) (hlow : 32 ≤ n)
    (rest : Units) : decode (n.toUInt16 :: rest) = (decode rest).map (n.toUInt16 :: ·) := by
  refine decode_plain (fun h => ?_) (fun h => ?_) (fun h => ?_) rest
  · exact hback (eq_of_unit_eq hn (by decide) h)
  · exact hquote (eq_of_unit_eq hn (by decide) h)
  · rw [UInt16.lt_iff_toNat_lt, toNat_toUInt16 hn] at h
    exact absurd h (Nat.not_lt.mpr hlow)

/-- The four digits of a control character. -/
theorem utf16_control : ∀ n < 32, ∃ d d', utf16 ['\\', 'u', '0', '0', hexDigit (n / 16),
      hexDigit (n % 16)] = [unit '\\', unit 'u', unit '0', unit '0', d, d']
    ∧ hexUnit (unit '0') (unit '0') d d' = some n.toUInt16 := by
  intro n hn
  refine ⟨unit (hexDigit (n / 16)), unit (hexDigit (n % 16)), ?_⟩
  revert n
  decide

/-- An escaped character stands for itself. -/
theorem decode_quoteChar (c : Char) (rest : Units) :
    decode (utf16 (quoteChar c) ++ rest) = (decode rest).map (utf16Char c ++ ·) := by
  unfold quoteChar
  split
  · next h =>
      subst h
      exact decode_escape (by decide) (by decide) rest
  split
  · next h =>
      subst h
      exact decode_escape (by decide) (by decide) rest
  split
  · next h =>
      obtain rfl : c = Char.ofNat 8 := Char.toNat_inj.mp h
      exact decode_escape (by decide) (by decide) rest
  split
  · next h =>
      obtain rfl : c = Char.ofNat 12 := Char.toNat_inj.mp h
      exact decode_escape (by decide) (by decide) rest
  split
  · next h =>
      subst h
      exact decode_escape (by decide) (by decide) rest
  split
  · next h =>
      subst h
      exact decode_escape (by decide) (by decide) rest
  split
  · next h =>
      subst h
      exact decode_escape (by decide) (by decide) rest
  split
  · next hlow =>
      obtain ⟨d, d', htext, hunit⟩ := utf16_control c.toNat hlow
      have hchar := @utf16Char_basic c (by omega)
      rw [htext, hchar]
      exact decode_hex hunit rest
  · next hquote hback _ _ _ _ _ hlow =>
      have hback' : c.toNat ≠ 92 := fun h => hback (Char.toNat_inj.mp h)
      have hquote' : c.toNat ≠ 34 := fun h => hquote (Char.toNat_inj.mp h)
      rw [utf16_cons, utf16_nil, List.append_nil]
      rcases Nat.lt_or_ge c.toNat 0x10000 with hbasic | hbasic
      · rw [utf16Char_basic hbasic]
        exact decode_unit hbasic hback' hquote' (by omega) rest
      · have hmax : c.toNat < 0x110000 := by
          rcases char_toNat c with h | h
          · omega
          · exact h.2
        rw [utf16Char_supplementary hbasic, List.cons_append, List.singleton_append,
          decode_unit (by omega) (by omega) (by omega) (by omega),
          decode_unit (by omega) (by omega) (by omega) (by omega), Option.map_map]
        rfl

theorem decode_quote (text : List Char) :
    decode (utf16 (text.flatMap quoteChar)) = some (utf16 text) := by
  induction text with
  | nil => rfl
  | cons c text ih =>
      rw [List.flatMap_cons, utf16_append, decode_quoteChar, ih]
      rfl

/-! ## Pieces -/

/-- The text follows the grammar and stands for the value. -/
def Written (text : List Char) (v : Value) : Prop := Derives (.value v) (utf16 text)

/-- Texts with commas between them. -/
def join : List (List Char) → List Char
  | [] => []
  | [text] => text
  | text :: next :: rest => text ++ ',' :: join (next :: rest)

/-- The text of an array. -/
def writeArray (items : List (List Char)) : List Char := '[' :: join items ++ [']']

/-- The text of a member. -/
def writeMember (member : List Char × List Char) : List Char := quote member.1 ++ ':' :: member.2

/-- An object of the texts of its members, in their order. -/
def writeObject (members : List (List Char × List Char)) : List Char :=
  '{' :: join (members.map writeMember) ++ ['}']

theorem utf16_ascii (h : c.toNat < 65536) (text : List Char) :
    utf16 (c :: text) = unit c :: utf16 text := by
  rw [utf16_cons, utf16Char_basic h]
  rfl

theorem blank_nil : Blank [] := fun _ hu => nomatch hu

theorem written_null : Written "null".toList .null := Derives.null

theorem written_number (h : isNumber (utf16 text) = true) :
    Written text (.number (utf16 text)) := Derives.number h

theorem written_string (text : List Char) : Written (quote text) (.string (utf16 text)) := by
  have h := Derives.string (decode_quote text)
  rw [Written, quote, utf16_append, utf16_ascii (by decide)]
  exact h

theorem derives_items {vs : List Value} (h : List.Forall₂ Written texts vs) (hne : vs ≠ []) :
    Derives (.items vs) (utf16 (join texts)) := by
  induction h with
  | nil => exact absurd rfl hne
  | @cons text v texts vs hv hvs ih =>
      cases hvs with
      | nil =>
          have hitem := Derives.item blank_nil hv blank_nil
          rw [List.nil_append, List.append_nil] at hitem
          exact hitem
      | @cons text' v' texts vs hv' hvs =>
          have hitems := Derives.items blank_nil hv blank_nil (ih (List.cons_ne_nil _ _))
          rw [List.nil_append, List.append_nil] at hitems
          rw [join, utf16_append, utf16_ascii (by decide)]
          exact hitems

theorem written_array {vs : List Value} (h : List.Forall₂ Written texts vs) :
    Written (writeArray texts) (.array vs) := by
  rw [Written, writeArray, utf16_append, utf16_ascii (by decide)]
  cases vs with
  | nil =>
      cases h
      exact Derives.noItems blank_nil
  | cons v vs => exact Derives.array (derives_items h (List.cons_ne_nil v vs))

/-- A member is written with its name in front. -/
def WrittenMember (member : List Char × List Char) (m : Units × Value) : Prop :=
  m.1 = utf16 member.1 ∧ Written member.2 m.2

theorem utf16_writeMember (member : List Char × List Char) :
    utf16 (writeMember member) = nameText [] (utf16 (member.1.flatMap quoteChar)) []
      ++ unit ':' :: ([] ++ utf16 member.2 ++ []) := by
  simp only [writeMember, quote, nameText, utf16_append, List.nil_append, List.append_nil,
    List.append_assoc, List.cons_append, utf16_ascii (by decide : '"'.toNat < 65536),
    utf16_ascii (by decide : ':'.toNat < 65536)]

theorem derives_members {members : List (List Char × List Char)} {ms : List (Units × Value)}
    (h : List.Forall₂ WrittenMember members ms) (hne : ms ≠ []) :
    Derives (.members ms) (utf16 (join (members.map writeMember))) := by
  induction h with
  | nil => exact absurd rfl hne
  | @cons member m members ms hm hms ih =>
      obtain ⟨name, v⟩ := m
      obtain ⟨hname, hv⟩ := hm
      obtain rfl : name = utf16 member.1 := hname
      cases hms with
      | nil =>
          rw [List.map_singleton, join, utf16_writeMember]
          exact Derives.member blank_nil (decode_quote member.1) blank_nil blank_nil hv blank_nil
      | @cons member' m' members ms hm' hms =>
          rw [List.map_cons, List.map_cons, join, utf16_append, utf16_writeMember,
            utf16_ascii (by decide)]
          exact Derives.members blank_nil (decode_quote member.1) blank_nil blank_nil hv blank_nil
            (ih (List.cons_ne_nil _ _))

theorem written_object {members : List (List Char × List Char)} {ms : List (Units × Value)}
    (h : List.Forall₂ WrittenMember members ms) : Written (writeObject members) (.object ms) := by
  rw [Written, writeObject, utf16_append, utf16_ascii (by decide)]
  cases ms with
  | nil =>
      cases h
      exact Derives.noMembers blank_nil
  | cons m ms => exact Derives.object (derives_members h (List.cons_ne_nil m ms))

/-- A written value on a line of its own. -/
theorem isText_line {v : Value} (h : Written text v) : IsText v (utf16 (text ++ ['\n'])) := by
  have hline : Blank (utf16 ['\n']) := by decide
  have htext := IsText.blanks blank_nil h hline
  rw [List.nil_append] at htext
  rw [utf16_append]
  exact htext

/-! ## Bytes -/

/-- The length of a text in UTF-8. -/
def byteLength (text : List Char) : Nat := (text.map Char.utf8Size).sum

theorem size_utf8Encode (text : List Char) : text.utf8Encode.size = byteLength text := by
  induction text with
  | nil => rfl
  | cons c text ih =>
      rw [List.utf8Encode_cons, ByteArray.size_append, ih, List.utf8Encode_singleton,
        List.size_toByteArray, String.length_utf8EncodeChar]
      rfl

@[simp] theorem byteLength_nil : byteLength [] = 0 := rfl

@[simp] theorem byteLength_cons (c : Char) (text : List Char) :
    byteLength (c :: text) = c.utf8Size + byteLength text := rfl

@[simp] theorem byteLength_append (left right : List Char) :
    byteLength (left ++ right) = byteLength left + byteLength right := by
  simp only [byteLength, List.map_append, List.sum_append]

/-- Joined texts have a comma more for each text at most. -/
theorem byteLength_join_le {bound : Nat} (h : ∀ text ∈ texts, byteLength text ≤ bound) :
    byteLength (join texts) ≤ texts.length * (bound + 1) := by
  induction texts with
  | nil => exact Nat.zero_le _
  | cons text texts ih =>
      have htext := h text List.mem_cons_self
      have hrest := ih fun t ht => h t (List.mem_cons_of_mem text ht)
      cases texts with
      | nil =>
          rw [join, List.length_singleton]
          omega
      | cons next texts =>
          have hcomma : (',' : Char).utf8Size = 1 := rfl
          rw [join, byteLength_append, byteLength_cons, hcomma, List.length_cons, Nat.succ_mul]
          omega

/-- A character that is no control character takes four bytes at most. -/
theorem byteLength_quoteChar_le (h : 32 ≤ c.toNat) : byteLength (quoteChar c) ≤ 4 := by
  unfold quoteChar
  have hmax := c.utf8Size_le_four
  split
  · decide
  split
  · decide
  rw [if_neg (by omega), if_neg (by omega), if_neg, if_neg, if_neg, if_neg (by omega)]
  · simpa using hmax
  · rintro rfl
    exact absurd h (by decide)
  · rintro rfl
    exact absurd h (by decide)
  · rintro rfl
    exact absurd h (by decide)

theorem byteLength_quote_le (h : ∀ c ∈ text, 32 ≤ c.toNat) :
    byteLength (quote text) ≤ 4 * text.length + 2 := by
  have hbody : byteLength (text.flatMap quoteChar) ≤ 4 * text.length := by
    induction text with
    | nil => exact Nat.le_refl _
    | cons c text ih =>
        have hc := byteLength_quoteChar_le (h c List.mem_cons_self)
        have hrest := ih fun d hd => h d (List.mem_cons_of_mem c hd)
        rw [List.flatMap_cons, byteLength_append, List.length_cons]
        omega
  have hquote : ('"' : Char).utf8Size = 1 := rfl
  rw [quote, byteLength_append, byteLength_cons, byteLength_cons, hquote, byteLength_nil]
  omega

end Json
