import Eky.JavaScript
import Eky.StreamDecoders

/-! # Decoding stored texts part by part

    A stored text is read in parts of a fixed number of bytes.  In a UTF-8 database the parts
    go to a `TextDecoder`; in a UTF-16 database the program cuts them at the ends of characters
    and lets SQLite convert each piece, so that what it compares is what the driver would
    have returned for the whole text.

    - `utf8Machine`: the decoder of the Encoding standard, byte by byte;
    - `utf16Decoder`: the program's own, with the bytes it keeps for the next part;
    - `FirstCharacter`, `ReadsCharacters`: how SQLite reads UTF-16, as far as the program relies
      on it;
    - `createInvoiceHistoryTextDecoder_decodes`: in every encoding, and for parts of any length
      up to the limit, decoding the parts is decoding the whole. -/

namespace InvoiceHistoryText

open StreamDecoders

/-- A string of the runtime: its UTF-16 code units. -/
abbrev JsText := List UInt16

/-! ## UTF-8 -/

/-- The code units of a code point, in 16 bits each. -/
def codeUnits (codePoint : Nat) : JsText :=
  (JavaScript.codeUnits codePoint).map UInt16.ofNat

/-- Where the decoder stands: the bits so far, the bytes still needed, and the bounds of the
    next one. -/
structure Utf8State where
  codePoint : Nat
  needed : Nat
  lower : Nat
  upper : Nat
  deriving DecidableEq

/-- No character has begun. -/
def Utf8State.start : Utf8State := ⟨0, 0, 0x80, 0xBF⟩

/-- The replacement character. -/
def replacement : JsText := [0xFFFD]

/-- A byte between two characters. -/
def utf8First (byte : Nat) : JsText × Utf8State :=
  if byte ≤ 0x7F then (codeUnits byte, .start)
  else if 0xC2 ≤ byte ∧ byte ≤ 0xDF then ([], ⟨byte % 32, 1, 0x80, 0xBF⟩)
  else if 0xE0 ≤ byte ∧ byte ≤ 0xEF then
    ([], ⟨byte % 16, 2, if byte = 0xE0 then 0xA0 else 0x80, if byte = 0xED then 0x9F else 0xBF⟩)
  else if 0xF0 ≤ byte ∧ byte ≤ 0xF4 then
    ([], ⟨byte % 8, 3, if byte = 0xF0 then 0x90 else 0x80, if byte = 0xF4 then 0x8F else 0xBF⟩)
  else (replacement, .start)

/-- The UTF-8 decoder takes one byte. -/
def utf8Step (state : Utf8State) (byte : UInt8) : JsText × Utf8State :=
  let byte := byte.toNat
  if state.needed = 0 then utf8First byte
  else if byte < state.lower ∨ state.upper < byte then
    -- the incomplete character is replaced, and the byte begins the next one
    let (text, next) := utf8First byte
    (replacement ++ text, next)
  else
    let codePoint := state.codePoint * 64 + byte % 64
    if state.needed = 1 then (codeUnits codePoint, .start)
    else ([], ⟨codePoint, state.needed - 1, 0x80, 0xBF⟩)

/-- `new TextDecoder('utf-8', { ignoreBOM: true })` -/
def utf8Machine : ByteMachine UInt16 where
  State := Utf8State
  initial := .start
  step := utf8Step
  finish state := if state.needed = 0 then [] else replacement

/-! ## UTF-16 -/

/-- What the program asks of the database. -/
structure Sqlite where
  /-- `sqlite_compileoption_used('REPLACE_INVALID_UTF')` -/
  replaceInvalid : Bool
  /-- `SELECT CAST(? AS TEXT) AS value`, when the value is a string. -/
  castText : Buffer → Option JsText

/-- The encodings of a database. -/
inductive Encoding
  | utf8
  | utf16le
  | utf16be
  deriving DecidableEq

/-- `readUInt16LE` and `readUInt16BE` -/
def Encoding.codeUnit : Encoding → UInt8 → UInt8 → Nat
  | .utf16be, first, second => first.toNat * 256 + second.toNat
  | _, first, second => first.toNat + second.toNat * 256

/-- The unit begins a surrogate pair. -/
def startsPair (replaceInvalid : Bool) (unit : Nat) : Bool :=
  if replaceInvalid then decide (0xD800 ≤ unit ∧ unit < 0xDC00)
  else decide (0xD800 ≤ unit ∧ unit < 0xE000)

/-- The unit ends a surrogate pair. -/
def isLow (unit : Nat) : Bool := decide (0xDC00 ≤ unit ∧ unit < 0xE000)

/-- The bytes of the complete characters at the front: the loop over `end`. -/
def completeEnd (replaceInvalid : Bool) (encoding : Encoding) : Buffer → Nat
  | first :: second :: rest =>
      if startsPair replaceInvalid (encoding.codeUnit first second) then
        match rest with
        | third :: fourth :: behind =>
            if !replaceInvalid || isLow (encoding.codeUnit third fourth) then
              4 + completeEnd replaceInvalid encoding behind
            else 2 + completeEnd replaceInvalid encoding (third :: fourth :: behind)
        | _ => 0
      else 2 + completeEnd replaceInvalid encoding rest
  | _ => 0

/-- Decodes what is complete and keeps the rest. -/
def utf16Decode (sqlite : Sqlite) (encoding : Encoding) (chunkBytes : Nat) (pending part : Buffer)
    (stream : Bool) : Option (JsText × Buffer) :=
  if part.length > chunkBytes then none
  else
    let bytes := pending ++ part
    let finish :=
      if stream then completeEnd sqlite.replaceInvalid encoding bytes else bytes.length
    let pending := bytes.drop finish
    if finish = 0 then some ([], pending)
    else (sqlite.castText (bytes.take finish)).map fun value => (value, pending)

/-- The decoder of UTF-16. -/
def utf16Decoder (sqlite : Sqlite) (encoding : Encoding) (chunkBytes : Nat) : Decoder UInt16 where
  State := Buffer
  initial := []
  decode := utf16Decode sqlite encoding chunkBytes

/-- The decoder of an encoding. -/
def createInvoiceHistoryTextDecoder (sqlite : Sqlite) (chunkBytes : Nat) :
    Encoding → Decoder UInt16
  | .utf8 => utf8Machine.decoder
  | encoding => utf16Decoder sqlite encoding chunkBytes

/-! ## How SQLite reads UTF-16 -/

/-- The first character of `first ++ rest` is `first`.  A build that replaces invalid text takes
    a low surrogate, and a high one that no low one follows, for a character of its own;
    another build lets every surrogate take the unit behind it along. -/
inductive FirstCharacter (replaceInvalid : Bool) (encoding : Encoding) : Buffer → Buffer → Prop
  | unit {a b : UInt8} {rest : Buffer}
      (h : ¬ (0xD800 ≤ encoding.codeUnit a b ∧ encoding.codeUnit a b < 0xE000)) :
      FirstCharacter replaceInvalid encoding [a, b] rest
  | anyPair {a b c d : UInt8} {rest : Buffer} (hreplace : replaceInvalid = false)
      (h : 0xD800 ≤ encoding.codeUnit a b ∧ encoding.codeUnit a b < 0xE000) :
      FirstCharacter replaceInvalid encoding [a, b, c, d] rest
  | pair {a b c d : UInt8} {rest : Buffer} (hreplace : replaceInvalid = true)
      (h : 0xD800 ≤ encoding.codeUnit a b ∧ encoding.codeUnit a b < 0xDC00)
      (hlow : isLow (encoding.codeUnit c d) = true) :
      FirstCharacter replaceInvalid encoding [a, b, c, d] rest
  | loneLow {a b : UInt8} {rest : Buffer} (hreplace : replaceInvalid = true)
      (h : 0xDC00 ≤ encoding.codeUnit a b ∧ encoding.codeUnit a b < 0xE000) :
      FirstCharacter replaceInvalid encoding [a, b] rest
  | loneHigh {a b c d : UInt8} {rest : Buffer} (hreplace : replaceInvalid = true)
      (h : 0xD800 ≤ encoding.codeUnit a b ∧ encoding.codeUnit a b < 0xDC00)
      (hlow : isLow (encoding.codeUnit c d) = false) :
      FirstCharacter replaceInvalid encoding [a, b] (c :: d :: rest)

/-- Two results one behind the other. -/
def join (first second : Option JsText) : Option JsText :=
  match first with
  | none => none
  | some text => second.map (text ++ ·)

/-- SQLite converts a text character by character. -/
structure ReadsCharacters (sqlite : Sqlite) (encoding : Encoding) : Prop where
  empty : sqlite.castText [] = some []
  character : ∀ first rest, FirstCharacter sqlite.replaceInvalid encoding first rest →
    sqlite.castText (first ++ rest) = join (sqlite.castText first) (sqlite.castText rest)

theorem join_assoc (first second third : Option JsText) :
    join (join first second) third = join first (join second third) := by
  cases first with
  | none => rfl
  | some a =>
      cases second with
      | none => rfl
      | some b =>
          cases third with
          | none => rfl
          | some c => exact congrArg some (List.append_assoc a b c)

@[simp] theorem join_nil (text : Option JsText) : join text (some []) = text := by
  cases text with
  | none => rfl
  | some a => exact congrArg some (List.append_nil a)

@[simp] theorem nil_join (text : Option JsText) : join (some []) text = text := by
  cases text with
  | none => rfl
  | some a => rfl

/-! ## Cutting at the ends of characters -/

variable {sqlite : Sqlite} {encoding : Encoding}

/-- One character more in front of a cut. -/
theorem castText_split {first middle rest : Buffer} {cut : Nat}
    (hlong : sqlite.castText (first ++ (middle ++ rest))
      = join (sqlite.castText first) (sqlite.castText (middle ++ rest)))
    (hshort : sqlite.castText (first ++ middle.take cut)
      = join (sqlite.castText first) (sqlite.castText (middle.take cut)))
    (ih : sqlite.castText (middle ++ rest)
      = join (sqlite.castText (middle.take cut)) (sqlite.castText (middle.drop cut ++ rest))) :
    sqlite.castText (first ++ middle ++ rest)
      = join (sqlite.castText ((first ++ middle).take (first.length + cut)))
        (sqlite.castText ((first ++ middle).drop (first.length + cut) ++ rest)) := by
  rw [List.take_length_add_append, List.drop_length_add_append, List.append_assoc, hlong, hshort,
    ih, join_assoc]

/-- The cut lies behind a first character or in front of everything. -/
theorem completeEnd_eq_zero_or (replaceInvalid : Bool) (encoding : Encoding) (bytes : Buffer) :
    completeEnd replaceInvalid encoding bytes = 0
      ∨ 2 ≤ completeEnd replaceInvalid encoding bytes := by
  fun_cases completeEnd replaceInvalid encoding bytes <;> omega

/-- **THE CUT**: the characters in front of it and what follows convert on their own. -/
theorem completeEnd_split (h : ReadsCharacters sqlite encoding) (bytes rest : Buffer) :
    sqlite.castText (bytes ++ rest)
      = join (sqlite.castText (bytes.take (completeEnd sqlite.replaceInvalid encoding bytes)))
        (sqlite.castText
          (bytes.drop (completeEnd sqlite.replaceInvalid encoding bytes) ++ rest)) := by
  fun_induction completeEnd sqlite.replaceInvalid encoding bytes with
  | case1 a b hstarts c d behind htakes ih =>
      -- a pair
      have hpair : ∀ rest, FirstCharacter sqlite.replaceInvalid encoding [a, b, c, d] rest := by
        intro rest
        cases hreplace : sqlite.replaceInvalid with
        | false =>
            rw [startsPair, hreplace, if_neg Bool.false_ne_true, decide_eq_true_eq] at hstarts
            exact .anyPair rfl hstarts
        | true =>
            rw [startsPair, hreplace, if_pos rfl, decide_eq_true_eq] at hstarts
            rw [hreplace, Bool.not_true, Bool.false_or] at htakes
            exact .pair rfl hstarts htakes
      exact castText_split (h.character _ _ (hpair _)) (h.character _ _ (hpair _)) ih
  | case2 a b hstarts c d behind htakes ih =>
      -- a high surrogate on its own, in a build that replaces it
      rw [Bool.or_eq_true, not_or, Bool.not_eq_true', Bool.not_eq_false, Bool.not_eq_true]
        at htakes
      obtain ⟨hreplace, hlow⟩ := htakes
      rw [startsPair, hreplace, if_pos rfl, decide_eq_true_eq] at hstarts
      have hlone : ∀ rest,
          FirstCharacter sqlite.replaceInvalid encoding [a, b] (c :: d :: rest) :=
        fun rest => .loneHigh hreplace hstarts hlow
      refine castText_split (h.character _ _ (hlone _)) ?_ ih
      rcases completeEnd_eq_zero_or sqlite.replaceInvalid encoding (c :: d :: behind) with
        hzero | htwo
      · rw [hzero, List.take_zero, List.append_nil, h.empty, join_nil]
      · obtain ⟨cut, hcut⟩ := Nat.exists_eq_add_of_le' htwo
        rw [hcut]
        exact h.character _ _ (hlone _)
  | case3 a b rest' hstarts hshort =>
      rw [List.take_zero, List.drop_zero, h.empty, nil_join]
  | case4 a b behind hstarts ih =>
      -- a unit that no other belongs to
      have hunit : ∀ rest, FirstCharacter sqlite.replaceInvalid encoding [a, b] rest := by
        intro rest
        cases hreplace : sqlite.replaceInvalid with
        | false =>
            rw [startsPair, hreplace, if_neg Bool.false_ne_true, decide_eq_true_eq] at hstarts
            exact .unit hstarts
        | true =>
            rw [startsPair, hreplace, if_pos rfl, decide_eq_true_eq] at hstarts
            by_cases hlow : 0xDC00 ≤ encoding.codeUnit a b ∧ encoding.codeUnit a b < 0xE000
            · exact .loneLow rfl hlow
            · exact .unit (by omega)
      exact castText_split (h.character _ _ (hunit _)) (h.character _ _ (hunit _)) ih
  | case5 bytes hshort => rw [List.take_zero, List.drop_zero, h.empty, nil_join]

variable {chunkBytes : Nat}

/-- What a part gives, and what is kept of it. -/
theorem utf16Decode_stream (h : ReadsCharacters sqlite encoding) {pending part : Buffer}
    (hpart : part.length ≤ chunkBytes) :
    ∃ cut, utf16Decode sqlite encoding chunkBytes pending part true
        = (sqlite.castText ((pending ++ part).take cut)).map
            (fun value => (value, (pending ++ part).drop cut))
      ∧ ∀ rest, sqlite.castText (pending ++ part ++ rest)
        = join (sqlite.castText ((pending ++ part).take cut))
          (sqlite.castText ((pending ++ part).drop cut ++ rest)) := by
  refine ⟨completeEnd sqlite.replaceInvalid encoding (pending ++ part), ?_,
    completeEnd_split h (pending ++ part)⟩
  rw [utf16Decode, if_neg (Nat.not_lt.mpr hpart)]
  simp only [if_true]
  split
  next hzero => rw [hzero, List.take_zero, h.empty, Option.map_some]
  · rfl

/-- The flush converts what is left. -/
theorem utf16Decode_flush (h : ReadsCharacters sqlite encoding) (chunkBytes : Nat)
    (pending : Buffer) :
    utf16Decode sqlite encoding chunkBytes pending [] false
      = (sqlite.castText pending).map fun value => (value, []) := by
  rw [utf16Decode, if_neg (by simp)]
  simp only [Bool.false_eq_true, if_false, List.append_nil, List.take_length, List.drop_length]
  split
  next hzero =>
    rw [List.eq_nil_of_length_eq_zero hzero, h.empty]
    rfl
  · rfl

theorem utf16_run (h : ReadsCharacters sqlite encoding) (pending : Buffer) (parts : List Buffer)
    (hparts : ∀ part ∈ parts, part.length ≤ chunkBytes) :
    (utf16Decoder sqlite encoding chunkBytes).run pending parts
      = (sqlite.castText (pending ++ parts.flatten)).map fun text => (text, []) := by
  induction parts generalizing pending with
  | nil =>
      rw [List.flatten_nil, List.append_nil]
      exact utf16Decode_flush h chunkBytes pending
  | cons part parts ih =>
      obtain ⟨hpart, hrest⟩ := List.forall_mem_cons.mp hparts
      obtain ⟨cut, hdecode, hsplit⟩ := @utf16Decode_stream _ _ chunkBytes h pending part hpart
      rw [List.flatten_cons, ← List.append_assoc, hsplit]
      cases hvalue : sqlite.castText ((pending ++ part).take cut) with
      | none =>
          rw [hvalue] at hdecode
          exact Decoder.run_cons_none hdecode parts
      | some value =>
          rw [hvalue] at hdecode
          refine (Decoder.run_cons_some hdecode parts).trans ?_
          rw [ih _ hrest]
          cases sqlite.castText ((pending ++ part).drop cut ++ parts.flatten) with
          | none => rfl
          | some rest => rfl

/-- What a whole stored text is decoded to. -/
def wholeText (sqlite : Sqlite) : Encoding → Buffer → Option JsText
  | .utf8, bytes => some (utf8Machine.whole bytes)
  | _, bytes => sqlite.castText bytes

/-- In every encoding the parts decode to what the whole text decodes to. -/
theorem createInvoiceHistoryTextDecoder_decodes
    (h : encoding ≠ .utf8 → ReadsCharacters sqlite encoding) :
    Decodes (createInvoiceHistoryTextDecoder sqlite chunkBytes encoding)
      (fun part => part.length ≤ chunkBytes) (wholeText sqlite encoding) where
  run parts hparts := by
    cases encoding with
    | utf8 => exact utf8Machine.run_eq utf8Machine.initial parts
    | utf16le => exact utf16_run (h (by simp)) [] parts hparts
    | utf16be => exact utf16_run (h (by simp)) [] parts hparts

/-! ## A build that replaces invalid text -/

/-- The unit of `first` and `second`, a pair as the character it stands for, and U+FFFD for a
    surrogate that has no partner. -/
def readUtf16 (encoding : Encoding) : Buffer → JsText
  | first :: second :: rest =>
      let unit := encoding.codeUnit first second
      if 0xD800 ≤ unit ∧ unit < 0xDC00 then
        match rest with
        | third :: fourth :: behind =>
            let low := encoding.codeUnit third fourth
            if isLow low then
              codeUnits (unit % 1024 * 1024 + low % 1024 + 65536) ++ readUtf16 encoding behind
            else replacement ++ readUtf16 encoding (third :: fourth :: behind)
        | _ => replacement
      else if isLow unit then replacement ++ readUtf16 encoding rest
      else codeUnits unit ++ readUtf16 encoding rest
  | _ => []

theorem readUtf16_single {a b : UInt8}
    (h : ¬ (0xD800 ≤ encoding.codeUnit a b ∧ encoding.codeUnit a b < 0xDC00)) (rest : Buffer) :
    readUtf16 encoding (a :: b :: rest)
      = (if isLow (encoding.codeUnit a b) then replacement
          else codeUnits (encoding.codeUnit a b)) ++ readUtf16 encoding rest := by
  rw [readUtf16.eq_def]
  dsimp only
  rw [if_neg h]
  split
  · rfl
  · rfl

/-- A SQLite that replaces what is not well formed. -/
def replacingSqlite (encoding : Encoding) : Sqlite where
  replaceInvalid := true
  castText bytes := some (readUtf16 encoding bytes)

theorem replacingSqlite_reads (encoding : Encoding) :
    ReadsCharacters (replacingSqlite encoding) encoding where
  empty := rfl
  character first rest hfirst := by
    show some (readUtf16 encoding (first ++ rest))
      = some (readUtf16 encoding first ++ readUtf16 encoding rest)
    congr 1
    cases hfirst with
    | @unit a b rest h =>
        have hhigh : ¬ (0xD800 ≤ encoding.codeUnit a b ∧ encoding.codeUnit a b < 0xDC00) := by
          omega
        have hlow : isLow (encoding.codeUnit a b) = false := decide_eq_false (by omega)
        show readUtf16 encoding (a :: b :: rest)
          = readUtf16 encoding (a :: b :: []) ++ readUtf16 encoding rest
        rw [readUtf16_single hhigh, readUtf16_single hhigh, hlow]
        simp [readUtf16]
    | anyPair hreplace h => exact nomatch hreplace
    | pair _ h hlow => simp [readUtf16, h, hlow]
    | @loneLow a b rest _ h =>
        have hhigh : ¬ (0xD800 ≤ encoding.codeUnit a b ∧ encoding.codeUnit a b < 0xDC00) := by
          omega
        have hlow : isLow (encoding.codeUnit a b) = true := decide_eq_true h
        simp [readUtf16_single hhigh, hlow, readUtf16]
    | loneHigh _ h hlow => simp [readUtf16, h, hlow]

end InvoiceHistoryText
