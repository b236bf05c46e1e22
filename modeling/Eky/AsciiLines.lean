import Eky.Buffers
import Eky.JavaScript

/-! # Texts of 7-bit characters and their lines

    Mail protocols send texts as bytes below 128 whose lines end in a carriage return
    and a line feed.

    - `asciiBytes` and `asciiText`: such texts as bytes, and back;
    - `joinLines` and `splitLines`: lines with a CRLF between each two, and back;
    - `CanonicalCrlf`: neither character stands without the other.  The texts of this
      kind are the joins of lines that hold neither (`canonicalCrlf_iff`). -/

namespace AsciiLines

/-- A text as its characters. -/
abbrev Text := List Char

/-! ## Texts as bytes -/

/-- `Buffer.from(text, 'ascii')` keeps the low byte of every code unit. -/
def asciiBytes (text : Text) : Buffer :=
  (text.flatMap fun c => JavaScript.codeUnits c.toNat).map UInt8.ofNat

/-- `bytes.toString('ascii')` drops the highest bit of every byte. -/
def asciiText (bytes : Buffer) : Text := bytes.map fun byte => Char.ofNat (byte.toNat % 128)

/-- Every character is one of ASCII. -/
def IsAscii (text : Text) : Prop := ∀ c ∈ text, c.toNat < 128

theorem ofNat_toNat_of_lt {n : Nat} (h : n < 128) : (Char.ofNat n).toNat = n := by
  rw [Char.ofNat, dif_pos (Or.inl (by omega))]
  rfl

variable {lines : List Text} {text line : Text} {c : Char}

theorem asciiBytes_eq_map (h : IsAscii text) :
    asciiBytes text = text.map fun c => UInt8.ofNat c.toNat := by
  induction text with
  | nil => rfl
  | cons c rest ih =>
      have hc := h c List.mem_cons_self
      have hunits := @JavaScript.codeUnits_basic c.toNat (by omega)
      have hrest := ih fun d hd => h d (List.mem_cons_of_mem c hd)
      rw [asciiBytes] at hrest ⊢
      rw [List.flatMap_cons, hunits, List.map_append, hrest]
      rfl

theorem asciiText_asciiBytes (h : IsAscii text) : asciiText (asciiBytes text) = text := by
  rw [asciiBytes_eq_map h, asciiText, List.map_map]
  refine (List.map_congr_left fun c hc => ?_).trans (List.map_id text)
  have hlt := h c hc
  show Char.ofNat ((UInt8.ofNat c.toNat).toNat % 128) = c
  rw [UInt8.toNat_ofNat', Nat.mod_eq_of_lt (by omega : c.toNat < 2 ^ 8), Nat.mod_eq_of_lt hlt,
    Char.ofNat_toNat]

theorem isAscii_asciiText (bytes : Buffer) : IsAscii (asciiText bytes) := by
  intro c hc
  obtain ⟨byte, -, rfl⟩ := List.mem_map.mp hc
  have hlt : byte.toNat % 128 < 128 := Nat.mod_lt _ (by decide)
  rw [ofNat_toNat_of_lt hlt]
  exact hlt

theorem asciiBytes_asciiText {bytes : Buffer} (h : ∀ byte ∈ bytes, byte.toNat < 128) :
    asciiBytes (asciiText bytes) = bytes := by
  rw [asciiBytes_eq_map (isAscii_asciiText bytes), asciiText, List.map_map]
  refine (List.map_congr_left fun byte hbyte => ?_).trans (List.map_id bytes)
  have hlt := h byte hbyte
  show UInt8.ofNat (Char.ofNat (byte.toNat % 128)).toNat = byte
  rw [ofNat_toNat_of_lt (Nat.mod_lt _ (by decide)), Nat.mod_eq_of_lt hlt, UInt8.ofNat_toNat]

theorem lt_of_mem_asciiBytes {byte : UInt8} (h : IsAscii text) (hbyte : byte ∈ asciiBytes text) :
    byte.toNat < 128 := by
  rw [asciiBytes_eq_map h] at hbyte
  obtain ⟨c, hc, rfl⟩ := List.mem_map.mp hbyte
  have hlt := h c hc
  rw [UInt8.toNat_ofNat']
  omega

/-- The byte 0 stands for the character NUL. -/
theorem zero_mem_asciiBytes (h : IsAscii text) : 0 ∈ asciiBytes text ↔ (Char.ofNat 0) ∈ text := by
  rw [asciiBytes_eq_map h, List.mem_map]
  refine ⟨?_, fun hmem => ⟨_, hmem, rfl⟩⟩
  rintro ⟨c, hc, hzero⟩
  have hlt := h c hc
  have hnat := congrArg UInt8.toNat hzero
  rw [UInt8.toNat_ofNat', Nat.mod_eq_of_lt (by omega : c.toNat < 2 ^ 8)] at hnat
  have hchar : c = Char.ofNat 0 := Char.toNat_inj.mp hnat
  exact hchar ▸ hc

/-! ## Lines -/

/-- A line that holds neither character of a line end. -/
def Unbroken (line : Text) : Prop := ∀ c ∈ line, c ≠ '\r' ∧ c ≠ '\n'

/-- The lines with a CRLF between each two. -/
def joinLines : List Text → Text
  | [] => []
  | [line] => line
  | line :: next :: rest => line ++ '\r' :: '\n' :: joinLines (next :: rest)

/-- Puts a character in front of the first line. -/
def extendFirst (c : Char) : List Text → List Text
  | [] => [[c]]
  | line :: rest => (c :: line) :: rest

/-- `text.split('\r\n')` -/
def splitLines : Text → List Text
  | [] => [[]]
  | [c] => [[c]]
  | c :: d :: rest =>
      if c = '\r' ∧ d = '\n' then [] :: splitLines rest
      else extendFirst c (splitLines (d :: rest))

theorem unbroken_nil : Unbroken [] := fun _ h => nomatch h

theorem joinLines_cons {rest : List Text} (h : rest ≠ []) :
    joinLines (line :: rest) = line ++ '\r' :: '\n' :: joinLines rest := by
  cases rest with
  | nil => exact absurd rfl h
  | cons next rest => rfl

theorem joinLines_append {first rest : List Text} (hfirst : first ≠ []) (hrest : rest ≠ []) :
    joinLines (first ++ rest) = joinLines first ++ '\r' :: '\n' :: joinLines rest := by
  induction first with
  | nil => exact absurd rfl hfirst
  | cons line first ih =>
      by_cases hnil : first = []
      · rw [hnil, List.singleton_append, joinLines_cons hrest]
        rfl
      · have happend : first ++ rest ≠ [] := fun he => hnil (List.append_eq_nil_iff.mp he).1
        rw [List.cons_append, joinLines_cons happend, ih hnil, joinLines_cons hnil,
          List.append_assoc]
        rfl

/-- Joining blocks of lines joins all their lines. -/
theorem joinLines_map_joinLines {blocks : List (List Text)} (h : ∀ block ∈ blocks, block ≠ []) :
    joinLines (blocks.map joinLines) = joinLines blocks.flatten := by
  induction blocks with
  | nil => rfl
  | cons block blocks ih =>
      have hblock := h block List.mem_cons_self
      have hblocks := fun other hother => h other (List.mem_cons_of_mem block hother)
      by_cases hnil : blocks = []
      · rw [hnil, List.map_singleton, List.flatten_singleton]
        rfl
      · have hmap : blocks.map joinLines ≠ [] := fun he => hnil (List.map_eq_nil_iff.mp he)
        have hflatten : blocks.flatten ≠ [] := by
          obtain ⟨other, rest, rfl⟩ := List.exists_cons_of_ne_nil hnil
          intro he
          rw [List.flatten_cons, List.append_eq_nil_iff] at he
          exact hblocks other List.mem_cons_self he.1
        rw [List.map_cons, joinLines_cons hmap, ih hblocks, List.flatten_cons,
          joinLines_append hblock hflatten]

theorem mem_joinLines (h : c ∈ joinLines lines) :
    c = '\r' ∨ c = '\n' ∨ ∃ line ∈ lines, c ∈ line := by
  induction lines with
  | nil => exact nomatch h
  | cons line lines ih =>
      by_cases hnil : lines = []
      · rw [hnil] at h
        exact .inr (.inr ⟨line, List.mem_cons_self, h⟩)
      · rw [joinLines_cons hnil, List.mem_append, List.mem_cons, List.mem_cons] at h
        rcases h with h | h | h | h
        · exact .inr (.inr ⟨line, List.mem_cons_self, h⟩)
        · exact .inl h
        · exact .inr (.inl h)
        · rcases ih h with h | h | ⟨other, hother, h⟩
          · exact .inl h
          · exact .inr (.inl h)
          · exact .inr (.inr ⟨other, List.mem_cons_of_mem line hother, h⟩)

theorem isAscii_joinLines (h : ∀ line ∈ lines, IsAscii line) : IsAscii (joinLines lines) := by
  intro c hc
  rcases mem_joinLines hc with rfl | rfl | ⟨line, hline, hc⟩
  · decide
  · decide
  · exact h line hline c hc

theorem joinLines_splitLines (text : Text) :
    joinLines (splitLines text) = text ∧ splitLines text ≠ [] := by
  induction text using splitLines.induct with
  | case1 => exact ⟨rfl, List.cons_ne_nil _ _⟩
  | case2 c => exact ⟨rfl, List.cons_ne_nil _ _⟩
  | case3 c d rest hbreak ih =>
      rw [splitLines, if_pos hbreak, joinLines_cons ih.2, ih.1, hbreak.1, hbreak.2]
      exact ⟨rfl, List.cons_ne_nil _ _⟩
  | case4 c d rest hbreak ih =>
      obtain ⟨line, lines, hsplit⟩ := List.exists_cons_of_ne_nil ih.2
      rw [splitLines, if_neg hbreak, hsplit]
      rw [hsplit] at ih
      refine ⟨?_, List.cons_ne_nil _ _⟩
      rw [← ih.1]
      cases lines with
      | nil => rfl
      | cons next lines => rfl

theorem splitLines_cons (hc : c ≠ '\r') (rest : Text) :
    splitLines (c :: rest) = extendFirst c (splitLines rest) := by
  cases rest with
  | nil => rfl
  | cons d rest => rw [splitLines, if_neg fun h => hc h.1]

theorem splitLines_of_unbroken (h : Unbroken line) : splitLines line = [line] := by
  induction line with
  | nil => rfl
  | cons c line ih =>
      rw [splitLines_cons (h c List.mem_cons_self).1,
        ih fun d hd => h d (List.mem_cons_of_mem c hd)]
      rfl

theorem splitLines_crlf (rest : Text) :
    splitLines ('\r' :: '\n' :: rest) = [] :: splitLines rest := by
  rw [splitLines, if_pos ⟨rfl, rfl⟩]

/-- A text is split at a CRLF whatever stands around it. -/
theorem splitLines_append (first rest : Text) :
    splitLines (first ++ '\r' :: '\n' :: rest) = splitLines first ++ splitLines rest := by
  induction first using splitLines.induct with
  | case1 => exact splitLines_crlf rest
  | case2 c =>
      show (if c = '\r' ∧ '\r' = '\n' then _ else _) = _
      rw [if_neg fun h => absurd h.2 (by decide), splitLines_crlf]
      rfl
  | case3 c d first hbreak ih =>
      rw [List.cons_append, List.cons_append, splitLines, if_pos hbreak, splitLines,
        if_pos hbreak, ih]
      rfl
  | case4 c d first hbreak ih =>
      obtain ⟨line, lines, hsplit⟩ :=
        List.exists_cons_of_ne_nil (joinLines_splitLines (d :: first)).2
      rw [hsplit] at ih
      rw [List.cons_append, List.cons_append, splitLines, if_neg hbreak, splitLines,
        if_neg hbreak, hsplit, ← List.cons_append, ih]
      rfl

/-- Lines without a line end are found again. -/
theorem splitLines_joinLines (hne : lines ≠ []) (h : ∀ line ∈ lines, Unbroken line) :
    splitLines (joinLines lines) = lines := by
  induction lines with
  | nil => exact absurd rfl hne
  | cons line lines ih =>
      have hline := h line List.mem_cons_self
      by_cases hnil : lines = []
      · rw [hnil]
        exact splitLines_of_unbroken hline
      · rw [joinLines_cons hnil, splitLines_append, splitLines_of_unbroken hline,
          List.singleton_append, ih hnil fun other hother => h other (List.mem_cons_of_mem line hother)]

/-! ## Canonical line ends -/

/-- Every carriage return is followed by a line feed, every line feed preceded by a carriage
    return. -/
def CanonicalCrlf (text : Text) : Prop :=
  (∀ i, text[i]? = some '\r' → text[i + 1]? = some '\n')
    ∧ ∀ i, text[i]? = some '\n' → ∃ j, i = j + 1 ∧ text[j]? = some '\r'

theorem canonicalCrlf_nil : CanonicalCrlf [] := by
  constructor
  · intro i h
    rw [List.getElem?_nil] at h
    exact nomatch h
  · intro i h
    rw [List.getElem?_nil] at h
    exact nomatch h

theorem canonicalCrlf_cons (hr : c ≠ '\r') (hn : c ≠ '\n') :
    CanonicalCrlf (c :: text) ↔ CanonicalCrlf text := by
  constructor
  · intro h
    refine ⟨fun i hi => h.1 (i + 1) hi, fun i hi => ?_⟩
    obtain ⟨j, hj, hprevious⟩ := h.2 (i + 1) hi
    obtain rfl : i = j := by omega
    cases i with
    | zero => exact absurd (Option.some.inj hprevious) hr
    | succ i => exact ⟨i, rfl, hprevious⟩
  · intro h
    constructor
    · intro i hi
      cases i with
      | zero => exact absurd (Option.some.inj hi) hr
      | succ i => exact h.1 i hi
    · intro i hi
      cases i with
      | zero => exact absurd (Option.some.inj hi) hn
      | succ i =>
          obtain ⟨j, rfl, hprevious⟩ := h.2 i hi
          exact ⟨j + 1, rfl, hprevious⟩

theorem canonicalCrlf_crlf : CanonicalCrlf ('\r' :: '\n' :: text) ↔ CanonicalCrlf text := by
  constructor
  · intro h
    refine ⟨fun i hi => h.1 (i + 2) hi, fun i hi => ?_⟩
    obtain ⟨j, hj, hprevious⟩ := h.2 (i + 2) hi
    obtain rfl : j = i + 1 := by omega
    cases i with
    | zero => exact absurd (Option.some.inj hprevious) (by decide)
    | succ i => exact ⟨i, rfl, hprevious⟩
  · intro h
    constructor
    · intro i hi
      match i, hi with
      | 0, _ => rfl
      | 1, hi => exact absurd (Option.some.inj hi) (by decide)
      | i + 2, hi => exact h.1 i hi
    · intro i hi
      match i, hi with
      | 0, hi => exact absurd (Option.some.inj hi) (by decide)
      | 1, _ => exact ⟨0, rfl, rfl⟩
      | i + 2, hi =>
          obtain ⟨j, rfl, hprevious⟩ := h.2 i hi
          exact ⟨j + 2, rfl, hprevious⟩

theorem canonicalCrlf_append (h : Unbroken line) :
    CanonicalCrlf (line ++ text) ↔ CanonicalCrlf text := by
  induction line with
  | nil => rfl
  | cons c line ih =>
      have hc := h c List.mem_cons_self
      rw [List.cons_append, canonicalCrlf_cons hc.1 hc.2,
        ih fun d hd => h d (List.mem_cons_of_mem c hd)]

theorem canonicalCrlf_joinLines (h : ∀ line ∈ lines, Unbroken line) :
    CanonicalCrlf (joinLines lines) := by
  induction lines with
  | nil => exact canonicalCrlf_nil
  | cons line lines ih =>
      have hline := h line List.mem_cons_self
      by_cases hnil : lines = []
      · rw [hnil]
        have hcanonical : CanonicalCrlf (line ++ []) :=
          (canonicalCrlf_append hline).mpr canonicalCrlf_nil
        rwa [List.append_nil] at hcanonical
      · rw [joinLines_cons hnil, canonicalCrlf_append hline, canonicalCrlf_crlf]
        exact ih fun other hother => h other (List.mem_cons_of_mem line hother)

/-- In a canonical text no line end is left within a line. -/
theorem unbroken_of_mem_splitLines (h : CanonicalCrlf text) (hline : line ∈ splitLines text) :
    Unbroken line := by
  induction text using splitLines.induct generalizing line with
  | case1 =>
      obtain rfl := List.mem_singleton.mp hline
      exact unbroken_nil
  | case2 c =>
      obtain rfl := List.mem_singleton.mp hline
      intro d hd
      obtain rfl := List.mem_singleton.mp hd
      refine ⟨fun hr => ?_, fun hn => ?_⟩
      · exact nomatch h.1 0 (congrArg some hr)
      · obtain ⟨j, hj, -⟩ := h.2 0 (congrArg some hn)
        exact nomatch hj
  | case3 c d rest hbreak ih =>
      obtain ⟨rfl, rfl⟩ := hbreak
      rw [splitLines, if_pos ⟨rfl, rfl⟩] at hline
      rcases List.mem_cons.mp hline with rfl | hline
      · exact unbroken_nil
      · exact ih (canonicalCrlf_crlf.mp h) hline
  | case4 c d rest hbreak ih =>
      have hr : c ≠ '\r' := fun hr => hbreak ⟨hr, Option.some.inj (h.1 0 (congrArg some hr))⟩
      have hn : c ≠ '\n' := by
        intro hn
        obtain ⟨j, hj, -⟩ := h.2 0 (congrArg some hn)
        exact nomatch hj
      have ih := fun other hother => @ih other ((canonicalCrlf_cons hr hn).mp h) hother
      obtain ⟨first, lines, hsplit⟩ :=
        List.exists_cons_of_ne_nil (joinLines_splitLines (d :: rest)).2
      rw [splitLines, if_neg hbreak, hsplit] at hline
      rw [hsplit] at ih
      rcases List.mem_cons.mp hline with rfl | hline
      · intro e he
        rcases List.mem_cons.mp he with rfl | he
        · exact ⟨hr, hn⟩
        · exact ih first List.mem_cons_self e he
      · exact ih line (List.mem_cons_of_mem first hline)

/-- The canonical texts are the joins of lines without line ends. -/
theorem canonicalCrlf_iff : CanonicalCrlf text ↔
    ∃ lines, lines ≠ [] ∧ (∀ line ∈ lines, Unbroken line) ∧ text = joinLines lines := by
  constructor
  · intro h
    exact ⟨splitLines text, (joinLines_splitLines text).2,
      fun line hline => unbroken_of_mem_splitLines h hline, (joinLines_splitLines text).1.symm⟩
  · rintro ⟨lines, -, hlines, rfl⟩
    exact canonicalCrlf_joinLines hlines

end AsciiLines
