import Eky.InvoiceHistoryText
import Eky.InvoiceMoney

/-! # Comparing two stored texts part by part

    Two cursors deliver the stored texts of one field in chunks.  Each side is decoded as far as
    its chunks go; what both sides have is compared and dropped, and what one side is ahead
    stays for the next round.  Neither text is ever held whole.

    - `readChunk`, `fill`, `compareLoop`: the two nested loops, which end because every
      round uses up chunks or text;
    - `Rest`: the text that is still to come on a side.  Reading a chunk keeps it
      (`readChunk_rest`), and dropping a common beginning takes the same off both sides;
    - `compareText_accepts`: accepted exactly when both texts decode and are equal, and then
      the cursors stand behind the texts and the decoders are fresh. -/

namespace RevisionPairs

open StreamDecoders InvoiceHistoryText
open InvoiceMoney (IsSafeInteger)

/-! ## Chunks and sides -/

/-- `typeof(value)` -/
inductive StorageKind
  | null
  | integer
  | real
  | text
  | blob
  deriving DecidableEq

/-- The columns of a scanned row that texts use. -/
structure PairChunk where
  ordinal : Int
  fieldIndex : Int
  byteOffset : Int
  kind : StorageKind
  byteLength : Int
  part : Option Buffer
  deriving DecidableEq

/-- The state of one side of the comparison. -/
structure Side (d : Decoder UInt16) where
  cursor : List PairChunk
  decoder : d.State
  initial : PairChunk
  next : PairChunk
  offset : Int
  text : JsText
  ended : Bool

variable {d : Decoder UInt16}

/-- The bytes of the next chunk, when it is the one that has to come. -/
def checkedPart (chunkBytes : Nat) (side : Side d) : Option Buffer :=
  let chunk := side.next
  if chunk.kind ≠ .text ∨ chunk.ordinal ≠ side.initial.ordinal
      ∨ chunk.fieldIndex ≠ side.initial.fieldIndex ∨ chunk.byteLength ≠ side.initial.byteLength
      ∨ ¬ IsSafeInteger chunk.byteLength ∨ chunk.byteLength < 0
      ∨ chunk.byteOffset ≠ side.offset then none
  else
    let part := if chunk.part = none ∧ chunk.byteLength = 0 then some [] else chunk.part
    part.filter fun part => part.length = min (chunkBytes : Int) (chunk.byteLength - side.offset)

/-- One round of the inner loop. -/
def readChunk (chunkBytes : Nat) (side : Side d) : Option (Side d) :=
  match checkedPart chunkBytes side with
  | none => none
  | some part =>
      let offset := side.offset + part.length
      match d.decode side.decoder part true with
      | none => none
      | some (text, decoder) =>
          if offset = side.next.byteLength then
            (d.decode decoder [] false).map fun (last, decoder) =>
              { side with offset, text := text ++ last, decoder, ended := true }
          else
            match side.cursor with
            | [] => none
            | next :: cursor => some { side with offset, text, decoder, cursor, next }

/-- The rounds that are left: the chunks to come and the one at hand. -/
def Side.pending (side : Side d) : Nat := side.cursor.length + if side.ended then 0 else 1

variable {chunkBytes : Nat} {laterX laterY later : List PairChunk} {side x y : Side d}
  {out : Option JsText}

theorem readChunk_pending {next : Side d} (hended : side.ended = false)
    (h : readChunk chunkBytes side = some next) : next.pending < side.pending := by
  unfold readChunk at h
  split at h
  · exact nomatch h
  · dsimp only at h
    split at h
    · exact nomatch h
    · split at h
      · obtain ⟨out, -, rfl⟩ := Option.map_eq_some_iff.mp h
        simp only [Side.pending, hended, if_true, Bool.false_eq_true, if_false]
        omega
      · split at h
        · exact nomatch h
        next hcursor =>
          obtain rfl := Option.some.inj h
          simp only [Side.pending, hended, hcursor, Bool.false_eq_true, if_false,
            List.length_cons]
          omega

/-- The inner loop: read until there is text or the end. -/
def fill (chunkBytes : Nat) (side : Side d) : Option (Side d) :=
  if _hopen : side.text = [] ∧ side.ended = false then
    match _hread : readChunk chunkBytes side with
    | none => none
    | some next => fill chunkBytes next
  else some side
termination_by side.pending
decreasing_by exact readChunk_pending _hopen.2 _hread

/-- The side after so many characters. -/
def Side.dropText (side : Side d) (count : Nat) : Side d :=
  { side with text := side.text.drop count }

/-- Ended, and everything compared. -/
def Side.isOver (side : Side d) : Bool := side.ended && side.text.isEmpty

/-- The inner loop makes progress or has nothing to do. -/
theorem fill_cases {filled : Side d} (h : fill chunkBytes side = some filled) :
    (filled = side ∨ filled.pending < side.pending)
      ∧ (filled.text ≠ [] ∨ filled.ended = true) := by
  fun_induction fill chunkBytes side with
  | case1 side hcontinue hread => exact nomatch h
  | case2 side hcontinue next hread ih =>
      have hless := readChunk_pending hcontinue.2 hread
      obtain ⟨hprogress, hdone⟩ := ih h
      refine ⟨.inr ?_, hdone⟩
      rcases hprogress with rfl | hprogress
      · exact hless
      · exact Nat.lt_trans hprogress hless
  | case3 side hdone =>
      obtain rfl := Option.some.inj h
      refine ⟨.inl rfl, ?_⟩
      by_cases htext : side.text = []
      · exact .inr (Bool.not_eq_false _ ▸ fun hended => hdone ⟨htext, hended⟩)
      · exact .inl htext

theorem isOver_iff : side.isOver = true ↔ side.ended = true ∧ side.text = [] := by
  rw [Side.isOver, Bool.and_eq_true, List.isEmpty_iff]

/-- One side has nothing more, the other one has. -/
def oneIsLonger (x y : Side d) : Bool :=
  (x.isOver && !y.text.isEmpty) || (y.isOver && !x.text.isEmpty)

/-- When nothing was read and the sides are neither over nor of different lengths, there was
    common text to drop. -/
theorem drops_text (hx : x.text ≠ [] ∨ x.ended = true) (hy : y.text ≠ [] ∨ y.ended = true)
    (hopen : ¬ ((x.dropText (min x.text.length y.text.length)).isOver
      && (y.dropText (min x.text.length y.text.length)).isOver) = true)
    (hsame : ¬ oneIsLonger (x.dropText (min x.text.length y.text.length))
      (y.dropText (min x.text.length y.text.length)) = true) :
    (x.dropText (min x.text.length y.text.length)).text.length
        + (y.dropText (min x.text.length y.text.length)).text.length
      < x.text.length + y.text.length := by
  cases hxtext : x.text with
  | nil =>
      -- the first side is over, so the second one is refused or over too
      have hxended : x.ended = true := hx.resolve_left (not_not.mpr hxtext)
      cases hytext : y.text with
      | nil =>
          have hyended : y.ended = true := hy.resolve_left (not_not.mpr hytext)
          simp [Side.isOver, Side.dropText, hxtext, hytext, hxended, hyended] at hopen
      | cons unit rest =>
          simp [oneIsLonger, Side.isOver, Side.dropText, hxtext, hytext, hxended] at hsame
  | cons first rest =>
      cases hytext : y.text with
      | nil =>
          have hyended : y.ended = true := hy.resolve_left (not_not.mpr hytext)
          simp [oneIsLonger, Side.isOver, Side.dropText, hxtext, hytext, hyended] at hsame
      | cons unit rest' =>
          simp only [Side.dropText, hxtext, hytext, List.length_drop, List.length_cons]
          omega

/-- The outer loop. -/
def compareLoop (chunkBytes : Nat) (x y : Side d) : Option (Side d × Side d) :=
  match _hx : fill chunkBytes x with
  | none => none
  | some x' =>
      match _hy : fill chunkBytes y with
      | none => none
      | some y' =>
          let count := min x'.text.length y'.text.length
          if x'.text.take count ≠ y'.text.take count then none
          else if _hopen : ((x'.dropText count).isOver && (y'.dropText count).isOver) = true then
            some (x'.dropText count, y'.dropText count)
          else if _hsame : oneIsLonger (x'.dropText count) (y'.dropText count) = true then none
          else compareLoop chunkBytes (x'.dropText count) (y'.dropText count)
termination_by (x.pending + y.pending, x.text.length + y.text.length)
decreasing_by
  obtain ⟨hprogressX, hdoneX⟩ := fill_cases _hx
  obtain ⟨hprogressY, hdoneY⟩ := fill_cases _hy
  have hpendingX : (x'.dropText count).pending = x'.pending := rfl
  have hpendingY : (y'.dropText count).pending = y'.pending := rfl
  rw [Prod.lex_def]
  dsimp only
  rw [hpendingX, hpendingY]
  have hdrop := drops_text hdoneX hdoneY _hopen _hsame
  rcases hprogressX with rfl | hlessX
  · rcases hprogressY with rfl | hlessY
    · exact .inr ⟨rfl, hdrop⟩
    · exact .inl (by omega)
  · rcases hprogressY with rfl | hlessY
    · exact .inl (by omega)
    · exact .inl (by omega)

/-- Where a comparison leaves the two cursors and decoders. -/
structure Compared (d : Decoder UInt16) where
  left : List PairChunk
  right : List PairChunk
  leftDecoder : d.State
  rightDecoder : d.State

/-- A side that has read nothing. -/
def startSide (cursor : List PairChunk) (decoder : d.State) (chunk : PairChunk) : Side d :=
  { cursor, decoder, initial := chunk, next := chunk, offset := 0, text := [], ended := false }

/-- Compares two texts chunk by chunk. -/
def compareText (chunkBytes : Nat) (left right : List PairChunk)
    (leftDecoder rightDecoder : d.State) (a b : PairChunk) : Option (Compared d) :=
  (compareLoop chunkBytes (startSide left leftDecoder a) (startSide right rightDecoder b)).map
    fun (x, y) => ⟨x.cursor, y.cursor, x.decoder, y.decoder⟩

/-! ## What the cursors deliver -/

/-- A chunk with the bytes `part` from `offset` on. -/
structure IsChunk (initial : PairChunk) (offset : Int) (part : Buffer) (chunk : PairChunk) :
    Prop where
  kind : chunk.kind = .text
  ordinal : chunk.ordinal = initial.ordinal
  fieldIndex : chunk.fieldIndex = initial.fieldIndex
  byteLength : chunk.byteLength = initial.byteLength
  byteOffset : chunk.byteOffset = offset
  /-- The driver may give an empty blob as null. -/
  part : chunk.part = some part ∨ chunk.part = none ∧ part = [] ∧ initial.byteLength = 0

/-- The chunks of a text from `offset` on: full ones, and a last one that ends it. -/
inductive Scans (chunkBytes : Nat) (initial : PairChunk) :
    Int → List Buffer → List PairChunk → Prop
  | last {offset : Int} {part : Buffer} {chunk : PairChunk} (hlength : part.length ≤ chunkBytes)
      (hend : offset + part.length = initial.byteLength)
      (hchunk : IsChunk initial offset part chunk) : Scans chunkBytes initial offset [part] [chunk]
  | more {offset : Int} {part : Buffer} {parts : List Buffer} {chunk : PairChunk}
      {chunks : List PairChunk} (hlength : part.length = chunkBytes)
      (hopen : offset + part.length < initial.byteLength)
      (hchunk : IsChunk initial offset part chunk)
      (hrest : Scans chunkBytes initial (offset + part.length) parts chunks) :
      Scans chunkBytes initial offset (part :: parts) (chunk :: chunks)

/-- The rows of a stored text: a first chunk and the chunks behind it hold its consecutive
    bytes. -/
structure StoredText (chunkBytes : Nat) (bytes : Buffer) (first : PairChunk)
    (rows : List PairChunk) : Prop where
  safe : IsSafeInteger first.byteLength
  byteLength : first.byteLength = bytes.length
  scans : ∃ parts, parts.flatten = bytes ∧ Scans chunkBytes first 0 parts (first :: rows)

theorem Scans.parts_le {initial : PairChunk} {offset : Int} {parts : List Buffer}
    {chunks : List PairChunk} (h : Scans chunkBytes initial offset parts chunks) :
    ∀ part ∈ parts, part.length ≤ chunkBytes := by
  induction h with
  | last hlength hend hchunk => exact fun part hpart => List.mem_singleton.mp hpart ▸ hlength
  | more hlength hopen hchunk hrest ih =>
      exact List.forall_mem_cons.mpr ⟨Nat.le_of_eq hlength, ih⟩

/-- A chunk that has to come passes the checks. -/
theorem checkedPart_of_isChunk {part : Buffer} (hsafe : IsSafeInteger side.initial.byteLength)
    (hoffset : 0 ≤ side.offset) (hchunk : IsChunk side.initial side.offset part side.next)
    (hlength : (part.length : Int)
      = min (chunkBytes : Int) (side.initial.byteLength - side.offset)) :
    checkedPart chunkBytes side = some part := by
  unfold checkedPart
  have hpart : side.next.part = some part ∨ side.next.part = none ∧ part = []
      ∧ side.next.byteLength = 0 := hchunk.byteLength ▸ hchunk.part
  have hnonneg : ¬ side.next.byteLength < 0 := by
    rw [hchunk.byteLength]
    omega
  rw [if_neg]
  · rcases hpart with hpart | ⟨hpart, rfl, hzero⟩
    · rw [hpart, if_neg fun h => (nomatch h.1), hchunk.byteLength]
      exact Option.filter_some_pos (decide_eq_true hlength)
    · rw [if_pos ⟨hpart, hzero⟩, hchunk.byteLength]
      exact Option.filter_some_pos (decide_eq_true hlength)
  · simp only [not_or, not_not]
    exact ⟨hchunk.kind, hchunk.ordinal, hchunk.fieldIndex, hchunk.byteLength,
      hchunk.byteLength ▸ hsafe, hnonneg, hchunk.byteOffset⟩

/-! ## The text that is still to come -/

/-- The text a side still holds and will read, or none when it does not decode.  `later` is
    what the cursor delivers behind it. -/
inductive Rest (chunkBytes : Nat) (later : List PairChunk) : Side d → Option JsText → Prop
  | reading {side : Side d} {parts : List Buffer} {rows : List PairChunk}
      (hended : side.ended = false) (hsafe : IsSafeInteger side.initial.byteLength)
      (hoffset : 0 ≤ side.offset)
      (hscans : Scans chunkBytes side.initial side.offset parts (side.next :: rows))
      (hcursor : side.cursor = rows ++ later)
      (hfresh : ∀ out, d.run side.decoder parts = some out → out.2 = d.initial) :
      Rest chunkBytes later side ((d.run side.decoder parts).map fun out => side.text ++ out.1)
  | over {side : Side d} (hended : side.ended = true) (hcursor : side.cursor = later)
      (hfresh : side.decoder = d.initial) : Rest chunkBytes later side (some side.text)

/-- A chunk leaves the rest of the text to be read. -/
theorem readChunk_rest (h : Rest chunkBytes later side out) (htext : side.text = [])
    (hended : side.ended = false) : (readChunk chunkBytes side = none → out = none)
      ∧ ∀ next, readChunk chunkBytes side = some next → Rest chunkBytes later next out := by
  cases h with
  | «over» hover => exact absurd (hended.symm.trans hover) Bool.false_ne_true
  | @reading parts rows _ hsafe hoffset hscans hcursor hfresh =>
      rw [htext]
      unfold readChunk
      cases hscans with
      | @last _ part _ hlength hend hchunk =>
          rw [checkedPart_of_isChunk hsafe hoffset hchunk (by omega)]
          dsimp only
          cases hdecode : d.decode side.decoder part true with
          | none =>
              rw [Decoder.run_cons_none hdecode]
              exact ⟨fun _ => rfl, fun next h => (nomatch h)⟩
          | some decoded =>
              obtain ⟨text, decoder⟩ := decoded
              rw [Decoder.run_cons_some hdecode] at hfresh ⊢
              rw [Decoder.run] at hfresh ⊢
              dsimp only
              rw [if_pos (hend.trans hchunk.byteLength.symm)]
              cases hflush : d.decode decoder [] false with
              | none => exact ⟨fun _ => rfl, fun next h => (nomatch h)⟩
              | some flushed =>
                  refine ⟨fun h => (nomatch h), fun next h => ?_⟩
                  obtain rfl := Option.some.inj h
                  rw [hflush] at hfresh
                  exact .over rfl hcursor (hfresh (prepend text flushed) rfl)
      | @more _ part parts _ chunks hlength hopen hchunk hrest =>
          rw [checkedPart_of_isChunk hsafe hoffset hchunk (by omega)]
          dsimp only
          cases hdecode : d.decode side.decoder part true with
          | none =>
              rw [Decoder.run_cons_none hdecode]
              exact ⟨fun _ => rfl, fun next h => (nomatch h)⟩
          | some decoded =>
              obtain ⟨text, decoder⟩ := decoded
              rw [Decoder.run_cons_some hdecode] at hfresh ⊢
              have hmore : ¬ side.offset + part.length = side.next.byteLength := by
                rw [hchunk.byteLength]
                omega
              dsimp only
              rw [if_neg hmore]
              -- there is a chunk behind one that does not end the text
              obtain ⟨chunk, rest, rfl⟩ : ∃ chunk rest, rows = chunk :: rest := by
                cases hrest with
                | last => exact ⟨_, _, rfl⟩
                | more => exact ⟨_, _, rfl⟩
              rw [hcursor, List.cons_append]
              refine ⟨fun h => (nomatch h), fun next h => ?_⟩
              obtain rfl := Option.some.inj h
              rw [Option.map_map]
              refine .reading hended hsafe (Int.add_nonneg hoffset (Int.natCast_nonneg _)) hrest rfl
                fun out hout => ?_
              exact hfresh (prepend text out) (Option.map_eq_some_iff.mpr ⟨out, hout, rfl⟩)

theorem fill_rest (h : Rest chunkBytes later side out) : (fill chunkBytes side = none → out = none)
      ∧ ∀ filled, fill chunkBytes side = some filled → Rest chunkBytes later filled out := by
  fun_induction fill chunkBytes side with
  | case1 side hopen hread =>
      exact ⟨fun _ => (readChunk_rest h hopen.1 hopen.2).1 hread, fun filled h => (nomatch h)⟩
  | case2 side hopen next hread ih =>
      exact ih ((readChunk_rest h hopen.1 hopen.2).2 next hread)
  | case3 side hdone =>
      refine ⟨fun h => (nomatch h), fun filled hfilled => ?_⟩
      rw [← Option.some.inj hfilled]
      exact h

/-- A text that decodes begins with what the side holds. -/
theorem Rest.text_begins {text : JsText} (h : Rest chunkBytes later side (some text)) :
    side.text <+: text := by
  generalize hout : some text = out at h
  cases h with
  | reading hended hsafe hoffset hscans hcursor hfresh =>
      obtain ⟨rest, -, hrest⟩ := Option.map_eq_some_iff.mp hout.symm
      exact ⟨rest.1, hrest⟩
  | «over» hended hcursor hfresh =>
      exact Option.some.inj hout ▸ List.prefix_rfl

theorem Rest.dropText (h : Rest chunkBytes later side out) {count : Nat}
    (hcount : count ≤ side.text.length) :
    Rest chunkBytes later (side.dropText count) (out.map (·.drop count)) := by
  cases h with
  | @reading parts _ hended hsafe hoffset hscans hcursor hfresh =>
      have hdrop : ((d.run side.decoder parts).map fun out => side.text ++ out.1).map
            (·.drop count)
          = (d.run side.decoder parts).map fun out => (side.dropText count).text ++ out.1 := by
        rw [Option.map_map]
        refine congrArg (fun f => Option.map f _) (funext fun out => ?_)
        exact List.drop_append_of_le_length hcount
      rw [hdrop]
      exact .reading hended hsafe hoffset hscans hcursor hfresh
  | «over» hended hcursor hfresh => exact .over hended hcursor hfresh

/-- A side that is over has nothing to come, and stands behind its text. -/
theorem Rest.of_isOver (h : Rest chunkBytes later side out) (hover : side.isOver = true) :
    out = some [] ∧ side.cursor = later ∧ side.decoder = d.initial := by
  obtain ⟨hended, htext⟩ := isOver_iff.mp hover
  cases h with
  | reading hopen => exact absurd (hopen.symm.trans hended) Bool.false_ne_true
  | «over» _ hcursor hfresh => exact ⟨congrArg some htext, hcursor, hfresh⟩

/-! ## The comparison -/

/-- Both texts decode, and are equal. -/
def SameText (first second : Option JsText) : Prop :=
  ∃ text, first = some text ∧ second = some text

/-- Dropping a common beginning decides nothing. -/
theorem sameText_drop {first second : Option JsText} {x y : JsText} {count : Nat}
    (hfirst : ∀ text, first = some text → x <+: text)
    (hsecond : ∀ text, second = some text → y <+: text) (hx : count ≤ x.length)
    (hy : count ≤ y.length) :
    SameText first second
      ↔ x.take count = y.take count
        ∧ SameText (first.map (·.drop count)) (second.map (·.drop count)) := by
  -- what is taken off a text is taken off what the side holds of it
  have htake : ∀ {held text : JsText}, held <+: text → count ≤ held.length →
      text.take count = held.take count := by
    rintro held text ⟨rest, rfl⟩ hle
    exact List.take_append_of_le_length hle
  constructor
  · rintro ⟨text, rfl, rfl⟩
    refine ⟨?_, text.drop count, rfl, rfl⟩
    rw [← htake (hfirst text rfl) hx, ← htake (hsecond text rfl) hy]
  · rintro ⟨hcommon, rest, hfirstRest, hsecondRest⟩
    obtain ⟨left, rfl, hleft⟩ := Option.map_eq_some_iff.mp hfirstRest
    obtain ⟨right, rfl, hright⟩ := Option.map_eq_some_iff.mp hsecondRest
    refine ⟨left, rfl, congrArg some ?_⟩
    rw [← List.take_append_drop count right, ← List.take_append_drop count left,
      htake (hfirst left rfl) hx, htake (hsecond right rfl) hy, hcommon, hleft, hright]

/-- What both sides hold is taken off both texts. -/
theorem sameText_held {outX outY : Option JsText} (hx : Rest chunkBytes laterX x outX)
    (hy : Rest chunkBytes laterY y outY) : SameText outX outY
      ↔ x.text.take (min x.text.length y.text.length)
          = y.text.take (min x.text.length y.text.length)
        ∧ SameText (outX.map (·.drop (min x.text.length y.text.length)))
          (outY.map (·.drop (min x.text.length y.text.length))) := by
  refine sameText_drop ?_ ?_ (Nat.min_le_left ..) (Nat.min_le_right ..)
  · rintro text rfl
    exact hx.text_begins
  · rintro text rfl
    exact hy.text_begins

/-- A side that is over and one that still holds text do not come from one text. -/
theorem oneIsLonger_differs {text : JsText} (hx : Rest chunkBytes laterX x (some text))
    (hy : Rest chunkBytes laterY y (some text)) (h : oneIsLonger x y = true) : False := by
  have hempty : ∀ {later later' : List PairChunk} {closed open' : Side d},
      Rest chunkBytes later closed (some text) → Rest chunkBytes later' open' (some text) →
      (closed.isOver && !open'.text.isEmpty) = true → False := by
    intro later later' closed open' hover hopen hboth
    obtain ⟨hisOver, htext⟩ := (Bool.and_eq_true _ _).mp hboth
    obtain rfl := Option.some.inj (hover.of_isOver hisOver).1
    rw [List.prefix_nil.mp hopen.text_begins] at htext
    exact Bool.false_ne_true htext
  rcases (Bool.or_eq_true _ _).mp h with hleft | hright
  · exact hempty hx hy hleft
  · exact hempty hy hx hright

/-- The loop compares the texts up to the end of both. -/
theorem compareLoop_spec {outX outY : Option JsText} (hx : Rest chunkBytes laterX x outX)
    (hy : Rest chunkBytes laterY y outY) :
    (compareLoop chunkBytes x y = none → ¬ SameText outX outY)
      ∧ ∀ x' y', compareLoop chunkBytes x y = some (x', y') →
        SameText outX outY ∧ x'.cursor = laterX ∧ y'.cursor = laterY
          ∧ x'.decoder = d.initial ∧ y'.decoder = d.initial := by
  fun_induction compareLoop chunkBytes x y generalizing outX outY with
  | case1 x y hfill =>
      obtain rfl := (fill_rest hx).1 hfill
      exact ⟨fun _ ⟨text, h, _⟩ => (nomatch h), fun x' y' h => (nomatch h)⟩
  | case2 x y x' hfillX hfillY =>
      obtain rfl := (fill_rest hy).1 hfillY
      exact ⟨fun _ ⟨text, _, h⟩ => (nomatch h), fun x' y' h => (nomatch h)⟩
  | case3 =>
      rename_i x y x' hfillX y' hfillY count htake
      -- the common length differs already
      have hdrop := sameText_held ((fill_rest hx).2 x' hfillX) ((fill_rest hy).2 y' hfillY)
      exact ⟨fun _ hsame => htake (hdrop.mp hsame).1, fun x' y' h => (nomatch h)⟩
  | case4 =>
      rename_i x y x' hfillX y' hfillY count htake hover
      have hx' := (fill_rest hx).2 x' hfillX
      have hy' := (fill_rest hy).2 y' hfillY
      obtain ⟨hoverX, hoverY⟩ := (Bool.and_eq_true _ _).mp hover
      obtain ⟨houtX, hcursorX, hdecoderX⟩ :=
        (hx'.dropText (Nat.min_le_left ..)).of_isOver hoverX
      obtain ⟨houtY, hcursorY, hdecoderY⟩ :=
        (hy'.dropText (Nat.min_le_right ..)).of_isOver hoverY
      refine ⟨fun h => (nomatch h), fun left right h => ?_⟩
      obtain ⟨rfl, rfl⟩ := Prod.mk.inj (Option.some.inj h)
      refine ⟨(sameText_held hx' hy').mpr ⟨not_not.mp htake, [], houtX, houtY⟩, ?_⟩
      exact ⟨hcursorX, hcursorY, hdecoderX, hdecoderY⟩
  | case5 =>
      rename_i x y x' hfillX y' hfillY count htake hopen hlonger
      have hx' := (fill_rest hx).2 x' hfillX
      have hy' := (fill_rest hy).2 y' hfillY
      refine ⟨fun _ hsame => ?_, fun left right h => (nomatch h)⟩
      obtain ⟨-, text, hleft, hright⟩ := (sameText_held hx' hy').mp hsame
      have hrestX := hx'.dropText (Nat.min_le_left x'.text.length y'.text.length)
      have hrestY := hy'.dropText (Nat.min_le_right x'.text.length y'.text.length)
      rw [hleft] at hrestX
      rw [hright] at hrestY
      exact oneIsLonger_differs hrestX hrestY hlonger
  | case6 =>
      rename_i x y x' hfillX y' hfillY count htake hopen hsame ih
      have hx' := (fill_rest hx).2 x' hfillX
      have hy' := (fill_rest hy).2 y' hfillY
      have hdrop := sameText_held hx' hy'
      obtain ⟨hnone, hsome⟩ :=
        ih (hx'.dropText (Nat.min_le_left ..)) (hy'.dropText (Nat.min_le_right ..))
      refine ⟨fun h htext => hnone h (hdrop.mp htext).2, fun left right h => ?_⟩
      obtain ⟨htext, hstands⟩ := hsome left right h
      exact ⟨hdrop.mpr ⟨not_not.mp htake, htext⟩, hstands⟩

/-! ## Streaming is comparing whole texts -/

variable {sqlite : Sqlite} {encoding : Encoding}

/-- At the start everything is still to come. -/
theorem StoredText.rest {bytes : Buffer} {first : PairChunk} {rows : List PairChunk}
    (h : StoredText chunkBytes bytes first rows) {whole : Buffer → Option JsText}
    (hdecodes : Decodes d (fun part => part.length ≤ chunkBytes) whole) (later : List PairChunk) :
    Rest chunkBytes later (startSide (rows ++ later) d.initial first) (whole bytes) := by
  obtain ⟨parts, rfl, hscans⟩ := h.scans
  have hrun := hdecodes.run parts hscans.parts_le
  have hwhole : whole parts.flatten
      = (d.run d.initial parts).map fun out =>
          (startSide (rows ++ later) d.initial first).text ++ out.1 := by
    rw [hrun, Option.map_map]
    cases whole parts.flatten with
    | none => rfl
    | some text => rfl
  rw [hwhole]
  refine .reading rfl h.safe (Int.le_refl 0) hscans rfl fun out hout => ?_
  obtain ⟨text, -, rfl⟩ := Option.map_eq_some_iff.mp (hrun.symm.trans hout)
  rfl

/-- **STREAMING IS COMPARING WHOLE TEXTS.** Whatever the texts, the encoding and the size of the
    chunks: the comparison accepts exactly when both texts decode, to the same text, and then
    both cursors stand behind their text and both decoders are ready for the next field. -/
theorem compareText_accepts {chunkBytes : Nat} {leftBytes rightBytes : Buffer} {a b : PairChunk}
    {leftRows rightRows : List PairChunk}
    (hreads : encoding ≠ .utf8 → ReadsCharacters sqlite encoding)
    (hleft : StoredText chunkBytes leftBytes a leftRows)
    (hright : StoredText chunkBytes rightBytes b rightRows)
    (leftLater rightLater : List PairChunk) :
    let decoder := createInvoiceHistoryTextDecoder sqlite chunkBytes encoding
    let result := compareText chunkBytes (leftRows ++ leftLater) (rightRows ++ rightLater)
      decoder.initial decoder.initial a b
    (result.isSome = true
        ↔ ∃ text, wholeText sqlite encoding leftBytes = some text
          ∧ wholeText sqlite encoding rightBytes = some text)
      ∧ ∀ out, result = some out →
        out = ⟨leftLater, rightLater, decoder.initial, decoder.initial⟩ := by
  intro decoder result
  have hdecodes := @createInvoiceHistoryTextDecoder_decodes sqlite encoding chunkBytes hreads
  obtain ⟨hnone, hsome⟩ :=
    compareLoop_spec (hleft.rest hdecodes leftLater) (hright.rest hdecodes rightLater)
  cases hloop : compareLoop chunkBytes (startSide (leftRows ++ leftLater) decoder.initial a)
      (startSide (rightRows ++ rightLater) decoder.initial b) with
  | none =>
      have hresult : result = none := congrArg (Option.map _) hloop
      rw [hresult]
      refine ⟨?_, fun out h => (nomatch h)⟩
      exact ⟨fun h => absurd h Bool.false_ne_true, fun h => absurd h (hnone hloop)⟩
  | some sides =>
      obtain ⟨x, y⟩ := sides
      obtain ⟨hsame, rfl, rfl, hdecoderX, hdecoderY⟩ := hsome x y hloop
      have hresult : result = some ⟨x.cursor, y.cursor, x.decoder, y.decoder⟩ :=
        congrArg (Option.map _) hloop
      rw [hresult]
      refine ⟨⟨fun _ => hsame, fun _ => rfl⟩, fun out h => ?_⟩
      rw [← Option.some.inj h, hdecoderX, hdecoderY]

/-- A text of six bytes in chunks of three: the second chunk begins inside a surrogate pair. -/
def sampleChunk (offset : Int) (part : Buffer) : PairChunk :=
  ⟨0, 0, offset, .text, 6, some part⟩

theorem sample_storedText : StoredText 3 [0x61, 0x00, 0x3D, 0xD8, 0x00, 0xDE]
    (sampleChunk 0 [0x61, 0x00, 0x3D]) [sampleChunk 3 [0xD8, 0x00, 0xDE]] where
  safe := by decide
  byteLength := rfl
  scans := by
    refine ⟨[[0x61, 0x00, 0x3D], [0xD8, 0x00, 0xDE]], rfl, ?_⟩
    refine .more rfl (by decide) ⟨rfl, rfl, rfl, rfl, rfl, .inl rfl⟩ ?_
    exact .last (by decide) rfl ⟨rfl, rfl, rfl, rfl, rfl, .inl rfl⟩

/-- The pair is put together again on both sides. -/
theorem sample_compareText_accepts :
    (compareText (d := createInvoiceHistoryTextDecoder (replacingSqlite .utf16le) 3 .utf16le) 3
      [sampleChunk 3 [0xD8, 0x00, 0xDE]] [sampleChunk 3 [0xD8, 0x00, 0xDE]] [] []
      (sampleChunk 0 [0x61, 0x00, 0x3D]) (sampleChunk 0 [0x61, 0x00, 0x3D])).isSome = true := by
  refine (compareText_accepts (fun _ => replacingSqlite_reads .utf16le) sample_storedText
    sample_storedText [] []).1.mpr ?_
  exact ⟨[0x61, 0xD83D, 0xDE00], by decide, by decide⟩

end RevisionPairs
