import Eky.AsciiLines
import Eky.Fallible

/-! # The message data of a mail delivery

    `encodeSmtpData` prepares a message for the transfer: a dot is put in front of every
    line that begins with one, and a line of a single dot ends the data.

    A receiver reads up to that line and takes the dots away again (`receiveData`).  It gets
    the message back (`receiveData_of_encoded`), and there is no other place at which it
    could take the data for finished (`terminator_iff`). -/

namespace SmtpData

open AsciiLines Fallible

/-! ## Errors of a delivery -/

/-- The errors of the transport. -/
inductive SmtpErrorCode
  | authenticationFailed
  | authenticationUnavailable
  | connectionClosed
  | connectionFailed
  | dataRejected
  | envelopeRejected
  | greetingRejected
  | outcomeUnknown
  | protocolError
  | timeout
  | tlsFailed
  deriving DecidableEq

/-- Whether the mail may have been sent. -/
inductive SmtpFailureOutcome
  | failed
  | outcomeUnknown
  deriving DecidableEq

/-- An error, where it arose, and its outcome. -/
structure SmtpTransportError where
  code : SmtpErrorCode
  phase : String
  outcome : SmtpFailureOutcome := .failed
  deriving DecidableEq

/-- The error of this file. -/
def protocolError : SmtpTransportError := { code := .protocolError, phase := "data" }

/-! ## Encoding -/

/-- A line break. -/
def crlf : Text := ['\r', '\n']

/-- The end of the data. -/
def crlfDotCrlf : Text := ['\r', '\n', '.', '\r', '\n']

/-- ASCII without NUL. -/
def assertAsciiBytes (value : Buffer) : Except SmtpTransportError Unit :=
  value.forM fun byte => throwIf (byte.toNat > 0x7f ∨ byte = 0) protocolError

/-- The character in front of an index; there is none in front of the first. -/
def previous? (value : Text) (index : Nat) : Option Char :=
  if index = 0 then none else value[index - 1]?

/-- CR and LF only together. -/
def assertCanonicalCrlf (value : Text) : Except SmtpTransportError Unit := do
  (List.range value.length).forM fun index => do
    throwIf (value[index]? = some '\r' ∧ value[index + 1]? ≠ some '\n') protocolError
    throwIf (value[index]? = some '\n' ∧ previous? value index ≠ some '\r') protocolError
  throwIf (['\r'] <:+ value) protocolError

/-- A second dot before a dot. -/
def stuffLine (line : Text) : Text := if ['.'] <+: line then '.' :: line else line

/-- The data as it is sent. -/
def encodeSmtpData (message : Buffer) : Except SmtpTransportError Buffer := do
  assertAsciiBytes message
  let source := asciiText message
  assertCanonicalCrlf source
  throwIf (crlfDotCrlf <:+ source) protocolError
  let canonicalMessage := if crlf <:+ source then source else source ++ crlf
  let dotStuffedMessage := joinLines ((splitLines canonicalMessage).map stuffLine)
  .ok (asciiBytes (dotStuffedMessage ++ ['.', '\r', '\n']))

/-! ## Receiving -/

/-- What a server makes of a line. -/
def unstuffLine (line : Text) : Text := if ['.'] <+: line then line.tail else line

/-- The lines up to the single dot, behind which nothing but the end of its line may
    follow. -/
def receiveLines : List Text → Option (List Text)
  | [] => none
  | line :: rest =>
      if line = ['.'] then if rest = [[]] then some [] else none
      else (receiveLines rest).map (unstuffLine line :: ·)

/-- The message that a receiver takes from the data: every line of it has its CRLF. -/
def receiveData (data : Buffer) : Option Buffer :=
  (receiveLines (splitLines (asciiText data))).map fun lines =>
    asciiBytes (joinLines (lines ++ [[]]))

/-! ## What is accepted -/

/-- A message of characters from 1 to 127 whose line ends are canonical and that does not
    seem to be terminated already. -/
structure Acceptable (message : Buffer) : Prop where
  sevenBit : ∀ byte ∈ message, byte.toNat < 128
  noNul : 0 ∉ message
  canonical : CanonicalCrlf (asciiText message)
  unterminated : ¬ crlfDotCrlf <:+ asciiText message

theorem assertAsciiBytes_eq_ok {value : Buffer} {u : Unit} :
    assertAsciiBytes value = .ok u ↔ (∀ byte ∈ value, byte.toNat < 128) ∧ 0 ∉ value := by
  rw [assertAsciiBytes, forM_eq_ok]
  simp only [throwIf_eq_ok, not_or, not_lt]
  constructor
  · intro h
    refine ⟨fun byte hbyte => ?_, fun hzero => (h 0 hzero).2 rfl⟩
    have hle := (h byte hbyte).1
    omega
  · rintro ⟨hseven, hzero⟩ byte hbyte
    have hlt := hseven byte hbyte
    exact ⟨by omega, fun he => hzero (he ▸ hbyte)⟩

variable {lines : List Text} {line : Text} {c : Char}

theorem previous?_eq_some {value : Text} {index : Nat} :
    previous? value index = some c ↔ ∃ j, index = j + 1 ∧ value[j]? = some c := by
  cases index with
  | zero =>
      rw [previous?, if_pos rfl]
      refine iff_of_false (fun h => nomatch h) ?_
      rintro ⟨j, hj, -⟩
      exact nomatch hj
  | succ i =>
      rw [previous?, if_neg (Nat.succ_ne_zero i), Nat.add_sub_cancel]
      refine ⟨fun h => ⟨i, rfl, h⟩, ?_⟩
      rintro ⟨j, hj, h⟩
      obtain rfl : i = j := by omega
      exact h

theorem assertCanonicalCrlf_eq_ok {value : Text} {u : Unit} :
    assertCanonicalCrlf value = .ok u ↔ CanonicalCrlf value := by
  simp only [assertCanonicalCrlf, bind_eq_ok, forM_eq_ok, throwIf_eq_ok, List.mem_range,
    exists_and_right, exists_const, not_and, not_not, previous?_eq_some]
  constructor
  · rintro ⟨hloop, -⟩
    refine ⟨fun i hi => ?_, fun i hi => ?_⟩
    · exact (hloop i (List.getElem?_eq_some_iff.mp hi).1).1 hi
    · exact (hloop i (List.getElem?_eq_some_iff.mp hi).1).2 hi
  · intro h
    refine ⟨fun i _ => ⟨h.1 i, h.2 i⟩, ?_⟩
    -- a return at the very end would have to be followed by a line feed
    rintro ⟨first, rfl⟩
    have hlast : (first ++ ['\r'])[first.length]? = some '\r' := List.getElem?_concat_length
    have hbehind := h.1 first.length hlast
    rw [List.getElem?_eq_none (by simp)] at hbehind
    cases hbehind

/-! ## The lines of a message -/

/-- The message without the end of its last line. -/
def withoutFinalCrlf (text : Text) : Text :=
  if crlf <:+ text then text.take (text.length - 2) else text

theorem canonicalMessage_eq (text : Text) :
    (if crlf <:+ text then text else text ++ crlf) = withoutFinalCrlf text ++ crlf := by
  rw [withoutFinalCrlf]
  by_cases hend : crlf <:+ text
  · obtain ⟨first, rfl⟩ := hend
    have hlength : (first ++ crlf).length - 2 = first.length := by
      rw [List.length_append]
      exact Nat.add_sub_cancel _ 2
    rw [if_pos (List.suffix_append first crlf), if_pos (List.suffix_append first crlf), hlength,
      List.take_left' rfl]
  · rw [if_neg hend, if_neg hend]

theorem splitLines_append_crlf (text : Text) :
    splitLines (text ++ crlf) = splitLines text ++ [[]] :=
  splitLines_append text []

/-- The lines that are sent in front of the single dot. -/
def messageLines (message : Buffer) : List Text :=
  splitLines (withoutFinalCrlf (asciiText message))

theorem messageLines_ne_nil (message : Buffer) : messageLines message ≠ [] :=
  (joinLines_splitLines _).2

theorem splitLines_canonicalMessage (text : Text) :
    splitLines (if crlf <:+ text then text else text ++ crlf)
      = splitLines (withoutFinalCrlf text) ++ [[]] := by
  rw [canonicalMessage_eq, splitLines_append_crlf]

theorem unbroken_of_mem_messageLines {message : Buffer} (h : CanonicalCrlf (asciiText message))
    (hline : line ∈ messageLines message) : Unbroken line := by
  by_cases hend : crlf <:+ asciiText message
  · have hlines := splitLines_canonicalMessage (asciiText message)
    rw [if_pos hend] at hlines
    refine unbroken_of_mem_splitLines h ?_
    rw [hlines]
    exact List.mem_append_left _ hline
  · rw [messageLines, withoutFinalCrlf, if_neg hend] at hline
    exact unbroken_of_mem_splitLines h hline

/-- Lines that are each ended by a CRLF. -/
theorem joinLines_ended (h : lines ≠ []) : joinLines (lines ++ [[]]) = joinLines lines ++ crlf := by
  rw [joinLines_append h (List.cons_ne_nil _ _)]
  rfl

theorem joinLines_messageLines (message : Buffer) :
    joinLines (messageLines message ++ [[]])
      = withoutFinalCrlf (asciiText message) ++ crlf := by
  rw [joinLines_ended (messageLines_ne_nil message), messageLines, (joinLines_splitLines _).1]

/-- The text of the data: the lines with their dots, then a single dot. -/
def dataText (lines : List Text) : Text := joinLines (lines.map stuffLine ++ [['.'], []])

theorem dataText_eq (h : lines ≠ []) :
    joinLines ((lines ++ [[]]).map stuffLine) ++ ['.', '\r', '\n'] = dataText lines := by
  have hmap : lines.map stuffLine ≠ [] := fun he => h (List.map_eq_nil_iff.mp he)
  have hempty : [([] : Text)].map stuffLine = [[]] := rfl
  rw [dataText, List.map_append, hempty, joinLines_ended hmap,
    joinLines_append hmap (List.cons_ne_nil _ _), List.append_assoc]
  rfl

/-- An acceptable message is encoded, and no other is. -/
theorem encodeSmtpData_eq_ok {message data : Buffer} :
    encodeSmtpData message = .ok data
      ↔ Acceptable message ∧ data = asciiBytes (dataText (messageLines message)) := by
  simp only [encodeSmtpData, bind_eq_ok, assertAsciiBytes_eq_ok, assertCanonicalCrlf_eq_ok,
    throwIf_eq_ok, exists_and_right, exists_const, splitLines_canonicalMessage]
  rw [← messageLines, dataText_eq (messageLines_ne_nil message)]
  constructor
  · rintro ⟨⟨hseven, hnul⟩, hcanonical, hend, he⟩
    exact ⟨⟨hseven, hnul, hcanonical, hend⟩, (Except.ok.inj he).symm⟩
  · rintro ⟨h, rfl⟩
    exact ⟨⟨h.sevenBit, h.noNul⟩, h.canonical, h.unterminated, rfl⟩

/-! ## What is received -/

theorem unstuffLine_stuffLine (line : Text) : unstuffLine (stuffLine line) = line := by
  rw [stuffLine]
  split
  · rw [unstuffLine, if_pos ⟨line, rfl⟩]
    rfl
  · rename_i h
    rw [unstuffLine, if_neg h]

theorem stuffLine_ne_dot (line : Text) : stuffLine line ≠ ['.'] := by
  rw [stuffLine]
  split
  · rename_i h
    obtain ⟨rest, rfl⟩ := h
    exact fun he => nomatch he
  · rename_i h
    rintro rfl
    exact h ⟨[], rfl⟩

theorem unbroken_stuffLine (h : Unbroken line) : Unbroken (stuffLine line) := by
  rw [stuffLine]
  split
  · intro c hc
    rcases List.mem_cons.mp hc with rfl | hc
    · decide
    · exact h c hc
  · exact h

theorem isAscii_stuffLine (h : IsAscii line) : IsAscii (stuffLine line) := by
  rw [stuffLine]
  split
  · intro c hc
    rcases List.mem_cons.mp hc with rfl | hc
    · decide
    · exact h c hc
  · exact h

theorem receiveLines_stuffed (lines : List Text) :
    receiveLines (lines.map stuffLine ++ [['.'], []]) = some lines := by
  induction lines with
  | nil => rfl
  | cons line lines ih =>
      rw [List.map_cons, List.cons_append, receiveLines, if_neg (stuffLine_ne_dot line), ih,
        Option.map_some, unstuffLine_stuffLine]

section Encoded

variable {message data : Buffer}

theorem unbroken_dataLines (h : Acceptable message) :
    ∀ line ∈ (messageLines message).map stuffLine ++ [['.'], []], Unbroken line := by
  intro line hline
  rcases List.mem_append.mp hline with hline | hline
  · obtain ⟨source, hsource, rfl⟩ := List.mem_map.mp hline
    exact unbroken_stuffLine (unbroken_of_mem_messageLines h.canonical hsource)
  · rcases List.mem_cons.mp hline with rfl | hline
    · intro c hc
      obtain rfl := List.mem_singleton.mp hc
      decide
    · obtain rfl := List.mem_singleton.mp hline
      exact unbroken_nil

theorem mem_of_mem_splitLines {text : Text} (hline : line ∈ splitLines text) (hc : c ∈ line) :
    c ∈ text := by
  induction text using splitLines.induct generalizing line with
  | case1 =>
      obtain rfl := List.mem_singleton.mp hline
      exact hc
  | case2 d =>
      obtain rfl := List.mem_singleton.mp hline
      exact hc
  | case3 d e rest hbreak ih =>
      rw [splitLines, if_pos hbreak] at hline
      rcases List.mem_cons.mp hline with rfl | hline
      · cases hc
      · exact List.mem_cons_of_mem d (List.mem_cons_of_mem e (ih hline hc))
  | case4 d e rest hbreak ih =>
      obtain ⟨first, lines, hsplit⟩ :=
        List.exists_cons_of_ne_nil (joinLines_splitLines (e :: rest)).2
      rw [splitLines, if_neg hbreak, hsplit] at hline
      rw [hsplit] at ih
      rcases List.mem_cons.mp hline with rfl | hline
      · rcases List.mem_cons.mp hc with rfl | hc
        · exact List.mem_cons_self
        · exact List.mem_cons_of_mem d (ih List.mem_cons_self hc)
      · exact List.mem_cons_of_mem d (ih (List.mem_cons_of_mem first hline) hc)

theorem isAscii_withoutFinalCrlf (message : Buffer) :
    IsAscii (withoutFinalCrlf (asciiText message)) := by
  rw [withoutFinalCrlf]
  split
  · exact fun c hc => isAscii_asciiText message c (List.mem_of_mem_take hc)
  · exact isAscii_asciiText message

theorem isAscii_dataText (message : Buffer) : IsAscii (dataText (messageLines message)) := by
  refine isAscii_joinLines fun line hline => ?_
  rcases List.mem_append.mp hline with hline | hline
  · obtain ⟨source, hsource, rfl⟩ := List.mem_map.mp hline
    exact isAscii_stuffLine fun c hc =>
      isAscii_withoutFinalCrlf message c (mem_of_mem_splitLines hsource hc)
  · rcases List.mem_cons.mp hline with rfl | hline
    · intro c hc
      obtain rfl := List.mem_singleton.mp hc
      decide
    · obtain rfl := List.mem_singleton.mp hline
      exact fun c hc => nomatch hc

/-- The receiver gets the message with the end of its last line. -/
theorem receiveData_of_encoded (h : encodeSmtpData message = .ok data) :
    receiveData data = some (asciiBytes (withoutFinalCrlf (asciiText message) ++ crlf)) := by
  obtain ⟨hacceptable, rfl⟩ := encodeSmtpData_eq_ok.mp h
  have hne : (messageLines message).map stuffLine ++ [['.'], []] ≠ [] :=
    List.append_ne_nil_of_right_ne_nil _ (List.cons_ne_nil _ _)
  rw [receiveData, asciiText_asciiBytes (isAscii_dataText message), dataText,
    splitLines_joinLines hne (unbroken_dataLines hacceptable), receiveLines_stuffed,
    Option.map_some, joinLines_messageLines]

/-! ## Where the data ends -/

theorem terminator_length (lines : List Text) :
    3 ≤ (joinLines (lines ++ [['.'], []])).length := by
  cases lines with
  | nil => decide
  | cons line lines =>
      rw [joinLines_append (List.cons_ne_nil _ _) (List.cons_ne_nil _ _), List.length_append]
      have hend : ('\r' :: '\n' :: joinLines [['.'], []]).length = 5 := rfl
      omega

/-- A line of a single dot follows only at the end. -/
theorem dotLine_iff (hunbroken : ∀ line ∈ lines, Unbroken line)
    (hdot : ∀ line ∈ lines, line ≠ ['.']) : ['.', '\r', '\n'] <+: joinLines (lines ++ [['.'], []])
      ↔ (joinLines (lines ++ [['.'], []])).length = 3 := by
  cases lines with
  | nil => exact iff_of_true ⟨[], rfl⟩ rfl
  | cons line lines =>
      have hne : lines ++ [['.'], []] ≠ [] :=
        List.append_ne_nil_of_right_ne_nil _ (List.cons_ne_nil _ _)
      have hlength := terminator_length lines
      rw [List.cons_append, joinLines_cons hne]
      refine iff_of_false ?_ (by simp only [List.length_append, List.length_cons]; omega)
      have hline := hunbroken line List.mem_cons_self
      match line, hline, hdot line List.mem_cons_self with
      | [], _, _ => exact fun hprefix => absurd (List.cons_prefix_cons.mp hprefix).1 (by decide)
      | [c], _, hne =>
          intro hprefix
          exact hne (congrArg (· :: []) (List.cons_prefix_cons.mp hprefix).1.symm)
      | c :: d :: rest, hline, _ =>
          intro hprefix
          have hrest := (List.cons_prefix_cons.mp hprefix).2
          have hd := hline d (List.mem_cons_of_mem c List.mem_cons_self)
          exact hd.1 (List.cons_prefix_cons.mp hrest).1.symm

theorem not_prefix_of_head {pattern text : Text} {d : Char} (h : c ≠ d) :
    ¬ (c :: pattern) <+: (d :: text) :=
  fun hprefix => h (List.cons_prefix_cons.mp hprefix).1

/-- The terminator is found at the end and nowhere else. -/
theorem terminator_iff (hunbroken : ∀ line ∈ lines, Unbroken line)
    (hdot : ∀ line ∈ lines, line ≠ ['.']) (i : Nat) :
    crlfDotCrlf <+: (joinLines (lines ++ [['.'], []])).drop i
      ↔ i + 5 = (joinLines (lines ++ [['.'], []])).length := by
  induction lines generalizing i with
  | nil =>
      refine iff_of_false (fun hprefix => ?_) (by simp [joinLines])
      have hle := hprefix.length_le
      rw [List.length_drop] at hle
      have hpattern : crlfDotCrlf.length = 5 := rfl
      have htext : (joinLines (([] : List Text) ++ [['.'], []])).length = 3 := rfl
      omega
  | cons line lines ih =>
      have hne : lines ++ [['.'], []] ≠ [] :=
        List.append_ne_nil_of_right_ne_nil _ (List.cons_ne_nil _ _)
      have htail := fun other hother => hunbroken other (List.mem_cons_of_mem line hother)
      have htailDot := fun other hother => hdot other (List.mem_cons_of_mem line hother)
      have hdotLine := dotLine_iff htail htailDot
      have ih := ih htail htailDot (i - (line.length + 2))
      have hlength := terminator_length lines
      have hfour : (joinLines (lines ++ [['.'], []])).length ≠ 4 := by
        cases lines with
        | nil => decide
        | cons other lines =>
            have := terminator_length lines
            rw [List.cons_append, joinLines_cons
              (List.append_ne_nil_of_right_ne_nil _ (List.cons_ne_nil _ _))]
            simp only [List.length_append, List.length_cons]
            omega
      rw [List.cons_append, joinLines_cons hne, List.length_append, List.length_cons,
        List.length_cons]
      -- the place lies within the line, at its end, between the two characters or behind
      rcases Nat.lt_trichotomy i line.length with hi | hi | hi
      · rw [List.drop_append_of_le_length (by omega), List.drop_eq_getElem_cons hi]
        refine iff_of_false (not_prefix_of_head ?_) (by omega)
        exact (hunbroken line List.mem_cons_self _ (List.getElem_mem hi)).1.symm
      · rw [List.drop_left' hi.symm]
        have hstep : crlfDotCrlf <+: '\r' :: '\n' :: joinLines (lines ++ [['.'], []])
            ↔ ['.', '\r', '\n'] <+: joinLines (lines ++ [['.'], []]) := by
          simp [crlfDotCrlf, List.cons_prefix_cons]
        rw [hstep, hdotLine]
        omega
      · obtain ⟨k, rfl⟩ := Nat.exists_eq_add_of_lt hi
        rw [Nat.add_assoc, List.drop_length_add_append]
        cases k with
        | zero =>
            refine iff_of_false (not_prefix_of_head (by decide)) ?_
            omega
        | succ k =>
            have hk : line.length + (k + 1) + 1 - (line.length + 2) = k := by omega
            rw [hk] at ih
            show crlfDotCrlf <+: List.drop k _ ↔ _
            rw [ih]
            omega

/-- The terminator stands in the data exactly once, at the end. -/
theorem terminator_of_encoded (h : encodeSmtpData message = .ok data) :
    ∃ i, i + 5 = data.length ∧ ∀ j, crlfDotCrlf <+: (asciiText data).drop j ↔ j = i := by
  obtain ⟨hacceptable, rfl⟩ := encodeSmtpData_eq_ok.mp h
  have hascii := isAscii_dataText message
  have hunbroken : ∀ line ∈ (messageLines message).map stuffLine, Unbroken line :=
    fun line hline => unbroken_dataLines hacceptable line (List.mem_append_left _ hline)
  have hdot : ∀ line ∈ (messageLines message).map stuffLine, line ≠ ['.'] := by
    intro line hline
    obtain ⟨source, -, rfl⟩ := List.mem_map.mp hline
    exact stuffLine_ne_dot source
  have hne : (messageLines message).map stuffLine ≠ [] :=
    fun he => messageLines_ne_nil message (List.map_eq_nil_iff.mp he)
  have hlength : (dataText (messageLines message)).length
      = (joinLines ((messageLines message).map stuffLine)).length + 5 := by
    rw [dataText, joinLines_append hne (List.cons_ne_nil _ _), List.length_append]
    rfl
  rw [asciiText_asciiBytes hascii, asciiBytes_eq_map hascii, List.length_map, hlength]
  refine ⟨_, rfl, fun j => ?_⟩
  have hiff := terminator_iff hunbroken hdot j
  rw [← dataText, hlength] at hiff
  rw [hiff]
  omega

/-! ## Messages with the same data -/

theorem asciiBytes_append (first rest : Text) :
    asciiBytes (first ++ rest) = asciiBytes first ++ asciiBytes rest := by
  rw [asciiBytes, List.flatMap_append, List.map_append]
  rfl

/-- Only the end of the last line can be told in two ways. -/
theorem eq_withoutFinalCrlf (h : Acceptable message) :
    message = asciiBytes (withoutFinalCrlf (asciiText message))
      ∨ message = asciiBytes (withoutFinalCrlf (asciiText message)) ++ asciiBytes crlf := by
  have hcanonical := canonicalMessage_eq (asciiText message)
  have hbytes := asciiBytes_asciiText h.sevenBit
  by_cases hend : crlf <:+ asciiText message
  · rw [if_pos hend] at hcanonical
    refine .inr ?_
    rw [← asciiBytes_append, ← hcanonical, hbytes]
  · rw [withoutFinalCrlf, if_neg hend, hbytes]
    exact .inl rfl

/-- Two messages with the same data differ at most in a CRLF at the end. -/
theorem eq_of_same_data {other : Buffer} (h : encodeSmtpData message = .ok data)
    (hother : encodeSmtpData other = .ok data) :
    message = other ∨ message = other ++ asciiBytes crlf
      ∨ other = message ++ asciiBytes crlf := by
  have hreceived := receiveData_of_encoded h
  rw [receiveData_of_encoded hother, asciiBytes_append, asciiBytes_append] at hreceived
  have hsame := List.append_cancel_right (Option.some.inj hreceived)
  rcases eq_withoutFinalCrlf (encodeSmtpData_eq_ok.mp h).1 with hm | hm
  · rcases eq_withoutFinalCrlf (encodeSmtpData_eq_ok.mp hother).1 with ho | ho
    · exact .inl (hm.trans (hsame.symm.trans ho.symm))
    · exact .inr (.inr (ho.trans (congrArg (· ++ _) (hsame.trans hm.symm))))
  · rcases eq_withoutFinalCrlf (encodeSmtpData_eq_ok.mp hother).1 with ho | ho
    · exact .inr (.inl (hm.trans (congrArg (· ++ _) (hsame.symm.trans ho.symm))))
    · exact .inl (hm.trans ((congrArg (· ++ _) hsame.symm).trans ho.symm))

end Encoded

end SmtpData
