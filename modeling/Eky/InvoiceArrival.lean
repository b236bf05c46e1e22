import Mathlib
import Eky.InvoiceMimeProofs

/-! # The lines of a mailed invoice and what is read from them

    `mimeLines` lists the lines of a built message.  They are printable, at most 998
    characters long and never begin with a dot, and the readers of mail find in them the
    listed header fields and the two parts. -/

namespace InvoiceMime

open AsciiLines Fallible MailFormat SmtpData
open JavaScript (trim)

/-! ## The lines of the header -/

/-- The fields of the message, as they are read. -/
def mailFields (date messageId sender toAddress : Text) (cc : Option Text)
    (subject boundary : Text) : List Field :=
  [⟨"MIME-Version".toList, "1.0".toList⟩,
    ⟨"Date".toList, date⟩,
    ⟨"Message-ID".toList, '<' :: messageId ++ ['>']⟩,
    ⟨"From".toList, sender⟩,
    ⟨"To".toList, toAddress⟩]
    ++ (match cc with
        | none => []
        | some cc => [⟨"Cc".toList, cc⟩])
    ++ [⟨"Subject".toList, subject⟩,
      ⟨"Content-Type".toList, "multipart/mixed; boundary=\"".toList ++ boundary ++ ['"']⟩]

/-- The lines of each field. -/
def headerBlocks (date messageId : Text) (senderLines : List Text) (toAddress : Text)
    (cc : Option Text) (subjectLines : List Text) (boundary : Text) : List (List Text) :=
  [["MIME-Version: 1.0".toList],
    ["Date: ".toList ++ date],
    ["Message-ID: <".toList ++ messageId ++ ['>']],
    senderLines,
    ["To: ".toList ++ toAddress]]
    ++ (match cc with
        | none => []
        | some cc => [["Cc: ".toList ++ cc]])
    ++ [subjectLines,
      ["Content-Type: multipart/mixed; boundary=\"".toList ++ boundary ++ ['"']]]

/-- What goes into the header. -/
structure HeaderTexts where
  date : Text
  messageId : Text
  senderWords : List Text
  senderEnding : Text
  toAddress : Text
  cc : Option Text
  subjectWords : List Text
  boundary : Text

namespace HeaderTexts

variable (t : HeaderTexts)

/-- The header lines that the builder writes. -/
def headers : List Text :=
  mimeHeaders t.date t.messageId (foldWords t.senderWords ++ t.senderEnding) t.toAddress t.cc
    (foldWords t.subjectWords) t.boundary

/-- The same lines, header by header. -/
def blocks : List (List Text) :=
  headerBlocks t.date t.messageId (foldedLines "From: ".toList t.senderWords t.senderEnding)
    t.toAddress t.cc (foldedLines "Subject: ".toList t.subjectWords []) t.boundary

/-- The fields that a reader gets back. -/
def fields : List Field :=
  mailFields t.date t.messageId (joinWords t.senderWords ++ t.senderEnding) t.toAddress t.cc
    (joinWords t.subjectWords) t.boundary

theorem headers_eq : t.headers = t.blocks.map joinLines := by
  have hfrom : "From: ".toList ++ (foldWords t.senderWords ++ t.senderEnding)
      = joinLines (foldedLines "From: ".toList t.senderWords t.senderEnding) := by
    rw [joinLines_foldedLines, List.append_assoc]
  have hsubject : "Subject: ".toList ++ foldWords t.subjectWords
      = joinLines (foldedLines "Subject: ".toList t.subjectWords []) := by
    rw [joinLines_foldedLines, List.append_nil]
  unfold headers blocks mimeHeaders headerBlocks
  rw [hfrom, hsubject]
  cases t.cc with
  | none => rfl
  | some cc => rfl

/-- The conditions under which the header is read as its fields. -/
structure Good : Prop where
  date : PlainBody t.date
  messageId : PlainBody ('<' :: t.messageId ++ ['>'])
  senderWords_ne : t.senderWords ≠ []
  senderWords : ∀ word ∈ t.senderWords, HeaderWord word
  senderEnding : Printable t.senderEnding ∧ t.senderEnding.length ≤ 257
  toAddress : NormalAddress t.toAddress
  cc : ∀ address ∈ t.cc, NormalAddress address
  subjectWords_ne : t.subjectWords ≠ []
  subjectWords : ∀ word ∈ t.subjectWords, HeaderWord word
  boundary : Printable t.boundary ∧ t.boundary.length ≤ 70

end HeaderTexts

theorem NormalAddress.startsBlank {address : Text} (h : NormalAddress address) :
    startsBlank address = false := by
  obtain ⟨c, rest, rfl⟩ := List.exists_cons_of_ne_nil h.ne_nil
  exact isBlank_of_visible (h.visible c List.mem_cons_self)

variable {start boundary pdfFileName line : Text} {lines : List Text}

/-- A field in one line whose name is printable. -/
theorem foldsTo_line {name body : Text} (hname : name ≠ [])
    (hchars : ∀ c ∈ name, isNameChar c = true) (hstart : startsBlank name = false)
    (hbody : startsBlank body = false) (hline : line = name ++ ':' :: ' ' :: body) :
    Field.FoldsTo ⟨name, body⟩ [line] := by
  rw [hline]
  exact @foldsTo_single ⟨name, body⟩ ⟨hname, hchars, hbody⟩ hstart

theorem HeaderTexts.Good.folds {t : HeaderTexts} (h : t.Good) :
    List.Forall₂ Field.FoldsTo t.fields t.blocks := by
  have hsender : Field.FoldsTo ⟨"From".toList, joinWords t.senderWords ++ t.senderEnding⟩
      (foldedLines "From: ".toList t.senderWords t.senderEnding) :=
    foldsTo_foldedLines (by decide) (by decide) rfl
      (joinWords_start h.senderWords_ne h.senderWords)
  have hsubjectBody := @joinWords_start t.subjectWords [] h.subjectWords_ne h.subjectWords
  have hsubject : Field.FoldsTo ⟨"Subject".toList, joinWords t.subjectWords⟩
      (foldedLines "Subject: ".toList t.subjectWords []) := by
    have hfolds : Field.FoldsTo ⟨"Subject".toList, joinWords t.subjectWords ++ []⟩
        (foldedLines "Subject: ".toList t.subjectWords []) :=
      foldsTo_foldedLines (by decide) (by decide) rfl hsubjectBody
    rwa [List.append_nil] at hfolds
  have hend : List.Forall₂ Field.FoldsTo
      [⟨"Subject".toList, joinWords t.subjectWords⟩,
        ⟨"Content-Type".toList, "multipart/mixed; boundary=\"".toList ++ t.boundary ++ ['"']⟩]
      [foldedLines "Subject: ".toList t.subjectWords [],
        ["Content-Type: multipart/mixed; boundary=\"".toList ++ t.boundary ++ ['"']]] :=
    .cons hsubject (.cons (foldsTo_line (by decide) (by decide) rfl rfl rfl) .nil)
  have hstart : ∀ {fields : List Field} {blocks : List (List Text)},
      List.Forall₂ Field.FoldsTo fields blocks → List.Forall₂ Field.FoldsTo
      (⟨"MIME-Version".toList, "1.0".toList⟩ :: ⟨"Date".toList, t.date⟩
        :: ⟨"Message-ID".toList, '<' :: t.messageId ++ ['>']⟩
        :: ⟨"From".toList, joinWords t.senderWords ++ t.senderEnding⟩
        :: ⟨"To".toList, t.toAddress⟩ :: fields)
      (["MIME-Version: 1.0".toList] :: ["Date: ".toList ++ t.date]
        :: ["Message-ID: <".toList ++ t.messageId ++ ['>']]
        :: foldedLines "From: ".toList t.senderWords t.senderEnding
        :: ["To: ".toList ++ t.toAddress] :: blocks) := by
    intro fields blocks hrest
    refine .cons (foldsTo_line (by decide) (by decide) rfl rfl rfl)
      (.cons (foldsTo_line (by decide) (by decide) rfl h.date.start rfl)
        (.cons (foldsTo_line (by decide) (by decide) rfl rfl rfl) (.cons hsender
          (.cons (foldsTo_line (by decide) (by decide) rfl h.toAddress.startsBlank rfl) hrest))))
  unfold HeaderTexts.fields HeaderTexts.blocks mailFields headerBlocks
  have hcc := h.cc
  cases hcopy : t.cc with
  | none => exact hstart hend
  | some cc =>
      exact hstart (.cons
        (foldsTo_line (by decide) (by decide) rfl (hcc cc hcopy).startsBlank rfl) hend)

/-! ## The lines of the message -/

/-- The lines of the text part. -/
def textPartLines (bodyLines : List Text) : List Text :=
  "Content-Type: text/plain; charset=utf-8".toList
    :: "Content-Transfer-Encoding: base64".toList :: [] :: bodyLines

/-- The lines of the PDF part. -/
def pdfPartLines (pdfFileName : Text) (pdfLines : List Text) : List Text :=
  "Content-Type: application/pdf".toList
    :: "Content-Transfer-Encoding: base64".toList
    :: ("Content-Disposition: attachment; filename=\"".toList ++ pdfFileName ++ ['"'])
    :: [] :: pdfLines

/-- All lines but the empty one at the end. -/
def mimeLines (headerLines : List Text) (boundary : Text) (textPart pdfPart : List Text) :
    List Text :=
  headerLines ++ [] :: ('-' :: '-' :: boundary) :: (textPart ++ ('-' :: '-' :: boundary)
    :: (pdfPart ++ [('-' :: '-' :: boundary ++ ['-', '-'])]))

theorem joinLines_mimeParts {blocks : List (List Text)} {bodyLines pdfLines : List Text}
    (hblocks : ∀ block ∈ blocks, block ≠ []) (hne : blocks.flatten ≠ []) (hbody : bodyLines ≠ [])
    (hpdf : pdfLines ≠ []) :
    joinLines (mimeParts (blocks.map joinLines) boundary (joinLines bodyLines) pdfFileName
        (joinLines pdfLines))
      = joinLines (mimeLines blocks.flatten boundary (textPartLines bodyLines)
          (pdfPartLines pdfFileName pdfLines) ++ [[]]) := by
  have hparts : mimeParts (blocks.map joinLines) boundary (joinLines bodyLines) pdfFileName
      (joinLines pdfLines)
      = [blocks.flatten, [[]], ['-' :: '-' :: boundary],
          ["Content-Type: text/plain; charset=utf-8".toList],
          ["Content-Transfer-Encoding: base64".toList], [[]], bodyLines,
          ['-' :: '-' :: boundary], ["Content-Type: application/pdf".toList],
          ["Content-Transfer-Encoding: base64".toList],
          ["Content-Disposition: attachment; filename=\"".toList ++ pdfFileName ++ ['"']],
          [[]], pdfLines, ['-' :: '-' :: boundary ++ ['-', '-']], [[]]].map joinLines := by
    unfold mimeParts
    rw [joinLines_map_joinLines hblocks]
    rfl
  rw [hparts, joinLines_map_joinLines]
  · simp [mimeLines, textPartLines, pdfPartLines]
  · simp [hne, hbody, hpdf]

/-- A line that is sent as it stands. -/
structure PlainLine (line : Text) : Prop where
  printable : Printable line
  length_le : line.length ≤ 998
  ne_dot : line ≠ ['.']

theorem plainLine_cons {c : Char} {rest : Text} (hc : c ≠ '.') (hprintable : Printable (c :: rest))
    (hlength : (c :: rest).length ≤ 998) : PlainLine (c :: rest) :=
  ⟨hprintable, hlength, fun he => hc (List.cons.inj he).1⟩

theorem plainLine_nil : PlainLine [] :=
  ⟨(fun _ hc => nomatch hc), Nat.zero_le _, (List.cons_ne_nil _ _).symm⟩

theorem plainLine_foldedLines {ending : Text} {words : List Text} (hstart : Printable start)
    (hending : Printable ending ∧ ending.length ≤ 257) (hwords : ∀ word ∈ words, HeaderWord word)
    (hlength : 2 ≤ start.length ∧ start.length ≤ 20)
    (hline : line ∈ foldedLines start words ending) :
    PlainLine line := by
  obtain ⟨hprintable, hle⟩ := mem_foldedLines ⟨hstart, hending.1⟩ hwords hline (by omega)
  refine ⟨hprintable, by omega, ?_⟩
  have hne : start ≠ [] := List.length_pos_iff.mp (by omega)
  obtain ⟨first, more, hlines, hprefix, hmore⟩ := foldedLines_eq_cons start ending words hne
  rw [hlines] at hline
  rintro rfl
  rcases List.mem_cons.mp hline with hfirst | hline
  · have hle := hprefix.length_le
    rw [← hfirst, List.length_singleton] at hle
    omega
  · exact absurd (hmore _ hline) (by decide)

theorem plainLine_base64Lines {bytes : Buffer} (h : line ∈ base64Lines (Base64.encode bytes)) :
    PlainLine line := by
  obtain ⟨hlength, hmem⟩ := mem_base64Lines h
  refine ⟨fun c hc => ?_, by omega, ?_⟩
  · exact (visible_of_base64 (Base64.isBase64Char_of_mem_encode (hmem c hc))).printable
  · rintro rfl
    have hdot : Base64.isBase64Char '.' = false := by decide
    exact not_mem_encode hdot (hmem '.' List.mem_cons_self)

/-- A literal beginning, a printable text and a quote or bracket. -/
theorem plainLine_field {body ending : Text}
    (hstart : Printable start ∧ 2 ≤ start.length ∧ start.length ≤ 60) (hbody : Printable body)
    (hlength : body.length ≤ 800) (hending : Printable ending ∧ ending.length ≤ 1) :
    PlainLine (start ++ body ++ ending) := by
  refine ⟨printable_append (printable_append hstart.1 hbody) hending.1, ?_, ?_⟩
  · simp only [List.length_append]
    omega
  · intro he
    have hone := congrArg List.length he
    simp only [List.length_append, List.length_singleton] at hone
    omega

namespace HeaderTexts.Good

variable {t : HeaderTexts}

/-- Every line of the header is a plain one. -/
theorem plainLines (h : t.Good) : ∀ line ∈ t.blocks.flatten, PlainLine line := by
  have hempty : Printable [] := fun _ hc => nomatch hc
  have hnone : Printable [] ∧ ([] : Text).length ≤ 1 := ⟨hempty, Nat.zero_le 1⟩
  have hversion : PlainLine "MIME-Version: 1.0".toList := ⟨by decide, by decide, by decide⟩
  have hdate : PlainLine ("Date: ".toList ++ t.date) := by
    rw [← List.append_nil ("Date: ".toList ++ t.date)]
    exact plainLine_field (by decide) h.date.printable (Nat.le_trans h.date.length_le (by decide))
      hnone
  have hid : PlainLine ("Message-ID: <".toList ++ t.messageId ++ ['>']) := by
    have hle := h.messageId.length_le
    have hprintable : Printable t.messageId := fun c hc =>
      h.messageId.printable c (List.mem_append_left _ (List.mem_cons_of_mem _ hc))
    simp only [List.length_append, List.length_cons, List.length_nil] at hle
    exact plainLine_field (by decide) hprintable (by omega) (by decide)
  have haddress : ∀ {start address : Text}, Printable start ∧ 2 ≤ start.length ∧ start.length ≤ 60 →
      NormalAddress address → PlainLine (start ++ address) := by
    intro start address hstart hnormal
    rw [← List.append_nil (start ++ address)]
    exact plainLine_field hstart (printable_of_visible hnormal.visible)
      (Nat.le_trans hnormal.length_le (by decide)) hnone
  have hto : PlainLine ("To: ".toList ++ t.toAddress) := haddress (by decide) h.toAddress
  have hcopy : ∀ cc ∈ t.cc, PlainLine ("Cc: ".toList ++ cc) :=
    fun cc hcc => haddress (by decide) (h.cc cc hcc)
  have htype : PlainLine
      ("Content-Type: multipart/mixed; boundary=\"".toList ++ t.boundary ++ ['"']) :=
    plainLine_field (by decide) h.boundary.1 (Nat.le_trans h.boundary.2 (by decide)) (by decide)
  intro line hline
  simp only [blocks, headerBlocks, List.flatten_append, List.flatten_cons, List.flatten_nil,
    List.append_nil, List.mem_append, List.mem_singleton] at hline
  rcases hline with (((rfl | rfl | rfl | hline | rfl) | hline) | hline | rfl)
  · exact hversion
  · exact hdate
  · exact hid
  · exact plainLine_foldedLines (by decide) h.senderEnding h.senderWords (by decide) hline
  · exact hto
  · cases hcc : t.cc with
    | none =>
        rw [hcc] at hline
        exact nomatch hline
    | some cc =>
        rw [hcc] at hline
        obtain rfl := List.mem_singleton.mp hline
        exact hcopy cc hcc
  · exact plainLine_foldedLines (by decide) ⟨hempty, Nat.zero_le _⟩ h.subjectWords (by decide)
      hline
  · exact htype

end HeaderTexts.Good

/-- No field is without lines. -/
theorem HeaderTexts.Good.block_ne {t : HeaderTexts} (h : t.Good) :
    ∀ block ∈ t.blocks, block ≠ [] := by
  intro block hblock
  obtain ⟨field, -, hfolds⟩ := exists_left_of_forall₂ h.folds hblock
  obtain ⟨first, more, rfl, -⟩ := hfolds.folded.exists_first
  exact List.cons_ne_nil _ _

theorem HeaderTexts.blocks_ne (t : HeaderTexts) : t.blocks.flatten ≠ [] := by
  have hmem : ["MIME-Version: 1.0".toList] ∈ t.blocks := List.mem_cons_self
  exact fun he => List.cons_ne_nil _ _ (List.flatten_eq_nil_iff.mp he _ hmem)

theorem plainLine_mimeLines {headerLines textPart pdfPart : List Text}
    (hheader : ∀ line ∈ headerLines, PlainLine line) (htext : ∀ line ∈ textPart, PlainLine line)
    (hpdf : ∀ line ∈ pdfPart, PlainLine line)
    (hboundary : Printable boundary ∧ boundary.length ≤ 70)
    (hline : line ∈ mimeLines headerLines boundary textPart pdfPart) : PlainLine line := by
  have hprintable : Printable ('-' :: '-' :: boundary) :=
    printable_cons (by decide) (printable_cons (by decide) hboundary.1)
  have hdelimiter : PlainLine ('-' :: '-' :: boundary) :=
    plainLine_cons (by decide) hprintable (by simp only [List.length_cons]; omega)
  have hclose : PlainLine ('-' :: '-' :: boundary ++ ['-', '-']) := by
    refine ⟨printable_append hprintable (by decide), ?_, fun he => ?_⟩
    · simp only [List.length_append, List.length_cons, List.length_nil]
      omega
    · exact absurd (List.cons.inj he).1 (by decide)
  simp only [mimeLines, List.mem_append, List.mem_cons, List.not_mem_nil, or_false] at hline
  rcases hline with hline | rfl | rfl | hline | rfl | hline | rfl
  · exact hheader line hline
  · exact plainLine_nil
  · exact hdelimiter
  · exact htext line hline
  · exact hdelimiter
  · exact hpdf line hline
  · exact hclose

theorem plainLine_textPartLines (body : Buffer) :
    ∀ line ∈ textPartLines (base64Lines (Base64.encode body)), PlainLine line := by
  intro line hline
  simp only [textPartLines, List.mem_cons] at hline
  rcases hline with rfl | rfl | rfl | hline
  · exact ⟨by decide, by decide, by decide⟩
  · exact ⟨by decide, by decide, by decide⟩
  · exact plainLine_nil
  · exact plainLine_base64Lines hline

theorem plainLine_pdfPartLines (hname : Printable pdfFileName ∧ pdfFileName.length ≤ 124)
    (pdfContent : Buffer) :
    ∀ line ∈ pdfPartLines pdfFileName (base64Lines (Base64.encode pdfContent)),
      PlainLine line := by
  intro line hline
  simp only [pdfPartLines, List.mem_cons] at hline
  rcases hline with rfl | rfl | rfl | rfl | hline
  · exact ⟨by decide, by decide, by decide⟩
  · exact ⟨by decide, by decide, by decide⟩
  · exact plainLine_field (by decide) hname.1 (Nat.le_trans hname.2 (by decide)) (by decide)
  · exact plainLine_nil
  · exact plainLine_base64Lines hline

/-- The empty line at the end is plain too. -/
theorem plainLine_closed (hplain : ∀ line ∈ lines, PlainLine line) :
    ∀ line ∈ lines ++ [[]], PlainLine line := by
  intro line hline
  rcases List.mem_append.mp hline with hline | hline
  · exact hplain line hline
  · obtain rfl := List.mem_singleton.mp hline
    exact plainLine_nil

theorem isAscii_closed (hplain : ∀ line ∈ lines, PlainLine line) :
    IsAscii (joinLines (lines ++ [[]])) :=
  isAscii_joinLines fun line hline =>
    isAscii_of_printable (plainLine_closed hplain line hline).printable

/-- Plain lines, each ended by a CRLF, can be transferred. -/
theorem acceptable_of_lines (hne : lines ≠ []) (hplain : ∀ line ∈ lines, PlainLine line) :
    Acceptable (asciiBytes (joinLines (lines ++ [[]]))) := by
  have hall := plainLine_closed hplain
  have hascii := isAscii_closed hplain
  have hunbroken : ∀ line ∈ lines, Unbroken line :=
    fun line hline => unbroken_of_printable (hplain line hline).printable
  refine ⟨fun _ hbyte => lt_of_mem_asciiBytes hascii hbyte, ?_, ?_, ?_⟩
  · rw [zero_mem_asciiBytes hascii]
    intro hnul
    rcases mem_joinLines hnul with he | he | ⟨line, hline, hmem⟩
    · exact absurd he (by decide)
    · exact absurd he (by decide)
    · exact absurd ((hall line hline).printable _ hmem).1 (by decide)
  · rw [asciiText_asciiBytes hascii]
    exact canonicalCrlf_joinLines
      fun line hline => unbroken_of_printable (hall line hline).printable
  · -- the text would have a line of a single dot in front of its end
    rw [asciiText_asciiBytes hascii, joinLines_ended hne]
    rintro ⟨first, hfirst⟩
    have hdot : first ++ crlfDotCrlf = (first ++ '\r' :: '\n' :: ['.']) ++ crlf := by
      rw [List.append_assoc]
      rfl
    rw [hdot] at hfirst
    have hlines := splitLines_joinLines hne hunbroken
    rw [← List.append_cancel_right hfirst, splitLines_append] at hlines
    refine (hplain ['.'] ?_).ne_dot rfl
    rw [← hlines]
    exact List.mem_append_right _ List.mem_cons_self

/-! ## The parts -/

/-- The fields of the text part. -/
def textFields : List Field :=
  [⟨"Content-Type".toList, "text/plain; charset=utf-8".toList⟩,
    ⟨"Content-Transfer-Encoding".toList, "base64".toList⟩]

/-- The fields of the PDF part. -/
def pdfFields (pdfFileName : Text) : List Field :=
  [⟨"Content-Type".toList, "application/pdf".toList⟩,
    ⟨"Content-Transfer-Encoding".toList, "base64".toList⟩,
    ⟨"Content-Disposition".toList,
      "attachment; filename=\"".toList ++ pdfFileName ++ ['"']⟩]

/-- The part that holds the text of the mail. -/
def textPart (body : Text) : Part where
  fields := textFields
  contentType := ⟨"text/plain".toList, [("charset".toList, "utf-8".toList)]⟩
  fileName := none
  content := Buffers.utf8 (String.ofList body)

/-- The part that holds the PDF. -/
def pdfPart (pdfFileName : Text) (pdfContent : Buffer) : Part where
  fields := pdfFields pdfFileName
  contentType := ⟨"application/pdf".toList, []⟩
  fileName := some pdfFileName
  content := pdfContent

theorem readPart_text (body : Text) :
    readPart (textPartLines (base64Lines
      (Base64.encode (Buffers.utf8 (String.ofList body))))) = some (textPart body) := by
  have hfolds : List.Forall₂ Field.FoldsTo textFields
      [["Content-Type: text/plain; charset=utf-8".toList],
        ["Content-Transfer-Encoding: base64".toList]] :=
    .cons (foldsTo_line (by decide) (by decide) rfl rfl rfl)
      (.cons (foldsTo_line (by decide) (by decide) rfl rfl rfl) .nil)
  have htype : (fieldBody? textFields "content-type".toList).bind readParameterized
      = some ⟨"text/plain".toList, [("charset".toList, "utf-8".toList)]⟩ := by decide
  have hname : readFileName textFields = some none := by decide
  have hcontent : ∀ lines, transferDecode textFields lines
      = Base64.decodeText (joinLines lines) := fun _ => rfl
  refine readPart_of (readEntity_of_folded hfolds) htype hname ?_
  rw [hcontent, decodeText_base64Lines]

/-- A file name that can be put in quotes. -/
structure QuotableName (name : Text) : Prop where
  printable : Printable name
  quote : '"' ∉ name
  escape : '\\' ∉ name
  length_le : name.length ≤ 124

theorem readPart_pdf (h : QuotableName pdfFileName) (pdfContent : Buffer) :
    readPart (pdfPartLines pdfFileName (base64Lines (Base64.encode pdfContent)))
      = some (pdfPart pdfFileName pdfContent) := by
  have hfolds : List.Forall₂ Field.FoldsTo (pdfFields pdfFileName)
      [["Content-Type: application/pdf".toList],
        ["Content-Transfer-Encoding: base64".toList],
        ["Content-Disposition: attachment; filename=\"".toList ++ pdfFileName ++ ['"']]] :=
    .cons (foldsTo_line (by decide) (by decide) rfl rfl rfl)
      (.cons (foldsTo_line (by decide) (by decide) rfl rfl rfl)
        (.cons (foldsTo_line (by decide) (by decide) rfl rfl rfl) .nil))
  have hdisposition : readParameterized
      ("attachment; filename=\"".toList ++ pdfFileName ++ ['"'])
      = some ⟨"attachment".toList, [("filename".toList, pdfFileName)]⟩ :=
    @readParameterized_quoted "attachment".toList "filename".toList pdfFileName (by decide)
      (fun _ hlast => Option.some.inj hlast ▸ rfl) (by decide) rfl h.quote h.escape
  have hname : readFileName (pdfFields pdfFileName) = some (some pdfFileName) := by
    show (readParameterized ("attachment; filename=\"".toList ++ pdfFileName ++ ['"'])).map _ = _
    rw [hdisposition]
    rfl
  have htype : (fieldBody? (pdfFields pdfFileName) "content-type".toList).bind readParameterized
      = some ⟨"application/pdf".toList, []⟩ := rfl
  have hcontent : ∀ lines, transferDecode (pdfFields pdfFileName) lines
      = Base64.decodeText (joinLines lines) := fun _ => rfl
  refine readPart_of (readEntity_of_folded hfolds) htype hname ?_
  rw [hcontent, decodeText_base64Lines]

theorem noBoundary_base64Lines (bytes : Buffer) :
    NoBoundary boundary (base64Lines (Base64.encode bytes)) := by
  intro line hline hprefix
  have hhyphen : '-' ∈ line := hprefix.subset List.mem_cons_self
  have hbase64 : Base64.isBase64Char '-' = false := by decide
  exact not_mem_encode hbase64 ((mem_base64Lines hline).2 '-' hhyphen)

/-- A line that begins with something else than a hyphen. -/
theorem noBoundary_cons {boundary start rest : Text} {lines : List Text}
    (hstart : start ≠ [] ∧ start.head? ≠ some '-') (h : NoBoundary boundary lines) :
    NoBoundary boundary ((start ++ rest) :: lines) := by
  obtain ⟨c, start, rfl⟩ := List.exists_cons_of_ne_nil hstart.1
  intro line hline
  rcases List.mem_cons.mp hline with rfl | hline
  · intro hprefix
    exact hstart.2 (congrArg some (List.cons_prefix_cons.mp hprefix).1.symm)
  · exact h line hline

theorem noBoundary_nil (h : NoBoundary boundary lines) : NoBoundary boundary ([] :: lines) := by
  intro line hline
  rcases List.mem_cons.mp hline with rfl | hline
  · exact fun hprefix => List.cons_ne_nil _ _ (List.prefix_nil.mp hprefix)
  · exact h line hline

theorem noBoundary_textPartLines (body : Buffer) :
    NoBoundary boundary (textPartLines (base64Lines (Base64.encode body))) := by
  have hcontent := noBoundary_nil (@noBoundary_base64Lines boundary body)
  have hencoding := @noBoundary_cons boundary "Content-Transfer-Encoding: base64".toList [] _
    (by decide) hcontent
  have htype := @noBoundary_cons boundary "Content-Type: text/plain; charset=utf-8".toList [] _
    (by decide) hencoding
  rwa [List.append_nil, List.append_nil] at htype

theorem noBoundary_pdfPartLines (pdfFileName : Text) (pdfContent : Buffer) :
    NoBoundary boundary (pdfPartLines pdfFileName (base64Lines (Base64.encode pdfContent))) := by
  have hcontent := noBoundary_nil (@noBoundary_base64Lines boundary pdfContent)
  have hdisposition := @noBoundary_cons boundary
    "Content-Disposition: attachment; filename=\"".toList (pdfFileName ++ ['"']) _ (by decide)
    hcontent
  have hencoding := @noBoundary_cons boundary "Content-Transfer-Encoding: base64".toList [] _
    (by decide) hdisposition
  have htype := @noBoundary_cons boundary "Content-Type: application/pdf".toList [] _
    (by decide) hencoding
  rwa [List.append_nil, List.append_nil, ← List.append_assoc] at htype

theorem splitParts_mimeLines {body pdfContent : Buffer} {rest : List Text} :
    splitParts boundary (('-' :: '-' :: boundary)
      :: (textPartLines (base64Lines (Base64.encode body)) ++ ('-' :: '-' :: boundary)
        :: (pdfPartLines pdfFileName (base64Lines (Base64.encode pdfContent))
          ++ ('-' :: '-' :: boundary ++ ['-', '-']) :: rest)))
      = some [textPartLines (base64Lines (Base64.encode body)),
          pdfPartLines pdfFileName (base64Lines (Base64.encode pdfContent))] :=
  splitParts_two (noBoundary_textPartLines body) (noBoundary_pdfPartLines pdfFileName pdfContent)

/-! ## What the builder puts in -/

theorem quotableName_of_safe {name : Text} (h : isSafePdfFileName name = true) :
    QuotableName name := by
  simp only [isSafePdfFileName, Bool.and_eq_true, List.all_eq_true, Bool.or_eq_true, beq_iff_eq,
    decide_eq_true_eq] at h
  obtain ⟨⟨⟨⟨-, hstem⟩, hchars⟩, hending⟩, hpdf⟩ := h
  have hsplit := List.take_append_drop (name.length - 4) name
  have hkind : ∀ c ∈ name, IsVisible c ∧ c ≠ '"' ∧ c ≠ '\\' := by
    have hsafe : ∀ {c : Char}, isAlphanumeric c = true → IsVisible c ∧ c ≠ '"' ∧ c ≠ '\\' := by
      intro c hc
      refine ⟨visible_of_alphanumeric hc, ?_, ?_⟩
      · rintro rfl
        exact absurd hc (by decide)
      · rintro rfl
        exact absurd hc (by decide)
    intro c hc
    rw [← hsplit, List.mem_append] at hc
    rcases hc with hc | hc
    · rcases hchars c hc with ((hc | rfl) | rfl) | rfl
      · exact hsafe hc
      · exact ⟨⟨by decide, by decide⟩, by decide, by decide⟩
      · exact ⟨⟨by decide, by decide⟩, by decide, by decide⟩
      · exact ⟨⟨by decide, by decide⟩, by decide, by decide⟩
    · have hlower : c.toLower ∈ (name.drop (name.length - 4)).map Char.toLower :=
        List.mem_map.mpr ⟨c, hc, rfl⟩
      rw [hpdf] at hlower
      by_cases hupper : 65 ≤ c.toNat ∧ c.toNat ≤ 90
      · refine hsafe ?_
        simp only [isAlphanumeric, hupper.1, hupper.2, decide_true, Bool.and_self, Bool.true_or]
      · have hsame : c.toLower = c := by
          rw [Char.toLower, dif_neg]
          exact hupper
        rw [hsame] at hlower
        have hpdfChars : ∀ d ∈ ".pdf".toList, (33 ≤ d.toNat ∧ d.toNat ≤ 126)
            ∧ d ≠ '"' ∧ d ≠ '\\' := by decide
        exact hpdfChars c hlower
  refine ⟨fun c hc => (hkind c hc).1.printable, fun hc => (hkind _ hc).2.1 rfl,
    fun hc => (hkind _ hc).2.2 rfl, ?_⟩
  rw [← hsplit, List.length_append]
  omega

theorem createMimeBoundary_eq_ok {content : List Text} {randomBytes : Nat → Random24}
    (h : createMimeBoundary content randomBytes = .ok boundary) :
    ∃ bytes, boundary = mimeBoundary bytes := by
  rw [createMimeBoundary, orThrow_eq_ok] at h
  obtain ⟨attempt, -, hboundary⟩ := List.exists_of_findSome?_eq_some h
  refine ⟨randomBytes attempt, ?_⟩
  simp only at hboundary
  split at hboundary
  · exact (Option.some.inj hboundary).symm
  · exact nomatch hboundary

theorem mimeBoundary_facts (bytes : Random24) : Visible (mimeBoundary bytes)
    ∧ (mimeBoundary bytes).length ≤ 70 ∧ '"' ∉ mimeBoundary bytes
    ∧ '\\' ∉ mimeBoundary bytes := by
  have hstart : ∀ c ∈ "=_eky_".toList, (33 ≤ c.toNat ∧ c.toNat ≤ 126) ∧ c ≠ '"' ∧ c ≠ '\\' := by
    decide
  have hkind : ∀ c ∈ mimeBoundary bytes, IsVisible c ∧ c ≠ '"' ∧ c ≠ '\\' := by
    intro c hc
    rcases List.mem_append.mp hc with hc | hc
    · exact hstart c hc
    · have hhex := Buffers.isHexChar_of_mem_toHex hc
      rw [Buffers.IsHexChar] at hhex
      refine ⟨⟨by omega, by omega⟩, ?_, ?_⟩
      · rintro rfl
        exact absurd hhex (by decide)
      · rintro rfl
        exact absurd hhex (by decide)
  refine ⟨fun c hc => (hkind c hc).1, ?_, fun hc => (hkind _ hc).2.1 rfl,
    fun hc => (hkind _ hc).2.2 rfl⟩
  have hlength : "=_eky_".toList.length = 6 := rfl
  rw [mimeBoundary, List.length_append, Buffers.toHex_length, bytes.property]
  omega

theorem plainBody_messageId {messageId : Text} (h : isMessageId messageId = true) :
    PlainBody ('<' :: messageId ++ ['>']) := by
  simp only [isMessageId, Bool.and_eq_true, List.all_eq_true, Bool.or_eq_true, beq_iff_eq,
    decide_eq_true_eq] at h
  obtain ⟨⟨hchars, -⟩, hlength⟩ := h
  have hprintable : Printable messageId := by
    intro c hc
    rcases hchars c hc with (((hc | rfl) | rfl) | rfl) | rfl
    · exact (visible_of_alphanumeric hc).printable
    · decide
    · decide
    · decide
    · decide
  refine ⟨printable_append (printable_cons (by decide) hprintable) (by decide), ?_, rfl⟩
  simp only [List.length_append, List.length_cons, List.length_nil]
  omega

theorem normalizeCc_eq_ok {value cc : Option Text} (h : normalizeCc value = .ok cc) :
    ∀ address ∈ cc, NormalAddress address := by
  intro address haddress
  obtain rfl := Option.mem_def.mp haddress
  cases value with
  | none => exact nomatch h
  | some value =>
      rw [normalizeCc] at h
      split at h
      · exact nomatch h
      · obtain ⟨normal, hnormal, he⟩ := map_eq_ok.mp h
        obtain rfl := Option.some.inj he
        exact normalAddress_of_normalized hnormal

/-! ## The message as a whole -/

/-- What a mail program reads. -/
def arrivedMail (input : InvoiceMimeMessageInput) (t : HeaderTexts) (fromAddress : Text) :
    MailMessage where
  fields := t.fields
  senders := [⟨trim input.fromName, fromAddress⟩]
  recipients := [⟨[], t.toAddress⟩]
  copies := t.cc.toList.map fun address => ⟨[], address⟩
  subject := trim input.subject
  parts := [textPart input.body, pdfPart input.pdfFileName input.pdfContent]

/-- An address alone is read as its mailbox. -/
theorem mailboxes?_address {address : Text} (h : NormalAddress address) :
    mailboxes? address = some [⟨[], address⟩] := by
  have hread := (mailboxText_address h).read
  rwa [List.append_nil] at hread

theorem boundary?_fields {t : HeaderTexts} (hquote : '"' ∉ t.boundary)
    (hescape : '\\' ∉ t.boundary) : boundary? t.fields = some t.boundary := by
  have hread : readParameterized ("multipart/mixed; boundary=\"".toList ++ t.boundary ++ ['"'])
      = some ⟨"multipart/mixed".toList, [("boundary".toList, t.boundary)]⟩ :=
    @readParameterized_quoted "multipart/mixed".toList "boundary".toList t.boundary (by decide)
      (fun _ hlast => Option.some.inj hlast ▸ rfl) (by decide) rfl hquote hescape
  have hbody : fieldBody? t.fields "content-type".toList
      = some ("multipart/mixed; boundary=\"".toList ++ t.boundary ++ ['"']) := by
    unfold HeaderTexts.fields mailFields
    cases t.cc with
    | none => rfl
    | some cc => rfl
  unfold boundary?
  rw [hbody]
  show (readParameterized _).bind _ = _
  rw [hread]
  rfl

/-- The bodies of the fields that hold mailboxes and the subject. -/
theorem fieldBody?_fields (t : HeaderTexts) :
    fieldBody? t.fields "from".toList = some (joinWords t.senderWords ++ t.senderEnding)
      ∧ fieldBody? t.fields "to".toList = some t.toAddress
      ∧ fieldBody? t.fields "cc".toList = t.cc
      ∧ fieldBody? t.fields "subject".toList = some (joinWords t.subjectWords) := by
  unfold HeaderTexts.fields mailFields
  cases t.cc with
  | none => exact ⟨rfl, rfl, rfl, rfl⟩
  | some cc => exact ⟨rfl, rfl, rfl, rfl⟩

theorem fieldMailboxes?_copies {t : HeaderTexts} (h : t.Good) :
    fieldMailboxes? t.fields "cc".toList = some (t.cc.toList.map fun address => ⟨[], address⟩) := by
  rw [fieldMailboxes?, (fieldBody?_fields t).2.2.1]
  cases hcc : t.cc with
  | none => rfl
  | some cc => exact mailboxes?_address (h.cc cc hcc)

/-- The lines of the message of an input. -/
def messageLinesOf (input : InvoiceMimeMessageInput) (t : HeaderTexts) : List Text :=
  mimeLines t.blocks.flatten t.boundary
    (textPartLines (base64Lines (Base64.encode (Buffers.utf8 (String.ofList input.body)))))
    (pdfPartLines input.pdfFileName (base64Lines (Base64.encode input.pdfContent)))

theorem readMessage_lines {input : InvoiceMimeMessageInput} {t : HeaderTexts} {fromAddress : Text}
    (h : t.Good) (hname : QuotableName input.pdfFileName)
    (hboundary : '"' ∉ t.boundary ∧ '\\' ∉ t.boundary)
    (hsender : mailboxes? (joinWords t.senderWords ++ t.senderEnding)
      = some [⟨trim input.fromName, fromAddress⟩])
    (hsubject : decodeHeaderText (joinWords t.subjectWords) = trim input.subject)
    (hplain : ∀ line ∈ messageLinesOf input t ++ [[]], PlainLine line) :
    readMessage (asciiBytes (joinLines (messageLinesOf input t ++ [[]])))
      = some (arrivedMail input t fromAddress) := by
  have hlines := splitLines_joinLines
    (List.append_ne_nil_of_right_ne_nil (messageLinesOf input t) (List.cons_ne_nil [] []))
    fun line hline => unbroken_of_printable (hplain line hline).printable
  have hascii : IsAscii (joinLines (messageLinesOf input t ++ [[]])) :=
    isAscii_joinLines fun line hline => isAscii_of_printable (hplain line hline).printable
  obtain ⟨hfrom, hto, -, hsubjectBody⟩ := fieldBody?_fields t
  have hentity := @readEntity_of_folded t.fields t.blocks (('-' :: '-' :: t.boundary)
    :: (textPartLines (base64Lines (Base64.encode (Buffers.utf8 (String.ofList input.body))))
      ++ ('-' :: '-' :: t.boundary)
      :: (pdfPartLines input.pdfFileName (base64Lines (Base64.encode input.pdfContent))
        ++ ('-' :: '-' :: t.boundary ++ ['-', '-']) :: [[]]))) h.folds
  have hparts : [textPartLines (base64Lines
        (Base64.encode (Buffers.utf8 (String.ofList input.body)))),
      pdfPartLines input.pdfFileName (base64Lines (Base64.encode input.pdfContent))].mapM readPart
      = some [textPart input.body, pdfPart input.pdfFileName input.pdfContent] := by
    rw [List.mapM_cons, readPart_text, List.mapM_cons, readPart_pdf hname]
    rfl
  have hsenders : fieldMailboxes? t.fields "from".toList
      = some [⟨trim input.fromName, fromAddress⟩] := by
    rw [fieldMailboxes?, hfrom]
    exact hsender
  have hrecipients : fieldMailboxes? t.fields "to".toList = some [⟨[], t.toAddress⟩] := by
    rw [fieldMailboxes?, hto]
    exact mailboxes?_address h.toAddress
  refine readMessage_of ?_ hsenders hrecipients (fieldMailboxes?_copies h)
    (boundary?_fields hboundary.1 hboundary.2) (@splitParts_mimeLines _ _ _ _ [[]]) hparts ?_
  · rw [asciiText_asciiBytes hascii, hlines]
    refine (congrArg readEntity ?_).trans hentity
    simp [messageLinesOf, mimeLines]
  · rw [hsubjectBody]
    exact hsubject

theorem utf8_eq_nil {text : Text} (h : Buffers.utf8 (String.ofList text) = []) : text = [] := by
  have hempty := Buffers.utf8_inj.mp (h.trans Buffers.utf8_empty.symm)
  have hlist := congrArg String.toList hempty
  rwa [String.toList_ofList] at hlist

/-- What an accepted input puts into the header. -/
structure BuiltHeader (env : MimeEnvironment) (input : InvoiceMimeMessageInput)
    (options : InvoiceMimeMessageOptions) (t : HeaderTexts) (fromAddress : Text) : Prop where
  sender : normalizeEmailAddress input.fromAddress = .ok fromAddress
  recipient : normalizeEmailAddress input.toAddress = .ok t.toAddress
  copy : normalizeCc input.cc = .ok t.cc
  date : t.date = toUTCString (options.now.getD env.newDate)
  messageId : t.messageId
    = options.messageId.getD (env.randomUUID ++ '@' :: senderDomain fromAddress)

/-- A built message: its lines are plain and it is read as what was put in. -/
theorem built_message {env : MimeEnvironment} {input : InvoiceMimeMessageInput}
    {options : InvoiceMimeMessageOptions} {message : Buffer}
    (h : buildInvoiceMimeMessage env input options = .ok message) :
    ∃ t fromAddress, BuiltHeader env input options t fromAddress
      ∧ (∀ line ∈ messageLinesOf input t, PlainLine line)
      ∧ message = asciiBytes (joinLines (messageLinesOf input t ++ [[]]))
      ∧ readMessage message = some (arrivedMail input t fromAddress) := by
  simp only [buildInvoiceMimeMessage, bind_eq_ok, throwIf_eq_ok, not_not, exists_and_left,
    exists_const] at h
  obtain ⟨_, hvalid, fromAddress, hfrom, toAddress, hto, cc, hcc, boundary, hboundary, hid,
    sender, hsender, subject, hsubject, he⟩ := h
  simp only [validateInput, throwIf_eq_ok, not_or, not_not] at hvalid
  obtain ⟨hbody, -, -, -, -, -, -, -, hpdf, -, -, hname, -⟩ := hvalid
  obtain ⟨words, ending, hmailbox⟩ :=
    formatMimeAddress_eq_ok (normalAddress_of_normalized hfrom) hsender
  obtain ⟨subjectWords, hsubjectNe, hsubjectWords, rfl, hread⟩ :=
    encodeMimeHeaderValue_eq_ok hsubject
  obtain ⟨bytes, rfl⟩ := createMimeBoundary_eq_ok hboundary
  obtain ⟨hvisible, hlength, hquote, hescape⟩ := mimeBoundary_facts bytes
  let t : HeaderTexts :=
    { date := toUTCString (options.now.getD env.newDate)
      messageId := options.messageId.getD (env.randomUUID ++ '@' :: senderDomain fromAddress)
      senderWords := words, senderEnding := ending, toAddress, cc, subjectWords,
      boundary := mimeBoundary bytes }
  have hgood : t.Good :=
    { date := plainBody_toUTCString _
      messageId := plainBody_messageId hid
      senderWords_ne := hmailbox.words_ne
      senderWords := hmailbox.headerWords
      senderEnding := ⟨hmailbox.printable, hmailbox.length_le⟩
      toAddress := normalAddress_of_normalized hto
      cc := normalizeCc_eq_ok hcc
      subjectWords_ne := hsubjectNe
      subjectWords := hsubjectWords
      boundary := ⟨printable_of_visible hvisible, hlength⟩ }
  have hquotable := quotableName_of_safe hname
  have hplain : ∀ line ∈ messageLinesOf input t, PlainLine line :=
    fun line hline => plainLine_mimeLines hgood.plainLines (plainLine_textPartLines _)
      (plainLine_pdfPartLines ⟨hquotable.printable, hquotable.length_le⟩ _) hgood.boundary hline
  have hplainEnd : ∀ line ∈ messageLinesOf input t ++ [[]], PlainLine line := by
    intro line hline
    rcases List.mem_append.mp hline with hline | hline
    · exact hplain line hline
    · obtain rfl := List.mem_singleton.mp hline
      exact plainLine_nil
  have hmessage : message = asciiBytes (joinLines (messageLinesOf input t ++ [[]])) := by
    obtain rfl := Except.ok.inj he
    rw [hmailbox.text]
    refine congrArg asciiBytes ?_
    rw [messageLinesOf, ← joinLines_mimeParts hgood.block_ne t.blocks_ne
      (base64Lines_ne_nil fun hnil => hbody (utf8_eq_nil (Base64.encode_eq_nil.mp hnil)))
      (base64Lines_ne_nil fun hnil => hpdf (Base64.encode_eq_nil.mp hnil)), ← t.headers_eq]
    rfl
  refine ⟨t, fromAddress, ⟨hfrom, hto, hcc, rfl, rfl⟩, hplain, hmessage, ?_⟩
  rw [hmessage]
  exact readMessage_lines hgood hquotable ⟨hquote, hescape⟩ hmailbox.read hread hplainEnd

/-- Lines of at most 998 characters with canonical ends, in bytes below 128. -/
structure WellFormedLines (message : Buffer) : Prop where
  sevenBit : ∀ byte ∈ message, byte.toNat < 128
  canonical : CanonicalCrlf (asciiText message)
  length_le : ∀ line ∈ splitLines (asciiText message), line.length ≤ 998

theorem wellFormedLines_of_plain (hplain : ∀ line ∈ lines, PlainLine line) (hne : lines ≠ []) :
    WellFormedLines (asciiBytes (joinLines (lines ++ [[]]))) := by
  have hacceptable := acceptable_of_lines hne hplain
  have hall := plainLine_closed hplain
  have hascii := isAscii_closed hplain
  refine ⟨hacceptable.sevenBit, hacceptable.canonical, fun line hline => ?_⟩
  rw [asciiText_asciiBytes hascii,
    splitLines_joinLines (List.append_ne_nil_of_left_ne_nil hne _)
      fun other hother => unbroken_of_printable (hall other hother).printable] at hline
  exact (hall line hline).length_le

/-- The data of a message that ends in CRLF gives back the message itself. -/
theorem receiveData_of_ended {data : Buffer} (hne : lines ≠ [])
    (hplain : ∀ line ∈ lines, PlainLine line)
    (h : encodeSmtpData (asciiBytes (joinLines (lines ++ [[]]))) = .ok data) :
    receiveData data = some (asciiBytes (joinLines (lines ++ [[]]))) := by
  have hacceptable := (encodeSmtpData_eq_ok.mp h).1
  have hbytes := asciiBytes_asciiText hacceptable.sevenBit
  have hascii : IsAscii (joinLines (lines ++ [[]])) := by
    refine isAscii_joinLines fun line hline => ?_
    rcases List.mem_append.mp hline with hline | hline
    · exact isAscii_of_printable (hplain line hline).printable
    · obtain rfl := List.mem_singleton.mp hline
      exact isAscii_of_printable plainLine_nil.printable
  have hend : crlf <:+ asciiText (asciiBytes (joinLines (lines ++ [[]]))) := by
    rw [asciiText_asciiBytes hascii, joinLines_ended hne]
    exact List.suffix_append _ _
  have hcanonical := canonicalMessage_eq (asciiText (asciiBytes (joinLines (lines ++ [[]]))))
  rw [if_pos hend] at hcanonical
  rw [receiveData_of_encoded h, ← hcanonical, hbytes]

theorem messageLinesOf_ne (input : InvoiceMimeMessageInput) (t : HeaderTexts) :
    messageLinesOf input t ≠ [] :=
  List.append_ne_nil_of_right_ne_nil _ (List.cons_ne_nil _ _)

/-- A built message is well formed, is transferred, and arrives as it was written; what the
    transfer takes is exactly the acceptable messages, and it tells them apart but for a
    CRLF at the end. -/
theorem mailed_invoice_arrives :
    (∀ env input options message, buildInvoiceMimeMessage env input options = .ok message →
      WellFormedLines message
        ∧ (∃ data, encodeSmtpData message = .ok data
          ∧ (∃ i, i + 5 = data.length
            ∧ ∀ j, crlfDotCrlf <+: (asciiText data).drop j ↔ j = i)
          ∧ receiveData data = some message)
        ∧ ∃ t fromAddress, BuiltHeader env input options t fromAddress
          ∧ readMessage message = some (arrivedMail input t fromAddress))
    ∧ (∀ message, (∃ data, encodeSmtpData message = .ok data) ↔ Acceptable message)
    ∧ ∀ message other data, encodeSmtpData message = .ok data → encodeSmtpData other = .ok data →
      message = other ∨ message = other ++ [13, 10] ∨ other = message ++ [13, 10] := by
  refine ⟨fun env input options message h => ?_, fun message => ?_, fun message other data => ?_⟩
  · obtain ⟨t, fromAddress, hheader, hplain, hmessage, hread⟩ := built_message h
    have hne := messageLinesOf_ne input t
    refine ⟨?_, ?_, t, fromAddress, hheader, hread⟩
    · rw [hmessage]
      exact wellFormedLines_of_plain hplain hne
    · have hencoded : encodeSmtpData message
          = .ok (asciiBytes (dataText (messageLines message))) := by
        rw [encodeSmtpData_eq_ok, hmessage]
        exact ⟨acceptable_of_lines hne hplain, rfl⟩
      refine ⟨_, hencoded, terminator_of_encoded hencoded, ?_⟩
      rw [hmessage] at hencoded ⊢
      exact receiveData_of_ended hne hplain hencoded
  · constructor
    · rintro ⟨data, h⟩
      exact (encodeSmtpData_eq_ok.mp h).1
    · exact fun h => ⟨_, encodeSmtpData_eq_ok.mpr ⟨h, rfl⟩⟩
  · exact eq_of_same_data

/-! ## A mail -/

/-- A clock and an identifier. -/
def sampleEnv : MimeEnvironment where
  randomUUID := "7f8b3c52-6f0e-4d0e-9c57-3f5a2b1c0d9e".toList
  newDate := ⟨some 1784232000000, fun t ht => by obtain rfl := Option.some.inj ht; decide⟩
  randomBytes := fun _ => ⟨List.replicate 24 165, rfl⟩

/-- A mail whose body begins with a dot. -/
def sampleInput : InvoiceMimeMessageInput where
  body := ".Hei".toList
  cc := none
  fromAddress := "a@B.fi".toList
  fromName := "Ä Oy".toList
  pdfContent := [37, 80, 68, 70]
  pdfFileName := "l.pdf".toList
  subject := " Lasku ".toList
  toAddress := "c@d.fi".toList

theorem sample_built : (buildInvoiceMimeMessage sampleEnv sampleInput {}).isOk = true := by
  decide +kernel

theorem sample_mail_arrives : ∃ message t,
    buildInvoiceMimeMessage sampleEnv sampleInput {} = .ok message
      ∧ readMessage message = some (arrivedMail sampleInput t "a@b.fi".toList) := by
  have hbuilt := sample_built
  cases h : buildInvoiceMimeMessage sampleEnv sampleInput {} with
  | error e =>
      rw [h] at hbuilt
      exact nomatch hbuilt
  | ok message =>
      obtain ⟨-, -, t, fromAddress, hheader, hread⟩ := mailed_invoice_arrives.1 _ _ _ _ h
      have hfrom : normalizeEmailAddress sampleInput.fromAddress = .ok "a@b.fi".toList := by
        decide +kernel
      obtain rfl := Except.ok.inj (hheader.sender.symm.trans hfrom)
      exact ⟨message, t, rfl, hread⟩

end InvoiceMime
