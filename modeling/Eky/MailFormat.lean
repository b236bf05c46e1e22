import Eky.AsciiLines
import Eky.Base64
import Mathlib.Data.List.TakeWhile

/-! # Reading a mail message

    What a mail program makes of the bytes of a message: the header fields with their
    continuation lines, the mailboxes of the sender and the recipients, encoded words in
    texts, and the parts between the boundaries of a multipart body.

    Encoded words are read when they are in UTF-8 and Base64; others stay as they stand.
    The rules below say what the readers make of text that was put together from
    pieces: of a field, of encoded words in a row, of a boundary and its parts. -/

namespace MailFormat

open AsciiLines

/-- Space or tab. -/
def isBlank (c : Char) : Bool := c == ' ' || c == '\t'

/-- The text with small letters. -/
def lower (text : Text) : Text := text.map Char.toLower

/-- The text without blanks at its end. -/
def dropTrailingBlanks (text : Text) : Text := (text.reverse.dropWhile isBlank).reverse

/-! ## Header fields -/

/-- A header field. -/
structure Field where
  name : Text
  body : Text
  deriving DecidableEq

/-- The line goes on with the field before it. -/
def startsBlank (line : Text) : Bool := (line.head?.map isBlank).getD false

/-- A line that begins with a blank continues the line before it. -/
def unfoldLines : List Text → List Text
  | [] => []
  | line :: rest =>
      match unfoldLines rest with
      | [] => [line]
      | next :: more =>
          if startsBlank next then (line ++ next) :: more
          else line :: next :: more

/-- A character of a field name. -/
def isNameChar (c : Char) : Bool := 33 ≤ c.toNat && c.toNat ≤ 126 && c != ':'

/-- The field of an unfolded line. -/
def readField (line : Text) : Option Field :=
  let name := line.takeWhile (· != ':')
  match line.dropWhile (· != ':') with
  | [] => none
  | _ :: body =>
      if name ≠ [] ∧ name.all isNameChar then some ⟨name, body.dropWhile isBlank⟩ else none

/-- The fields up to the first empty line and the lines behind it. -/
def readEntity (lines : List Text) : Option (List Field × List Text) :=
  ((unfoldLines (lines.takeWhile (· ≠ []))).mapM readField).map fun fields =>
    (fields, (lines.dropWhile (· ≠ [])).tail)

/-- The body of the first field of a name. -/
def fieldBody? (fields : List Field) (name : Text) : Option Text :=
  (fields.find? fun field => lower field.name == lower name).map Field.body

/-! ## Parameters of a field -/

/-- A text in quotes, from behind the first quote on. -/
def quotedString? : Bool → Text → Option (Text × Text)
  | _, [] => none
  | true, c :: rest => (quotedString? false rest).map fun read => (c :: read.1, read.2)
  | false, c :: rest =>
      if c = '"' then some ([], rest)
      else if c = '\\' then quotedString? true rest
      else (quotedString? false rest).map fun read => (c :: read.1, read.2)

/-- What stands behind the equals sign of a parameter. -/
def parameterValue? (text : Text) : Option (Text × Text) :=
  match text with
  | [] => none
  | c :: rest =>
      if c = '"' then quotedString? false rest
      else some (text.takeWhile (· != ';'), text.dropWhile (· != ';'))

/-- The parameters after a value. -/
def parameters? : Nat → Text → Option (List (Text × Text))
  | 0, _ => none
  | fuel + 1, text =>
      match text.dropWhile isBlank with
      | [] => some []
      | c :: rest =>
          if c = ';' then
            let name := (rest.dropWhile isBlank).takeWhile (· != '=')
            let value := ((rest.dropWhile isBlank).dropWhile (· != '=')).tail
            (parameterValue? value).bind fun read =>
              (parameters? fuel read.2).map ((lower name, read.1) :: ·)
          else none

/-- A value with parameters. -/
structure Parameterized where
  value : Text
  parameters : List (Text × Text)
  deriving DecidableEq

/-- Reads a value with parameters. -/
def readParameterized (text : Text) : Option Parameterized :=
  (parameters? (text.length + 1) (text.dropWhile (· != ';'))).map fun parameters =>
    ⟨lower (dropTrailingBlanks (text.takeWhile (· != ';'))), parameters⟩

/-- The parameter of a name. -/
def Parameterized.parameter? (field : Parameterized) (name : Text) : Option Text :=
  (field.parameters.find? (·.1 == name)).map Prod.snd

/-! ## Encoded words -/

/-- The text of an encoded word. -/
def encodedWord? (word : Text) : Option Text :=
  match word with
  | '=' :: '?' :: rest =>
      match rest.dropWhile (· != '?') with
      | '?' :: encoding :: '?' :: encoded =>
          if lower (rest.takeWhile (· != '?')) = "utf-8".toList ∧ encoding.toLower = 'b'
              ∧ encoded.dropWhile (· != '?') = ['?', '='] then
            ((Base64.decodeText (encoded.takeWhile (· != '?'))).bind Buffers.utf8?).map
              String.toList
          else none
      | _ => none
  | _ => none

/-- The words of a text, each with the blanks in front of it. -/
def words : Text → List (Text × Text)
  | [] => []
  | c :: rest =>
      if isBlank c then
        match words rest with
        | [] => [([c], [])]
        | (blanks, word) :: more => (c :: blanks, word) :: more
      else
        match words rest with
        | ([], word) :: more => ([], c :: word) :: more
        | more => ([], [c]) :: more

/-- Blanks between two encoded words are no part of the text. -/
def decodeWords : Bool → List (Text × Text) → Text
  | _, [] => []
  | afterEncoded, (blanks, word) :: rest =>
      match encodedWord? word with
      | some text => (if afterEncoded then [] else blanks) ++ text ++ decodeWords true rest
      | none => blanks ++ word ++ decodeWords false rest

/-- The text of a header, its encoded words decoded. -/
def decodeHeaderText (text : Text) : Text := decodeWords false (words text)

/-! ## Mailboxes -/

/-- Name and address. -/
structure Mailbox where
  displayName : Text
  address : Text
  deriving DecidableEq

/-- An address alone, or a name and the address in angle brackets. -/
def readMailbox (text : Text) : Option Mailbox :=
  match text.dropWhile (· != '<') with
  | [] => some ⟨[], text⟩
  | _ :: rest =>
      if rest.dropWhile (· != '>') = ['>'] then
        some ⟨decodeHeaderText (dropTrailingBlanks (text.takeWhile (· != '<'))),
          rest.takeWhile (· != '>')⟩
      else none

/-- Mailboxes with a comma between each two. -/
def readMailboxes : Nat → Text → Option (List Mailbox)
  | 0, _ => none
  | fuel + 1, text =>
      let mailbox := dropTrailingBlanks ((text.takeWhile (· != ',')).dropWhile isBlank)
      (readMailbox mailbox).bind fun mailbox =>
        match text.dropWhile (· != ',') with
        | [] => some [mailbox]
        | _ :: rest => (readMailboxes fuel rest).map (mailbox :: ·)

/-- A list of mailboxes. -/
def mailboxes? (text : Text) : Option (List Mailbox) := readMailboxes (text.length + 1) text

/-! ## Multipart bodies -/

/-- A line that begins with a boundary and holds but blanks behind it. -/
def isDelimiter (delimiter line : Text) : Bool :=
  delimiter.isPrefixOf line && (line.drop delimiter.length).all isBlank

/-- The lines of the parts, up to the closing boundary. -/
def collectParts (boundary : Text) : List Text → List Text → Option (List (List Text))
  | _, [] => none
  | current, line :: rest =>
      if isDelimiter ('-' :: '-' :: boundary ++ ['-', '-']) line then some [current]
      else if isDelimiter ('-' :: '-' :: boundary) line then
        (collectParts boundary [] rest).map (current :: ·)
      else collectParts boundary (current ++ [line]) rest

/-- The parts behind the first boundary. -/
def splitParts (boundary : Text) (lines : List Text) : Option (List (List Text)) :=
  collectParts boundary [] (lines.dropWhile (! isDelimiter ('-' :: '-' :: boundary) ·)).tail

/-- A part of a mail. -/
structure Part where
  fields : List Field
  contentType : Parameterized
  fileName : Option Text
  content : Buffer
  deriving DecidableEq

/-- The content of a part, in the encoding for the transfer that the part names. -/
def transferDecode (fields : List Field) (lines : List Text) : Option Buffer :=
  match fieldBody? fields "content-transfer-encoding".toList with
  | none => some (asciiBytes (joinLines lines))
  | some encoding =>
      if lower encoding = "base64".toList then Base64.decodeText (joinLines lines)
      else if lower encoding = "7bit".toList then some (asciiBytes (joinLines lines))
      else none

/-- The file name of the disposition, if there is one. -/
def readFileName (fields : List Field) : Option (Option Text) :=
  match fieldBody? fields "content-disposition".toList with
  | none => some none
  | some disposition =>
      (readParameterized disposition).map fun value => value.parameter? "filename".toList

/-- Reads a part. -/
def readPart (lines : List Text) : Option Part := do
  let (fields, body) ← readEntity lines
  let contentType ← (fieldBody? fields "content-type".toList).bind readParameterized
  let fileName ← readFileName fields
  let content ← transferDecode fields body
  some { fields, contentType, fileName, content }

/-! ## Messages -/

/-- What a reader gets of a mail. -/
structure MailMessage where
  fields : List Field
  senders : List Mailbox
  recipients : List Mailbox
  copies : List Mailbox
  subject : Text
  parts : List Part
  deriving DecidableEq

/-- The mailboxes of a field that may be missing. -/
def fieldMailboxes? (fields : List Field) (name : Text) : Option (List Mailbox) :=
  match fieldBody? fields name with
  | none => some []
  | some body => mailboxes? body

/-- The boundary of a message with several parts. -/
def boundary? (fields : List Field) : Option Text := do
  let contentType ← (fieldBody? fields "content-type".toList).bind readParameterized
  if contentType.value = "multipart/mixed".toList then contentType.parameter? "boundary".toList
  else none

/-- Reads a mail. -/
def readMessage (message : Buffer) : Option MailMessage := do
  let (fields, body) ← readEntity (splitLines (asciiText message))
  let senders ← fieldMailboxes? fields "from".toList
  let recipients ← fieldMailboxes? fields "to".toList
  let copies ← fieldMailboxes? fields "cc".toList
  let boundary ← boundary? fields
  let parts ← (← splitParts boundary body).mapM readPart
  some
    { fields, senders, recipients, copies,
      subject := ((fieldBody? fields "subject".toList).map decodeHeaderText).getD [],
      parts }

/-! ## Header fields that were put together -/

/-- A line and its continuation lines, none of them empty. -/
structure Folded (block : List Text) : Prop where
  exists_first : ∃ first more, block = first :: more ∧ startsBlank first = false
    ∧ ∀ line ∈ more, startsBlank line = true
  nonempty : ∀ line ∈ block, line ≠ []

/-- The line of a field. -/
def Field.text (field : Field) : Text := field.name ++ ':' :: ' ' :: field.body

/-- A name of printable characters and a body that does not begin with a blank. -/
structure Field.Valid (field : Field) : Prop where
  name_ne : field.name ≠ []
  name_chars : ∀ c ∈ field.name, isNameChar c = true
  body : startsBlank field.body = false

/-- The lines are the text of the field, folded somewhere. -/
structure Field.FoldsTo (field : Field) (block : List Text) : Prop where
  valid : field.Valid
  folded : Folded block
  text : block.flatten = field.text

variable {first text : Text} {fields : List Field} {rest : List Text}

theorem startsBlank_append {rest : Text} (h : first ≠ []) :
    startsBlank (first ++ rest) = startsBlank first := by
  obtain ⟨c, first, rfl⟩ := List.exists_cons_of_ne_nil h
  rfl

theorem ne_nil_of_startsBlank {line : Text} (h : startsBlank line = true) : line ≠ [] := by
  rintro rfl
  exact nomatch h

theorem unfoldLines_block {more : List Text} (hmore : ∀ line ∈ more, startsBlank line = true)
    (hrest : ∀ next ∈ (unfoldLines rest).head?, startsBlank next = false) :
    unfoldLines (first :: more ++ rest) = (first ++ more.flatten) :: unfoldLines rest := by
  induction more generalizing first with
  | nil =>
      rw [List.flatten_nil, List.append_nil, List.cons_append, List.nil_append, unfoldLines]
      cases hlines : unfoldLines rest with
      | nil => rfl
      | cons next lines =>
          rw [hlines] at hrest
          show (if startsBlank next then _ else _) = _
          rw [hrest next rfl]
          rfl
  | cons line more ih =>
      have hline := hmore line List.mem_cons_self
      rw [List.cons_append, unfoldLines,
        ih fun other hother => hmore other (List.mem_cons_of_mem line hother)]
      show (if startsBlank (line ++ more.flatten) then _ else _) = _
      rw [startsBlank_append (ne_nil_of_startsBlank hline), hline]
      rfl

theorem unfoldLines_flatten {blocks : List (List Text)} (h : ∀ block ∈ blocks, Folded block) :
    unfoldLines blocks.flatten = blocks.map List.flatten := by
  induction blocks with
  | nil => rfl
  | cons block blocks ih =>
      obtain ⟨⟨first, more, rfl, hfirst, hmore⟩, -⟩ := h _ List.mem_cons_self
      have ih := ih fun other hother => h other (List.mem_cons_of_mem _ hother)
      rw [List.flatten_cons, unfoldLines_block hmore ?_, ih]
      · rfl
      · intro next hnext
        rw [ih] at hnext
        cases blocks with
        | nil => exact nomatch hnext
        | cons other blocks =>
            have hother := h other (List.mem_cons_of_mem _ List.mem_cons_self)
            obtain ⟨⟨first, more, rfl, hfirst, -⟩, hne⟩ := hother
            obtain rfl := Option.some.inj hnext
            exact (startsBlank_append (hne first List.mem_cons_self)).trans hfirst

theorem dropWhile_of_not_startsBlank (h : startsBlank text = false) :
    text.dropWhile isBlank = text := by
  cases text with
  | nil => rfl
  | cons c rest =>
      have hc : isBlank c = false := h
      rw [List.dropWhile_cons, if_neg (by rw [hc]; decide)]

/-- Up to the first place at which a character stands. -/
theorem takeWhile_ne {rest : Text} {c : Char} (h : c ∉ first) :
    (first ++ c :: rest).takeWhile (· != c) = first
      ∧ (first ++ c :: rest).dropWhile (· != c) = c :: rest := by
  have hfirst : ∀ d ∈ first, (d != c) = true :=
    fun d hd => bne_iff_ne.mpr fun he => h (he ▸ hd)
  have hc : ¬ (c != c) = true := by simp
  constructor
  · rw [List.takeWhile_append_of_pos hfirst, List.takeWhile_cons, if_neg hc, List.append_nil]
  · rw [List.dropWhile_append_of_pos hfirst, List.dropWhile_cons, if_neg hc]

theorem takeWhile_ne_all {c : Char} (h : c ∉ text) :
    text.takeWhile (· != c) = text ∧ text.dropWhile (· != c) = [] := by
  have htext : ∀ d ∈ text, (d != c) = true := fun d hd => bne_iff_ne.mpr fun he => h (he ▸ hd)
  exact ⟨List.takeWhile_eq_self_iff.mpr htext, List.dropWhile_eq_nil_iff.mpr htext⟩

theorem readField_text {field : Field} (h : field.Valid) : readField field.text = some field := by
  have hcolon : ':' ∉ field.name := fun hmem => absurd (h.name_chars ':' hmem) (by decide)
  obtain ⟨htake, hdrop⟩ := @takeWhile_ne field.name (' ' :: field.body) ':' hcolon
  rw [readField, Field.text, htake, hdrop]
  have hblank : (' ' :: field.body).dropWhile isBlank = field.body :=
    dropWhile_of_not_startsBlank h.body
  show (if _ then some _ else none) = _
  rw [if_pos ⟨h.name_ne, List.all_eq_true.mpr h.name_chars⟩, hblank]

/-- Fields that were folded are read, and what stands behind the empty line is left. -/
theorem readEntity_of_folded {fields : List Field} {blocks : List (List Text)} {rest : List Text}
    (h : List.Forall₂ Field.FoldsTo fields blocks) :
    readEntity (blocks.flatten ++ [] :: rest) = some (fields, rest) := by
  have hfolded : ∀ block ∈ blocks, Folded block := by
    induction h with
    | nil => exact fun block hblock => nomatch hblock
    | cons hfold _ ih =>
        intro block hblock
        rcases List.mem_cons.mp hblock with rfl | hblock
        · exact hfold.folded
        · exact ih block hblock
  have hne : ∀ line ∈ blocks.flatten, decide (line ≠ []) = true := by
    intro line hline
    obtain ⟨block, hblock, hmem⟩ := List.mem_flatten.mp hline
    exact decide_eq_true ((hfolded block hblock).nonempty line hmem)
  have hread : (blocks.map List.flatten).mapM readField = some fields := by
    clear hfolded hne
    induction h with
    | nil => rfl
    | cons hfold _ ih =>
        rw [List.map_cons, List.mapM_cons, hfold.text, readField_text hfold.valid, ih]
        rfl
  rw [readEntity, List.takeWhile_append_of_pos hne, List.dropWhile_append_of_pos hne]
  show Option.map _ ((unfoldLines (blocks.flatten ++ [])).mapM readField) = _
  rw [List.append_nil, unfoldLines_flatten hfolded, hread]
  rfl

/-- A field that takes one line. -/
theorem foldsTo_single {field : Field} (h : field.Valid) (hstart : startsBlank field.name = false) :
    field.FoldsTo [field.text] := by
  have hne : field.text ≠ [] := List.append_ne_nil_of_left_ne_nil h.name_ne _
  refine ⟨h, ⟨⟨_, [], rfl, ?_, fun _ hline => nomatch hline⟩, ?_⟩, List.flatten_singleton⟩
  · rw [Field.text, startsBlank_append h.name_ne, hstart]
  · intro line hline
    obtain rfl := List.mem_singleton.mp hline
    exact hne

/-! ## Parameters that were put together -/

theorem quotedString?_eq {rest : Text} (hquote : '"' ∉ text) (hescape : '\\' ∉ text) :
    quotedString? false (text ++ '"' :: rest) = some (text, rest) := by
  induction text with
  | nil => rfl
  | cons c text ih =>
      rw [List.mem_cons, not_or] at hquote hescape
      rw [List.cons_append, quotedString?, if_neg (Ne.symm hquote.1), if_neg (Ne.symm hescape.1),
        ih hquote.2 hescape.2]
      rfl

theorem dropTrailingBlanks_eq (h : ∀ c ∈ text.getLast?, isBlank c = false) :
    dropTrailingBlanks text = text := by
  rw [dropTrailingBlanks, dropWhile_of_not_startsBlank, List.reverse_reverse]
  rw [startsBlank, List.head?_reverse]
  cases hlast : text.getLast? with
  | none => rfl
  | some c => exact h c hlast

/-- A value and one parameter in quotes. -/
theorem readParameterized_quoted {value name text : Text} (hvalue : ';' ∉ value)
    (hlast : ∀ c ∈ value.getLast?, isBlank c = false) (hname : '=' ∉ name)
    (hstart : startsBlank name = false) (hquote : '"' ∉ text) (hescape : '\\' ∉ text) :
    readParameterized (value ++ ';' :: ' ' :: (name ++ '=' :: '"' :: (text ++ ['"'])))
      = some ⟨lower value, [(lower name, text)]⟩ := by
  obtain ⟨htake, hdrop⟩ :=
    @takeWhile_ne value (' ' :: (name ++ '=' :: '"' :: (text ++ ['"']))) ';' hvalue
  obtain ⟨htakeName, hdropName⟩ := @takeWhile_ne name ('"' :: (text ++ ['"'])) '=' hname
  rw [readParameterized, htake, hdrop, dropTrailingBlanks_eq hlast]
  have hblank : (' ' :: (name ++ '=' :: '"' :: (text ++ ['"']))).dropWhile isBlank
      = name ++ '=' :: '"' :: (text ++ ['"']) := by
    show (name ++ '=' :: '"' :: (text ++ ['"'])).dropWhile isBlank = _
    refine dropWhile_of_not_startsBlank ?_
    cases name with
    | nil => rfl
    | cons c name => exact hstart
  have hread : parameterValue? ('"' :: (text ++ ['"'])) = some (text, []) :=
    quotedString?_eq hquote hescape
  have hlength : (value ++ ';' :: ' ' :: (name ++ '=' :: '"' :: (text ++ ['"']))).length
      = (value.length + name.length + text.length + 4) + 1 := by
    simp only [List.length_append, List.length_cons, List.length_nil]
    omega
  rw [hlength, parameters?]
  show Option.map _ (if ';' = ';' then _ else none) = _
  rw [if_pos rfl, hblank, htakeName, hdropName]
  show Option.map _ ((parameterValue? ('"' :: (text ++ ['"']))).bind fun read =>
    Option.map ((lower name, read.1) :: ·) (parameters? _ read.2)) = _
  rw [hread]
  rfl

/-! ## Encoded words in a row -/

/-- An encoded word of the kind that is read. -/
def utf8Word (encoded : Text) : Text := "=?UTF-8?B?".toList ++ encoded ++ ['?', '=']

theorem encodedWord?_utf8Word {encoded : Text} {text : String} (hmark : '?' ∉ encoded)
    (h : Base64.decodeText encoded = some (Buffers.utf8 text)) :
    encodedWord? (utf8Word encoded) = some text.toList := by
  have hcharset : '?' ∉ "UTF-8".toList := by decide
  have hlower : lower "UTF-8".toList = "utf-8".toList := by decide
  have hencoding : 'B'.toLower = 'b' := by decide
  obtain ⟨htake, hdrop⟩ := @takeWhile_ne encoded ['='] '?' hmark
  obtain ⟨htakeSet, hdropSet⟩ :=
    @takeWhile_ne "UTF-8".toList ('B' :: '?' :: (encoded ++ ['?', '='])) '?' hcharset
  have hword : utf8Word encoded
      = '=' :: '?' :: ("UTF-8".toList ++ '?' :: 'B' :: '?' :: (encoded ++ ['?', '='])) := rfl
  rw [hword]
  simp only [encodedWord?, htakeSet, hdropSet, htake, hdrop]
  rw [if_pos ⟨hlower, hencoding, trivial⟩, h]
  show Option.map String.toList (Buffers.utf8? (Buffers.utf8 text)) = _
  rw [Buffers.utf8?_eq_some.mpr rfl]
  rfl

/-- A text without blanks. -/
def Unblank (word : Text) : Prop := ∀ c ∈ word, isBlank c = false

theorem words_append {word rest blanks next : Text} {more : List (Text × Text)}
    (hword : Unblank word) (hne : word ≠ [])
    (hrest : words rest = (blanks, next) :: more) (hblanks : blanks ≠ []) :
    words (word ++ rest) = ([], word) :: (blanks, next) :: more := by
  induction word with
  | nil => exact absurd rfl hne
  | cons c word ih =>
      have hc := hword c List.mem_cons_self
      rw [List.cons_append, words, hc]
      by_cases hnil : word = []
      · subst hnil
        obtain ⟨b, blanks, rfl⟩ := List.exists_cons_of_ne_nil hblanks
        rw [List.nil_append, hrest]
        rfl
      · rw [ih (fun d hd => hword d (List.mem_cons_of_mem c hd)) hnil]
        rfl

theorem words_of_unblank {word : Text} (hword : Unblank word) (hne : word ≠ []) :
    words word = [([], word)] := by
  induction word with
  | nil => exact absurd rfl hne
  | cons c word ih =>
      have hc := hword c List.mem_cons_self
      rw [words, hc]
      by_cases hnil : word = []
      · subst hnil
        rfl
      · rw [ih (fun d hd => hword d (List.mem_cons_of_mem c hd)) hnil]
        rfl

/-- The texts with a space between each two. -/
def joinWords : List Text → Text
  | [] => []
  | [word] => word
  | word :: next :: rest => word ++ ' ' :: joinWords (next :: rest)

theorem words_joinWords (h : ∀ word ∈ first :: rest, Unblank word ∧ word ≠ []) :
    words (joinWords (first :: rest)) = ([], first) :: rest.map fun word => ([' '], word) := by
  induction rest generalizing first with
  | nil =>
      have hfirst := h first List.mem_cons_self
      exact words_of_unblank hfirst.1 hfirst.2
  | cons next rest ih =>
      have hfirst := h first List.mem_cons_self
      have ih := @ih next fun word hword => h word (List.mem_cons_of_mem first hword)
      have hrest : words (' ' :: joinWords (next :: rest))
          = ([' '], next) :: rest.map fun word => ([' '], word) := by
        rw [words, ih]
        rfl
      exact words_append hfirst.1 hfirst.2 hrest (List.cons_ne_nil _ _)

/-- Encoded words with a space between each two are read as their texts without any. -/
theorem decodeHeaderText_joinWords {encoded : List Text} {texts : List Text}
    (hwords : ∀ word ∈ encoded, Unblank word ∧ word ≠ [])
    (h : List.Forall₂ (fun word text => encodedWord? word = some text) encoded texts) :
    decodeHeaderText (joinWords encoded) = texts.flatten := by
  have hrest : ∀ {encoded texts : List Text},
      List.Forall₂ (fun word text => encodedWord? word = some text) encoded texts →
      decodeWords true (encoded.map fun word => ([' '], word)) = texts.flatten := by
    intro encoded texts h
    induction h with
    | nil => rfl
    | cons hword _ ih =>
        rw [List.map_cons, decodeWords, hword]
        show [] ++ _ ++ decodeWords true _ = _
        rw [ih, List.nil_append, List.flatten_cons]
  cases h with
  | nil => rfl
  | cons hword hmore =>
      rw [decodeHeaderText, words_joinWords hwords, decodeWords, hword]
      show [] ++ _ ++ decodeWords true _ = _
      rw [hrest hmore, List.nil_append, List.flatten_cons]

/-! ## Mailboxes that were put together -/

theorem readMailbox_address {address : Text} (h : '<' ∉ address) :
    readMailbox address = some ⟨[], address⟩ := by
  rw [readMailbox, (takeWhile_ne_all h).2]

theorem readMailbox_named {phrase address : Text} (hphrase : '<' ∉ phrase)
    (hlast : ∀ c ∈ phrase.getLast?, isBlank c = false) (haddress : '>' ∉ address) :
    readMailbox (phrase ++ ' ' :: '<' :: address ++ ['>'])
      = some ⟨decodeHeaderText phrase, address⟩ := by
  have hopen : '<' ∉ phrase ++ [' '] := by
    rw [List.mem_append, not_or]
    exact ⟨hphrase, by decide⟩
  have htext : phrase ++ ' ' :: '<' :: address ++ ['>']
      = (phrase ++ [' ']) ++ '<' :: (address ++ ['>']) := by
    simp
  obtain ⟨htake, hdrop⟩ := @takeWhile_ne (phrase ++ [' ']) (address ++ ['>']) '<' hopen
  obtain ⟨htakeAddress, hdropAddress⟩ := @takeWhile_ne address [] '>' haddress
  have htrailing : dropTrailingBlanks (phrase ++ [' ']) = phrase := by
    rw [dropTrailingBlanks, List.reverse_append]
    exact dropTrailingBlanks_eq hlast
  rw [readMailbox, htext, htake, hdrop]
  show (if (address ++ ['>']).dropWhile (· != '>') = ['>'] then
    some (Mailbox.mk (decodeHeaderText (dropTrailingBlanks (phrase ++ [' '])))
      ((address ++ ['>']).takeWhile (· != '>'))) else none) = _
  rw [htakeAddress, hdropAddress, if_pos rfl, htrailing]

/-- A text without a comma is one mailbox. -/
theorem mailboxes?_single {mailbox : Mailbox} (hcomma : ',' ∉ text)
    (hstart : startsBlank text = false) (hlast : ∀ c ∈ text.getLast?, isBlank c = false)
    (h : readMailbox text = some mailbox) : mailboxes? text = some [mailbox] := by
  obtain ⟨htake, hdrop⟩ := takeWhile_ne_all hcomma
  rw [mailboxes?, readMailboxes, htake, hdrop, dropWhile_of_not_startsBlank hstart,
    dropTrailingBlanks_eq hlast, h]
  rfl

/-! ## Parts that were put together -/

section Parts

variable {boundary : Text}

theorem isDelimiter_self (delimiter : Text) : isDelimiter delimiter delimiter = true := by
  rw [isDelimiter, List.drop_length, List.isPrefixOf_iff_prefix.mpr (List.prefix_refl _)]
  rfl

theorem not_isDelimiter {delimiter line : Text} (h : ¬ delimiter <+: line) :
    isDelimiter delimiter line = false := by
  rw [isDelimiter, Bool.and_eq_false_iff]
  refine .inl (Bool.eq_false_iff.mpr fun hprefix => ?_)
  exact h (List.isPrefixOf_iff_prefix.mp hprefix)

theorem not_isDelimiter_open :
    isDelimiter ('-' :: '-' :: boundary ++ ['-', '-']) ('-' :: '-' :: boundary) = false := by
  refine not_isDelimiter fun hprefix => ?_
  have hle := hprefix.length_le
  simp only [List.length_append, List.length_cons, List.length_nil] at hle
  omega

/-- Lines of a part do not begin with two hyphens and the boundary. -/
def NoBoundary (boundary : Text) (lines : List Text) : Prop :=
  ∀ line ∈ lines, ¬ ('-' :: '-' :: boundary) <+: line

theorem collectParts_lines {current lines : List Text} (h : NoBoundary boundary lines) :
    collectParts boundary current (lines ++ rest)
      = collectParts boundary (current ++ lines) rest := by
  induction lines generalizing current with
  | nil => rw [List.append_nil, List.nil_append]
  | cons line lines ih =>
      have hline := h line List.mem_cons_self
      have hclose : ¬ ('-' :: '-' :: boundary ++ ['-', '-']) <+: line :=
        fun hprefix => hline ((List.prefix_append _ _).trans hprefix)
      rw [List.cons_append, collectParts, not_isDelimiter hclose, not_isDelimiter hline]
      show collectParts boundary (current ++ [line]) (lines ++ rest) = _
      rw [ih fun other hother => h other (List.mem_cons_of_mem line hother), List.append_assoc]
      rfl

/-- Two parts between their delimiters. -/
theorem splitParts_two {first second : List Text} (hfirst : NoBoundary boundary first)
    (hsecond : NoBoundary boundary second) :
    splitParts boundary (('-' :: '-' :: boundary) :: (first ++ ('-' :: '-' :: boundary)
      :: (second ++ ('-' :: '-' :: boundary ++ ['-', '-']) :: rest))) = some [first, second] := by
  have hopen : ¬ (! isDelimiter ('-' :: '-' :: boundary) ('-' :: '-' :: boundary)) = true := by
    rw [isDelimiter_self]
    decide
  rw [splitParts, List.dropWhile_cons, if_neg hopen, List.tail_cons, collectParts_lines hfirst,
    collectParts, not_isDelimiter_open, isDelimiter_self]
  show Option.map _ (collectParts boundary [] _) = _
  rw [collectParts_lines hsecond, collectParts, isDelimiter_self]
  rfl

end Parts

/-! ## Reading in steps -/

theorem readPart_of {lines body : List Text} {contentType : Parameterized} {fileName : Option Text}
    {content : Buffer} (hentity : readEntity lines = some (fields, body))
    (htype : (fieldBody? fields "content-type".toList).bind readParameterized = some contentType)
    (hname : readFileName fields = some fileName)
    (hcontent : transferDecode fields body = some content) :
    readPart lines = some { fields, contentType, fileName, content } := by
  simp only [readPart, hentity, htype, hname, hcontent, Option.bind_eq_bind, Option.bind_some]

theorem readMessage_of {message : Buffer} {body : List Text}
    {senders recipients copies : List Mailbox} {boundary subject : Text}
    {contents : List (List Text)} {parts : List Part}
    (hentity : readEntity (splitLines (asciiText message)) = some (fields, body))
    (hsenders : fieldMailboxes? fields "from".toList = some senders)
    (hrecipients : fieldMailboxes? fields "to".toList = some recipients)
    (hcopies : fieldMailboxes? fields "cc".toList = some copies)
    (hboundary : boundary? fields = some boundary)
    (hcontents : splitParts boundary body = some contents)
    (hparts : contents.mapM readPart = some parts)
    (hsubject : ((fieldBody? fields "subject".toList).map decodeHeaderText).getD [] = subject) :
    readMessage message = some { fields, senders, recipients, copies, subject, parts } := by
  simp only [readMessage, hentity, hsenders, hrecipients, hcopies, hboundary, hcontents, hparts,
    hsubject, Option.bind_eq_bind, Option.bind_some]

end MailFormat
