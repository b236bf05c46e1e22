import Eky.SmtpReplyParser

/-! # Which streams of replies are taken

    - `matchLine_eq_some`: the pattern takes exactly the contents of lines with a code from
      200 to 599, and returns the line;
    - `Reads`: what the parser has read so far is what it has returned, the lines of the
      open reply and the buffer;
    - `feed_render`: a reply that fits goes through. -/

namespace SmtpReplyParser

open Fallible ChunkedInput

/-! ## One line -/

theorem codeDigits_of_digits {hundreds tens units : UInt8}
    (hh : 0x30 ≤ hundreds.toNat ∧ hundreds.toNat ≤ 0x39) (ht : isDigit tens)
    (hu : isDigit units) :
    codeDigits ((hundreds.toNat - 0x30) * 100 + (tens.toNat - 0x30) * 10
      + (units.toNat - 0x30)) = [hundreds, tens, units] := by
  have hofNat : ∀ (byte : UInt8) (n : Nat), n = byte.toNat → UInt8.ofNat n = byte := by
    rintro byte n rfl
    exact UInt8.ofNat_toNat
  obtain ⟨ht1, ht2⟩ := ht
  obtain ⟨hu1, hu2⟩ := hu
  rw [codeDigits, hofNat hundreds _ (by omega), hofNat tens _ (by omega),
    hofNat units _ (by omega)]

theorem toNat_ofNat_digit {n : Nat} (h : n < 10) : (UInt8.ofNat (0x30 + n)).toNat = 0x30 + n := by
  rw [UInt8.toNat_ofNat', Nat.mod_eq_of_lt (by omega)]

@[simp] theorem separatorOf_byte (separator : Separator) :
    separatorOf separator.byte = some separator := by
  cases separator <;> rfl

variable {limits : Limits} {line : SmtpReplyLine} {stream : Buffer} {parser next : Parser}
  {replies : List SmtpReply} {byte : UInt8}

theorem separatorOf_eq_some {separator : Separator} (h : separatorOf byte = some separator) :
    separator.byte = byte := by
  unfold separatorOf at h
  split at h
  · rename_i hbyte
    cases h
    exact hbyte.symm
  · split at h
    · rename_i hbyte
      cases h
      exact hbyte.symm
    · exact nomatch h

/-- The pattern matches a line and returns its parts. -/
theorem matchLine_content (hcode : 200 ≤ line.code ∧ line.code < 600)
    (htext : ∀ byte ∈ line.text, byte ≠ lf ∧ byte ≠ cr) : matchLine line.content = some line := by
  obtain ⟨code, separator, text⟩ := line
  obtain ⟨hlow, hhigh⟩ := hcode
  dsimp only at hlow hhigh htext
  have hh : (UInt8.ofNat (0x30 + code / 100)).toNat = 0x30 + code / 100 :=
    toNat_ofNat_digit (by omega)
  have ht : (UInt8.ofNat (0x30 + code / 10 % 10)).toNat = 0x30 + code / 10 % 10 :=
    toNat_ofNat_digit (by omega)
  have hu : (UInt8.ofNat (0x30 + code % 10)).toNat = 0x30 + code % 10 :=
    toNat_ofNat_digit (by omega)
  show matchLine (UInt8.ofNat (0x30 + code / 100) :: UInt8.ofNat (0x30 + code / 10 % 10)
    :: UInt8.ofNat (0x30 + code % 10) :: separator.byte :: text) = _
  have hmatched : (0x32 ≤ (UInt8.ofNat (0x30 + code / 100)).toNat
      ∧ (UInt8.ofNat (0x30 + code / 100)).toNat ≤ 0x35)
      ∧ isDigit (UInt8.ofNat (0x30 + code / 10 % 10)) ∧ isDigit (UInt8.ofNat (0x30 + code % 10))
      ∧ ∀ byte ∈ text, byte ≠ lf ∧ byte ≠ cr := by
    unfold isDigit
    rw [hh, ht, hu]
    exact ⟨by omega, by omega, by omega, htext⟩
  rw [matchLine, if_pos hmatched, separatorOf_byte, hh, ht, hu, Option.map_some]
  refine congrArg (fun code => some (SmtpReplyLine.mk code separator text)) ?_
  omega

/-- **THE PATTERN**: what it returns is the line it was given. -/
theorem matchLine_eq_some {content : Buffer} :
    matchLine content = some line ↔ line.content = content
      ∧ (200 ≤ line.code ∧ line.code < 600) ∧ ∀ byte ∈ line.text, byte ≠ lf ∧ byte ≠ cr := by
  constructor
  · intro h
    match content, h with
    | hundreds :: tens :: units :: separator :: text, h =>
        rw [matchLine] at h
        split at h
        · rename_i hmatched
          obtain ⟨hh, ht, hu, htext⟩ := hmatched
          obtain ⟨parsed, hparsed, rfl⟩ := Option.map_eq_some_iff.mp h
          refine ⟨?_, ?_, htext⟩
          · show codeDigits _ ++ parsed.byte :: text = _
            rw [codeDigits_of_digits ⟨by omega, by omega⟩ ht hu, separatorOf_eq_some hparsed]
            rfl
          · obtain ⟨ht1, ht2⟩ := ht
            obtain ⟨hu1, hu2⟩ := hu
            dsimp only
            omega
        · exact nomatch h
  · rintro ⟨rfl, hcode, htext⟩
    exact matchLine_content hcode htext

theorem SmtpReplyLine.Fits.plain (h : line.Fits limits) :
    ∀ byte ∈ line.content, byte ≠ 0 ∧ byte ≠ cr ∧ byte ≠ lf := by
  have hdigit : ∀ n < 10, UInt8.ofNat (0x30 + n) ≠ 0 ∧ UInt8.ofNat (0x30 + n) ≠ cr
      ∧ UInt8.ofNat (0x30 + n) ≠ lf := by decide
  obtain ⟨hlow, hhigh⟩ := h.code
  intro byte hbyte
  simp only [SmtpReplyLine.content, codeDigits, List.cons_append, List.nil_append,
    List.mem_cons] at hbyte
  obtain rfl | rfl | rfl | rfl | hbyte := hbyte
  · exact hdigit _ (by omega)
  · exact hdigit _ (by omega)
  · exact hdigit _ (by omega)
  · cases line.separator <;> decide
  · exact h.text byte hbyte

/-- When a line is taken: it is a line that fits, with the code of the open reply, and the
    reply stays within its limit. -/
theorem consumeLine_eq_ok {content : Buffer} : consumeLine parser content = .ok (replies, next) ↔
      ∃ line : SmtpReplyLine, line.content = content ∧ line.Fits parser.limits
        ∧ (∀ code ∈ parser.currentCode, line.code = code)
        ∧ ((parser.currentReplyBytes + (content.length + 2) : Nat) : Int)
            ≤ parser.limits.maximumReplyBytes
        ∧ (replies, next) = closeLine
          { parser with
            currentCode := parser.currentCode <|> some line.code
            currentLines := parser.currentLines ++ [line]
            currentReplyBytes := parser.currentReplyBytes + (content.length + 2) } line := by
  simp only [consumeLine, bind_eq_ok, throwIf_eq_ok, orThrow_eq_ok, matchLine_eq_some,
    Except.ok.injEq]
  constructor
  · rintro ⟨-, hline, line, ⟨rfl, hcode, -⟩, -, hsame, -, hbytes, hclose⟩
    obtain ⟨hlength, hplain⟩ := not_or.mp hline
    refine ⟨line, rfl, ⟨hcode, ?_, by omega⟩, ?_, by omega, hclose.symm⟩
    · intro byte hbyte
      have hmem : byte ∈ line.content := List.mem_append_right _ (List.mem_cons_of_mem _ hbyte)
      refine ⟨?_, ?_, ?_⟩
      · exact fun h => hplain ⟨byte, hmem, .inl h⟩
      · exact fun h => hplain ⟨byte, hmem, .inr (.inl h)⟩
      · exact fun h => hplain ⟨byte, hmem, .inr (.inr h)⟩
    · intro code hcode'
      by_contra hne
      exact hsame ⟨code, hcode', hne⟩
  · rintro ⟨line, rfl, hfits, hsame, hbytes, hclose⟩
    refine ⟨(), ?_, line, ⟨rfl, hfits.code, ?_⟩, (), ?_, (), by omega, hclose.symm⟩
    · rintro (hlength | ⟨byte, hbyte, hbad⟩)
      · exact absurd hfits.length (by omega)
      · obtain ⟨h0, hcr, hlf⟩ := hfits.plain byte hbyte
        exact hbad.elim h0 fun h => h.elim hcr hlf
    · exact fun byte hbyte => ⟨(hfits.text byte hbyte).2.2, (hfits.text byte hbyte).2.1⟩
    · rintro ⟨code, hcode, hne⟩
      exact hne (hsame code hcode)

/-! ## What the parser has read -/

/-- What has come in is what has been returned, then the lines of the open reply, then the
    buffer. -/
structure Reads (limits : Limits) (stream : Buffer) (replies : List SmtpReply)
    (parser : Parser) : Prop where
  stream : stream = replies.flatMap SmtpReply.render
    ++ parser.currentLines.flatMap SmtpReplyLine.render ++ parser.buffer
  replies : ∀ reply ∈ replies, reply.Fits limits
  lines : ∀ line ∈ parser.currentLines, parser.currentCode = some line.code
    ∧ line.separator = .more ∧ line.Fits limits
  bytes : parser.currentReplyBytes
    = (parser.currentLines.flatMap SmtpReplyLine.render).length
  limits : parser.limits = limits

theorem reads_start (limits : Limits) : Reads limits [] [] { limits } where
  stream := rfl
  replies := fun _ h => nomatch h
  lines := fun _ h => nomatch h
  bytes := rfl
  limits := rfl

theorem appendByte_eq_ok : appendByte parser byte = .ok (replies, next) ↔
      ((parser.buffer.length + 1 : Nat) : Int)
          ≤ parser.limits.maximumReplyLineBytes + (if byte = cr then 1 else 0)
        ∧ ((parser.currentReplyBytes + (parser.buffer.length + 1) : Nat) : Int)
          ≤ parser.limits.maximumReplyBytes
        ∧ replies = [] ∧ next = { parser with buffer := parser.buffer ++ [byte] } := by
  simp only [appendByte, bind_eq_ok, throwIf_eq_ok, Except.ok.injEq, Prod.mk.injEq]
  constructor
  · rintro ⟨-, hlimits, hreplies, hnext⟩
    obtain ⟨hline, hreply⟩ := not_or.mp hlimits
    exact ⟨by omega, by omega, hreplies.symm, hnext.symm⟩
  · rintro ⟨hline, hreply, rfl, rfl⟩
    exact ⟨(), by omega, rfl, rfl⟩

theorem pushByte_eq_ok : pushByte parser byte = .ok (replies, next) ↔
      (byte = lf ∧ [cr] <:+ parser.buffer ∧ ∃ closed,
          consumeLine parser parser.buffer.dropLast = .ok (replies, closed)
            ∧ next = { closed with buffer := [] })
      ∨ (byte ≠ lf ∧ byte ≠ 0 ∧ ¬ [cr] <:+ parser.buffer
          ∧ appendByte parser byte = .ok (replies, next)) := by
  unfold pushByte
  rw [bind_eq_ok]
  simp only [throwIf_eq_ok]
  by_cases hlf : byte = lf
  · have hzero : byte ≠ 0 := hlf ▸ by decide
    simp only [if_pos hlf, bind_eq_ok]
    constructor
    · rintro ⟨-, hchar, ⟨replies', closed⟩, hconsume, heq⟩
      obtain ⟨rfl, rfl⟩ := Prod.mk.inj (Except.ok.inj heq)
      refine .inl ⟨hlf, ?_, closed, hconsume, rfl⟩
      by_contra hcr
      exact hchar (.inr (.inr ⟨hlf, hcr⟩))
    · rintro (⟨-, hcr, closed, hconsume, rfl⟩ | ⟨hne, -⟩)
      · refine ⟨(), ?_, (replies, closed), hconsume, rfl⟩
        rintro (h | ⟨-, h⟩ | ⟨-, h⟩)
        · exact hzero h
        · exact h hlf
        · exact h hcr
      · exact absurd hlf hne
  · simp only [if_neg hlf]
    constructor
    · rintro ⟨-, hchar, h⟩
      refine .inr ⟨hlf, fun h0 => hchar (.inl h0), fun hcr => ?_, h⟩
      exact hchar (.inr (.inl ⟨hcr, hlf⟩))
    · rintro (⟨h, -⟩ | ⟨-, h0, hcr, h⟩)
      · exact absurd h hlf
      · refine ⟨(), ?_, h⟩
        rintro (h0' | ⟨hcr', -⟩ | ⟨hlf', -⟩)
        · exact h0 h0'
        · exact hcr hcr'
        · exact hlf hlf'

theorem length_render (line : SmtpReplyLine) :
    line.render.length = line.content.length + 2 := by
  rw [SmtpReplyLine.render, List.length_append]
  rfl

/-- **STEP LEMMA**: one byte more. -/
theorem reads_step {out : List SmtpReply} (h : Reads limits stream replies parser)
    (hstep : pushByte parser byte = .ok (out, next)) :
    Reads limits (stream ++ [byte]) (replies ++ out) next := by
  obtain ⟨hstream, hreplies, hlines, hbytes, rfl⟩ := h
  obtain ⟨rfl, ⟨front, hfront⟩, closed, hconsume, rfl⟩ | ⟨-, -, -, happend⟩ :=
    pushByte_eq_ok.mp hstep
  · rw [← hfront, List.dropLast_concat] at hconsume
    obtain ⟨line, hcontent, hfits, hsame, hlimit, hclose⟩ := consumeLine_eq_ok.mp hconsume
    have hend : stream ++ [lf] = replies.flatMap SmtpReply.render
        ++ (parser.currentLines ++ [line]).flatMap SmtpReplyLine.render := by
      rw [hstream, ← hfront, List.flatMap_append, List.flatMap_singleton,
        SmtpReplyLine.render, hcontent]
      simp only [List.append_assoc, List.cons_append, List.nil_append]
    have hlength : parser.currentReplyBytes + (front.length + 2)
        = ((parser.currentLines ++ [line]).flatMap SmtpReplyLine.render).length := by
      rw [hbytes, List.flatMap_append, List.length_append, List.flatMap_singleton,
        length_render, hcontent]
    have hcodes : ∀ other ∈ parser.currentLines, other.code = line.code := by
      intro other hother
      exact (hsame other.code (hlines other hother).1).symm
    cases hseparator : line.separator with
    | more =>
        rw [closeLine, hseparator] at hclose
        obtain ⟨rfl, rfl⟩ := Prod.mk.inj hclose
        refine ⟨?_, ?_, ?_, hlength, rfl⟩
        · rw [hend, List.append_nil, List.append_nil]
        · rw [List.append_nil]
          exact hreplies
        · intro other hother
          dsimp only at hother ⊢
          rcases List.mem_append.mp hother with hold | hnew
          · obtain ⟨hcode, hrest⟩ := hlines other hold
            exact ⟨by rw [hcode]; rfl, hrest⟩
          · rw [List.mem_singleton] at hnew
            subst hnew
            refine ⟨?_, hseparator, hfits⟩
            cases hcode : parser.currentCode with
            | none => rfl
            | some code => rw [hsame code hcode]; rfl
    | last =>
        rw [closeLine, hseparator] at hclose
        obtain ⟨rfl, rfl⟩ := Prod.mk.inj hclose
        refine ⟨?_, ?_, (fun _ h => nomatch h), rfl, rfl⟩
        · show stream ++ [lf] = (replies ++ [_]).flatMap SmtpReply.render ++ [] ++ []
          rw [List.append_nil, List.append_nil, List.flatMap_append, List.flatMap_singleton]
          exact hend
        · intro reply hreply
          rcases List.mem_append.mp hreply with hold | hnew
          · exact hreplies reply hold
          · rw [List.mem_singleton] at hnew
            subst hnew
            refine ⟨⟨parser.currentLines, line, rfl, hseparator,
              fun other hother => (hlines other hother).2.1⟩, ?_, ?_, ?_⟩
            · intro other hother
              rcases List.mem_append.mp hother with hold | hnew
              · exact hcodes other hold
              · rw [List.mem_singleton.mp hnew]
            · intro other hother
              rcases List.mem_append.mp hother with hold | hnew
              · exact (hlines other hold).2.2
              · exact List.mem_singleton.mp hnew ▸ hfits
            · show ((((parser.currentLines ++ [line]).flatMap SmtpReplyLine.render).length : Nat)
                : Int) ≤ _
              rw [← hlength]
              exact hlimit
  · obtain ⟨-, -, rfl, rfl⟩ := appendByte_eq_ok.mp happend
    refine ⟨?_, ?_, hlines, hbytes, rfl⟩
    · rw [hstream, List.append_nil, List.append_assoc]
    · rw [List.append_nil]
      exact hreplies

/-- **RUN LEMMA**: any bytes more. -/
theorem reads_feed {bytes : Buffer} {out : List SmtpReply} (h : Reads limits stream replies parser)
    (hrun : feed pushByte parser bytes = .ok (out, next)) :
    Reads limits (stream ++ bytes) (replies ++ out) next := by
  induction bytes generalizing stream replies out parser with
  | nil =>
      obtain ⟨rfl, rfl⟩ := Prod.mk.inj (Except.ok.inj hrun)
      rw [List.append_nil, List.append_nil]
      exact h
  | cons byte bytes ih =>
      obtain ⟨first, middle, rest, hfirst, hrest, rfl⟩ := feed_cons_eq_ok.mp hrun
      have hread := ih (reads_step h hfirst) hrest
      rw [List.append_assoc, List.append_assoc] at hread
      exact hread

/-! ## Replies that fit go through -/

/-- Characters of a line are kept until the line ends. -/
theorem feed_plain (parser : Parser) {bytes : Buffer} (hcr : ¬ [cr] <:+ parser.buffer)
    (hplain : ∀ byte ∈ bytes, byte ≠ 0 ∧ byte ≠ cr ∧ byte ≠ lf)
    (hline : ((parser.buffer.length + bytes.length : Nat) : Int)
      ≤ parser.limits.maximumReplyLineBytes)
    (hreply : ((parser.currentReplyBytes + (parser.buffer.length + bytes.length) : Nat) : Int)
      ≤ parser.limits.maximumReplyBytes) :
    feed pushByte parser bytes = .ok ([], { parser with buffer := parser.buffer ++ bytes }) := by
  induction bytes generalizing parser with
  | nil => rw [List.append_nil]; rfl
  | cons byte bytes ih =>
      obtain ⟨h0, hne, hlf⟩ := hplain byte List.mem_cons_self
      rw [List.length_cons] at hline hreply
      have hstep : pushByte parser byte
          = .ok ([], { parser with buffer := parser.buffer ++ [byte] }) := by
        refine pushByte_eq_ok.mpr (.inr ⟨hlf, h0, hcr, ?_⟩)
        refine appendByte_eq_ok.mpr ⟨?_, by omega, rfl, rfl⟩
        rw [if_neg hne]
        omega
      have hcr' : ¬ [cr] <:+ parser.buffer ++ [byte] := by
        rintro ⟨front, hfront⟩
        exact hne (List.append_inj_right' hfront rfl |> List.cons.inj |>.1).symm
      have hrest := ih { parser with buffer := parser.buffer ++ [byte] } hcr'
        (fun other hother => hplain other (List.mem_cons_of_mem _ hother))
        (by rw [List.length_append, List.length_singleton]; dsimp only; omega)
        (by rw [List.length_append, List.length_singleton]; dsimp only; omega)
      refine feed_cons_eq_ok.mpr ⟨[], _, [], hstep, ?_, rfl⟩
      rw [hrest]
      simp only [List.append_assoc, List.cons_append, List.nil_append]

/-- A whole line, fed at once. -/
theorem feed_line (parser : Parser) (hbuffer : parser.buffer = []) (hfits : line.Fits parser.limits)
    (hsame : ∀ code ∈ parser.currentCode, line.code = code)
    (hbytes : ((parser.currentReplyBytes + line.render.length : Nat) : Int)
      ≤ parser.limits.maximumReplyBytes) : feed pushByte parser line.render = .ok (closeLine
      { parser with
        currentCode := parser.currentCode <|> some line.code
        currentLines := parser.currentLines ++ [line]
        currentReplyBytes := parser.currentReplyBytes + line.render.length } line) := by
  obtain ⟨buffer, currentCode, currentLines, currentReplyBytes, limits⟩ := parser
  dsimp only at hbuffer hfits hsame hbytes ⊢
  subst hbuffer
  rw [length_render] at hbytes ⊢
  have hlength := hfits.length
  have hempty : ¬ [cr] <:+ ([] : Buffer) := by decide
  have hcontent := feed_plain ⟨[], currentCode, currentLines, currentReplyBytes, limits⟩
    hempty hfits.plain
    (by rw [List.length_nil, Nat.zero_add]; exact hlength)
    (by rw [List.length_nil, Nat.zero_add]; dsimp only; omega)
  rw [List.nil_append] at hcontent
  have hcr : pushByte ⟨line.content, currentCode, currentLines, currentReplyBytes, limits⟩ cr
      = .ok ([], ⟨line.content ++ [cr], currentCode, currentLines, currentReplyBytes, limits⟩) := by
    refine pushByte_eq_ok.mpr (.inr ⟨by decide, by decide, ?_, ?_⟩)
    · rintro ⟨front, hfront⟩
      have hmem : cr ∈ front ++ [cr] := List.mem_append_right _ List.mem_cons_self
      rw [hfront] at hmem
      exact (hfits.plain cr hmem).2.1 rfl
    · refine appendByte_eq_ok.mpr ⟨?_, ?_, rfl, rfl⟩
      · rw [if_pos rfl]
        dsimp only
        omega
      · dsimp only
        omega
  have hlf : ∀ r, closeLine ⟨line.content ++ [cr], currentCode <|> some line.code,
        currentLines ++ [line], currentReplyBytes + (line.content.length + 2), limits⟩ line = r →
      pushByte ⟨line.content ++ [cr], currentCode, currentLines, currentReplyBytes, limits⟩ lf
        = .ok (r.1, { r.2 with buffer := [] }) := by
    rintro ⟨replies, closed⟩ hclose
    refine pushByte_eq_ok.mpr (.inl ⟨rfl, ⟨line.content, rfl⟩, closed, ?_, rfl⟩)
    rw [List.dropLast_concat]
    exact consumeLine_eq_ok.mpr ⟨line, rfl, hfits, hsame, hbytes, hclose.symm⟩
  have hend := hlf _ rfl
  rw [SmtpReplyLine.render, feed_append_ok hcontent, feed_cons_ok hcr, feed_cons_ok hend]
  cases hseparator : line.separator with
  | more => rw [closeLine, closeLine, hseparator]; rfl
  | last => rw [closeLine, closeLine, hseparator]; rfl

/-- The lines of a reply in front of its last one. -/
theorem feed_front (parser : Parser) {lines : List SmtpReplyLine} {code : Nat}
    (hbuffer : parser.buffer = []) (hopen : ∀ current ∈ parser.currentCode, current = code)
    (hlines : ∀ line ∈ lines, line.separator = .more ∧ line.code = code
      ∧ line.Fits parser.limits)
    (hbytes : ((parser.currentReplyBytes
        + (lines.flatMap SmtpReplyLine.render).length : Nat) : Int)
      ≤ parser.limits.maximumReplyBytes) :
    ∃ currentCode, (∀ current ∈ currentCode, current = code)
      ∧ feed pushByte parser (lines.flatMap SmtpReplyLine.render) = .ok ([],
        { parser with
          currentCode
          currentLines := parser.currentLines ++ lines
          currentReplyBytes := parser.currentReplyBytes
            + (lines.flatMap SmtpReplyLine.render).length }) := by
  induction lines generalizing parser with
  | nil =>
      refine ⟨parser.currentCode, hopen, ?_⟩
      rw [List.append_nil]
      rfl
  | cons line lines ih =>
      obtain ⟨hmore, hcode, hfits⟩ := hlines line List.mem_cons_self
      rw [List.flatMap_cons, List.length_append] at hbytes
      have hfirst := feed_line parser hbuffer hfits
        (fun current hmem => hcode.trans (hopen current hmem).symm) (by omega)
      rw [closeLine, hmore] at hfirst
      have hcode' : ∀ current ∈ (parser.currentCode <|> some line.code), current = code := by
        intro current hmem
        cases hparser : parser.currentCode with
        | none =>
            rw [hparser] at hmem
            exact (Option.some.inj hmem).symm.trans hcode
        | some old =>
            rw [hparser] at hmem
            exact hopen current (hparser.trans hmem)
      obtain ⟨currentCode, hcurrent, hrest⟩ := ih
        { parser with
          currentCode := parser.currentCode <|> some line.code
          currentLines := parser.currentLines ++ [line]
          currentReplyBytes := parser.currentReplyBytes + line.render.length }
        hbuffer hcode' (fun other hother => hlines other (List.mem_cons_of_mem _ hother))
        (by dsimp only; omega)
      refine ⟨currentCode, hcurrent, ?_⟩
      rw [List.flatMap_cons, feed_append_ok hfirst, hrest]
      simp only [List.append_assoc, List.cons_append, List.nil_append, List.length_append,
        Nat.add_assoc, Except.map]

theorem feed_render {reply : SmtpReply} (h : reply.Fits limits) :
    feed pushByte { limits } reply.render = .ok ([reply], { limits }) := by
  obtain ⟨code, lines⟩ := reply
  obtain ⟨⟨front, last, rfl, hlast, hfront⟩, hcode, hfits, hlength⟩ := h
  dsimp only at hcode hfits
  rw [SmtpReply.render, List.flatMap_append, List.flatMap_singleton] at hlength ⊢
  rw [List.length_append] at hlength
  obtain ⟨currentCode, hcurrent, hrun⟩ := @feed_front { limits } front code
    rfl (fun _ h => nomatch h)
    (fun line hline => ⟨hfront line hline, hcode line (List.mem_append_left _ hline),
      hfits line (List.mem_append_left _ hline)⟩)
    (by dsimp only; omega)
  have hmem : last ∈ front ++ [last] := List.mem_append_right _ List.mem_cons_self
  have hend := feed_line { ({ limits } : Parser) with
      currentCode
      currentLines := [] ++ front
      currentReplyBytes := 0 + (front.flatMap SmtpReplyLine.render).length }
    rfl (hfits last hmem)
    (fun current hopen => (hcode last hmem).trans (hcurrent current hopen).symm)
    (by dsimp only; omega)
  rw [feed_append_ok hrun, hend, closeLine, hlast]
  simp only [Except.map, List.nil_append, hcode last hmem]

/-- **COMPLETENESS**: replies that fit are returned, and nothing is left. -/
theorem feed_replies (h : ∀ reply ∈ replies, reply.Fits limits) :
    feed pushByte { limits } (replies.flatMap SmtpReply.render) = .ok (replies, { limits }) := by
  induction replies with
  | nil => rfl
  | cons reply replies ih =>
      rw [List.flatMap_cons, feed_append_ok (feed_render (h reply List.mem_cons_self)),
        ih fun other hother => h other (List.mem_cons_of_mem _ hother)]
      rfl

/-! ## The language of the parser -/

theorem finish_eq_ok : finish parser = .ok () ↔ parser.buffer = [] ∧ parser.currentCode = none := by
  rw [finish, throwIf_eq_ok, not_or, Nat.not_lt, Nat.le_zero, List.length_eq_zero_iff,
    Bool.not_eq_true, Option.isSome_eq_false_iff, Option.isNone_iff_eq_none]

/-- The streams that may end: sequences of replies that fit, and these are returned. -/
theorem reads_iff : (∃ parser, feed pushByte { limits } stream = .ok (replies, parser)
        ∧ finish parser = .ok ()) ↔
      stream = replies.flatMap SmtpReply.render ∧ ∀ reply ∈ replies, reply.Fits limits := by
  constructor
  · rintro ⟨parser, hrun, hfinish⟩
    obtain ⟨hbuffer, hcode⟩ := finish_eq_ok.mp hfinish
    have hread := reads_feed (reads_start limits) hrun
    rw [List.nil_append, List.nil_append] at hread
    have hlines : parser.currentLines = [] := by
      refine List.eq_nil_iff_forall_not_mem.mpr fun line hline => ?_
      exact absurd (hcode.symm.trans (hread.lines line hline).1) nofun
    refine ⟨?_, hread.replies⟩
    rw [hread.stream, hbuffer, hlines, List.append_nil]
    exact List.append_nil _
  · rintro ⟨rfl, hfits⟩
    exact ⟨{ limits }, feed_replies hfits, rfl⟩

/-- **REPLIES DO NOT DEPEND ON THE CHUNKS**.  However a stream is cut, the same replies come
    out, or the parser throws at the same byte; and it takes exactly the sequences of replies
    that fit its limits, and returns them. -/
theorem push_independent_of_chunks (limits : Limits) (stream : Buffer) :
    ((∃ replies parser, ∀ chunks : List Buffer, chunks.flatten = stream →
          pushAll { limits } chunks = .ok (replies, parser))
        ∨ ∃ error index, index < stream.length ∧ ∀ chunks : List Buffer,
          chunks.flatten = stream → pushAll { limits } chunks = .error error
            ∧ ThrowsIn pushByte { limits } chunks index)
      ∧ ∀ chunks : List Buffer, chunks.flatten = stream → ∀ replies : List SmtpReply,
        (∃ parser, pushAll { limits } chunks = .ok (replies, parser)
            ∧ finish parser = .ok ()) ↔
          stream = replies.flatMap SmtpReply.render ∧ ∀ reply ∈ replies, reply.Fits limits := by
  refine ⟨@feed_chunks _ _ _ _ pushByte { limits } stream, ?_⟩
  rintro chunks rfl replies
  rw [← reads_iff, ← feed_flatten]
  rfl

end SmtpReplyParser
