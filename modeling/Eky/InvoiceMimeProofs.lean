import Eky.InvoiceMimeFields

/-! # A mailed invoice arrives

    The lines of a built message are printable, short and never begin with a dot, so the
    transfer takes it and hands it over as it is.  A mail program reads its header fields,
    the subject, the mailboxes and the two contents as they were given. -/

namespace InvoiceMime

open AsciiLines Fallible MailFormat SmtpData
open JavaScript (trim trim_trim utf16Length)

/-! ## Dates -/

theorem isPrintable_decimalDigit (n : Nat) : IsPrintable (decimalDigit n) := by
  have hlt : n % 10 < 10 := Nat.mod_lt _ (by decide)
  rw [IsPrintable, decimalDigit, ofNat_toNat_of_lt (by omega)]
  omega

theorem printable_twoDigits (n : Nat) : Printable (twoDigits n) :=
  printable_cons (isPrintable_decimalDigit _)
    (printable_cons (isPrintable_decimalDigit _) fun _ hc => nomatch hc)

variable {address : Text} {words : List Text} {c : Char}

theorem isPrintable_of_isDigit (h : c.isDigit = true) : IsPrintable c := by
  simp only [Char.isDigit, Bool.and_eq_true, decide_eq_true_eq] at h
  obtain ⟨hlow, hhigh⟩ := h
  have hlow : 48 ≤ c.toNat := hlow
  have hhigh : c.toNat ≤ 57 := hhigh
  exact ⟨by omega, by omega⟩

theorem printable_yearText (year : Int) : Printable (yearText year) := by
  rw [yearText]
  refine printable_append (printable_append ?_ ?_) ?_
  · split
    · decide
    · decide
  · intro c hc
    obtain rfl := List.eq_of_mem_replicate hc
    decide
  · intro c hc
    exact isPrintable_of_isDigit (Nat.isDigit_of_mem_toDigits (by decide) (by decide) hc)

/-- A year of at most six digits. -/
theorem yearText_length {year : Int} (h : year.natAbs < 10 ^ 6) : (yearText year).length ≤ 7 := by
  have hdigits : (Nat.toDigits 10 year.natAbs).length ≤ 6 :=
    (Nat.length_toDigits_le_iff (by decide) (by decide)).mpr h
  simp only [yearText, List.length_append, List.length_replicate]
  split
  · rw [List.length_singleton]
    omega
  · rw [List.length_nil]
    omega

theorem year_of_days {days : Int} (hlow : -100000000 ≤ days) (hhigh : days ≤ 100000000) :
    (civilFromDays days).1.natAbs < 10 ^ 6 := by
  simp only [civilFromDays]
  split
  · omega
  · omega

/-- A short printable text that does not begin with a blank. -/
structure ShortName (name : Text) : Prop where
  printable : Printable name
  length_le : name.length ≤ 3
  start : startsBlank name = false

theorem shortName_getD {names : List String} {index : Nat}
    (h : ∀ name ∈ "" :: names, Printable name.toList ∧ name.toList.length ≤ 3
      ∧ startsBlank name.toList = false) : ShortName (names.getD index "").toList := by
  have hmem : names.getD index "" ∈ "" :: names := by
    rw [List.getD_eq_getElem?_getD]
    cases hname : names[index]? with
    | none => exact List.mem_cons_self
    | some name => exact List.mem_cons_of_mem _ (List.mem_of_getElem? hname)
  obtain ⟨hprintable, hlength, hstart⟩ := h _ hmem
  exact ⟨hprintable, hlength, hstart⟩

theorem shortName_dayNames (index : Nat) : ShortName (dayNames.getD index "").toList :=
  shortName_getD (by decide)

theorem shortName_monthNames (index : Nat) : ShortName (monthNames.getD index "").toList :=
  shortName_getD (by decide)

/-- The body of a header field that takes one line. -/
structure PlainBody (body : Text) : Prop where
  printable : Printable body
  length_le : body.length ≤ 400
  start : startsBlank body = false

/-- The pieces of a date text. -/
theorem dateText_facts {dayName monthName year : Text} {day hour minute second : Nat}
    (hday : ShortName dayName) (hmonth : ShortName monthName)
    (hyear : Printable year ∧ year.length ≤ 7) :
    PlainBody (dayName ++ [',', ' '] ++ twoDigits day ++ [' '] ++ monthName ++ [' '] ++ year
      ++ [' '] ++ twoDigits hour ++ [':'] ++ twoDigits minute ++ [':'] ++ twoDigits second
      ++ " GMT".toList) := by
  have htwo : ∀ n, (twoDigits n).length = 2 := fun _ => rfl
  have hgmt : " GMT".toList.length = 4 := rfl
  refine ⟨?_, ?_, ?_⟩
  · repeat' apply printable_append
    all_goals first
      | exact hday.printable | exact hmonth.printable | exact hyear.1
      | exact printable_twoDigits _ | decide
  · have hdayLength := hday.length_le
    have hmonthLength := hmonth.length_le
    simp only [List.length_append, List.length_cons, List.length_nil, htwo, hgmt]
    omega
  · cases dayName with
    | nil => rfl
    | cons c dayName => exact hday.start

theorem plainBody_toUTCString (date : Date) : PlainBody (toUTCString date) := by
  rw [toUTCString]
  cases htime : date.timeValue with
  | none => exact ⟨by decide, by decide, rfl⟩
  | some t =>
      obtain ⟨hlow, hhigh⟩ := date.inRange t htime
      have hyear := @year_of_days (t / 86400000) (by omega) (by omega)
      exact dateText_facts (shortName_dayNames _) (shortName_monthNames _)
        ⟨printable_yearText _, yearText_length hyear⟩

/-! ## Words with spaces between them -/

theorem mem_joinWords (h : c ∈ joinWords words) : c = ' ' ∨ ∃ word ∈ words, c ∈ word := by
  induction words with
  | nil => exact nomatch h
  | cons word words ih =>
      cases words with
      | nil => exact .inr ⟨word, List.mem_cons_self, h⟩
      | cons next rest =>
          rw [joinWords, List.mem_append, List.mem_cons] at h
          rcases h with h | h | h
          · exact .inr ⟨word, List.mem_cons_self, h⟩
          · exact .inl h
          · rcases ih h with h | ⟨other, hother, h⟩
            · exact .inl h
            · exact .inr ⟨other, List.mem_cons_of_mem word hother, h⟩

theorem joinWords_start {ending : Text} (hne : words ≠ [])
    (hwords : ∀ word ∈ words, HeaderWord word) :
    startsBlank (joinWords words ++ ending) = false := by
  obtain ⟨word, rest, rfl⟩ := List.exists_cons_of_ne_nil hne
  have hword := hwords word List.mem_cons_self
  have hstart : startsBlank word = false := by
    obtain ⟨c, more, rfl⟩ := List.exists_cons_of_ne_nil hword.ne_nil
    exact isBlank_of_visible (hword.visible c List.mem_cons_self)
  cases rest with
  | nil =>
      rw [joinWords, startsBlank_append hword.ne_nil]
      exact hstart
  | cons next rest =>
      rw [joinWords, List.append_assoc, startsBlank_append hword.ne_nil]
      exact hstart

theorem joinWords_last (hwords : ∀ word ∈ words, HeaderWord word) :
    ∀ c ∈ (joinWords words).getLast?, isBlank c = false := by
  induction words with
  | nil => exact fun c hc => nomatch hc
  | cons word words ih =>
      have hword := hwords word List.mem_cons_self
      have ih := ih fun other hother => hwords other (List.mem_cons_of_mem word hother)
      intro c hc
      cases words with
      | nil => exact isBlank_of_visible (hword.visible c (List.mem_of_getLast? hc))
      | cons next rest =>
          have hne : joinWords (next :: rest) ≠ [] := by
            have hnext := (hwords next (List.mem_cons_of_mem word List.mem_cons_self)).ne_nil
            cases rest with
            | nil => exact hnext
            | cons other rest => exact List.append_ne_nil_of_left_ne_nil hnext _
          rw [joinWords, List.getLast?_append_of_ne_nil _ (List.cons_ne_nil _ _),
            List.getLast?_cons_of_ne_nil hne] at hc
          exact ih c hc

theorem not_mem_joinWords (hc : c ≠ ' ') (h : ∀ word ∈ words, c ∉ word) : c ∉ joinWords words := by
  intro hmem
  rcases mem_joinWords hmem with he | ⟨word, hword, hmem⟩
  · exact hc he
  · exact h word hword hmem

/-! ## The sender -/

theorem NormalAddress.headerWord (h : NormalAddress address) : HeaderWord address :=
  ⟨h.visible, h.ne_nil, h.length_le, h.not_mem (by decide), h.not_mem (by decide)⟩

/-- The words of a mailbox, what stands behind them, and how it is read. -/
structure MailboxText (text : Text) (mailbox : Mailbox) (words : List Text) (ending : Text) :
    Prop where
  text : text = foldWords words ++ ending
  words_ne : words ≠ []
  headerWords : ∀ word ∈ words, HeaderWord word
  printable : Printable ending
  length_le : ending.length ≤ 257
  read : mailboxes? (joinWords words ++ ending) = some [mailbox]

theorem mailboxText_address (h : NormalAddress address) :
    MailboxText address ⟨[], address⟩ [address] [] := by
  have hword := h.headerWord
  have hblank : ∀ c ∈ address, isBlank c = false := fun c hc => isBlank_of_visible (h.visible c hc)
  refine ⟨by simp [foldWords], List.cons_ne_nil _ _, ?_, (fun _ hc => nomatch hc),
    Nat.zero_le _, ?_⟩
  · intro word hmem
    obtain rfl := List.mem_singleton.mp hmem
    exact hword
  · rw [List.append_nil]
    refine mailboxes?_single hword.plain.2 ?_
      (fun c hc => hblank c (List.mem_of_getLast? hc)) (readMailbox_address hword.plain.1)
    obtain ⟨c, rest, rfl⟩ := List.exists_cons_of_ne_nil h.ne_nil
    exact hblank c List.mem_cons_self

theorem mailboxText_named {name encoded : Text} (h : NormalAddress address)
    (hname : encodeMimeHeaderValue name = .ok encoded) :
    ∃ words ending, MailboxText (encoded ++ ' ' :: '<' :: address ++ ['>'])
      ⟨trim name, address⟩ words ending := by
  obtain ⟨words, hne, hwords, rfl, hread⟩ := encodeMimeHeaderValue_eq_ok hname
  have haddress := h.length_le
  refine ⟨words, ' ' :: '<' :: address ++ ['>'], ?_, hne, hwords, ?_, ?_, ?_⟩
  · exact List.append_assoc _ _ _
  · exact printable_append (printable_cons (by decide) (printable_cons (by decide)
      (printable_of_visible h.visible))) (by decide)
  · rw [maximumAddressCharacters] at haddress
    simp only [List.length_append, List.length_cons, List.length_nil]
    omega
  · have hopen : '<' ∉ joinWords words :=
      not_mem_joinWords (by decide) fun word hword => (hwords word hword).plain.1
    have hcomma : ',' ∉ joinWords words ++ (' ' :: '<' :: address ++ ['>']) := by
      simp only [List.mem_append, List.mem_cons, List.not_mem_nil, not_or, or_false]
      refine ⟨not_mem_joinWords (by decide) fun word hword => (hwords word hword).plain.2,
        ⟨by decide, by decide, h.not_mem (by decide)⟩, by decide⟩
    refine mailboxes?_single hcomma (joinWords_start hne hwords) ?_ ?_
    · intro c hc
      rw [← List.append_assoc, List.getLast?_concat] at hc
      obtain rfl := Option.some.inj hc
      decide
    · rw [← hread, ← List.append_assoc]
      exact readMailbox_named hopen (joinWords_last hwords) (h.not_mem (by decide))

theorem formatMimeAddress_eq_ok {displayName sender : Text} (haddress : NormalAddress address)
    (h : formatMimeAddress address displayName = .ok sender) :
    ∃ words ending, MailboxText sender ⟨trim displayName, address⟩ words ending := by
  simp only [formatMimeAddress, bind_eq_ok, normalized_of_normalAddress haddress] at h
  obtain ⟨_, he, h⟩ := h
  obtain rfl := Except.ok.inj he
  by_cases hblank : trim displayName = []
  · rw [if_pos hblank] at h
    obtain rfl := Except.ok.inj h
    rw [hblank]
    exact ⟨_, _, mailboxText_address haddress⟩
  · rw [if_neg hblank] at h
    obtain ⟨encoded, hencoded, rfl⟩ := map_eq_ok.mp h
    have hnamed := mailboxText_named haddress hencoded
    rwa [trim_trim] at hnamed

end InvoiceMime
