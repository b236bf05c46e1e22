import Eky.LedgerHistory
import Eky.SafeSequenceNumber

/-! # The numbers of a company's invoices

    `Numbered` is kept by every request: in each scope of a series the numbers follow one
    another without a gap from the first one on, the counter is the last of them, and what
    is issued in the active series collides with no number of an earlier one.

    - `consecutive_of_reachable`, `counter_of_reachable`: no number of a scope is left out or
      given twice;
    - `nextInvoiceNumber_fresh`: the next number and its reference are always new, so that
      the keys of the table refuse no approval. -/

namespace InvoiceLedger.Ledger

open Fallible AsciiLines InvoiceNumbering OrderedMap
open InvoiceReferenceNumber (createFinnishDomesticReferenceNumber
  createFinnishDomesticReferenceNumber_valid)
open SafeSequenceNumber Decimals

/-! ## Numbers that have been given -/

/-- The identities of all invoices, in the order in which they were issued. -/
def identities (s : Ledger) : List InvoiceIdentity := s.invoices.entries.map (·.2.identity)

/-- The sequence numbers of a scope, in the order in which they were given. -/
def sequenceNumbersOf (s : Ledger) (seriesKey sequenceScope : String) : List Int :=
  (s.identities.filter fun n =>
    n.seriesKey = seriesKey ∧ n.sequenceScope = sequenceScope).map (·.sequenceNumber)

/-- A list that counts up from its first number. -/
def Consecutive (first : Int) (numbers : List Int) : Prop :=
  numbers = (List.range numbers.length).map fun i : Nat => first + i

theorem consecutive_nil (first : Int) : Consecutive first [] := rfl

variable {first : Int} {invoiceDate : Text} {settings : InvoiceNumberingSettings}
  {numbers : List Int} {number : NumberedInvoice}

theorem Consecutive.concat (h : Consecutive first numbers) :
    Consecutive first (numbers ++ [first + numbers.length]) := by
  rw [Consecutive, List.length_append, List.length_singleton, List.range_succ, List.map_append,
    ← h]
  rfl

theorem Consecutive.getLast? (h : Consecutive first numbers) :
    numbers.getLast?.elim first (· + 1) = first + numbers.length := by
  rcases List.eq_nil_or_concat numbers with rfl | ⟨front, last, rfl⟩
  · simp
  · rw [List.concat_eq_append] at h ⊢
    rw [Consecutive, List.length_append, List.length_singleton, List.range_succ,
      List.map_append] at h
    obtain ⟨-, hlast⟩ := List.append_inj' h rfl
    have hvalue : last = first + (front.length : Int) := (List.cons.inj hlast).1
    rw [List.getLast?_concat, Option.elim_some, hvalue, List.length_append,
      List.length_singleton]
    omega

theorem Consecutive.not_mem (h : Consecutive first numbers) :
    first + (numbers.length : Int) ∉ numbers := by
  intro hmem
  rw [h, List.mem_map] at hmem
  obtain ⟨i, hi, heq⟩ := hmem
  rw [List.length_map, List.length_range] at heq
  rw [List.mem_range] at hi
  omega

/-! ## The invariant -/

/-- What is known about the numbers of a company. -/
structure Numbered (s : Ledger) : Prop where
  valid : ∀ seriesKey settings, s.numberingSettings.get? seriesKey = some settings →
    validateInvoiceNumberingSettings settings = .ok ()
  idle : s.activeSeries = none →
    s.identities = [] ∧ ∀ seriesKey, s.numberingSettings.get? seriesKey = none
  active : ∀ active, s.activeSeries = some active →
    ∃ settings, s.numberingSettings.get? active.activeSeriesKey = some settings
  -- the first series is the default one, and it is used when another one takes its place
  default : ∀ active, s.activeSeries = some active →
    (active.activeSeriesKey = defaultInvoiceNumberSeriesKey
      ∧ ∀ n ∈ s.identities, n.seriesKey = defaultInvoiceNumberSeriesKey)
    ∨ s.numberingSettings.get? defaultInvoiceNumberSeriesKey ≠ none
      ∧ ∃ event ∈ s.seriesEvents, event.previousSeriesKey = defaultInvoiceNumberSeriesKey
  formatted : ∀ n ∈ s.identities, ∃ settings invoiceDate,
    s.numberingSettings.get? n.seriesKey = some settings
      ∧ resolveInvoiceNumberSequenceScope settings invoiceDate = .ok n.sequenceScope
      ∧ formatInvoiceNumber settings invoiceDate n.sequenceNumber = .ok n.invoiceNumber
  referenced : ∀ n ∈ s.identities, ∀ reference, n.referenceNumber = some reference →
    createFinnishDomesticReferenceNumber n.invoiceNumber = .ok reference
  consecutive : ∀ seriesKey sequenceScope settings,
    s.numberingSettings.get? seriesKey = some settings →
    Consecutive settings.firstSequenceNumber (s.sequenceNumbersOf seriesKey sequenceScope)
  counter : ∀ seriesKey sequenceScope, s.numberSequences.get? (seriesKey, sequenceScope)
    = (s.sequenceNumbersOf seriesKey sequenceScope).getLast?
  -- what the active series can still issue was not issued by another one
  apart : ∀ active settings, s.activeSeries = some active →
    s.numberingSettings.get? active.activeSeriesKey = some settings →
    ∀ n ∈ s.identities, n.seriesKey ≠ active.activeSeriesKey →
    ∀ invoiceDate m, settings.firstSequenceNumber ≤ m →
      formatInvoiceNumber settings invoiceDate m ≠ .ok n.invoiceNumber

/-- Before the first invoice only the settings matter. -/
theorem numbered_of_none {s : Ledger} (hnone : s.identities = [])
    (hvalid : ∀ seriesKey settings, s.numberingSettings.get? seriesKey = some settings →
      validateInvoiceNumberingSettings settings = .ok ())
    (hidle : s.activeSeries = none → ∀ seriesKey, s.numberingSettings.get? seriesKey = none)
    (hactive : ∀ active, s.activeSeries = some active →
      active.activeSeriesKey = defaultInvoiceNumberSeriesKey
        ∧ ∃ settings, s.numberingSettings.get? active.activeSeriesKey = some settings)
    (hcounter : ∀ key, s.numberSequences.get? key = none) : Numbered s where
  valid := hvalid
  idle := fun h => ⟨hnone, hidle h⟩
  active := fun active h => (hactive active h).2
  default := fun active h => .inl ⟨(hactive active h).1, by simp [hnone]⟩
  formatted := by simp [hnone]
  referenced := by simp [hnone]
  consecutive := by simp [sequenceNumbersOf, hnone, consecutive_nil]
  counter := by simp [sequenceNumbersOf, hnone, hcounter]
  apart := by simp [hnone]

theorem numbered_empty : Numbered Ledger.empty :=
  numbered_of_none rfl (fun _ _ h => by cases h) (fun _ _ => rfl) (fun _ h => by cases h)
    fun _ => rfl

variable {storagePath : String → String → Option String}
variable {localeCompare : String → String → Int} {s t : Ledger}

/-- Requests that have nothing to do with numbers. -/
theorem Numbered.congr (h : Numbered s) (hidentities : t.identities = s.identities)
    (hsettings : t.numberingSettings = s.numberingSettings)
    (hactive : t.activeSeries = s.activeSeries) (hevents : t.seriesEvents = s.seriesEvents)
    (hsequences : t.numberSequences = s.numberSequences) : Numbered t := by
  have hnumbers : t.sequenceNumbersOf = s.sequenceNumbersOf := by
    funext seriesKey sequenceScope
    rw [sequenceNumbersOf, sequenceNumbersOf, hidentities]
  constructor
  all_goals simp only [hidentities, hsettings, hactive, hevents, hsequences, hnumbers]
  · exact h.valid
  · exact h.idle
  · exact h.active
  · exact h.default
  · exact h.formatted
  · exact h.referenced
  · exact h.consecutive
  · exact h.counter
  · exact h.apart

/-- An invoice that is changed keeps its place among the identities. -/
theorem identities_update {invoiceId : String} {invoice later : Invoice}
    (hinvoice : s.invoices.get? invoiceId = some invoice)
    (hsame : later.identity = invoice.identity) :
    (s.invoices.set invoiceId later).entries.map (·.2.identity) = s.identities :=
  map_update _ hinvoice hsame

/-! ## Settings -/

/-- While the settings of the default series can change, no invoice has been issued. -/
theorem Numbered.unused (h : Numbered s)
    (hunused : s.numberingSettings.get? defaultInvoiceNumberSeriesKey = none
      ∨ ¬ s.SeriesUsed defaultInvoiceNumberSeriesKey) :
    s.identities = [] ∧ ∀ active, s.activeSeries = some active →
      active.activeSeriesKey = defaultInvoiceNumberSeriesKey := by
  cases hactive : s.activeSeries with
  | none => exact ⟨(h.idle hactive).1, fun _ hnone => by cases hnone⟩
  | some active =>
      rcases h.default active hactive with ⟨hdefault, hall⟩ | ⟨hsettings, event, hevent, hprevious⟩
      · refine ⟨?_, fun other hother => by rw [← Option.some.inj hother]; exact hdefault⟩
        obtain ⟨settings, hsome⟩ := h.active active hactive
        rw [hdefault] at hsome
        have hfree := hunused.resolve_left (by rw [hsome]; exact Option.some_ne_none settings)
        refine List.eq_nil_iff_forall_not_mem.mpr fun n hn => hfree (.inr (.inl ?_))
        have hkey := hall n hn
        obtain ⟨e, he, rfl⟩ := List.mem_map.mp hn
        exact ⟨e, he, hkey⟩
      · exact absurd (.inr (.inr ⟨event, hevent, .inl hprevious⟩))
          (hunused.resolve_left hsettings)

theorem numbered_settings (h : Numbered s)
    (hvalid : validateInvoiceNumberingSettings settings = .ok ())
    (hunused : s.numberingSettings.get? defaultInvoiceNumberSeriesKey = none
      ∨ ¬ s.SeriesUsed defaultInvoiceNumberSeriesKey) : Numbered { s with
      numberingSettings := s.numberingSettings.set defaultInvoiceNumberSeriesKey settings
      activeSeries := s.activeSeries <|> some ⟨defaultInvoiceNumberSeriesKey, 1⟩ } := by
  obtain ⟨hnone, hdefault⟩ := h.unused hunused
  refine numbered_of_none hnone (fun seriesKey other hget => ?_) (fun hidle => ?_)
    (fun active hget => ?_) fun key => ?_
  · rw [get?_set] at hget
    split at hget
    · rw [← Option.some.inj hget]
      exact hvalid
    · exact h.valid seriesKey other hget
  · cases hbefore : s.activeSeries with
    | none => rw [hbefore] at hidle; cases hidle
    | some other => rw [hbefore] at hidle; cases hidle
  · have hkey : active.activeSeriesKey = defaultInvoiceNumberSeriesKey := by
      cases hbefore : s.activeSeries with
      | none =>
          rw [hbefore] at hget
          rw [← Option.some.inj hget]
      | some other =>
          rw [hbefore] at hget
          rw [← Option.some.inj hget]
          exact hdefault other hbefore
    exact ⟨hkey, settings, by rw [hkey, get?_set_self]⟩
  · have hcounter := h.counter key.1 key.2
    rw [sequenceNumbersOf, hnone] at hcounter
    exact hcounter

/-! ## Another series -/

theorem forall_of_foldlM {ε α β : Type} {f : β → α → Except ε β} {P : α → Prop}
    (hP : ∀ b x b', f b x = .ok b' → P x) {xs : List α} {b b' : β}
    (h : xs.foldlM f b = .ok b') : ∀ x ∈ xs, P x := by
  induction xs generalizing b with
  | nil => exact fun _ hx => absurd hx List.not_mem_nil
  | cons x rest ih =>
      rw [List.foldlM_cons, bind_eq_ok] at h
      obtain ⟨middle, hx, hrest⟩ := h
      exact List.forall_mem_cons.mpr ⟨hP b x middle hx, ih hrest⟩

/-- A series is only activated when all existing numbers can be compared with it. -/
theorem calculateMinimumSafe_ok {numbers : List Text}
    {target : InvoiceNumberingSeriesCandidate} {result : MinimumSafeInvoiceSequenceNumberResult}
    (h : calculateMinimumSafeInvoiceSequenceNumber numbers target = .ok result) :
    (∀ number ∈ numbers, IsInvoiceNumber number)
      ∧ result.maximumSequenceNumber = getMaximumSequenceNumber target.mode := by
  simp only [calculateMinimumSafeInvoiceSequenceNumber, bind_eq_ok, pure_eq_ok] at h
  obtain ⟨_, -, largest, hloop, rfl⟩ := h
  refine ⟨forall_of_foldlM (fun b number b' hround => ?_) hloop, ?_⟩
  · simp only [largerCollision, bind_eq_ok] at hround
    obtain ⟨_, hnumeric, -⟩ := hround
    exact requireNumericInvoiceNumber_eq_ok.mp hnumeric
  · split <;> rfl

/-- A number that a reference can be made of has no larger sequence number. -/
theorem le_maximum_of_format {number : Text} {m : Int}
    (hvalid : validateInvoiceNumberingSettings settings = .ok ())
    (hformat : formatInvoiceNumber settings invoiceDate m = .ok number)
    (hnumber : IsInvoiceNumber number) : m ≤ getMaximumSequenceNumber settings.mode := by
  by_cases hmode : settings.mode = .plainSequence
  · obtain ⟨⟨-, hle⟩, -⟩ := (formatInvoiceNumber_plain hvalid hmode).mp hformat
    rw [hmode]
    exact hle
  · obtain ⟨⟨hpos, -⟩, year, -, rfl⟩ := (formatInvoiceNumber_year hvalid hmode).mp hformat
    have hlength : (padded 4 year ++ padded settings.sequencePadding.toNat m.toNat).length
        ≤ 19 := hnumber.2
    rw [List.length_append] at hlength
    have hyear : 4 ≤ (padded 4 year).length := by
      rw [padded, List.leftpad, List.length_append, List.length_replicate]
      omega
    have hdigits : (padded settings.sequencePadding.toNat m.toNat).length ≤ 15 := by
      omega
    have hvalue := value_lt (@isDigits_padded settings.sequencePadding.toNat m.toNat).2
    rw [value_padded] at hvalue
    have hbound : m.toNat < 10 ^ 15 :=
      lt_of_lt_of_le hvalue (Nat.pow_le_pow_right (by decide) hdigits)
    have hmaximum : getMaximumSequenceNumber settings.mode = 10 ^ 15 - 1 := by
      cases hcase : settings.mode with
      | plainSequence => exact absurd hcase hmode
      | calendarYearSequence => rfl
      | fiscalYearSequence => rfl
    rw [hmaximum]
    omega

/-- A new series keeps the numbers in order, too. -/
theorem numbered_activated (h : Numbered s) {input : ActivateInvoiceNumberingSeries}
    {safeStart : MinimumSafeInvoiceSequenceNumberResult}
    (hvalid : validateInvoiceNumberingSettings input.nextSettings = .ok ())
    (hactive : s.activeSeries = some ⟨input.expectedActiveSeriesKey, input.expectedRevision⟩)
    (hnew : s.numberingSettings.get? input.nextSeriesKey = none)
    (hsafe : calculateMinimumSafeInvoiceSequenceNumber s.readExistingInvoiceNumbers
      input.nextSettings.toInvoiceNumberingSeriesCandidate = .ok safeStart)
    (hfirst : validateInvoiceNumberingSeriesFirstSequenceNumber
      input.nextSettings.firstSequenceNumber safeStart = .ok ()) :
    Numbered { s with
      numberingSettings := s.numberingSettings.set input.nextSeriesKey input.nextSettings
      activeSeries := some ⟨input.nextSeriesKey, input.expectedRevision + 1⟩
      seriesEvents := s.seriesEvents
        ++ [⟨input.eventId, input.expectedActiveSeriesKey, input.nextSeriesKey⟩] } := by
  have hother : ∀ n ∈ s.identities, n.seriesKey ≠ input.nextSeriesKey := by
    rintro n hn hsame
    obtain ⟨settings, -, hget, -⟩ := h.formatted n hn
    rw [hsame, hnew] at hget
    cases hget
  have hkept : ∀ seriesKey settings, s.numberingSettings.get? seriesKey = some settings →
      (s.numberingSettings.set input.nextSeriesKey input.nextSettings).get? seriesKey
        = some settings := by
    intro seriesKey settings hget
    rw [get?_set_ne, hget]
    rintro rfl
    cases hnew.symm.trans hget
  constructor
  case valid =>
    intro seriesKey settings hget
    rw [get?_set] at hget
    split at hget
    · rw [← Option.some.inj hget]
      exact hvalid
    · exact h.valid seriesKey settings hget
  case idle => exact fun hidle => by cases hidle
  case active =>
    intro active hget
    rw [← Option.some.inj hget]
    exact ⟨input.nextSettings, get?_set_self _ _ _⟩
  case default =>
    intro active _
    rcases h.default _ hactive with ⟨hdefault, -⟩ | ⟨hsettings, event, hevent, hprevious⟩
    · obtain ⟨settings, hget⟩ := h.active _ hactive
      refine .inr ⟨?_, _, List.mem_append_right _ List.mem_cons_self, hdefault⟩
      rw [hdefault] at hget
      rw [hkept _ _ hget]
      exact Option.some_ne_none settings
    · refine .inr ⟨?_, event, List.mem_append_left _ hevent, hprevious⟩
      obtain ⟨settings, hget⟩ := Option.ne_none_iff_exists'.mp hsettings
      rw [hkept _ _ hget]
      exact Option.some_ne_none settings
  case formatted =>
    intro n hn
    obtain ⟨settings, invoiceDate, hget, hnumber⟩ := h.formatted n hn
    exact ⟨settings, invoiceDate, hkept _ _ hget, hnumber⟩
  case referenced => exact h.referenced
  case consecutive =>
    intro seriesKey sequenceScope settings hget
    rw [get?_set] at hget
    split at hget
    · next hkey =>
        have hnone : s.sequenceNumbersOf seriesKey sequenceScope = [] := by
          rw [sequenceNumbersOf, List.map_eq_nil_iff, List.filter_eq_nil_iff]
          intro n hn hboth
          rw [decide_eq_true_eq] at hboth
          exact hother n hn (hboth.1.trans hkey)
        show Consecutive _ (s.sequenceNumbersOf seriesKey sequenceScope)
        rw [hnone]
        exact consecutive_nil _
    · exact h.consecutive seriesKey sequenceScope settings hget
  case counter => exact h.counter
  case apart =>
    intro active settings hget hsettings n hn _ invoiceDate m hm hformat
    cases hget
    rw [get?_set_self] at hsettings
    cases hsettings
    obtain ⟨hexisting, hmaximum⟩ := calculateMinimumSafe_ok hsafe
    obtain ⟨e, he, rfl⟩ := List.mem_map.mp hn
    have hmem : e.2.invoiceNumber ∈ s.readExistingInvoiceNumbers :=
      List.mem_map.mpr ⟨e, he, rfl⟩
    have hle := le_maximum_of_format hvalid hformat (hexisting _ hmem)
    rw [← hmaximum] at hle
    exact accepted_first_never_collides hvalid hexisting hsafe hfirst hm hle
      ⟨invoiceDate, _, hmem, hformat⟩

/-! ## The next number -/

theorem getActiveNumberingSettings_eq_some {seriesKey : String} :
    s.getActiveNumberingSettings = some (seriesKey, settings)
      ↔ ∃ active, s.activeSeries = some active ∧ active.activeSeriesKey = seriesKey
        ∧ s.numberingSettings.get? seriesKey = some settings := by
  simp only [getActiveNumberingSettings, Option.bind_eq_bind, Option.bind_eq_some_iff,
    Option.pure_def, Option.some.injEq, Prod.mk.injEq]
  constructor
  · rintro ⟨active, hactive, found, hfound, rfl, rfl⟩
    exact ⟨active, hactive, rfl, hfound⟩
  · rintro ⟨active, hactive, rfl, hfound⟩
    exact ⟨active, hactive, settings, hfound, rfl, rfl⟩

/-- What the next number is made of. -/
structure Next (s : Ledger) (invoiceDate : Text) (active : InvoiceNumberingActiveSeries)
    (settings : InvoiceNumberingSettings) (number : NumberedInvoice) : Prop where
  isActive : s.activeSeries = some active
  series : active.activeSeriesKey = number.seriesKey
  stored : s.numberingSettings.get? number.seriesKey = some settings
  scope : resolveInvoiceNumberSequenceScope settings invoiceDate = .ok number.sequenceScope
  counted : number.sequenceNumber
    = (s.numberSequences.get? (number.seriesKey, number.sequenceScope)).elim
      settings.firstSequenceNumber (· + 1)
  format : formatInvoiceNumber settings invoiceDate number.sequenceNumber
    = .ok number.invoiceNumber

theorem next_of_nextInvoiceNumber (h : s.nextInvoiceNumber invoiceDate = .ok number) :
    ∃ active settings, Next s invoiceDate active settings number := by
  simp only [nextInvoiceNumber, bind_eq_ok, orThrow_eq_ok, fromNumbering_eq_ok, pure_eq_ok] at h
  obtain ⟨⟨seriesKey, settings⟩, hactive, _, -, sequenceScope, hscope, _, -, invoiceNumber,
    hformat, rfl⟩ := h
  obtain ⟨active, hactive, hkey, hsettings⟩ := getActiveNumberingSettings_eq_some.mp hactive
  exact ⟨active, settings, hactive, hkey, hsettings, hscope, rfl, hformat⟩

/-- In a consecutive scope it is the number behind the last one. -/
theorem Next.sequenceNumber_eq {active : InvoiceNumberingActiveSeries} (h : Numbered s)
    (hnext : Next s invoiceDate active settings number) :
    number.sequenceNumber = settings.firstSequenceNumber
      + ((s.sequenceNumbersOf number.seriesKey number.sequenceScope).length : Int) := by
  rw [hnext.counted, h.counter]
  exact (h.consecutive _ _ _ hnext.stored).getLast?

/-- An invoice with the next number keeps the numbers in order. -/
theorem numbered_issued (h : Numbered s) {invoiceId revisionId : String} {invoice : Invoice}
    {draft : InvoiceDraft} {source : Option InvoiceRevisionCreditSource}
    (hissue : Issue localeCompare s invoiceId revisionId invoice draft source)
    {t : Ledger} (ht : { s with
      numberSequences := s.numberSequences.set (invoice.seriesKey, invoice.sequenceScope)
        invoice.sequenceNumber
      invoices := s.invoices.set invoiceId { invoice with currentRevisionId := some revisionId }
      revisions := s.revisions.set revisionId
        (createInvoiceContentRevisionRow invoiceId invoice source)
      drafts := s.drafts.set invoice.sourceDraftId
        { draft with approvedInvoiceId := some invoiceId } } = t) : Numbered t := by
  obtain ⟨active, settings, hnext⟩ := next_of_nextInvoiceNumber hissue.next
  have hidentities : t.identities = s.identities ++ [invoice.identity] := by
    rw [← ht, identities, entries_insert hissue.newInvoice, List.map_append]
    rfl
  have hsettings : t.numberingSettings = s.numberingSettings := by rw [← ht]
  have hactive : t.activeSeries = s.activeSeries := by rw [← ht]
  have hevents : t.seriesEvents = s.seriesEvents := by rw [← ht]
  have hmem : ∀ n ∈ t.identities, n ∈ s.identities ∨ n = invoice.identity := by
    intro n hn
    rwa [hidentities, List.mem_append, List.mem_singleton] at hn
  have hcount := hnext.sequenceNumber_eq h
  have hnumbers : ∀ seriesKey sequenceScope, t.sequenceNumbersOf seriesKey sequenceScope
      = s.sequenceNumbersOf seriesKey sequenceScope
        ++ if invoice.seriesKey = seriesKey ∧ invoice.sequenceScope = sequenceScope then
          [invoice.sequenceNumber] else [] := by
    intro seriesKey sequenceScope
    rw [sequenceNumbersOf, hidentities, List.filter_append, List.map_append, sequenceNumbersOf]
    congr 1
    by_cases hscope : invoice.seriesKey = seriesKey ∧ invoice.sequenceScope = sequenceScope
    · rw [if_pos hscope]
      simp [Invoice.identity, hscope]
    · rw [if_neg hscope]
      simp [Invoice.identity, hscope]
  constructor
  case valid => rw [hsettings]; exact h.valid
  case idle =>
    rw [hactive, hnext.isActive]
    exact fun hidle => by cases hidle
  case active => rw [hactive, hsettings]; exact h.active
  case default =>
    rw [hactive, hsettings, hevents]
    intro other hother
    refine (h.default other hother).imp_left fun hdefault => ⟨hdefault.1, fun n hn => ?_⟩
    rcases hmem n hn with hn | rfl
    · exact hdefault.2 n hn
    · obtain rfl := Option.some.inj (hnext.isActive.symm.trans hother)
      exact hnext.series.symm.trans hdefault.1
  case formatted =>
    rw [hsettings]
    intro n hn
    rcases hmem n hn with hn | rfl
    · exact h.formatted n hn
    · exact ⟨settings, draft.invoiceDate, hnext.stored, hnext.scope, hnext.format⟩
  case referenced =>
    intro n hn reference hreference
    rcases hmem n hn with hn | rfl
    · exact h.referenced n hn reference hreference
    · rcases hissue.kind with ⟨-, -, -, created, hcreated, hcreate⟩ | ⟨_, _, -, -, -, -, -, hnone⟩
      · obtain rfl := Option.some.inj (hcreated.symm.trans hreference)
        exact hcreate
      · cases hnone.symm.trans hreference
  case consecutive =>
    rw [hsettings]
    intro seriesKey sequenceScope other hother
    rw [hnumbers]
    have hbefore := h.consecutive seriesKey sequenceScope other hother
    by_cases hscope : invoice.seriesKey = seriesKey ∧ invoice.sequenceScope = sequenceScope
    · obtain ⟨rfl, rfl⟩ := hscope
      obtain rfl := Option.some.inj (hnext.stored.symm.trans hother)
      rw [if_pos ⟨rfl, rfl⟩]
      have hlast : invoice.sequenceNumber = settings.firstSequenceNumber
          + ((s.sequenceNumbersOf invoice.seriesKey invoice.sequenceScope).length : Int) := hcount
      rw [hlast]
      exact hbefore.concat
    · rw [if_neg hscope, List.append_nil]
      exact hbefore
  case counter =>
    intro seriesKey sequenceScope
    rw [hnumbers, ← ht]
    show (s.numberSequences.set (invoice.seriesKey, invoice.sequenceScope)
      invoice.sequenceNumber).get? (seriesKey, sequenceScope) = _
    by_cases hscope : invoice.seriesKey = seriesKey ∧ invoice.sequenceScope = sequenceScope
    · obtain ⟨rfl, rfl⟩ := hscope
      rw [if_pos ⟨rfl, rfl⟩, get?_set_self, List.getLast?_concat]
    · rw [if_neg hscope, List.append_nil, get?_set_ne, h.counter]
      intro hsame
      rw [Prod.mk.injEq] at hsame
      exact hscope ⟨hsame.1.symm, hsame.2.symm⟩
  case apart =>
    rw [hactive, hsettings]
    intro other otherSettings hother hotherSettings n hn hseries
    rcases hmem n hn with hn | rfl
    · exact h.apart other otherSettings hother hotherSettings n hn hseries
    · obtain rfl := Option.some.inj (hnext.isActive.symm.trans hother)
      exact absurd hnext.series.symm hseries

/-! ## Every run -/

theorem numbered_of_change (h : Numbered s)
    (hchange : Change storagePath localeCompare s t) : Numbered t := by
  cases hchange with
  | nothing => exact h
  | settings hvalid hunused => exact numbered_settings h hvalid hunused
  | activated hvalid hactive hnew hsafe hfirst =>
      exact numbered_activated h hvalid hactive hnew hsafe hfirst
  | issued hissue => exact numbered_issued h hissue rfl
  | drafted => exact h.congr rfl rfl rfl rfl rfl
  | discarded => exact h.congr rfl rfl rfl rfl rfl
  | published => exact h.congr rfl rfl rfl rfl rfl
  | reserved => exact h.congr rfl rfl rfl rfl rfl
  | completed => exact h.congr rfl rfl rfl rfl rfl
  | rehearsed => exact h.congr rfl rfl rfl rfl rfl
  | reapproved happroval =>
      exact h.congr (identities_update happroval.storedInvoice happroval.identity) rfl rfl rfl rfl
  | reopened hinvoice => exact h.congr (identities_update hinvoice rfl) rfl rfl rfl rfl
  | cancelled hinvoice => exact h.congr (identities_update hinvoice rfl) rfl rfl rfl rfl
  | paid hinvoice => exact h.congr (identities_update hinvoice rfl) rfl rfl rfl rfl
  | arrived _ _ _ _ _ _ htarget =>
      exact h.congr (identities_update htarget.found rfl) rfl rfl rfl rfl
  | delivered _ htarget => exact h.congr (identities_update htarget.found rfl) rfl rfl rfl rfl
  | promoted hinvoice => exact h.congr (identities_update hinvoice rfl) rfl rfl rfl rfl

/-- The company from its beginning. -/
abbrev FromEmpty (storagePath : String → String → Option String)
    (localeCompare : String → String → Int) : TransitionSystem Ledger :=
  ledgerSystem storagePath localeCompare (· = Ledger.empty)

/-- **INVARIANT RULE**: what holds of the first tables and is kept by every change, holds of
    every ledger of the company. -/
theorem fromEmpty_invariant {P : Ledger → Prop} (hempty : P Ledger.empty)
    (hchange : ∀ s t, (FromEmpty storagePath localeCompare).Reachable s →
      P s → Change storagePath localeCompare s t → P t)
    (h : (FromEmpty storagePath localeCompare).Reachable s) : P s := by
  refine h.invariant (fun s hs => ?_) fun s t hreached hs hstep => ?_
  · rw [hs]
    exact hempty
  · obtain ⟨request, hstep⟩ := hstep
    exact hchange s t hreached hs (change_of_execute hstep)

theorem numbered_of_reachable
    (h : (FromEmpty storagePath localeCompare).Reachable s) : Numbered s :=
  fromEmpty_invariant numbered_empty (fun _ _ _ => numbered_of_change) h

/-- Dates with one prefix have one scope. -/
theorem scope_eq {first second : Text} {scope scope' : String}
    (hfirst : resolveInvoiceNumberSequenceScope settings first = .ok scope)
    (hsecond : resolveInvoiceNumberSequenceScope settings second = .ok scope')
    (hyears : settings.mode ≠ .plainSequence →
      prefixYear settings.toInvoiceNumberingSeriesCandidate first
        = prefixYear settings.toInvoiceNumberingSeriesCandidate second) : scope = scope' := by
  simp only [resolveInvoiceNumberSequenceScope, bind_eq_ok] at hfirst hsecond
  obtain ⟨_, -, hfirst⟩ := hfirst
  obtain ⟨_, -, hsecond⟩ := hsecond
  cases hmode : settings.mode with
  | plainSequence =>
      simp only [hmode, pure_eq_ok] at hfirst hsecond
      exact hfirst.symm.trans hsecond
  | calendarYearSequence =>
      have hyear := hyears (by rw [hmode]; decide)
      simp only [prefixYear, hmode] at hyear
      simp only [hmode, bind_eq_ok, pure_eq_ok] at hfirst hsecond
      obtain ⟨year, hget, rfl⟩ := hfirst
      obtain ⟨year', hget', rfl⟩ := hsecond
      rw [hyear, hget'] at hget
      cases hget
      rfl
  | fiscalYearSequence =>
      have hyear := hyears (by rw [hmode]; decide)
      simp only [prefixYear, hmode] at hyear
      simp only [hmode, bind_eq_ok, pure_eq_ok] at hfirst hsecond
      obtain ⟨year, hget, rfl⟩ := hfirst
      obtain ⟨year', hget', rfl⟩ := hsecond
      rw [hyear, hget'] at hget
      cases hget
      rfl

/-- The next number is the number of no invoice, whatever series that was issued in. -/
theorem fresh_of_next (h : Numbered s) (hnext : s.nextInvoiceNumber invoiceDate = .ok number) :
    ∀ n ∈ s.identities, n.invoiceNumber ≠ number.invoiceNumber := by
  obtain ⟨active, settings, hnext⟩ := next_of_nextInvoiceNumber hnext
  have hcount := hnext.sequenceNumber_eq h
  rintro n hn hsame
  by_cases hseries : n.seriesKey = number.seriesKey
  · obtain ⟨other, date, hsettings, hscope, hformat⟩ := h.formatted n hn
    rw [hseries, hnext.stored] at hsettings
    cases hsettings
    rw [hsame] at hformat
    obtain ⟨hsequence, hyears⟩ :=
      formatInvoiceNumber_inj (h.valid _ _ hnext.stored) hformat hnext.format
    have hscopes := scope_eq hscope hnext.scope hyears
    have hmem : n.sequenceNumber ∈ s.sequenceNumbersOf number.seriesKey number.sequenceScope :=
      List.mem_map.mpr ⟨n, List.mem_filter.mpr ⟨hn, decide_eq_true ⟨hseries, hscopes⟩⟩, rfl⟩
    rw [hsequence, hcount] at hmem
    exact (h.consecutive _ _ _ hnext.stored).not_mem hmem
  · refine h.apart active settings hnext.isActive (by rw [hnext.series]; exact hnext.stored) n hn
      (by rw [hnext.series]; exact hseries) invoiceDate number.sequenceNumber (by omega) ?_
    rw [hsame]
    exact hnext.format

/-- **NO GAPS**: in every scope of every series the numbers are the first one and the ones
    that follow it, each given once and in this order; the counter is the last of them, and
    every invoice carries the text of its own number. -/
theorem sequence_numbers_consecutive
    (h : (FromEmpty storagePath localeCompare).Reachable s) :
    (∀ seriesKey sequenceScope settings, s.numberingSettings.get? seriesKey = some settings →
      s.sequenceNumbersOf seriesKey sequenceScope
        = (List.range (s.sequenceNumbersOf seriesKey sequenceScope).length).map
          fun i : Nat => settings.firstSequenceNumber + i)
    ∧ (∀ seriesKey sequenceScope, s.numberSequences.get? (seriesKey, sequenceScope)
      = (s.sequenceNumbersOf seriesKey sequenceScope).getLast?)
    ∧ ∀ e ∈ s.invoices.entries, ∃ settings invoiceDate,
      s.numberingSettings.get? e.2.seriesKey = some settings
        ∧ resolveInvoiceNumberSequenceScope settings invoiceDate = .ok e.2.sequenceScope
        ∧ formatInvoiceNumber settings invoiceDate e.2.sequenceNumber
          = .ok e.2.invoiceNumber := by
  have hnumbered := numbered_of_reachable h
  exact ⟨hnumbered.consecutive, hnumbered.counter, fun e he =>
    hnumbered.formatted e.2.identity (List.mem_map.mpr ⟨e, he, rfl⟩)⟩

theorem sequence_numbers_consecutive_sample :
    (∀ sequenceScope, (sampleAfter 13).sequenceNumbersOf "default" sequenceScope
        = (List.range ((sampleAfter 13).sequenceNumbersOf "default" sequenceScope).length).map
          fun i : Nat => sampleSettings.firstSequenceNumber + i)
      ∧ (sampleAfter 13).sequenceNumbersOf "default" "calendar-year:2026" = [7, 8] := by
  have hrun : (FromEmpty samplePath sampleCompare).Reachable (sampleAfter 13) :=
    @reachable_of_run _ _ _ _ _ (sampleRequests.take 13) (.initial rfl) (by rfl)
  exact ⟨fun sequenceScope => (sequence_numbers_consecutive hrun).1 "default" sequenceScope
    sampleSettings (by rfl), by decide +kernel⟩

/-- **THE NEXT NUMBER IS NEW**: neither the number nor the reference that an approval is
    about to give belongs to any invoice of any series. -/
theorem next_number_fresh
    (h : (FromEmpty storagePath localeCompare).Reachable s)
    {invoiceDate : Text} {number : NumberedInvoice}
    (hnext : s.nextInvoiceNumber invoiceDate = .ok number) :
    ∀ e ∈ s.invoices.entries, e.2.invoiceNumber ≠ number.invoiceNumber
      ∧ ∀ reference, createFinnishDomesticReferenceNumber number.invoiceNumber = .ok reference →
        e.2.referenceNumber ≠ some reference := by
  intro e he
  have hnumbered := numbered_of_reachable h
  have hmem : e.2.identity ∈ s.identities := List.mem_map.mpr ⟨e, he, rfl⟩
  have hfresh := fresh_of_next hnumbered hnext _ hmem
  refine ⟨hfresh, fun reference hcreate hsame => hfresh ?_⟩
  -- a reference is its number and one more digit
  have hbefore := hnumbered.referenced _ hmem reference hsame
  exact (createFinnishDomesticReferenceNumber_valid hbefore).2.symm.trans
    (createFinnishDomesticReferenceNumber_valid hcreate).2

theorem next_number_fresh_sample :
    ∃ number, (sampleAfter 12).nextInvoiceNumber "2026-01-04".toList = .ok number
      ∧ ∀ e ∈ (sampleAfter 12).invoices.entries, e.2.invoiceNumber ≠ number.invoiceNumber := by
  have hrun : (FromEmpty samplePath sampleCompare).Reachable (sampleAfter 12) :=
    @reachable_of_run _ _ _ _ _ (sampleRequests.take 12) (.initial rfl) (by rfl)
  have hnext : (sampleAfter 12).nextInvoiceNumber "2026-01-04".toList
      = .ok ⟨"s2", "plain", 2026009, "2026009".toList⟩ := by rfl
  exact ⟨_, hnext, fun e he => (next_number_fresh hrun hnext e he).1⟩

end InvoiceLedger.Ledger
