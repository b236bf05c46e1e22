import Eky.Decimals
import Eky.AsciiLines
import Eky.InvoiceMoney

/-! # Invoice numbers — settings, dates and the text of a number

    An invoice number is a sequence number, padded with zeros to the width of the settings.
    In the two year-based modes the calendar year or the fiscal year of the invoice date
    stands in front of it with four digits.

    - `validateInvoiceNumberingSettings_eq_ok`, `parseInvoiceDate_eq_ok`: what is accepted;
    - `formatInvoiceNumber_plain`, `formatInvoiceNumber_year`: when a number is returned, and
      which;
    - `formatInvoiceNumber_inj`: a number tells the scope and the sequence number. -/

namespace InvoiceNumbering

open Fallible Decimals AsciiLines
open InvoiceMoney (IsSafeInteger)

/-! ## Settings -/

/-- When the numbers begin again. -/
inductive InvoiceNumberingMode
  | fiscalYearSequence
  | calendarYearSequence
  | plainSequence
  deriving DecidableEq

/-- What the form of a number depends on. -/
structure InvoiceNumberingSeriesCandidate where
  mode : InvoiceNumberingMode
  fiscalYearStartMonth : Int
  sequencePadding : Int
  deriving DecidableEq

/-- The settings of a series. -/
structure InvoiceNumberingSettings extends InvoiceNumberingSeriesCandidate where
  firstSequenceNumber : Int
  deriving DecidableEq

/-- A refusal and its text. -/
structure InvoiceNumberingError where
  message : String
  deriving DecidableEq

/-- An answer of the numbering. -/
abbrev Checked := Except InvoiceNumberingError

/-- Digits of a padded number. -/
def maxSequencePadding : Int := 12

/-- Refuses what is not a safe integer. -/
def requireSafeInteger (value : Int) (fieldName : String) : Checked Unit :=
  throwIf (¬ IsSafeInteger value) ⟨s!"{fieldName} must be a safe integer."⟩

/-- Refuses what is out of range. -/
def requireIntegerInRange (value : Int) (fieldName : String) (minimum maximum : Int) :
    Checked Unit := do
  requireSafeInteger value fieldName
  throwIf (value < minimum ∨ value > maximum)
    ⟨s!"{fieldName} must be between {minimum} and {maximum}."⟩

/-- The checks of the settings. -/
def validateInvoiceNumberingSettings (settings : InvoiceNumberingSettings) : Checked Unit := do
  requireIntegerInRange settings.fiscalYearStartMonth "Fiscal year start month" 1 12
  requireIntegerInRange settings.sequencePadding "Sequence padding" 0 maxSequencePadding
  requireIntegerInRange settings.firstSequenceNumber "First sequence number" 1 maximumSafeInteger

/-- A number from one on. -/
def validateInvoiceSequenceNumber (sequenceNumber : Int) : Checked Unit :=
  requireIntegerInRange sequenceNumber "Sequence number" 1 maximumSafeInteger

variable {settings : InvoiceNumberingSettings} {text invoiceDate year number : Text} {u : Unit}
  {n : Int}

/-- Inside the safe range only the bounds themselves count. -/
theorem requireIntegerInRange_eq_ok {value minimum maximum : Int} {fieldName : String}
    (hmin : -maximumSafeInteger ≤ minimum) (hmax : maximum ≤ maximumSafeInteger) :
    requireIntegerInRange value fieldName minimum maximum = .ok u
      ↔ minimum ≤ value ∧ value ≤ maximum := by
  simp only [requireIntegerInRange, requireSafeInteger, bind_eq_ok, throwIf_eq_ok,
    not_not]
  constructor
  · rintro ⟨_, _, h⟩
    omega
  · intro h
    exact ⟨(), ⟨by omega, by omega⟩, by omega⟩

/-- The settings the module supports. -/
structure InvoiceNumberingSeriesCandidate.IsSupported
    (target : InvoiceNumberingSeriesCandidate) : Prop where
  startMonth : 1 ≤ target.fiscalYearStartMonth ∧ target.fiscalYearStartMonth ≤ 12
  padding : 0 ≤ target.sequencePadding ∧ target.sequencePadding ≤ 12

theorem validateInvoiceNumberingSettings_eq_ok : validateInvoiceNumberingSettings settings = .ok u
      ↔ settings.IsSupported
        ∧ 1 ≤ settings.firstSequenceNumber ∧ settings.firstSequenceNumber ≤ maximumSafeInteger := by
  rw [validateInvoiceNumberingSettings]
  simp only [bind_eq_ok]
  constructor
  · rintro ⟨_, hmonth, _, hpadding, hfirst⟩
    rw [requireIntegerInRange_eq_ok (by decide) (by decide)] at hmonth hpadding hfirst
    exact ⟨⟨hmonth, hpadding⟩, hfirst⟩
  · rintro ⟨hsupported, hfirst⟩
    exact ⟨(), (requireIntegerInRange_eq_ok (by decide) (by decide)).mpr hsupported.startMonth,
      (), (requireIntegerInRange_eq_ok (by decide) (by decide)).mpr hsupported.padding,
      (requireIntegerInRange_eq_ok (by decide) (by decide)).mpr hfirst⟩

theorem validateInvoiceSequenceNumber_eq_ok :
    validateInvoiceSequenceNumber n = .ok u ↔ 1 ≤ n ∧ n ≤ maximumSafeInteger :=
  requireIntegerInRange_eq_ok (by decide) (by decide)

/-! ## Invoice dates -/

/-- A date. -/
structure InvoiceDateParts where
  year : Nat
  month : Nat
  day : Nat
  deriving DecidableEq

/-- `getDaysInMonth` -/
def getDaysInMonth : Nat → Nat → Nat := JavaScript.daysInMonth

/-- The groups of `/^(\d{4})-(\d{2})-(\d{2})$/`. -/
def dateGroups : Text → Option (Text × Text × Text)
  | [y₁, y₂, y₃, y₄, '-', m₁, m₂, '-', d₁, d₂] =>
      if IsDigits [y₁, y₂, y₃, y₄] ∧ IsDigits [m₁, m₂] ∧ IsDigits [d₁, d₂] then
        some ([y₁, y₂, y₃, y₄], [m₁, m₂], [d₁, d₂])
      else none
  | _ => none

/-- The date of a text. -/
def parseInvoiceDate (invoiceDate : Text) : Checked InvoiceDateParts := do
  let (yearText, monthText, dayText) ←
    orThrow (dateGroups invoiceDate) ⟨"Invoice date must use YYYY-MM-DD format."⟩
  let year := value yearText
  let month := value monthText
  let day := value dayText
  throwIf (year < 1) ⟨"Invoice date year is invalid."⟩
  throwIf (month < 1 ∨ month > 12) ⟨"Invoice date month is invalid."⟩
  throwIf (day < 1 ∨ day > getDaysInMonth year month) ⟨"Invoice date day is invalid."⟩
  pure { year, month, day }

theorem dateGroups_eq_some {month day : Text} : dateGroups text = some (year, month, day)
      ↔ IsDigits year ∧ year.length = 4 ∧ IsDigits month ∧ month.length = 2
        ∧ IsDigits day ∧ day.length = 2
        ∧ text = year ++ '-' :: month ++ '-' :: day := by
  constructor
  · intro h
    unfold dateGroups at h
    split at h
    · split at h
      · next hdigits =>
          obtain ⟨rfl, rfl, rfl⟩ := by simpa using h
          exact ⟨hdigits.1, rfl, hdigits.2.1, rfl, hdigits.2.2, rfl, rfl⟩
      · exact nomatch h
    · exact nomatch h
  · rintro ⟨hyear, hyearLength, hmonth, hmonthLength, hday, hdayLength, rfl⟩
    match year, month, day, hyearLength, hmonthLength, hdayLength with
    | [y₁, y₂, y₃, y₄], [m₁, m₂], [d₁, d₂], _, _, _ =>
        show (if _ then _ else _) = _
        exact if_pos ⟨hyear, hmonth, hday⟩

theorem parseInvoiceDate_eq_ok {date : InvoiceDateParts} : parseInvoiceDate text = .ok date
      ↔ ∃ year month day, dateGroups text = some (year, month, day)
        ∧ date = ⟨value year, value month, value day⟩
        ∧ 1 ≤ date.year ∧ 1 ≤ date.month ∧ date.month ≤ 12
        ∧ 1 ≤ date.day ∧ date.day ≤ getDaysInMonth date.year date.month := by
  unfold parseInvoiceDate
  simp only [bind_eq_ok, orThrow_eq_ok, throwIf_eq_ok, pure_eq_ok, Prod.exists]
  constructor
  · rintro ⟨year, month, day, hgroups, _, hyear, _, hmonth, _, hday, rfl⟩
    refine ⟨year, month, day, hgroups, rfl, ?_⟩
    show 1 ≤ value year ∧ 1 ≤ value month ∧ value month ≤ 12
      ∧ 1 ≤ value day ∧ value day ≤ getDaysInMonth (value year) (value month)
    omega
  · rintro ⟨year, month, day, hgroups, rfl, hyear, hmonth, hmonth', hday, hday'⟩
    exact ⟨year, month, day, hgroups, (), Nat.not_lt.mpr hyear, (),
      not_or.mpr ⟨Nat.not_lt.mpr hmonth, Nat.not_lt.mpr hmonth'⟩, (),
      not_or.mpr ⟨Nat.not_lt.mpr hday, Nat.not_lt.mpr hday'⟩, rfl⟩

/-- Dates have years of four digits. -/
theorem year_lt_of_parse {date : InvoiceDateParts} (h : parseInvoiceDate text = .ok date) :
    date.year < 10 ^ 4 := by
  obtain ⟨year, month, day, hgroups, rfl, -⟩ := parseInvoiceDate_eq_ok.mp h
  obtain ⟨hyear, hlength, -⟩ := dateGroups_eq_some.mp hgroups
  have hlt := value_lt hyear.2
  rwa [hlength] at hlt

/-! ## Scopes and numbers -/

/-- The fiscal year of a date. -/
def getFiscalYearForInvoiceDate (invoiceDate : Text) (fiscalYearStartMonth : Int) :
    Checked Nat := do
  requireIntegerInRange fiscalYearStartMonth "Fiscal year start month" 1 12
  let date ← parseInvoiceDate invoiceDate
  pure (if fiscalYearStartMonth ≤ date.month then date.year else date.year - 1)

/-- The year of a date. -/
def getCalendarYearForInvoiceDate (invoiceDate : Text) : Checked Nat := do
  let date ← parseInvoiceDate invoiceDate
  pure date.year

/-- The key that numbers are counted under. -/
def resolveInvoiceNumberSequenceScope (settings : InvoiceNumberingSettings)
    (invoiceDate : Text) : Checked String := do
  validateInvoiceNumberingSettings settings
  match settings.mode with
  | .plainSequence => pure "plain"
  | .calendarYearSequence =>
      let year ← getCalendarYearForInvoiceDate invoiceDate
      pure s!"calendar-year:{year}"
  | .fiscalYearSequence =>
      let year ← getFiscalYearForInvoiceDate invoiceDate settings.fiscalYearStartMonth
      pure s!"fiscal-year:{year}"

/-- A number with its zeros. -/
def formatSequenceNumber (sequenceNumber sequencePadding : Int) : Checked Text := do
  validateInvoiceSequenceNumber sequenceNumber
  requireIntegerInRange sequencePadding "Sequence padding" 0 maxSequencePadding
  pure (padded sequencePadding.toNat sequenceNumber.toNat)

/-- The number that stands on an invoice. -/
def formatInvoiceNumber (settings : InvoiceNumberingSettings) (invoiceDate : Text)
    (sequenceNumber : Int) : Checked Text := do
  validateInvoiceNumberingSettings settings
  let sequencePart ← formatSequenceNumber sequenceNumber settings.sequencePadding
  match settings.mode with
  | .plainSequence => pure sequencePart
  | .calendarYearSequence =>
      let calendarYear ← getCalendarYearForInvoiceDate invoiceDate
      pure (padded 4 calendarYear ++ sequencePart)
  | .fiscalYearSequence =>
      let fiscalYear ← getFiscalYearForInvoiceDate invoiceDate settings.fiscalYearStartMonth
      pure (padded 4 fiscalYear ++ sequencePart)

/-- The year in front of the sequence number, in the two modes that have one. -/
def prefixYear (target : InvoiceNumberingSeriesCandidate) (invoiceDate : Text) : Checked Nat :=
  match target.mode with
  | .fiscalYearSequence => getFiscalYearForInvoiceDate invoiceDate target.fiscalYearStartMonth
  | _ => getCalendarYearForInvoiceDate invoiceDate

theorem getCalendarYearForInvoiceDate_eq_ok {year : Nat} :
    getCalendarYearForInvoiceDate invoiceDate = .ok year
      ↔ ∃ date, parseInvoiceDate invoiceDate = .ok date ∧ date.year = year := by
  simp only [getCalendarYearForInvoiceDate, bind_eq_ok, pure_eq_ok]

theorem getFiscalYearForInvoiceDate_eq_ok {startMonth : Int} {year : Nat}
    (hmonth : 1 ≤ startMonth ∧ startMonth ≤ 12) :
    getFiscalYearForInvoiceDate invoiceDate startMonth = .ok year
      ↔ ∃ date, parseInvoiceDate invoiceDate = .ok date
        ∧ (if startMonth ≤ date.month then date.year else date.year - 1) = year := by
  have hrange : requireIntegerInRange startMonth "Fiscal year start month" 1 12 = .ok () :=
    (requireIntegerInRange_eq_ok (by decide) (by decide)).mpr hmonth
  simp only [getFiscalYearForInvoiceDate, bind_eq_ok, pure_eq_ok, hrange,
    exists_const, true_and]

theorem formatSequenceNumber_eq_ok {sequenceNumber padding : Int}
    (hpadding : 0 ≤ padding ∧ padding ≤ 12) : formatSequenceNumber sequenceNumber padding = .ok text
      ↔ (1 ≤ sequenceNumber ∧ sequenceNumber ≤ maximumSafeInteger)
        ∧ padded padding.toNat sequenceNumber.toNat = text := by
  have hrange : requireIntegerInRange padding "Sequence padding" 0 maxSequencePadding = .ok () :=
    (requireIntegerInRange_eq_ok (by decide) (by decide)).mpr hpadding
  simp only [formatSequenceNumber, bind_eq_ok, pure_eq_ok, hrange, exists_const,
    validateInvoiceSequenceNumber_eq_ok, true_and]

theorem formatInvoiceNumber_plain (hvalid : validateInvoiceNumberingSettings settings = .ok ())
    (hmode : settings.mode = .plainSequence) :
    formatInvoiceNumber settings invoiceDate n = .ok number
      ↔ (1 ≤ n ∧ n ≤ maximumSafeInteger)
        ∧ padded settings.sequencePadding.toNat n.toNat = number := by
  have hsupported := (validateInvoiceNumberingSettings_eq_ok.mp hvalid).1
  rw [← formatSequenceNumber_eq_ok hsupported.padding]
  simp only [formatInvoiceNumber, bind_eq_ok, hvalid, hmode, pure_eq_ok, exists_const,
    exists_eq_right, true_and]

theorem formatInvoiceNumber_year (hvalid : validateInvoiceNumberingSettings settings = .ok ())
    (hmode : settings.mode ≠ .plainSequence) :
    formatInvoiceNumber settings invoiceDate n = .ok number
      ↔ (1 ≤ n ∧ n ≤ maximumSafeInteger)
        ∧ ∃ year, prefixYear settings.toInvoiceNumberingSeriesCandidate invoiceDate = .ok year
          ∧ padded 4 year ++ padded settings.sequencePadding.toNat n.toNat = number := by
  have hsupported := (validateInvoiceNumberingSettings_eq_ok.mp hvalid).1
  unfold formatInvoiceNumber prefixYear
  rw [hvalid]
  cases hm : settings.mode with
  | plainSequence => exact absurd hm hmode
  | calendarYearSequence =>
      simp only [bind_eq_ok, pure_eq_ok, exists_const, true_and,
        formatSequenceNumber_eq_ok hsupported.padding, and_assoc, exists_and_left, exists_eq_left']
  | fiscalYearSequence =>
      simp only [bind_eq_ok, pure_eq_ok, exists_const, true_and,
        formatSequenceNumber_eq_ok hsupported.padding, and_assoc, exists_and_left, exists_eq_left']

/-! ## The years a number can begin with -/

/-- The first year of the calendar or fiscal years.  A date before the start month of year
    one belongs to the fiscal year zero. -/
def minimumPrefix (target : InvoiceNumberingSeriesCandidate) : Nat :=
  if target.mode = .fiscalYearSequence ∧ target.fiscalYearStartMonth > 1 then 0 else 1

theorem prefixYear_range {target : InvoiceNumberingSeriesCandidate} {year : Nat}
    (hmonth : 1 ≤ target.fiscalYearStartMonth ∧ target.fiscalYearStartMonth ≤ 12)
    (h : prefixYear target invoiceDate = .ok year) :
    minimumPrefix target ≤ year ∧ year < 10 ^ 4 := by
  unfold prefixYear at h
  split at h
  next hmode =>
    obtain ⟨date, hdate, rfl⟩ := (getFiscalYearForInvoiceDate_eq_ok hmonth).mp h
    have hlt := year_lt_of_parse hdate
    obtain ⟨-, -, -, -, -, hyear, hdateMonth, -⟩ := parseInvoiceDate_eq_ok.mp hdate
    by_cases hstart : target.fiscalYearStartMonth > 1
    · rw [minimumPrefix, if_pos ⟨hmode, hstart⟩]
      split <;> omega
    · rw [minimumPrefix, if_neg fun hfiscal => hstart hfiscal.2, if_pos (by omega)]
      exact ⟨hyear, hlt⟩
  next hmode =>
    obtain ⟨date, hdate, rfl⟩ := getCalendarYearForInvoiceDate_eq_ok.mp h
    obtain ⟨-, -, -, -, -, hyear, -⟩ := parseInvoiceDate_eq_ok.mp hdate
    rw [minimumPrefix, if_neg fun hfiscal => hmode hfiscal.1]
    exact ⟨hyear, year_lt_of_parse hdate⟩

/-- The last day of a year and the first one. -/
theorem parse_lastDay (hdigits : IsDigits year) (hlength : year.length = 4)
    (hpos : 1 ≤ value year) :
    parseInvoiceDate (year ++ "-12-31".toList) = .ok ⟨value year, 12, 31⟩ :=
  parseInvoiceDate_eq_ok.mpr ⟨year, ['1', '2'], ['3', '1'],
    dateGroups_eq_some.mpr ⟨hdigits, hlength, by decide, rfl, by decide, rfl,
      (List.append_assoc year ['-', '1', '2'] ['-', '3', '1']).symm⟩,
    rfl, hpos, by simp, Nat.le_refl 12, by simp, Nat.le_refl 31⟩

theorem parse_firstDay : parseInvoiceDate "0001-01-01".toList = .ok ⟨1, 1, 1⟩ := by decide

/-- Every year from the first one to 9999 is the year of a date. -/
theorem exists_date_of_prefix {target : InvoiceNumberingSeriesCandidate}
    (hmonth : 1 ≤ target.fiscalYearStartMonth ∧ target.fiscalYearStartMonth ≤ 12)
    (hdigits : IsDigits year) (hlength : year.length = 4)
    (hmin : minimumPrefix target ≤ value year) :
    ∃ invoiceDate, prefixYear target invoiceDate = .ok (value year) := by
  by_cases hzero : value year = 0
  · rw [minimumPrefix, hzero] at hmin
    split at hmin
    next hfiscal =>
      -- the first day of year one lies before the start month
      refine ⟨"0001-01-01".toList, ?_⟩
      rw [prefixYear, hfiscal.1, hzero]
      refine (getFiscalYearForInvoiceDate_eq_ok hmonth).mpr ⟨_, parse_firstDay, if_neg ?_⟩
      exact not_le.mpr hfiscal.2
    next => exact absurd hmin (by decide)
  · have hdate := parse_lastDay hdigits hlength (Nat.one_le_iff_ne_zero.mpr hzero)
    refine ⟨year ++ "-12-31".toList, ?_⟩
    unfold prefixYear
    split
    · -- the last day of the year lies in the fiscal year of its own year
      exact (getFiscalYearForInvoiceDate_eq_ok hmonth).mpr ⟨_, hdate, if_pos hmonth.2⟩
    · exact getCalendarYearForInvoiceDate_eq_ok.mpr ⟨_, hdate, rfl⟩

/-- A number tells its sequence number, and in the year-based modes the year in front. -/
theorem formatInvoiceNumber_inj {first second : Text} {m : Int}
    (hvalid : validateInvoiceNumberingSettings settings = .ok ())
    (hfirst : formatInvoiceNumber settings first n = .ok number)
    (hsecond : formatInvoiceNumber settings second m = .ok number) :
    n = m ∧ (settings.mode ≠ .plainSequence →
      prefixYear settings.toInvoiceNumberingSeriesCandidate first
        = prefixYear settings.toInvoiceNumberingSeriesCandidate second) := by
  have hmonth := (validateInvoiceNumberingSettings_eq_ok.mp hvalid).1.startMonth
  by_cases hmode : settings.mode = .plainSequence
  · obtain ⟨hn, rfl⟩ := (formatInvoiceNumber_plain hvalid hmode).mp hfirst
    obtain ⟨hm, htext⟩ := (formatInvoiceNumber_plain hvalid hmode).mp hsecond
    have hnat := padded_injective htext
    exact ⟨by omega, fun h => absurd hmode h⟩
  · obtain ⟨hn, year, hyear, rfl⟩ := (formatInvoiceNumber_year hvalid hmode).mp hfirst
    obtain ⟨hm, year', hyear', htext⟩ := (formatInvoiceNumber_year hvalid hmode).mp hsecond
    have hlength : (padded 4 year').length = (padded 4 year).length := by
      rw [length_padded (by decide) (prefixYear_range hmonth hyear).2,
        length_padded (by decide) (prefixYear_range hmonth hyear').2]
    obtain ⟨hyears, hsequence⟩ := List.append_inj htext hlength
    have hnat := padded_injective hsequence
    refine ⟨by omega, fun _ => ?_⟩
    rw [hyear, hyear', padded_injective hyears]

end InvoiceNumbering
