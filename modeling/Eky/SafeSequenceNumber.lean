import Eky.InvoiceNumbering

/-! # The minimum safe sequence number

    When the numbering settings change, the numbers issued so far may come up again under
    the new form.  `calculateMinimumSafeInvoiceSequenceNumber` reads every existing number
    as a number of the new form and starts behind the largest sequence number it finds.

    The proof goes through one equivalence: an existing number is read as the sequence
    number `n` exactly when the new form gives it to `n` on some invoice date
    (`findLargestCollidingSequenceNumber_eq_some`).  It covers the padding, the zeros in front
    and which four digits are the year of a date; the loop then only takes a maximum. -/

namespace SafeSequenceNumber

open Fallible Decimals AsciiLines InvoiceNumbering
open InvoiceMoney (IsSafeInteger)

/-! ## The calculation -/

/-- Digits of a reference number without check digit. -/
def maximumFinnishDomesticReferenceBaseLength : Nat := 19

/-- The last year. -/
def maximumSupportedInvoiceYear : Nat := 9999

/-- `String(maximumSupportedInvoiceYear).length` -/
def maximumYearPrefixLength : Nat := 4

/-- Digits after a year. -/
def maximumYearBasedSequenceDigits : Nat :=
  maximumFinnishDomesticReferenceBaseLength - maximumYearPrefixLength

/-- The largest number after a year. -/
def maximumYearBasedSequenceNumber : Nat := 10 ^ maximumYearBasedSequenceDigits - 1

/-- The largest number without a year. -/
def maximumPlainSequenceNumber : Nat :=
  min maximumSafeInteger (10 ^ maximumFinnishDomesticReferenceBaseLength - 1)

/-- Whether a number is left. -/
inductive Capacity
  | available
  | exhausted
  deriving DecidableEq

/-- The least safe number, if one is left. -/
structure MinimumSafeInvoiceSequenceNumberResult where
  capacity : Capacity
  maximumSequenceNumber : Nat
  minimumSafeFirstSequenceNumber : Option Nat
  deriving DecidableEq

/-- Digits only, and not too many. -/
def requireNumericInvoiceNumber (invoiceNumber : Text) : Checked Unit :=
  throwIf (¬ IsDigits invoiceNumber
      ∨ invoiceNumber.length > maximumFinnishDomesticReferenceBaseLength)
    ⟨"Existing invoice numbers must contain 1 to 19 digits."⟩

/-- The number that a series would have written so. -/
def parseProducedSequenceNumber (sequenceText : Text) (sequencePadding : Int)
    (maximumSequenceNumber : Nat) : Option Nat :=
  if ¬ IsDigits sequenceText then none
  else
    let sequenceNumber := value sequenceText
    if sequenceNumber < 1 ∨ sequenceNumber > maximumSequenceNumber
        ∨ padded sequencePadding.toNat sequenceNumber ≠ sequenceText then none
    else some sequenceNumber

/-- The largest number of a mode. -/
def getMaximumSequenceNumber : InvoiceNumberingMode → Nat
  | .plainSequence => maximumPlainSequenceNumber
  | _ => maximumYearBasedSequenceNumber

/-- A year that the series may write. -/
def isSupportedYearPrefix (prefixText : Text) (target : InvoiceNumberingSeriesCandidate) : Bool :=
  decide (IsDigits prefixText ∧ prefixText.length = 4)
    && decide (minimumPrefix target ≤ value prefixText
      ∧ value prefixText ≤ maximumSupportedInvoiceYear)

/-- The largest number of the series that an invoice has. -/
def findLargestCollidingSequenceNumber (invoiceNumber : Text)
    (target : InvoiceNumberingSeriesCandidate) (maximumSequenceNumber : Nat) : Option Nat :=
  if target.mode = .plainSequence then
    parseProducedSequenceNumber invoiceNumber target.sequencePadding maximumSequenceNumber
  else if invoiceNumber.length ≤ maximumYearPrefixLength then none
  else if ¬ isSupportedYearPrefix (invoiceNumber.take maximumYearPrefixLength) target then none
  else
    parseProducedSequenceNumber (invoiceNumber.drop maximumYearPrefixLength)
      target.sequencePadding maximumSequenceNumber

/-- One round of the loop. -/
def largerCollision (target : InvoiceNumberingSeriesCandidate) (maximumSequenceNumber : Nat)
    (largestCollision : Nat) (invoiceNumber : Text) : Checked Nat := do
  requireNumericInvoiceNumber invoiceNumber
  match findLargestCollidingSequenceNumber invoiceNumber target maximumSequenceNumber with
  | some collision =>
      pure (if collision > largestCollision then collision else largestCollision)
  | none => pure largestCollision

/-- The least number that no invoice has from there on. -/
def calculateMinimumSafeInvoiceSequenceNumber (existingInvoiceNumbers : List Text)
    (target : InvoiceNumberingSeriesCandidate) :
    Checked MinimumSafeInvoiceSequenceNumberResult := do
  validateInvoiceNumberingSettings { target with firstSequenceNumber := 1 }
  let maximumSequenceNumber := getMaximumSequenceNumber target.mode
  let largestCollision ←
    existingInvoiceNumbers.foldlM (largerCollision target maximumSequenceNumber) 0
  pure (if largestCollision ≥ maximumSequenceNumber then
      { capacity := .exhausted, maximumSequenceNumber, minimumSafeFirstSequenceNumber := none }
    else
      { capacity := .available, maximumSequenceNumber
        minimumSafeFirstSequenceNumber := some (largestCollision + 1) })

/-- The selected number is safe. -/
def validateInvoiceNumberingSeriesFirstSequenceNumber (selectedFirstSequenceNumber : Int)
    (result : MinimumSafeInvoiceSequenceNumberResult) : Checked Unit := do
  let minimum ← orThrow
    (if result.capacity = .available then result.minimumSafeFirstSequenceNumber else none)
    ⟨"Invoice numbering series has no safe remaining capacity."⟩
  throwIf (¬ IsSafeInteger selectedFirstSequenceNumber ∨ selectedFirstSequenceNumber < minimum
      ∨ selectedFirstSequenceNumber > result.maximumSequenceNumber)
    ⟨"First sequence number is outside the safe range."⟩

/-! ## What an existing number is read as -/

theorem getMaximumSequenceNumber_le (mode : InvoiceNumberingMode) :
    (getMaximumSequenceNumber mode : Int) ≤ maximumSafeInteger := by
  cases mode <;> decide

theorem getMaximumSequenceNumber_pos (mode : InvoiceNumberingMode) :
    0 < getMaximumSequenceNumber mode := by
  cases mode <;> decide

variable {target : InvoiceNumberingSeriesCandidate} {number : Text} {maximum : Nat}

theorem parseProducedSequenceNumber_eq_some {text : Text} {padding : Int} {n : Nat} :
    parseProducedSequenceNumber text padding maximum = some n
      ↔ 1 ≤ n ∧ n ≤ maximum ∧ text = padded padding.toNat n := by
  unfold parseProducedSequenceNumber
  constructor
  · intro h
    split at h
    · exact nomatch h
    · dsimp only at h
      split at h
      · exact nomatch h
      next hrange =>
        simp only [not_or, not_lt, not_not] at hrange
        obtain rfl := Option.some.inj h
        exact ⟨hrange.1, hrange.2.1, hrange.2.2.symm⟩
  · rintro ⟨hmin, hmax, rfl⟩
    rw [if_neg (not_not.mpr isDigits_padded)]
    simp only [value_padded]
    exact if_neg (by simp only [not_or, not_not, and_true]; omega)

theorem isSupportedYearPrefix_iff {text : Text} : isSupportedYearPrefix text target = true
      ↔ IsDigits text ∧ text.length = 4 ∧ minimumPrefix target ≤ value text := by
  simp only [isSupportedYearPrefix, Bool.and_eq_true, decide_eq_true_eq, and_assoc]
  refine and_congr_right fun hdigits => and_congr_right fun hlength => and_iff_left ?_
  have hlt := value_lt hdigits.2
  rw [hlength] at hlt
  exact Nat.le_of_lt_succ hlt

variable {settings : InvoiceNumberingSettings} {existingInvoiceNumbers : List Text}

/-- The inverse of the form: an existing number is read as `n` exactly when it is the number
    of `n` on some date. -/
theorem findLargestCollidingSequenceNumber_eq_some {n : Nat}
    (hvalid : validateInvoiceNumberingSettings settings = .ok ())
    (hmax : (maximum : Int) ≤ maximumSafeInteger) :
    findLargestCollidingSequenceNumber number settings.toInvoiceNumberingSeriesCandidate maximum
        = some n
      ↔ n ≤ maximum ∧ ∃ invoiceDate, formatInvoiceNumber settings invoiceDate n = .ok number := by
  have hsupported := (validateInvoiceNumberingSettings_eq_ok.mp hvalid).1
  unfold findLargestCollidingSequenceNumber
  by_cases hmode : settings.mode = .plainSequence
  · rw [if_pos hmode, parseProducedSequenceNumber_eq_some]
    simp only [formatInvoiceNumber_plain hvalid hmode, exists_const, Int.toNat_natCast]
    constructor
    · rintro ⟨hn, hle, rfl⟩
      exact ⟨hle, ⟨by omega, by omega⟩, rfl⟩
    · rintro ⟨hle, hn, rfl⟩
      exact ⟨by omega, hle, rfl⟩
  · rw [if_neg hmode]
    simp only [formatInvoiceNumber_year hvalid hmode, Int.toNat_natCast]
    constructor
    · intro h
      split at h
      · exact nomatch h
      next hlong =>
        split at h
        · exact nomatch h
        next hprefix =>
          rw [not_not, isSupportedYearPrefix_iff] at hprefix
          obtain ⟨hdigits, hlength, hmin⟩ := hprefix
          obtain ⟨hn, hle, hsequence⟩ := parseProducedSequenceNumber_eq_some.mp h
          obtain ⟨invoiceDate, hyear⟩ :=
            exists_date_of_prefix hsupported.startMonth hdigits hlength hmin
          refine ⟨hle, invoiceDate, ⟨by omega, by omega⟩, _, hyear, ?_⟩
          rw [padded_value hdigits hlength, ← hsequence, List.take_append_drop]
    · rintro ⟨hle, invoiceDate, hn, year, hyear, rfl⟩
      obtain ⟨hmin, hlt⟩ := prefixYear_range hsupported.startMonth hyear
      have hlength : (padded 4 year).length = 4 := length_padded (by decide) hlt
      have hsequence : padded settings.sequencePadding.toNat n ≠ [] := isDigits_padded.1
      have hlong : ¬ (padded 4 year ++ padded settings.sequencePadding.toNat n).length
          ≤ maximumYearPrefixLength := by
        rw [List.length_append, hlength, maximumYearPrefixLength]
        have := List.length_pos_iff.mpr hsequence
        omega
      rw [if_neg hlong, maximumYearPrefixLength, List.take_left' hlength, List.drop_left' hlength,
        if_neg (not_not.mpr (isSupportedYearPrefix_iff.mpr
          ⟨isDigits_padded, hlength, by rwa [value_padded]⟩))]
      exact parseProducedSequenceNumber_eq_some.mpr ⟨by omega, hle, rfl⟩

/-! ## The loop -/

/-- The numbers the calculation reads: 1 to 19 digits. -/
def IsInvoiceNumber (number : Text) : Prop :=
  IsDigits number ∧ number.length ≤ maximumFinnishDomesticReferenceBaseLength

theorem requireNumericInvoiceNumber_eq_ok {u : Unit} :
    requireNumericInvoiceNumber number = .ok u ↔ IsInvoiceNumber number := by
  rw [requireNumericInvoiceNumber, throwIf_eq_ok, not_or, not_not, not_lt, IsInvoiceNumber]

theorem largerCollision_of_isInvoiceNumber {largest : Nat} (h : IsInvoiceNumber number) :
    largerCollision target maximum largest number
      = .ok (max ((findLargestCollidingSequenceNumber number target maximum).getD 0) largest) := by
  unfold largerCollision
  rw [(requireNumericInvoiceNumber_eq_ok (u := ())).mpr h]
  show (match findLargestCollidingSequenceNumber number target maximum with
    | some collision => _
    | none => _) = _
  cases findLargestCollidingSequenceNumber number target maximum with
  | none => exact congrArg Except.ok (Nat.zero_max largest).symm
  | some collision =>
      refine congrArg Except.ok ?_
      rw [Option.getD_some, Nat.max_def]
      split <;> split <;> omega

/-- The loop ends with an upper bound of all collisions that is itself one of them, unless it
    is the number the loop began with. -/
theorem foldlM_largerCollision (numbers : List Text)
    (hnumbers : ∀ number ∈ numbers, IsInvoiceNumber number) (start : Nat) :
    ∃ largest, numbers.foldlM (largerCollision target maximum) start = .ok largest
      ∧ start ≤ largest
      ∧ (∀ number ∈ numbers, ∀ n,
          findLargestCollidingSequenceNumber number target maximum = some n → n ≤ largest)
      ∧ (largest = start ∨ ∃ number ∈ numbers,
          findLargestCollidingSequenceNumber number target maximum = some largest) := by
  induction numbers generalizing start with
  | nil => exact ⟨start, rfl, Nat.le_refl _, fun _ h => absurd h List.not_mem_nil, .inl rfl⟩
  | cons number numbers ih =>
      obtain ⟨hnumber, hrest⟩ := List.forall_mem_cons.mp hnumbers
      obtain ⟨largest, hloop, hstart, hupper, hreached⟩ := ih hrest
        (max ((findLargestCollidingSequenceNumber number target maximum).getD 0) start)
      refine ⟨largest, ?_, le_trans (Nat.le_max_right _ _) hstart, ?_, ?_⟩
      · rw [List.foldlM_cons, largerCollision_of_isInvoiceNumber hnumber]
        exact hloop
      · refine List.forall_mem_cons.mpr ⟨fun n hn => ?_, hupper⟩
        rw [hn, Option.getD_some] at hstart
        exact le_trans (Nat.le_max_left _ _) hstart
      · rcases hreached with hlargest | ⟨other, hmem, hother⟩
        · -- the larger one of the two came from this number or from before
          cases hfind : findLargestCollidingSequenceNumber number target maximum with
          | none =>
              rw [hfind, Option.getD_none, Nat.zero_max] at hlargest
              exact .inl hlargest
          | some n =>
              rw [hfind, Option.getD_some] at hlargest
              rcases max_choice n start with hmax | hmax
              · exact .inr ⟨number, List.mem_cons_self, by rw [hfind, hlargest, hmax]⟩
              · exact .inl (hlargest.trans hmax)
        · exact .inr ⟨other, List.mem_cons_of_mem _ hmem, hother⟩

/-! ## What the result promises -/

/-- Some supported date gives the sequence number `n` an invoice number that exists. -/
def Collides (settings : InvoiceNumberingSettings) (existingInvoiceNumbers : List Text)
    (n : Int) : Prop :=
  ∃ invoiceDate, ∃ number ∈ existingInvoiceNumbers,
    formatInvoiceNumber settings invoiceDate n = .ok number

section

variable (hvalid : validateInvoiceNumberingSettings settings = .ok ())
include hvalid

/-- A collision within the maximum is found in the number it is a collision with. -/
theorem collides_iff {n : Int} (hn : 1 ≤ n) (hmax : n ≤ getMaximumSequenceNumber settings.mode) :
    Collides settings existingInvoiceNumbers n
      ↔ ∃ number ∈ existingInvoiceNumbers,
        findLargestCollidingSequenceNumber number settings.toInvoiceNumberingSeriesCandidate
          (getMaximumSequenceNumber settings.mode) = some n.toNat := by
  obtain ⟨k, rfl⟩ := Int.eq_ofNat_of_zero_le (le_trans Int.one_nonneg hn)
  simp only [findLargestCollidingSequenceNumber_eq_some hvalid (getMaximumSequenceNumber_le _),
    Int.toNat_natCast]
  constructor
  · rintro ⟨invoiceDate, number, hmem, hnumber⟩
    exact ⟨number, hmem, by omega, invoiceDate, hnumber⟩
  · rintro ⟨number, hmem, -, invoiceDate, hnumber⟩
    exact ⟨invoiceDate, number, hmem, hnumber⟩

/-- What the largest collision found says about every sequence number up to the maximum. -/
theorem exists_largestCollision
    (hexisting : ∀ number ∈ existingInvoiceNumbers, IsInvoiceNumber number) : ∃ largest : Nat,
      existingInvoiceNumbers.foldlM (largerCollision settings.toInvoiceNumberingSeriesCandidate
        (getMaximumSequenceNumber settings.mode)) 0 = .ok largest
      ∧ largest ≤ getMaximumSequenceNumber settings.mode
      ∧ (∀ n : Int, largest < n → n ≤ getMaximumSequenceNumber settings.mode →
          ¬ Collides settings existingInvoiceNumbers n)
      ∧ (largest = 0 ∨ Collides settings existingInvoiceNumbers largest) := by
  obtain ⟨largest, hloop, -, hupper, hreached⟩ := @foldlM_largerCollision
    settings.toInvoiceNumberingSeriesCandidate (getMaximumSequenceNumber settings.mode)
    existingInvoiceNumbers hexisting 0
  refine ⟨largest, hloop, ?_, fun n hn hmax hcollides => ?_, ?_⟩
  · rcases hreached with rfl | ⟨number, -, hfound⟩
    · exact Nat.zero_le _
    · exact ((findLargestCollidingSequenceNumber_eq_some hvalid
        (getMaximumSequenceNumber_le _)).mp hfound).1
  · obtain ⟨number, hmem, hfound⟩ := (collides_iff hvalid (by omega) hmax).mp hcollides
    have hle := hupper number hmem _ hfound
    omega
  · refine hreached.imp_right fun ⟨number, hmem, hfound⟩ => ?_
    obtain ⟨-, invoiceDate, hnumber⟩ := (findLargestCollidingSequenceNumber_eq_some hvalid
      (getMaximumSequenceNumber_le _)).mp hfound
    exact ⟨invoiceDate, number, hmem, hnumber⟩

/-- The check of the settings in the calculation replaces the first sequence number. -/
theorem validate_withFirst : validateInvoiceNumberingSettings
      { settings.toInvoiceNumberingSeriesCandidate with firstSequenceNumber := 1 } = .ok () :=
  validateInvoiceNumberingSettings_eq_ok.mpr
    ⟨(validateInvoiceNumberingSettings_eq_ok.mp hvalid).1, Int.le_refl 1,
      (by decide : (1 : Int) ≤ maximumSafeInteger)⟩

/-- The result in terms of the largest collision. -/
theorem calculateMinimumSafeInvoiceSequenceNumber_eq {largest : Nat}
    (hloop : existingInvoiceNumbers.foldlM
      (largerCollision settings.toInvoiceNumberingSeriesCandidate
        (getMaximumSequenceNumber settings.mode)) 0 = .ok largest) :
    calculateMinimumSafeInvoiceSequenceNumber existingInvoiceNumbers
        settings.toInvoiceNumberingSeriesCandidate
      = .ok (if largest ≥ getMaximumSequenceNumber settings.mode then
          ⟨.exhausted, getMaximumSequenceNumber settings.mode, none⟩
        else ⟨.available, getMaximumSequenceNumber settings.mode, some (largest + 1)⟩) := by
  unfold calculateMinimumSafeInvoiceSequenceNumber
  rw [validate_withFirst hvalid]
  dsimp only [bind, Except.bind]
  rw [show existingInvoiceNumbers.foldlM _ 0 = _ from hloop]
  rfl

/-- Every selected first number that is accepted starts a series without a collision. -/
theorem accepted_first_never_collides {selected : Int}
    {result : MinimumSafeInvoiceSequenceNumberResult}
    (hexisting : ∀ number ∈ existingInvoiceNumbers, IsInvoiceNumber number)
    (hresult : calculateMinimumSafeInvoiceSequenceNumber existingInvoiceNumbers
      settings.toInvoiceNumberingSeriesCandidate = .ok result)
    (hselected : validateInvoiceNumberingSeriesFirstSequenceNumber selected result = .ok ())
    {n : Int} (hn : selected ≤ n) (hmax : n ≤ result.maximumSequenceNumber) :
    ¬ Collides settings existingInvoiceNumbers n := by
  obtain ⟨largest, hloop, -, hsafe, -⟩ := exists_largestCollision hvalid hexisting
  rw [calculateMinimumSafeInvoiceSequenceNumber_eq hvalid hloop] at hresult
  obtain rfl := Except.ok.inj hresult
  simp only [validateInvoiceNumberingSeriesFirstSequenceNumber, bind_eq_ok, orThrow_eq_ok,
    throwIf_eq_ok, not_or, not_lt] at hselected
  obtain ⟨minimum, hminimum, -, hle, -⟩ := hselected
  split at hminimum
  · cases hminimum
  next havailable =>
    rw [if_neg havailable] at hmax
    obtain rfl := Option.some.inj hminimum
    exact hsafe n (by omega) hmax

end

/-- The calculation accepts every list of existing numbers.  From the minimum on no supported
    sequence number gives an existing number on any date, and the one in front of the minimum
    does on some date.  Without a minimum it is the maximum itself that gives one. -/
theorem minimum_safe_and_least (settings : InvoiceNumberingSettings)
    (existingInvoiceNumbers : List Text)
    (hvalid : validateInvoiceNumberingSettings settings = .ok ())
    (hexisting : ∀ number ∈ existingInvoiceNumbers, IsInvoiceNumber number) :
    ∃ result, calculateMinimumSafeInvoiceSequenceNumber existingInvoiceNumbers
        settings.toInvoiceNumberingSeriesCandidate = .ok result
      ∧ result.maximumSequenceNumber = getMaximumSequenceNumber settings.mode
      ∧ match result.minimumSafeFirstSequenceNumber with
        | some m => result.capacity = .available
            ∧ 1 ≤ m ∧ m ≤ result.maximumSequenceNumber
            ∧ (∀ s : Int, m ≤ s → s ≤ result.maximumSequenceNumber →
                ∀ invoiceDate, ∀ number ∈ existingInvoiceNumbers,
                  formatInvoiceNumber settings invoiceDate s ≠ .ok number)
            ∧ (m = 1 ∨ Collides settings existingInvoiceNumbers (m - 1))
        | none => result.capacity = .exhausted
            ∧ Collides settings existingInvoiceNumbers result.maximumSequenceNumber := by
  obtain ⟨largest, hloop, hle, hsafe, hreached⟩ := exists_largestCollision hvalid hexisting
  refine ⟨_, calculateMinimumSafeInvoiceSequenceNumber_eq hvalid hloop, ?_⟩
  by_cases hfull : largest ≥ getMaximumSequenceNumber settings.mode
  · rw [if_pos hfull]
    obtain rfl := Nat.le_antisymm hle hfull
    refine ⟨rfl, rfl, hreached.resolve_left ?_⟩
    exact Nat.pos_iff_ne_zero.mp (getMaximumSequenceNumber_pos settings.mode)
  · rw [if_neg hfull]
    refine ⟨rfl, rfl, Nat.succ_pos _, not_le.mp hfull, ?_, ?_⟩
    · intro s hs hmax invoiceDate number hmem hnumber
      exact hsafe s (by omega) hmax ⟨invoiceDate, number, hmem, hnumber⟩
    · refine hreached.imp (congrArg (· + 1)) fun hcollides => ?_
      rwa [Nat.cast_succ, add_sub_cancel_right]

/-- A fiscal year that begins in July, padded to four digits. -/
def sampleSettings : InvoiceNumberingSettings :=
  { mode := .fiscalYearSequence, fiscalYearStartMonth := 7, sequencePadding := 4
    firstSequenceNumber := 1 }

theorem sample_minimum_safe : ∃ result,
    calculateMinimumSafeInvoiceSequenceNumber ["20270017".toList, "7".toList]
        sampleSettings.toInvoiceNumberingSeriesCandidate = .ok result
      ∧ result.maximumSequenceNumber = getMaximumSequenceNumber sampleSettings.mode
      ∧ match result.minimumSafeFirstSequenceNumber with
        | some m => result.capacity = .available
            ∧ 1 ≤ m ∧ m ≤ result.maximumSequenceNumber
            ∧ (∀ s : Int, m ≤ s → s ≤ result.maximumSequenceNumber →
                ∀ invoiceDate, ∀ number ∈ ["20270017".toList, "7".toList],
                  formatInvoiceNumber sampleSettings invoiceDate s ≠ .ok number)
            ∧ (m = 1 ∨ Collides sampleSettings ["20270017".toList, "7".toList] (m - 1))
        | none => result.capacity = .exhausted
            ∧ Collides sampleSettings ["20270017".toList, "7".toList]
                result.maximumSequenceNumber :=
  minimum_safe_and_least sampleSettings _ (by decide)
    (List.forall_mem_cons.mpr ⟨⟨by decide, by decide⟩,
      List.forall_mem_cons.mpr ⟨⟨by decide, by decide⟩, fun _ h => absurd h List.not_mem_nil⟩⟩)

example : calculateMinimumSafeInvoiceSequenceNumber ["20270017".toList, "7".toList]
      sampleSettings.toInvoiceNumberingSeriesCandidate
    = .ok ⟨.available, 999999999999999, some 18⟩ := by decide

end SafeSequenceNumber
