import Eky.InvoiceForm
import Eky.CreditDraft

/-! # The totals of a legacy revision

    An invoice from before content revisions is promoted once, and before that
    `validateLegacyInvoiceRevisionTotals` derives the totals of its lines again: a
    standard invoice is priced anew, line by line, and the cents of a credit are taken as
    they are.

    The columns of a line are those of every table that keeps invoice lines;
    `InvoiceApproval` fills them. -/

namespace LegacyRevision

open Fallible InvoiceMoney InvoiceCalculation
open InvoiceForm (InvoiceTaxTreatment)
open ReverseCharge (calculateReverseChargeInvoiceLine)

/-! ## Stored columns -/

/-- An invoice, or a credit of one. -/
inductive InvoiceKind
  | standard
  | credit
  deriving DecidableEq

/-- `discount_type`, which the tables check against these values. -/
inductive DiscountType
  | none
  | percentage
  | fixed
  deriving DecidableEq

/-- The columns that draft lines, invoice lines and revision lines share. -/
structure LineColumns where
  quantityHundredths : Int
  unitPriceCents : Int
  vatRateBasisPoints : Option Int
  discountType : DiscountType
  discountValue : Int
  baseCents : Int
  discountCents : Int
  netCents : Int
  vatCents : Int
  grossCents : Int
  deriving DecidableEq

/-- Where a revision comes from. -/
inductive RevisionOrigin
  | approval
  | legacySnapshot
  | validatedLegacySnapshot
  deriving DecidableEq

/-- Whether the rows are stored. -/
inductive VatBreakdownState
  | authoritative
  | unavailable
  deriving DecidableEq

/-- What the totals are taken from. -/
structure LegacyRevisionTotalsInput where
  origin : RevisionOrigin
  vatBreakdownState : VatBreakdownState
  vatBreakdown : Option (List InvoiceVatBreakdown)
  invoiceKind : InvoiceKind
  priceInputMode : PriceInputMode
  taxTreatment : InvoiceTaxTreatment
  totalNetCents : Int
  totalVatCents : Int
  totalGrossCents : Int
  lines : List LineColumns
  deriving DecidableEq

/-! ## The validator -/

/-- The error of totals that do not agree. -/
def inconsistent : InvoiceError :=
  .calculation "Legacy invoice revision totals are inconsistent."

/-- The discount of stored columns. -/
def toDiscount (line : LineColumns) : InvoiceLineDiscount :=
  match line.discountType with
  | .none => .none
  | .percentage => .percentage line.discountValue
  | .fixed => .fixed line.discountValue

/-- The fields of `lineAmountFields`. -/
def lineAmounts (line : LineColumns) : List Int :=
  [line.baseCents, line.discountCents, line.netCents, line.vatCents, line.grossCents]

/-- What a line of a standard invoice is worth when it is priced again. -/
def calculateLineAmounts (priceInputMode : PriceInputMode) (taxTreatment : InvoiceTaxTreatment)
    (line : LineColumns) : Checked (List Int) :=
  match taxTreatment with
  | .reverseChargeConstruction => do
      let calculated ← calculateReverseChargeInvoiceLine {
        quantityHundredths := line.quantityHundredths
        unitPriceCents := line.unitPriceCents
        priceInputMode
        discount := toDiscount line }
      pure [calculated.baseCents, calculated.discountCents, calculated.netCents,
        calculated.vatCents, calculated.grossCents]
  | .normalVat => do
      let vatRateBasisPoints ← orThrow line.vatRateBasisPoints inconsistent
      let calculated ← calculateInvoiceLine {
        quantityHundredths := line.quantityHundredths
        unitPriceCents := line.unitPriceCents
        vatRateBasisPoints, priceInputMode
        discount := toDiscount line }
      pure [calculated.baseCents, calculated.discountCents, calculated.netCents,
        calculated.vatCents, calculated.grossCents]

/-- The input amount of a line under the mode of its invoice. -/
def inputCents (priceInputMode : PriceInputMode) (line : LineColumns) : Int :=
  if priceInputMode = .net then line.netCents else line.grossCents

/-- A stored line agrees with its calculation. -/
def validateStoredLineAmounts (invoiceKind : InvoiceKind) (priceInputMode : PriceInputMode)
    (taxTreatment : InvoiceTaxTreatment) (line : LineColumns) : Checked Unit := do
  throwIf (∃ value ∈ lineAmounts line, ¬ IsSafeInteger value ∨ value < 0) inconsistent
  match invoiceKind with
  -- the cents of a credit are not priced again
  | .credit =>
      throwIf (line.discountCents > line.baseCents
        ∨ line.baseCents - line.discountCents ≠ inputCents priceInputMode line) inconsistent
  | .standard => do
      let calculated ← calculateLineAmounts priceInputMode taxTreatment line
      throwIf (lineAmounts line ≠ calculated) inconsistent

/-- The loop over the lines of a reverse charge invoice; its sum is a `bigint`. -/
def sumReverseChargeLines (priceInputMode : PriceInputMode) (lines : List LineColumns) :
    Checked InvoiceTotals := do
  throwIf (priceInputMode ≠ .net) inconsistent
  lines.forM fun line => throwIf (line.vatRateBasisPoints ≠ none ∨ line.vatCents ≠ 0
    ∨ line.netCents ≠ line.grossCents) inconsistent
  let net := (lines.map (·.netCents)).sum
  throwIf (net > maximumSafeInteger) inconsistent
  pure ⟨net, 0, net, []⟩

/-- The amounts of a stored line. -/
def toLineAmounts (priceInputMode : PriceInputMode) (line : LineColumns) :
    Checked LineAmounts := do
  let vatRateBasisPoints ← orThrow line.vatRateBasisPoints inconsistent
  pure {
    quantityHundredths := line.quantityHundredths
    priceInputMode, vatRateBasisPoints
    baseCents := line.baseCents
    discountCents := line.discountCents
    netCents := line.netCents
    vatCents := line.vatCents
    grossCents := line.grossCents }

/-- The totals, calculated from the lines. -/
def deriveTotals (invoiceKind : InvoiceKind) (priceInputMode : PriceInputMode)
    (taxTreatment : InvoiceTaxTreatment) (lines : List LineColumns) : Checked InvoiceTotals :=
  match taxTreatment with
  | .reverseChargeConstruction => sumReverseChargeLines priceInputMode lines
  | .normalVat => do
      let lines ← lines.mapM (toLineAmounts priceInputMode)
      match invoiceKind with
      | .credit => CreditDraft.sumCreditTotals lines
      | .standard => calculateInvoiceTotals lines

/-- The kinds and modes that the validator knows are all there are. -/
def validateLegacyInvoiceRevisionTotals (revision : LegacyRevisionTotalsInput) :
    Checked InvoiceTotals := do
  throwIf (revision.origin ≠ .legacySnapshot ∨ revision.vatBreakdownState ≠ .unavailable
    ∨ revision.vatBreakdown ≠ none ∨ revision.lines.length = 0) inconsistent
  throwIf (∃ value ∈ [revision.totalNetCents, revision.totalVatCents,
    revision.totalGrossCents], ¬ IsSafeInteger value ∨ value < 0) inconsistent
  revision.lines.forM (validateStoredLineAmounts revision.invoiceKind revision.priceInputMode
    revision.taxTreatment)
  let totals ← deriveTotals revision.invoiceKind revision.priceInputMode revision.taxTreatment
    revision.lines
  throwIf (totals.netTotalCents ≠ revision.totalNetCents
    ∨ totals.vatTotalCents ≠ revision.totalVatCents
    ∨ totals.grossTotalCents ≠ revision.totalGrossCents) inconsistent
  pure totals

/-! ## When it accepts -/

/-- A line whose amounts are safe integers that are not negative. -/
def StoredAmounts (line : LineColumns) : Prop :=
  IsAmount line.baseCents ∧ IsAmount line.discountCents ∧ IsAmount line.netCents
    ∧ IsAmount line.vatCents ∧ IsAmount line.grossCents

private theorem not_outside {values : List Int} :
    (¬ ∃ value ∈ values, ¬ IsSafeInteger value ∨ value < 0) ↔ ∀ value ∈ values,
      IsAmount value := by
  constructor
  · intro h value hvalue
    refine isAmount_iff.mpr ⟨?_, ?_⟩
    · by_contra hsafe
      exact h ⟨value, hvalue, Or.inl hsafe⟩
    · intro hneg
      exact h ⟨value, hvalue, Or.inr hneg⟩
  · rintro h ⟨value, hvalue, hsafe | hneg⟩
    · exact hsafe (isAmount_iff.mp (h value hvalue)).1
    · have hnonneg := (h value hvalue).1
      omega

theorem validateStoredLineAmounts_eq_ok {invoiceKind : InvoiceKind}
    {priceInputMode : PriceInputMode} {taxTreatment : InvoiceTaxTreatment} {line : LineColumns}
    {u : Unit} :
    validateStoredLineAmounts invoiceKind priceInputMode taxTreatment line = .ok u ↔
      StoredAmounts line
        ∧ (invoiceKind = .credit → line.discountCents ≤ line.baseCents
          ∧ line.baseCents - line.discountCents = inputCents priceInputMode line)
        ∧ (invoiceKind = .standard →
          calculateLineAmounts priceInputMode taxTreatment line = .ok (lineAmounts line)) := by
  have hamounts : (∀ value ∈ lineAmounts line, IsAmount value) ↔ StoredAmounts line := by
    simp [lineAmounts, StoredAmounts]
  simp only [validateStoredLineAmounts, bind_eq_ok, throwIf_eq_ok, exists_const, not_outside,
    hamounts]
  refine and_congr_right fun _ => ?_
  cases invoiceKind with
  | credit =>
      simp only [throwIf_eq_ok, not_or, not_lt, ne_eq, Decidable.not_not, reduceCtorEq,
        true_implies, false_implies, and_true, gt_iff_lt]
  | standard =>
      simp only [bind_eq_ok, throwIf_eq_ok, ne_eq, Decidable.not_not, reduceCtorEq,
        true_implies, false_implies, true_and]
      constructor
      · rintro ⟨calculated, hcalculated, heq⟩
        rw [heq]
        exact hcalculated
      · exact fun h => ⟨_, h, rfl⟩

/-- **THE CHECK**: lines whose amounts hold, with the totals that follow from them. -/
theorem validateLegacyInvoiceRevisionTotals_of {revision : LegacyRevisionTotalsInput}
    {totals : InvoiceTotals} (horigin : revision.origin = .legacySnapshot)
    (hstate : revision.vatBreakdownState = .unavailable) (hbreakdown : revision.vatBreakdown = none)
    (hlines : revision.lines ≠ [])
    (hvalid : ∀ line ∈ revision.lines, validateStoredLineAmounts revision.invoiceKind
      revision.priceInputMode revision.taxTreatment line = .ok ())
    (htotals : deriveTotals revision.invoiceKind revision.priceInputMode revision.taxTreatment
      revision.lines = .ok totals)
    (hstored : revision.totalNetCents = totals.netTotalCents
      ∧ revision.totalVatCents = totals.vatTotalCents
      ∧ revision.totalGrossCents = totals.grossTotalCents)
    (hamounts : IsAmount totals.netTotalCents ∧ IsAmount totals.vatTotalCents
      ∧ IsAmount totals.grossTotalCents) :
    validateLegacyInvoiceRevisionTotals revision = .ok totals := by
  obtain ⟨hnet, hvat, hgross⟩ := hstored
  simp only [validateLegacyInvoiceRevisionTotals, bind_eq_ok, throwIf_eq_ok, exists_const,
    not_outside, pure_eq_ok]
  refine ⟨?_, ?_, (), forM_eq_ok.mpr hvalid, totals, htotals, ?_, rfl⟩
  · rintro (h | h | h | h)
    · exact h horigin
    · exact h hstate
    · exact h hbreakdown
    · exact hlines (List.eq_nil_of_length_eq_zero h)
  · intro value hvalue
    simp only [List.mem_cons, List.not_mem_nil, or_false] at hvalue
    rcases hvalue with rfl | rfl | rfl
    · exact hnet ▸ hamounts.1
    · exact hvat ▸ hamounts.2.1
    · exact hgross ▸ hamounts.2.2
  · rintro (h | h | h)
    · exact h hnet.symm
    · exact h hvat.symm
    · exact h hgross.symm

end LegacyRevision
