import Eky.InvoiceForm

/-! # The preview of the totals

    The web application shows the totals of an invoice while it is written.  It parses the
    form, rounds and groups on its own; nothing of it is shared with the backend but the
    parser of the form. -/

namespace InvoicePreview

open Fallible InvoiceMoney InvoiceForm
open OrderedMap (empty sortedEntries)

/-- A row of the preview. -/
structure InvoiceDraftPreviewVatBreakdown where
  grossCents : Int
  netCents : Int
  vatCents : Int
  vatRateBasisPoints : Int
  deriving DecidableEq

/-- The totals, or that there are none. -/
inductive InvoiceDraftPreviewTotals
  | available (grossTotalCents netTotalCents vatTotalCents : Int)
      (vatBreakdown : List InvoiceDraftPreviewVatBreakdown)
  | unavailable
  deriving DecidableEq

/-- A line of the preview. -/
structure PreviewLineTotals where
  grossCents : Int
  netCents : Int
  priceInputMode : PriceInputMode
  vatCents : Int
  vatRateBasisPoints : Option Int
  deriving DecidableEq

/-- A row while it is summed. -/
structure MutableVatBreakdown where
  grossInputCents : Int
  priceInputMode : PriceInputMode
  grossCents : Int
  netCents : Int
  vatCents : Int
  deriving DecidableEq

/-! ## Rounding -/

/-- The value itself, if it is in the safe range. -/
def toSafeNumber (value : Int) : Except String Int := do
  throwIf (value > maximumSafeInteger) "Invoice preview amount exceeds safe integer range."
  pure value

/-- The division of `bigint` values truncates. -/
def roundHalfUp (numerator denominator : Int) : Except String Int :=
  let quotient := numerator.tdiv denominator
  let remainder := numerator.tmod denominator
  toSafeNumber (if remainder * 2 ≥ denominator then quotient + 1 else quotient)

/-! ## One row -/

/-- The discount of a row. -/
def parsePreviewDiscount (row : InvoiceRowForm) : Option InvoiceLineDiscount :=
  match row.discountType with
  | .none => some .none
  | .percentage =>
      match parsePercentageBasisPoints row.discountValue with
      | none => none
      | some basisPoints =>
          if basisPoints > 10000 then none else some (.percentage basisPoints)
  | .fixed => (parseEuroCents row.discountValue).map .fixed

/-- The discount in cents. -/
def calculateDiscountCents (baseCents : Int) (discount : InvoiceLineDiscount) :
    Except String Int :=
  match discount with
  | .none => pure 0
  | .percentage basisPoints => roundHalfUp (baseCents * basisPoints) 10000
  | .fixed amountCents => pure amountCents

/-- The amounts of a line, if they are safe. -/
def toPreviewLineTotals (vatRateBasisPoints : Option Int) (priceInputMode : PriceInputMode)
    (grossCents netCents vatCents : Int) : Option PreviewLineTotals :=
  if ¬ IsSafeInteger grossCents ∨ ¬ IsSafeInteger netCents ∨ ¬ IsSafeInteger vatCents then none
  else some { grossCents, netCents, priceInputMode, vatCents, vatRateBasisPoints }

/-- A row with VAT, once it is known what is left after the discount. -/
def previewNormalVat (priceInputMode : PriceInputMode) (vatRateBasisPoints : Int)
    (discountedBaseCents : Int) : Except String (Option PreviewLineTotals) :=
  match priceInputMode with
  | .net => do
      let netCents := discountedBaseCents
      let vatCents ← roundHalfUp (netCents * vatRateBasisPoints) 10000
      pure (toPreviewLineTotals (some vatRateBasisPoints) priceInputMode
        (netCents + vatCents) netCents vatCents)
  | .gross => do
      let grossCents := discountedBaseCents
      let netCents ← roundHalfUp (grossCents * 10000) (10000 + vatRateBasisPoints)
      pure (toPreviewLineTotals (some vatRateBasisPoints) priceInputMode
        grossCents netCents (grossCents - netCents))

/-- A row, once it is known what is left after the discount. -/
def previewTaxed (row : InvoiceRowForm) (priceInputMode : PriceInputMode)
    (taxTreatment : InvoiceTaxTreatment) (discountedBaseCents : Int) :
    Except String (Option PreviewLineTotals) :=
  match taxTreatment, row.vatRateBasisPoints with
  | .reverseChargeConstruction, none =>
      pure (if priceInputMode ≠ .net then none
        else toPreviewLineTotals none priceInputMode discountedBaseCents discountedBaseCents 0)
  | .reverseChargeConstruction, some _ => pure none
  | .normalVat, none => pure none
  | .normalVat, some vatRateBasisPoints =>
      if ¬ IsSafeInteger vatRateBasisPoints ∨ vatRateBasisPoints ≤ 0 then pure none
      else previewNormalVat priceInputMode vatRateBasisPoints discountedBaseCents

/-- A row, once its texts are parsed. -/
def previewParsed (row : InvoiceRowForm) (priceInputMode : PriceInputMode)
    (taxTreatment : InvoiceTaxTreatment) (quantityHundredths unitPriceCents : Int)
    (discount : InvoiceLineDiscount) : Except String (Option PreviewLineTotals) := do
  let baseCents ← roundHalfUp (unitPriceCents * quantityHundredths) 100
  let discountCents ← calculateDiscountCents baseCents discount
  if discountCents > baseCents then pure none
  else previewTaxed row priceInputMode taxTreatment (baseCents - discountCents)

/-- `null` is `none`, and a row may also throw. -/
def calculatePreviewLine (priceInputMode : PriceInputMode)
    (taxTreatment : InvoiceTaxTreatment) (row : InvoiceRowForm) :
    Except String (Option PreviewLineTotals) :=
  match parseQuantityHundredths row.quantity, parseEuroCents row.unitPrice,
      parsePreviewDiscount row with
  | some quantityHundredths, some unitPriceCents, some discount =>
      if quantityHundredths ≤ 0 then pure none
      else previewParsed row priceInputMode taxTreatment quantityHundredths unitPriceCents
        discount
  | _, _, _ => pure none

/-! ## The totals -/

/-- Adds a line to the row of its rate. -/
def addVatBreakdown (existingBreakdown : Option MutableVatBreakdown)
    (line : PreviewLineTotals) : Except String MutableVatBreakdown :=
  match existingBreakdown with
  | some existing => do
      throwIf (existing.priceInputMode ≠ line.priceInputMode)
        "Invoice preview rows must use one price input mode per VAT rate."
      pure { existing with
        grossInputCents := existing.grossInputCents + line.grossCents
        grossCents := existing.grossCents + line.grossCents
        netCents := existing.netCents + line.netCents
        vatCents := existing.vatCents + line.vatCents }
  | none => pure ⟨line.grossCents, line.priceInputMode, line.grossCents, line.netCents,
      line.vatCents⟩

/-- The row of one entry of the breakdown map.  A gross amount outside the safe range is
    rounded by the addition, but stays outside; it is refused with the total. -/
def settleVatRate (vatRateBasisPoints : Int) (breakdown : MutableVatBreakdown) :
    Except String InvoiceDraftPreviewVatBreakdown :=
  match breakdown.priceInputMode with
  | .gross => do
      let grossCents ← toSafeNumber breakdown.grossInputCents
      let netCents ← roundHalfUp (grossCents * 10000) (10000 + vatRateBasisPoints)
      pure ⟨grossCents, netCents, grossCents - netCents, vatRateBasisPoints⟩
  | .net => do
      let netCents ← toSafeNumber breakdown.netCents
      let vatCents ← roundHalfUp (netCents * vatRateBasisPoints) 10000
      pure ⟨netCents + vatCents, netCents, vatCents, vatRateBasisPoints⟩

/-- The rows in the order of the rates. -/
def createVatBreakdown (breakdownByRate : OrderedMap Int MutableVatBreakdown) :
    Except String (List InvoiceDraftPreviewVatBreakdown) :=
  breakdownByRate.sortedEntries.mapM fun (vatRateBasisPoints, breakdown) =>
    settleVatRate vatRateBasisPoints breakdown

/-- The sums of the rows without VAT, and the breakdown of the others. -/
structure PreviewSums where
  grossTotalCents : Int
  netTotalCents : Int
  vatTotalCents : Int
  breakdownByRate : OrderedMap Int MutableVatBreakdown

/-- Adds a line to all sums. -/
def addPreviewLine (sums : PreviewSums) (line : PreviewLineTotals) :
    Except String PreviewSums :=
  match line.vatRateBasisPoints with
  | none => pure { sums with
      grossTotalCents := sums.grossTotalCents + line.grossCents
      netTotalCents := sums.netTotalCents + line.netCents
      vatTotalCents := sums.vatTotalCents + line.vatCents }
  | some vatRateBasisPoints => do
      let breakdown ← addVatBreakdown (sums.breakdownByRate.get? vatRateBasisPoints) line
      pure { sums with
        breakdownByRate := sums.breakdownByRate.set vatRateBasisPoints breakdown }

/-- The totals of the lines. -/
def calculatePreviewTotals (lines : List PreviewLineTotals) :
    Except String InvoiceDraftPreviewTotals := do
  let sums ← lines.foldlM addPreviewLine ⟨0, 0, 0, empty⟩
  let vatBreakdown ← createVatBreakdown sums.breakdownByRate
  let grossTotalCents ←
    toSafeNumber (sums.grossTotalCents + (vatBreakdown.map (·.grossCents)).sum)
  let netTotalCents ← toSafeNumber (sums.netTotalCents + (vatBreakdown.map (·.netCents)).sum)
  let vatTotalCents ← toSafeNumber (sums.vatTotalCents + (vatBreakdown.map (·.vatCents)).sum)
  pure (.available grossTotalCents netTotalCents vatTotalCents vatBreakdown)

/-- The rows up to the first that has no totals. -/
def collectPreviewLines (priceInputMode : PriceInputMode)
    (taxTreatment : InvoiceTaxTreatment) :
    List InvoiceRowForm → Except String (Option (List PreviewLineTotals))
  | [] => pure (some [])
  | row :: rest => do
      match ← calculatePreviewLine priceInputMode taxTreatment row with
      | none => pure none
      | some line =>
          let lines ← collectPreviewLines priceInputMode taxTreatment rest
          pure (lines.map (line :: ·))

/-- The totals of a form. -/
def calculateInvoiceDraftPreviewTotals (form : NewInvoiceFormState) :
    InvoiceDraftPreviewTotals :=
  match collectPreviewLines form.priceInputMode form.taxTreatment form.lines with
  | .ok (some lines) =>
      match calculatePreviewTotals lines with
      | .ok totals => totals
      | .error _ => .unavailable
  | _ => .unavailable

end InvoicePreview
