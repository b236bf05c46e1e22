import Eky.CreditInvoice

/-! # Reverse charge — invoices and credits without VAT

    The buyer settles the VAT of a reverse-charge invoice, so its lines have no
    rate, are priced net and are worth their net amount.  The invoice is issued
    by `calculateReverseChargeInvoice` and credited by
    `calculateReverseChargeCreditInvoiceDraft`; the two check a line separately,
    and the credit asks for more than the invoice did. -/

namespace ReverseCharge

open Fallible OrderedMap InvoiceMoney
open InvoiceCalculation (InvoiceTotals)
open CreditInvoice (RequestedCreditLine)

/-! ## Data -/

/-- The amounts of a line that may be without a VAT rate. -/
structure CreditAmounts where
  quantityHundredths : Int
  priceInputMode : PriceInputMode
  vatRateBasisPoints : Option Int
  baseCents : Int
  discountCents : Int
  netCents : Int
  vatCents : Int
  grossCents : Int
  deriving DecidableEq

/-- What a line is calculated from. -/
structure ReverseChargeInvoiceLineCalculationInput where
  quantityHundredths : Int
  unitPriceCents : Int
  priceInputMode : PriceInputMode
  discount : InvoiceLineDiscount
  deriving DecidableEq

/-- A calculated line: its amounts and its price. -/
structure CalculatedReverseChargeInvoiceLine extends CreditAmounts where
  unitPriceCents : Int
  deriving DecidableEq

/-- The calculated invoice. -/
structure CalculatedReverseChargeInvoice where
  lines : List CalculatedReverseChargeInvoiceLine
  totals : InvoiceTotals
  deriving DecidableEq

/-- A line of the invoice that is credited. -/
structure ReverseChargeCreditSourceLine extends CreditAmounts where
  id : String
  lineOrder : Int
  deriving DecidableEq

/-- What an earlier credit has taken, from a line or by hand. -/
structure ReverseChargePreviousCreditAllocation extends CreditAmounts where
  sourceInvoiceLineId : Option String
  deriving DecidableEq

/-- A credit line that names no line of the invoice. -/
structure RequestedReverseChargeManualCreditLine where
  lineKey : String
  quantityHundredths : Int
  unitPriceCents : Int
  deriving DecidableEq

/-- A calculated line of the credit draft. -/
structure CalculatedCreditDraftLine extends CreditAmounts where
  lineKey : String
  sourceInvoiceLineId : Option String
  unitPriceCents : Option Int
  deriving DecidableEq

/-- The calculated credit draft. -/
structure CalculatedCreditDraft where
  lines : List CalculatedCreditDraftLine
  totals : InvoiceTotals
  deriving DecidableEq

/-- What a line has given to earlier credits. -/
structure AllocationTotal where
  quantityHundredths : Int
  baseCents : Int
  discountCents : Int
  netCents : Int
  deriving DecidableEq

/-! ## The invoice -/

/-- The test of `addSafe` and `roundHalfUp` here. -/
def outsideSafeRange (n : Int) : Prop := ¬ IsSafeInteger n

instance : DecidablePred outsideSafeRange := fun _ => inferInstanceAs (Decidable (¬ _))

/-- One line: a net price, its discount, no VAT. -/
def calculateReverseChargeInvoiceLine (input : ReverseChargeInvoiceLineCalculationInput) :
    Checked CalculatedReverseChargeInvoiceLine := do
  throwIf (input.priceInputMode ≠ .net)
    (.calculation "Reverse charge invoices must use net price input.")
  let base ← calculateInvoiceLineBase input.quantityHundredths input.unitPriceCents
    input.discount
  pure {
    quantityHundredths := input.quantityHundredths
    unitPriceCents := input.unitPriceCents
    vatRateBasisPoints := none
    priceInputMode := .net
    baseCents := base.baseCents
    discountCents := base.discountCents
    netCents := base.discountedBaseCents
    vatCents := 0
    grossCents := base.discountedBaseCents }

/-- All lines and the sum of their net amounts. -/
def calculateReverseChargeInvoice (inputs : List ReverseChargeInvoiceLineCalculationInput) :
    Checked CalculatedReverseChargeInvoice := do
  let lines ← inputs.mapM calculateReverseChargeInvoiceLine
  let netTotalCents ← lines.foldlM (fun sum line =>
    addUnless outsideSafeRange (.calculation "Calculated amount exceeds the safe integer range.")
      sum line.netCents) 0
  pure ⟨lines, ⟨netTotalCents, 0, netTotalCents, []⟩⟩

/-! ## Checks of the credit -/

/-- A sum within the safe range. -/
def addSafe : Int → Int → Checked Int :=
  addUnless outsideSafeRange (.credit "Credit amount exceeds safe integer range.")

/-- A difference that must not be negative. -/
def subtract : Int → Int → Checked Int :=
  subtractAmount (.credit "Credit allocation is invalid.")

/-- Refuses what is not a positive safe integer. -/
def requirePositiveSafeInteger (value : Int) (fieldName : String) : Checked Unit :=
  throwIf (¬ IsSafeInteger value ∨ value ≤ 0)
    (.credit (fieldName ++ " must be a positive integer."))

/-- The rounded share `total * quantity / capacity`. -/
def allocate (total quantity capacity : Int) : Checked Int := do
  throwIf (capacity ≤ 0) (.credit "Credit source line capacity is invalid.")
  roundHalfUp (total * quantity) capacity

/-- The part that the checks of a source line and of an earlier credit share. -/
def HasInvalidAmounts (line : CreditAmounts) : Prop :=
  ¬ IsSafeInteger line.quantityHundredths ∨ line.quantityHundredths ≤ 0
    ∨ line.priceInputMode ≠ .net ∨ line.vatRateBasisPoints ≠ none
    ∨ ¬ IsAmount line.baseCents ∨ ¬ IsAmount line.discountCents
    ∨ ¬ IsAmount line.netCents ∨ ¬ IsAmount line.grossCents
    ∨ line.vatCents ≠ 0 ∨ line.discountCents > line.baseCents
    ∨ line.baseCents - line.discountCents ≠ line.netCents
    ∨ line.netCents ≠ line.grossCents

instance (line : CreditAmounts) : Decidable (HasInvalidAmounts line) :=
  inferInstanceAs (Decidable (_ ∨ _))

/-- Checks one line of the invoice and files it under its id. -/
def validateSourceLine (sourceById : OrderedMap String ReverseChargeCreditSourceLine)
    (line : ReverseChargeCreditSourceLine) :
    Checked (OrderedMap String ReverseChargeCreditSourceLine) := do
  throwIf (line.id.length = 0 ∨ (sourceById.get? line.id).isSome
      ∨ ¬ IsSafeInteger line.lineOrder ∨ line.lineOrder < 1
      ∨ HasInvalidAmounts line.toCreditAmounts)
    (.credit "Reverse charge source invoice line is invalid.")
  pure (sourceById.set line.id line)

/-- The lines of the invoice by id. -/
def validateSourceLines (lines : List ReverseChargeCreditSourceLine) :
    Checked (OrderedMap String ReverseChargeCreditSourceLine) :=
  lines.foldlM validateSourceLine empty

/-! ## Earlier credits -/

/-- Nothing taken yet. -/
def createEmptyAllocation : AllocationTotal := ⟨0, 0, 0, 0⟩

/-- All credits together stay within the net total of the invoice. -/
def requireWithinInvoiceCapacity (sourceLines : List ReverseChargeCreditSourceLine)
    (previousAllocations : List ReverseChargePreviousCreditAllocation)
    (currentLines : List CalculatedCreditDraftLine) : Checked Unit := do
  let sourceNet ← sourceLines.foldlM (fun sum line => addSafe sum line.netCents) 0
  let previousNet ← previousAllocations.foldlM (fun sum line => addSafe sum line.netCents) 0
  let currentNet ← currentLines.foldlM (fun sum line => addSafe sum line.netCents) 0
  let used ← addSafe previousNet currentNet
  throwIf (used > sourceNet)
    (.credit "Credit invoice exceeds the remaining source invoice amount.")

/-- The running total of a line with one more earlier credit. -/
def addAllocation (previous : AllocationTotal)
    (allocation : ReverseChargePreviousCreditAllocation) : Checked AllocationTotal := do
  let quantityHundredths ← addSafe previous.quantityHundredths allocation.quantityHundredths
  let baseCents ← addSafe previous.baseCents allocation.baseCents
  let discountCents ← addSafe previous.discountCents allocation.discountCents
  let netCents ← addSafe previous.netCents allocation.netCents
  pure { quantityHundredths, baseCents, discountCents, netCents }

/-- Checks one earlier allocation and adds it to its line's total. -/
def validatePreviousAllocation (sourceById : OrderedMap String ReverseChargeCreditSourceLine)
    (totals : OrderedMap String AllocationTotal)
    (allocation : ReverseChargePreviousCreditAllocation) :
    Checked (OrderedMap String AllocationTotal) := do
  throwIf (HasInvalidAmounts allocation.toCreditAmounts)
    (.credit "Previous reverse charge credit allocation is invalid.")
  match allocation.sourceInvoiceLineId with
  | none => pure totals
  | some sourceInvoiceLineId => do
      let source ← orThrow (sourceById.get? sourceInvoiceLineId)
        (.credit "Previous credit allocation source line is invalid.")
      let next ← addAllocation
        ((totals.get? sourceInvoiceLineId).getD createEmptyAllocation) allocation
      throwIf (next.quantityHundredths > source.quantityHundredths
          ∨ next.baseCents > source.baseCents ∨ next.netCents > source.netCents)
        (.credit "Previous credits exceed the source invoice line.")
      pure (totals.set sourceInvoiceLineId next)

/-- What each line has given to earlier credits. -/
def validatePreviousAllocations (sourceLines : List ReverseChargeCreditSourceLine)
    (allocations : List ReverseChargePreviousCreditAllocation)
    (sourceById : OrderedMap String ReverseChargeCreditSourceLine) :
    Checked (OrderedMap String AllocationTotal) := do
  let totals ← allocations.foldlM (validatePreviousAllocation sourceById) empty
  requireWithinInvoiceCapacity sourceLines allocations []
  pure totals

/-! ## The draft -/

/-- One requested source line: its cumulative part less what was credited. -/
def creditSourceLine (sourceById : OrderedMap String ReverseChargeCreditSourceLine)
    (previousBySource : OrderedMap String AllocationTotal) (requested : RequestedCreditLine) :
    Checked CalculatedCreditDraftLine := do
  let source ← orThrow (sourceById.get? requested.sourceInvoiceLineId)
    (.credit "Credit invoice source line is invalid.")
  requirePositiveSafeInteger requested.quantityHundredths "Credit quantity"
  let previous := (previousBySource.get? source.id).getD createEmptyAllocation
  let cumulativeQuantity ← addSafe previous.quantityHundredths requested.quantityHundredths
  throwIf (cumulativeQuantity > source.quantityHundredths)
    (.credit "Credit quantity exceeds the remaining source line quantity.")
  let cumulativeBase ← allocate source.baseCents cumulativeQuantity source.quantityHundredths
  let cumulativeNet ← allocate source.netCents cumulativeQuantity source.quantityHundredths
  let baseCents ← subtract cumulativeBase previous.baseCents
  let netCents ← subtract cumulativeNet previous.netCents
  let discountCents := baseCents - netCents
  throwIf (discountCents < 0)
    (.credit "Calculated reverse charge credit line is invalid.")
  pure {
    lineKey := source.id
    sourceInvoiceLineId := some source.id
    quantityHundredths := requested.quantityHundredths
    unitPriceCents := none
    priceInputMode := .net
    vatRateBasisPoints := none
    baseCents, discountCents, netCents
    vatCents := 0
    grossCents := netCents }

/-- A manual line, calculated like a line of an invoice. -/
def calculateManualLine (requested : RequestedReverseChargeManualCreditLine) :
    Checked CalculatedCreditDraftLine := do
  let calculated ← calculateReverseChargeInvoiceLine {
    quantityHundredths := requested.quantityHundredths
    unitPriceCents := requested.unitPriceCents
    priceInputMode := .net
    discount := .none }
  pure {
    toCreditAmounts := calculated.toCreditAmounts
    lineKey := requested.lineKey
    sourceInvoiceLineId := none
    unitPriceCents := some requested.unitPriceCents }

/-- The sum of lines without VAT. -/
def sumReverseChargeCreditTotals (lines : List CalculatedCreditDraftLine) :
    Checked InvoiceTotals := do
  let netTotalCents ← lines.foldlM (fun sum line => do
    throwIf (line.vatRateBasisPoints ≠ none ∨ line.vatCents ≠ 0
        ∨ line.netCents ≠ line.grossCents)
      (.credit "Calculated reverse charge credit line is invalid.")
    addSafe sum line.netCents) 0
  pure ⟨netTotalCents, 0, netTotalCents, []⟩

/-- The credit draft of a request: its source lines, then its manual lines. -/
def calculateReverseChargeCreditInvoiceDraft
    (sourceLines : List ReverseChargeCreditSourceLine)
    (previousAllocations : List ReverseChargePreviousCreditAllocation)
    (requestedSourceLines : List RequestedCreditLine)
    (requestedManualLines : List RequestedReverseChargeManualCreditLine) :
    Checked CalculatedCreditDraft := do
  throwIf (requestedSourceLines.length + requestedManualLines.length = 0)
    (.credit "Credit invoice must contain at least one line.")
  let sourceById ← validateSourceLines sourceLines
  let previousBySource ← validatePreviousAllocations sourceLines previousAllocations sourceById
  let sourceCredits ← mapUniqueM (·.sourceInvoiceLineId)
    (.credit "Credit invoice source lines must be unique.")
    (creditSourceLine sourceById previousBySource) [] requestedSourceLines
  let manualCredits ← requestedManualLines.mapM calculateManualLine
  let lines := sourceCredits ++ manualCredits
  requireWithinInvoiceCapacity sourceLines previousAllocations lines
  let totals ← sumReverseChargeCreditTotals lines
  pure ⟨lines, totals⟩

/-- What is left of the invoice to be credited. -/
def calculateRemainingReverseChargeCreditTotals
    (sourceLines : List ReverseChargeCreditSourceLine)
    (previousAllocations : List ReverseChargePreviousCreditAllocation) :
    Checked InvoiceTotals := do
  let sourceById ← validateSourceLines sourceLines
  let _ ← validatePreviousAllocations sourceLines previousAllocations sourceById
  let sourceNet ← sourceLines.foldlM (fun sum line => addSafe sum line.netCents) 0
  let creditedNet ← previousAllocations.foldlM (fun sum line => addSafe sum line.netCents) 0
  let remainingNet ← subtract sourceNet creditedNet
  pure ⟨remainingNet, 0, remainingNet, []⟩

end ReverseCharge
