import Eky.CreditInvoice

/-! # Credit drafts — source lines and manual lines together

    `calculateCreditInvoiceDraft` credits lines of the sent invoice and lines
    that the user wrote by hand.  A rate of the invoice is worth what
    `calculateInvoiceTotals` settled for it, whichever kind of line uses it up.

    The functions stand here in the order of their use; `CreditDraftProofs` says
    what an accepted draft looks like and when a draft is accepted. -/

namespace CreditDraft

open Fallible OrderedMap InvoiceMoney VatGroups InvoiceCalculation VatDistribution
open CreditInvoice (CreditSourceLine RequestedCreditLine PreviousCreditLineAllocation
  calculateCreditInvoice)

/-! ## Data -/

/-- What an earlier credit has taken, from a line or by hand. -/
structure PreviousCreditAllocation extends LineAmounts where
  sourceInvoiceLineId : Option String
  deriving DecidableEq

/-- A credit line that names no line of the invoice. -/
structure RequestedManualCreditLine where
  lineKey : String
  quantityHundredths : Int
  unitPriceCents : Int
  vatRateBasisPoints : Int
  deriving DecidableEq

/-- A calculated line of the credit draft. -/
structure CalculatedNormalCreditDraftLine extends LineAmounts where
  lineKey : String
  sourceInvoiceLineId : Option String
  unitPriceCents : Option Int
  deriving DecidableEq

/-- The calculated credit draft. -/
structure CalculatedNormalCreditDraft where
  lines : List CalculatedNormalCreditDraftLine
  totals : InvoiceTotals
  deriving DecidableEq

/-! ## Checks -/

/-- `addSafe` only looks at the upper end of the range. -/
def exceedsRange (n : Int) : Prop := n > maximumSafeInteger

instance : DecidablePred exceedsRange := fun _ => inferInstanceAs (Decidable (_ > _))

/-- The error of an amount outside the safe range. -/
def rangeError : InvoiceError :=
  .credit "Credit invoice amount exceeds the safe integer range."

/-- The error of a credit beyond what is left. -/
def remainingError : InvoiceError :=
  .credit "Credit amount exceeds the remaining source invoice amount."

/-- The error of two price input modes at one rate. -/
def oneModeError : InvoiceError :=
  .credit "Credit lines with the same VAT rate must use one price input mode."

/-- A sum within the safe range. -/
def addSafe : Int → Int → Checked Int := addUnless exceedsRange rangeError

/-- A difference that must not be negative. -/
def subtractSafe : Int → Int → Checked Int := subtractAmount remainingError

/-- The check of `CreditInvoice`. -/
def requireIdentifier (value fieldName : String) : Checked Unit :=
  CreditInvoice.requireIdentifier value fieldName

/-- The amounts of a line have the form of a credit. -/
def requireCreditAmounts (line : LineAmounts) (fieldName : String) : Checked Unit :=
  throwIf (¬ IsSafeInteger line.vatRateBasisPoints ∨ line.vatRateBasisPoints < 0
      ∨ (∃ value ∈ [line.netCents, line.vatCents, line.grossCents],
          ¬ IsSafeInteger value ∨ value < 0)
      ∨ line.netCents + line.vatCents ≠ line.grossCents)
    (.credit (fieldName ++ " amounts are invalid."))

/-! ## The capacity of a rate -/

/-- The second loop of `createVatCapacities`: the tax shown on the lines is for
    display, the capacity follows the VAT group of the invoice. -/
def settleCapacity (vatRateBasisPoints : Int) (capacity : VatCapacity) :
    Checked VatCapacity :=
  match capacity.priceInputMode with
  | .net => do
      let vatCents ← roundHalfUp (capacity.netCents * vatRateBasisPoints) 10000
      let grossCents ← addSafe capacity.netCents vatCents
      pure { capacity with vatCents, grossCents }
  | .gross => do
      let netCents ← roundHalfUp (capacity.grossCents * 10000) (10000 + vatRateBasisPoints)
      let vatCents ← subtractSafe capacity.grossCents netCents
      pure { capacity with netCents, vatCents }

/-- What each VAT rate of the invoice can give. -/
def createVatCapacities (sourceLines : List LineAmounts) :
    Checked (OrderedMap Int VatCapacity) := do
  let capacities ← groupM (·.vatRateBasisPoints)
    (fun current line => do
      requireCreditAmounts line "Source invoice line"
      accumulateVat exceedsRange rangeError
        (.credit "Source invoice VAT rate must use one price input mode.") current line)
    OrderedMap.empty sourceLines
  mapValuesM settleCapacity capacities

/-! ## What has been credited of a rate -/

/-- What earlier credits have taken from each rate. -/
def sumPreviousByRate (allocations : List LineAmounts) :
    Checked (OrderedMap Int VatCapacity) :=
  groupM (·.vatRateBasisPoints) (accumulateVat exceedsRange rangeError oneModeError)
    OrderedMap.empty allocations

/-- A rate is used beyond its capacity. -/
def ExceedsVatCapacity (capacities : OrderedMap Int VatCapacity) (rate : Int)
    (used : VatCapacity) : Prop :=
  match capacities.get? rate with
  | none => True
  | some capacity =>
      capacity.priceInputMode ≠ used.priceInputMode ∨ used.netCents > capacity.netCents
        ∨ used.vatCents > capacity.vatCents ∨ used.grossCents > capacity.grossCents

instance (capacities : OrderedMap Int VatCapacity) (rate : Int) (used : VatCapacity) :
    Decidable (ExceedsVatCapacity capacities rate used) :=
  match h : capacities.get? rate with
  | none => .isTrue (by rw [ExceedsVatCapacity, h]; trivial)
  | some _ => decidable_of_iff (_ ∨ _) (by rw [ExceedsVatCapacity, h])

/-- All credits together stay within each rate. -/
def requireWithinVatCapacity (previousAllocations currentLines : List LineAmounts)
    (capacities : OrderedMap Int VatCapacity) : Checked Unit := do
  let previousByRate ← sumPreviousByRate previousAllocations
  let usedByRate ← groupM (·.vatRateBasisPoints)
    (accumulateVat exceedsRange rangeError oneModeError) previousByRate currentLines
  usedByRate.entries.forM fun (rate, used) =>
    throwIf (ExceedsVatCapacity capacities rate used) remainingError

/-! ## Earlier credits -/

/-- The source line of an earlier credit is missing, or has another mode or rate. -/
def HasInvalidSourceLine (sourceById : OrderedMap String CreditSourceLine)
    (allocation : PreviousCreditAllocation) : Prop :=
  ∃ sourceInvoiceLineId ∈ allocation.sourceInvoiceLineId,
    ∀ sourceLine ∈ sourceById.get? sourceInvoiceLineId,
      sourceLine.priceInputMode ≠ allocation.priceInputMode
        ∨ sourceLine.vatRateBasisPoints ≠ allocation.vatRateBasisPoints

instance (sourceById : OrderedMap String CreditSourceLine)
    (allocation : PreviousCreditAllocation) :
    Decidable (HasInvalidSourceLine sourceById allocation) :=
  inferInstanceAs (Decidable (∃ _ ∈ _, ∀ _ ∈ _, _ ∨ _))

/-- Checks an earlier allocation against its line and rate. -/
def validatePreviousAllocation (sourceById : OrderedMap String CreditSourceLine)
    (capacities : OrderedMap Int VatCapacity) (allocation : PreviousCreditAllocation) :
    Checked Unit := do
  throwIf (¬ IsSafeInteger allocation.quantityHundredths
      ∨ allocation.quantityHundredths ≤ 0
      ∨ ¬ IsSafeInteger allocation.baseCents ∨ allocation.baseCents < 0
      ∨ ¬ IsSafeInteger allocation.discountCents ∨ allocation.discountCents < 0
      ∨ allocation.discountCents > allocation.baseCents)
    (.credit "Previous credit allocation values are invalid.")
  requireCreditAmounts allocation.toLineAmounts "Previous credit allocation"
  throwIf (∀ capacity ∈ capacities.get? allocation.vatRateBasisPoints,
      capacity.priceInputMode ≠ allocation.priceInputMode)
    (.credit "Previous credit allocation VAT context is invalid.")
  throwIf (HasInvalidSourceLine sourceById allocation)
    (.credit "Previous credit allocation source line is invalid.")

/-- Checks all earlier allocations. -/
def validatePreviousAllocations (allocations : List PreviousCreditAllocation)
    (sourceById : OrderedMap String CreditSourceLine)
    (capacities : OrderedMap Int VatCapacity) : Checked Unit := do
  allocations.forM (validatePreviousAllocation sourceById capacities)
  requireWithinVatCapacity (allocations.map (·.toLineAmounts)) [] capacities

/-! ## The lines of a draft -/

/-- A manual line at a rate of the invoice. -/
def calculateManualLine (capacities : OrderedMap Int VatCapacity)
    (line : RequestedManualCreditLine) : Checked CalculatedNormalCreditDraftLine := do
  requireIdentifier line.lineKey "Manual credit line key"
  let capacity ← orThrow (capacities.get? line.vatRateBasisPoints)
    (.credit "Manual credit line VAT rate is not present on the source invoice.")
  let calculated ← calculateInvoiceLine {
    quantityHundredths := line.quantityHundredths
    unitPriceCents := line.unitPriceCents
    vatRateBasisPoints := line.vatRateBasisPoints
    priceInputMode := capacity.priceInputMode
    discount := .none }
  throwIf (calculated.grossCents = 0)
    (.credit "Manual credit line must have a positive value.")
  pure {
    toLineAmounts := calculated.toLineAmounts
    lineKey := line.lineKey
    sourceInvoiceLineId := none
    unitPriceCents := some line.unitPriceCents }

/-- A credit line as a line of the draft. -/
def toDraftLine (line : CreditInvoice.CalculatedCreditLine) :
    CalculatedNormalCreditDraftLine where
  toLineAmounts := line.toLineAmounts
  lineKey := line.sourceInvoiceLineId
  sourceInvoiceLineId := some line.sourceInvoiceLineId
  unitPriceCents := none

/-- The earlier credits of source lines, as the line calculation takes them. -/
def toPreviousLineAllocation (allocation : PreviousCreditAllocation) :
    Option PreviousCreditLineAllocation :=
  allocation.sourceInvoiceLineId.map fun sourceInvoiceLineId => {
    sourceInvoiceLineId
    quantityHundredths := allocation.quantityHundredths
    baseCents := allocation.baseCents
    discountCents := allocation.discountCents
    netCents := allocation.netCents
    vatCents := allocation.vatCents
    grossCents := allocation.grossCents }

/-! ## The VAT of the current lines -/

/-- The distribution of this file, in which lines of value 0 get nothing. -/
def distributeAmount : Int → List Int → Checked (List Int) :=
  VatDistribution.distributeAmount exceedsRange rangeError remainingError
    fun _ _ => throw (.credit "Credit invoice tax cannot be allocated to zero-value lines.")

/-- The lines of `result` at the indexes of a rate are replaced, in order, by
    settled amounts. -/
def replaceOnRate (rate : Int) :
    List CalculatedNormalCreditDraftLine → List LineAmounts →
      List CalculatedNormalCreditDraftLine
  | [], _ => []
  | line :: rest, [] => line :: rest
  | line :: rest, amounts :: settled =>
      if line.vatRateBasisPoints = rate then
        { line with toLineAmounts := amounts } :: replaceOnRate rate rest settled
      else
        line :: replaceOnRate rate rest (amounts :: settled)

/-- One round of the loop over the rates. -/
def reconcileRate (previousByRate : OrderedMap Int VatCapacity)
    (lines result : List CalculatedNormalCreditDraftLine) (vatRateBasisPoints : Int) :
    Checked (List CalculatedNormalCreditDraftLine) :=
  match onRate vatRateBasisPoints (lines.map (·.toLineAmounts)) with
  | [] => throw oneModeError
  | first :: rest => do
      let currentLines := first :: rest
      let mode := first.priceInputMode
      throwIf (∃ line ∈ currentLines, line.priceInputMode ≠ mode) oneModeError
      let previous := (previousByRate.get? vatRateBasisPoints).getD ⟨mode, 0, 0, 0⟩
      throwIf (previous.priceInputMode ≠ mode) oneModeError
      let settled ← reconcileVatRate exceedsRange rangeError remainingError distributeAmount
        mode vatRateBasisPoints previous currentLines
      pure (replaceOnRate vatRateBasisPoints result settled)

/-- Distributes the tax of each rate over the lines of the draft. -/
def reconcileCurrentVat (lines : List CalculatedNormalCreditDraftLine)
    (previousAllocations : List LineAmounts) :
    Checked (List CalculatedNormalCreditDraftLine) := do
  let previousByRate ← sumPreviousByRate previousAllocations
  (appearance [] (lines.map (·.vatRateBasisPoints))).foldlM
    (reconcileRate previousByRate lines) lines

/-! ## Totals -/

/-- The sums of the rows. -/
def totalsFromBreakdown (vatBreakdown : List InvoiceVatBreakdown) :
    Checked InvoiceTotals := do
  let netTotalCents ← vatBreakdown.foldlM (fun sum row => addSafe sum row.netCents) 0
  let vatTotalCents ← vatBreakdown.foldlM (fun sum row => addSafe sum row.vatCents) 0
  let grossTotalCents ← vatBreakdown.foldlM (fun sum row => addSafe sum row.grossCents) 0
  pure ⟨netTotalCents, vatTotalCents, grossTotalCents, vatBreakdown⟩

/-- The row of a rate of the breakdown. -/
def toRow (vatRateBasisPoints : Int) (capacity : VatCapacity) : InvoiceVatBreakdown :=
  ⟨vatRateBasisPoints, capacity.netCents, capacity.vatCents, capacity.grossCents⟩

/-- The two maps of the loop, `byRate` and `modesByRate`, always have the same
    keys and are one map here. -/
def sumCreditTotals (lines : List LineAmounts) : Checked InvoiceTotals := do
  let byRate ← groupM (·.vatRateBasisPoints)
    (fun current line => do
      validateCalculatedInvoiceLine line
      accumulateVat exceedsRange rangeError
        (.calculation "Invoice lines with the same VAT rate must use one price input mode.")
        current line)
    OrderedMap.empty lines
  totalsFromBreakdown (byRate.sortedEntries.map fun (rate, sums) => toRow rate sums)

/-! ## The draft -/

section Collation

variable (localeCompare : String → String → Int)

/-- The credited source lines; none are calculated when none are requested. -/
def calculateSourceLines (sourceLines : List CreditSourceLine)
    (previousSourceAllocations : List PreviousCreditLineAllocation)
    (requestedSourceLines : List RequestedCreditLine) :
    Checked (List CreditInvoice.CalculatedCreditLine) :=
  if requestedSourceLines.length = 0 then
    pure []
  else do
    let calculated ← calculateCreditInvoice localeCompare sourceLines
      previousSourceAllocations requestedSourceLines
    pure calculated.lines

/-- The credit draft of a request: its source lines, then its manual lines. -/
def calculateCreditInvoiceDraft (sourceLines : List CreditSourceLine)
    (previousAllocations : List PreviousCreditAllocation)
    (requestedSourceLines : List RequestedCreditLine)
    (requestedManualLines : List RequestedManualCreditLine) :
    Checked CalculatedNormalCreditDraft := do
  throwIf (requestedSourceLines.length + requestedManualLines.length = 0)
    (.credit "Credit invoice must contain at least one line.")
  let sourceById := ofList (sourceLines.map fun line => (line.id, line))
  let capacities ← createVatCapacities (sourceLines.map (·.toLineAmounts))
  validatePreviousAllocations previousAllocations sourceById capacities
  let previousSourceAllocations := previousAllocations.filterMap toPreviousLineAllocation
  let sourceCalculation ← calculateSourceLines localeCompare sourceLines
    previousSourceAllocations requestedSourceLines
  let manualCalculatedLines ← requestedManualLines.mapM (calculateManualLine capacities)
  let previousAmounts := previousAllocations.map (·.toLineAmounts)
  let reconciledLines ← reconcileCurrentVat
    (sourceCalculation.map toDraftLine ++ manualCalculatedLines) previousAmounts
  requireWithinVatCapacity previousAmounts (reconciledLines.map (·.toLineAmounts)) capacities
  let totals ← sumCreditTotals (reconciledLines.map (·.toLineAmounts))
  pure ⟨reconciledLines, totals⟩

end Collation

/-- What is left of a rate. -/
def remainingRow (usedByRate : OrderedMap Int VatCapacity) (vatRateBasisPoints : Int)
    (capacity : VatCapacity) : Checked InvoiceVatBreakdown := do
  let used := (usedByRate.get? vatRateBasisPoints).getD ⟨capacity.priceInputMode, 0, 0, 0⟩
  let netCents ← subtractSafe capacity.netCents used.netCents
  let vatCents ← subtractSafe capacity.vatCents used.vatCents
  let grossCents ← subtractSafe capacity.grossCents used.grossCents
  pure ⟨vatRateBasisPoints, netCents, vatCents, grossCents⟩

/-- What is left of the invoice to be credited. -/
def calculateRemainingCreditTotals (sourceLines : List CreditSourceLine)
    (previousAllocations : List PreviousCreditAllocation) : Checked InvoiceTotals := do
  let sourceById := ofList (sourceLines.map fun line => (line.id, line))
  let capacities ← createVatCapacities (sourceLines.map (·.toLineAmounts))
  validatePreviousAllocations previousAllocations sourceById capacities
  let usedByRate ← sumPreviousByRate (previousAllocations.map (·.toLineAmounts))
  let vatBreakdown ← capacities.sortedEntries.mapM fun (rate, capacity) =>
    remainingRow usedByRate rate capacity
  totalsFromBreakdown vatBreakdown

end CreditDraft
