import Eky.InvoiceCalculation
import Eky.JavaScript
import Eky.VatDistribution

/-! # Credit invoice lines — crediting by quantity

    `calculateCreditInvoice` credits quantities of the lines of a sent invoice.
    Base and input amount of a line are computed CUMULATIVELY from the credited
    quantity, so a credit is the difference of two rounded values; the VAT of a
    rate is then settled over the current lines.

    The functions stand here in the order of their use; what a successful
    calculation means for the amounts of a line is proved in
    `CreditLineProofs` and `CreditTaxProofs`. -/

namespace CreditInvoice

open Fallible Apportionment OrderedMap InvoiceMoney VatGroups InvoiceCalculation
open VatDistribution
open JavaScript (isWhiteSpace utf16Length)

/-! ## Data -/

/-- A line of the invoice that is credited. -/
structure CreditSourceLine extends LineAmounts where
  id : String
  lineOrder : Int
  deriving DecidableEq

/-- What earlier credits have taken from a line. -/
structure PreviousAllocationTotal where
  quantityHundredths : Int
  baseCents : Int
  discountCents : Int
  netCents : Int
  vatCents : Int
  grossCents : Int
  deriving DecidableEq

/-- What one earlier credit line has taken. -/
structure PreviousCreditLineAllocation extends PreviousAllocationTotal where
  sourceInvoiceLineId : String
  deriving DecidableEq

/-- The quantity that a request credits of a line. -/
structure RequestedCreditLine where
  sourceInvoiceLineId : String
  quantityHundredths : Int
  deriving DecidableEq

/-- A calculated credit line. -/
structure CalculatedCreditLine extends LineAmounts where
  sourceInvoiceLineId : String
  deriving DecidableEq

/-- The calculated credit invoice. -/
structure CalculatedCreditInvoice where
  lines : List CalculatedCreditLine
  totals : InvoiceTotals
  deriving DecidableEq

/-- What a line of the invoice can give. -/
structure CreditLineCapacity where
  sourceInvoiceLineId : String
  quantityHundredths : Int
  priceInputMode : PriceInputMode
  vatRateBasisPoints : Int
  baseCents : Int
  discountedInputCents : Int
  deriving DecidableEq

/-- The lines of one VAT rate, while they are collected. -/
structure MutableVatGroup where
  mode : PriceInputMode
  lines : List CreditSourceLine
  deriving DecidableEq

/-! ## Checks -/

/-- `value.length`, in UTF-16 code units. -/
def textLength (value : String) : Nat := utf16Length value.toList

/-- A text that is not blank and at most 200 units long. -/
def IsIdentifier (value : String) : Prop :=
  ¬ value.toList.all isWhiteSpace ∧ textLength value ≤ 200

instance (value : String) : Decidable (IsIdentifier value) :=
  inferInstanceAs (Decidable (_ ∧ _))

/-- Refuses a blank or too long identifier. -/
def requireIdentifier (value fieldName : String) : Checked Unit :=
  throwIf (value.toList.all isWhiteSpace ∨ textLength value > 200)
    (.credit (fieldName ++ " is invalid."))

/-- Refuses what is not a safe integer from zero on. -/
def requireNonNegativeSafeInteger (value : Int) (fieldName : String) : Checked Unit :=
  throwIf (¬ IsSafeInteger value ∨ value < 0)
    (.credit (fieldName ++ " must be a non-negative safe integer."))

/-- Refuses what is not a safe integer from one on. -/
def requirePositiveSafeInteger (value : Int) (fieldName : String) : Checked Unit := do
  requireNonNegativeSafeInteger value fieldName
  throwIf (value = 0) (.credit (fieldName ++ " must be positive."))

/-- `toSafeInteger` of the credit calculation: the range ends at zero, too. -/
def outOfRange (n : Int) : Prop := n < 0 ∨ n > maximumSafeInteger

instance : DecidablePred outOfRange := fun _ => inferInstanceAs (Decidable (_ ∨ _))

/-- The error of an amount outside the safe range. -/
def rangeError : InvoiceError :=
  .credit "Credit invoice amount exceeds the safe integer range."

/-- The value itself, if it is in the safe range. -/
def toSafeInteger (value : Int) : Checked Int := do
  throwIf (outOfRange value) rangeError
  pure value

/-- A sum within the safe range. -/
def addSafeIntegers : Int → Int → Checked Int := addUnless outOfRange rangeError

/-- The error of credits that have taken more than the cumulative share. -/
def exceedsCumulative : InvoiceError :=
  .credit "Previous credits exceed the cumulative credit allocation."

/-- A difference that must not be negative. -/
def subtractAllocation : Int → Int → Checked Int := subtractAmount exceedsCumulative

/-- Checks the fields of a line of the invoice. -/
def validateSourceLine (line : CreditSourceLine) : Checked Unit := do
  requireIdentifier line.id "Source invoice line id"
  requirePositiveSafeInteger line.lineOrder "Source line order"
  requireNonNegativeSafeInteger line.quantityHundredths "Source quantity"
  requireNonNegativeSafeInteger line.vatRateBasisPoints "Source VAT rate"
  requireNonNegativeSafeInteger line.baseCents "Source base amount"
  requireNonNegativeSafeInteger line.discountCents "Source discount amount"
  requireNonNegativeSafeInteger line.netCents "Source net amount"
  requireNonNegativeSafeInteger line.vatCents "Source VAT amount"
  requireNonNegativeSafeInteger line.grossCents "Source gross amount"
  throwIf (line.discountCents > line.baseCents
      ∨ line.netCents + line.vatCents ≠ line.grossCents
      ∨ (line.priceInputMode = .net ∧ line.baseCents - line.discountCents ≠ line.netCents)
      ∨ (line.priceInputMode = .gross
          ∧ line.baseCents - line.discountCents ≠ line.grossCents))
    (.credit "Source invoice line amounts do not reconcile.")

/-- Checks the fields of an earlier allocation. -/
def validatePreviousAllocation (allocation : PreviousCreditLineAllocation) :
    Checked Unit := do
  requireIdentifier allocation.sourceInvoiceLineId "Previous source invoice line id"
  requirePositiveSafeInteger allocation.quantityHundredths "Previous credit quantity"
  requireNonNegativeSafeInteger allocation.baseCents "Previous base amount"
  requireNonNegativeSafeInteger allocation.discountCents "Previous discount amount"
  requireNonNegativeSafeInteger allocation.netCents "Previous net amount"
  requireNonNegativeSafeInteger allocation.vatCents "Previous VAT amount"
  requireNonNegativeSafeInteger allocation.grossCents "Previous gross amount"
  throwIf (allocation.discountCents > allocation.baseCents
      ∨ allocation.netCents + allocation.vatCents ≠ allocation.grossCents)
    (.credit "Previous credit allocation amounts do not reconcile.")

/-- Checks the amounts of a calculated line. -/
def validateCalculatedCreditLine (line : CalculatedCreditLine) : Checked Unit := do
  requirePositiveSafeInteger line.quantityHundredths "Credit quantity"
  requireNonNegativeSafeInteger line.netCents "Credit net amount"
  requireNonNegativeSafeInteger line.vatCents "Credit VAT amount"
  requireNonNegativeSafeInteger line.grossCents "Credit gross amount"
  throwIf (line.netCents + line.vatCents ≠ line.grossCents)
    (.credit "Credit invoice line net, VAT, and gross amounts do not reconcile.")

/-! ## Capacities of the source lines -/

/-- The two collections of the loop over the source lines. -/
structure SourceLineGroups where
  sourceLineIds : List String
  groupsByRate : OrderedMap Int MutableVatGroup

/-- Adds a line to the group of its rate, which has one price input mode. -/
def addToVatGroup (existingGroup : Option MutableVatGroup) (line : CreditSourceLine) :
    Checked MutableVatGroup :=
  match existingGroup with
  | some group => do
      throwIf (group.mode ≠ line.priceInputMode)
        (.credit "Source lines with the same VAT rate must use one price input mode.")
      pure { group with lines := group.lines ++ [line] }
  | none => pure ⟨line.priceInputMode, [line]⟩

/-- Checks a line and adds it to the group of its rate. -/
def collectSourceLine (state : SourceLineGroups) (line : CreditSourceLine) :
    Checked SourceLineGroups := do
  validateSourceLine line
  throwIf (line.id ∈ state.sourceLineIds)
    (.credit "Source invoice line ids must be unique.")
  let sourceLineIds := state.sourceLineIds ++ [line.id]
  if line.quantityHundredths = 0 ∨ line.grossCents = 0 then
    pure ⟨sourceLineIds, state.groupsByRate⟩
  else do
    let group ← addToVatGroup (state.groupsByRate.get? line.vatRateBasisPoints) line
    pure ⟨sourceLineIds, state.groupsByRate.set line.vatRateBasisPoints group⟩

/-- The capacity of a line. -/
def toCapacity (vatRateBasisPoints : Int) (line : CreditSourceLine) : CreditLineCapacity where
  sourceInvoiceLineId := line.id
  quantityHundredths := line.quantityHundredths
  priceInputMode := line.priceInputMode
  vatRateBasisPoints := vatRateBasisPoints
  baseCents := line.baseCents
  discountedInputCents := line.baseCents - line.discountCents

/-- The capacities of all lines of the invoice by id. -/
def createCreditLineCapacities (sourceLines : List CreditSourceLine) :
    Checked (OrderedMap String CreditLineCapacity) := do
  let collectedLines ← sourceLines.foldlM collectSourceLine ⟨[], OrderedMap.empty⟩
  pure (ofList (collectedLines.groupsByRate.entries.flatMap fun (vatRateBasisPoints, group) =>
    (group.lines.insertionSort (fun first second => first.lineOrder ≤ second.lineOrder)).map
      fun line => (line.id, toCapacity vatRateBasisPoints line)))

/-! ## Earlier credits -/

/-- Nothing taken yet. -/
def createEmptyPreviousAllocation : PreviousAllocationTotal := ⟨0, 0, 0, 0, 0, 0⟩

/-- Adds an allocation to the total of its line. -/
def addPreviousAllocation (previous : Option PreviousAllocationTotal)
    (allocation : PreviousCreditLineAllocation) : Checked PreviousAllocationTotal := do
  let previous := previous.getD createEmptyPreviousAllocation
  let quantityHundredths ←
    addSafeIntegers previous.quantityHundredths allocation.quantityHundredths
  let baseCents ← addSafeIntegers previous.baseCents allocation.baseCents
  let discountCents ← addSafeIntegers previous.discountCents allocation.discountCents
  let netCents ← addSafeIntegers previous.netCents allocation.netCents
  let vatCents ← addSafeIntegers previous.vatCents allocation.vatCents
  let grossCents ← addSafeIntegers previous.grossCents allocation.grossCents
  pure ⟨quantityHundredths, baseCents, discountCents, netCents, vatCents, grossCents⟩

/-- The earlier credits of a line go beyond the line. -/
def ExceedsCapacity (capacity : CreditLineCapacity) (total : PreviousAllocationTotal) :
    Prop :=
  total.quantityHundredths > capacity.quantityHundredths
    ∨ total.baseCents > capacity.baseCents
    ∨ total.discountCents > capacity.baseCents
    ∨ total.baseCents - total.discountCents < 0
    ∨ (capacity.priceInputMode = .net
        ∧ (total.netCents > capacity.discountedInputCents
          ∨ total.baseCents - total.discountCents ≠ total.netCents))
    ∨ (capacity.priceInputMode = .gross
        ∧ (total.grossCents > capacity.discountedInputCents
          ∨ total.baseCents - total.discountCents ≠ total.grossCents))

instance (capacity : CreditLineCapacity) (total : PreviousAllocationTotal) :
    Decidable (ExceedsCapacity capacity total) :=
  inferInstanceAs (Decidable (_ ∨ _))

/-- The checks at the head of the loop over the earlier credits. -/
def requireSourceLineAllocation (capacities : OrderedMap String CreditLineCapacity)
    (allocation : PreviousCreditLineAllocation) : Checked Unit := do
  throwIf (capacities.get? allocation.sourceInvoiceLineId = none)
    (.credit "Previous credit allocation source line is invalid.")
  validatePreviousAllocation allocation

/-- What earlier credits have taken from each line, within its capacity. -/
def sumPreviousAllocations (previousAllocations : List PreviousCreditLineAllocation)
    (capacities : OrderedMap String CreditLineCapacity) :
    Checked (OrderedMap String PreviousAllocationTotal) := do
  let totals ← groupM (·.sourceInvoiceLineId)
    (fun previous allocation => do
      requireSourceLineAllocation capacities allocation
      addPreviousAllocation previous allocation)
    OrderedMap.empty previousAllocations
  totals.entries.forM fun (sourceInvoiceLineId, total) =>
    match capacities.get? sourceInvoiceLineId with
    | none => throw (.credit "Previous credits exceed the source invoice line.")
    | some capacity => throwIf (ExceedsCapacity capacity total)
        (.credit "Previous credits exceed the source invoice line.")
  pure totals

/-! ## The credited lines -/

/-- The rounded share of the capacity at a cumulative quantity. -/
def allocateCumulativeAmount (capacityCents cumulativeQuantity sourceQuantity : Int) :
    Checked Int :=
  roundHalfUp (capacityCents * cumulativeQuantity) sourceQuantity

/-- A credit line: the cumulative share less what earlier credits have taken. -/
def allocateCreditLine (capacity : CreditLineCapacity) (previous : PreviousAllocationTotal)
    (cumulativeQuantity : Int) : Checked CalculatedCreditLine := do
  let cumulativeBaseCents ← allocateCumulativeAmount capacity.baseCents cumulativeQuantity
    capacity.quantityHundredths
  let cumulativeInputCents ← allocateCumulativeAmount capacity.discountedInputCents
    cumulativeQuantity capacity.quantityHundredths
  let baseCents ← subtractAllocation cumulativeBaseCents previous.baseCents
  let discountedInputCents ← subtractAllocation cumulativeInputCents
    (if capacity.priceInputMode = .net then previous.netCents else previous.grossCents)
  let discountCents := baseCents - discountedInputCents
  let netCents := if capacity.priceInputMode = .net then discountedInputCents else 0
  let grossCents := if capacity.priceInputMode = .gross then discountedInputCents else netCents
  let vatCents := grossCents - netCents
  throwIf (discountCents < 0
      ∨ (capacity.priceInputMode = .net ∧ discountedInputCents ≠ netCents)
      ∨ (capacity.priceInputMode = .gross ∧ discountedInputCents ≠ grossCents))
    (.credit "Calculated credit line amounts do not reconcile.")
  pure {
    sourceInvoiceLineId := capacity.sourceInvoiceLineId
    quantityHundredths := cumulativeQuantity - previous.quantityHundredths
    priceInputMode := capacity.priceInputMode
    vatRateBasisPoints := capacity.vatRateBasisPoints
    baseCents, discountCents, netCents, vatCents, grossCents }

/-- The credit line of one request. -/
def creditRequestedLine (capacities : OrderedMap String CreditLineCapacity)
    (previousBySourceLine : OrderedMap String PreviousAllocationTotal)
    (requestedLine : RequestedCreditLine) : Checked CalculatedCreditLine := do
  let capacity ← orThrow (capacities.get? requestedLine.sourceInvoiceLineId)
    (.credit "Credit invoice source line is invalid.")
  requirePositiveSafeInteger requestedLine.quantityHundredths "Credit quantity"
  let previous := (previousBySourceLine.get? requestedLine.sourceInvoiceLineId).getD
    createEmptyPreviousAllocation
  let cumulativeQuantity := previous.quantityHundredths + requestedLine.quantityHundredths
  throwIf (¬ IsSafeInteger cumulativeQuantity
      ∨ cumulativeQuantity > capacity.quantityHundredths)
    (.credit "Credit quantity exceeds the remaining source line quantity.")
  allocateCreditLine capacity previous cumulativeQuantity

/-! ## The VAT of the credited lines -/

/-- The error of two price input modes at one rate. -/
def oneModeError : InvoiceError :=
  .credit "Credit lines with the same VAT rate must use one price input mode."

/-- On zero-value lines only a zero tax can be allocated. -/
def allocateToZeroValueLines (totalAmount : Int) (weights : List Int) :
    Checked (List Int) := do
  throwIf (totalAmount ≠ 0)
    (.credit "Credit invoice tax cannot be allocated to zero-value lines.")
  pure (weights.map fun _ => 0)

/-- The distribution of this file, in which lines of value 0 may get an amount. -/
def distributeAmount : Int → List Int → Checked (List Int) :=
  VatDistribution.distributeAmount outOfRange rangeError exceedsCumulative
    allocateToZeroValueLines

/-- The amounts of an earlier credit under the mode and rate of its line. -/
def resolveAllocation (capacities : OrderedMap String CreditLineCapacity)
    (allocation : PreviousCreditLineAllocation) : Checked LineAmounts := do
  let capacity ← orThrow (capacities.get? allocation.sourceInvoiceLineId)
    (.credit "Previous credit allocation source line is invalid.")
  pure {
    quantityHundredths := allocation.quantityHundredths
    priceInputMode := capacity.priceInputMode
    vatRateBasisPoints := capacity.vatRateBasisPoints
    baseCents := allocation.baseCents
    discountCents := allocation.discountCents
    netCents := allocation.netCents
    vatCents := allocation.vatCents
    grossCents := allocation.grossCents }

section Collation

-- The sort of the program compares line ids by `localeCompare`, whose order
-- depends on the locale: any comparison may stand for it.
variable (localeCompare : String → String → Int)

/-- Distributes the tax of one rate over its credit lines. -/
def allocateCurrentTaxOfRate (previousByRate : OrderedMap Int VatCapacity)
    (vatRateBasisPoints : Int) (currentLines : List CalculatedCreditLine) :
    Checked (List CalculatedCreditLine) :=
  match currentLines with
  | [] => pure []
  | first :: _ => do
      let mode := first.priceInputMode
      throwIf (∃ line ∈ currentLines, line.priceInputMode ≠ mode) oneModeError
      let previous := (previousByRate.get? vatRateBasisPoints).getD ⟨mode, 0, 0, 0⟩
      throwIf (previous.priceInputMode ≠ mode) oneModeError
      let orderedLines := currentLines.insertionSort fun first second =>
        localeCompare first.sourceInvoiceLineId second.sourceInvoiceLineId ≤ 0
      let settled ← reconcileVatRate outOfRange rangeError exceedsCumulative
        distributeAmount mode vatRateBasisPoints previous
        (orderedLines.map (·.toLineAmounts))
      pure (orderedLines.zipWith (fun line amounts => ⟨amounts, line.sourceInvoiceLineId⟩)
        settled)

/-- The line with its reconciled tax. -/
def readReconciledLine (reconciledBySourceLine : OrderedMap String CalculatedCreditLine)
    (line : CalculatedCreditLine) : Checked CalculatedCreditLine :=
  orThrow (reconciledBySourceLine.get? line.sourceInvoiceLineId)
    (.credit "Credit invoice VAT allocation is incomplete.")

/-- Distributes the tax rate by rate and keeps the order of the lines. -/
def allocateCurrentTaxByVatRate (lines : List CalculatedCreditLine)
    (previousAllocations : List PreviousCreditLineAllocation)
    (capacities : OrderedMap String CreditLineCapacity) :
    Checked (List CalculatedCreditLine) := do
  let currentByRate := groupBy (·.vatRateBasisPoints) lines
  let previousByRate ← groupResolvedM (resolveAllocation capacities)
    (·.vatRateBasisPoints) (accumulateVat outOfRange rangeError oneModeError)
    OrderedMap.empty previousAllocations
  let reconciled ← currentByRate.mapM fun (vatRateBasisPoints, currentLines) =>
    allocateCurrentTaxOfRate localeCompare previousByRate vatRateBasisPoints currentLines
  let reconciledBySourceLine :=
    ofList (reconciled.flatten.map fun line => (line.sourceInvoiceLineId, line))
  lines.mapM (readReconciledLine reconciledBySourceLine)

/-! ## The credit invoice -/

/-- Adds a line to the row of its rate. -/
def addToBreakdown (previous : Option InvoiceVatBreakdown) (line : CalculatedCreditLine) :
    Checked InvoiceVatBreakdown := do
  let netCents ← addSafeIntegers ((previous.map (·.netCents)).getD 0) line.netCents
  let vatCents ← addSafeIntegers ((previous.map (·.vatCents)).getD 0) line.vatCents
  let grossCents ← addSafeIntegers ((previous.map (·.grossCents)).getD 0) line.grossCents
  pure ⟨line.vatRateBasisPoints, netCents, vatCents, grossCents⟩

/-- The totals and the rows of the credit lines. -/
def calculateCreditInvoiceTotals (lines : List CalculatedCreditLine) :
    Checked InvoiceTotals := do
  let breakdownByRate ← groupM (·.vatRateBasisPoints)
    (fun previous line => do
      validateCalculatedCreditLine line
      addToBreakdown previous line) OrderedMap.empty lines
  let netTotalCents ← toSafeInteger (lines.map (·.netCents)).sum
  let vatTotalCents ← toSafeInteger (lines.map (·.vatCents)).sum
  let grossTotalCents ← toSafeInteger (lines.map (·.grossCents)).sum
  pure ⟨netTotalCents, vatTotalCents, grossTotalCents,
    breakdownByRate.sortedEntries.map Prod.snd⟩

/-- The credit invoice of a request. -/
def calculateCreditInvoice (sourceLines : List CreditSourceLine)
    (previousAllocations : List PreviousCreditLineAllocation)
    (requestedLines : List RequestedCreditLine) : Checked CalculatedCreditInvoice := do
  throwIf (requestedLines.length = 0)
    (.credit "Credit invoice must contain at least one line.")
  let capacities ← createCreditLineCapacities sourceLines
  let previousBySourceLine ← sumPreviousAllocations previousAllocations capacities
  let lines ← mapUniqueM (·.sourceInvoiceLineId)
    (.credit "Credit invoice source lines must be unique.")
    (creditRequestedLine capacities previousBySourceLine) [] requestedLines
  let reconciledLines ←
    allocateCurrentTaxByVatRate localeCompare lines previousAllocations capacities
  let totals ← calculateCreditInvoiceTotals reconciledLines
  pure ⟨reconciledLines, totals⟩

end Collation

end CreditInvoice
