import Eky.CreditDraft

/-! # The credit draft model — from stored rows to the calculation

    The calculation of a credit does not read the tables itself: it is handed
    the lines of the source invoice and the earlier credits in its own types.
    The same stored rows serve both tax treatments, so a VAT rate is optional in
    them and each treatment refuses the rows it cannot use.

    - `toNormalCreditSourceLines`, `toNormalPreviousCreditAllocations`: the rows
      of an invoice with normal VAT;
    - `createRemainingRequestedLines`: the request for everything that is left. -/

namespace CreditDraftModel

open Fallible OrderedMap InvoiceMoney
open CreditInvoice (CreditSourceLine RequestedCreditLine)
open CreditDraft (PreviousCreditAllocation)

/-! ## Stored rows -/

/-- With VAT, or with the VAT owed by the customer. -/
inductive InvoiceTaxTreatment
  | normalVat
  | reverseChargeConstruction
  deriving DecidableEq

/-- A line of an approved invoice. -/
structure ApprovedInvoiceViewLine where
  id : String
  lineOrder : Int
  code : String
  description : String
  quantityHundredths : Int
  unit : String
  unitPriceCents : Int
  vatRateBasisPoints : Option Int
  discount : InvoiceLineDiscount
  baseCents : Int
  discountCents : Int
  netCents : Int
  vatCents : Int
  grossCents : Int
  deriving DecidableEq

/-- An approved invoice as the database gives it. -/
structure ApprovedInvoiceView where
  priceInputMode : PriceInputMode
  taxTreatment : InvoiceTaxTreatment
  lines : List ApprovedInvoiceViewLine
  deriving DecidableEq

/-- What an earlier credit has taken, as the database gives it. -/
structure InvoiceCreditAllocation where
  sourceInvoiceLineId : Option String
  quantityHundredths : Int
  priceInputMode : PriceInputMode
  vatRateBasisPoints : Option Int
  baseCents : Int
  discountCents : Int
  netCents : Int
  vatCents : Int
  grossCents : Int
  deriving DecidableEq

/-! ## Normal VAT -/

/-- A line as the calculation takes it. -/
def toNormalCreditSourceLine (priceInputMode : PriceInputMode)
    (line : ApprovedInvoiceViewLine) : Checked CreditSourceLine := do
  let vatRateBasisPoints ← orThrow line.vatRateBasisPoints
    (.draftValidation "Normal VAT credit source line is invalid.")
  pure {
    id := line.id
    lineOrder := line.lineOrder
    quantityHundredths := line.quantityHundredths
    priceInputMode, vatRateBasisPoints
    baseCents := line.baseCents
    discountCents := line.discountCents
    netCents := line.netCents
    vatCents := line.vatCents
    grossCents := line.grossCents }

/-- The lines of an invoice with VAT. -/
def toNormalCreditSourceLines (sourceInvoice : ApprovedInvoiceView) :
    Checked (List CreditSourceLine) := do
  throwIf (sourceInvoice.taxTreatment ≠ .normalVat)
    (.draftValidation "Normal VAT credit source invoice is invalid.")
  sourceInvoice.lines.mapM (toNormalCreditSourceLine sourceInvoice.priceInputMode)

/-- An earlier allocation as the calculation takes it. -/
def toNormalPreviousCreditAllocation (allocation : InvoiceCreditAllocation) :
    Checked PreviousCreditAllocation := do
  let vatRateBasisPoints ← orThrow allocation.vatRateBasisPoints
    (.draftValidation "Stored normal VAT credit allocation is invalid.")
  pure {
    sourceInvoiceLineId := allocation.sourceInvoiceLineId
    quantityHundredths := allocation.quantityHundredths
    priceInputMode := allocation.priceInputMode
    vatRateBasisPoints
    baseCents := allocation.baseCents
    discountCents := allocation.discountCents
    netCents := allocation.netCents
    vatCents := allocation.vatCents
    grossCents := allocation.grossCents }

/-- All of them. -/
def toNormalPreviousCreditAllocations (allocations : List InvoiceCreditAllocation) :
    Checked (List PreviousCreditAllocation) :=
  allocations.mapM toNormalPreviousCreditAllocation

/-! ## The request for what is left -/

/-- The source line and the quantity of an allocation; an allocation without a
    source line counts towards none. -/
def creditedQuantity (allocation : InvoiceCreditAllocation) : Option (String × Int) :=
  allocation.sourceInvoiceLineId.map fun id => (id, allocation.quantityHundredths)

/-- A quantity on top of those before. -/
def addPreviousQuantity (previous : Option Int) (credited : String × Int) : Checked Int := do
  let next := previous.getD 0 + credited.2
  throwIf (¬ IsSafeInteger next ∨ next < 0)
    (.draftValidation "Stored credit allocation is invalid.")
  pure next

/-- The credited quantity of each line. -/
def sumPreviousQuantities (previousAllocations : List InvoiceCreditAllocation) :
    Checked (OrderedMap String Int) :=
  groupM Prod.fst addPreviousQuantity OrderedMap.empty
    (previousAllocations.filterMap creditedQuantity)

/-- A line that has something to give. -/
def isCreditableSourceLine (line : ApprovedInvoiceViewLine) : Bool :=
  line.quantityHundredths > 0 && line.grossCents > 0

/-- The request for the rest of a line, when there is one. -/
def requestRemaining (previousQuantityBySourceLine : OrderedMap String Int)
    (line : ApprovedInvoiceViewLine) : Option RequestedCreditLine :=
  let remainingQuantity := line.quantityHundredths
    - (previousQuantityBySourceLine.get? line.id).getD 0
  if isCreditableSourceLine line ∧ remainingQuantity > 0 then
    some ⟨line.id, remainingQuantity⟩
  else none

/-- The request for all that is left. -/
def createRemainingRequestedLines (sourceInvoice : ApprovedInvoiceView)
    (previousAllocations : List InvoiceCreditAllocation) :
    Checked (List RequestedCreditLine) := do
  let previousQuantityBySourceLine ← sumPreviousQuantities previousAllocations
  pure (sourceInvoice.lines.filterMap (requestRemaining previousQuantityBySourceLine))

end CreditDraftModel
