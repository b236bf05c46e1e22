import Eky.LegacyRevision
import Eky.CreditDraftModel

/-! # Approving a draft — the rows of an issued invoice

    Saving a draft calculates its lines (`prepareInvoiceDraftContent`) and keeps them as
    rows.  Approval reads the rows back: a standard invoice is added up again
    (`calculateStoredDraftTotals`), a credit is calculated against what has been credited
    of its invoice (`calculateCreditDraftForApproval`), and the lines and totals are
    written as rows of the invoice.

    Texts, numbers, customers and dates of an invoice take no part, except where a credit
    is compared with the invoice it credits. -/

namespace InvoiceApproval

open Fallible OrderedMap InvoiceMoney InvoiceCalculation LegacyRevision
open InvoiceForm (InvoiceTaxTreatment InvoiceDraftLineInput InvoiceDraftInput
  reverseChargeInput calculateNormalVatLine)
open ReverseCharge (CreditAmounts CalculatedReverseChargeInvoiceLine
  CalculatedCreditDraftLine CalculatedCreditDraft ReverseChargeCreditSourceLine
  ReverseChargePreviousCreditAllocation RequestedReverseChargeManualCreditLine
  ReverseChargeInvoiceLineCalculationInput calculateReverseChargeInvoice
  calculateReverseChargeCreditInvoiceDraft)
open CreditInvoice (CreditSourceLine RequestedCreditLine)
open CreditDraft (PreviousCreditAllocation RequestedManualCreditLine
  CalculatedNormalCreditDraftLine calculateCreditInvoiceDraft)
open CreditDraftModel (InvoiceCreditAllocation)

/-! ## Rows -/

/-- A stored line of a draft. -/
structure InvoiceDraftLineRow extends LineColumns where
  id : String
  sourceInvoiceLineId : Option String
  position : Int
  deriving DecidableEq

/-- The lines of a draft, as their table keeps them: the id is the primary key. -/
structure InvoiceDraftLines where
  rows : List InvoiceDraftLineRow
  uniqueIds : (rows.map (·.id)).Nodup

/-- A stored line of an invoice. -/
structure InvoiceLineRow extends LineColumns where
  id : String
  sourceInvoiceLineId : Option String
  lineOrder : Int
  deriving DecidableEq

/-- A stored line of a revision. -/
structure InvoiceRevisionLineRow extends LineColumns where
  lineId : String
  lineOrder : Int
  deriving DecidableEq

/-- A draft without its status, which has one value only. -/
structure InvoiceDraftRow where
  invoiceKind : InvoiceKind
  creditedInvoiceId : Option String
  approvedInvoiceId : Option String
  priceInputMode : PriceInputMode
  taxTreatment : InvoiceTaxTreatment
  performanceDate : Option String
  performancePeriodStart : Option String
  performancePeriodEnd : Option String
  deriving DecidableEq

/-- The header of the revision that is credited. -/
structure InvoiceContentRevisionRow where
  priceInputMode : PriceInputMode
  taxTreatment : InvoiceTaxTreatment
  performanceDate : Option String
  performancePeriodStart : Option String
  performancePeriodEnd : Option String
  deriving DecidableEq

/-- The invoice and the lines that an approval writes. -/
structure IssuedInvoice where
  invoiceKind : InvoiceKind
  priceInputMode : PriceInputMode
  taxTreatment : InvoiceTaxTreatment
  totals : InvoiceTotals
  lines : List InvoiceLineRow
  deriving DecidableEq

/-- What keeps an approval from issuing an invoice. -/
inductive ApprovalFailure
  | notFound
  | conflict
  | rejected (error : InvoiceError)
  | aborted (message : String)
  deriving DecidableEq

/-- An answer of the approval. -/
abbrev Approval := Except ApprovalFailure

/-- A calculation's error rejects the approval. -/
def fromChecked {α : Type} (result : Checked α) : Approval α :=
  result.mapError .rejected

@[simp] theorem fromChecked_eq_ok {α : Type} {result : Checked α} {value : α} :
    fromChecked result = .ok value ↔ result = .ok value := by
  cases result with
  | error e => exact ⟨(fun h => nomatch h), fun h => nomatch h⟩
  | ok a =>
      show Except.ok a = .ok value ↔ Except.ok a = .ok value
      rw [Except.ok.injEq, Except.ok.injEq]

/-! ## Saving a draft -/

/-- A line of a prepared draft. -/
structure InvoiceDraftLine extends CreditAmounts where
  id : String
  sourceInvoiceLineId : Option String
  position : Int
  unitPriceCents : Int
  discount : InvoiceLineDiscount
  deriving DecidableEq

/-- A draft before it is stored. -/
structure PreparedInvoiceDraftContent where
  priceInputMode : PriceInputMode
  taxTreatment : InvoiceTaxTreatment
  lines : List InvoiceDraftLine
  totals : InvoiceTotals
  deriving DecidableEq

/-- A line with a rate, as a line that may be without one. -/
def toCalculatedLine (line : CalculatedInvoiceLine) : CalculatedReverseChargeInvoiceLine where
  quantityHundredths := line.quantityHundredths
  priceInputMode := line.priceInputMode
  vatRateBasisPoints := some line.vatRateBasisPoints
  baseCents := line.baseCents
  discountCents := line.discountCents
  netCents := line.netCents
  vatCents := line.vatCents
  grossCents := line.grossCents
  unitPriceCents := line.unitPriceCents

/-- The lines of a draft and their totals. -/
def calculateDraftLines (input : InvoiceDraftInput) :
    Checked (List CalculatedReverseChargeInvoiceLine × InvoiceTotals) :=
  match input.taxTreatment with
  | .reverseChargeConstruction => do
      let inputs ← input.lines.mapM (reverseChargeInput input.priceInputMode)
      let invoice ← calculateReverseChargeInvoice inputs
      pure (invoice.lines, invoice.totals)
  | .normalVat => do
      let lines ← input.lines.mapM (calculateNormalVatLine input.priceInputMode)
      let totals ← calculateInvoiceTotals (lines.map (·.toLineAmounts))
      pure (lines.map toCalculatedLine, totals)

/-- `randomUUID` is the id that the line at an index is given. -/
def toDraftLine (randomUUID : Nat → String) (index : Nat)
    (pair : InvoiceDraftLineInput × CalculatedReverseChargeInvoiceLine) :
    InvoiceDraftLine where
  toCreditAmounts := pair.2.toCreditAmounts
  id := randomUUID index
  sourceInvoiceLineId := none
  position := index + 1
  unitPriceCents := pair.2.unitPriceCents
  discount := pair.1.discount

/-- The draft that an input asks for. -/
def prepareInvoiceDraftContent (randomUUID : Nat → String) (input : InvoiceDraftInput) :
    Checked PreparedInvoiceDraftContent := do
  throwIf (input.lines.length = 0)
    (.draftValidation "Invoice draft must contain at least one line.")
  let (calculatedLines, totals) ← calculateDraftLines input
  pure {
    priceInputMode := input.priceInputMode
    taxTreatment := input.taxTreatment
    lines := (input.lines.zip calculatedLines).mapIdx (toDraftLine randomUUID)
    totals }

/-- A discount as type and value. -/
def toStoredDiscount (discount : InvoiceLineDiscount) : DiscountType × Int :=
  match discount with
  | .none => (.none, 0)
  | .percentage basisPoints => (.percentage, basisPoints)
  | .fixed amountCents => (.fixed, amountCents)

/-- A line as it is stored. -/
def toInvoiceDraftLineRow (line : InvoiceDraftLine) : InvoiceDraftLineRow where
  id := line.id
  sourceInvoiceLineId := line.sourceInvoiceLineId
  position := line.position
  quantityHundredths := line.quantityHundredths
  unitPriceCents := line.unitPriceCents
  vatRateBasisPoints := line.vatRateBasisPoints
  discountType := (toStoredDiscount line.discount).1
  discountValue := (toStoredDiscount line.discount).2
  baseCents := line.baseCents
  discountCents := line.discountCents
  netCents := line.netCents
  vatCents := line.vatCents
  grossCents := line.grossCents

/-- All lines as they are stored. -/
def toInvoiceDraftLineRows (content : PreparedInvoiceDraftContent) :
    List InvoiceDraftLineRow :=
  content.lines.map toInvoiceDraftLineRow

/-! ## Approving a standard invoice -/

/-- The discount of a stored line. -/
def storedDiscount (line : LineColumns) : DiscountType × Int :=
  match line.discountType with
  | .none => (.none, 0)
  | .percentage => (.percentage, line.discountValue)
  | .fixed => (.fixed, line.discountValue)

/-- What a line without VAT is calculated from. -/
def storedLineInput (priceInputMode : PriceInputMode) (line : InvoiceDraftLineRow) :
    Checked ReverseChargeInvoiceLineCalculationInput := do
  throwIf (line.vatRateBasisPoints ≠ none)
    (.approveDraft "Reverse charge invoice line contains a VAT rate.")
  pure {
    quantityHundredths := line.quantityHundredths
    unitPriceCents := line.unitPriceCents
    priceInputMode
    discount :=
      if (storedDiscount line.toLineColumns).1 = .none then .none
      else if line.discountType = .percentage then .percentage line.discountValue
      else .fixed line.discountValue }

/-- The loop that compares the stored lines with the calculated ones. -/
def requireCalculatedLines : List InvoiceDraftLineRow →
    List CalculatedReverseChargeInvoiceLine → Checked Unit
  | [], _ => pure ()
  | _ :: _, [] =>
      throw (.approveDraft "Stored reverse charge invoice line totals are invalid.")
  | line :: lines, calculatedLine :: calculatedLines => do
      throwIf (line.baseCents ≠ calculatedLine.baseCents
          ∨ line.discountCents ≠ calculatedLine.discountCents
          ∨ line.netCents ≠ calculatedLine.netCents ∨ line.vatCents ≠ 0
          ∨ line.grossCents ≠ calculatedLine.grossCents)
        (.approveDraft "Stored reverse charge invoice line totals are invalid.")
      requireCalculatedLines lines calculatedLines

/-- The rate of a line with VAT. -/
def requireNormalVatRate (value : Option Int) : Checked Int := do
  let rate ← orThrow value
    (.approveDraft "Normal VAT invoice lines require a positive VAT rate.")
  throwIf (rate ≤ 0) (.approveDraft "Normal VAT invoice lines require a positive VAT rate.")
  pure rate

/-- The amounts of a stored line with VAT. -/
def storedLineAmounts (priceInputMode : PriceInputMode) (line : InvoiceDraftLineRow) :
    Checked LineAmounts := do
  let vatRateBasisPoints ← requireNormalVatRate line.vatRateBasisPoints
  pure {
    quantityHundredths := line.quantityHundredths
    priceInputMode, vatRateBasisPoints
    baseCents := line.baseCents
    discountCents := line.discountCents
    netCents := line.netCents
    vatCents := line.vatCents
    grossCents := line.grossCents }

/-- The totals of a stored draft, calculated again. -/
def calculateStoredDraftTotals (draft : InvoiceDraftRow) (lines : List InvoiceDraftLineRow) :
    Checked InvoiceTotals :=
  match draft.taxTreatment with
  | .reverseChargeConstruction => do
      let inputs ← lines.mapM (storedLineInput draft.priceInputMode)
      let calculated ← calculateReverseChargeInvoice inputs
      requireCalculatedLines lines calculated.lines
      pure calculated.totals
  | .normalVat => do
      let amounts ← lines.mapM (storedLineAmounts draft.priceInputMode)
      calculateInvoiceTotals amounts

/-- The line of the invoice for a line of the draft. -/
def createInvoiceLineRow (line : InvoiceDraftLineRow) : InvoiceLineRow where
  toLineColumns := { line.toLineColumns with
    discountType := (storedDiscount line.toLineColumns).1
    discountValue := (storedDiscount line.toLineColumns).2 }
  id := line.id
  sourceInvoiceLineId := none
  lineOrder := line.position

/-- The trigger `invoice_lines_tax_treatment_insert_guard`. -/
def guardInvoiceLine (taxTreatment : InvoiceTaxTreatment) (line : InvoiceLineRow) :
    Approval Unit :=
  match taxTreatment with
  | .normalVat => throwIf (line.vatRateBasisPoints = none)
      (.aborted "normal VAT invoice line requires a VAT rate")
  | .reverseChargeConstruction => throwIf (line.vatRateBasisPoints ≠ none)
      (.aborted "reverse charge invoice line cannot contain a VAT rate")

/-- The inserts, each with the checks of its table. -/
def insertInvoiceLines (taxTreatment : InvoiceTaxTreatment) (lines : List InvoiceLineRow) :
    Approval Unit :=
  lines.forM (guardInvoiceLine taxTreatment)

/-- Approves a draft of a standard invoice. -/
def approveDraft (draft : InvoiceDraftRow) (lines : List InvoiceDraftLineRow)
    (reverseChargeEligibilityConfirmed : Bool) : Approval IssuedInvoice := do
  throwIf (draft.invoiceKind ≠ .standard ∨ draft.creditedInvoiceId ≠ none
    ∨ draft.approvedInvoiceId ≠ none) .notFound
  throwIf (lines.length = 0) (.rejected
    (.approveDraft "Invoice draft must have at least one line before approval."))
  throwIf (draft.taxTreatment = .reverseChargeConstruction
      ∧ ¬ reverseChargeEligibilityConfirmed) (.rejected
    (.approveDraft "Reverse charge eligibility must be confirmed before approval."))
  let totals ← fromChecked (calculateStoredDraftTotals draft lines)
  let lineRows := lines.map createInvoiceLineRow
  insertInvoiceLines draft.taxTreatment lineRows
  pure ⟨.standard, draft.priceInputMode, draft.taxTreatment, totals, lineRows⟩

/-! ## Approving a credit -/

/-- A line with VAT of the credited invoice. -/
def toNormalVatSourceLine (priceInputMode : PriceInputMode) (line : InvoiceRevisionLineRow) :
    Checked CreditSourceLine := do
  let vatRateBasisPoints ← orThrow line.vatRateBasisPoints
    (.approveDraft "Normal VAT source invoice line is invalid.")
  pure {
    id := line.lineId
    lineOrder := line.lineOrder
    quantityHundredths := line.quantityHundredths
    priceInputMode, vatRateBasisPoints
    baseCents := line.baseCents
    discountCents := line.discountCents
    netCents := line.netCents
    vatCents := line.vatCents
    grossCents := line.grossCents }

/-- A line without VAT of the credited invoice. -/
def toReverseChargeSourceLine (line : InvoiceRevisionLineRow) :
    Checked ReverseChargeCreditSourceLine := do
  throwIf (line.vatRateBasisPoints ≠ none ∨ line.vatCents ≠ 0
      ∨ line.netCents ≠ line.grossCents)
    (.approveDraft "Reverse charge source invoice line is invalid.")
  pure {
    id := line.lineId
    lineOrder := line.lineOrder
    quantityHundredths := line.quantityHundredths
    priceInputMode := .net
    vatRateBasisPoints := none
    baseCents := line.baseCents
    discountCents := line.discountCents
    netCents := line.netCents
    vatCents := 0
    grossCents := line.grossCents }

/-- The lines of an invoice without VAT. -/
def toReverseChargeSourceLines (sourceInvoice : InvoiceContentRevisionRow)
    (sourceLines : List InvoiceRevisionLineRow) :
    Checked (List ReverseChargeCreditSourceLine) := do
  throwIf (sourceInvoice.priceInputMode ≠ .net)
    (.approveDraft "Reverse charge source invoice price input mode is invalid.")
  sourceLines.mapM toReverseChargeSourceLine

/-- An earlier allocation with VAT. -/
def toNormalVatPreviousAllocation (allocation : InvoiceCreditAllocation) :
    Checked PreviousCreditAllocation := do
  let vatRateBasisPoints ← orThrow allocation.vatRateBasisPoints
    (.approveDraft "Stored normal VAT credit allocation is invalid.")
  pure {
    sourceInvoiceLineId := allocation.sourceInvoiceLineId
    quantityHundredths := allocation.quantityHundredths
    priceInputMode := allocation.priceInputMode
    vatRateBasisPoints
    baseCents := allocation.baseCents
    discountCents := allocation.discountCents
    netCents := allocation.netCents
    vatCents := allocation.vatCents
    grossCents := allocation.grossCents }

/-- An earlier allocation without VAT. -/
def toReverseChargePreviousAllocation (allocation : InvoiceCreditAllocation) :
    Checked ReverseChargePreviousCreditAllocation := do
  throwIf (allocation.vatRateBasisPoints ≠ none ∨ allocation.priceInputMode ≠ .net
      ∨ allocation.vatCents ≠ 0 ∨ allocation.netCents ≠ allocation.grossCents)
    (.approveDraft "Stored reverse charge credit allocation is invalid.")
  pure {
    sourceInvoiceLineId := allocation.sourceInvoiceLineId
    quantityHundredths := allocation.quantityHundredths
    priceInputMode := .net
    vatRateBasisPoints := none
    baseCents := allocation.baseCents
    discountCents := allocation.discountCents
    netCents := allocation.netCents
    vatCents := 0
    grossCents := allocation.grossCents }

/-- The request of a line that names a source line. -/
def requestedSourceLine (line : InvoiceDraftLineRow) : Option RequestedCreditLine :=
  line.sourceInvoiceLineId.map fun id => ⟨id, line.quantityHundredths⟩

/-- The lines of a draft that the user wrote by hand. -/
def manualLines (lines : List InvoiceDraftLineRow) : List InvoiceDraftLineRow :=
  lines.filter fun line => line.sourceInvoiceLineId = none

/-- A manual line without VAT. -/
def toReverseChargeManualLine (line : InvoiceDraftLineRow) :
    Checked RequestedReverseChargeManualCreditLine := do
  throwIf (line.vatRateBasisPoints ≠ none)
    (.approveDraft "Reverse charge credit invoice line cannot contain a VAT rate.")
  pure ⟨line.id, line.quantityHundredths, line.unitPriceCents⟩

/-- A manual line with VAT. -/
def toNormalVatManualLine (line : InvoiceDraftLineRow) :
    Checked RequestedManualCreditLine := do
  let vatRateBasisPoints ← orThrow line.vatRateBasisPoints
    (.approveDraft "Normal VAT credit invoice line requires a VAT rate.")
  pure ⟨line.id, line.quantityHundredths, line.unitPriceCents, vatRateBasisPoints⟩

/-- A line of a normal VAT credit, as a line that may be without a rate. -/
def toCreditDraftLine (line : CalculatedNormalCreditDraftLine) :
    CalculatedCreditDraftLine where
  lineKey := line.lineKey
  sourceInvoiceLineId := line.sourceInvoiceLineId
  quantityHundredths := line.quantityHundredths
  unitPriceCents := line.unitPriceCents
  priceInputMode := line.priceInputMode
  vatRateBasisPoints := some line.vatRateBasisPoints
  baseCents := line.baseCents
  discountCents := line.discountCents
  netCents := line.netCents
  vatCents := line.vatCents
  grossCents := line.grossCents

section Collation

variable (localeCompare : String → String → Int)

/-- The credit draft, calculated again. -/
def calculateCreditDraftForApproval (sourceInvoice : InvoiceContentRevisionRow)
    (sourceLines : List InvoiceRevisionLineRow)
    (previousAllocations : List InvoiceCreditAllocation)
    (draftLines : List InvoiceDraftLineRow) : Checked CalculatedCreditDraft :=
  let requestedSourceLines := draftLines.filterMap requestedSourceLine
  match sourceInvoice.taxTreatment with
  | .reverseChargeConstruction => do
      let sources ← toReverseChargeSourceLines sourceInvoice sourceLines
      let allocations ← previousAllocations.mapM toReverseChargePreviousAllocation
      let manual ← (manualLines draftLines).mapM toReverseChargeManualLine
      calculateReverseChargeCreditInvoiceDraft sources allocations requestedSourceLines manual
  | .normalVat => do
      let sources ← sourceLines.mapM (toNormalVatSourceLine sourceInvoice.priceInputMode)
      let allocations ← previousAllocations.mapM toNormalVatPreviousAllocation
      let manual ← (manualLines draftLines).mapM toNormalVatManualLine
      let calculated ← calculateCreditInvoiceDraft localeCompare sources allocations
        requestedSourceLines manual
      pure ⟨calculated.lines.map toCreditDraftLine, calculated.totals⟩

/-- Draft and credited invoice have one tax treatment. -/
def hasMatchingTaxTreatment (draft : InvoiceDraftRow)
    (sourceInvoice : InvoiceContentRevisionRow) : Prop :=
  draft.taxTreatment = sourceInvoice.taxTreatment
    ∧ draft.priceInputMode = sourceInvoice.priceInputMode
    ∧ draft.performanceDate = sourceInvoice.performanceDate
    ∧ draft.performancePeriodStart = sourceInvoice.performancePeriodStart
    ∧ draft.performancePeriodEnd = sourceInvoice.performancePeriodEnd

instance (draft : InvoiceDraftRow) (sourceInvoice : InvoiceContentRevisionRow) :
    Decidable (hasMatchingTaxTreatment draft sourceInvoice) :=
  inferInstanceAs (Decidable (_ ∧ _))

/-- The columns of a credited line: its own cents, and the price of the source line or
    of the draft line. -/
def creditLineColumns (price : LineColumns) (calculated : CalculatedCreditDraftLine) :
    LineColumns where
  quantityHundredths := calculated.quantityHundredths
  unitPriceCents := price.unitPriceCents
  vatRateBasisPoints := price.vatRateBasisPoints
  discountType := price.discountType
  discountValue := price.discountValue
  baseCents := calculated.baseCents
  discountCents := calculated.discountCents
  netCents := calculated.netCents
  vatCents := calculated.vatCents
  grossCents := calculated.grossCents

/-- The error of a line that fits no calculated one. -/
def sourceLineError : InvoiceError :=
  .approveDraft "Credit invoice draft source line is invalid."

/-- The line of the credit invoice for a line of the draft. -/
def createCreditInvoiceLineRow (sourceById : OrderedMap String InvoiceRevisionLineRow)
    (calculatedBySourceId calculatedManualByDraftLineId :
      OrderedMap String CalculatedCreditDraftLine)
    (draftLine : InvoiceDraftLineRow) : Checked InvoiceLineRow :=
  match draftLine.sourceInvoiceLineId with
  | none => do
      let calculated ← orThrow (calculatedManualByDraftLineId.get? draftLine.id)
        sourceLineError
      pure {
        toLineColumns := creditLineColumns { draftLine.toLineColumns with
          discountType := .none, discountValue := 0 } calculated
        id := draftLine.id
        sourceInvoiceLineId := none
        lineOrder := draftLine.position }
  | some sourceLineId => do
      let calculated ← orThrow (calculatedBySourceId.get? sourceLineId) sourceLineError
      let sourceLine ← orThrow (sourceById.get? sourceLineId) sourceLineError
      pure {
        toLineColumns := creditLineColumns { sourceLine.toLineColumns with
          vatRateBasisPoints :=
            sourceLine.vatRateBasisPoints <|> draftLine.vatRateBasisPoints } calculated
        id := draftLine.id
        sourceInvoiceLineId := some sourceLineId
        lineOrder := draftLine.position }

/-- The calculated lines by source line. -/
def bySourceId (lines : List CalculatedCreditDraftLine) :
    OrderedMap String CalculatedCreditDraftLine :=
  ofList (lines.filterMap fun line => line.sourceInvoiceLineId.map fun id => (id, line))

/-- The calculated manual lines by key. -/
def manualByKey (lines : List CalculatedCreditDraftLine) :
    OrderedMap String CalculatedCreditDraftLine :=
  ofList ((lines.filter fun line => line.sourceInvoiceLineId = none).map fun line =>
    (line.lineKey, line))

/-- All lines of the credit invoice. -/
def createCreditInvoiceLineRows (draftLines : List InvoiceDraftLineRow)
    (sourceLines : List InvoiceRevisionLineRow)
    (calculatedLines : List CalculatedCreditDraftLine) : Checked (List InvoiceLineRow) :=
  draftLines.mapM (createCreditInvoiceLineRow
    (ofList (sourceLines.map fun line => (line.lineId, line)))
    (bySourceId calculatedLines) (manualByKey calculatedLines))

/-- `source` is the credited revision, when the invoice is a sent standard invoice. -/
def approveCreditDraft (draft : InvoiceDraftRow)
    (source : Option (InvoiceContentRevisionRow × List InvoiceRevisionLineRow))
    (draftLines : InvoiceDraftLines) (previousAllocations : List InvoiceCreditAllocation) :
    Approval IssuedInvoice := do
  throwIf (draft.invoiceKind ≠ .credit ∨ draft.creditedInvoiceId = none
    ∨ draft.approvedInvoiceId ≠ none) .notFound
  let (sourceInvoice, sourceLines) ← orThrow source .conflict
  throwIf (¬ hasMatchingTaxTreatment draft sourceInvoice) .conflict
  throwIf (draftLines.rows.length = 0) .conflict
  let calculated ← fromChecked (calculateCreditDraftForApproval localeCompare sourceInvoice
    sourceLines previousAllocations draftLines.rows)
  let lineRows ← fromChecked (createCreditInvoiceLineRows draftLines.rows sourceLines
    calculated.lines)
  insertInvoiceLines sourceInvoice.taxTreatment lineRows
  pure ⟨.credit, sourceInvoice.priceInputMode, sourceInvoice.taxTreatment, calculated.totals,
    lineRows⟩

end Collation

/-! ## What is promoted -/

/-- The snapshot of an issued invoice that has no revision yet. -/
def legacySnapshot (invoice : IssuedInvoice) : LegacyRevisionTotalsInput where
  origin := .legacySnapshot
  vatBreakdownState := .unavailable
  vatBreakdown := none
  invoiceKind := invoice.invoiceKind
  priceInputMode := invoice.priceInputMode
  taxTreatment := invoice.taxTreatment
  totalNetCents := invoice.totals.netTotalCents
  totalVatCents := invoice.totals.vatTotalCents
  totalGrossCents := invoice.totals.grossTotalCents
  lines := invoice.lines.map (·.toLineColumns)

end InvoiceApproval
