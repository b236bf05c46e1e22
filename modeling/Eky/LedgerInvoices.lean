import Eky.InvoiceLedger

/-! # The ledger's drafts and invoices

    Drafts are saved, changed and deleted until they are approved.  An approval takes the
    next number and publishes a content revision.  An approved standard invoice can be
    reopened and approved again, an approved invoice can be cancelled, and a sent standard
    invoice is marked paid and credited. -/

namespace InvoiceLedger.Ledger

open Fallible AsciiLines InvoiceNumbering LegacyRevision OrderedMap
open InvoiceMoney (PriceInputMode)
open InvoiceForm (InvoiceTaxTreatment InvoiceDraftInput InvoicePerformancePeriod)
open InvoiceApproval (InvoiceDraftRow InvoiceDraftLineRow InvoiceDraftLines InvoiceLineRow
  InvoiceRevisionLineRow InvoiceContentRevisionRow IssuedInvoice prepareInvoiceDraftContent
  toInvoiceDraftLineRows)
open InvoiceReferenceNumber (createFinnishDomesticReferenceNumber)
open CreditInvoice (IsIdentifier)
open CreditDraftModel (InvoiceCreditAllocation)

/-! ## Standard drafts -/

/-- A performance period as it is stored. -/
structure InvoicePerformancePeriodColumns where
  performanceDate : Option String
  performancePeriodStart : Option String
  performancePeriodEnd : Option String
  deriving DecidableEq

/-- The columns of a performance period. -/
def toInvoicePerformancePeriodColumns :
    InvoicePerformancePeriod → InvoicePerformancePeriodColumns
  | .singleDate date => ⟨some date, none, none⟩
  | .dateRange startDate endDate => ⟨none, some startDate, some endDate⟩
  | .invoiceDate => ⟨none, none, none⟩

/-- The lines, whose ids must differ. -/
def insertDraftLines (rows : List InvoiceDraftLineRow) : Transaction InvoiceDraftLines :=
  if h : (rows.map (·.id)).Nodup then pure ⟨rows, h⟩
  else throw (.aborted "UNIQUE constraint failed: invoice_draft_lines.id")

/-- A request to save or change a standard draft.  The lines are an array, and each is
    given an id by `randomUUID`. -/
structure SaveInvoiceDraft where
  draftId : String
  input : InvoiceDraftInput
  randomUUID : Nat → String
  arrayLength : input.lines.length < 2 ^ 32
  identifiers : ∀ index, IsIdentifier (randomUUID index)

/-- The draft that a request asks for. -/
def toInvoiceDraft (request : SaveInvoiceDraft) : Transaction InvoiceDraft := do
  let content ← (prepareInvoiceDraftContent request.randomUUID request.input).mapError .invoice
  let lines ← insertDraftLines (toInvoiceDraftLineRows content)
  let period := toInvoicePerformancePeriodColumns request.input.performancePeriod
  pure {
    invoiceKind := .standard
    creditedInvoiceId := none
    approvedInvoiceId := none
    priceInputMode := content.priceInputMode
    taxTreatment := content.taxTreatment
    performanceDate := period.performanceDate
    performancePeriodStart := period.performancePeriodStart
    performancePeriodEnd := period.performancePeriodEnd
    invoiceDate := request.input.invoiceDate.toList
    lines }

/-- Stores a new draft. -/
def saveDraft (s : Ledger) (draftId : String) (draft : InvoiceDraft) : Transaction Ledger := do
  throwIf ((s.drafts.get? draftId).isSome)
    (.aborted "UNIQUE constraint failed: invoice_drafts.id")
  pure { s with drafts := s.drafts.set draftId draft }

/-- A request to save a draft. -/
def saveInvoiceDraft (s : Ledger) (request : SaveInvoiceDraft) : Transaction Ledger := do
  let draft ← toInvoiceDraft request
  s.saveDraft request.draftId draft

/-- A draft that is not approved. -/
def getEditableDraft (s : Ledger) (draftId : String) : Option InvoiceDraft :=
  (s.drafts.get? draftId).filter (·.approvedInvoiceId = none)

/-- A request to change a draft. -/
def updateInvoiceDraft (s : Ledger) (request : SaveInvoiceDraft) : Transaction Ledger := do
  let existingDraft ← orThrow (s.getEditableDraft request.draftId) .notFound
  throwIf (existingDraft.invoiceKind ≠ .standard) (.invoice
    (.draftValidation "Credit invoice drafts use the credit correction workflow."))
  let draft ← toInvoiceDraft request
  pure { s with
    drafts := s.drafts.set request.draftId
      { draft with creditedInvoiceId := existingDraft.creditedInvoiceId } }

/-- A request to delete a draft. -/
def deleteInvoiceDraft (s : Ledger) (draftId : String) : Transaction Ledger := do
  throwIf (s.getEditableDraft draftId).isNone .notFound
  -- the draft of a reopened invoice stays
  throwIf (∃ e ∈ s.invoices.entries, e.2.sourceDraftId = draftId)
    (.aborted "FOREIGN KEY constraint failed")
  pure { s with drafts := s.drafts.erase draftId }

/-! ## Credit drafts -/

/-- What the application made of the invoice and the credits it read before the
    transaction. -/
structure CreditDraftContent where
  priceInputMode : PriceInputMode
  taxTreatment : InvoiceTaxTreatment
  period : InvoicePerformancePeriodColumns
  invoiceDate : Text
  lines : InvoiceDraftLines

/-- The draft of a credit. -/
def toCreditDraft (sourceInvoiceId : String) (content : CreditDraftContent) : InvoiceDraft where
  invoiceKind := .credit
  creditedInvoiceId := some sourceInvoiceId
  approvedInvoiceId := none
  priceInputMode := content.priceInputMode
  taxTreatment := content.taxTreatment
  performanceDate := content.period.performanceDate
  performancePeriodStart := content.period.performancePeriodStart
  performancePeriodEnd := content.period.performancePeriodEnd
  invoiceDate := content.invoiceDate
  lines := content.lines

/-- A sent standard invoice. -/
def IsCreditable (s : Ledger) (invoiceId : String) : Prop :=
  ∃ invoice ∈ s.invoices.get? invoiceId, invoice.invoiceKind = .standard
    ∧ invoice.status = .sent

instance (s : Ledger) (invoiceId : String) : Decidable (s.IsCreditable invoiceId) :=
  inferInstanceAs (Decidable (∃ invoice ∈ _, _))

/-- An open credit draft of an invoice. -/
def HasActiveCreditDraft (s : Ledger) (sourceInvoiceId : String) : Prop :=
  ∃ e ∈ s.drafts.entries, e.2.invoiceKind = .credit
    ∧ e.2.creditedInvoiceId = some sourceInvoiceId ∧ e.2.approvedInvoiceId = none

instance (s : Ledger) (sourceInvoiceId : String) :
    Decidable (s.HasActiveCreditDraft sourceInvoiceId) :=
  inferInstanceAs (Decidable (∃ e ∈ _, _))

/-- A request for a credit draft. -/
def createCreditDraft (s : Ledger) (draftId sourceInvoiceId : String)
    (content : CreditDraftContent) : Transaction Ledger :=
  if s.HasActiveCreditDraft sourceInvoiceId then pure s
  else if ¬ s.IsCreditable sourceInvoiceId then throw .notEligible
  else s.saveDraft draftId (toCreditDraft sourceInvoiceId content)

/-- A request to change a credit draft. -/
def updateCreditInvoiceDraft (s : Ledger) (draftId : String) (content : CreditDraftContent) :
    Transaction Ledger := do
  let existingDraft ← orThrow (s.getEditableDraft draftId) .notFound
  throwIf (existingDraft.invoiceKind ≠ .credit) .notFound
  let sourceInvoiceId ← orThrow existingDraft.creditedInvoiceId .notFound
  throwIf (¬ s.IsCreditable sourceInvoiceId) .notFound
  pure { s with drafts := s.drafts.set draftId (toCreditDraft sourceInvoiceId content) }

/-! ## Approving a standard draft -/

/-- `isReady` and `isEligible` are what the snapshots of the company and the customer
    say. -/
structure ApproveInvoiceDraft where
  draftId : String
  invoiceId : String
  revisionId : String
  approvedAt : String
  reverseChargeEligibilityConfirmed : Bool
  isReady : Bool
  isEligible : Bool
  deriving DecidableEq

/-- The parts that an approval copies are there. -/
def requireSnapshot (draft : InvoiceDraft) (input : ApproveInvoiceDraft) :
    Transaction Unit := do
  throwIf (¬ input.isReady) (.invoice (.approveDraft "Invoice information is incomplete."))
  throwIf (draft.taxTreatment = .reverseChargeConstruction ∧ ¬ input.isEligible)
    (.invoice (.approveDraft "Reverse charge invoice customer is not eligible."))

/-- The revision that is credited. -/
structure InvoiceRevisionCreditSource where
  invoiceId : String
  revisionId : String
  deriving DecidableEq

/-- The line of a revision. -/
def createInvoiceRevisionLineRow (line : InvoiceLineRow) : InvoiceRevisionLineRow where
  toLineColumns := line.toLineColumns
  lineId := line.id
  lineOrder := line.lineOrder

/-- The revision of an invoice. -/
def createInvoiceContentRevisionRow (invoiceId : String) (invoice : Invoice)
    (source : Option InvoiceRevisionCreditSource) : InvoiceContentRevision where
  priceInputMode := invoice.priceInputMode
  taxTreatment := invoice.taxTreatment
  performanceDate := invoice.performanceDate
  performancePeriodStart := invoice.performancePeriodStart
  performancePeriodEnd := invoice.performancePeriodEnd
  invoiceId := invoiceId
  origin := .approval
  invoiceKind := invoice.invoiceKind
  creditedInvoiceId := source.map (·.invoiceId)
  creditedRevisionId := source.map (·.revisionId)
  totals := invoice.totals
  lines := invoice.lines.map createInvoiceRevisionLineRow

/-- The keys of the table `invoices`. -/
def guardInvoice (s : Ledger) (invoiceId : String) (invoice : Invoice) : Transaction Unit := do
  throwIf ((s.invoices.get? invoiceId).isSome) (.aborted "UNIQUE constraint failed: invoices.id")
  throwIf (∃ e ∈ s.invoices.entries, e.2.invoiceNumber = invoice.invoiceNumber)
    (.aborted "UNIQUE constraint failed: invoices.company_id, invoices.invoice_number")
  throwIf (∃ e ∈ s.invoices.entries, e.2.sourceDraftId = invoice.sourceDraftId)
    (.aborted "UNIQUE constraint failed: invoices.company_id, invoices.source_draft_id")
  throwIf (invoice.referenceNumber ≠ none
      ∧ ∃ e ∈ s.invoices.entries, e.2.referenceNumber = invoice.referenceNumber)
    (.aborted "UNIQUE constraint failed: invoices.company_id, invoices.reference_number")

/-- The rows that an approval of a new invoice writes. -/
def issueInvoice (s : Ledger) (invoiceId revisionId : String) (invoice : Invoice)
    (draft : InvoiceDraft) (source : Option InvoiceRevisionCreditSource) :
    Transaction Ledger := do
  s.guardInvoice invoiceId invoice
  throwIf ((s.revisions.get? revisionId).isSome) (.aborted "REVISION_IMMUTABLE")
  pure { s with
    numberSequences := s.numberSequences.set (invoice.seriesKey, invoice.sequenceScope)
      invoice.sequenceNumber
    invoices := s.invoices.set invoiceId { invoice with currentRevisionId := some revisionId }
    revisions := s.revisions.set revisionId
      (createInvoiceContentRevisionRow invoiceId invoice source)
    drafts := s.drafts.set invoice.sourceDraftId
      { draft with approvedInvoiceId := some invoiceId } }

/-- Takes a number and stores invoice and revision. -/
def approveNewDraft (s : Ledger) (input : ApproveInvoiceDraft) (draft : InvoiceDraft)
    (issued : IssuedInvoice) : Transaction Ledger := do
  let number ← s.nextInvoiceNumber draft.invoiceDate
  let referenceNumber ←
    fromNumbering (createFinnishDomesticReferenceNumber number.invoiceNumber)
  requireSnapshot draft input
  s.issueInvoice input.invoiceId input.revisionId {
    toIssuedInvoice := issued
    sourceDraftId := input.draftId
    creditedInvoiceId := none
    invoiceNumber := number.invoiceNumber
    referenceNumber := some referenceNumber
    seriesKey := number.seriesKey
    sequenceScope := number.sequenceScope
    sequenceNumber := number.sequenceNumber
    status := .approved
    performanceDate := draft.performanceDate
    performancePeriodStart := draft.performancePeriodStart
    performancePeriodEnd := draft.performancePeriodEnd
    approvedAt := input.approvedAt
    payment := none
    currentRevisionId := none } draft none

/-- The invoice of an unlocked draft. -/
def getReopenedInvoiceForDraft (s : Ledger) (draftId : String) : Option (String × Invoice) :=
  s.invoices.entries.find? fun e => e.2.sourceDraftId = draftId
    ∧ e.2.status = .reopenedForEdit ∧ e.2.invoiceKind = .standard
    ∧ e.2.creditedInvoiceId = none

/-- An invoice keeps its number and everything that belongs to it. -/
def reapproveDraft (s : Ledger) (input : ApproveInvoiceDraft) (draft : InvoiceDraft)
    (issued : IssuedInvoice) (invoiceId : String) (reopenedInvoice : Invoice) :
    Transaction Ledger := do
  throwIf (s.HasUnresolvedDelivery invoiceId) .deliveryConflict
  requireSnapshot draft input
  throwIf ((s.revisions.get? input.revisionId).isSome) (.aborted "REVISION_IMMUTABLE")
  let invoice := { reopenedInvoice with
    toIssuedInvoice := issued
    status := .approved
    performanceDate := draft.performanceDate
    performancePeriodStart := draft.performancePeriodStart
    performancePeriodEnd := draft.performancePeriodEnd
    approvedAt := input.approvedAt
    currentRevisionId := some input.revisionId }
  pure { s with
    invoices := s.invoices.set invoiceId invoice
    revisions := s.revisions.set input.revisionId
      (createInvoiceContentRevisionRow invoiceId invoice none)
    drafts := s.drafts.set input.draftId { draft with approvedInvoiceId := some invoiceId } }

/-- A request to approve a draft. -/
def approveInvoiceDraft (s : Ledger) (input : ApproveInvoiceDraft) : Transaction Ledger := do
  let draft ← orThrow (s.drafts.get? input.draftId) .notFound
  let issued ← fromApproval (InvoiceApproval.approveDraft draft.toInvoiceDraftRow
    draft.lines.rows input.reverseChargeEligibilityConfirmed)
  match s.getReopenedInvoiceForDraft input.draftId with
  | none => s.approveNewDraft input draft issued
  | some reopened => s.reapproveDraft input draft issued reopened.1 reopened.2

/-! ## Approving a credit draft -/

/-- What a stored credit line has taken. -/
def toInvoiceCreditAllocation (credit : Invoice) (line : InvoiceLineRow) :
    InvoiceCreditAllocation where
  sourceInvoiceLineId := line.sourceInvoiceLineId
  quantityHundredths := line.quantityHundredths
  priceInputMode := credit.priceInputMode
  vatRateBasisPoints := line.vatRateBasisPoints
  baseCents := line.baseCents
  discountCents := line.discountCents
  netCents := line.netCents
  vatCents := line.vatCents
  grossCents := line.grossCents

/-- The credits of an invoice in the order of the table, cancelled ones among them. -/
def creditsOf (s : Ledger) (sourceInvoiceId : String) : List (String × Invoice) :=
  s.invoices.entries.filter fun e => e.2.invoiceKind = .credit
    ∧ e.2.creditedInvoiceId = some sourceInvoiceId

/-- `ORDER BY approved_at, id` -/
def ApprovedBefore (first second : String × Invoice) : Prop :=
  first.2.approvedAt < second.2.approvedAt
    ∨ first.2.approvedAt = second.2.approvedAt ∧ first.1 ≤ second.1

instance : DecidableRel ApprovedBefore :=
  fun _ _ => inferInstanceAs (Decidable (_ ∨ _ ∧ _))

/-- What the credits of an invoice have taken. -/
def getPreviousAllocations (s : Ledger) (sourceInvoiceId : String) :
    List InvoiceCreditAllocation :=
  (((s.creditsOf sourceInvoiceId).filter (·.2.status ≠ .cancelled)).insertionSort
    ApprovedBefore).flatMap fun e => e.2.lines.map (toInvoiceCreditAllocation e.2)

/-- The revision of a creditable invoice, with its id. -/
def readCreditInvoiceRevisionSource (s : Ledger) (invoiceId : String) :
    Transaction (Option (String × InvoiceContentRevision)) :=
  if ¬ s.IsCreditable invoiceId then pure none
  else do
    let source ← orThrow (s.currentRevision invoiceId) (.invoice
      (.approveDraft "Credit source revision is unavailable or inconsistent."))
    throwIf (source.2.invoiceKind ≠ .standard ∨ source.2.creditedInvoiceId ≠ none)
      (.invoice (.approveDraft "Credit source revision is unavailable or inconsistent."))
    throwIf (source.2.lines.length = 0)
      (.invoice (.approveDraft "Credit source revision has no lines."))
    pure (some source)

/-- A request to approve a credit draft. -/
structure ApproveCreditInvoiceDraft where
  draftId : String
  invoiceId : String
  revisionId : String
  approvedAt : String
  deriving DecidableEq

/-- Approves a credit draft. -/
def approveCreditInvoiceDraft (localeCompare : String → String → Int) (s : Ledger)
    (input : ApproveCreditInvoiceDraft) : Transaction Ledger := do
  let draft ← orThrow (s.drafts.get? input.draftId) .notFound
  let sourceInvoiceId ← orThrow draft.creditedInvoiceId .notFound
  throwIf (draft.invoiceKind ≠ .credit ∨ draft.approvedInvoiceId ≠ none) .notFound
  let found ← s.readCreditInvoiceRevisionSource sourceInvoiceId
  let source ← orThrow found .conflict
  let issued ← fromApproval (InvoiceApproval.approveCreditDraft localeCompare
    draft.toInvoiceDraftRow (some (source.2.toInvoiceContentRevisionRow, source.2.lines))
    draft.lines (s.getPreviousAllocations sourceInvoiceId))
  let number ← s.nextInvoiceNumber draft.invoiceDate
  s.issueInvoice input.invoiceId input.revisionId {
    toIssuedInvoice := issued
    sourceDraftId := input.draftId
    creditedInvoiceId := some sourceInvoiceId
    invoiceNumber := number.invoiceNumber
    referenceNumber := none
    seriesKey := number.seriesKey
    sequenceScope := number.sequenceScope
    sequenceNumber := number.sequenceNumber
    status := .approved
    performanceDate := source.2.performanceDate
    performancePeriodStart := source.2.performancePeriodStart
    performancePeriodEnd := source.2.performancePeriodEnd
    approvedAt := input.approvedAt
    payment := none
    currentRevisionId := none } draft (some ⟨sourceInvoiceId, source.1⟩)

/-! ## Corrections -/

/-- The revision stays, but it is no longer the current one. -/
def reopenApprovedInvoiceForEditing (s : Ledger) (invoiceId : String) : Transaction Ledger := do
  let invoice ← orThrow (s.invoices.get? invoiceId) .notFound
  throwIf (invoice.status ≠ .approved ∨ invoice.invoiceKind ≠ .standard
    ∨ invoice.creditedInvoiceId ≠ none) .notFound
  throwIf (s.RequiresLegacyDeliveryReview invoiceId) .legacyDeliveryReviewRequired
  throwIf (s.HasUnresolvedDelivery invoiceId) .deliveryConflict
  let unlockError : Refusal := .invoice
    (.approveDraft "Approved invoice source draft could not be reopened for editing.")
  let draft ← orThrow (s.drafts.get? invoice.sourceDraftId) unlockError
  throwIf (draft.approvedInvoiceId ≠ some invoiceId) unlockError
  pure { s with
    invoices := s.invoices.set invoiceId { invoice with
      status := .reopenedForEdit, currentRevisionId := none }
    drafts := s.drafts.set invoice.sourceDraftId { draft with approvedInvoiceId := none } }

/-- A delivery that forbids a cancellation. -/
def HasBlockingDeliveryEvent (s : Ledger) (invoiceId : String) : Prop :=
  ∃ e ∈ s.deliveryEventsOf invoiceId, e.status = .attempted ∨ e.status = .outcomeUnknown
    ∨ e.status = .succeeded

instance (s : Ledger) (invoiceId : String) :
    Decidable (s.HasBlockingDeliveryEvent invoiceId) :=
  inferInstanceAs (Decidable (∃ e ∈ _, _))

/-- A request to cancel an invoice. -/
def cancelApprovedInvoice (s : Ledger) (invoiceId : String)
    (confirmationInvoiceNumber : Text) : Transaction Ledger := do
  let invoice ← orThrow (s.invoices.get? invoiceId) .notFound
  throwIf (invoice.status ≠ .approved) .notCancellable
  throwIf (invoice.invoiceNumber ≠ confirmationInvoiceNumber) .confirmationMismatch
  throwIf (s.HasBlockingDeliveryEvent invoiceId) .deliveryConflict
  pure { s with invoices := s.invoices.set invoiceId { invoice with status := .cancelled } }

/-! ## Payments -/

/-- What the credits of an invoice amount to. -/
def getCreditedGrossCents (s : Ledger) (invoiceId : String) : Int :=
  (((s.creditsOf invoiceId).filter fun e => e.2.status = .approved ∨ e.2.status = .sent).map
    (·.2.totals.grossTotalCents)).sum

/-- `UPDATE invoices` together with the event of the payment. -/
def recordPayment (s : Ledger) (invoiceId : String) (invoice : Invoice)
    (payment : Option InvoicePayment) (event : InvoicePaymentEvent) : Transaction Ledger := do
  throwIf (∃ e ∈ s.paymentEvents, e.id = event.id)
    (.aborted "UNIQUE constraint failed: invoice_payment_events.id")
  pure { s with
    invoices := s.invoices.set invoiceId { invoice with payment }
    paymentEvents := s.paymentEvents ++ [event] }

/-- A request to mark an invoice as paid. -/
def markInvoicePaid (s : Ledger) (invoiceId paidOn eventId : String) : Transaction Ledger := do
  let invoice ← orThrow (s.invoices.get? invoiceId) .notFound
  throwIf (invoice.invoiceKind ≠ .standard ∨ invoice.status ≠ .sent) .conflict
  match invoice.payment with
  | some payment => if payment.paidOn = paidOn then pure s else throw .conflict
  | none => do
      let paidAmountCents := invoice.totals.grossTotalCents - s.getCreditedGrossCents invoiceId
      throwIf (paidAmountCents ≤ 0) .notPayable
      s.recordPayment invoiceId invoice (some ⟨paidOn, paidAmountCents⟩)
        ⟨eventId, invoiceId, .paymentMarkedPaid, paidOn, paidAmountCents⟩

/-- A request to take the mark back. -/
def revertInvoicePaidMark (s : Ledger) (invoiceId eventId : String) : Transaction Ledger := do
  let invoice ← orThrow (s.invoices.get? invoiceId) .notFound
  throwIf (invoice.invoiceKind ≠ .standard ∨ invoice.status ≠ .sent) .conflict
  match invoice.payment with
  | none => pure s
  | some payment =>
      s.recordPayment invoiceId invoice none
        ⟨eventId, invoiceId, .paymentMarkReverted, payment.paidOn, payment.paidAmountCents⟩

end InvoiceLedger.Ledger
