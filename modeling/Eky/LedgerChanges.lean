import Eky.LedgerDeliveries
import Eky.DocumentStoragePath
import Eky.TransitionSystem

/-! # Requests to the ledger, and what they change

    `Request` is what can be asked of the ledger and `execute` runs one request.  `Change`
    says once what a request can write and what it has checked before
    (`change_of_execute`); every invariant of the ledger is proved by cases on it. -/

namespace InvoiceLedger

open Fallible AsciiLines InvoiceNumbering LegacyRevision OrderedMap
open InvoiceReferenceNumber (createFinnishDomesticReferenceNumber)
open InvoiceApproval (legacySnapshot)
open SafeSequenceNumber (calculateMinimumSafeInvoiceSequenceNumber
  validateInvoiceNumberingSeriesFirstSequenceNumber MinimumSafeInvoiceSequenceNumberResult)

/-- What can be asked of the ledger: the writing methods of the repositories that production
    code calls.  Three more have no such caller and are left out: `markApprovedInvoiceSent` of
    the approval repository (an invoice becomes sent through its delivery), and
    `reserveInvoiceNumber` with its `saveSequence` (an approval takes the number itself). -/
inductive Request
  | updateInvoiceNumberingSettings (nextSettings : InvoiceNumberingSettings)
      (currentSettings : Option InvoiceNumberingSettings) (hasUsedNumbering : Bool)
  | activate (input : Ledger.ActivateInvoiceNumberingSeries)
  | saveInvoiceDraft (request : Ledger.SaveInvoiceDraft)
  | updateInvoiceDraft (request : Ledger.SaveInvoiceDraft)
  | deleteInvoiceDraft (draftId : String)
  | createCreditDraft (draftId sourceInvoiceId : String) (content : Ledger.CreditDraftContent)
  | updateCreditInvoiceDraft (draftId : String) (content : Ledger.CreditDraftContent)
  | approveInvoiceDraft (input : Ledger.ApproveInvoiceDraft)
  | approveCreditInvoiceDraft (input : Ledger.ApproveCreditInvoiceDraft)
  | reopenApprovedInvoiceForEditing (invoiceId : String)
  | cancelApprovedInvoice (invoiceId : String) (confirmationInvoiceNumber : Text)
  | markInvoicePaid (invoiceId paidOn eventId : String)
  | revertInvoicePaidMark (invoiceId eventId : String)
  | publishDocumentIfCurrent (invoiceId revisionId : String)
      (candidate : Ledger.InvoiceDocumentCandidate)
  | publishPreservedLegacyDocument (input : Ledger.PublishPreservedLegacyDocument)
  | reserveInvoiceEmailDelivery (reservation : InvoiceDeliveryReservation)
  | completeReservedInvoiceEmailDelivery (reservation : InvoiceDeliveryReservation)
      (outcome : DeliveryOutcome) (customerSuccess : Bool)
  | completeManualDelivery (target : InvoiceDeliveryTarget) (deliveryMethod : DeliveryMethod)
      (deliveryEventId : String)
  | saveDeliveryEvent (target : InvoiceDeliveryTarget) (eventId : String)
      (outcome : DeliveryOutcome)
  | promoteLegacyRevisionIfCurrent (invoiceId expectedRevisionId revisionId : String)

variable {reservation : InvoiceDeliveryReservation}
  {draftId invoiceId eventId revisionId : String} {input : ApproveInvoiceDraft}
  {request : SaveInvoiceDraft} {target : InvoiceDeliveryTarget} {event : InvoiceDeliveryEvent}
  {draft : InvoiceDraft} {content : CreditDraftContent} {outcome : DeliveryOutcome}
  {invoice : Invoice} {customerSuccess : Bool}

namespace Ledger

variable (storagePath : String → String → Option String)
variable (localeCompare : String → String → Int)

/-- What a request does. -/
def execute (s : Ledger) : Request → Transaction Ledger
  | .updateInvoiceNumberingSettings nextSettings currentSettings hasUsedNumbering =>
      s.updateInvoiceNumberingSettings nextSettings currentSettings hasUsedNumbering
  | .activate input => s.activate input
  | .saveInvoiceDraft request => s.saveInvoiceDraft request
  | .updateInvoiceDraft request => s.updateInvoiceDraft request
  | .deleteInvoiceDraft draftId => s.deleteInvoiceDraft draftId
  | .createCreditDraft draftId sourceInvoiceId content =>
      s.createCreditDraft draftId sourceInvoiceId content
  | .updateCreditInvoiceDraft draftId content => s.updateCreditInvoiceDraft draftId content
  | .approveInvoiceDraft input => s.approveInvoiceDraft input
  | .approveCreditInvoiceDraft input => s.approveCreditInvoiceDraft localeCompare input
  | .reopenApprovedInvoiceForEditing invoiceId => s.reopenApprovedInvoiceForEditing invoiceId
  | .cancelApprovedInvoice invoiceId confirmationInvoiceNumber =>
      s.cancelApprovedInvoice invoiceId confirmationInvoiceNumber
  | .markInvoicePaid invoiceId paidOn eventId => s.markInvoicePaid invoiceId paidOn eventId
  | .revertInvoicePaidMark invoiceId eventId => s.revertInvoicePaidMark invoiceId eventId
  | .publishDocumentIfCurrent invoiceId revisionId candidate =>
      s.publishDocumentIfCurrent storagePath invoiceId revisionId candidate
  | .publishPreservedLegacyDocument input =>
      s.publishPreservedLegacyDocument storagePath input
  | .reserveInvoiceEmailDelivery reservation =>
      s.reserveInvoiceEmailDelivery storagePath reservation
  | .completeReservedInvoiceEmailDelivery reservation outcome customerSuccess =>
      s.completeReservedInvoiceEmailDelivery storagePath reservation
        outcome customerSuccess
  | .completeManualDelivery target deliveryMethod deliveryEventId =>
      s.completeManualDelivery storagePath target deliveryMethod
        deliveryEventId
  | .saveDeliveryEvent target eventId outcome =>
      s.saveDeliveryEvent storagePath target eventId outcome
  | .promoteLegacyRevisionIfCurrent invoiceId expectedRevisionId revisionId =>
      s.promoteLegacyRevisionIfCurrent invoiceId expectedRevisionId revisionId

/-- A company from its first tables on.  A request that is refused is no step. -/
def ledgerSystem (initial : Ledger → Prop) : TransitionSystem Ledger where
  initial := initial
  step s t := ∃ request,
    s.execute storagePath localeCompare request = .ok t

/-! ## What is written -/

/-- What an approval has checked before it issues a new invoice. -/
structure Issue (s : Ledger) (invoiceId revisionId : String) (invoice : Invoice)
    (draft : InvoiceDraft) (source : Option InvoiceRevisionCreditSource) : Prop where
  storedDraft : s.drafts.get? invoice.sourceDraftId = some draft
  next : s.nextInvoiceNumber draft.invoiceDate = .ok
    ⟨invoice.seriesKey, invoice.sequenceScope, invoice.sequenceNumber, invoice.invoiceNumber⟩
  newInvoice : s.invoices.get? invoiceId = none
  newNumber : ∀ e ∈ s.invoices.entries, e.2.invoiceNumber ≠ invoice.invoiceNumber
  newDraft : ∀ e ∈ s.invoices.entries, e.2.sourceDraftId ≠ invoice.sourceDraftId
  newReference : invoice.referenceNumber ≠ none →
    ∀ e ∈ s.invoices.entries, e.2.referenceNumber ≠ invoice.referenceNumber
  newRevision : s.revisions.get? revisionId = none
  approved : invoice.status = .approved
  unpaid : invoice.payment = none
  kind :
    ((∃ confirmed, InvoiceApproval.approveDraft draft.toInvoiceDraftRow draft.lines.rows
          confirmed = .ok invoice.toIssuedInvoice)
      ∧ invoice.creditedInvoiceId = none ∧ source = none
      ∧ ∃ reference, invoice.referenceNumber = some reference
        ∧ createFinnishDomesticReferenceNumber invoice.invoiceNumber = .ok reference)
    ∨ ∃ sourceInvoiceId current, s.IsCreditable sourceInvoiceId
      ∧ s.currentRevision sourceInvoiceId = some current
      ∧ InvoiceApproval.approveCreditDraft localeCompare draft.toInvoiceDraftRow
          (some (current.2.toInvoiceContentRevisionRow, current.2.lines)) draft.lines
          (s.getPreviousAllocations sourceInvoiceId) = .ok invoice.toIssuedInvoice
      ∧ invoice.creditedInvoiceId = some sourceInvoiceId
      ∧ source = some ⟨sourceInvoiceId, current.1⟩ ∧ invoice.referenceNumber = none

/-- What it has checked before it approves a reopened invoice again. -/
structure Reapproval (s : Ledger) (draftId invoiceId revisionId : String) (draft : InvoiceDraft)
    (before after : Invoice) : Prop where
  storedDraft : s.drafts.get? draftId = some draft
  storedInvoice : s.invoices.get? invoiceId = some before
  reopened : before.status = .reopenedForEdit
  standard : before.invoiceKind = .standard
  source : before.sourceDraftId = draftId
  resolved : ¬ s.HasUnresolvedDelivery invoiceId
  newRevision : s.revisions.get? revisionId = none
  issued : ∃ confirmed, InvoiceApproval.approveDraft draft.toInvoiceDraftRow draft.lines.rows
    confirmed = .ok after.toIssuedInvoice
  kept : after = { before with
    toIssuedInvoice := after.toIssuedInvoice
    status := .approved
    performanceDate := after.performanceDate
    performancePeriodStart := after.performancePeriodStart
    performancePeriodEnd := after.performancePeriodEnd
    approvedAt := after.approvedAt
    currentRevisionId := some revisionId }

/-- What is recorded about a payment, and what the columns become. -/
inductive Payment (s : Ledger) (invoiceId : String) (invoice : Invoice) :
    Option InvoicePayment → InvoicePaymentEvent → Prop
  | marked {eventId paidOn : String} (hunpaid : invoice.payment = none)
      (hpositive : 0 < invoice.totals.grossTotalCents - s.getCreditedGrossCents invoiceId) :
      Payment s invoiceId invoice
        (some ⟨paidOn, invoice.totals.grossTotalCents - s.getCreditedGrossCents invoiceId⟩)
        ⟨eventId, invoiceId, .paymentMarkedPaid, paidOn,
          invoice.totals.grossTotalCents - s.getCreditedGrossCents invoiceId⟩
  | reverted {eventId : String} {payment : InvoicePayment}
      (hpaid : invoice.payment = some payment) :
      Payment s invoiceId invoice none
        ⟨eventId, invoiceId, .paymentMarkReverted, payment.paidOn, payment.paidAmountCents⟩

/-- The target of a delivery is in the state that the delivery needs. -/
structure Deliverable (s : Ledger) (target : InvoiceDeliveryTarget) (invoice : Invoice) :
    Prop where
  found : s.invoices.get? target.invoiceId = some invoice
  issued : invoice.status = .approved ∨ invoice.status = .sent
  current : s.isCurrentTarget target invoice = true
  reviewed : ¬ s.RequiresLegacyDeliveryReview target.invoiceId
  present : s.readDeliveryTarget storagePath target = .ok true

/-- What a request writes, and what holds when it does. -/
inductive Change (s : Ledger) : Ledger → Prop
  | nothing : Change s s
  | settings {settings : InvoiceNumberingSettings}
      (hvalid : validateInvoiceNumberingSettings settings = .ok ())
      (hunused : s.numberingSettings.get? defaultInvoiceNumberSeriesKey = none
        ∨ ¬ s.SeriesUsed defaultInvoiceNumberSeriesKey) :
      Change s { s with
        numberingSettings := s.numberingSettings.set defaultInvoiceNumberSeriesKey settings
        activeSeries := s.activeSeries <|> some ⟨defaultInvoiceNumberSeriesKey, 1⟩ }
  | activated {input : ActivateInvoiceNumberingSeries}
      {safeStart : MinimumSafeInvoiceSequenceNumberResult}
      (hvalid : validateInvoiceNumberingSettings input.nextSettings = .ok ())
      (hactive : s.activeSeries = some ⟨input.expectedActiveSeriesKey, input.expectedRevision⟩)
      (hnew : s.numberingSettings.get? input.nextSeriesKey = none)
      (hsafe : calculateMinimumSafeInvoiceSequenceNumber s.readExistingInvoiceNumbers
        input.nextSettings.toInvoiceNumberingSeriesCandidate = .ok safeStart)
      (hfirst : validateInvoiceNumberingSeriesFirstSequenceNumber
        input.nextSettings.firstSequenceNumber safeStart = .ok ()) :
      Change s { s with
        numberingSettings := s.numberingSettings.set input.nextSeriesKey input.nextSettings
        activeSeries := some ⟨input.nextSeriesKey, input.expectedRevision + 1⟩
        seriesEvents := s.seriesEvents
          ++ [⟨input.eventId, input.expectedActiveSeriesKey, input.nextSeriesKey⟩] }
  | drafted {draftId : String} {draft : InvoiceDraft} (hopen : draft.approvedInvoiceId = none)
      (hplace : ∀ old, s.drafts.get? draftId = some old → old.approvedInvoiceId = none)
      (hsaved : draft.invoiceKind = .standard → ∃ request saved,
        toInvoiceDraft request = .ok saved
          ∧ draft = { saved with creditedInvoiceId := draft.creditedInvoiceId }) :
      Change s { s with drafts := s.drafts.set draftId draft }
  | discarded {draftId : String}
      (hfree : ∀ e ∈ s.invoices.entries, e.2.sourceDraftId ≠ draftId) :
      Change s { s with drafts := s.drafts.erase draftId }
  | issued {invoiceId revisionId : String} {invoice : Invoice} {draft : InvoiceDraft}
      {source : Option InvoiceRevisionCreditSource}
      (h : Issue localeCompare s invoiceId revisionId invoice draft source) :
      Change s { s with
        numberSequences := s.numberSequences.set (invoice.seriesKey, invoice.sequenceScope)
          invoice.sequenceNumber
        invoices := s.invoices.set invoiceId
          { invoice with currentRevisionId := some revisionId }
        revisions := s.revisions.set revisionId
          (createInvoiceContentRevisionRow invoiceId invoice source)
        drafts := s.drafts.set invoice.sourceDraftId
          { draft with approvedInvoiceId := some invoiceId } }
  | reapproved {draftId invoiceId revisionId : String} {draft : InvoiceDraft}
      {before after : Invoice} (h : Reapproval s draftId invoiceId revisionId draft before after) :
      Change s { s with
        invoices := s.invoices.set invoiceId after
        revisions := s.revisions.set revisionId
          (createInvoiceContentRevisionRow invoiceId after none)
        drafts := s.drafts.set draftId { draft with approvedInvoiceId := some invoiceId } }
  | reopened {invoiceId : String} {invoice : Invoice} {draft : InvoiceDraft}
      (hinvoice : s.invoices.get? invoiceId = some invoice) (happroved : invoice.status = .approved)
      (hstandard : invoice.invoiceKind = .standard) (hcredited : invoice.creditedInvoiceId = none)
      (hresolved : ¬ s.HasUnresolvedDelivery invoiceId)
      (hdraft : s.drafts.get? invoice.sourceDraftId = some draft)
      (howner : draft.approvedInvoiceId = some invoiceId) :
      Change s { s with
        invoices := s.invoices.set invoiceId
          { invoice with status := .reopenedForEdit, currentRevisionId := none }
        drafts := s.drafts.set invoice.sourceDraftId { draft with approvedInvoiceId := none } }
  | cancelled {invoiceId : String} {invoice : Invoice}
      (hinvoice : s.invoices.get? invoiceId = some invoice) (happroved : invoice.status = .approved)
      (hquiet : ¬ s.HasBlockingDeliveryEvent invoiceId) :
      Change s { s with
        invoices := s.invoices.set invoiceId { invoice with status := .cancelled } }
  | paid {invoiceId : String} {invoice : Invoice} {payment : Option InvoicePayment}
      {event : InvoicePaymentEvent} (hinvoice : s.invoices.get? invoiceId = some invoice)
      (hstandard : invoice.invoiceKind = .standard) (hsent : invoice.status = .sent)
      (hpayment : Payment s invoiceId invoice payment event)
      (hnew : ∀ e ∈ s.paymentEvents, e.id ≠ event.id) :
      Change s { s with
        invoices := s.invoices.set invoiceId { invoice with payment }
        paymentEvents := s.paymentEvents ++ [event] }
  | published {documentId : String} {document : InvoiceDocument}
      (hnew : s.documents.get? documentId = none)
      (hbinding : document.binding ≠ .legacyOriginal) :
      Change s { s with documents := s.documents.set documentId document }
  | reserved {reservation : InvoiceDeliveryReservation} {invoice : Invoice}
      (hreservation : assertInvoiceDeliveryReservation reservation = .ok ())
      (htarget : Deliverable storagePath s reservation.target invoice)
      (hhistory : ¬ s.HasBlockingDeliveryHistory reservation.target)
      (hnew : s.deliveryEvents.get? reservation.eventId = none) :
      Change s { s with
        deliveryEvents := s.deliveryEvents.set reservation.eventId
          (toDeliveryEvent reservation.target .email .smtp reservation.mode
            ⟨.attempted, none, none, none⟩) }
  | completed {reservation : InvoiceDeliveryReservation} {event : InvoiceDeliveryEvent}
      {outcome : DeliveryOutcome}
      (hevent : s.deliveryEvents.get? reservation.eventId = some event)
      (hreserved : InvoiceDeliveryEvent.IsReservedBy event reservation)
      (hattempted : event.status = .attempted)
      (hstatus : outcome.status = .succeeded ∨ outcome.status = .failed
        ∨ outcome.status = .outcomeUnknown)
      (hsent : outcome.status = .succeeded → reservation.mode = .customer →
        ∃ invoice, s.invoices.get? reservation.target.invoiceId = some invoice
          ∧ invoice.status = .sent) :
      Change s { s with
        deliveryEvents := s.deliveryEvents.set reservation.eventId
          { event with toDeliveryOutcome := outcome } }
  | arrived {reservation : InvoiceDeliveryReservation} {event : InvoiceDeliveryEvent}
      {outcome : DeliveryOutcome} {invoice : Invoice}
      (hevent : s.deliveryEvents.get? reservation.eventId = some event)
      (hreserved : InvoiceDeliveryEvent.IsReservedBy event reservation)
      (hattempted : event.status = .attempted) (hsucceeded : outcome.status = .succeeded)
      (hcustomer : reservation.mode = .customer) (happroved : invoice.status = .approved)
      (htarget : Deliverable storagePath s reservation.target invoice) :
      Change s { s with
        deliveryEvents := s.deliveryEvents.set reservation.eventId
          { event with toDeliveryOutcome := outcome }
        invoices := s.invoices.set reservation.target.invoiceId
          { invoice with status := .sent } }
  | delivered {target : InvoiceDeliveryTarget} {deliveryMethod : DeliveryMethod}
      {eventId : String} {invoice : Invoice} (happroved : invoice.status = .approved)
      (htarget : Deliverable storagePath s target invoice)
      (hhistory : ¬ s.HasBlockingDeliveryHistory target)
      (hnew : s.deliveryEvents.get? eventId = none) :
      Change s { s with
        deliveryEvents := s.deliveryEvents.set eventId
          (toDeliveryEvent target deliveryMethod .manual .manual ⟨.succeeded, none, none, none⟩)
        invoices := s.invoices.set target.invoiceId { invoice with status := .sent } }
  | rehearsed {target : InvoiceDeliveryTarget} {eventId : String} {outcome : DeliveryOutcome}
      {invoice : Invoice} (hstatus : outcome.status = .succeeded ∨ outcome.status = .failed)
      (htarget : Deliverable storagePath s target invoice)
      (hnew : s.deliveryEvents.get? eventId = none) :
      Change s { s with
        deliveryEvents := s.deliveryEvents.set eventId
          (toDeliveryEvent target .email .dryRun .dryRun outcome) }
  | promoted {invoiceId expectedRevisionId revisionId : String} {invoice : Invoice}
      {header : InvoiceContentRevision} {totals : InvoiceCalculation.InvoiceTotals}
      (hinvoice : s.invoices.get? invoiceId = some invoice) (happroved : invoice.status = .approved)
      (hcurrent : s.currentRevision invoiceId = some (expectedRevisionId, header))
      (horigin : header.origin = .legacySnapshot)
      (hresolved : ¬ s.HasUnresolvedDeliveryHistory invoiceId)
      (hnew : s.revisions.get? revisionId = none) :
      Change s { s with
        revisions := s.revisions.set revisionId
          { header with origin := .validatedLegacySnapshot, totals }
        invoices := s.invoices.set invoiceId
          { invoice with currentRevisionId := some revisionId } }


/-! ## Every request makes one of these changes -/

section Inversion

variable {storagePath : String → String → Option String}
variable {localeCompare : String → String → Int} {s t : Ledger}

theorem change_of_updateInvoiceNumberingSettings {nextSettings : InvoiceNumberingSettings}
    {currentSettings : Option InvoiceNumberingSettings} {hasUsedNumbering : Bool}
    (h : s.updateInvoiceNumberingSettings nextSettings currentSettings hasUsedNumbering = .ok t) :
    Change storagePath localeCompare s t := by
  simp only [updateInvoiceNumberingSettings, saveSettings, bind_eq_ok, throwIf_eq_ok,
    exists_const, pure_eq_ok] at h
  obtain ⟨_, -, _, -, -, _, hvalid, hunused, rfl⟩ := h
  refine .settings (fromNumbering_eq_ok.mp hvalid) ?_
  by_contra hnot
  rw [not_or, not_not] at hnot
  exact hunused hnot

theorem validateActivationInput_eq_ok {input : ActivateInvoiceNumberingSeries}
    (h : validateActivationInput input = .ok ()) :
    validateInvoiceNumberingSettings input.nextSettings = .ok () := by
  simp only [validateActivationInput, bind_eq_ok, throwIf_eq_ok, exists_const,
    fromNumbering_eq_ok] at h
  obtain ⟨-, _, hvalid, -⟩ := h
  exact hvalid

theorem change_of_activate {input : ActivateInvoiceNumberingSeries}
    (h : s.activate input = .ok t) :
    Change storagePath localeCompare s t := by
  simp only [activate, bind_eq_ok, throwIf_eq_ok, orThrow_eq_ok, exists_const, pure_eq_ok,
    fromNumbering_eq_ok, mapError_eq_ok, not_not] at h
  obtain ⟨_, hinput, _, hactive, rfl, hnew, safeStart, hsafe, _, hfirst, -, rfl⟩ := h
  exact .activated (validateActivationInput_eq_ok hinput) hactive hnew hsafe hfirst

/-! ### Drafts -/

theorem change_of_saveDraft (h : s.saveDraft draftId draft = .ok t)
    (hopen : draft.approvedInvoiceId = none)
    (hsaved : draft.invoiceKind = .standard → ∃ request saved,
      toInvoiceDraft request = .ok saved
        ∧ draft = { saved with creditedInvoiceId := draft.creditedInvoiceId }) :
    Change storagePath localeCompare s t := by
  simp only [saveDraft, bind_eq_ok, throwIf_eq_ok, exists_const, pure_eq_ok,
    Option.not_isSome_iff_eq_none] at h
  obtain ⟨hnew, rfl⟩ := h
  exact .drafted hopen (fun old hold => by cases hnew.symm.trans hold) hsaved

theorem toInvoiceDraft_eq_ok (h : toInvoiceDraft request = .ok draft) :
    draft.invoiceKind = .standard ∧ draft.creditedInvoiceId = none
      ∧ draft.approvedInvoiceId = none := by
  simp only [toInvoiceDraft, bind_eq_ok, pure_eq_ok] at h
  obtain ⟨content, -, lines, -, rfl⟩ := h
  exact ⟨rfl, rfl, rfl⟩

theorem change_of_saveInvoiceDraft (h : s.saveInvoiceDraft request = .ok t) :
    Change storagePath localeCompare s t := by
  simp only [saveInvoiceDraft, bind_eq_ok] at h
  obtain ⟨draft, hdraft, h⟩ := h
  exact change_of_saveDraft h (toInvoiceDraft_eq_ok hdraft).2.2
    fun _ => ⟨request, draft, hdraft, rfl⟩

theorem getEditableDraft_eq_some : s.getEditableDraft draftId = some draft
      ↔ s.drafts.get? draftId = some draft ∧ draft.approvedInvoiceId = none := by
  rw [getEditableDraft, Option.filter_eq_some_iff, decide_eq_true_eq]

/-- What was saved under an editable draft's id is not approved. -/
theorem open_of_getEditableDraft {old : InvoiceDraft} (h : s.getEditableDraft draftId = some draft)
    (hold : s.drafts.get? draftId = some old) : old.approvedInvoiceId = none := by
  obtain ⟨hget, hopen⟩ := getEditableDraft_eq_some.mp h
  rw [← Option.some.inj (hget.symm.trans hold)]
  exact hopen

theorem change_of_updateInvoiceDraft (h : s.updateInvoiceDraft request = .ok t) :
    Change storagePath localeCompare s t := by
  simp only [updateInvoiceDraft, bind_eq_ok, orThrow_eq_ok, throwIf_eq_ok, exists_const,
    pure_eq_ok] at h
  obtain ⟨existing, hexisting, -, draft, hdraft, rfl⟩ := h
  exact .drafted (toInvoiceDraft_eq_ok hdraft).2.2
    (fun old hold => open_of_getEditableDraft hexisting hold)
    fun _ => ⟨request, draft, hdraft, rfl⟩

theorem change_of_deleteInvoiceDraft (h : s.deleteInvoiceDraft draftId = .ok t) :
    Change storagePath localeCompare s t := by
  simp only [deleteInvoiceDraft, bind_eq_ok, throwIf_eq_ok, exists_const, pure_eq_ok] at h
  obtain ⟨-, hfree, rfl⟩ := h
  exact .discarded fun e he hsource => hfree ⟨e, he, hsource⟩

/-- Only a standard draft has lines that were priced. -/
theorem not_standard_toCreditDraft {sourceInvoiceId : String} {P : Prop}
    (h : (toCreditDraft sourceInvoiceId content).invoiceKind = .standard) : P := by
  cases h

theorem change_of_createCreditDraft {sourceInvoiceId : String}
    (h : s.createCreditDraft draftId sourceInvoiceId content = .ok t) :
    Change storagePath localeCompare s t := by
  unfold createCreditDraft at h
  split at h
  · cases pure_eq_ok.mp h
    exact .nothing
  · split at h
    · cases h
    · exact change_of_saveDraft h rfl fun hkind => not_standard_toCreditDraft hkind

theorem change_of_updateCreditInvoiceDraft
    (h : s.updateCreditInvoiceDraft draftId content = .ok t) :
    Change storagePath localeCompare s t := by
  simp only [updateCreditInvoiceDraft, bind_eq_ok, orThrow_eq_ok, throwIf_eq_ok, exists_const,
    pure_eq_ok] at h
  obtain ⟨existing, hexisting, -, sourceInvoiceId, -, -, rfl⟩ := h
  exact .drafted rfl (fun old hold => open_of_getEditableDraft hexisting hold)
    fun hkind => not_standard_toCreditDraft hkind

/-! ### Approvals -/

theorem guardInvoice_eq_ok {u : Unit} : s.guardInvoice invoiceId invoice = .ok u
      ↔ s.invoices.get? invoiceId = none
        ∧ (∀ e ∈ s.invoices.entries, e.2.invoiceNumber ≠ invoice.invoiceNumber)
        ∧ (∀ e ∈ s.invoices.entries, e.2.sourceDraftId ≠ invoice.sourceDraftId)
        ∧ (invoice.referenceNumber ≠ none →
          ∀ e ∈ s.invoices.entries, e.2.referenceNumber ≠ invoice.referenceNumber) := by
  simp only [guardInvoice, bind_eq_ok, throwIf_eq_ok, exists_const,
    Option.not_isSome_iff_eq_none, not_exists, not_and]

/-- The rows of an approved draft, and that nothing stood in their way. -/
theorem issueInvoice_eq_ok {source : Option InvoiceRevisionCreditSource} :
    s.issueInvoice invoiceId revisionId invoice draft source = .ok t
      ↔ s.guardInvoice invoiceId invoice = .ok () ∧ s.revisions.get? revisionId = none
        ∧ t = { s with
          numberSequences := s.numberSequences.set (invoice.seriesKey, invoice.sequenceScope)
            invoice.sequenceNumber
          invoices := s.invoices.set invoiceId
            { invoice with currentRevisionId := some revisionId }
          revisions := s.revisions.set revisionId
            (createInvoiceContentRevisionRow invoiceId invoice source)
          drafts := s.drafts.set invoice.sourceDraftId
            { draft with approvedInvoiceId := some invoiceId } } := by
  simp only [issueInvoice, bind_eq_ok, throwIf_eq_ok, exists_const, pure_eq_ok,
    Option.not_isSome_iff_eq_none]
  constructor
  · rintro ⟨_, hguard, hnew, rfl⟩
    exact ⟨hguard, hnew, rfl⟩
  · rintro ⟨hguard, hnew, rfl⟩
    exact ⟨_, hguard, hnew, rfl⟩

theorem change_of_approveNewDraft {issued : InvoiceApproval.IssuedInvoice}
    (hdraft : s.drafts.get? input.draftId = some draft)
    (hissued : InvoiceApproval.approveDraft draft.toInvoiceDraftRow draft.lines.rows
      input.reverseChargeEligibilityConfirmed = .ok issued)
    (h : s.approveNewDraft input draft issued = .ok t) : Change storagePath localeCompare s t := by
  simp only [approveNewDraft, bind_eq_ok, fromNumbering_eq_ok, issueInvoice_eq_ok] at h
  obtain ⟨number, hnext, reference, hreference, -, -, hguard, hrevision, rfl⟩ := h
  obtain ⟨hinvoice, hnumber, hsource, hunique⟩ := guardInvoice_eq_ok.mp hguard
  exact @Change.issued _ _ _ _ _ _ _ none ⟨hdraft, hnext, hinvoice, hnumber, hsource, hunique,
    hrevision, rfl, rfl, .inl ⟨⟨_, hissued⟩, rfl, rfl, reference, rfl, hreference⟩⟩

theorem getReopenedInvoiceForDraft_eq_some {found : String × Invoice}
    (h : s.getReopenedInvoiceForDraft draftId = some found) :
    s.invoices.get? found.1 = some found.2 ∧ found.2.sourceDraftId = draftId
      ∧ found.2.status = .reopenedForEdit ∧ found.2.invoiceKind = .standard := by
  rw [getReopenedInvoiceForDraft] at h
  have hfound := List.find?_some h
  rw [decide_eq_true_eq] at hfound
  exact ⟨get?_of_mem (List.mem_of_find?_eq_some h), hfound.1, hfound.2.1, hfound.2.2.1⟩

theorem change_of_reapproveDraft {issued : InvoiceApproval.IssuedInvoice} {found : String × Invoice}
    (hdraft : s.drafts.get? input.draftId = some draft)
    (hissued : InvoiceApproval.approveDraft draft.toInvoiceDraftRow draft.lines.rows
      input.reverseChargeEligibilityConfirmed = .ok issued)
    (hfound : s.getReopenedInvoiceForDraft input.draftId = some found)
    (h : s.reapproveDraft input draft issued found.1 found.2 = .ok t) :
    Change storagePath localeCompare s t := by
  obtain ⟨hinvoice, hsource, hreopened, hstandard⟩ := getReopenedInvoiceForDraft_eq_some hfound
  simp only [reapproveDraft, bind_eq_ok, throwIf_eq_ok, exists_const, pure_eq_ok,
    Option.not_isSome_iff_eq_none] at h
  obtain ⟨hresolved, _, -, hrevision, rfl⟩ := h
  exact .reapproved ⟨hdraft, hinvoice, hreopened, hstandard, hsource, hresolved, hrevision,
    ⟨_, hissued⟩, rfl⟩

theorem change_of_approveInvoiceDraft (h : s.approveInvoiceDraft input = .ok t) :
    Change storagePath localeCompare s t := by
  simp only [approveInvoiceDraft, bind_eq_ok, orThrow_eq_ok, fromApproval_eq_ok] at h
  obtain ⟨draft, hdraft, issued, hissued, h⟩ := h
  split at h
  · exact change_of_approveNewDraft hdraft hissued h
  · next found hfound => exact change_of_reapproveDraft hdraft hissued hfound h

theorem readCreditInvoiceRevisionSource_eq_some {source : String × InvoiceContentRevision}
    (h : s.readCreditInvoiceRevisionSource invoiceId = .ok (some source)) :
    s.IsCreditable invoiceId ∧ s.currentRevision invoiceId = some source := by
  unfold readCreditInvoiceRevisionSource at h
  split at h
  · cases pure_eq_ok.mp h
  · next hcreditable =>
      simp only [bind_eq_ok, orThrow_eq_ok, throwIf_eq_ok, exists_const, pure_eq_ok,
        Option.some.injEq] at h
      obtain ⟨_, hcurrent, -, -, rfl⟩ := h
      exact ⟨not_not.mp hcreditable, hcurrent⟩

theorem change_of_approveCreditInvoiceDraft {input : ApproveCreditInvoiceDraft}
    (h : s.approveCreditInvoiceDraft localeCompare input = .ok t) :
    Change storagePath localeCompare s t := by
  simp only [approveCreditInvoiceDraft, bind_eq_ok, orThrow_eq_ok, throwIf_eq_ok, exists_const,
    fromApproval_eq_ok, issueInvoice_eq_ok] at h
  obtain ⟨draft, hdraft, sourceInvoiceId, -, -, _, hread, source, rfl, issued, hissued, number,
    hnext, hguard, hrevision, rfl⟩ := h
  obtain ⟨hcreditable, hcurrent⟩ := readCreditInvoiceRevisionSource_eq_some hread
  obtain ⟨hinvoice, hnumber, hsource, hunique⟩ := guardInvoice_eq_ok.mp hguard
  exact @Change.issued _ _ _ _ _ _ _ (some ⟨sourceInvoiceId, source.1⟩) ⟨hdraft, hnext, hinvoice,
    hnumber, hsource, hunique, hrevision, rfl, rfl,
    .inr ⟨sourceInvoiceId, source, hcreditable, hcurrent, hissued, rfl, rfl, rfl⟩⟩

/-! ### Corrections and payments -/

theorem change_of_reopenApprovedInvoiceForEditing
    (h : s.reopenApprovedInvoiceForEditing invoiceId = .ok t) :
    Change storagePath localeCompare s t := by
  simp only [reopenApprovedInvoiceForEditing, bind_eq_ok, orThrow_eq_ok, throwIf_eq_ok,
    exists_const, pure_eq_ok, not_or, not_not] at h
  obtain ⟨invoice, hinvoice, ⟨happroved, hstandard, hcredited⟩, -, hresolved, draft, hdraft,
    howner, rfl⟩ := h
  exact .reopened hinvoice happroved hstandard hcredited hresolved hdraft howner

theorem change_of_cancelApprovedInvoice {confirmation : Text}
    (h : s.cancelApprovedInvoice invoiceId confirmation = .ok t) :
    Change storagePath localeCompare s t := by
  simp only [cancelApprovedInvoice, bind_eq_ok, orThrow_eq_ok, throwIf_eq_ok, exists_const,
    pure_eq_ok, not_not] at h
  obtain ⟨invoice, hinvoice, happroved, -, hquiet, rfl⟩ := h
  exact .cancelled hinvoice happroved hquiet

theorem change_of_recordPayment {payment : Option InvoicePayment} {event : InvoicePaymentEvent}
    (hinvoice : s.invoices.get? invoiceId = some invoice)
    (hstandard : invoice.invoiceKind = .standard) (hsent : invoice.status = .sent)
    (hpayment : Payment s invoiceId invoice payment event)
    (h : s.recordPayment invoiceId invoice payment event = .ok t) :
    Change storagePath localeCompare s t := by
  simp only [recordPayment, bind_eq_ok, throwIf_eq_ok, exists_const, pure_eq_ok, not_exists,
    not_and] at h
  obtain ⟨hnew, rfl⟩ := h
  exact .paid hinvoice hstandard hsent hpayment hnew

theorem change_of_markInvoicePaid {paidOn : String}
    (h : s.markInvoicePaid invoiceId paidOn eventId = .ok t) :
    Change storagePath localeCompare s t := by
  simp only [markInvoicePaid, bind_eq_ok, orThrow_eq_ok, throwIf_eq_ok, exists_const, not_or,
    not_not] at h
  obtain ⟨invoice, hinvoice, ⟨hstandard, hsent⟩, h⟩ := h
  split at h
  · split at h
    · cases pure_eq_ok.mp h
      exact .nothing
    · cases h
  · next hunpaid =>
      simp only [bind_eq_ok, throwIf_eq_ok, exists_const, Int.not_le] at h
      exact change_of_recordPayment hinvoice hstandard hsent (.marked hunpaid h.1) h.2

theorem change_of_revertInvoicePaidMark (h : s.revertInvoicePaidMark invoiceId eventId = .ok t) :
    Change storagePath localeCompare s t := by
  simp only [revertInvoicePaidMark, bind_eq_ok, orThrow_eq_ok, throwIf_eq_ok, exists_const,
    not_or, not_not] at h
  obtain ⟨invoice, hinvoice, ⟨hstandard, hsent⟩, h⟩ := h
  split at h
  · cases pure_eq_ok.mp h
    exact .nothing
  · next payment hpaid =>
      exact change_of_recordPayment hinvoice hstandard hsent (.reverted hpaid) h

/-! ### Documents and deliveries -/

theorem change_of_publishDocument {candidate : InvoiceDocumentCandidate}
    {binding : InvoiceDocumentBinding} (hbinding : binding ≠ .legacyOriginal)
    (h : s.publishDocument storagePath invoiceId candidate binding = .ok t) :
    Change storagePath localeCompare s t := by
  unfold publishDocument at h
  split at h
  · simp only [bind_eq_ok, pure_eq_ok] at h
    obtain ⟨_, -, rfl⟩ := h
    exact .nothing
  · simp only [bind_eq_ok, throwIf_eq_ok, exists_const, pure_eq_ok] at h
    obtain ⟨hcollision, rfl⟩ := h
    refine .published ?_ hbinding
    cases hget : s.documents.get? candidate.id with
    | none => rfl
    | some document =>
        exact absurd ⟨_, mem_of_get? hget, .inl rfl⟩ hcollision

theorem change_of_publishDocumentIfCurrent {candidate : InvoiceDocumentCandidate}
    (h : s.publishDocumentIfCurrent storagePath invoiceId revisionId
      candidate = .ok t) : Change storagePath localeCompare s t := by
  simp only [publishDocumentIfCurrent, bind_eq_ok, throwIf_eq_ok, exists_const] at h
  obtain ⟨_, -, -, h⟩ := h
  exact change_of_publishDocument (fun hbinding => by cases hbinding) h

theorem change_of_publishPreservedLegacyDocument {input : PublishPreservedLegacyDocument}
    (h : s.publishPreservedLegacyDocument storagePath input = .ok t) :
    Change storagePath localeCompare s t := by
  simp only [publishPreservedLegacyDocument, bind_eq_ok, throwIf_eq_ok, orThrow_eq_ok,
    exists_const] at h
  obtain ⟨_, -, -, _, -, _, -, -, h⟩ := h
  exact change_of_publishDocument (fun hbinding => by cases hbinding) h

theorem readEligibleDeliveryInvoice_eq_some :
    s.readEligibleDeliveryInvoice target = .ok (some invoice)
      ↔ ¬ s.RequiresLegacyDeliveryReview target.invoiceId
        ∧ s.invoices.get? target.invoiceId = some invoice
        ∧ (invoice.status = .approved ∨ invoice.status = .sent)
        ∧ s.isCurrentTarget target invoice = true := by
  simp only [readEligibleDeliveryInvoice, bind_eq_ok, throwIf_eq_ok, exists_const, pure_eq_ok,
    Option.filter_eq_some_iff, decide_eq_true_eq]

/-- The two checks that come before every delivery. -/
theorem deliverable_of_checks {eligible : Option Invoice} {present : Bool}
    (heligible : s.readEligibleDeliveryInvoice target = .ok eligible)
    (hsome : ¬ eligible.isNone = true)
    (hread : s.readDeliveryTarget storagePath target = .ok present) (hpresent : present = true) :
    ∃ invoice, eligible = some invoice
      ∧ Deliverable storagePath s target invoice := by
  cases eligible with
  | none => exact absurd rfl hsome
  | some invoice =>
      obtain ⟨hreviewed, hfound, hissued, hcurrent⟩ :=
        readEligibleDeliveryInvoice_eq_some.mp heligible
      exact ⟨invoice, rfl, hfound, hissued, hcurrent, hreviewed, hread.trans (by rw [hpresent])⟩

theorem insertDeliveryEvent_eq_ok (h : s.insertDeliveryEvent eventId event = .ok t) :
    s.deliveryEvents.get? eventId = none
      ∧ t = { s with deliveryEvents := s.deliveryEvents.set eventId event } := by
  simp only [insertDeliveryEvent, bind_eq_ok, throwIf_eq_ok, exists_const, pure_eq_ok,
    Option.not_isSome_iff_eq_none] at h
  obtain ⟨hnew, _, -, rfl⟩ := h
  exact ⟨hnew, rfl⟩

theorem change_of_reserveInvoiceEmailDelivery
    (h : s.reserveInvoiceEmailDelivery storagePath reservation = .ok t) :
    Change storagePath localeCompare s t := by
  simp only [reserveInvoiceEmailDelivery, bind_eq_ok, throwIf_eq_ok, exists_const, not_not] at h
  obtain ⟨_, hreservation, _, heligible, hsome, hhistory, _, hread, hpresent, -, h⟩ := h
  obtain ⟨invoice, -, htarget⟩ := deliverable_of_checks heligible hsome hread hpresent
  obtain ⟨hnew, rfl⟩ := insertDeliveryEvent_eq_ok h
  exact .reserved hreservation htarget hhistory hnew

theorem readSuccessInvoice_eq_ok {status : DeliveryStatus} {invoice : Option Invoice}
    (h : s.readSuccessInvoice target status = .ok invoice) (hstatus : status = .succeeded) :
    s.readEligibleDeliveryInvoice target = .ok invoice ∧ ¬ invoice.isNone = true := by
  rw [readSuccessInvoice, if_pos hstatus] at h
  simp only [bind_eq_ok, throwIf_eq_ok, exists_const, pure_eq_ok] at h
  obtain ⟨_, heligible, hsome, rfl⟩ := h
  exact ⟨heligible, hsome⟩

theorem recordOutcome_approved (hcustomer : customerSuccess = true)
    (happroved : invoice.status = .approved) :
    s.recordOutcome reservation event outcome customerSuccess (some invoice) = { s with
      deliveryEvents := s.deliveryEvents.set reservation.eventId
        { event with toDeliveryOutcome := outcome }
      invoices := s.invoices.set reservation.target.invoiceId
        { invoice with status := .sent } } :=
  if_pos ⟨hcustomer, happroved⟩

theorem recordOutcome_settled {found : Option Invoice}
    (h : ∀ invoice, found = some invoice → customerSuccess = true →
      invoice.status ≠ .approved) :
    s.recordOutcome reservation event outcome customerSuccess found = { s with
      deliveryEvents := s.deliveryEvents.set reservation.eventId
        { event with toDeliveryOutcome := outcome } } := by
  cases found with
  | none => rfl
  | some invoice => exact if_neg fun hboth => h invoice rfl hboth.1 hboth.2

theorem change_of_completeReservedInvoiceEmailDelivery
    (h : s.completeReservedInvoiceEmailDelivery storagePath reservation
      outcome customerSuccess = .ok t) : Change storagePath localeCompare s t := by
  simp only [completeReservedInvoiceEmailDelivery, bind_eq_ok, throwIf_eq_ok, orThrow_eq_ok,
    exists_const, not_or, not_not, List.mem_cons, List.not_mem_nil, or_false] at h
  obtain ⟨_, -, ⟨hstatus, hcustomer⟩, event, hevent, hreserved, _, hread, hpresent, h⟩ := h
  unfold completeEvent at h
  split at h
  · split at h
    · cases pure_eq_ok.mp h
      exact .nothing
    · cases h
  · next hattempted =>
      simp only [bind_eq_ok, pure_eq_ok] at h
      obtain ⟨found, hfound, _, -, rfl⟩ := h
      simp only [not_and_or, not_not] at hstatus
      have hchecked : outcome.status = .succeeded → ∃ invoice, found = some invoice
          ∧ Deliverable storagePath s reservation.target invoice := by
        intro hsucceeded
        obtain ⟨heligible, hsome⟩ := readSuccessInvoice_eq_ok hfound hsucceeded
        exact deliverable_of_checks heligible hsome hread hpresent
      by_cases harrived : reservation.mode = .customer ∧ outcome.status = .succeeded
      · obtain ⟨invoice, rfl, htarget⟩ := hchecked harrived.2
        by_cases happroved : invoice.status = .approved
        · rw [recordOutcome_approved (hcustomer.mpr harrived) happroved]
          exact .arrived hevent hreserved (not_not.mp hattempted) harrived.2 harrived.1
            happroved htarget
        · rw [recordOutcome_settled fun other hother _ => by
            rw [← Option.some.inj hother]
            exact happroved]
          exact .completed hevent hreserved (not_not.mp hattempted) hstatus
            fun _ _ => ⟨invoice, htarget.found, htarget.issued.resolve_left happroved⟩
      · rw [recordOutcome_settled fun other _ hsuccess => absurd (hcustomer.mp hsuccess) harrived]
        exact .completed hevent hreserved (not_not.mp hattempted) hstatus
          fun hsucceeded hmode => absurd ⟨hmode, hsucceeded⟩ harrived

theorem change_of_completeManualDelivery {deliveryMethod : DeliveryMethod}
    {deliveryEventId : String} (h : s.completeManualDelivery storagePath target deliveryMethod
      deliveryEventId = .ok t) : Change storagePath localeCompare s t := by
  simp only [completeManualDelivery, bind_eq_ok, throwIf_eq_ok, orThrow_eq_ok, exists_const,
    not_not, Option.filter_eq_some_iff, decide_eq_true_eq] at h
  obtain ⟨-, invoice, ⟨hinvoice, hissued⟩, _, heligible, hsome, _, hread, hpresent, h⟩ := h
  split at h
  · cases pure_eq_ok.mp h
    exact .nothing
  · next hunsent =>
      simp only [bind_eq_ok, throwIf_eq_ok, exists_const, pure_eq_ok] at h
      obtain ⟨hhistory, recorded, hrecorded, rfl⟩ := h
      obtain ⟨hnew, rfl⟩ := insertDeliveryEvent_eq_ok hrecorded
      obtain ⟨found, -, htarget⟩ := deliverable_of_checks heligible hsome hread hpresent
      obtain rfl := Option.some.inj (hinvoice.symm.trans htarget.found)
      exact .delivered (hissued.resolve_right hunsent) htarget hhistory hnew

theorem change_of_saveDeliveryEvent
    (h : s.saveDeliveryEvent storagePath target eventId outcome = .ok t) :
    Change storagePath localeCompare s t := by
  simp only [saveDeliveryEvent, bind_eq_ok, throwIf_eq_ok, exists_const, not_not] at h
  obtain ⟨hoptions, _, heligible, hsome, _, hread, hpresent, h⟩ := h
  obtain ⟨invoice, -, htarget⟩ := deliverable_of_checks heligible hsome hread hpresent
  obtain ⟨hnew, rfl⟩ := insertDeliveryEvent_eq_ok h
  refine .rehearsed ?_ htarget hnew
  by_contra hstatus
  exact hoptions (.inr (not_or.mp hstatus))

/-! ### Promotions -/

theorem readInvoiceLegacyPromotionSnapshot_eq_ok {expectedRevisionId : String}
    {found : Invoice × InvoiceContentRevision}
    (h : s.readInvoiceLegacyPromotionSnapshot invoiceId expectedRevisionId = .ok found) :
    s.invoices.get? invoiceId = some found.1 ∧ found.1.status = .approved
      ∧ s.currentRevision invoiceId = some (expectedRevisionId, found.2)
      ∧ found.2.origin = .legacySnapshot := by
  simp only [readInvoiceLegacyPromotionSnapshot, bind_eq_ok, orThrow_eq_ok, throwIf_eq_ok,
    exists_const, pure_eq_ok, not_or, not_not, Option.filter_eq_some_iff, decide_eq_true_eq] at h
  obtain ⟨invoice, hinvoice, ⟨happroved, hcurrent⟩, header, ⟨hheader, howner⟩, horigin, _, -, _,
    -, rfl⟩ := h
  refine ⟨hinvoice, happroved, ?_, horigin⟩
  simp only [currentRevision, hinvoice, Option.bind_eq_bind, Option.bind_some, hcurrent, hheader,
    if_pos howner]

theorem change_of_promoteLegacyRevisionIfCurrent {expectedRevisionId : String}
    (h : s.promoteLegacyRevisionIfCurrent invoiceId expectedRevisionId revisionId = .ok t) :
    Change storagePath localeCompare s t := by
  simp only [promoteLegacyRevisionIfCurrent, bind_eq_ok, throwIf_eq_ok, exists_const, pure_eq_ok,
    mapError_eq_ok, Option.not_isSome_iff_eq_none, not_or] at h
  obtain ⟨found, hfound, -, ⟨hresolved, -⟩, totals, -, hnew, rfl⟩ := h
  obtain ⟨hinvoice, happroved, hcurrent, horigin⟩ :=
    readInvoiceLegacyPromotionSnapshot_eq_ok hfound
  exact .promoted hinvoice happroved hcurrent horigin hresolved hnew

/-- **WHAT A REQUEST WRITES**: whatever a request does, it is one of the changes. -/
theorem change_of_execute {request : Request}
    (h : s.execute storagePath localeCompare request = .ok t) :
    Change storagePath localeCompare s t := by
  cases request with
  | updateInvoiceNumberingSettings => exact change_of_updateInvoiceNumberingSettings h
  | activate => exact change_of_activate h
  | saveInvoiceDraft => exact change_of_saveInvoiceDraft h
  | updateInvoiceDraft => exact change_of_updateInvoiceDraft h
  | deleteInvoiceDraft => exact change_of_deleteInvoiceDraft h
  | createCreditDraft => exact change_of_createCreditDraft h
  | updateCreditInvoiceDraft => exact change_of_updateCreditInvoiceDraft h
  | approveInvoiceDraft => exact change_of_approveInvoiceDraft h
  | approveCreditInvoiceDraft => exact change_of_approveCreditInvoiceDraft h
  | reopenApprovedInvoiceForEditing => exact change_of_reopenApprovedInvoiceForEditing h
  | cancelApprovedInvoice => exact change_of_cancelApprovedInvoice h
  | markInvoicePaid => exact change_of_markInvoicePaid h
  | revertInvoicePaidMark => exact change_of_revertInvoicePaidMark h
  | publishDocumentIfCurrent => exact change_of_publishDocumentIfCurrent h
  | publishPreservedLegacyDocument => exact change_of_publishPreservedLegacyDocument h
  | reserveInvoiceEmailDelivery => exact change_of_reserveInvoiceEmailDelivery h
  | completeReservedInvoiceEmailDelivery =>
      exact change_of_completeReservedInvoiceEmailDelivery h
  | completeManualDelivery => exact change_of_completeManualDelivery h
  | saveDeliveryEvent => exact change_of_saveDeliveryEvent h
  | promoteLegacyRevisionIfCurrent => exact change_of_promoteLegacyRevisionIfCurrent h


end Inversion

/-! ## Runs -/

/-- Requests one after the other; the first one that is refused ends the run. -/
def run (s : Ledger) (requests : List Request) : Transaction Ledger :=
  requests.foldlM (execute storagePath localeCompare) s

theorem reachable_of_run {initial : Ledger → Prop} {s t : Ledger} {requests : List Request}
    (hs : (ledgerSystem storagePath localeCompare initial).Reachable s)
    (h : s.run storagePath localeCompare requests = .ok t) :
    (ledgerSystem storagePath localeCompare initial).Reachable t :=
  foldlM_invariant h hs fun _ request _ _ hreached hstep => hreached.step ⟨request, hstep⟩

/-! ## A sample -/

/-- The paths of a company. -/
def samplePath : String → String → Option String :=
  DocumentStoragePath.createInvoiceDocumentStoragePath "c"

/-- The order of code points. -/
def sampleCompare (first second : String) : Int :=
  if first < second then -1 else if second < first then 1 else 0

/-- Numbers by calendar year, from 7 on. -/
def sampleSettings : InvoiceNumberingSettings :=
  { mode := .calendarYearSequence, fiscalYearStartMonth := 1, firstSequenceNumber := 7
    sequencePadding := 3 }

/-- Ten euros and 25.5 % of VAT. -/
def sampleInput : InvoiceForm.InvoiceDraftInput where
  customerId := "c"
  billingRecipientCustomerId := none
  invoiceDate := "2026-01-01"
  dueDate := "2026-01-15"
  paymentTermDays := 14
  reminderPeriodDays := none
  latePaymentInterestBasisPoints := none
  priceInputMode := .net
  taxTreatment := .normalVat
  performancePeriod := .invoiceDate
  subject := none
  orderNumber := none
  note := none
  deliveryAddressText := none
  lines := [⟨"Work", 100, "h", 1000, some 2550, .none⟩]

/-- A request to save a draft of one line. -/
def sampleSave (draftId lineId : String) (h : CreditInvoice.IsIdentifier lineId) :
    SaveInvoiceDraft where
  draftId := draftId
  input := sampleInput
  randomUUID := fun _ => lineId
  arrayLength := by decide
  identifiers := fun _ => h

/-- Half of the line of the sample. -/
def sampleCredit : CreditDraftContent where
  priceInputMode := .net
  taxTreatment := .normalVat
  period := ⟨none, none, none⟩
  invoiceDate := "2026-01-02".toList
  lines := ⟨[⟨⟨50, 1000, some 2550, .none, 0, 500, 0, 500, 128, 628⟩, "l2", some "l1", 1⟩],
    List.nodup_singleton _⟩

/-- A document that is sent. -/
def sampleTarget : InvoiceDeliveryTarget := ⟨"i1", "p1", "0a", 10, .revision "r1"⟩

/-- Its reservation. -/
def sampleReservation : InvoiceDeliveryReservation := ⟨"e1", .customer, sampleTarget⟩

/-- An outcome: delivered. -/
def sampleSucceeded : DeliveryOutcome := ⟨.succeeded, some "m1", none, none⟩

/-- An invoice that is e-mailed, half credited, and paid by mistake; then another series. -/
def sampleRequests : List Request := [
  .updateInvoiceNumberingSettings sampleSettings none false,
  .saveInvoiceDraft (sampleSave "d1" "l1" (by decide)),
  .approveInvoiceDraft ⟨"d1", "i1", "r1", "2026-01-01T08:00:00.000Z", false, true, true⟩,
  .publishDocumentIfCurrent "i1" "r1" ⟨"p1", "id-c/id-i1/id-p1/approved-invoice.pdf", "0a", 10⟩,
  .reserveInvoiceEmailDelivery sampleReservation,
  .completeReservedInvoiceEmailDelivery sampleReservation sampleSucceeded true,
  .createCreditDraft "d2" "i1" sampleCredit,
  .approveCreditInvoiceDraft ⟨"d2", "i2", "r2", "2026-01-02T08:00:00.000Z"⟩,
  .markInvoicePaid "i1" "2026-01-03" "v1",
  .revertInvoicePaidMark "i1" "v2",
  .activate ⟨defaultInvoiceNumberSeriesKey, 1, "s2",
    { sampleSettings with mode := .plainSequence, firstSequenceNumber := 2026009 }, "v3"⟩,
  .saveInvoiceDraft (sampleSave "d3" "l3" (by decide)),
  .approveInvoiceDraft ⟨"d3", "i3", "r3", "2026-01-04T08:00:00.000Z", false, true, true⟩]

/-- The ledger after the first requests of the sample. -/
def sampleAfter (count : Nat) : Ledger :=
  (Ledger.empty.run samplePath sampleCompare (sampleRequests.take count)).toOption.getD .empty

example : (sampleAfter 13).invoices.entries.map (fun e =>
      (e.1, String.ofList e.2.invoiceNumber, e.2.totals.grossTotalCents, e.2.status))
    = [("i1", "2026007", 1255, .sent), ("i2", "2026008", 628, .approved),
      ("i3", "2026009", 1255, .approved)] := by
  decide +kernel


end Ledger

end InvoiceLedger
