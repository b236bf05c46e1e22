import Eky.InvoiceApproval
import Eky.InvoiceReferenceNumber
import Eky.Tables

/-! # The invoice ledger — the tables of one company

    The drafts, the invoices and everything that is recorded about them, as the rows of
    their tables.  A request runs in one transaction: it is refused and changes nothing, or
    it commits.

    This file holds the rows, the refusals and the numbering; `LedgerInvoices` has the
    drafts, the approvals and the corrections, and `LedgerDeliveries` the documents and
    deliveries. -/

namespace InvoiceLedger

open Fallible AsciiLines InvoiceNumbering LegacyRevision OrderedMap
open InvoiceMoney (InvoiceError IsSafeInteger PriceInputMode)
open InvoiceCalculation (InvoiceTotals)
open InvoiceForm (InvoiceTaxTreatment)
open InvoiceApproval (InvoiceDraftRow InvoiceDraftLines InvoiceLineRow InvoiceRevisionLineRow
  InvoiceContentRevisionRow IssuedInvoice ApprovalFailure Approval)
open SafeSequenceNumber (calculateMinimumSafeInvoiceSequenceNumber
  validateInvoiceNumberingSeriesFirstSequenceNumber)

/-! ## Rows -/

/-- Which series numbers are taken from. -/
structure InvoiceNumberingActiveSeries where
  activeSeriesKey : String
  revision : Int
  deriving DecidableEq

/-- A change of the series. -/
structure InvoiceNumberingSeriesEvent where
  id : String
  previousSeriesKey : String
  nextSeriesKey : String
  deriving DecidableEq

/-- A draft with its lines, in the order of their positions. -/
structure InvoiceDraft extends InvoiceDraftRow where
  invoiceDate : Text
  lines : InvoiceDraftLines

/-- Where an invoice stands. -/
inductive InvoiceStatus
  | approved
  | reopenedForEdit
  | sent
  | cancelled
  deriving DecidableEq

/-- The payment columns of an invoice, which are filled together. -/
structure InvoicePayment where
  paidOn : String
  paidAmountCents : Int
  deriving DecidableEq

/-- An invoice with its lines.  `currentRevisionId` is the row of the invoice in
    `invoice_current_revisions`. -/
structure Invoice extends IssuedInvoice where
  sourceDraftId : String
  creditedInvoiceId : Option String
  invoiceNumber : Text
  referenceNumber : Option Text
  seriesKey : String
  sequenceScope : String
  sequenceNumber : Int
  status : InvoiceStatus
  performanceDate : Option String
  performancePeriodStart : Option String
  performancePeriodEnd : Option String
  approvedAt : String
  payment : Option InvoicePayment
  currentRevisionId : Option String
  deriving DecidableEq

/-- What a payment event does. -/
inductive PaymentAction
  | paymentMarkedPaid
  | paymentMarkReverted
  deriving DecidableEq

/-- A payment event. -/
structure InvoicePaymentEvent where
  id : String
  invoiceId : String
  action : PaymentAction
  paidOn : String
  amountCents : Int
  deriving DecidableEq

/-- A content revision with its lines, in the order of `line_order`. -/
structure InvoiceContentRevision extends InvoiceContentRevisionRow where
  invoiceId : String
  origin : RevisionOrigin
  invoiceKind : InvoiceKind
  creditedInvoiceId : Option String
  creditedRevisionId : Option String
  totals : InvoiceTotals
  lines : List InvoiceRevisionLineRow
  deriving DecidableEq

/-- The table lets only a legacy snapshot be without a VAT breakdown. -/
def InvoiceContentRevision.vatBreakdownState (revision : InvoiceContentRevision) :
    VatBreakdownState :=
  if revision.origin = .legacySnapshot then .unavailable else .authoritative

/-- What a document belongs to. -/
inductive InvoiceDocumentBinding
  | legacyOriginal
  | revision (revisionId : String)
  | preservedLegacy (sourceDocumentId : String)
  deriving DecidableEq

/-- A stored document. -/
structure InvoiceDocument where
  invoiceId : String
  storagePath : String
  sha256 : String
  sizeBytes : Int
  binding : InvoiceDocumentBinding
  deriving DecidableEq

/-- How an invoice is delivered. -/
inductive DeliveryMethod
  | email
  | manual
  | print
  | other
  deriving DecidableEq

/-- By whom it is delivered. -/
inductive DeliveryProvider
  | dryRun
  | smtp
  | gmail
  | microsoft
  | manual
  | other
  deriving DecidableEq

/-- Where a delivery stands. -/
inductive DeliveryStatus
  | prepared
  | attempted
  | succeeded
  | failed
  | outcomeUnknown
  deriving DecidableEq

/-- Whom a delivery is for. -/
inductive SendMode
  | customer
  | smtpTest
  | dryRun
  | manual
  | legacyUnknown
  deriving DecidableEq

/-- `binding_kind` and `revision_id`, which the table ties together. -/
inductive DeliveryBinding
  | legacyOriginal
  | revision (revisionId : String)
  | preservedLegacy
  deriving DecidableEq

/-- The normalised outcome of a delivery: `completeReservedInvoiceEmailDelivery` first trims and
    bounds the texts and drops those that do not belong to the status, and what results is
    compared with the event and stored in it. -/
structure DeliveryOutcome where
  status : DeliveryStatus
  providerMessageId : Option String
  safeErrorMessage : Option String
  technicalErrorCode : Option String
  deriving DecidableEq

/-- A delivery event. -/
structure InvoiceDeliveryEvent extends DeliveryOutcome where
  invoiceId : String
  documentId : Option String
  deliveryMethod : DeliveryMethod
  provider : DeliveryProvider
  binding : DeliveryBinding
  sendMode : SendMode
  documentSha256 : Option String
  documentSizeBytes : Option Int
  deriving DecidableEq

/-- The tables of a company.  Payment and series events are only ever appended. -/
structure Ledger where
  numberingSettings : OrderedMap String InvoiceNumberingSettings
  activeSeries : Option InvoiceNumberingActiveSeries
  seriesEvents : List InvoiceNumberingSeriesEvent
  numberSequences : OrderedMap (String × String) Int
  drafts : OrderedMap String InvoiceDraft
  invoices : OrderedMap String Invoice
  paymentEvents : List InvoicePaymentEvent
  revisions : OrderedMap String InvoiceContentRevision
  documents : OrderedMap String InvoiceDocument
  deliveryEvents : OrderedMap String InvoiceDeliveryEvent

/-- The tables of a new company. -/
def Ledger.empty : Ledger where
  numberingSettings := .empty
  activeSeries := none
  seriesEvents := []
  numberSequences := .empty
  drafts := .empty
  invoices := .empty
  paymentEvents := []
  revisions := .empty
  documents := .empty
  deliveryEvents := .empty

/-! ## Refusals -/

/-- Why a request changes nothing: the outcomes other than success, the errors that are
    thrown, and what the database refuses. -/
inductive Refusal
  | notFound
  | conflict
  | notEligible
  | notPayable
  | notCancellable
  | confirmationMismatch
  | deliveryConflict
  | legacyDeliveryReviewRequired
  | unsafeFirstSequenceNumber
  | documentIntegrity
  | revisionIntegrity
  | settingsLocked
  | numbering (error : InvoiceNumberingError)
  | invoice (error : InvoiceError)
  | aborted (message : String)
  deriving DecidableEq

/-- A transaction, which answers or refuses. -/
abbrev Transaction := Except Refusal

/-- The refusals of the numbering. -/
def fromNumbering {α : Type} (result : Except InvoiceNumberingError α) : Transaction α :=
  result.mapError .numbering

/-- The refusals of the approval. -/
def fromApproval {α : Type} (result : Approval α) : Transaction α :=
  result.mapError fun
    | .notFound => .notFound
    | .conflict => .conflict
    | .rejected error => .invoice error
    | .aborted message => .aborted message

variable {α : Type} {value : α}

theorem mapError_eq_ok {ε ε' : Type} {f : ε → ε'} {result : Except ε α} :
    result.mapError f = .ok value ↔ result = .ok value := by
  cases result with
  | error e => exact ⟨(fun h => by cases h), fun h => by cases h⟩
  | ok a =>
      show Except.ok a = .ok value ↔ Except.ok a = .ok value
      rw [Except.ok.injEq, Except.ok.injEq]

@[simp] theorem fromNumbering_eq_ok {result : Except InvoiceNumberingError α} :
    fromNumbering result = .ok value ↔ result = .ok value := mapError_eq_ok

@[simp] theorem fromApproval_eq_ok {result : Approval α} :
    fromApproval result = .ok value ↔ result = .ok value := mapError_eq_ok

/-! ## Numbering -/

namespace Ledger

/-- The series that is there from the start. -/
def defaultInvoiceNumberSeriesKey : String := "default"

/-- Whether the trigger `invoice_numbering_settings_immutable_update` protects a series. -/
def SeriesUsed (s : Ledger) (seriesKey : String) : Prop :=
  (∃ e ∈ s.numberSequences.entries, e.1.1 = seriesKey)
    ∨ (∃ e ∈ s.invoices.entries, e.2.seriesKey = seriesKey)
    ∨ ∃ event ∈ s.seriesEvents, event.previousSeriesKey = seriesKey
      ∨ event.nextSeriesKey = seriesKey

instance (s : Ledger) (seriesKey : String) : Decidable (s.SeriesUsed seriesKey) :=
  inferInstanceAs (Decidable (_ ∨ _ ∨ _))

/-- Stores the settings of a series. -/
def saveSettings (s : Ledger) (seriesKey : String) (settings : InvoiceNumberingSettings) :
    Transaction Ledger := do
  fromNumbering (validateInvoiceNumberingSettings settings)
  throwIf (s.numberingSettings.get? seriesKey ≠ none ∧ s.SeriesUsed seriesKey)
    (.aborted "Used invoice numbering settings are immutable.")
  pure { s with
    numberingSettings := s.numberingSettings.set seriesKey settings
    activeSeries := s.activeSeries
      <|> if seriesKey = defaultInvoiceNumberSeriesKey then some ⟨seriesKey, 1⟩ else none }

/-- `currentSettings` and `hasUsedNumbering` were read before the transaction. -/
def updateInvoiceNumberingSettings (s : Ledger) (nextSettings : InvoiceNumberingSettings)
    (currentSettings : Option InvoiceNumberingSettings) (hasUsedNumbering : Bool) :
    Transaction Ledger := do
  fromNumbering (validateInvoiceNumberingSettings nextSettings)
  currentSettings.toList.forM fun current =>
    fromNumbering (validateInvoiceNumberingSettings current)
  throwIf (hasUsedNumbering ∧ currentSettings ≠ none ∧ currentSettings ≠ some nextSettings)
    .settingsLocked
  s.saveSettings defaultInvoiceNumberSeriesKey nextSettings

/-- A request for another series. -/
structure ActivateInvoiceNumberingSeries where
  expectedActiveSeriesKey : String
  expectedRevision : Int
  nextSeriesKey : String
  nextSettings : InvoiceNumberingSettings
  eventId : String
  deriving DecidableEq

/-- The checks of such a request. -/
def validateActivationInput (input : ActivateInvoiceNumberingSeries) : Transaction Unit := do
  throwIf (input.expectedActiveSeriesKey = input.nextSeriesKey)
    (.numbering ⟨"Invoice numbering series transition must change the active series."⟩)
  fromNumbering (validateInvoiceNumberingSettings input.nextSettings)
  throwIf (input.expectedRevision < 1 ∨ ¬ IsSafeInteger (input.expectedRevision + 1))
    (.numbering ⟨"Invoice numbering series activation input is inconsistent."⟩)

/-- All numbers that were given. -/
def readExistingInvoiceNumbers (s : Ledger) : List Text :=
  s.invoices.entries.map (·.2.invoiceNumber)

/-- Makes another series the active one. -/
def activate (s : Ledger) (input : ActivateInvoiceNumberingSeries) : Transaction Ledger := do
  validateActivationInput input
  let current ← orThrow s.activeSeries .notFound
  throwIf (current ≠ ⟨input.expectedActiveSeriesKey, input.expectedRevision⟩) .conflict
  throwIf (s.numberingSettings.get? input.nextSeriesKey ≠ none) .conflict
  let safeStart ← fromNumbering (calculateMinimumSafeInvoiceSequenceNumber
    s.readExistingInvoiceNumbers input.nextSettings.toInvoiceNumberingSeriesCandidate)
  (validateInvoiceNumberingSeriesFirstSequenceNumber input.nextSettings.firstSequenceNumber
    safeStart).mapError fun _ => .unsafeFirstSequenceNumber
  throwIf (∃ event ∈ s.seriesEvents, event.id = input.eventId)
    (.aborted "UNIQUE constraint failed: invoice_numbering_series_events.id")
  pure { s with
    numberingSettings := s.numberingSettings.set input.nextSeriesKey input.nextSettings
    activeSeries := some ⟨input.nextSeriesKey, input.expectedRevision + 1⟩
    seriesEvents := s.seriesEvents
      ++ [⟨input.eventId, input.expectedActiveSeriesKey, input.nextSeriesKey⟩] }

/-- The active series and its settings. -/
def getActiveNumberingSettings (s : Ledger) : Option (String × InvoiceNumberingSettings) := do
  let active ← s.activeSeries
  let settings ← s.numberingSettings.get? active.activeSeriesKey
  pure (active.activeSeriesKey, settings)

/-- What an approval writes about the number of its invoice. -/
structure NumberedInvoice where
  seriesKey : String
  sequenceScope : String
  sequenceNumber : Int
  invoiceNumber : Text
  deriving DecidableEq

/-- The part that both approvals share: the number after the last one of the scope. -/
def nextInvoiceNumber (s : Ledger) (invoiceDate : Text) : Transaction NumberedInvoice := do
  let (seriesKey, settings) ← orThrow s.getActiveNumberingSettings
    (.invoice (.approveDraft "Active invoice numbering settings were not found."))
  fromNumbering (validateInvoiceNumberingSettings settings)
  let sequenceScope ← fromNumbering (resolveInvoiceNumberSequenceScope settings invoiceDate)
  let sequenceNumber := (s.numberSequences.get? (seriesKey, sequenceScope)).elim
    settings.firstSequenceNumber (· + 1)
  fromNumbering (validateInvoiceSequenceNumber sequenceNumber)
  let invoiceNumber ← fromNumbering (formatInvoiceNumber settings invoiceDate sequenceNumber)
  pure { seriesKey, sequenceScope, sequenceNumber, invoiceNumber }

/-! ## Current revisions and delivery history -/

/-- The revision that `invoice_current_revisions` names, joined by its invoice. -/
def currentRevision (s : Ledger) (invoiceId : String) :
    Option (String × InvoiceContentRevision) := do
  let invoice ← s.invoices.get? invoiceId
  let revisionId ← invoice.currentRevisionId
  let revision ← s.revisions.get? revisionId
  if revision.invoiceId = invoiceId then some (revisionId, revision) else none

/-- The delivery events of an invoice. -/
def deliveryEventsOf (s : Ledger) (invoiceId : String) : List InvoiceDeliveryEvent :=
  (s.deliveryEvents.entries.map (·.2)).filter (·.invoiceId = invoiceId)

/-- A delivery whose end is not known. -/
def HasUnresolvedDelivery (s : Ledger) (invoiceId : String) : Prop :=
  ∃ e ∈ s.deliveryEventsOf invoiceId, e.status = .attempted ∨ e.status = .outcomeUnknown

instance (s : Ledger) (invoiceId : String) : Decidable (s.HasUnresolvedDelivery invoiceId) :=
  inferInstanceAs (Decidable (∃ e ∈ _, _))

/-- Only the migrated snapshot that is still approved is held. -/
def RequiresLegacyDeliveryReview (s : Ledger) (invoiceId : String) : Prop :=
  (∃ invoice ∈ s.invoices.get? invoiceId, invoice.status = .approved)
    ∧ (∃ current ∈ s.currentRevision invoiceId, current.2.origin = .legacySnapshot)
    ∧ ∃ e ∈ s.deliveryEventsOf invoiceId, e.binding = .legacyOriginal ∧ e.provider = .smtp

instance (s : Ledger) (invoiceId : String) :
    Decidable (s.RequiresLegacyDeliveryReview invoiceId) :=
  inferInstanceAs (Decidable (_ ∧ _ ∧ _))

end Ledger

end InvoiceLedger
