import Eky.LedgerInvoices

/-! # The ledger's documents and deliveries

    A document is published for the current revision of an invoice.  An e-mail delivery is
    reserved before the message is handed to the server and completed afterwards; a manual
    delivery is recorded in one step.  An invoice whose delivery has succeeded is sent.

    Events from before content revisions do not say which document they were about.  While
    one of them may have reached the customer, the invoice is held. -/

namespace InvoiceLedger

open Fallible LegacyRevision OrderedMap
open InvoiceApproval (legacySnapshot)

/-! ## Targets -/

/-- The document a delivery is about, and the revision or the original it stands for. -/
inductive DeliveryTargetKind
  | revision (revisionId : String)
  | preservedLegacy (sourceDocumentId : String)
  deriving DecidableEq

/-- The document that is sent. -/
structure InvoiceDeliveryTarget where
  invoiceId : String
  documentId : String
  sha256 : String
  sizeBytes : Int
  kind : DeliveryTargetKind
  deriving DecidableEq

/-- A preserved original goes to the customer only. -/
structure InvoiceDeliveryReservation where
  eventId : String
  mode : SendMode
  target : InvoiceDeliveryTarget
  deriving DecidableEq

/-- What the document belongs to. -/
def DeliveryTargetKind.documentBinding : DeliveryTargetKind → InvoiceDocumentBinding
  | .revision revisionId => .revision revisionId
  | .preservedLegacy sourceDocumentId => .preservedLegacy sourceDocumentId

/-- What the event belongs to. -/
def DeliveryTargetKind.eventBinding : DeliveryTargetKind → DeliveryBinding
  | .revision revisionId => .revision revisionId
  | .preservedLegacy _ => .preservedLegacy

/-- The target is a revision. -/
def DeliveryTargetKind.IsRevision : DeliveryTargetKind → Bool
  | .revision _ => true
  | .preservedLegacy _ => false

/-- The checks of a reservation. -/
def assertInvoiceDeliveryReservation (reservation : InvoiceDeliveryReservation) :
    Transaction Unit :=
  throwIf ((reservation.mode ≠ .customer ∧ reservation.mode ≠ .smtpTest)
    ∨ (reservation.target.kind.IsRevision = false ∧ reservation.mode ≠ .customer))
    .deliveryConflict

namespace Ledger

/-! ## Documents -/

section Documents

-- The path of a document below the company's own files; a key can have none.
variable (createInvoiceDocumentStoragePath : String → String → Option String)

/-- What `validateStoredDocument` requires of a stored row. -/
def validateStoredDocument (s : Ledger) (documentId : String) (document : InvoiceDocument) :
    Transaction Unit := do
  throwIf (document.binding ≠ .legacyOriginal
    ∧ createInvoiceDocumentStoragePath document.invoiceId documentId
      ≠ some document.storagePath) .documentIntegrity
  throwIf (s.invoices.get? document.invoiceId).isNone .documentIntegrity
  match document.binding with
  | .legacyOriginal => pure ()
  | .revision revisionId => do
      let revision ← orThrow (s.revisions.get? revisionId) .documentIntegrity
      throwIf (revision.invoiceId ≠ document.invoiceId ∨ revision.origin = .legacySnapshot)
        .documentIntegrity
  | .preservedLegacy sourceDocumentId => do
      let source ← orThrow (s.documents.get? sourceDocumentId) .documentIntegrity
      throwIf (source.invoiceId ≠ document.invoiceId ∨ source.binding ≠ .legacyOriginal
        ∨ source.sha256 ≠ document.sha256 ∨ source.sizeBytes ≠ document.sizeBytes
        ∨ source.storagePath = document.storagePath) .documentIntegrity

/-- The document of an invoice. -/
def readInvoiceDocumentMetadata (s : Ledger) (invoiceId documentId : String) :
    Transaction (Option InvoiceDocument) :=
  match (s.documents.get? documentId).filter (·.invoiceId = invoiceId) with
  | none => pure none
  | some document => do
      s.validateStoredDocument createInvoiceDocumentStoragePath documentId document
      pure (some document)

/-- A file that has been written for an invoice. -/
structure InvoiceDocumentCandidate where
  id : String
  storagePath : String
  sha256 : String
  sizeBytes : Int
  deriving DecidableEq

/-- The checks of a new document. -/
def validateDocumentCandidate (invoiceId : String) (candidate : InvoiceDocumentCandidate) :
    Transaction Unit :=
  throwIf (createInvoiceDocumentStoragePath invoiceId candidate.id ≠ some candidate.storagePath)
    .documentIntegrity

/-- Its id or its path is taken. -/
def HasCandidateCollision (s : Ledger) (candidate : InvoiceDocumentCandidate) : Prop :=
  ∃ e ∈ s.documents.entries, e.1 = candidate.id ∨ e.2.storagePath = candidate.storagePath

instance (s : Ledger) (candidate : InvoiceDocumentCandidate) :
    Decidable (s.HasCandidateCollision candidate) :=
  inferInstanceAs (Decidable (∃ e ∈ s.documents.entries,
    e.1 = candidate.id ∨ e.2.storagePath = candidate.storagePath))

/-- The revision is the last one of a living invoice. -/
def IsCurrentRevision (s : Ledger) (invoiceId revisionId : String) : Prop :=
  (∃ invoice ∈ s.invoices.get? invoiceId,
      invoice.status = .approved ∨ invoice.status = .sent)
    ∧ ∃ current ∈ s.currentRevision invoiceId,
      current.1 = revisionId ∧ current.2.origin ≠ .legacySnapshot

instance (s : Ledger) (invoiceId revisionId : String) :
    Decidable (s.IsCurrentRevision invoiceId revisionId) :=
  inferInstanceAs (Decidable ((∃ invoice ∈ s.invoices.get? invoiceId,
      invoice.status = .approved ∨ invoice.status = .sent)
    ∧ ∃ current ∈ s.currentRevision invoiceId,
      current.1 = revisionId ∧ current.2.origin ≠ .legacySnapshot))

/-- The document of an invoice with a binding. -/
def findBoundDocument (s : Ledger) (invoiceId : String) (binding : InvoiceDocumentBinding) :
    Option (String × InvoiceDocument) :=
  s.documents.entries.find? fun e => e.2.invoiceId = invoiceId ∧ e.2.binding = binding

/-- Stores a document. -/
def publishDocument (s : Ledger) (invoiceId : String) (candidate : InvoiceDocumentCandidate)
    (binding : InvoiceDocumentBinding) : Transaction Ledger :=
  match s.findBoundDocument invoiceId binding with
  | some existing => do
      s.validateStoredDocument createInvoiceDocumentStoragePath existing.1 existing.2
      pure s
  | none => do
      throwIf (s.HasCandidateCollision candidate) .conflict
      pure { s with
        documents := s.documents.set candidate.id {
          invoiceId, binding
          storagePath := candidate.storagePath
          sha256 := candidate.sha256
          sizeBytes := candidate.sizeBytes } }

/-- Stores the document of the last revision. -/
def publishDocumentIfCurrent (s : Ledger) (invoiceId revisionId : String)
    (candidate : InvoiceDocumentCandidate) : Transaction Ledger := do
  validateDocumentCandidate createInvoiceDocumentStoragePath invoiceId candidate
  throwIf (¬ s.IsCurrentRevision invoiceId revisionId) .conflict
  s.publishDocument createInvoiceDocumentStoragePath invoiceId candidate (.revision revisionId)

/-! ## Originals from before content revisions -/

/-- A delivery whose end is not known. -/
def HasUnresolvedDeliveryHistory (s : Ledger) (invoiceId : String) : Prop :=
  ∃ e ∈ s.deliveryEventsOf invoiceId, (e.status = .attempted ∨ e.status = .outcomeUnknown)
    ∨ e.binding = .legacyOriginal ∧ e.provider = .smtp ∧ e.status = .failed

instance (s : Ledger) (invoiceId : String) :
    Decidable (s.HasUnresolvedDeliveryHistory invoiceId) :=
  inferInstanceAs (Decidable (∃ e ∈ s.deliveryEventsOf invoiceId,
    (e.status = .attempted ∨ e.status = .outcomeUnknown)
      ∨ e.binding = .legacyOriginal ∧ e.provider = .smtp ∧ e.status = .failed))

/-- The documents that the migrated events of a sent snapshot name, each once. -/
def legacyReferences (s : Ledger) (invoiceId : String) : List (Option String) :=
  if (∃ invoice ∈ s.invoices.get? invoiceId, invoice.status = .sent)
      ∧ ∃ current ∈ s.currentRevision invoiceId, current.2.origin = .legacySnapshot
        ∧ current.2.vatBreakdownState = .unavailable then
    (((s.deliveryEventsOf invoiceId).filter (·.binding = .legacyOriginal)).map
      (·.documentId)).dedup
  else []

/-- The old document that may be sent again. -/
def readLegacyResendSourceId (s : Ledger) (invoiceId : String) : Option String :=
  if s.HasUnresolvedDeliveryHistory invoiceId then none
  else match s.legacyReferences invoiceId with
    | [reference] => reference
    | _ => none

/-- A request to keep an old document. -/
structure PublishPreservedLegacyDocument where
  invoiceId : String
  sourceDocumentId : String
  sourceSha256 : String
  sourceSizeBytes : Int
  candidate : InvoiceDocumentCandidate
  deriving DecidableEq

/-- Stores a copy of an old document. -/
def publishPreservedLegacyDocument (s : Ledger) (input : PublishPreservedLegacyDocument) :
    Transaction Ledger := do
  validateDocumentCandidate createInvoiceDocumentStoragePath input.invoiceId input.candidate
  throwIf (s.readLegacyResendSourceId input.invoiceId ≠ some input.sourceDocumentId) .conflict
  let found ← s.readInvoiceDocumentMetadata createInvoiceDocumentStoragePath input.invoiceId
    input.sourceDocumentId
  let original ← orThrow found .conflict
  throwIf (original.binding ≠ .legacyOriginal
    ∨ original.sha256 ≠ input.sourceSha256 ∨ original.sizeBytes ≠ input.sourceSizeBytes
    ∨ input.candidate.sha256 ≠ input.sourceSha256
    ∨ input.candidate.sizeBytes ≠ input.sourceSizeBytes
    ∨ input.candidate.id = input.sourceDocumentId
    ∨ input.candidate.storagePath = original.storagePath) .conflict
  s.publishDocument createInvoiceDocumentStoragePath input.invoiceId input.candidate
    (.preservedLegacy input.sourceDocumentId)

/-! ## Reserving and completing -/

/-- Whether the document of the target is there as the target says. -/
def readDeliveryTarget (s : Ledger) (target : InvoiceDeliveryTarget) : Transaction Bool := do
  let document ← s.readInvoiceDocumentMetadata createInvoiceDocumentStoragePath
    target.invoiceId target.documentId
  pure (document.any fun document => document.sha256 = target.sha256
    ∧ document.sizeBytes = target.sizeBytes
    ∧ document.binding = target.kind.documentBinding)

/-- Whether the target is what the invoice is about now. -/
def isCurrentTarget (s : Ledger) (target : InvoiceDeliveryTarget) (invoice : Invoice) : Bool :=
  match target.kind with
  | .revision revisionId => (s.currentRevision target.invoiceId).any fun current =>
      current.1 = revisionId ∧ current.2.origin ≠ .legacySnapshot
  | .preservedLegacy _ => invoice.status = .sent
      && (s.currentRevision target.invoiceId).any (·.2.origin = .legacySnapshot)

/-- The invoice, when it is approved or sent and the target is what it is about now. -/
def readEligibleDeliveryInvoice (s : Ledger) (target : InvoiceDeliveryTarget) :
    Transaction (Option Invoice) := do
  throwIf (s.RequiresLegacyDeliveryReview target.invoiceId) .legacyDeliveryReviewRequired
  pure ((s.invoices.get? target.invoiceId).filter fun invoice =>
    (invoice.status = .approved ∨ invoice.status = .sent)
      ∧ s.isCurrentTarget target invoice = true)

/-- A delivery that forbids another. -/
def HasBlockingDeliveryHistory (s : Ledger) (target : InvoiceDeliveryTarget) : Prop :=
  match target.kind with
  | .preservedLegacy sourceDocumentId =>
      s.readLegacyResendSourceId target.invoiceId ≠ some sourceDocumentId
  | .revision _ => s.HasUnresolvedDeliveryHistory target.invoiceId
      ∨ ∃ e ∈ s.deliveryEventsOf target.invoiceId,
        e.binding = .legacyOriginal ∧ e.provider = .smtp

instance (s : Ledger) (target : InvoiceDeliveryTarget) :
    Decidable (s.HasBlockingDeliveryHistory target) :=
  match h : target.kind with
  | .preservedLegacy sourceDocumentId =>
      decidable_of_iff (s.readLegacyResendSourceId target.invoiceId ≠ some sourceDocumentId)
        (by rw [HasBlockingDeliveryHistory, h])
  | .revision _ =>
      decidable_of_iff (s.HasUnresolvedDeliveryHistory target.invoiceId
        ∨ ∃ e ∈ s.deliveryEventsOf target.invoiceId,
          e.binding = .legacyOriginal ∧ e.provider = .smtp)
        (by rw [HasBlockingDeliveryHistory, h])

/-- An e-mail of which it is not known whether it was sent. -/
def InvoiceDeliveryEvent.IsUnresolvedSmtp (event : InvoiceDeliveryEvent) : Prop :=
  event.binding ≠ .legacyOriginal ∧ event.provider = .smtp
    ∧ (event.status = .attempted ∨ event.status = .outcomeUnknown)

instance (event : InvoiceDeliveryEvent) :
    Decidable (InvoiceDeliveryEvent.IsUnresolvedSmtp event) :=
  inferInstanceAs (Decidable (_ ∧ _ ∧ _))

/-- The key `invoice_delivery_events_unresolved_smtp_key` and its triggers. -/
def guardUnresolved (s : Ledger) (eventId : String) (event : InvoiceDeliveryEvent) :
    Transaction Unit :=
  throwIf (InvoiceDeliveryEvent.IsUnresolvedSmtp event
      ∧ ∃ e ∈ s.deliveryEvents.entries, e.1 ≠ eventId ∧ e.2.invoiceId = event.invoiceId
        ∧ InvoiceDeliveryEvent.IsUnresolvedSmtp e.2)
    (.aborted "INVOICE_DELIVERY_UNRESOLVED")

/-- Stores a new event. -/
def insertDeliveryEvent (s : Ledger) (eventId : String) (event : InvoiceDeliveryEvent) :
    Transaction Ledger := do
  throwIf ((s.deliveryEvents.get? eventId).isSome)
    (.aborted "INVOICE_DELIVERY_BINDING_IMMUTABLE")
  s.guardUnresolved eventId event
  pure { s with deliveryEvents := s.deliveryEvents.set eventId event }

/-- The event of a target and an outcome. -/
def toDeliveryEvent (target : InvoiceDeliveryTarget) (deliveryMethod : DeliveryMethod)
    (provider : DeliveryProvider) (sendMode : SendMode) (outcome : DeliveryOutcome) :
    InvoiceDeliveryEvent where
  toDeliveryOutcome := outcome
  invoiceId := target.invoiceId
  documentId := some target.documentId
  deliveryMethod := deliveryMethod
  provider := provider
  sendMode := sendMode
  binding := target.kind.eventBinding
  documentSha256 := some target.sha256
  documentSizeBytes := some target.sizeBytes

/-- Stores that a mail is about to be sent. -/
def reserveInvoiceEmailDelivery (s : Ledger) (reservation : InvoiceDeliveryReservation) :
    Transaction Ledger := do
  assertInvoiceDeliveryReservation reservation
  let invoice ← s.readEligibleDeliveryInvoice reservation.target
  throwIf invoice.isNone .conflict
  throwIf (s.HasBlockingDeliveryHistory reservation.target) .conflict
  let present ← s.readDeliveryTarget createInvoiceDocumentStoragePath reservation.target
  throwIf (¬ present) .conflict
  throwIf ((s.deliveryEvents.get? reservation.eventId).isSome) .conflict
  s.insertDeliveryEvent reservation.eventId
    (toDeliveryEvent reservation.target .email .smtp reservation.mode
      ⟨.attempted, none, none, none⟩)

/-- Whether an event is the one that a reservation made. -/
def InvoiceDeliveryEvent.IsReservedBy (event : InvoiceDeliveryEvent)
    (reservation : InvoiceDeliveryReservation) : Prop :=
  event.invoiceId = reservation.target.invoiceId
    ∧ event.provider = .smtp ∧ event.deliveryMethod = .email
    ∧ event.sendMode = reservation.mode
    ∧ event.binding = reservation.target.kind.eventBinding
    ∧ event.documentId = some reservation.target.documentId
    ∧ event.documentSha256 = some reservation.target.sha256
    ∧ event.documentSizeBytes = some reservation.target.sizeBytes

instance (event : InvoiceDeliveryEvent) (reservation : InvoiceDeliveryReservation) :
    Decidable (InvoiceDeliveryEvent.IsReservedBy event reservation) :=
  inferInstanceAs (Decidable (_ ∧ _ ∧ _ ∧ _ ∧ _ ∧ _ ∧ _ ∧ _))

/-- The update of the event, and of the invoice when the customer has got it. -/
def recordOutcome (s : Ledger) (reservation : InvoiceDeliveryReservation)
    (event : InvoiceDeliveryEvent) (outcome : DeliveryOutcome) (customerSuccess : Bool)
    (invoice : Option Invoice) : Ledger :=
  let deliveryEvents := s.deliveryEvents.set reservation.eventId
    { event with toDeliveryOutcome := outcome }
  match invoice with
  | some invoice =>
      if customerSuccess ∧ invoice.status = .approved then
        { s with
          deliveryEvents
          invoices := s.invoices.set reservation.target.invoiceId
            { invoice with status := .sent } }
      else { s with deliveryEvents }
  | none => { s with deliveryEvents }

/-- The invoice that a success will mark as sent. -/
def readSuccessInvoice (s : Ledger) (target : InvoiceDeliveryTarget)
    (status : DeliveryStatus) : Transaction (Option Invoice) :=
  if status = .succeeded then do
    let invoice ← s.readEligibleDeliveryInvoice target
    throwIf invoice.isNone .deliveryConflict
    pure invoice
  else pure none

/-- A completion that is told again must say the same. -/
def completeEvent (s : Ledger) (reservation : InvoiceDeliveryReservation)
    (event : InvoiceDeliveryEvent) (outcome : DeliveryOutcome) (customerSuccess : Bool) :
    Transaction Ledger :=
  if event.status ≠ .attempted then
    if event.toDeliveryOutcome = outcome then pure s else throw .deliveryConflict
  else do
    let invoice ← s.readSuccessInvoice reservation.target outcome.status
    s.guardUnresolved reservation.eventId { event with toDeliveryOutcome := outcome }
    pure (s.recordOutcome reservation event outcome customerSuccess invoice)

/-- Stores how a mail has ended. -/
def completeReservedInvoiceEmailDelivery (s : Ledger)
    (reservation : InvoiceDeliveryReservation) (outcome : DeliveryOutcome)
    (customerSuccess : Bool) : Transaction Ledger := do
  assertInvoiceDeliveryReservation reservation
  throwIf (outcome.status ∉ [.succeeded, .failed, .outcomeUnknown]
    ∨ ¬ (customerSuccess ↔ reservation.mode = .customer ∧ outcome.status = .succeeded))
    .deliveryConflict
  let event ← orThrow (s.deliveryEvents.get? reservation.eventId) .deliveryConflict
  throwIf (¬ InvoiceDeliveryEvent.IsReservedBy event reservation) .deliveryConflict
  let present ← s.readDeliveryTarget createInvoiceDocumentStoragePath reservation.target
  throwIf (¬ present) .deliveryConflict
  s.completeEvent reservation event outcome customerSuccess

/-! ## Other deliveries -/

/-- Stores a delivery by hand. -/
def completeManualDelivery (s : Ledger) (target : InvoiceDeliveryTarget)
    (deliveryMethod : DeliveryMethod) (deliveryEventId : String) : Transaction Ledger := do
  throwIf (target.kind.IsRevision = false
    ∨ deliveryMethod ≠ .manual ∧ deliveryMethod ≠ .print) .deliveryConflict
  let invoice ← orThrow ((s.invoices.get? target.invoiceId).filter fun invoice =>
    invoice.status = .approved ∨ invoice.status = .sent) .notFound
  let eligible ← s.readEligibleDeliveryInvoice target
  throwIf eligible.isNone .deliveryConflict
  let present ← s.readDeliveryTarget createInvoiceDocumentStoragePath target
  throwIf (¬ present) .deliveryConflict
  if invoice.status = .sent then pure s
  else do
    throwIf (s.HasBlockingDeliveryHistory target) .deliveryConflict
    let recorded ← s.insertDeliveryEvent deliveryEventId
      (toDeliveryEvent target deliveryMethod .manual .manual ⟨.succeeded, none, none, none⟩)
    pure { recorded with
      invoices := s.invoices.set target.invoiceId { invoice with status := .sent } }

/-- A rehearsal that sends nothing. -/
def saveDeliveryEvent (s : Ledger) (target : InvoiceDeliveryTarget) (eventId : String)
    (outcome : DeliveryOutcome) : Transaction Ledger := do
  throwIf (target.kind.IsRevision = false
    ∨ outcome.status ≠ .succeeded ∧ outcome.status ≠ .failed) .deliveryConflict
  let eligible ← s.readEligibleDeliveryInvoice target
  throwIf eligible.isNone .deliveryConflict
  let present ← s.readDeliveryTarget createInvoiceDocumentStoragePath target
  throwIf (¬ present) .deliveryConflict
  s.insertDeliveryEvent eventId (toDeliveryEvent target .email .dryRun .dryRun outcome)

end Documents

/-! ## Promoting a snapshot -/

/-- The revision that a stored credit was made of. -/
def requireCreditSource (s : Ledger) (revision : InvoiceContentRevision) :
    Transaction (Option InvoiceRevisionCreditSource) :=
  if revision.invoiceKind = .standard then pure none
  else do
    let sourceInvoiceId ← orThrow revision.creditedInvoiceId .revisionIntegrity
    let sourceRevisionId ← orThrow revision.creditedRevisionId .revisionIntegrity
    let source ← orThrow (s.revisions.get? sourceRevisionId) .revisionIntegrity
    throwIf (source.invoiceId ≠ sourceInvoiceId ∨ source.invoiceKind ≠ .standard
      ∨ source.creditedInvoiceId ≠ none) .revisionIntegrity
    pure (some ⟨sourceInvoiceId, sourceRevisionId⟩)

/-- The stored snapshot is what a snapshot of the invoice would be.  It has no VAT
    breakdown, which is not compared. -/
def assertSnapshotOfInvoice (invoiceId : String) (invoice : Invoice)
    (header : InvoiceContentRevision) (source : Option InvoiceRevisionCreditSource) :
    Transaction Unit :=
  throwIf (header ≠ { createInvoiceContentRevisionRow invoiceId invoice source with
    origin := header.origin
    totals := { invoice.totals with vatBreakdown := header.totals.vatBreakdown } })
    .revisionIntegrity

/-- The invoice and its revision. -/
def readInvoiceLegacyPromotionSnapshot (s : Ledger) (invoiceId expectedRevisionId : String) :
    Transaction (Invoice × InvoiceContentRevision) := do
  let invoice ← orThrow (s.invoices.get? invoiceId) .deliveryConflict
  throwIf (invoice.status ≠ .approved ∨ invoice.currentRevisionId ≠ some expectedRevisionId)
    .deliveryConflict
  let header ← orThrow ((s.revisions.get? expectedRevisionId).filter
    (·.invoiceId = invoiceId)) .revisionIntegrity
  throwIf (header.origin ≠ .legacySnapshot) .deliveryConflict
  let source ← s.requireCreditSource header
  assertSnapshotOfInvoice invoiceId invoice header source
  pure (invoice, header)

/-- `revisionId` is the id of the new revision, whose totals are derived again. -/
def promoteLegacyRevisionIfCurrent (s : Ledger) (invoiceId expectedRevisionId : String)
    (revisionId : String) : Transaction Ledger := do
  let (invoice, header) ← s.readInvoiceLegacyPromotionSnapshot invoiceId expectedRevisionId
  throwIf (s.RequiresLegacyDeliveryReview invoiceId) .legacyDeliveryReviewRequired
  throwIf (s.HasUnresolvedDeliveryHistory invoiceId
    ∨ ∃ e ∈ s.deliveryEventsOf invoiceId, e.provider = .smtp) .deliveryConflict
  let totals ← (validateLegacyInvoiceRevisionTotals (legacySnapshot
    invoice.toIssuedInvoice)).mapError fun _ => .revisionIntegrity
  throwIf ((s.revisions.get? revisionId).isSome) (.aborted "REVISION_IMMUTABLE")
  pure { s with
    revisions := s.revisions.set revisionId
      { header with origin := .validatedLegacySnapshot, totals }
    invoices := s.invoices.set invoiceId
      { invoice with currentRevisionId := some revisionId } }

end Ledger

end InvoiceLedger
