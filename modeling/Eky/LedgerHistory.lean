import Eky.LedgerChanges

/-! # What no request takes back

    Whatever is requested later, an invoice keeps its number and what it was made from; a
    sent invoice keeps its content and a cancelled one everything (`Invoice.Succeeds`).  The
    outcome of a delivery is recorded once (`InvoiceDeliveryEvent.Succeeds`).  Revisions and
    documents never change, and payment and series events are only added
    (`follows_of_reachable`). -/

namespace InvoiceLedger

open Fallible AsciiLines LegacyRevision OrderedMap

/-! ## How rows may change -/

/-- What an invoice was made from, and everything that its number consists of. -/
structure InvoiceIdentity where
  sourceDraftId : String
  invoiceKind : InvoiceKind
  creditedInvoiceId : Option String
  invoiceNumber : Text
  referenceNumber : Option Text
  seriesKey : String
  sequenceScope : String
  sequenceNumber : Int
  deriving DecidableEq

/-- What never changes about an invoice. -/
def Invoice.identity (invoice : Invoice) : InvoiceIdentity where
  sourceDraftId := invoice.sourceDraftId
  invoiceKind := invoice.invoiceKind
  creditedInvoiceId := invoice.creditedInvoiceId
  invoiceNumber := invoice.invoiceNumber
  referenceNumber := invoice.referenceNumber
  seriesKey := invoice.seriesKey
  sequenceScope := invoice.sequenceScope
  sequenceNumber := invoice.sequenceNumber

/-- What may become of an invoice. -/
structure Invoice.Succeeds (before after : Invoice) : Prop where
  identity : after.identity = before.identity
  sent : before.status = .sent → after = { before with payment := after.payment }
  cancelled : before.status = .cancelled → after = before

theorem Invoice.Succeeds.refl (invoice : Invoice) : Invoice.Succeeds invoice invoice :=
  ⟨rfl, fun _ => rfl, fun _ => rfl⟩

theorem Invoice.Succeeds.trans {first second third : Invoice}
    (h : Invoice.Succeeds first second) (h' : Invoice.Succeeds second third) :
    Invoice.Succeeds first third where
  identity := h'.identity.trans h.identity
  sent := by
    intro hsent
    have hsecond := h.sent hsent
    have hthird := h'.sent (by rw [hsecond]; exact hsent)
    rw [hsecond] at hthird
    exact hthird
  cancelled := by
    intro hcancelled
    obtain rfl := h.cancelled hcancelled
    exact h'.cancelled hcancelled

variable {invoiceId : String} {before after : Invoice}

/-- An approved or reopened invoice can be changed, but not in its identity. -/
theorem Invoice.succeeds_of_unfinished (hidentity : after.identity = before.identity)
    (hsent : before.status ≠ .sent) (hcancelled : before.status ≠ .cancelled) :
    Invoice.Succeeds before after :=
  ⟨hidentity, fun h => absurd h hsent, fun h => absurd h hcancelled⟩

theorem Invoice.succeeds_of_approved (hidentity : after.identity = before.identity)
    (happroved : before.status = .approved) : Invoice.Succeeds before after :=
  Invoice.succeeds_of_unfinished hidentity (by rw [happroved]; decide)
    (by rw [happroved]; decide)

/-- What may become of a delivery event. -/
structure InvoiceDeliveryEvent.Succeeds (before after : InvoiceDeliveryEvent) : Prop where
  kept : after = { before with toDeliveryOutcome := after.toDeliveryOutcome }
  final : before.status ≠ .attempted → after = before

theorem InvoiceDeliveryEvent.Succeeds.refl (event : InvoiceDeliveryEvent) :
    InvoiceDeliveryEvent.Succeeds event event :=
  ⟨rfl, fun _ => rfl⟩

theorem InvoiceDeliveryEvent.Succeeds.trans {first second third : InvoiceDeliveryEvent}
    (h : InvoiceDeliveryEvent.Succeeds first second)
    (h' : InvoiceDeliveryEvent.Succeeds second third) :
    InvoiceDeliveryEvent.Succeeds first third where
  kept := by
    have hsecond := h.kept
    have hthird := h'.kept
    rw [hsecond] at hthird
    exact hthird
  final := by
    intro hfinal
    obtain rfl := h.final hfinal
    exact h'.final hfinal

namespace Ledger

/-- What a later ledger has kept of an earlier one. -/
structure Follows (s t : Ledger) : Prop where
  invoices : s.invoices.Evolves Invoice.Succeeds t.invoices
  deliveryEvents : s.deliveryEvents.Evolves InvoiceDeliveryEvent.Succeeds t.deliveryEvents
  revisions : s.revisions.Evolves Eq t.revisions
  documents : s.documents.Evolves Eq t.documents
  paymentEvents : s.paymentEvents <+: t.paymentEvents
  seriesEvents : s.seriesEvents <+: t.seriesEvents

theorem Follows.refl (s : Ledger) : Follows s s where
  invoices := .refl Invoice.Succeeds.refl
  deliveryEvents := .refl InvoiceDeliveryEvent.Succeeds.refl
  revisions := .refl fun _ => rfl
  documents := .refl fun _ => rfl
  paymentEvents := List.prefix_refl _
  seriesEvents := List.prefix_refl _

theorem Follows.trans {s t u : Ledger} (h : Follows s t) (h' : Follows t u) : Follows s u where
  invoices := h.invoices.trans (fun _ _ _ => Invoice.Succeeds.trans) h'.invoices
  deliveryEvents :=
    h.deliveryEvents.trans (fun _ _ _ => InvoiceDeliveryEvent.Succeeds.trans) h'.deliveryEvents
  revisions := h.revisions.trans (fun _ _ _ => Eq.trans) h'.revisions
  documents := h.documents.trans (fun _ _ _ => Eq.trans) h'.documents
  paymentEvents := h.paymentEvents.trans h'.paymentEvents
  seriesEvents := h.seriesEvents.trans h'.seriesEvents

/-! ## One request -/

variable {storagePath : String → String → Option String}
variable {localeCompare : String → String → Int} {s t u : Ledger} {invoice later : Invoice}

theorem standard_of_approveDraft {draft : InvoiceApproval.InvoiceDraftRow}
    {rows : List InvoiceApproval.InvoiceDraftLineRow} {confirmed : Bool}
    {issued : InvoiceApproval.IssuedInvoice}
    (h : InvoiceApproval.approveDraft draft rows confirmed = .ok issued) :
    issued.invoiceKind = .standard := by
  simp only [InvoiceApproval.approveDraft, bind_eq_ok, throwIf_eq_ok, exists_const,
    pure_eq_ok] at h
  obtain ⟨-, -, -, _, -, _, -, rfl⟩ := h
  rfl

theorem Reapproval.identity {draftId revisionId : String} {draft : InvoiceDraft}
    (h : Reapproval s draftId invoiceId revisionId draft before after) :
    after.identity = before.identity := by
  obtain ⟨confirmed, hissued⟩ := h.issued
  have hkind : after.invoiceKind = before.invoiceKind :=
    (standard_of_approveDraft hissued).trans h.standard.symm
  rw [h.kept]
  simp only [Invoice.identity, hkind]

/-- Every request only adds to the history. -/
theorem follows_of_change (h : Change storagePath localeCompare s t) :
    Follows s t := by
  have hinvoice := Invoice.Succeeds.refl
  have hevent := InvoiceDeliveryEvent.Succeeds.refl
  cases h with
  | nothing => exact .refl s
  | settings => exact { Follows.refl s with }
  | activated => exact { Follows.refl s with seriesEvents := List.prefix_append _ _ }
  | drafted => exact { Follows.refl s with }
  | discarded => exact { Follows.refl s with }
  | issued h =>
      exact { Follows.refl s with
        invoices := evolves_insert hinvoice h.newInvoice
        revisions := evolves_insert (fun _ => rfl) h.newRevision }
  | reapproved h =>
      exact { Follows.refl s with
        invoices := evolves_update hinvoice h.storedInvoice (Invoice.succeeds_of_unfinished
          h.identity (by rw [h.reopened]; decide) (by rw [h.reopened]; decide))
        revisions := evolves_insert (fun _ => rfl) h.newRevision }
  | reopened hstored happroved =>
      exact { Follows.refl s with
        invoices := evolves_update hinvoice hstored
          (Invoice.succeeds_of_approved rfl happroved) }
  | cancelled hstored happroved =>
      exact { Follows.refl s with
        invoices := evolves_update hinvoice hstored
          (Invoice.succeeds_of_approved rfl happroved) }
  | paid hstored _ hsent =>
      refine { Follows.refl s with
        invoices := evolves_update hinvoice hstored ⟨rfl, fun _ => rfl, fun hcancelled => ?_⟩
        paymentEvents := List.prefix_append _ _ }
      cases hsent.symm.trans hcancelled
  | published hnew =>
      exact { Follows.refl s with documents := evolves_insert (fun _ => rfl) hnew }
  | reserved _ _ _ hnew =>
      exact { Follows.refl s with deliveryEvents := evolves_insert hevent hnew }
  | completed hstored _ hattempted =>
      exact { Follows.refl s with
        deliveryEvents := evolves_update hevent hstored
          ⟨rfl, fun hfinal => absurd hattempted hfinal⟩ }
  | arrived hstored _ hattempted _ _ happroved htarget =>
      exact { Follows.refl s with
        invoices := evolves_update hinvoice htarget.found
          (Invoice.succeeds_of_approved rfl happroved)
        deliveryEvents := evolves_update hevent hstored
          ⟨rfl, fun hfinal => absurd hattempted hfinal⟩ }
  | delivered happroved htarget _ hnew =>
      exact { Follows.refl s with
        invoices := evolves_update hinvoice htarget.found
          (Invoice.succeeds_of_approved rfl happroved)
        deliveryEvents := evolves_insert hevent hnew }
  | rehearsed _ _ hnew =>
      exact { Follows.refl s with deliveryEvents := evolves_insert hevent hnew }
  | promoted hstored happroved _ _ _ hnew =>
      exact { Follows.refl s with
        invoices := evolves_update hinvoice hstored
          (Invoice.succeeds_of_approved rfl happroved)
        revisions := evolves_insert (fun _ => rfl) hnew }

/-! ## Every run -/

/-- The requests after a ledger. -/
abbrev After (storagePath : String → String → Option String)
    (localeCompare : String → String → Int) (s : Ledger) : TransitionSystem Ledger :=
  ledgerSystem storagePath localeCompare (· = s)

theorem follows_of_reachable
    (h : (After storagePath localeCompare s).Reachable t) : Follows s t := by
  induction h with
  | initial h =>
      cases h
      exact .refl s
  | step _ h ih =>
      obtain ⟨request, h⟩ := h
      exact ih.trans (follows_of_change (change_of_execute h))

theorem currentRevision_eq_some {current : String × InvoiceContentRevision} :
    s.currentRevision invoiceId = some current
      ↔ ∃ invoice, s.invoices.get? invoiceId = some invoice
        ∧ invoice.currentRevisionId = some current.1
        ∧ s.revisions.get? current.1 = some current.2 ∧ current.2.invoiceId = invoiceId := by
  simp only [currentRevision, Option.bind_eq_bind, Option.bind_eq_some_iff,
    Option.ite_none_right_eq_some, Option.some.injEq]
  constructor
  · rintro ⟨invoice, hinvoice, revisionId, hcurrent, revision, hrevision, howner, rfl⟩
    exact ⟨invoice, hinvoice, hcurrent, hrevision, howner⟩
  · rintro ⟨invoice, hinvoice, hcurrent, hrevision, howner⟩
    exact ⟨invoice, hinvoice, _, hcurrent, _, hrevision, howner, rfl⟩

theorem currentRevision_follows {current : String × InvoiceContentRevision} (hfollows : Follows s t)
    (hinvoice : s.invoices.get? invoiceId = some invoice)
    (hlater : t.invoices.get? invoiceId = some later)
    (hsame : later.currentRevisionId = invoice.currentRevisionId)
    (h : s.currentRevision invoiceId = some current) :
    t.currentRevision invoiceId = some current := by
  obtain ⟨found, hfound, hcurrent, hrevision, howner⟩ := currentRevision_eq_some.mp h
  obtain rfl := Option.some.inj (hinvoice.symm.trans hfound)
  exact currentRevision_eq_some.mpr
    ⟨later, hlater, hsame.trans hcurrent, hfollows.revisions.get? hrevision, howner⟩

/-- **NOTHING IS TAKEN BACK**: every invoice stays what it is, a sent or cancelled one with
    its content, and every outcome, revision, document and event stays as it was recorded. -/
theorem history_kept
    (h : (After storagePath localeCompare s).Reachable t) :
    (∀ invoiceId invoice, s.invoices.get? invoiceId = some invoice →
      ∃ later, t.invoices.get? invoiceId = some later ∧ later.identity = invoice.identity
        ∧ (invoice.status = .sent → later = { invoice with payment := later.payment }
          ∧ ∀ current, s.currentRevision invoiceId = some current →
            t.currentRevision invoiceId = some current)
        ∧ (invoice.status = .cancelled → later = invoice))
    ∧ (∀ eventId event, s.deliveryEvents.get? eventId = some event → event.status ≠ .attempted →
      t.deliveryEvents.get? eventId = some event)
    ∧ (∀ revisionId revision, s.revisions.get? revisionId = some revision →
      t.revisions.get? revisionId = some revision)
    ∧ (∀ documentId document, s.documents.get? documentId = some document →
      t.documents.get? documentId = some document)
    ∧ s.paymentEvents <+: t.paymentEvents ∧ s.seriesEvents <+: t.seriesEvents := by
  have hfollows := follows_of_reachable h
  refine ⟨fun invoiceId invoice hinvoice => ?_, fun eventId event hevent hdone => ?_,
    fun _ _ => hfollows.revisions.get?, fun _ _ => hfollows.documents.get?,
    hfollows.paymentEvents, hfollows.seriesEvents⟩
  · obtain ⟨later, hlater, hsucceeds⟩ := hfollows.invoices _ _ hinvoice
    refine ⟨later, hlater, hsucceeds.identity, fun hsent => ⟨hsucceeds.sent hsent, ?_⟩,
      hsucceeds.cancelled⟩
    intro current hcurrent
    exact currentRevision_follows hfollows hinvoice hlater (by rw [hsucceeds.sent hsent]) hcurrent
  · obtain ⟨later, hlater, hsucceeds⟩ := hfollows.deliveryEvents _ _ hevent
    obtain rfl := hsucceeds.final hdone
    exact hlater

theorem history_kept_sample :
    ∃ later, (sampleAfter 10).invoices.get? "i1" = some later
      ∧ (sampleAfter 10).currentRevision "i1" = (sampleAfter 6).currentRevision "i1" := by
  have hrun : (After samplePath sampleCompare (sampleAfter 6)).Reachable (sampleAfter 10) :=
    @reachable_of_run _ _ _ _ _ ((sampleRequests.drop 6).take 4) (.initial rfl) (by rfl)
  obtain ⟨hinvoices, -⟩ := history_kept hrun
  obtain ⟨invoice, hinvoice, hsent⟩ : ∃ invoice,
      (sampleAfter 6).invoices.get? "i1" = some invoice ∧ invoice.status = .sent := ⟨_, rfl, rfl⟩
  obtain ⟨later, hlater, -, hkept, -⟩ := hinvoices "i1" invoice hinvoice
  obtain ⟨current, hcurrent⟩ : ∃ current,
      (sampleAfter 6).currentRevision "i1" = some current := ⟨_, rfl⟩
  exact ⟨later, hlater, ((hkept hsent).2 current hcurrent).trans hcurrent.symm⟩

end Ledger

end InvoiceLedger
