import Eky.LedgerHistory

/-! # An e-mail between its reservation and its outcome

    The message is handed to the server outside of any transaction, so any requests can
    run between a reservation and its completion.  `InFlight` is what all of them keep
    (`inFlight_of_change`):

    - the invoice is as it was when the e-mail was reserved, but for its payment;
    - the completion is accepted, whatever the outcome (`completes_of_inFlight`).

    A completion is then final: told again it changes nothing, and another outcome is
    refused (`completion_told_again`). -/

namespace InvoiceLedger.Ledger

open Fallible LegacyRevision OrderedMap

variable {storagePath : String → String → Option String}
variable {localeCompare : String → String → Int} {s t u : Ledger}
variable {reservation : InvoiceDeliveryReservation} {target : InvoiceDeliveryTarget}
variable {invoice later : Invoice} {event : InvoiceDeliveryEvent}

/-! ## Targets that stay -/

theorem exists_currentRevision (h : s.isCurrentTarget target invoice = true) :
    ∃ current, s.currentRevision target.invoiceId = some current := by
  cases hcurrent : s.currentRevision target.invoiceId with
  | some current => exact ⟨current, rfl⟩
  | none =>
      unfold isCurrentTarget at h
      rw [hcurrent] at h
      split at h
      · cases h
      · rw [Option.any_none, Bool.and_false] at h
        cases h

theorem isCurrentTarget_congr
    (hcurrent : t.currentRevision target.invoiceId = s.currentRevision target.invoiceId)
    (hstatus : later.status = invoice.status) :
    t.isCurrentTarget target later = s.isCurrentTarget target invoice := by
  rw [isCurrentTarget, isCurrentTarget, hcurrent, hstatus]

/-- What is delivered now needs no review: it is no snapshot, or the invoice is sent. -/
theorem reviewed_of_isCurrentTarget (hinvoice : s.invoices.get? target.invoiceId = some invoice)
    (h : s.isCurrentTarget target invoice = true) :
    ¬ s.RequiresLegacyDeliveryReview target.invoiceId := by
  rintro ⟨⟨found, hfound, happroved⟩, ⟨current, hcurrent, horigin⟩, -⟩
  obtain rfl := Option.some.inj (hinvoice.symm.trans hfound)
  rw [Option.mem_def] at hcurrent
  unfold isCurrentTarget at h
  rw [hcurrent] at h
  split at h
  · rw [Option.any_some, decide_eq_true_eq] at h
    exact h.2 horigin
  · rw [happroved, Bool.and_eq_true, decide_eq_true_eq] at h
    cases h.1

/-- The document of a target, when it is there as the target says. -/
theorem readDeliveryTarget_eq_true :
    s.readDeliveryTarget storagePath target = .ok true
      ↔ ∃ document, s.documents.get? target.documentId = some document
        ∧ document.invoiceId = target.invoiceId
        ∧ s.validateStoredDocument storagePath target.documentId document
          = .ok ()
        ∧ document.sha256 = target.sha256 ∧ document.sizeBytes = target.sizeBytes
        ∧ document.binding = target.kind.documentBinding := by
  simp only [readDeliveryTarget, readInvoiceDocumentMetadata, bind_eq_ok, pure_eq_ok]
  cases hdocument : (s.documents.get? target.documentId).filter
      (·.invoiceId = target.invoiceId) with
  | none =>
      constructor
      · rintro ⟨found, hfound, hpresent⟩
        obtain rfl := pure_eq_ok.mp hfound
        cases hpresent
      · rintro ⟨document, hget, howner, -⟩
        rw [hget, Option.filter_some, if_pos (decide_eq_true howner)] at hdocument
        cases hdocument
  | some document =>
      rw [Option.filter_eq_some_iff, decide_eq_true_eq] at hdocument
      simp only [bind_eq_ok, pure_eq_ok]
      constructor
      · rintro ⟨found, ⟨_, hvalid, rfl⟩, hpresent⟩
        rw [Option.any_some, decide_eq_true_eq] at hpresent
        exact ⟨document, hdocument.1, hdocument.2, hvalid, hpresent⟩
      · rintro ⟨other, hother, -, hvalid, hpresent⟩
        obtain rfl := Option.some.inj (hdocument.1.symm.trans hother)
        refine ⟨some document, ⟨_, hvalid, rfl⟩, ?_⟩
        rw [Option.any_some, decide_eq_true_eq]
        exact hpresent

theorem validateStoredDocument_follows (hfollows : Follows s t) {documentId : String}
    {document : InvoiceDocument}
    (h : s.validateStoredDocument storagePath documentId document
      = .ok ()) :
    t.validateStoredDocument storagePath documentId document = .ok () := by
  unfold validateStoredDocument at h ⊢
  simp only [bind_eq_ok, throwIf_eq_ok, exists_const] at h ⊢
  obtain ⟨hpath, hinvoice, h⟩ := h
  refine ⟨hpath, ?_, ?_⟩
  · intro hnone
    cases hget : s.invoices.get? document.invoiceId with
    | none => exact hinvoice (by rw [hget]; rfl)
    | some invoice =>
        obtain ⟨later, hlater, -⟩ := hfollows.invoices _ _ hget
        rw [hlater] at hnone
        cases hnone
  · split at h
    · rfl
    · simp only [bind_eq_ok, orThrow_eq_ok, throwIf_eq_ok] at h ⊢
      obtain ⟨revision, hrevision, hvalid⟩ := h
      exact ⟨revision, hfollows.revisions.get? hrevision, hvalid⟩
    · simp only [bind_eq_ok, orThrow_eq_ok, throwIf_eq_ok] at h ⊢
      obtain ⟨source, hsource, hvalid⟩ := h
      exact ⟨source, hfollows.documents.get? hsource, hvalid⟩

theorem readDeliveryTarget_follows (hfollows : Follows s t)
    (h : s.readDeliveryTarget storagePath target = .ok true) :
    t.readDeliveryTarget storagePath target = .ok true := by
  obtain ⟨document, hget, howner, hvalid, hsame⟩ := readDeliveryTarget_eq_true.mp h
  exact readDeliveryTarget_eq_true.mpr ⟨document, hfollows.documents.get? hget, howner,
    validateStoredDocument_follows hfollows hvalid, hsame⟩

/-- A target stays deliverable while its invoice keeps its status and revision. -/
theorem Deliverable.follows (hfollows : Follows s t)
    (h : Deliverable storagePath s target invoice)
    (hlater : t.invoices.get? target.invoiceId = some later)
    (hstatus : later.status = invoice.status)
    (hrevision : later.currentRevisionId = invoice.currentRevisionId) :
    Deliverable storagePath t target later := by
  obtain ⟨current, hcurrent⟩ := exists_currentRevision h.current
  have hkept : t.isCurrentTarget target later = true := by
    rw [isCurrentTarget_congr ((currentRevision_follows hfollows h.found hlater hrevision
      hcurrent).trans hcurrent.symm) hstatus]
    exact h.current
  exact ⟨hlater, by rw [hstatus]; exact h.issued, hkept, reviewed_of_isCurrentTarget hlater hkept,
    readDeliveryTarget_follows hfollows h.present⟩

/-! ## In flight -/

/-- An e-mail that has been reserved and of which no outcome has been recorded. -/
structure InFlight (storagePath : String → String → Option String)
    (s : Ledger) (reservation : InvoiceDeliveryReservation) (event : InvoiceDeliveryEvent)
    (invoice : Invoice) : Prop where
  assertion : assertInvoiceDeliveryReservation reservation = .ok ()
  stored : s.deliveryEvents.get? reservation.eventId = some event
  reserved : InvoiceDeliveryEvent.IsReservedBy event reservation
  attempted : event.status = .attempted
  target : Deliverable storagePath s reservation.target invoice
  only : ∀ e ∈ s.deliveryEvents.entries, e.2.invoiceId = reservation.target.invoiceId →
    InvoiceDeliveryEvent.IsUnresolvedSmtp e.2 → e.1 = reservation.eventId

theorem eventBinding_ne_legacyOriginal (kind : DeliveryTargetKind) :
    kind.eventBinding ≠ .legacyOriginal := by
  cases kind <;> exact fun h => by cases h

/-- An event that a reservation made is an e-mail. -/
theorem isUnresolvedSmtp_of_isReservedBy
    (hreserved : InvoiceDeliveryEvent.IsReservedBy event reservation)
    (hattempted : event.status = .attempted) : InvoiceDeliveryEvent.IsUnresolvedSmtp event := by
  refine ⟨?_, hreserved.2.1, .inl hattempted⟩
  rw [hreserved.2.2.2.2.1]
  exact eventBinding_ne_legacyOriginal _

theorem mem_deliveryEventsOf {invoiceId : String} :
    event ∈ s.deliveryEventsOf invoiceId
      ↔ (∃ e ∈ s.deliveryEvents.entries, e.2 = event) ∧ event.invoiceId = invoiceId := by
  rw [deliveryEventsOf, List.mem_filter, List.mem_map, decide_eq_true_eq]

namespace InFlight

variable (h : InFlight storagePath s reservation event invoice)

include h

theorem mem_events : event ∈ s.deliveryEventsOf reservation.target.invoiceId :=
  mem_deliveryEventsOf.mpr ⟨⟨_, mem_of_get? h.stored, rfl⟩, h.reserved.1⟩

theorem hasUnresolvedDelivery : s.HasUnresolvedDelivery reservation.target.invoiceId :=
  ⟨event, h.mem_events, .inl h.attempted⟩

theorem hasBlockingDeliveryEvent : s.HasBlockingDeliveryEvent reservation.target.invoiceId :=
  ⟨event, h.mem_events, .inl h.attempted⟩

theorem hasUnresolvedDeliveryHistory :
    s.HasUnresolvedDeliveryHistory reservation.target.invoiceId :=
  ⟨event, h.mem_events, .inl (.inl h.attempted)⟩

end InFlight

/-- A history with an unresolved delivery blocks every target of the invoice. -/
theorem hasBlockingDeliveryHistory (h : s.HasUnresolvedDeliveryHistory target.invoiceId) :
    s.HasBlockingDeliveryHistory target := by
  unfold HasBlockingDeliveryHistory
  split
  · rw [readLegacyResendSourceId, if_pos h]
    exact fun hnone => by cases hnone
  · exact .inl h

theorem InFlight.ne_of_not_blocking
    (h : InFlight storagePath s reservation event invoice)
    (hhistory : ¬ s.HasBlockingDeliveryHistory target) :
    target.invoiceId ≠ reservation.target.invoiceId := by
  intro hsame
  exact hhistory (hasBlockingDeliveryHistory (hsame ▸ h.hasUnresolvedDeliveryHistory))

/-! ## What every request keeps -/

/-- All that can change of an invoice in the meantime is its payment. -/
def OnlyPaymentChanges (before after : Invoice) : Prop :=
  after = { before with payment := after.payment }

section

variable (h : InFlight storagePath s reservation event invoice)
include h

/-- Requests that leave the events of the invoice alone and keep its row. -/
theorem InFlight.kept (hfollows : Follows s t)
    (hlater : t.invoices.get? reservation.target.invoiceId = some later)
    (hsame : OnlyPaymentChanges invoice later)
    (hstored : t.deliveryEvents.get? reservation.eventId = some event)
    (hothers : ∀ e ∈ t.deliveryEvents.entries, e ∈ s.deliveryEvents.entries
      ∨ e.2.invoiceId ≠ reservation.target.invoiceId
      ∨ ¬ InvoiceDeliveryEvent.IsUnresolvedSmtp e.2) :
    ∃ later, InFlight storagePath t reservation event later
      ∧ OnlyPaymentChanges invoice later := by
  refine ⟨later, ⟨h.assertion, hstored, h.reserved, h.attempted,
    h.target.follows hfollows hlater (by rw [hsame]) (by rw [hsame]), ?_⟩, hsame⟩
  intro e he howner hunresolved
  rcases hothers e he with hold | hother | hresolved
  · exact h.only e hold howner hunresolved
  · exact absurd howner hother
  · exact absurd hunresolved hresolved

/-- The same for requests that write no event at all. -/
theorem InFlight.kept_events (hfollows : Follows s t)
    (hevents : t.deliveryEvents = s.deliveryEvents)
    (hlater : t.invoices.get? reservation.target.invoiceId = some later)
    (hsame : OnlyPaymentChanges invoice later) :
    ∃ later, InFlight storagePath t reservation event later
      ∧ OnlyPaymentChanges invoice later :=
  h.kept hfollows hlater hsame (by rw [hevents]; exact h.stored)
    fun e he => .inl (hevents ▸ he)

/-- An invoice that is written is another one than the invoice of the e-mail. -/
theorem InFlight.get?_set {invoiceId : String} (hne : reservation.target.invoiceId ≠ invoiceId)
    (row : Invoice) :
    (s.invoices.set invoiceId row).get? reservation.target.invoiceId = some invoice := by
  rw [get?_set_ne hne]
  exact h.target.found

/-- Another delivery, of another invoice or resolved at once. -/
theorem InFlight.kept_insert (hfollows : Follows s t) {eventId : String}
    {other : InvoiceDeliveryEvent} (hevents : t.deliveryEvents = s.deliveryEvents.set eventId other)
    (hne : eventId ≠ reservation.eventId) (hother : other.invoiceId ≠ reservation.target.invoiceId
      ∨ ¬ InvoiceDeliveryEvent.IsUnresolvedSmtp other)
    (hlater : t.invoices.get? reservation.target.invoiceId = some invoice) :
    ∃ later, InFlight storagePath t reservation event later
      ∧ OnlyPaymentChanges invoice later := by
  refine h.kept hfollows hlater rfl ?_ fun e he => ?_
  · rw [hevents, get?_set_ne hne.symm]
    exact h.stored
  · rw [hevents, mem_entries_set] at he
    rcases he with rfl | ⟨-, hold⟩
    · exact .inr hother
    · exact .inl hold

end

theorem ne_of_fresh {ν : Type} {m : OrderedMap String ν} {key other : String} {row : ν}
    (hnew : m.get? key = none) (hrow : m.get? other = some row) : key ≠ other := by
  rintro rfl
  cases hnew.symm.trans hrow

section

variable (h : InFlight storagePath s reservation event invoice)
include h

/-- Another e-mail that is completed is about another invoice. -/
theorem InFlight.ne_of_completion {other : InvoiceDeliveryReservation}
    {otherEvent : InvoiceDeliveryEvent} (hne : other.eventId ≠ reservation.eventId)
    (hstored : s.deliveryEvents.get? other.eventId = some otherEvent)
    (hreserved : InvoiceDeliveryEvent.IsReservedBy otherEvent other)
    (hopen : otherEvent.status = .attempted) :
    other.target.invoiceId ≠ reservation.target.invoiceId := by
  intro hsame
  exact hne (h.only (other.eventId, otherEvent) (mem_of_get? hstored)
    (hreserved.1.trans hsame) (isUnresolvedSmtp_of_isReservedBy hreserved hopen))

/-- **NOTHING COMES BETWEEN**: no request but the completion changes anything that an
    e-mail in flight rests on. -/
theorem inFlight_of_change (hchange : Change storagePath localeCompare s t)
    (hattempted : ∀ later, t.deliveryEvents.get? reservation.eventId = some later →
      later.status = .attempted) : ∃ later, InFlight storagePath t reservation event later
      ∧ OnlyPaymentChanges invoice later := by
  have hfollows := follows_of_change hchange
  have hfound := h.target.found
  cases hchange with
  | nothing => exact ⟨invoice, h, rfl⟩
  | settings => exact h.kept_events hfollows rfl hfound rfl
  | activated => exact h.kept_events hfollows rfl hfound rfl
  | drafted => exact h.kept_events hfollows rfl hfound rfl
  | discarded => exact h.kept_events hfollows rfl hfound rfl
  | published => exact h.kept_events hfollows rfl hfound rfl
  | issued hissue =>
      exact h.kept_events hfollows rfl
        (h.get?_set (ne_of_fresh hissue.newInvoice hfound).symm _) rfl
  | reapproved happroval =>
      refine h.kept_events hfollows rfl (h.get?_set ?_ _) rfl
      rintro rfl
      exact happroval.resolved h.hasUnresolvedDelivery
  | reopened _ _ _ _ hresolved =>
      refine h.kept_events hfollows rfl (h.get?_set ?_ _) rfl
      rintro rfl
      exact hresolved h.hasUnresolvedDelivery
  | cancelled _ _ hquiet =>
      refine h.kept_events hfollows rfl (h.get?_set ?_ _) rfl
      rintro rfl
      exact hquiet h.hasBlockingDeliveryEvent
  | promoted _ _ _ _ hresolved =>
      refine h.kept_events hfollows rfl (h.get?_set ?_ _) rfl
      rintro rfl
      exact hresolved h.hasUnresolvedDeliveryHistory
  | @paid invoiceId paidInvoice payment _ hstored =>
      by_cases hsame : reservation.target.invoiceId = invoiceId
      · subst hsame
        obtain rfl := Option.some.inj (hfound.symm.trans hstored)
        exact h.kept_events hfollows rfl (get?_set_self _ _ _) rfl
      · exact h.kept_events hfollows rfl (h.get?_set hsame _) rfl
  | @reserved other _ _ _ hhistory hnew =>
      exact h.kept_insert hfollows rfl (ne_of_fresh hnew h.stored)
        (.inl (h.ne_of_not_blocking hhistory)) hfound
  | rehearsed _ _ hnew =>
      refine h.kept_insert hfollows rfl (ne_of_fresh hnew h.stored) (.inr fun hunresolved => ?_)
        hfound
      cases hunresolved.2.1
  | delivered _ _ hhistory hnew =>
      exact h.kept_insert hfollows rfl (ne_of_fresh hnew h.stored)
        (.inl (h.ne_of_not_blocking hhistory))
        (h.get?_set (h.ne_of_not_blocking hhistory).symm _)
  | @completed other otherEvent outcome hstored hreserved hopen hstatus =>
      have hdone : outcome.status ≠ .attempted := by
        rcases hstatus with hstatus | hstatus | hstatus <;> rw [hstatus] <;> decide
      have hevent : other.eventId ≠ reservation.eventId := fun hsame => hdone (hattempted
        { otherEvent with toDeliveryOutcome := outcome } (by rw [← hsame, get?_set_self]))
      refine h.kept_insert hfollows rfl hevent (.inl ?_) hfound
      rw [hreserved.1]
      exact h.ne_of_completion hevent hstored hreserved hopen
  | @arrived other otherEvent outcome _ hstored hreserved hopen hsucceeded =>
      have hdone : outcome.status ≠ .attempted := by rw [hsucceeded]; decide
      have hevent : other.eventId ≠ reservation.eventId := fun hsame => hdone (hattempted
        { otherEvent with toDeliveryOutcome := outcome } (by rw [← hsame, get?_set_self]))
      have hinvoice := h.ne_of_completion hevent hstored hreserved hopen
      refine h.kept_insert hfollows rfl hevent (.inl ?_) (h.get?_set hinvoice.symm _)
      rw [hreserved.1]
      exact hinvoice

/-! ## The completion -/

theorem guardUnresolved_of_inFlight (outcome : DeliveryOutcome) :
    s.guardUnresolved reservation.eventId { event with toDeliveryOutcome := outcome }
      = .ok () := by
  refine throwIf_of_not ?_
  rintro ⟨-, e, he, hne, howner, hunresolved⟩
  exact hne (h.only e he (howner.trans h.reserved.1) hunresolved)

theorem readSuccessInvoice_of_inFlight (status : DeliveryStatus) :
    s.readSuccessInvoice reservation.target status
      = .ok (if status = .succeeded then some invoice else none) := by
  unfold readSuccessInvoice
  split
  · have heligible := readEligibleDeliveryInvoice_eq_some.mpr
      ⟨h.target.reviewed, h.target.found, h.target.issued, h.target.current⟩
    simp only [bind_eq_ok, throwIf_eq_ok, exists_const, pure_eq_ok]
    exact ⟨some invoice, heligible, Bool.false_ne_true, rfl⟩
  · rfl

end

/-- What a completion reports: an outcome that is known or known to be unknown, and whether
    the customer has got the e-mail. -/
def Reports (reservation : InvoiceDeliveryReservation) (outcome : DeliveryOutcome)
    (customerSuccess : Bool) : Prop :=
  outcome.status ∈ [DeliveryStatus.succeeded, .failed, .outcomeUnknown]
    ∧ (customerSuccess = true ↔ reservation.mode = .customer ∧ outcome.status = .succeeded)

variable {outcome : DeliveryOutcome} {customerSuccess : Bool}

/-- **EVERY OUTCOME IS RECORDED** -/
theorem completes_of_inFlight (h : InFlight storagePath s reservation event invoice)
    (hreports : Reports reservation outcome customerSuccess) :
    s.completeReservedInvoiceEmailDelivery storagePath reservation outcome
        customerSuccess
      = .ok (s.recordOutcome reservation event outcome customerSuccess
          (if outcome.status = .succeeded then some invoice else none)) := by
  simp only [completeReservedInvoiceEmailDelivery, bind_eq_ok, throwIf_eq_ok, orThrow_eq_ok,
    exists_const]
  refine ⟨(), h.assertion, ?_, event, h.stored, not_not.mpr h.reserved, true, h.target.present,
    fun hfalse => hfalse rfl, ?_⟩
  · rintro (hstatus | hcustomer)
    · exact hstatus hreports.1
    · exact hcustomer hreports.2
  · rw [completeEvent, if_neg (not_not.mpr h.attempted)]
    simp only [bind_eq_ok, pure_eq_ok]
    exact ⟨_, readSuccessInvoice_of_inFlight h outcome.status, (),
      guardUnresolved_of_inFlight h outcome, rfl⟩

/-- Once the customer has got the e-mail, the invoice is sent. -/
theorem sent_of_recordOutcome (h : InFlight storagePath s reservation event invoice)
    (hsucceeded : outcome.status = .succeeded) :
    ∃ sent, (s.recordOutcome reservation event outcome true
        (if outcome.status = .succeeded then some invoice else none)).invoices.get?
          reservation.target.invoiceId = some sent
      ∧ sent = { invoice with status := .sent } := by
  rw [if_pos hsucceeded]
  by_cases happroved : invoice.status = .approved
  · rw [recordOutcome_approved rfl happroved]
    exact ⟨_, get?_set_self _ _ _, rfl⟩
  · rw [recordOutcome_settled fun other hother _ => by
      rw [← Option.some.inj hother]
      exact happroved]
    refine ⟨invoice, h.target.found, ?_⟩
    rw [← h.target.issued.resolve_left happroved]

/-! ## Every run -/

theorem inFlight_of_reserve
    (h : s.reserveInvoiceEmailDelivery storagePath reservation = .ok t) :
    ∃ event invoice, s.invoices.get? reservation.target.invoiceId = some invoice
      ∧ InFlight storagePath t reservation event invoice := by
  have hfollows : Follows s t :=
    follows_of_change (@change_of_reserveInvoiceEmailDelivery _ _ (fun _ _ => 0) _ _ h)
  simp only [reserveInvoiceEmailDelivery, bind_eq_ok, throwIf_eq_ok, exists_const, not_not] at h
  obtain ⟨_, hreservation, _, heligible, hsome, hhistory, _, hread, hpresent, -, h⟩ := h
  obtain ⟨invoice, -, htarget⟩ := deliverable_of_checks heligible hsome hread hpresent
  obtain ⟨hnew, rfl⟩ := insertDeliveryEvent_eq_ok h
  refine ⟨_, invoice, htarget.found, hreservation, get?_set_self _ _ _,
    ⟨rfl, rfl, rfl, rfl, rfl, rfl, rfl, rfl⟩, rfl,
    htarget.follows hfollows htarget.found rfl rfl, fun e he howner hunresolved => ?_⟩
  rcases mem_entries_set.mp he with rfl | ⟨-, hold⟩
  · rfl
  · refine absurd (hasBlockingDeliveryHistory ⟨e.2, ?_, .inl hunresolved.2.2⟩) hhistory
    exact mem_deliveryEventsOf.mpr ⟨⟨e, hold, rfl⟩, howner⟩

theorem inFlight_of_reachable
    (h : InFlight storagePath s reservation event invoice)
    (hrun : (After storagePath localeCompare s).Reachable t)
    (hattempted : ∀ later, t.deliveryEvents.get? reservation.eventId = some later →
      later.status = .attempted) :
    ∃ later, InFlight storagePath t reservation event later
      ∧ OnlyPaymentChanges invoice later := by
  induction hrun with
  | initial hsame =>
      cases hsame
      exact ⟨invoice, h, rfl⟩
  | @step t u hrun hstep ih =>
      obtain ⟨request, hstep⟩ := hstep
      have hchange := change_of_execute hstep
      -- an outcome that had been recorded before would still be there
      have hbefore : ∀ later, t.deliveryEvents.get? reservation.eventId = some later →
          later.status = .attempted := by
        intro middle hmiddle
        by_contra hdone
        obtain ⟨after, hafter, hsucceeds⟩ :=
          (follows_of_change hchange).deliveryEvents _ _ hmiddle
        exact hdone (hsucceeds.final hdone ▸ hattempted after hafter)
      obtain ⟨middle, hmiddle, hsame⟩ := ih hbefore
      obtain ⟨later, hlater, hsame'⟩ := inFlight_of_change hmiddle hchange hattempted
      refine ⟨later, hlater, ?_⟩
      rw [OnlyPaymentChanges, hsame', hsame]

/-- **AN E-MAIL IN FLIGHT**: whatever is requested before its outcome is known, the invoice
    keeps the content that is being sent, and every outcome can be recorded. -/
theorem reserved_email_stands
    (hreserve : s.reserveInvoiceEmailDelivery storagePath reservation
      = .ok t)
    (hrun : (After storagePath localeCompare t).Reachable u)
    (hopen : ∀ event, u.deliveryEvents.get? reservation.eventId = some event →
      event.status = .attempted) :
    (∃ before after, s.invoices.get? reservation.target.invoiceId = some before
        ∧ u.invoices.get? reservation.target.invoiceId = some after
        ∧ OnlyPaymentChanges before after)
      ∧ ∀ outcome customerSuccess, Reports reservation outcome customerSuccess →
        ∃ v, u.completeReservedInvoiceEmailDelivery storagePath reservation
            outcome customerSuccess = .ok v
          ∧ (customerSuccess = true →
            ∃ sent, v.invoices.get? reservation.target.invoiceId = some sent
              ∧ sent.status = .sent) := by
  obtain ⟨event, before, hbefore, hreserved⟩ := inFlight_of_reserve hreserve
  obtain ⟨after, hafter, hsame⟩ := inFlight_of_reachable hreserved hrun hopen
  refine ⟨⟨before, after, hbefore, hafter.target.found, hsame⟩,
    fun outcome customerSuccess hreports => ⟨_, completes_of_inFlight hafter hreports, ?_⟩⟩
  rintro rfl
  obtain ⟨sent, hsent, rfl⟩ := sent_of_recordOutcome hafter (hreports.2.mp rfl).2
  exact ⟨_, hsent, rfl⟩

/-- While the e-mail of the sample is under way, another invoice is written and approved. -/
def sampleMeanwhile : Ledger :=
  ((sampleAfter 5).run samplePath sampleCompare [
    .saveInvoiceDraft (sampleSave "d3" "l4" (by decide)),
    .approveInvoiceDraft ⟨"d3", "i3", "r3", "2026-01-04T08:00:00.000Z", false, true, true⟩]
  ).toOption.getD .empty

theorem reserved_email_stands_sample :
    (∃ before after, (sampleAfter 4).invoices.get? "i1" = some before
        ∧ sampleMeanwhile.invoices.get? "i1" = some after ∧ OnlyPaymentChanges before after)
      ∧ ∀ outcome customerSuccess, Reports sampleReservation outcome customerSuccess →
        ∃ v, sampleMeanwhile.completeReservedInvoiceEmailDelivery samplePath sampleReservation
            outcome customerSuccess = .ok v
          ∧ (customerSuccess = true →
            ∃ sent, v.invoices.get? "i1" = some sent ∧ sent.status = .sent) := by
  have hrun : (After samplePath sampleCompare (sampleAfter 5)).Reachable sampleMeanwhile :=
    @reachable_of_run _ _ _ _ _ [
      .saveInvoiceDraft (sampleSave "d3" "l4" (by decide)),
      .approveInvoiceDraft ⟨"d3", "i3", "r3", "2026-01-04T08:00:00.000Z", false, true, true⟩]
      (.initial rfl) (by rfl)
  have hstored : sampleMeanwhile.deliveryEvents.get? "e1" = some (toDeliveryEvent
    sampleTarget .email .smtp .customer ⟨.attempted, none, none, none⟩) := by rfl
  refine @reserved_email_stands samplePath sampleCompare (sampleAfter 4) (sampleAfter 5)
    sampleMeanwhile sampleReservation (by rfl) hrun fun event hevent => ?_
  rw [← Option.some.inj (hstored.symm.trans hevent)]
  rfl

/-! ## Told again -/

/-- A delivery whose outcome has been recorded. -/
structure Completed (storagePath : String → String → Option String)
    (s : Ledger) (reservation : InvoiceDeliveryReservation) (outcome : DeliveryOutcome) :
    Prop where
  assertion : assertInvoiceDeliveryReservation reservation = .ok ()
  stored : ∃ event, s.deliveryEvents.get? reservation.eventId = some event
    ∧ InvoiceDeliveryEvent.IsReservedBy event reservation ∧ event.toDeliveryOutcome = outcome
  done : outcome.status ≠ .attempted
  present : s.readDeliveryTarget storagePath reservation.target = .ok true

theorem Reports.done (h : Reports reservation outcome customerSuccess) :
    outcome.status ≠ .attempted := by
  intro hattempted
  have hmem := h.1
  rw [hattempted] at hmem
  exact absurd hmem (by decide)

/-- What a completion has checked, and what it runs then. -/
theorem completeReservedInvoiceEmailDelivery_eq_ok :
    s.completeReservedInvoiceEmailDelivery storagePath reservation outcome
        customerSuccess = .ok t
      ↔ assertInvoiceDeliveryReservation reservation = .ok ()
        ∧ Reports reservation outcome customerSuccess
        ∧ (∃ event, s.deliveryEvents.get? reservation.eventId = some event
          ∧ InvoiceDeliveryEvent.IsReservedBy event reservation
          ∧ s.completeEvent reservation event outcome customerSuccess = .ok t)
        ∧ s.readDeliveryTarget storagePath reservation.target
          = .ok true := by
  simp only [completeReservedInvoiceEmailDelivery, bind_eq_ok, throwIf_eq_ok, orThrow_eq_ok,
    exists_const, not_or, not_not]
  constructor
  · rintro ⟨_, hassertion, hreports, event, hstored, hreserved, _, hread, rfl, h⟩
    exact ⟨hassertion, hreports, ⟨event, hstored, hreserved, h⟩, hread⟩
  · rintro ⟨hassertion, hreports, ⟨event, hstored, hreserved, h⟩, hread⟩
    exact ⟨(), hassertion, hreports, event, hstored, hreserved, true, hread, rfl, h⟩

theorem recordOutcome_deliveryEvents (outcome : DeliveryOutcome) (customerSuccess : Bool)
    (found : Option Invoice) :
    (s.recordOutcome reservation event outcome customerSuccess found).deliveryEvents
      = s.deliveryEvents.set reservation.eventId
        { event with toDeliveryOutcome := outcome } := by
  unfold recordOutcome
  split
  · split <;> rfl
  · rfl

theorem completed_of_complete (h : s.completeReservedInvoiceEmailDelivery storagePath reservation
      outcome customerSuccess = .ok t) : Completed storagePath t reservation outcome := by
  have hfollows : Follows s t := follows_of_change
    (@change_of_completeReservedInvoiceEmailDelivery _ _ _ _ (fun _ _ => 0) _ _ h)
  obtain ⟨hassertion, hreports, ⟨event, hstored, hreserved, h⟩, hread⟩ :=
    completeReservedInvoiceEmailDelivery_eq_ok.mp h
  refine ⟨hassertion, ?_, hreports.done, readDeliveryTarget_follows hfollows hread⟩
  unfold completeEvent at h
  split at h
  · split at h
    · next hsame =>
        cases pure_eq_ok.mp h
        exact ⟨event, hstored, hreserved, hsame⟩
    · cases h
  · simp only [bind_eq_ok, pure_eq_ok] at h
    obtain ⟨found, -, _, -, rfl⟩ := h
    refine ⟨{ event with toDeliveryOutcome := outcome }, ?_, hreserved, rfl⟩
    rw [recordOutcome_deliveryEvents, get?_set_self]

theorem Completed.follows (hfollows : Follows s t)
    (h : Completed storagePath s reservation outcome) :
    Completed storagePath t reservation outcome := by
  refine ⟨h.assertion, ?_, h.done, readDeliveryTarget_follows hfollows h.present⟩
  obtain ⟨event, hstored, hreserved, rfl⟩ := h.stored
  obtain ⟨later, hlater, hsucceeds⟩ := hfollows.deliveryEvents _ _ hstored
  obtain rfl := hsucceeds.final h.done
  exact ⟨later, hlater, hreserved, rfl⟩

/-- **ONE OUTCOME**: once a delivery has been completed, the only completion that is
    accepted is the same one, and it changes nothing. -/
theorem completion_told_again {outcome other : DeliveryOutcome}
    {customerSuccess otherSuccess : Bool} {v : Ledger}
    (hcomplete : s.completeReservedInvoiceEmailDelivery storagePath
      reservation outcome customerSuccess = .ok t)
    (hrun : (After storagePath localeCompare t).Reachable u) :
    u.completeReservedInvoiceEmailDelivery storagePath reservation other
        otherSuccess = .ok v
      ↔ other = outcome ∧ otherSuccess = customerSuccess ∧ v = u := by
  have hreports := (completeReservedInvoiceEmailDelivery_eq_ok.mp hcomplete).2.1
  have hdone := (completed_of_complete hcomplete).follows (follows_of_reachable hrun)
  obtain ⟨event, hstored, hreserved, hsame⟩ := hdone.stored
  have hfinal : event.status ≠ .attempted := by
    have hstatus := hdone.done
    rw [← hsame] at hstatus
    exact hstatus
  rw [completeReservedInvoiceEmailDelivery_eq_ok]
  constructor
  · rintro ⟨-, hagain, ⟨found, hfound, -, h⟩, -⟩
    obtain rfl := Option.some.inj (hstored.symm.trans hfound)
    rw [completeEvent, if_pos hfinal] at h
    split at h
    · next heq =>
        have hother : other = outcome := heq.symm.trans hsame
        subst hother
        exact ⟨rfl, Bool.eq_iff_iff.mpr (hagain.2.trans hreports.2.symm), (pure_eq_ok.mp h).symm⟩
    · cases h
  · rintro ⟨rfl, rfl, rfl⟩
    refine ⟨hdone.assertion, hreports, ⟨event, hstored, hreserved, ?_⟩, hdone.present⟩
    rw [completeEvent, if_pos hfinal, if_pos hsame]
    rfl

theorem completion_told_again_sample :
    (sampleAfter 10).completeReservedInvoiceEmailDelivery samplePath sampleReservation
      sampleSucceeded true = .ok (sampleAfter 10) := by
  have hrun : (After samplePath sampleCompare (sampleAfter 6)).Reachable (sampleAfter 10) :=
    @reachable_of_run _ _ _ _ _ ((sampleRequests.drop 6).take 4) (.initial rfl) (by rfl)
  exact (@completion_told_again samplePath sampleCompare (sampleAfter 5) (sampleAfter 6)
    (sampleAfter 10) sampleReservation sampleSucceeded sampleSucceeded true true (sampleAfter 10)
    (by rfl) hrun).mpr ⟨rfl, rfl, rfl⟩

end InvoiceLedger.Ledger
