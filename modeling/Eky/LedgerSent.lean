import Eky.LedgerInFlight
import Eky.LedgerNumbers

/-! # What the deliveries of an invoice say about it

    A request changes one invoice and its deliveries at most (`Delivered.change`), and what
    the two say about each other is kept:

    - an invoice is sent when one of its deliveries has reached the customer, and only then;
    - while it is reopened, no e-mail of it is on its way;
    - a cancelled invoice has never left the house. -/

namespace InvoiceLedger

open Fallible OrderedMap

/-- A delivery to the customer that has succeeded; a test message and a rehearsal are none. -/
def InvoiceDeliveryEvent.HasArrived (event : InvoiceDeliveryEvent) : Prop :=
  event.status = .succeeded ∧ (event.sendMode = .customer ∨ event.sendMode = .manual)

variable {status : InvoiceStatus} {deliveries : InvoiceDeliveryEvent → Prop} {eventId : String}
  {event : InvoiceDeliveryEvent}

namespace Ledger

variable {storagePath : String → String → Option String}
variable {localeCompare : String → String → Int} {s t : Ledger} {invoiceId : String}

/-! ## One invoice -/

/-- What the deliveries of an invoice with a status are like. -/
structure DeliveredAs (status : InvoiceStatus) (deliveries : InvoiceDeliveryEvent → Prop) :
    Prop where
  sent : status = .sent ↔ ∃ event, deliveries event ∧ event.HasArrived
  reopened : status = .reopenedForEdit → ∀ event, deliveries event →
    event.status = .succeeded ∨ event.status = .failed
  cancelled : status = .cancelled → ∀ event, deliveries event → event.status = .failed

theorem sent_iff_of_not_arrived (hunsent : status ≠ .sent)
    (h : ∀ event, deliveries event → ¬ event.HasArrived) :
    status = .sent ↔ ∃ event, deliveries event ∧ event.HasArrived := by
  constructor
  · intro hsent
    exact absurd hsent hunsent
  · rintro ⟨event, hevent, harrived⟩
    exact absurd harrived (h event hevent)

/-- An approved invoice, whose deliveries have not arrived. -/
theorem deliveredAs_approved (h : ∀ event, deliveries event → ¬ event.HasArrived) :
    DeliveredAs .approved deliveries where
  sent := sent_iff_of_not_arrived (by decide) h
  reopened := by rintro ⟨⟩
  cancelled := by rintro ⟨⟩

/-- A sent invoice, of which one delivery has arrived. -/
theorem deliveredAs_sent (hevent : deliveries event) (harrived : event.HasArrived) :
    DeliveredAs .sent deliveries where
  sent := ⟨fun _ => ⟨event, hevent, harrived⟩, fun _ => rfl⟩
  reopened := by rintro ⟨⟩
  cancelled := by rintro ⟨⟩

theorem DeliveredAs.not_arrived (h : DeliveredAs status deliveries) (hunsent : status ≠ .sent) :
    ∀ event, deliveries event → ¬ event.HasArrived :=
  fun event hevent harrived => hunsent (h.sent.mpr ⟨event, hevent, harrived⟩)

/-- While an e-mail is on its way, the invoice is neither reopened nor cancelled. -/
theorem DeliveredAs.issued (h : DeliveredAs status deliveries) (hevent : deliveries event)
    (hattempted : event.status = .attempted) : status = .approved ∨ status = .sent := by
  cases status with
  | approved => exact .inl rfl
  | sent => exact .inr rfl
  | reopenedForEdit =>
      rcases h.reopened rfl event hevent with hdone | hdone
      · cases hattempted.symm.trans hdone
      · cases hattempted.symm.trans hdone
  | cancelled => cases hattempted.symm.trans (h.cancelled rfl event hevent)

/-! ## All of them -/

/-- A delivery of an invoice. -/
def IsDelivery (s : Ledger) (invoiceId : String) (event : InvoiceDeliveryEvent) : Prop :=
  event.invoiceId = invoiceId ∧ ∃ eventId, s.deliveryEvents.get? eventId = some event

theorem isDelivery_congr (hevents : t.deliveryEvents = s.deliveryEvents) :
    t.IsDelivery invoiceId = s.IsDelivery invoiceId := by
  funext event
  rw [IsDelivery, IsDelivery, hevents]

theorem isDelivery_iff_mem :
    s.IsDelivery invoiceId event ↔ event ∈ s.deliveryEventsOf invoiceId := by
  rw [mem_deliveryEventsOf, IsDelivery, and_comm]
  refine and_congr_left fun _ => ⟨?_, ?_⟩
  · rintro ⟨eventId, hevent⟩
    exact ⟨_, mem_of_get? hevent, rfl⟩
  · rintro ⟨e, he, rfl⟩
    exact ⟨e.1, get?_of_mem he⟩

/-- What can be stored as a delivery.  Only an e-mail is attempted. -/
structure IsStored (s : Ledger) (event : InvoiceDeliveryEvent) : Prop where
  known : ∃ invoice, s.invoices.get? event.invoiceId = some invoice
  begun : event.status ≠ .prepared
  email : event.status = .attempted → event.sendMode ≠ .manual

/-- Deliveries and sent invoices belong together. -/
structure Delivered (s : Ledger) : Prop where
  stored : ∀ eventId event, s.deliveryEvents.get? eventId = some event → IsStored s event
  invoices : ∀ invoiceId invoice, s.invoices.get? invoiceId = some invoice →
    DeliveredAs invoice.status (s.IsDelivery invoiceId)

theorem delivered_empty : Delivered Ledger.empty where
  stored := by
    intro _ _ h
    cases h
  invoices := by
    intro _ _ h
    cases h

theorem Delivered.congr (h : Delivered s) (hinvoices : t.invoices = s.invoices)
    (hevents : t.deliveryEvents = s.deliveryEvents) : Delivered t := by
  constructor
  · intro eventId event hevent
    rw [hevents] at hevent
    obtain ⟨hknown, hbegun, hemail⟩ := h.stored eventId event hevent
    exact ⟨by rw [hinvoices]; exact hknown, hbegun, hemail⟩
  · intro invoiceId invoice hinvoice
    rw [hinvoices] at hinvoice
    rw [isDelivery_congr hevents]
    exact h.invoices invoiceId invoice hinvoice

/-- **ONE INVOICE AT A TIME**: when the invoices and deliveries of all others stay as they
    are, only this one has to be looked at. -/
theorem Delivered.change (h : Delivered s) (hfollows : Follows s t)
    (hinvoices : ∀ id, id ≠ invoiceId → t.invoices.get? id = s.invoices.get? id)
    (hevents : ∀ eventId event, t.deliveryEvents.get? eventId = some event →
      s.deliveryEvents.get? eventId = some event
        ∨ event.invoiceId = invoiceId ∧ IsStored t event)
    (hkept : ∀ eventId event, s.deliveryEvents.get? eventId = some event →
      event.invoiceId ≠ invoiceId → t.deliveryEvents.get? eventId = some event)
    (hthis : ∀ invoice, t.invoices.get? invoiceId = some invoice →
      DeliveredAs invoice.status (t.IsDelivery invoiceId)) : Delivered t := by
  constructor
  · intro eventId event hevent
    rcases hevents eventId event hevent with hold | ⟨-, hstored⟩
    · obtain ⟨⟨invoice, hknown⟩, hbegun, hemail⟩ := h.stored eventId event hold
      obtain ⟨later, hlater, -⟩ := hfollows.invoices _ _ hknown
      exact ⟨⟨later, hlater⟩, hbegun, hemail⟩
    · exact hstored
  · intro id invoice hinvoice
    by_cases hid : id = invoiceId
    · subst hid
      exact hthis invoice hinvoice
    · rw [hinvoices id hid] at hinvoice
      have hsame : t.IsDelivery id = s.IsDelivery id := by
        funext event
        apply propext
        constructor
        · rintro ⟨howner, eventId, hevent⟩
          rcases hevents eventId event hevent with hold | ⟨hother, -⟩
          · exact ⟨howner, eventId, hold⟩
          · exact absurd (howner.symm.trans hother) hid
        · rintro ⟨howner, eventId, hevent⟩
          exact ⟨howner, eventId, hkept eventId event hevent (by rw [howner]; exact hid)⟩
      rw [hsame]
      exact h.invoices id invoice hinvoice

/-- An invoice changes, and none of its deliveries. -/
theorem Delivered.invoice (h : Delivered s) (hfollows : Follows s t) {later : Invoice}
    (hevents : t.deliveryEvents = s.deliveryEvents)
    (hinvoices : t.invoices = s.invoices.set invoiceId later)
    (hlater : DeliveredAs later.status (s.IsDelivery invoiceId)) : Delivered t := by
  refine @Delivered.change s t invoiceId h hfollows
    (fun id hid => by rw [hinvoices, get?_set_ne hid])
    (fun eventId event hevent => .inl (by rw [← hevents, hevent]))
    (fun eventId event hevent _ => by rw [hevents, hevent]) fun invoice hinvoice => ?_
  rw [hinvoices, get?_set_self] at hinvoice
  rw [← Option.some.inj hinvoice, isDelivery_congr hevents]
  exact hlater

/-- The deliveries of an invoice after one of them has been recorded. -/
theorem isDelivery_record {other : InvoiceDeliveryEvent}
    (hevents : t.deliveryEvents = s.deliveryEvents.set eventId event)
    (howner : event.invoiceId = invoiceId) : t.IsDelivery invoiceId other
      ↔ other = event ∨ other.invoiceId = invoiceId
        ∧ ∃ id, id ≠ eventId ∧ s.deliveryEvents.get? id = some other := by
  constructor
  · rintro ⟨hother, id, hget⟩
    rw [hevents] at hget
    rcases get?_set_cases hget with ⟨-, rfl⟩ | ⟨hid, hold⟩
    · exact .inl rfl
    · exact .inr ⟨hother, id, hid, hold⟩
  · rintro (rfl | ⟨hother, id, hid, hold⟩)
    · exact ⟨howner, eventId, by rw [hevents, get?_set_self]⟩
    · exact ⟨hother, id, by rw [hevents, get?_set_ne hid, hold]⟩

/-- A delivery that has not arrived, over none that has, leaves what has arrived. -/
theorem arrived_record {other : InvoiceDeliveryEvent}
    (hevents : t.deliveryEvents = s.deliveryEvents.set eventId event) (hnot : ¬ event.HasArrived)
    (hplace : ∀ old, s.deliveryEvents.get? eventId = some old → ¬ old.HasArrived)
    (harrived : other.HasArrived) :
    t.IsDelivery event.invoiceId other ↔ s.IsDelivery event.invoiceId other := by
  rw [isDelivery_record hevents rfl]
  constructor
  · rintro (rfl | ⟨howner, id, -, hold⟩)
    · exact absurd harrived hnot
    · exact ⟨howner, id, hold⟩
  · rintro ⟨howner, id, hold⟩
    refine .inr ⟨howner, id, ?_, hold⟩
    rintro rfl
    exact hplace other hold harrived

/-- A delivery is recorded, under a new id or in the place of one of the same invoice. -/
theorem Delivered.record (h : Delivered s) (hfollows : Follows s t)
    (hevents : t.deliveryEvents = s.deliveryEvents.set eventId event)
    (howner : event.invoiceId = invoiceId)
    (hplace : ∀ old, s.deliveryEvents.get? eventId = some old → old.invoiceId = invoiceId)
    (hinvoices : ∀ id, id ≠ invoiceId → t.invoices.get? id = s.invoices.get? id)
    (hstored : IsStored t event) (hthis : ∀ invoice, t.invoices.get? invoiceId = some invoice →
      DeliveredAs invoice.status (t.IsDelivery invoiceId)) : Delivered t := by
  refine h.change hfollows hinvoices (fun id other hother => ?_)
    (fun id other hother hne => ?_) hthis
  · rw [hevents] at hother
    rcases get?_set_cases hother with ⟨-, rfl⟩ | ⟨-, hold⟩
    · exact .inr ⟨howner, hstored⟩
    · exact .inl hold
  · rw [hevents, get?_set_ne, hother]
    rintro rfl
    exact hne (hplace other hother)

/-- Of an approved or sent invoice it only matters what has arrived. -/
theorem DeliveredAs.congr {before after : InvoiceDeliveryEvent → Prop}
    (h : DeliveredAs status before) (hissued : status = .approved ∨ status = .sent)
    (hsame : ∀ event, event.HasArrived → (after event ↔ before event)) :
    DeliveredAs status after where
  sent := h.sent.trans (exists_congr fun event => by
    constructor
    · rintro ⟨hevent, harrived⟩
      exact ⟨(hsame event harrived).mpr hevent, harrived⟩
    · rintro ⟨hevent, harrived⟩
      exact ⟨(hsame event harrived).mp hevent, harrived⟩)
  reopened := by
    rintro rfl
    rcases hissued with h | h
    · cases h
    · cases h
  cancelled := by
    rintro rfl
    rcases hissued with h | h
    · cases h
    · cases h

/-- A delivery that has not arrived is added to those of an approved or sent invoice. -/
theorem Delivered.begin (h : Delivered s) (hfollows : Follows s t) {invoice : Invoice}
    (hevents : t.deliveryEvents = s.deliveryEvents.set eventId event)
    (hinvoices : t.invoices = s.invoices) (hnew : s.deliveryEvents.get? eventId = none)
    (hinvoice : s.invoices.get? event.invoiceId = some invoice)
    (hissued : invoice.status = .approved ∨ invoice.status = .sent) (hstored : IsStored t event)
    (hnot : ¬ event.HasArrived) : Delivered t := by
  refine h.record hfollows hevents rfl (fun old hold => ?_) (fun id _ => by rw [hinvoices]) hstored
    fun later hlater => ?_
  · cases hnew.symm.trans hold
  · rw [hinvoices, hinvoice] at hlater
    obtain rfl := Option.some.inj hlater
    refine (h.invoices _ _ hinvoice).congr hissued fun other harrived =>
      arrived_record hevents hnot (fun old hold => ?_) harrived
    cases hnew.symm.trans hold

/-! ## Every request -/

theorem delivered_completed (h : Delivered s) (hfollows : Follows s t) {outcome : DeliveryOutcome}
    (hevents : t.deliveryEvents
      = s.deliveryEvents.set eventId { event with toDeliveryOutcome := outcome })
    (hinvoices : t.invoices = s.invoices) (hevent : s.deliveryEvents.get? eventId = some event)
    (hattempted : event.status = .attempted)
    (hstatus : outcome.status = .succeeded ∨ outcome.status = .failed
      ∨ outcome.status = .outcomeUnknown)
    (hsent : outcome.status = .succeeded → event.sendMode = .customer →
      ∃ invoice, s.invoices.get? event.invoiceId = some invoice ∧ invoice.status = .sent) :
    Delivered t := by
  obtain ⟨⟨invoice, hinvoice⟩, -, hemail⟩ := h.stored _ _ hevent
  have hbefore := h.invoices _ _ hinvoice
  have hpending : s.IsDelivery event.invoiceId event := ⟨rfl, eventId, hevent⟩
  have hnot : ¬ event.HasArrived := by
    rintro ⟨hsucceeded, -⟩
    cases hattempted.symm.trans hsucceeded
  have hissued := hbefore.issued hpending hattempted
  refine h.record hfollows hevents rfl (fun old hold => ?_) (fun id _ => by rw [hinvoices]) ?_
    fun later hlater => ?_
  · rw [hevent] at hold
    rw [← Option.some.inj hold]
  · refine ⟨⟨invoice, by rw [hinvoices, hinvoice]⟩, ?_, ?_⟩
    · rcases hstatus with hdone | hdone | hdone
      · rw [hdone]; decide
      · rw [hdone]; decide
      · rw [hdone]; decide
    · intro hagain
      rcases hstatus with hdone | hdone | hdone
      · cases hdone.symm.trans hagain
      · cases hdone.symm.trans hagain
      · cases hdone.symm.trans hagain
  · rw [hinvoices, hinvoice] at hlater
    obtain rfl := Option.some.inj hlater
    by_cases harrived : InvoiceDeliveryEvent.HasArrived { event with toDeliveryOutcome := outcome }
    · obtain ⟨found, hfound, hfoundSent⟩ :=
        hsent harrived.1 (harrived.2.resolve_right (hemail hattempted))
      obtain rfl := Option.some.inj (hinvoice.symm.trans hfound)
      rw [hfoundSent]
      exact deliveredAs_sent ((isDelivery_record hevents rfl).mpr (.inl rfl)) harrived
    · refine hbefore.congr hissued fun other hother =>
        arrived_record hevents harrived (fun old hold => ?_) hother
      rw [← Option.some.inj (hevent.symm.trans hold)]
      exact hnot

/-- A delivery arrives at the customer, and the invoice is sent. -/
theorem delivered_arrived (h : Delivered s) (hfollows : Follows s t) {later : Invoice}
    (hevents : t.deliveryEvents = s.deliveryEvents.set eventId event)
    (hinvoices : t.invoices = s.invoices.set event.invoiceId later)
    (hplace : ∀ old, s.deliveryEvents.get? eventId = some old →
      old.invoiceId = event.invoiceId) (harrived : event.HasArrived)
    (hsent : later.status = .sent) :
    Delivered t := by
  refine h.record hfollows hevents rfl hplace (fun id hid => by rw [hinvoices, get?_set_ne hid])
    ⟨⟨later, by rw [hinvoices, get?_set_self]⟩, ?_, ?_⟩ fun invoice hinvoice => ?_
  · rw [harrived.1]
    decide
  · intro hattempted
    cases harrived.1.symm.trans hattempted
  · rw [hinvoices, get?_set_self] at hinvoice
    rw [← Option.some.inj hinvoice, hsent]
    exact deliveredAs_sent ((isDelivery_record hevents rfl).mpr (.inl rfl)) harrived

/-- Every request keeps this. -/
theorem delivered_of_change (h : Delivered s)
    (hchange : Change storagePath localeCompare s t) : Delivered t := by
  have hfollows := follows_of_change hchange
  cases hchange with
  | nothing => exact h
  | settings => exact h.congr rfl rfl
  | activated => exact h.congr rfl rfl
  | drafted => exact h.congr rfl rfl
  | discarded => exact h.congr rfl rfl
  | published => exact h.congr rfl rfl
  | issued hissue =>
      refine h.invoice hfollows rfl rfl ?_
      show DeliveredAs (Invoice.status _) _
      rw [hissue.approved]
      refine deliveredAs_approved fun event hevent => ?_
      obtain ⟨howner, eventId, hget⟩ := hevent
      obtain ⟨invoice, hknown⟩ := (h.stored eventId event hget).known
      rw [howner] at hknown
      cases hissue.newInvoice.symm.trans hknown
  | reapproved happroval =>
      refine h.invoice hfollows rfl rfl ?_
      rw [happroval.kept]
      exact deliveredAs_approved ((h.invoices _ _ happroval.storedInvoice).not_arrived
        (by rw [happroval.reopened]; decide))
  | @reopened invoiceId invoice draft hinvoice happroved _ _ hresolved =>
      have hnot := (h.invoices _ _ hinvoice).not_arrived (by rw [happroved]; decide)
      refine h.invoice hfollows rfl rfl
        ⟨sent_iff_of_not_arrived (by rintro ⟨⟩) hnot, fun _ event hevent => ?_, by rintro ⟨⟩⟩
      have hmem := isDelivery_iff_mem.mp hevent
      obtain ⟨-, eventId, hget⟩ := hevent
      cases hcase : event.status with
      | prepared => exact absurd hcase (h.stored eventId event hget).begun
      | attempted => exact absurd ⟨event, hmem, .inl hcase⟩ hresolved
      | succeeded => exact .inl rfl
      | failed => exact .inr rfl
      | outcomeUnknown => exact absurd ⟨event, hmem, .inr hcase⟩ hresolved
  | @cancelled invoiceId invoice hinvoice happroved hquiet =>
      have hnot := (h.invoices _ _ hinvoice).not_arrived (by rw [happroved]; decide)
      refine h.invoice hfollows rfl rfl
        ⟨sent_iff_of_not_arrived (by rintro ⟨⟩) hnot, by rintro ⟨⟩, fun _ event hevent => ?_⟩
      have hmem := isDelivery_iff_mem.mp hevent
      obtain ⟨-, eventId, hget⟩ := hevent
      cases hcase : event.status with
      | prepared => exact absurd hcase (h.stored eventId event hget).begun
      | attempted => exact absurd ⟨event, hmem, .inl hcase⟩ hquiet
      | succeeded => exact absurd ⟨event, hmem, .inr (.inr hcase)⟩ hquiet
      | failed => rfl
      | outcomeUnknown => exact absurd ⟨event, hmem, .inr (.inl hcase)⟩ hquiet
  | paid hinvoice =>
      have hbefore := h.invoices _ _ hinvoice
      exact h.invoice hfollows rfl rfl hbefore
  | promoted hinvoice =>
      have hbefore := h.invoices _ _ hinvoice
      exact h.invoice hfollows rfl rfl hbefore
  | reserved hreservation htarget _ hnew =>
      refine h.begin hfollows rfl rfl hnew htarget.found htarget.issued ?_ ?_
      · refine ⟨⟨_, htarget.found⟩, by rintro ⟨⟩, fun _ hmanual => ?_⟩
        rw [assertInvoiceDeliveryReservation, throwIf_eq_ok, not_or, not_and_or, not_not,
          not_not] at hreservation
        rcases hreservation.1 with hmode | hmode
        · cases hmode.symm.trans hmanual
        · cases hmode.symm.trans hmanual
      · rintro ⟨⟨⟩, -⟩
  | rehearsed hstatus htarget hnew =>
      refine h.begin hfollows rfl rfl hnew htarget.found htarget.issued ?_ ?_
      · refine ⟨⟨_, htarget.found⟩, ?_, fun _ => by rintro ⟨⟩⟩
        intro hprepared
        rcases hstatus with hdone | hdone
        · cases hdone.symm.trans hprepared
        · cases hdone.symm.trans hprepared
      · rintro ⟨-, hmode | hmode⟩
        · cases hmode
        · cases hmode
  | completed hevent hreserved hattempted hstatus hsent =>
      refine delivered_completed h hfollows rfl rfl hevent hattempted hstatus fun hdone hmode => ?_
      rw [hreserved.1]
      exact hsent hdone (hreserved.2.2.2.1.symm.trans hmode)
  | arrived hevent hreserved _ hsucceeded hcustomer _ htarget =>
      have howner := hreserved.1
      refine delivered_arrived h hfollows rfl (by rw [howner]) (fun old hold => ?_)
        ⟨hsucceeded, .inl (hreserved.2.2.2.1.trans hcustomer)⟩ rfl
      rw [hevent] at hold
      rw [← Option.some.inj hold]
  | delivered _ htarget _ hnew =>
      refine delivered_arrived h hfollows rfl rfl (fun old hold => ?_) ⟨rfl, .inr rfl⟩ rfl
      cases hnew.symm.trans hold

theorem delivered_of_reachable
    (h : (FromEmpty storagePath localeCompare).Reachable s) : Delivered s :=
  fromEmpty_invariant delivered_empty (fun _ _ _ => delivered_of_change) h

/-- **SENT IS DELIVERED**: an invoice is sent if and only if one of its deliveries has
    reached the customer; a reopened invoice has none on its way, and of a cancelled one
    every delivery has failed. -/
theorem sent_iff_delivered
    (h : (FromEmpty storagePath localeCompare).Reachable s)
    {invoiceId : String} {invoice : Invoice}
    (hinvoice : s.invoices.get? invoiceId = some invoice) :
    (invoice.status = .sent
        ↔ ∃ event ∈ s.deliveryEventsOf invoiceId, event.HasArrived)
      ∧ (invoice.status = .reopenedForEdit → ∀ event ∈ s.deliveryEventsOf invoiceId,
        event.status = .succeeded ∨ event.status = .failed)
      ∧ (invoice.status = .cancelled → ∀ event ∈ s.deliveryEventsOf invoiceId,
        event.status = .failed) := by
  have hdelivered := (delivered_of_reachable h).invoices invoiceId invoice hinvoice
  simp only [← isDelivery_iff_mem]
  exact ⟨hdelivered.sent, hdelivered.reopened, hdelivered.cancelled⟩

theorem sent_iff_delivered_sample :
    ∃ event ∈ (sampleAfter 9).deliveryEventsOf "i1", event.HasArrived := by
  have hrun : (FromEmpty samplePath sampleCompare).Reachable (sampleAfter 9) :=
    @reachable_of_run _ _ _ _ _ (sampleRequests.take 9) (.initial rfl) (by rfl)
  obtain ⟨invoice, hinvoice, hsent⟩ : ∃ invoice,
      (sampleAfter 9).invoices.get? "i1" = some invoice ∧ invoice.status = .sent := ⟨_, rfl, rfl⟩
  exact (sent_iff_delivered hrun hinvoice).1.mp hsent

end Ledger

end InvoiceLedger
