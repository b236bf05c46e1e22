import Eky.LedgerSent

/-! # What the payment events add up to

    The payment columns of an invoice hold one payment at most, and `invoice_payment_events`
    every mark and every reversal there has been.  `replay` reads the events one after the
    other: a mark needs an invoice that is unpaid, and a reversal takes back the mark that
    stands, with its date and its amount.  The columns are always what the replay gives
    (`payments_replayed`). -/

namespace InvoiceLedger

open OrderedMap

/-! ## Replaying -/

/-- The mark after an event. -/
def replayEvent (payment : Option InvoicePayment) (event : InvoicePaymentEvent) :
    Option (Option InvoicePayment) :=
  match event.action, payment with
  | .paymentMarkedPaid, none => some (some ⟨event.paidOn, event.amountCents⟩)
  | .paymentMarkReverted, some marked =>
      if marked = ⟨event.paidOn, event.amountCents⟩ then some none else none
  | .paymentMarkedPaid, some _ => none
  | .paymentMarkReverted, none => none

/-- The payment after the events of an invoice, if they can follow one another. -/
def replay (events : List InvoicePaymentEvent) : Option (Option InvoicePayment) :=
  events.foldlM replayEvent none

variable {invoice : Invoice} {event : InvoicePaymentEvent} {payment : Option InvoicePayment}

theorem replay_concat {events : List InvoicePaymentEvent} (h : replay events = some payment) :
    replay (events ++ [event]) = replayEvent payment event := by
  have hevents : events.foldlM replayEvent none = some payment := h
  rw [replay, List.foldlM_append, hevents, Option.bind_eq_bind, Option.bind_some,
    List.foldlM_cons]
  exact bind_pure _

namespace Ledger

variable {storagePath : String → String → Option String}
variable {localeCompare : String → String → Int} {s t : Ledger} {invoiceId : String}

/-- The payment events of an invoice. -/
def paymentEventsOf (s : Ledger) (invoiceId : String) : List InvoicePaymentEvent :=
  s.paymentEvents.filter (·.invoiceId = invoiceId)

theorem paymentEventsOf_record (hevents : t.paymentEvents = s.paymentEvents ++ [event])
    (howner : event.invoiceId = invoiceId) :
    t.paymentEventsOf invoiceId = s.paymentEventsOf invoiceId ++ [event] := by
  rw [paymentEventsOf, hevents, List.filter_append,
    List.filter_cons_of_pos (by rw [howner, decide_eq_true_eq]), List.filter_nil]
  rfl

theorem paymentEventsOf_record_ne (hevents : t.paymentEvents = s.paymentEvents ++ [event])
    (howner : event.invoiceId ≠ invoiceId) :
    t.paymentEventsOf invoiceId = s.paymentEventsOf invoiceId := by
  rw [paymentEventsOf, hevents, List.filter_append,
    List.filter_cons_of_neg (by rw [decide_eq_true_eq]; exact howner), List.filter_nil,
    List.append_nil]
  rfl

/-- A recorded payment is the one event that its invoice can have next. -/
theorem Payment.replayed (h : Payment s invoiceId invoice payment event) :
    event.invoiceId = invoiceId ∧ replayEvent invoice.payment event = some payment := by
  cases h with
  | marked hunpaid _ =>
      rw [hunpaid]
      exact ⟨rfl, rfl⟩
  | reverted hpaid =>
      rw [hpaid]
      exact ⟨rfl, if_pos rfl⟩

/-! ## Every request -/

/-- The marks are what the events make of them. -/
structure Replayed (s : Ledger) : Prop where
  sent : ∀ e ∈ s.paymentEvents, ∃ invoice, s.invoices.get? e.invoiceId = some invoice
    ∧ invoice.status = .sent ∧ invoice.invoiceKind = .standard
  columns : ∀ invoiceId invoice, s.invoices.get? invoiceId = some invoice →
    replay (s.paymentEventsOf invoiceId) = some invoice.payment
  positive : ∀ invoiceId invoice payment, s.invoices.get? invoiceId = some invoice →
    invoice.payment = some payment → 0 < payment.paidAmountCents
  unique : (s.paymentEvents.map (·.id)).Nodup

theorem replayed_empty : Replayed Ledger.empty where
  sent := by
    intro e he
    cases he
  columns := by
    intro _ _ h
    cases h
  positive := by
    intro _ _ _ h
    cases h
  unique := List.nodup_nil

/-- A sent invoice stays a sent invoice of its kind. -/
theorem sent_follows (hfollows : Follows s t) (hinvoice : s.invoices.get? invoiceId = some invoice)
    (hsent : invoice.status = .sent) :
    ∃ later, t.invoices.get? invoiceId = some later ∧ later.status = .sent
      ∧ later.invoiceKind = invoice.invoiceKind := by
  obtain ⟨later, hlater, hsucceeds⟩ := hfollows.invoices _ _ hinvoice
  have hsame := hsucceeds.sent hsent
  refine ⟨later, hlater, ?_, ?_⟩
  · rw [hsame]
    exact hsent
  · rw [hsame]

section

variable (h : Replayed s) (hfollows : Follows s t) (hevents : t.paymentEvents = s.paymentEvents)
include h hfollows hevents

/-- Nothing is recorded, and every invoice has the payment it had; a new one has none. -/
theorem Replayed.keep (hinvoices : ∀ id later, t.invoices.get? id = some later →
      (∃ before, s.invoices.get? id = some before ∧ later.payment = before.payment)
        ∨ s.invoices.get? id = none ∧ later.payment = none) : Replayed t where
  sent := by
    intro e he
    rw [hevents] at he
    obtain ⟨invoice, hinvoice, hsent, hstandard⟩ := h.sent e he
    obtain ⟨later, hlater, hlaterSent, hkind⟩ := sent_follows hfollows hinvoice hsent
    exact ⟨later, hlater, hlaterSent, hkind.trans hstandard⟩
  columns := by
    intro id later hlater
    rw [paymentEventsOf, hevents]
    rcases hinvoices id later hlater with ⟨before, hbefore, hpayment⟩ | ⟨hnew, hpayment⟩
    · rw [hpayment]
      exact h.columns id before hbefore
    · have hnone : s.paymentEvents.filter (·.invoiceId = id) = [] := by
        refine List.filter_eq_nil_iff.mpr fun e he howner => ?_
        obtain ⟨invoice, hinvoice, -⟩ := h.sent e he
        rw [of_decide_eq_true howner, hnew] at hinvoice
        cases hinvoice
      rw [hnone, hpayment]
      rfl
  positive := by
    intro id later payment hlater hpaid
    rcases hinvoices id later hlater with ⟨before, hbefore, hpayment⟩ | ⟨-, hpayment⟩
    · exact h.positive id before payment hbefore (hpayment.symm.trans hpaid)
    · cases hpayment.symm.trans hpaid
  unique := by
    rw [hevents]
    exact h.unique

theorem Replayed.update {later : Invoice} (hinvoices : t.invoices = s.invoices.set invoiceId later)
    (hinvoice : s.invoices.get? invoiceId = some invoice)
    (hpayment : later.payment = invoice.payment) : Replayed t := by
  refine h.keep hfollows hevents fun id row hrow => .inl ?_
  rw [hinvoices] at hrow
  rcases get?_set_cases hrow with ⟨rfl, rfl⟩ | ⟨-, hold⟩
  · exact ⟨invoice, hinvoice, hpayment⟩
  · exact ⟨row, hold, rfl⟩

theorem Replayed.same (hinvoices : t.invoices = s.invoices) : Replayed t :=
  h.keep hfollows hevents fun _ later hlater => .inl ⟨later, by rw [← hinvoices, hlater], rfl⟩

end

/-- A payment is recorded together with its event. -/
theorem Replayed.pay (h : Replayed s) (hfollows : Follows s t)
    (hevents : t.paymentEvents = s.paymentEvents ++ [event])
    (hinvoices : t.invoices = s.invoices.set invoiceId { invoice with payment })
    (hinvoice : s.invoices.get? invoiceId = some invoice)
    (hstandard : invoice.invoiceKind = .standard) (hsent : invoice.status = .sent)
    (hpayment : Payment s invoiceId invoice payment event)
    (hnew : ∀ e ∈ s.paymentEvents, e.id ≠ event.id) : Replayed t := by
  obtain ⟨howner, hreplay⟩ := hpayment.replayed
  constructor
  · intro e he
    rw [hevents, List.mem_append, List.mem_singleton] at he
    rcases he with he | rfl
    · obtain ⟨found, hfound, hfoundSent, hfoundStandard⟩ := h.sent e he
      obtain ⟨later, hlater, hlaterSent, hkind⟩ := sent_follows hfollows hfound hfoundSent
      exact ⟨later, hlater, hlaterSent, hkind.trans hfoundStandard⟩
    · refine ⟨{ invoice with payment }, ?_, hsent, hstandard⟩
      rw [hinvoices, howner, get?_set_self]
  · intro id row hrow
    rw [hinvoices] at hrow
    rcases get?_set_cases hrow with ⟨rfl, rfl⟩ | ⟨hne, hold⟩
    · rw [paymentEventsOf_record hevents howner, replay_concat (h.columns _ _ hinvoice)]
      exact hreplay
    · rw [paymentEventsOf_record_ne hevents (by rw [howner]; exact hne.symm)]
      exact h.columns id row hold
  · intro id row paid hrow hpaid
    rw [hinvoices] at hrow
    rcases get?_set_cases hrow with ⟨rfl, rfl⟩ | ⟨-, hold⟩
    · cases hpayment with
      | marked _ hpositive =>
          rw [← Option.some.inj hpaid]
          exact hpositive
      | reverted => cases hpaid
    · exact h.positive id row paid hold hpaid
  · rw [hevents, List.map_append, List.nodup_append]
    refine ⟨h.unique, List.nodup_singleton _, fun id hid other hother => ?_⟩
    obtain ⟨e, he, rfl⟩ := List.mem_map.mp hid
    rw [List.mem_singleton.mp hother]
    exact hnew e he

theorem replayed_of_change (h : Replayed s)
    (hchange : Change storagePath localeCompare s t) : Replayed t := by
  have hfollows := follows_of_change hchange
  cases hchange with
  | nothing => exact h
  | settings => exact h.same hfollows rfl rfl
  | activated => exact h.same hfollows rfl rfl
  | drafted => exact h.same hfollows rfl rfl
  | discarded => exact h.same hfollows rfl rfl
  | published => exact h.same hfollows rfl rfl
  | reserved => exact h.same hfollows rfl rfl
  | completed => exact h.same hfollows rfl rfl
  | rehearsed => exact h.same hfollows rfl rfl
  | issued hissue =>
      refine h.keep hfollows rfl fun id row hrow => ?_
      rcases get?_set_cases hrow with ⟨rfl, rfl⟩ | ⟨-, hold⟩
      · exact .inr ⟨hissue.newInvoice, hissue.unpaid⟩
      · exact .inl ⟨row, hold, rfl⟩
  | reapproved happroval =>
      exact h.update hfollows rfl rfl happroval.storedInvoice (by rw [happroval.kept])
  | reopened hinvoice => exact h.update hfollows rfl rfl hinvoice rfl
  | cancelled hinvoice => exact h.update hfollows rfl rfl hinvoice rfl
  | arrived _ _ _ _ _ _ htarget => exact h.update hfollows rfl rfl htarget.found rfl
  | delivered _ htarget => exact h.update hfollows rfl rfl htarget.found rfl
  | promoted hinvoice => exact h.update hfollows rfl rfl hinvoice rfl
  | paid hinvoice hstandard hsent hpayment hnew =>
      exact h.pay hfollows rfl rfl hinvoice hstandard hsent hpayment hnew

theorem replayed_of_reachable
    (h : (FromEmpty storagePath localeCompare).Reachable s) : Replayed s :=
  fromEmpty_invariant replayed_empty (fun _ _ _ => replayed_of_change) h

/-- **THE COLUMNS ARE THE EVENTS**: the payment of an invoice is what the replay of its
    events gives, and only a sent standard invoice has one. -/
theorem payments_replayed
    (h : (FromEmpty storagePath localeCompare).Reachable s)
    {invoice : Invoice} (hinvoice : s.invoices.get? invoiceId = some invoice) :
    replay (s.paymentEventsOf invoiceId) = some invoice.payment
      ∧ (∀ e ∈ s.paymentEventsOf invoiceId,
        invoice.status = .sent ∧ invoice.invoiceKind = .standard)
      ∧ (∀ payment, invoice.payment = some payment → 0 < payment.paidAmountCents)
      ∧ ((s.paymentEventsOf invoiceId).map (·.id)).Nodup := by
  have hreplayed := replayed_of_reachable h
  refine ⟨hreplayed.columns _ _ hinvoice, fun e he => ?_,
    fun payment => hreplayed.positive _ _ payment hinvoice,
    hreplayed.unique.sublist (List.filter_sublist.map _)⟩
  rw [paymentEventsOf, List.mem_filter, decide_eq_true_eq] at he
  obtain ⟨found, hfound, hsent, hstandard⟩ := hreplayed.sent e he.1
  rw [he.2, hinvoice] at hfound
  obtain rfl := Option.some.inj hfound
  exact ⟨hsent, hstandard⟩

theorem payments_replayed_sample :
    replay ((sampleAfter 9).paymentEventsOf "i1") = some (some ⟨"2026-01-03", 627⟩) := by
  have hrun : (FromEmpty samplePath sampleCompare).Reachable (sampleAfter 9) :=
    @reachable_of_run _ _ _ _ _ (sampleRequests.take 9) (.initial rfl) (by rfl)
  obtain ⟨invoice, hinvoice, hpayment⟩ : ∃ invoice,
      (sampleAfter 9).invoices.get? "i1" = some invoice
        ∧ invoice.payment = some ⟨"2026-01-03", 627⟩ := ⟨_, rfl, rfl⟩
  rw [← hpayment]
  exact (payments_replayed hrun hinvoice).1

end Ledger

end InvoiceLedger
