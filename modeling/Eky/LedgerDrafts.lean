import Eky.LedgerInFlight
import Eky.LedgerNumbers

/-! # A draft and the invoice made from it

    A draft is locked by the invoice that was made from it, from the approval on and until
    the invoice is reopened (`Locked`).  What locks a draft is never another invoice, so the
    reopening of an approved invoice always finds the draft that it unlocks. -/

namespace InvoiceLedger.Ledger

open Fallible LegacyRevision OrderedMap

variable {storagePath : String → String → Option String}
variable {localeCompare : String → String → Int} {s t : Ledger}

/-- Every invoice has its draft, which it locks unless it has been reopened; and what locks a
    draft is the invoice made from it. -/
structure Locked (s : Ledger) : Prop where
  owned : ∀ invoiceId invoice, s.invoices.get? invoiceId = some invoice →
    ∃ draft, s.drafts.get? invoice.sourceDraftId = some draft
      ∧ draft.approvedInvoiceId
        = if invoice.status = .reopenedForEdit then none else some invoiceId
  unique : ∀ invoiceId invoice otherId other, s.invoices.get? invoiceId = some invoice →
    s.invoices.get? otherId = some other → invoice.sourceDraftId = other.sourceDraftId →
    invoiceId = otherId

theorem locked_empty : Locked Ledger.empty where
  owned := by
    intro _ _ h
    cases h
  unique := by
    intro _ _ _ _ h
    cases h

/-- An invoice that changes keeps its draft as long as the draft is locked as it should be. -/
theorem Locked.update (h : Locked s) {invoiceId : String} {invoice later : Invoice}
    (hinvoices : t.invoices = s.invoices.set invoiceId later)
    (hinvoice : s.invoices.get? invoiceId = some invoice)
    (hsource : later.sourceDraftId = invoice.sourceDraftId)
    (hdraft : ∃ draft, t.drafts.get? invoice.sourceDraftId = some draft
      ∧ draft.approvedInvoiceId
        = if later.status = .reopenedForEdit then none else some invoiceId)
    (hothers : ∀ draftId, draftId ≠ invoice.sourceDraftId →
      t.drafts.get? draftId = s.drafts.get? draftId) : Locked t := by
  have hfound : ∀ {id row}, t.invoices.get? id = some row →
      ∃ before, s.invoices.get? id = some before ∧ row.sourceDraftId = before.sourceDraftId
        ∧ (id = invoiceId ∧ row = later ∨ id ≠ invoiceId ∧ row = before) := by
    intro id row hget
    rw [hinvoices] at hget
    rcases get?_set_cases hget with ⟨rfl, rfl⟩ | ⟨hne, hget⟩
    · exact ⟨invoice, hinvoice, hsource, .inl ⟨rfl, rfl⟩⟩
    · exact ⟨row, hget, rfl, .inr ⟨hne, rfl⟩⟩
  constructor
  · intro id row hget
    obtain ⟨before, hbefore, hsame, ⟨rfl, rfl⟩ | ⟨hne, rfl⟩⟩ := hfound hget
    · rw [hsource]
      exact hdraft
    · obtain ⟨draft, hstored, hlock⟩ := h.owned id row hbefore
      refine ⟨draft, ?_, hlock⟩
      rw [hothers, hstored]
      intro hshared
      exact hne (h.unique _ _ _ _ hbefore hinvoice hshared)
  · intro id row otherId other hget hother hshared
    obtain ⟨before, hbefore, hsame, -⟩ := hfound hget
    obtain ⟨before', hbefore', hsame', -⟩ := hfound hother
    exact h.unique _ _ _ _ hbefore hbefore' (by rw [← hsame, ← hsame', hshared])

/-- An invoice that is neither reopened now nor was it before stays locked. -/
theorem Locked.keep (h : Locked s) {invoiceId : String} {invoice later : Invoice}
    (hinvoices : t.invoices = s.invoices.set invoiceId later) (hdrafts : t.drafts = s.drafts)
    (hinvoice : s.invoices.get? invoiceId = some invoice)
    (hsource : later.sourceDraftId = invoice.sourceDraftId)
    (hbefore : invoice.status ≠ .reopenedForEdit) (hafter : later.status ≠ .reopenedForEdit) :
    Locked t := by
  refine h.update hinvoices hinvoice hsource ?_ fun draftId _ => by rw [hdrafts]
  obtain ⟨draft, hstored, hlock⟩ := h.owned _ _ hinvoice
  rw [if_neg hbefore] at hlock
  rw [hdrafts, if_neg hafter]
  exact ⟨draft, hstored, hlock⟩

/-- Every request keeps this. -/
theorem locked_of_change (h : Locked s)
    (hchange : Change storagePath localeCompare s t) : Locked t := by
  cases hchange with
  | nothing => exact h
  | settings => exact ⟨h.owned, h.unique⟩
  | activated => exact ⟨h.owned, h.unique⟩
  | published => exact ⟨h.owned, h.unique⟩
  | reserved => exact ⟨h.owned, h.unique⟩
  | completed => exact ⟨h.owned, h.unique⟩
  | rehearsed => exact ⟨h.owned, h.unique⟩
  | @drafted draftId draft hopen hplace =>
      refine ⟨fun invoiceId invoice hinvoice => ?_, h.unique⟩
      obtain ⟨stored, hstored, hlock⟩ := h.owned invoiceId invoice hinvoice
      by_cases hsame : invoice.sourceDraftId = draftId
      · -- what is saved over was not locked, so the invoice has been reopened
        subst hsame
        have hbefore := hplace stored hstored
        refine ⟨draft, get?_set_self _ _ _, ?_⟩
        rw [hopen, ← hlock, hbefore]
      · exact ⟨stored, by rw [get?_set_ne hsame, hstored], hlock⟩
  | discarded hfree =>
      refine ⟨fun invoiceId invoice hinvoice => ?_, h.unique⟩
      obtain ⟨stored, hstored, hlock⟩ := h.owned invoiceId invoice hinvoice
      refine ⟨stored, ?_, hlock⟩
      rw [get?_erase_ne (hfree (invoiceId, invoice) (mem_of_get? hinvoice)), hstored]
  | @issued invoiceId revisionId invoice draft source hissue =>
      have hnew : ∀ {id row}, s.invoices.get? id = some row →
          row.sourceDraftId ≠ invoice.sourceDraftId := fun hget =>
        hissue.newDraft _ (mem_of_get? hget)
      constructor
      · intro id row hget
        rcases get?_set_cases hget with ⟨rfl, rfl⟩ | ⟨-, hold⟩
        · refine ⟨_, get?_set_self _ _ _, (if_neg ?_).symm⟩
          rw [hissue.approved]
          decide
        · obtain ⟨stored, hstored, hlock⟩ := h.owned id row hold
          exact ⟨stored, by rw [get?_set_ne (hnew hold), hstored], hlock⟩
      · intro id row otherId other hget hother hshared
        rcases get?_set_cases hget with ⟨rfl, rfl⟩ | ⟨-, hold⟩
        · rcases get?_set_cases hother with ⟨rfl, -⟩ | ⟨-, hold⟩
          · rfl
          · exact absurd hshared.symm (hnew hold)
        · rcases get?_set_cases hother with ⟨rfl, rfl⟩ | ⟨-, hold'⟩
          · exact absurd hshared (hnew hold)
          · exact h.unique _ _ _ _ hold hold' hshared
  | reapproved happroval =>
      refine h.update rfl happroval.storedInvoice (by rw [happroval.kept]) ?_ fun draftId hne =>
        get?_set_ne (by rw [← happroval.source]; exact hne)
      rw [happroval.source]
      refine ⟨_, get?_set_self _ _ _, ?_⟩
      rw [happroval.kept]
      rfl
  | reopened hinvoice happroved =>
      exact h.update rfl hinvoice rfl ⟨_, get?_set_self _ _ _, rfl⟩ fun draftId hne =>
        get?_set_ne hne
  | cancelled hinvoice happroved =>
      exact h.keep rfl rfl hinvoice rfl (by rw [happroved]; decide) (by rintro ⟨⟩)
  | paid hinvoice _ hsent =>
      exact h.keep rfl rfl hinvoice rfl (by rw [hsent]; decide) (by rw [hsent]; decide)
  | arrived _ _ _ _ _ happroved htarget =>
      exact h.keep rfl rfl htarget.found rfl (by rw [happroved]; decide) (by rintro ⟨⟩)
  | delivered happroved htarget =>
      exact h.keep rfl rfl htarget.found rfl (by rw [happroved]; decide) (by rintro ⟨⟩)
  | promoted hinvoice happroved =>
      exact h.keep rfl rfl hinvoice rfl (by rw [happroved]; decide) (by rw [happroved]; decide)

/-! ## Every ledger -/

theorem locked_of_reachable
    (h : (FromEmpty storagePath localeCompare).Reachable s) : Locked s :=
  fromEmpty_invariant locked_empty (fun _ _ _ => locked_of_change) h

/-- No delivery is one from before content revisions. -/
def Bound (s : Ledger) : Prop :=
  ∀ eventId event, s.deliveryEvents.get? eventId = some event → event.binding ≠ .legacyOriginal

theorem Bound.record (h : Bound s) {eventId : String} {event : InvoiceDeliveryEvent}
    (hevents : t.deliveryEvents = s.deliveryEvents.set eventId event)
    (hbinding : event.binding ≠ .legacyOriginal) : Bound t := by
  intro id other hother
  rw [hevents] at hother
  rcases get?_set_cases hother with ⟨-, rfl⟩ | ⟨-, hold⟩
  · exact hbinding
  · exact h id other hold

theorem bound_of_change (h : Bound s)
    (hchange : Change storagePath localeCompare s t) : Bound t := by
  cases hchange with
  | nothing => exact h
  | settings => exact h
  | activated => exact h
  | drafted => exact h
  | discarded => exact h
  | issued => exact h
  | reapproved => exact h
  | reopened => exact h
  | cancelled => exact h
  | paid => exact h
  | published => exact h
  | promoted => exact h
  | reserved => exact h.record rfl (eventBinding_ne_legacyOriginal _)
  | rehearsed => exact h.record rfl (eventBinding_ne_legacyOriginal _)
  | delivered => exact h.record rfl (eventBinding_ne_legacyOriginal _)
  | completed hevent =>
      have hbinding := h _ _ hevent
      exact h.record rfl hbinding
  | arrived hevent =>
      have hbinding := h _ _ hevent
      exact h.record rfl hbinding

theorem bound_of_reachable
    (h : (FromEmpty storagePath localeCompare).Reachable s) : Bound s := by
  refine fromEmpty_invariant ?_ (fun _ _ _ => bound_of_change) h
  intro _ _ hevent
  cases hevent

theorem Bound.reviewed (h : Bound s) (invoiceId : String) :
    ¬ s.RequiresLegacyDeliveryReview invoiceId := by
  rintro ⟨-, -, event, hevent, hbinding, -⟩
  obtain ⟨⟨e, he, rfl⟩, -⟩ := mem_deliveryEventsOf.mp hevent
  exact h e.1 e.2 (get?_of_mem he) hbinding

/-- **ISSUED MEANS LOCKED**: the draft of an invoice can be edited while the invoice is
    reopened, and only then; and an approved standard invoice can be reopened whenever no
    e-mail of it is unresolved. -/
theorem reopening_accepted_iff
    (h : (FromEmpty storagePath localeCompare).Reachable s)
    {invoiceId : String} {invoice : Invoice}
    (hinvoice : s.invoices.get? invoiceId = some invoice) :
    ((∃ draft, s.getEditableDraft invoice.sourceDraftId = some draft)
        ↔ invoice.status = .reopenedForEdit)
      ∧ ((∃ t, s.reopenApprovedInvoiceForEditing invoiceId = .ok t)
        ↔ invoice.status = .approved ∧ invoice.invoiceKind = .standard
          ∧ invoice.creditedInvoiceId = none ∧ ¬ s.HasUnresolvedDelivery invoiceId) := by
  obtain ⟨draft, hdraft, hlock⟩ := (locked_of_reachable h).owned invoiceId invoice hinvoice
  have hreviewed := (bound_of_reachable h).reviewed invoiceId
  constructor
  · rw [getEditableDraft, hdraft]
    simp only [Option.filter_eq_some_iff, decide_eq_true_eq, Option.some.injEq]
    constructor
    · rintro ⟨_, rfl, hopen⟩
      by_contra hclosed
      rw [hlock, if_neg hclosed] at hopen
      cases hopen
    · intro hreopened
      exact ⟨draft, rfl, hlock.trans (if_pos hreopened)⟩
  · simp only [reopenApprovedInvoiceForEditing, bind_eq_ok, orThrow_eq_ok, throwIf_eq_ok,
      exists_const, pure_eq_ok, not_or, not_not]
    constructor
    · rintro ⟨_, found, hfound, ⟨happroved, hstandard, hcredited⟩, -, hresolved, -⟩
      obtain rfl := Option.some.inj (hinvoice.symm.trans hfound)
      exact ⟨happroved, hstandard, hcredited, hresolved⟩
    · rintro ⟨happroved, hstandard, hcredited, hresolved⟩
      rw [happroved] at hlock
      exact ⟨_, invoice, hinvoice, ⟨happroved, hstandard, hcredited⟩, hreviewed, hresolved,
        draft, hdraft, hlock, rfl⟩

theorem reopening_accepted_iff_sample :
    ∃ t, (sampleAfter 13).reopenApprovedInvoiceForEditing "i3" = .ok t := by
  have hrun : (FromEmpty samplePath sampleCompare).Reachable (sampleAfter 13) :=
    @reachable_of_run _ _ _ _ _ (sampleRequests.take 13) (.initial rfl) (by rfl)
  obtain ⟨invoice, hinvoice, happroved, hstandard, hcredited⟩ : ∃ invoice,
      (sampleAfter 13).invoices.get? "i3" = some invoice ∧ invoice.status = .approved
        ∧ invoice.invoiceKind = .standard ∧ invoice.creditedInvoiceId = none :=
    ⟨_, rfl, rfl, rfl, rfl⟩
  exact (reopening_accepted_iff hrun hinvoice).2.mpr
    ⟨happroved, hstandard, hcredited, by decide +kernel⟩

end InvoiceLedger.Ledger
