import Eky.CreditCompletion

/-! # Crediting a part of an invoice

    The discount of a credited line is what lies between its base and its input
    amount.  Both are rounded cumulatively and each on its own, so the discount of
    a quantity may FALL when the quantity grows: the base rounds up a step before
    the input does, and then stands still when the input follows.

    - `partial_credit_accepted_iff`: a request for quantities that are left is
      accepted exactly when it lets no discount fall;
    - `partial_credit_refused`: a line at ten per cent off, credited in two parts. -/

namespace CreditHistory

open Fallible Apportionment OrderedMap InvoiceMoney VatGroups InvoiceCalculation
open VatDistribution CreditDraft CreditDraftModel CreditLedger
open CreditInvoice (CreditSourceLine RequestedCreditLine PreviousAllocationTotal Creditable
  CreditedFrom TakenFrom ValidSourceLine CreditsAsRequested CalculatedCreditLine)

/-- The part of a line's discount that belongs to a quantity of it. -/
def discountOf (l : CreditSourceLine) (quantity : Int) : Int :=
  halfUp (l.baseCents * quantity) l.quantityHundredths
    - halfUp (l.inputCents * quantity) l.quantityHundredths

/-- A request for quantities that are left, each of which brings input amount. -/
structure LegalRequest (invoice : SentInvoice) (allocations : List PreviousCreditAllocation)
    (requested : List RequestedCreditLine) : Prop where
  nonempty : requested ≠ []
  unique : (requested.map (·.sourceInvoiceLineId)).Nodup
  each : ∀ request ∈ requested, ∃ l ∈ invoice.lines,
    l.id = request.sourceInvoiceLineId
      ∧ 0 < request.quantityHundredths
      ∧ (creditedOf l.id allocations).quantityHundredths + request.quantityHundredths
        ≤ l.quantityHundredths
      ∧ (creditedOf l.id allocations).inputCents l.priceInputMode
        < halfUp (l.inputCents * ((creditedOf l.id allocations).quantityHundredths
            + request.quantityHundredths)) l.quantityHundredths

/-- No requested quantity lets the discount of its line fall. -/
def DiscountsGrow (invoice : SentInvoice) (allocations : List PreviousCreditAllocation)
    (requested : List RequestedCreditLine) : Prop :=
  ∀ request ∈ requested, ∀ l ∈ invoice.lines, l.id = request.sourceInvoiceLineId →
    discountOf l (creditedOf l.id allocations).quantityHundredths
      ≤ discountOf l ((creditedOf l.id allocations).quantityHundredths
        + request.quantityHundredths)

/-- The requested quantities end their lines, or have a whole cent of discount or
    none at all. -/
def CoarseRequest (invoice : SentInvoice) (allocations : List PreviousCreditAllocation)
    (requested : List RequestedCreditLine) : Prop :=
  ∀ request ∈ requested, ∀ l ∈ invoice.lines, l.id = request.sourceInvoiceLineId →
    (creditedOf l.id allocations).quantityHundredths + request.quantityHundredths
        = l.quantityHundredths
      ∨ l.discountCents = 0
      ∨ l.quantityHundredths ≤ l.discountCents * request.quantityHundredths

variable {l : CreditSourceLine}

/-! ## What the accumulated amounts are -/

section Allocations

variable {localeCompare : String → String → Int} {invoice : SentInvoice}
variable {credits : List Credit} {allocations : List PreviousCreditAllocation}
variable {requested : List RequestedCreditLine}

/-- The closed forms of an uncancelled history, for its allocations in any order. -/
structure ClosedForms (invoice : SentInvoice) (allocations : List PreviousCreditAllocation) :
    Prop where
  base : ∀ l ∈ invoice.lines, (creditedOf l.id allocations).baseCents
    = halfUp (l.baseCents * (creditedOf l.id allocations).quantityHundredths)
        l.quantityHundredths
  input : ∀ l ∈ invoice.lines, (creditedOf l.id allocations).inputCents l.priceInputMode
    = halfUp (l.inputCents * (creditedOf l.id allocations).quantityHundredths)
        l.quantityHundredths
  net : ∀ rate ∈ ratesOf invoice.amounts, sumOn (·.netCents) rate (amountsOf allocations)
    = netOf (modeOn rate invoice.amounts) rate
        (sumOn (·.inputCents) rate (amountsOf allocations))
  vat : ∀ rate ∈ ratesOf invoice.amounts, sumOn (·.vatCents) rate (amountsOf allocations)
    = vatOf (modeOn rate invoice.amounts) rate
        (sumOn (·.inputCents) rate (amountsOf allocations))

theorem closedForms_of_reachable
    (h : TransitionSystem.Reachable (uncancelledSystem localeCompare invoice) credits)
    (hperm : allocations.Perm (allocationsOf credits)) : ClosedForms invoice allocations := by
  have hcumulative := cumulative_of_reachable h
  have hsound := sound_of_reachable (reachable_of_source (source_of_uncancelled h))
  have hsum : ∀ (f : LineAmounts → Int) r,
      sumOn f r (amountsOf allocations) = sumOn f r (credited credits) :=
    fun f r => sumOn_perm (hperm.map _)
  refine ⟨?_, ?_, ?_, ?_⟩
  · intro l hl
    rw [creditedOf_perm l.id hperm]
    exact hcumulative.base l hl
  · intro l hl
    rw [creditedOf_perm l.id hperm]
    exact hcumulative.input l hl
  · intro rate hrate
    rw [hsum, hsum]
    exact hcumulative.net rate hrate
  · intro rate hrate
    rw [hsum, hsum]
    exact congrArg (·.vatCents) (hcumulative.sumsOf_eq hsound hrate)

/-! ## One line -/

/-- A quantity that is left of a line extends what was credited before as long as the
    discount of the line does not fall. -/
theorem ClosedForms.extends (h : ClosedForms invoice allocations) (hl : l ∈ invoice.lines) {q : Int}
    (hq : 0 < q) (hquantity : 0 ≤ (creditedOf l.id allocations).quantityHundredths)
    (hwithin : (creditedOf l.id allocations).quantityHundredths + q ≤ l.quantityHundredths)
    (hgrows : discountOf l (creditedOf l.id allocations).quantityHundredths
      ≤ discountOf l ((creditedOf l.id allocations).quantityHundredths + q)) :
    CreditInvoice.Extends (CreditInvoice.toCapacity l.vatRateBasisPoints l)
      (creditedOf l.id allocations) q := by
  have hv : ValidSourceLine l := SentInvoice.validSourceLine hl
  have hpriced := SentInvoice.priced_of_mem hl
  have hcapacity : (CreditInvoice.toCapacity l.vatRateBasisPoints l).discountedInputCents
      = l.inputCents := hv.input
  have hquantityMax := hv.quantity.2
  have hpos : 0 < l.quantityHundredths := by omega
  have hbase := h.base l hl
  have hinput := h.input l hl
  rw [discountOf, discountOf, ← hbase, ← hinput] at hgrows
  refine ⟨⟨⟨by omega, by omega⟩, by omega⟩, hwithin, ?_, ?_, ?_⟩
  · rw [hbase]
    exact halfUp_mono hpos (Int.mul_le_mul_of_nonneg_left (by omega) hpriced.base.1)
  · show (creditedOf l.id allocations).inputCents l.priceInputMode
      ≤ halfUp (_ * ((creditedOf l.id allocations).quantityHundredths + q))
        l.quantityHundredths
    rw [hcapacity, hinput]
    exact halfUp_mono hpos (Int.mul_le_mul_of_nonneg_left (by omega) hpriced.input_nonneg)
  · show halfUp (_ * ((creditedOf l.id allocations).quantityHundredths + q))
        l.quantityHundredths - (creditedOf l.id allocations).inputCents l.priceInputMode
      ≤ halfUp (l.baseCents * ((creditedOf l.id allocations).quantityHundredths + q))
        l.quantityHundredths - (creditedOf l.id allocations).baseCents
    rw [hcapacity]
    omega

/-- The discount of a line does not fall over a quantity that ends the line, or has a
    whole cent of discount or none at all. -/
theorem discountOf_le (hl : l ∈ invoice.lines) {taken q : Int} (hpos : 0 < l.quantityHundredths)
    (hcoarse : taken + q = l.quantityHundredths ∨ l.discountCents = 0
      ∨ l.quantityHundredths ≤ l.discountCents * q) (hq : 0 < q) :
    discountOf l taken ≤ discountOf l (taken + q) := by
  have hpriced := SentInvoice.priced_of_mem hl
  have hinput := hpriced.input
  have hdiscount := hpriced.discount_nonneg
  rw [discountOf, discountOf]
  rcases hcoarse with hfull | hnone | hcent
  · -- the amounts of a part differ by at most the whole discount
    have hpart : halfUp (l.baseCents * taken) l.quantityHundredths
        ≤ halfUp (l.inputCents * taken) l.quantityHundredths
          + (l.baseCents - l.inputCents) :=
      halfUp_part_sub_le (by omega) (by omega) hpos
    rw [hfull, halfUp_mul hpos, halfUp_mul hpos]
    omega
  · have hsame : l.inputCents = l.baseCents := by omega
    rw [hsame]
    omega
  · have hgrowth := halfUp_growth_le (n := l.inputCents * taken) (m := l.inputCents * q)
      (k := l.baseCents * taken) hpos hcent
    have hinputStep : l.inputCents * (taken + q) = l.inputCents * taken + l.inputCents * q :=
      Int.mul_add _ _ _
    have hbaseStep : l.baseCents * (taken + q)
        = l.baseCents * taken + (l.inputCents * q + l.discountCents * q) := by
      have hbase : l.baseCents = l.inputCents + l.discountCents := by omega
      rw [Int.mul_add, ← Int.add_mul, ← hbase]
    rw [hinputStep, hbaseStep]
    omega

/-! ## A request -/

/-- Requested lines take no line beyond its input amount, and so no rate. -/
theorem fits_of_requests (h : Standing invoice allocations)
    {source : List CalculatedNormalCreditDraftLine}
    (hrequests : List.Forall₂ (CreditsRequest invoice.lines allocations) requested source)
    (hunique : (requested.map (·.sourceInvoiceLineId)).Nodup) :
    Fits invoice allocations (source.map (·.toLineAmounts)) where
  known := known_of_requests hrequests
  input_le rate := by
    rw [input_of_requests h.source hrequests, SentInvoice.amounts, sumOn_map]
    refine List.sum_le_sum (fun l hl => ?_)
    have hl := (mem_withKey.mp hl).1
    rw [creditedOf_append]
    by_cases hid : l.id ∈ requested.map (·.sourceInvoiceLineId)
    · obtain ⟨request, hrequest, hrid⟩ := List.mem_map.mp hid
      obtain ⟨y, _, ⟨k, hk, _, hkid, _, hfrom⟩, htotal⟩ :=
        creditedOf_of_requested hrequests hunique hrequest
      obtain rfl : k = l := List.inj_on_of_nodup_map invoice.uniqueIds hk hl (hkid.trans hrid)
      rw [hrid] at htotal
      rw [htotal]
      exact (takenFrom_credit hl (h.taken k hl) hfrom).input.2
    · rw [creditedOf_of_not_requested hrequests hid, add_zero]
      exact (h.taken l hl).input.2

/-- Without cancellations there is room for any further input that fits. -/
theorem Fits.room {lines : List LineAmounts} (hfits : Fits invoice allocations lines)
    (h : Standing invoice allocations) (hclosed : ClosedForms invoice allocations)
    (hinput : ∀ x ∈ lines, 0 ≤ x.inputCents) {x : LineAmounts} (hx : x ∈ lines) :
    LeavesRoom (amountsOf allocations) x.priceInputMode x.vatRateBasisPoints
      (sumOn (·.inputCents) x.vatRateBasisPoints lines) := by
  obtain ⟨hrate, hmode⟩ := hfits.known x hx
  obtain ⟨z, hz, hzr⟩ := mem_ratesOf.mp hrate
  have hrate0 : 0 ≤ x.vatRateBasisPoints := hzr ▸ (SentInvoice.creditable.amounts z hz).1.1
  have htotal : 0 ≤ sumOn (·.inputCents) x.vatRateBasisPoints lines :=
    sumOn_nonneg (fun y hy => hinput y hy)
  have hnet := hclosed.net _ hrate
  have hvat := hclosed.vat _ hrate
  rw [hmode] at hnet hvat
  refine ⟨hrate0, sumOn_nonneg (fun y hy => (h.reconciled y hy).1),
    sumOn_nonneg (fun y hy => (h.reconciled y hy).2.1), ?_, ?_, ?_, ?_⟩
  · rw [hnet]
    exact netOf_mono hrate0 (by omega)
  · rw [hvat]
    exact vatOf_mono hrate0 (by omega)
  · have hle := @grossOf_mono x.priceInputMode _ _ _ hrate0
      (hfits.input_le x.vatRateBasisPoints)
    have hrow : grossOf x.priceInputMode x.vatRateBasisPoints
        (sumOn (·.inputCents) x.vatRateBasisPoints invoice.amounts) ≤ maximumSafeInteger := by
      rw [← hmode]
      exact SentInvoice.rowOf_le hrate
    omega
  · intro hzero
    rw [hzero, Int.add_zero]
    exact ⟨hnet, hvat⟩

/-- A line that still brings input amount has a value. -/
theorem creditable_of_input (h : Standing invoice allocations) (hl : l ∈ invoice.lines)
    {quantity : Int} (hpos : 0 < l.quantityHundredths) (hquantity : quantity ≤ l.quantityHundredths)
    (hinput : (creditedOf l.id allocations).inputCents l.priceInputMode
      < halfUp (l.inputCents * quantity) l.quantityHundredths) : Creditable l := by
  have hpriced := SentInvoice.priced_of_mem hl
  have htaken := (h.taken l hl).input.1
  have hle := halfUp_part_le hpriced.input_nonneg hquantity hpos
  have hgross := hpriced.reconciled.input_le_gross
  exact ⟨by omega, by omega⟩

/-- **A PARTIAL CREDIT** is accepted exactly when it lets no discount fall.  It does so
    when every quantity ends its line, or has a whole cent of discount or none. -/
theorem partial_credit_accepted_iff
    (h : TransitionSystem.Reachable (uncancelledSystem localeCompare invoice) credits)
    (hperm : allocations.Perm (allocationsOf credits))
    (hrequest : LegalRequest invoice allocations requested) :
    ((∃ c, CreditInvoice.calculateCreditInvoice localeCompare invoice.lines
        (allocations.filterMap toPreviousLineAllocation) requested = .ok c)
      ↔ DiscountsGrow invoice allocations requested)
    ∧ (CoarseRequest invoice allocations requested →
        DiscountsGrow invoice allocations requested) := by
  have hstanding := standing_of_reachable (source_of_uncancelled h) hperm
  have hclosed := closedForms_of_reachable h hperm
  refine ⟨⟨?_, ?_⟩, ?_⟩
  · -- the discount of an accepted line is not negative
    rintro ⟨c, hc⟩ request hmem l hl hid
    obtain ⟨_, _, _, hlines, _⟩ := CreditInvoice.calculateCreditInvoice_spec hc
    obtain ⟨y, _, k, hk, _, hkid, hfrom⟩ := exists_right_of_forall₂ hlines hmem
    obtain rfl : k = l := List.inj_on_of_nodup_map invoice.uniqueIds hk hl (hkid.trans hid.symm)
    have hbase : (creditedOf k.id allocations).baseCents + y.baseCents = _ := hfrom.base
    have hinput : (creditedOf k.id allocations).inputCents k.priceInputMode + y.inputCents
        = _ := hfrom.input
    have hreconciles := hfrom.reconciles
    have hdiscount := hfrom.discount_nonneg
    rw [hclosed.base k hl] at hbase
    rw [hclosed.input k hl] at hinput
    show halfUp _ _ - halfUp _ _ ≤ halfUp _ _ - halfUp _ _
    have hbase' : halfUp (k.baseCents * ((creditedOf k.id allocations).quantityHundredths
        + request.quantityHundredths)) k.quantityHundredths = _ := hbase.symm
    have hinput' : halfUp (k.inputCents * ((creditedOf k.id allocations).quantityHundredths
        + request.quantityHundredths)) k.quantityHundredths = _ := hinput.symm
    rw [hbase', hinput']
    omega
  · intro hgrows
    refine CreditInvoice.calculateCreditInvoice_total
      (fun l hl => SentInvoice.validSourceLine hl) invoice.uniqueIds SentInvoice.oneModePerRate
      hstanding.validLine hstanding.resolves hstanding.range hstanding.taken hstanding.gross_le
      hrequest.nonempty hrequest.unique ?_ ?_ ?_
    · intro request hmem
      obtain ⟨l, hl, hid, hpositive, hwithin, hinput⟩ := hrequest.each request hmem
      have hquantity := (hstanding.taken l hl).quantity.1
      exact ⟨l, hl, creditable_of_input hstanding hl (by omega) hwithin hinput, hid,
        hclosed.extends hl hpositive hquantity hwithin (hgrows request hmem l hl hid)⟩
    · intro lines hlines x hx
      have hfits := fits_of_requests hstanding (List.forall₂_map_right_iff.mpr
        (hlines.imp fun _ _ hy => creditsRequest_toDraftLine hy)) hrequest.unique
      rw [List.map_map] at hfits
      refine hfits.room hstanding hclosed ?_ (List.mem_map_of_mem hx)
      intro z hz
      obtain ⟨y, hy, rfl⟩ := List.mem_map.mp hz
      obtain ⟨_, _, _, _, _, _, hfrom⟩ := exists_left_of_forall₂ hlines hy
      exact hfrom.input_nonneg
    · intro lines ys hlines hsettled
      have hfits := fits_of_requests hstanding (List.forall₂_map_right_iff.mpr
        (hlines.imp fun _ _ hy => creditsRequest_toDraftLine hy)) hrequest.unique
      rw [List.map_map] at hfits
      have hle := hfits.sum_gross_le hstanding hsettled
      rwa [List.map_map] at hle
  · intro hcoarse request hmem l hl hid
    obtain ⟨k, hk, hkid, hpositive, hwithin, _⟩ := hrequest.each request hmem
    obtain rfl : k = l := List.inj_on_of_nodup_map invoice.uniqueIds hk hl (hkid.trans hid.symm)
    have hquantity := (hstanding.taken k hl).quantity.1
    exact discountOf_le hl (by omega) (hcoarse request hmem k hl hid) hpositive

end Allocations

/-! ## Ten per cent off, credited in two parts -/

/-- Ten units at fifty cents, ten per cent off. -/
def discountedInvoice : SentInvoice where
  lines := [⟨⟨1000, .net, 2400, 500, 50, 450, 108, 558⟩, "line-1", 1⟩]
  totals := ⟨450, 108, 558, [⟨2400, 450, 108, 558⟩]⟩
  priced := by
    intro l hl
    rw [List.mem_singleton.mp hl]
    exact ⟨⟨1000, 50, 2400, .net, .percentage 1000⟩, _, rfl, rfl⟩
  settled := by decide
  uniqueIds := by decide
  identifiers := by decide
  positions := by decide

/-- Three hundredths of a unit: a base of 1.5 cents is rounded up, an input of 1.35
    cents down. -/
def hundredthsDraft : CalculatedNormalCreditDraft :=
  ⟨[⟨⟨3, .net, 2400, 2, 1, 1, 0, 1⟩, "line-1", some "line-1", none⟩],
    ⟨1, 0, 1, [⟨2400, 1, 0, 1⟩]⟩⟩

/-- One credit of a hundredth. -/
def hundredthsCredited : List Credit := [approvedCredit hundredthsDraft]

theorem hundredthsCredited_uncancelled :
    TransitionSystem.Reachable (uncancelledSystem (fun _ _ => 0) discountedInvoice)
      hundredthsCredited := by
  have hempty : TransitionSystem.Reachable
      (uncancelledSystem (fun _ _ => 0) discountedInvoice) [] := .initial rfl
  have hdraft : calculateCreditInvoiceDraft (fun _ _ => 0) discountedInvoice.lines []
      [⟨"line-1", 3⟩] [] = .ok hundredthsDraft := by decide +kernel
  exact .step hempty (.approve (List.Perm.refl _) ⟨_, _, hdraft, rfl⟩)

private theorem legal_hundredths {quantity : Int} (hpositive : 0 < quantity)
    (hwithin : 3 + quantity ≤ 1000) (hinput : 1 < halfUp (450 * (3 + quantity)) 1000) :
    LegalRequest discountedInvoice (allocationsOf hundredthsCredited) [⟨"line-1", quantity⟩]
    where
  nonempty := List.cons_ne_nil _ _
  unique := List.nodup_singleton _
  each := by
    intro request hrequest
    rw [List.mem_singleton.mp hrequest]
    exact ⟨_, List.mem_singleton.mpr rfl, rfl, hpositive, hwithin, hinput⟩

/-- Two more hundredths are accepted. -/
theorem partial_credit_accepted :
    ∃ c, CreditInvoice.calculateCreditInvoice (fun _ _ => 0) discountedInvoice.lines
      ((allocationsOf hundredthsCredited).filterMap toPreviousLineAllocation)
      [⟨"line-1", 2⟩] = .ok c := by
  refine (partial_credit_accepted_iff hundredthsCredited_uncancelled (List.Perm.refl _)
    (legal_hundredths (by decide) (by decide) (by decide))).1.mpr ?_
  intro request hrequest l hl _
  rw [List.mem_singleton.mp hrequest, List.mem_singleton.mp hl]
  decide

/-- One more hundredth is not: the base stays at 2 cents while the input goes from 1 to
    2 cents. -/
theorem partial_credit_refused :
    CreditInvoice.calculateCreditInvoice (fun _ _ => 0) discountedInvoice.lines
        ((allocationsOf hundredthsCredited).filterMap toPreviousLineAllocation)
        [⟨"line-1", 1⟩]
      = .error (.credit "Calculated credit line amounts do not reconcile.")
    ∧ ¬ ∀ localeCompare invoice credits requested,
        TransitionSystem.Reachable (uncancelledSystem localeCompare invoice) credits →
        LegalRequest invoice (allocationsOf credits) requested →
        ∃ c, CreditInvoice.calculateCreditInvoice localeCompare invoice.lines
          ((allocationsOf credits).filterMap toPreviousLineAllocation) requested = .ok c := by
  have herror : CreditInvoice.calculateCreditInvoice (fun _ _ => 0) discountedInvoice.lines
      ((allocationsOf hundredthsCredited).filterMap toPreviousLineAllocation)
      [⟨"line-1", 1⟩]
      = .error (.credit "Calculated credit line amounts do not reconcile.") := by
    decide +kernel
  have hlegal : LegalRequest discountedInvoice (allocationsOf hundredthsCredited)
      [⟨"line-1", 1⟩] := legal_hundredths (by decide) (by decide) (by decide)
  refine ⟨herror, fun hall => ?_⟩
  obtain ⟨c, hc⟩ := hall _ _ _ _ hundredthsCredited_uncancelled hlegal
  exact nomatch herror.symm.trans hc

end CreditHistory
