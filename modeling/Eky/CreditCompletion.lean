import Eky.PathIndependence
import Eky.RestOfInvoice

/-! # Completing a credit — when everything that is left can be credited

    The request for the rest of an invoice takes every creditable line to its
    whole quantity.  The line calculation accepts it in every reachable state,
    with the zero-value lines it may hold: it hands a tax of zero out over them.
    The DRAFT settles the tax again and refuses a rate whose current lines are
    worth nothing, so the request is accepted exactly when every rate with an
    open line has input left.

    - `remaining_request_accepted_iff`: that condition, and the exact totals;
    - `rest_of_cent_refused`: an invoice whose rest is refused. -/

namespace CreditHistory

open Fallible Apportionment OrderedMap InvoiceMoney VatGroups InvoiceCalculation
open VatDistribution CreditDraft CreditDraftModel CreditLedger
open CreditInvoice (CreditSourceLine RequestedCreditLine PreviousAllocationTotal Creditable
  CreditedFrom TakenFrom ValidSourceLine)

variable {remaining : InvoiceTotals} {rate : Int}

section Standing

variable {localeCompare : String → String → Int} {invoice : SentInvoice}
variable {credits : List Credit} {allocations : List PreviousCreditAllocation}

/-! ## Settling the rest -/

/-- Current lines that bring no rate beyond its whole input. -/
structure Fits (invoice : SentInvoice) (allocations : List PreviousCreditAllocation)
    (lines : List LineAmounts) : Prop where
  known : ∀ x ∈ lines, x.vatRateBasisPoints ∈ ratesOf invoice.amounts
    ∧ modeOn x.vatRateBasisPoints invoice.amounts = x.priceInputMode
  input_le : ∀ rate, sumOn (·.inputCents) rate (amountsOf allocations)
    + sumOn (·.inputCents) rate lines ≤ sumOn (·.inputCents) rate invoice.amounts

/-- The rates of the settled lines are those of the current lines. -/
theorem mem_ratesOf_settled {lines ys : List LineAmounts}
    (hsettled : SettledLines (amountsOf allocations) lines ys) :
    rate ∈ ratesOf ys ↔ ∃ x ∈ lines, x.vatRateBasisPoints = rate := by
  rw [mem_ratesOf]
  constructor
  · rintro ⟨y, hy, hr⟩
    obtain ⟨x, hx, hxy⟩ := exists_left_of_forall₂ hsettled.each hy
    exact ⟨x, hx, hxy.rate.symm.trans hr⟩
  · rintro ⟨x, hx, hr⟩
    obtain ⟨y, hy, hxy⟩ := exists_right_of_forall₂ hsettled.each hx
    exact ⟨y, hy, hxy.rate.trans hr⟩

namespace Fits

variable {lines ys : List LineAmounts}

/-- With the settled lines no rate goes beyond its row. -/
theorem within (hfits : Fits invoice allocations lines) (h : Standing invoice allocations)
    (hsettled : SettledLines (amountsOf allocations) lines ys)
    (hrate : rate ∈ ratesOf invoice.amounts) : let used := amountsOf allocations ++ ys
    sumOn (·.netCents) rate used ≤ (rowOf invoice.amounts rate).netCents
      ∧ sumOn (·.vatCents) rate used ≤ (rowOf invoice.amounts rate).vatCents
      ∧ sumOn (·.grossCents) rate used ≤ (rowOf invoice.amounts rate).grossCents := by
  intro used
  rw [sumOn_append, sumOn_append, sumOn_append]
  by_cases htouched : ∃ x ∈ lines, x.vatRateBasisPoints = rate
  · -- the cumulative input is split as the invoice splits its own
    obtain ⟨x, hx, rfl⟩ := htouched
    obtain ⟨_, hmode⟩ := hfits.known x hx
    have hnet := hsettled.net x hx
    have hgross := hsettled.gross x hx
    rw [← hmode] at hnet hgross
    obtain ⟨z, hz, hzr⟩ := mem_ratesOf.mp hrate
    have hrate0 : 0 ≤ x.vatRateBasisPoints :=
      hzr ▸ (SentInvoice.creditable.amounts z hz).1.1
    have hle := hfits.input_le x.vatRateBasisPoints
    have hnetLe := @netOf_mono (modeOn x.vatRateBasisPoints invoice.amounts) _ _ _ hrate0 hle
    have hgrossLe :=
      @grossOf_mono (modeOn x.vatRateBasisPoints invoice.amounts) _ _ _ hrate0 hle
    have hvatLe := @vatOf_mono (modeOn x.vatRateBasisPoints invoice.amounts) _ _ _ hrate0 hle
    have hused : sumOn (·.grossCents) x.vatRateBasisPoints (amountsOf allocations) = _ :=
      sumOn_gross h.reconciled
    have hys := hsettled.gross_total x.vatRateBasisPoints
    rw [vatOf] at hvatLe
    rw [rowOf]
    show _ ≤ netOf _ _ _ ∧ _ ≤ vatOf _ _ _ ∧ _ ≤ grossOf _ _ _
    exact ⟨by omega, by omega, by omega⟩
  · have hnone : ∀ y ∈ ys, y.vatRateBasisPoints ≠ rate := fun y hy hr =>
      htouched ((mem_ratesOf_settled hsettled).mp (mem_ratesOf.mpr ⟨y, hy, hr⟩))
    rw [sumOn_of_none hnone, sumOn_of_none hnone, sumOn_of_none hnone, Int.add_zero,
      Int.add_zero, Int.add_zero]
    exact h.within rate hrate

/-- All settled lines together stay in range. -/
theorem sum_gross_le (hfits : Fits invoice allocations lines)
    (h : Standing invoice allocations)
    (hsettled : SettledLines (amountsOf allocations) lines ys) :
    (ys.map (·.grossCents)).sum ≤ maximumSafeInteger := by
  have hcover : ∀ y ∈ ys, y.vatRateBasisPoints ∈ ratesOf invoice.amounts := by
    intro y hy
    obtain ⟨x, hx, hr⟩ := (mem_ratesOf_settled hsettled).mp (mem_ratesOf.mpr ⟨y, hy, rfl⟩)
    exact hr ▸ (hfits.known x hx).1
  have hsum : ((ratesOf invoice.amounts).map (fun rate => sumOn (·.grossCents) rate ys)).sum
      = (ys.map (·.grossCents)).sum := sum_withKey (nodup_ratesOf _) hcover _
  have hle : ((ratesOf invoice.amounts).map (fun rate => sumOn (·.grossCents) rate ys)).sum
      ≤ ((ratesOf invoice.amounts).map
          (fun rate => (rowOf invoice.amounts rate).grossCents)).sum := by
    refine List.sum_le_sum (fun rate hrate => ?_)
    have hgross := (hfits.within h hsettled hrate).2.2
    rw [sumOn_append] at hgross
    have hused : 0 ≤ sumOn (·.grossCents) rate (amountsOf allocations) :=
      sumOn_nonneg (fun y hy => (h.reconciled y hy).gross_nonneg)
    omega
  have htotal : ((ratesOf invoice.amounts).map
      (fun rate => (rowOf invoice.amounts rate).grossCents)).sum
      = invoice.totals.grossTotalCents := by
    rw [SentInvoice.totals_eq]
    show _ = (((ratesOf invoice.amounts).map (rowOf invoice.amounts)).map _).sum
    rw [List.map_map]
    rfl
  have hmax := (calculateInvoiceTotals_spec invoice.settled).2.2.2.2.2
  omega

end Fits

/-- Current lines that bring every rate to its whole input. -/
structure IsRest (invoice : SentInvoice) (allocations : List PreviousCreditAllocation)
    (lines : List LineAmounts) : Prop where
  known : ∀ x ∈ lines, x.vatRateBasisPoints ∈ ratesOf invoice.amounts
    ∧ modeOn x.vatRateBasisPoints invoice.amounts = x.priceInputMode
  full : ∀ rate, sumOn (·.inputCents) rate (amountsOf allocations)
    + sumOn (·.inputCents) rate lines = sumOn (·.inputCents) rate invoice.amounts

/-- Requested lines bring no rate and no mode of their own. -/
theorem known_of_requests {requested : List RequestedCreditLine}
    {source : List CalculatedNormalCreditDraftLine}
    (hrequests : List.Forall₂ (CreditsRequest invoice.lines allocations) requested source) :
    ∀ x ∈ source.map (·.toLineAmounts), x.vatRateBasisPoints ∈ ratesOf invoice.amounts
      ∧ modeOn x.vatRateBasisPoints invoice.amounts = x.priceInputMode := by
  intro x hx
  obtain ⟨y, hy, rfl⟩ := List.mem_map.mp hx
  obtain ⟨request, _, l, hl, _, _, _, hfrom⟩ := exists_left_of_forall₂ hrequests hy
  have hrate : y.vatRateBasisPoints = l.vatRateBasisPoints := hfrom.rate
  have hmode : y.priceInputMode = l.priceInputMode := hfrom.mode
  rw [hrate, hmode]
  exact ⟨SentInvoice.mem_rates hl,
    modeOn_of_mem SentInvoice.oneModePerRate (SentInvoice.mem_amounts hl)⟩

theorem isRest_of_requests (h : Standing invoice allocations)
    {source : List CalculatedNormalCreditDraftLine}
    (hrequests : List.Forall₂ (CreditsRequest invoice.lines allocations)
      (invoice.lines.filterMap (requestRest allocations)) source) :
    IsRest invoice allocations (source.map (·.toLineAmounts)) where
  known := known_of_requests hrequests
  full rate := rest_input h.taken h.source hrequests rate

namespace IsRest

variable {lines ys : List LineAmounts}

theorem fits (hrest : IsRest invoice allocations lines) : Fits invoice allocations lines where
  known := hrest.known
  input_le rate := Int.le_of_eq (hrest.full rate)

theorem room (hrest : IsRest invoice allocations lines) (h : Standing invoice allocations)
    {x : LineAmounts} (hx : x ∈ lines) : LeavesRoom (amountsOf allocations) x.priceInputMode
      x.vatRateBasisPoints (sumOn (·.inputCents) x.vatRateBasisPoints lines) := by
  obtain ⟨hrate, hmode⟩ := hrest.known x hx
  rw [← hmode]
  exact h.room hrate (hrest.full _)

/-- Settled, the rest of a rate is what remains of its row. -/
theorem sumsOf_eq (hrest : IsRest invoice allocations lines) (h : Standing invoice allocations)
    (hsettled : SettledLines (amountsOf allocations) lines ys) {x : LineAmounts}
    (hx : x ∈ lines) : sumsOf ys x.vatRateBasisPoints
      = remainingOf invoice.amounts (amountsOf allocations) x.vatRateBasisPoints := by
  obtain ⟨_, hmode⟩ := hrest.known x hx
  have hnet := hsettled.net x hx
  have hgross := hsettled.gross x hx
  rw [hrest.full, ← hmode] at hnet hgross
  have hnetRow : sumOn (·.netCents) x.vatRateBasisPoints (amountsOf allocations)
      + sumOn (·.netCents) x.vatRateBasisPoints ys
      = (rowOf invoice.amounts x.vatRateBasisPoints).netCents := hnet
  have hgrossRow : sumOn (·.grossCents) x.vatRateBasisPoints (amountsOf allocations)
      + sumOn (·.grossCents) x.vatRateBasisPoints ys
      = (rowOf invoice.amounts x.vatRateBasisPoints).grossCents := hgross
  have hvatRow : (rowOf invoice.amounts x.vatRateBasisPoints).vatCents
      = (rowOf invoice.amounts x.vatRateBasisPoints).grossCents
        - (rowOf invoice.amounts x.vatRateBasisPoints).netCents := rfl
  have hused : sumOn (·.grossCents) x.vatRateBasisPoints (amountsOf allocations) = _ :=
    sumOn_gross h.reconciled
  have hys := hsettled.gross_total x.vatRateBasisPoints
  rw [sumsOf, remainingOf, InvoiceVatBreakdown.mk.injEq]
  exact ⟨rfl, by omega, by omega, by omega⟩

/-- A rate without current lines has nothing left. -/
theorem nothing_left (hrest : IsRest invoice allocations lines) (h : Standing invoice allocations)
    (hrate : rate ∈ ratesOf invoice.amounts) (hnone : ∀ x ∈ lines, x.vatRateBasisPoints ≠ rate) :
    remainingOf invoice.amounts (amountsOf allocations) rate = ⟨rate, 0, 0, 0⟩ := by
  have hfull := hrest.full rate
  rw [sumOn_of_none hnone, Int.add_zero] at hfull
  have hrow := h.exhausted rate hrate hfull
  rw [remainingOf, ← hrow]
  show InvoiceVatBreakdown.mk rate (_ - _) (_ - _) (_ - _) = _
  rw [sumsOf, Int.sub_self, Int.sub_self, Int.sub_self]

end IsRest

/-- **THE LINES OF THE REST** are always calculated, even where a rate has nothing
    left to tax. -/
theorem calculateCreditInvoice_of_rest (h : Standing invoice allocations)
    (hne : invoice.lines.filterMap (requestRest allocations) ≠ []) :
    ∃ c, CreditInvoice.calculateCreditInvoice localeCompare invoice.lines
      (allocations.filterMap toPreviousLineAllocation)
      (invoice.lines.filterMap (requestRest allocations)) = .ok c := by
  refine CreditInvoice.calculateCreditInvoice_total
    (fun l hl => SentInvoice.validSourceLine hl) invoice.uniqueIds SentInvoice.oneModePerRate
    h.validLine h.resolves h.range h.taken h.gross_le hne rest_unique ?_ ?_ ?_
  · intro request hrequest
    obtain ⟨l, hl, hcreditable, hid, hpositive, hfull⟩ := mem_rest hrequest
    exact ⟨l, hl, hcreditable, hid,
      (h.taken l hl).extends (SentInvoice.validSourceLine hl) hpositive hfull⟩
  · intro lines hlines x hx
    have hrest := isRest_of_requests h (List.forall₂_map_right_iff.mpr
      (hlines.imp fun _ _ hy => creditsRequest_toDraftLine hy))
    rw [List.map_map] at hrest
    exact hrest.room h (List.mem_map_of_mem hx)
  · intro lines ys hlines hsettled
    have hrest := isRest_of_requests h (List.forall₂_map_right_iff.mpr
      (hlines.imp fun _ _ hy => creditsRequest_toDraftLine hy))
    rw [List.map_map] at hrest
    have hle := hrest.fits.sum_gross_le h hsettled
    rwa [List.map_map] at hle

/-- The settled lines of the rest are valid lines of a credit. -/
private theorem valid_settled (h : Standing invoice allocations)
    {source ys : List CalculatedNormalCreditDraftLine}
    (hrequests : List.Forall₂ (CreditsRequest invoice.lines allocations)
      (invoice.lines.filterMap (requestRest allocations)) source)
    (hall : List.Forall₂ CreditDraft.ResettlesLine source ys)
    (hnonneg : ∀ y ∈ ys, 0 ≤ y.netCents ∧ 0 ≤ y.vatCents)
    (hmax : (ys.map (·.grossCents)).sum ≤ maximumSafeInteger) :
    ∀ y ∈ ys, validateCalculatedInvoiceLine y.toLineAmounts = .ok () := by
  have hrec : ∀ y ∈ ys, Reconciled y.toLineAmounts := by
    intro y hy
    obtain ⟨x, _, hxy⟩ := exists_left_of_forall₂ hall hy
    exact ⟨(hnonneg y hy).1, (hnonneg y hy).2, hxy.amounts.reconciles⟩
  intro y hy
  obtain ⟨x, hx, hxy⟩ := exists_left_of_forall₂ hall hy
  obtain ⟨request, _, l, hl, _, _, _, hfrom⟩ := exists_left_of_forall₂ hrequests hx
  obtain ⟨hnet, hvat, hsum⟩ := hrec y hy
  have hgross : y.grossCents ≤ (ys.map (·.grossCents)).sum := by
    refine List.single_le_sum ?_ _ (List.mem_map_of_mem hy)
    intro n hn
    obtain ⟨z, hz, rfl⟩ := List.mem_map.mp hn
    exact (hrec z hz).gross_nonneg
  have hpriced := SentInvoice.priced_of_mem hl
  -- base and discount are parts of those of the source line
  have hbase : (creditedOf l.id allocations).baseCents + x.baseCents ≤ l.baseCents := by
    have heq : (creditedOf l.id allocations).baseCents + x.baseCents = _ := hfrom.base
    rw [heq]
    have hq := (h.taken l hl).quantity.1
    have hpositive := hfrom.positive
    have hwithin := hfrom.within
    have hcapacity : 0 < l.quantityHundredths := by
      have h₁ := hpositive.1.1
      have h₂ := hpositive.2
      omega
    exact halfUp_part_le hpriced.base.1 hwithin hcapacity
  have htaken := (h.taken l hl).base.1
  have hbaseMax := hpriced.base.2
  have hxbase : 0 ≤ x.baseCents := hfrom.base_nonneg
  have hxdiscount : 0 ≤ x.discountCents := hfrom.discount_nonneg
  have hxinput : 0 ≤ x.inputCents := hfrom.input_nonneg
  have hxrec : x.baseCents - x.discountCents = x.inputCents := hfrom.reconciles
  have hyrate : y.vatRateBasisPoints = l.vatRateBasisPoints :=
    hxy.amounts.rate.trans hfrom.rate
  have hybase := hxy.amounts.base
  have hydiscount := hxy.amounts.discount
  refine validateCalculatedInvoiceLine_eq_ok.mpr ⟨?_, ⟨by omega, by omega⟩,
    ⟨by omega, by omega⟩, ⟨hnet, by omega⟩, ⟨hvat, by omega⟩, ⟨by omega, by omega⟩, hsum⟩
  rw [hyrate]
  exact hpriced.rate

/-- Every rate with an open line has input left. -/
def OpenRatesHaveInput (invoice : SentInvoice) (allocations : List PreviousCreditAllocation) :
    Prop :=
  ∀ l ∈ invoice.lines, Creditable l →
    (creditedOf l.id allocations).quantityHundredths < l.quantityHundredths →
      sumOn (·.inputCents) l.vatRateBasisPoints (amountsOf allocations)
        < sumOn (·.inputCents) l.vatRateBasisPoints invoice.amounts

instance (invoice : SentInvoice) (allocations : List PreviousCreditAllocation) :
    Decidable (OpenRatesHaveInput invoice allocations) :=
  inferInstanceAs (Decidable (∀ _ ∈ _, _ → _ → _))

/-- **ACCEPTED**: when every open rate has input left, the rest is accepted. -/
private theorem rest_accepted (h : Standing invoice allocations)
    (hremaining : calculateRemainingCreditTotals invoice.lines allocations = .ok remaining)
    (hne : invoice.lines.filterMap (requestRest allocations) ≠ [])
    (hopen : OpenRatesHaveInput invoice allocations) :
    ∃ d, calculateCreditInvoiceDraft localeCompare invoice.lines allocations
      (invoice.lines.filterMap (requestRest allocations)) [] = .ok d := by
  simp only [calculateRemainingCreditTotals, bind_eq_ok] at hremaining
  obtain ⟨capacities, hcapacities, _, hvalidated, _⟩ := hremaining
  obtain ⟨_, hcap, _⟩ := createVatCapacities_spec hcapacities
  obtain ⟨c, hc⟩ := @calculateCreditInvoice_of_rest localeCompare invoice allocations h hne
  obtain ⟨_, _, _, hlines, hpayable⟩ := CreditInvoice.calculateCreditInvoice_spec hc
  set source := c.lines.map toDraftLine with hsource
  have hrequests : List.Forall₂ (CreditsRequest invoice.lines allocations)
      (invoice.lines.filterMap (requestRest allocations)) source :=
    List.forall₂_map_right_iff.mpr (hlines.imp fun _ _ hy => creditsRequest_toDraftLine hy)
  have hrest := isRest_of_requests h hrequests
  have hsourceRec : ∀ x ∈ source, Reconciled x.toLineAmounts := by
    intro x hx
    obtain ⟨y, hy, rfl⟩ := List.mem_map.mp hx
    exact (hpayable y hy).2
  -- the tax can be settled: every current rate has room for a positive input
  have hready : ∀ x ∈ source, Settleable (amountsOf allocations) source x := by
    intro x hx
    refine ⟨?_, hrest.room h (List.mem_map_of_mem hx)⟩
    obtain ⟨request, hrequest, l, hl, _, hid, _, hfrom⟩ := exists_left_of_forall₂ hrequests hx
    obtain ⟨k, hk, hsome⟩ := List.mem_filterMap.mp hrequest
    obtain ⟨hcreditable, hlt, rfl⟩ := requestRest_eq_some.mp hsome
    obtain rfl : k = l := List.inj_on_of_nodup_map invoice.uniqueIds hk hl hid.symm
    have hleft := hopen k hk hcreditable hlt
    have hrate : x.vatRateBasisPoints = k.vatRateBasisPoints := hfrom.rate
    have hfull := hrest.full k.vatRateBasisPoints
    rw [hrate]
    omega
  have hmodes : OneModePerRate (amountsOf allocations ++ source.map (·.toLineAmounts)) := by
    have hknown : ∀ x ∈ amountsOf allocations ++ source.map (·.toLineAmounts),
        modeOn x.vatRateBasisPoints invoice.amounts = x.priceInputMode := by
      intro x hx
      rcases List.mem_append.mp hx with hx | hx
      · obtain ⟨a, ha, rfl⟩ := List.mem_map.mp hx
        exact (mode_of_valid (h.valid a ha)).2
      · exact (hrest.known x hx).2
    intro x hx y hy hr
    rw [← hknown x hx, ← hknown y hy, hr]
  obtain ⟨ys, hys, hnonneg⟩ := reconcileCurrentVat_total h.reconciled h.gross_le hsourceRec
    hmodes hready
  obtain ⟨hall, hsettled, _⟩ := reconcileCurrentVat_spec h.reconciled hsourceRec hys
  have hsumMax := hrest.fits.sum_gross_le h hsettled
  rw [List.map_map] at hsumMax
  have hvalid := valid_settled h hrequests hall hnonneg hsumMax
  have hysRec : ∀ y ∈ ys.map (·.toLineAmounts), Reconciled y := by
    intro a ha
    obtain ⟨y, hy, rfl⟩ := List.mem_map.mp ha
    exact reconciled_of_calculated (hvalid y hy)
  have hysKnown : ∀ y ∈ ys.map (·.toLineAmounts), y.vatRateBasisPoints ∈ ratesOf invoice.amounts
      ∧ modeOn y.vatRateBasisPoints invoice.amounts = y.priceInputMode := by
    intro y hy
    obtain ⟨x, hx, hxy⟩ := exists_left_of_forall₂ hsettled.each hy
    rw [hxy.rate, hxy.mode]
    exact hrest.known x hx
  have hwithin : WithinCapacities capacities
      (amountsOf allocations ++ ys.map (·.toLineAmounts)) := by
    intro x hx
    have hknown : x.vatRateBasisPoints ∈ ratesOf invoice.amounts
        ∧ modeOn x.vatRateBasisPoints invoice.amounts = x.priceInputMode := by
      rcases List.mem_append.mp hx with hx | hx
      · obtain ⟨a, ha, rfl⟩ := List.mem_map.mp hx
        exact mode_of_valid (h.valid a ha)
      · exact hysKnown x hx
    exact ⟨capacityOf invoice.amounts x.vatRateBasisPoints,
      (hcap.2 _ _).mpr ⟨mem_ratesOf.mp hknown.1, rfl⟩, hknown.2,
      hrest.fits.within h hsettled hknown.1⟩
  have hrequired := requireWithinVatCapacity_total (fun x hx => by
      rcases List.mem_append.mp hx with hx | hx
      · exact h.reconciled x hx
      · exact hysRec x hx) hwithin (fun rate c hc => by
      obtain ⟨hx, rfl⟩ := (hcap.2 rate c).mp hc
      exact SentInvoice.rowOf_le (mem_ratesOf.mpr hx))
  have htotals := @sumCreditTotals_of_sum_le (ys.map (·.toLineAmounts)) (by
      intro a ha
      obtain ⟨y, hy, rfl⟩ := List.mem_map.mp ha
      exact hvalid y hy)
    (fun x hx y hy hr => by rw [← (hysKnown x hx).2, ← (hysKnown y hy).2, hr])
    (by rw [List.map_map]; exact hsumMax)
  have hcalculated : calculateSourceLines localeCompare invoice.lines
      (allocations.filterMap toPreviousLineAllocation)
      (invoice.lines.filterMap (requestRest allocations)) = .ok c.lines := by
    rw [calculateSourceLines, if_neg (fun h => hne (List.eq_nil_of_length_eq_zero h)),
      bind_eq_ok]
    exact ⟨c, hc, rfl⟩
  refine ⟨⟨ys, totalsOf ((ratesOf (ys.map (·.toLineAmounts))).map
    (sumsOf (ys.map (·.toLineAmounts))))⟩, ?_⟩
  simp only [calculateCreditInvoiceDraft, bind_eq_ok, throwIf_eq_ok, exists_const]
  refine ⟨?_, capacities, hcapacities, _, hvalidated, c.lines, hcalculated, [], rfl, ys, ?_, (),
    hrequired, _, htotals, rfl⟩
  · intro hlength
    exact hne (List.eq_nil_of_length_eq_zero hlength)
  · rw [List.append_nil]
    exact hys

/-! ## The totals of the rest -/

/-- The rows that show an amount: a credit has no row for a rate that it does not
    touch. -/
def withoutEmptyRows (totals : InvoiceTotals) : InvoiceTotals :=
  { totals with vatBreakdown := totals.vatBreakdown.filter (·.grossCents ≠ 0) }

/-- Rows that show nothing add nothing. -/
private theorem sum_filter_gross {rows : List InvoiceVatBreakdown}
    (f : InvoiceVatBreakdown → Int)
    (hempty : ∀ row ∈ rows, row.grossCents = 0 → f row = 0) :
    ((rows.filter (·.grossCents ≠ 0)).map f).sum = (rows.map f).sum := by
  induction rows with
  | nil => rfl
  | cons row rest ih =>
      have hrest := ih (fun r hr => hempty r (List.mem_cons_of_mem row hr))
      by_cases hrow : row.grossCents = 0
      · rw [List.filter_cons_of_neg (by simp [hrow]), hrest, List.map_cons, List.sum_cons,
          hempty row List.mem_cons_self hrow, zero_add]
      · rw [List.filter_cons_of_pos (by simp [hrow]), List.map_cons, List.sum_cons, hrest,
          List.map_cons, List.sum_cons]

theorem totalsOf_filter {rows : List InvoiceVatBreakdown}
    (hempty : ∀ row ∈ rows, row.grossCents = 0 → row.netCents = 0 ∧ row.vatCents = 0) :
    totalsOf (rows.filter (·.grossCents ≠ 0)) = withoutEmptyRows (totalsOf rows) := by
  rw [totalsOf, withoutEmptyRows, totalsOf,
    sum_filter_gross (·.netCents) (fun row hrow h => (hempty row hrow h).1),
    sum_filter_gross (·.vatCents) (fun row hrow h => (hempty row hrow h).2),
    sum_filter_gross (·.grossCents) (fun _ _ h => h)]

/-- The rates of some of the lines, in the order of all rates. -/
theorem filter_ratesOf {lines used : List LineAmounts}
    (h : ∀ y ∈ used, y.vatRateBasisPoints ∈ ratesOf lines) :
    (ratesOf lines).filter (· ∈ ratesOf used) = ratesOf used := by
  have hsorted : ∀ xs : List LineAmounts, (ratesOf xs).Pairwise (· ≤ ·) :=
    fun xs => List.pairwise_insertionSort (· ≤ ·) _
  refine List.Perm.eq_of_pairwise' ((hsorted lines).sublist List.filter_sublist)
    (hsorted used) ?_
  refine (List.perm_ext_iff_of_nodup ((nodup_ratesOf lines).sublist List.filter_sublist)
    (nodup_ratesOf used)).mpr (fun rate => ?_)
  rw [List.mem_filter, decide_eq_true_eq]
  constructor
  · exact fun hrate => hrate.2
  · intro hrate
    obtain ⟨y, hy, rfl⟩ := mem_ratesOf.mp hrate
    exact ⟨h y hy, hrate⟩

section Totals

variable {d : CalculatedNormalCreditDraft}

/-- The lines of an accepted draft that takes the rest. -/
private theorem isRest_of_accepted (h : Standing invoice allocations)
    (hd : Accepted invoice.lines allocations
      (invoice.lines.filterMap (requestRest allocations)) [] d) :
    IsRest invoice allocations (d.lines.map (·.toLineAmounts)) := by
  obtain ⟨source, manual, hlines, hrequests, hmanual⟩ := hd.lines
  cases hmanual
  rw [hlines, List.append_nil]
  exact isRest_of_requests h hrequests

/-- The lines of an accepted draft are settled. -/
private theorem settled_of_accepted {requested : List RequestedCreditLine}
    {manual : List RequestedManualCreditLine}
    (hd : Accepted invoice.lines allocations requested manual d) :
    SettledLines (amountsOf allocations) (d.lines.map (·.toLineAmounts))
      (d.lines.map (·.toLineAmounts)) where
  each := by
    refine List.forall₂_same.mpr (fun x hx => ?_)
    obtain ⟨y, hy, rfl⟩ := List.mem_map.mp hx
    exact ⟨rfl, rfl, rfl, rfl, rfl, rfl, (hd.valid y hy).reconciled.2.2⟩
  net x hx := by
    obtain ⟨y, hy, rfl⟩ := List.mem_map.mp hx
    have hnet := hd.net y hy
    rwa [amountsOf_append, amountsOf_toAllocation, sumOn_append, sumOn_append] at hnet
  gross x hx := by
    obtain ⟨y, hy, rfl⟩ := List.mem_map.mp hx
    have hgross := hd.gross y hy
    rwa [amountsOf_append, amountsOf_toAllocation, sumOn_append, sumOn_append] at hgross

/-- **THE TOTALS** of the rest are the remaining totals. -/
private theorem rest_totals (h : Standing invoice allocations)
    (hd : Accepted invoice.lines allocations
      (invoice.lines.filterMap (requestRest allocations)) [] d)
    (hremaining : calculateRemainingCreditTotals invoice.lines allocations = .ok remaining) :
    d.totals = withoutEmptyRows remaining := by
  have hrest := isRest_of_accepted h hd
  have hsettled := settled_of_accepted hd
  set ys := d.lines.map (·.toLineAmounts) with hys
  have hrow : ∀ rate ∈ ratesOf ys,
      sumsOf ys rate = remainingOf invoice.amounts (amountsOf allocations) rate := by
    intro rate hrate
    obtain ⟨y, hy, rfl⟩ := mem_ratesOf.mp hrate
    exact hrest.sumsOf_eq h hsettled hy
  have hpositive : ∀ rate ∈ ratesOf ys,
      (remainingOf invoice.amounts (amountsOf allocations) rate).grossCents ≠ 0 := by
    intro rate hrate
    rw [← hrow rate hrate]
    obtain ⟨x, hx, rfl⟩ := mem_ratesOf.mp hrate
    obtain ⟨y, hy, rfl⟩ := List.mem_map.mp hx
    have hinput := hd.positive y hy
    have hle : sumOn (·.inputCents) y.vatRateBasisPoints ys
        ≤ sumOn (·.grossCents) y.vatRateBasisPoints ys := by
      refine sumOn_le (fun z hz => ?_)
      obtain ⟨w, hw, rfl⟩ := List.mem_map.mp hz
      exact (hd.valid w hw).reconciled.input_le_gross
    exact ne_of_gt (lt_of_lt_of_le hinput hle)
  have hnothing : ∀ rate ∈ ratesOf invoice.amounts, rate ∉ ratesOf ys →
      remainingOf invoice.amounts (amountsOf allocations) rate = ⟨rate, 0, 0, 0⟩ :=
    fun rate hrate hnot => hrest.nothing_left h hrate
      (fun x hx hr => hnot (mem_ratesOf.mpr ⟨x, hx, hr⟩))
  rw [hd.totals, calculateRemainingCreditTotals_spec hremaining, ← totalsOf_filter]
  · refine congrArg totalsOf ?_
    show (ratesOf ys).map (sumsOf ys) = ((ratesOf invoice.amounts).map
      (remainingOf invoice.amounts (amountsOf allocations))).filter _
    rw [List.filter_map, List.map_congr_left hrow]
    refine congrArg _ ?_
    rw [← filter_ratesOf (fun y hy => (hrest.known y hy).1)]
    refine List.filter_congr (fun rate hrate => ?_)
    by_cases htouched : rate ∈ ratesOf ys
    · simp [htouched, hpositive rate htouched]
    · simp [htouched, hnothing rate hrate htouched]
  · intro row hr hzero
    obtain ⟨rate, hrate, rfl⟩ := List.mem_map.mp hr
    have hnot : rate ∉ ratesOf ys := fun htouched => hpositive rate htouched hzero
    have hrow : remainingOf invoice.amounts (amountsOf allocations) rate = ⟨rate, 0, 0, 0⟩ :=
      hnothing rate hrate hnot
    exact ⟨congrArg (·.netCents) hrow, congrArg (·.vatCents) hrow⟩

/-- An accepted rest leaves no open rate without input. -/
private theorem open_of_accepted (h : Standing invoice allocations)
    (hd : Accepted invoice.lines allocations
      (invoice.lines.filterMap (requestRest allocations)) [] d) :
    OpenRatesHaveInput invoice allocations := by
  intro l hl hcreditable hlt
  have hfull := (isRest_of_accepted h hd).full l.vatRateBasisPoints
  have hrequest := List.mem_filterMap.mpr ⟨l, hl, requestRest_eq_some.mpr
    ⟨hcreditable, hlt, rfl⟩⟩
  obtain ⟨source, manual, hlines, hrequests, _⟩ := hd.lines
  obtain ⟨y, hy, k, hk, _, hid, _, hfrom⟩ := exists_right_of_forall₂ hrequests hrequest
  obtain rfl : k = l := List.inj_on_of_nodup_map invoice.uniqueIds hk hl hid
  have hmem : y ∈ d.lines := hlines ▸ List.mem_append_left manual hy
  have hpositive := hd.positive y hmem
  have hrate : y.vatRateBasisPoints = k.vatRateBasisPoints := hfrom.rate
  rw [hrate] at hpositive
  omega

/-- While something is left of the totals, some line is open. -/
private theorem rest_ne_nil (h : Standing invoice allocations)
    (hremaining : calculateRemainingCreditTotals invoice.lines allocations = .ok remaining)
    (hpositive : 0 < remaining.grossTotalCents) :
    invoice.lines.filterMap (requestRest allocations) ≠ [] := by
  intro hnil
  have hrequests : List.Forall₂ (CreditsRequest invoice.lines allocations)
      (invoice.lines.filterMap (requestRest allocations)) [] := by
    rw [hnil]
    exact List.Forall₂.nil
  have hrest : IsRest invoice allocations [] := isRest_of_requests h hrequests
  have hrows : (ratesOf invoice.amounts).map
      (remainingOf invoice.amounts (amountsOf allocations))
      = (ratesOf invoice.amounts).map (fun rate => ⟨rate, 0, 0, 0⟩) :=
    List.map_congr_left
      fun rate hrate => hrest.nothing_left h hrate (fun _ hx => nomatch hx)
  have hzero : remaining.grossTotalCents = 0 := by
    rw [calculateRemainingCreditTotals_spec hremaining]
    show (((ratesOf invoice.amounts).map (remainingOf invoice.amounts
      (amountsOf allocations))).map (·.grossCents)).sum = 0
    rw [hrows, List.map_map]
    exact List.sum_eq_zero (fun n hn => by
      obtain ⟨_, _, rfl⟩ := List.mem_map.mp hn
      rfl)
  omega

end Totals

/-- **THE REST**: in every state that credits of source lines and cancellations lead
    to, while something is left of the totals, the request for everything that is
    left is accepted, with exactly the remaining totals, if and only if every rate
    with an open line has input left. -/
theorem remaining_request_accepted_iff
    (h : TransitionSystem.Reachable (sourceCreditSystem localeCompare invoice) credits)
    {view : ApprovedInvoiceView} {stored : List InvoiceCreditAllocation}
    (hview : toNormalCreditSourceLines view = .ok invoice.lines)
    (hstored : toNormalPreviousCreditAllocations stored = .ok allocations)
    (hperm : allocations.Perm (allocationsOf credits)) {remaining : InvoiceTotals}
    (hremaining : calculateRemainingCreditTotals invoice.lines allocations = .ok remaining)
    (hpositive : 0 < remaining.grossTotalCents) :
    (∃ requested d, createRemainingRequestedLines view stored = .ok requested
      ∧ calculateCreditInvoiceDraft localeCompare invoice.lines allocations requested []
        = .ok d
      ∧ d.totals = withoutEmptyRows remaining)
    ↔ OpenRatesHaveInput invoice allocations := by
  have hstanding := standing_of_reachable h hperm
  have hrequest := createRemainingRequestedLines_eq hview hstored hstanding.valid
    hstanding.taken
  constructor
  · rintro ⟨requested, d, hrequested, hd, _⟩
    obtain rfl := Except.ok.inj (hrequest.symm.trans hrequested)
    exact open_of_accepted hstanding (calculateCreditInvoiceDraft_spec hd)
  · intro hopen
    obtain ⟨d, hd⟩ := rest_accepted hstanding hremaining
      (rest_ne_nil hstanding hremaining hpositive) hopen
    exact ⟨_, d, hrequest, hd,
      rest_totals hstanding (calculateCreditInvoiceDraft_spec hd) hremaining⟩

end Standing

/-! ## The rest of two invoices -/

/-- A line as the invoice module stores it. -/
def viewLine (l : CreditSourceLine) : ApprovedInvoiceViewLine where
  id := l.id
  lineOrder := l.lineOrder
  code := ""
  description := "Work"
  quantityHundredths := l.quantityHundredths
  unit := "h"
  unitPriceCents := l.baseCents
  vatRateBasisPoints := some l.vatRateBasisPoints
  discount := .none
  baseCents := l.baseCents
  discountCents := l.discountCents
  netCents := l.netCents
  vatCents := l.vatCents
  grossCents := l.grossCents

/-- An invoice with normal VAT, priced net. -/
def netView (invoice : SentInvoice) : ApprovedInvoiceView :=
  ⟨.net, .normalVat, invoice.lines.map viewLine⟩

/-- An allocation as the database stores it. -/
def storedAllocation (a : PreviousCreditAllocation) : InvoiceCreditAllocation where
  sourceInvoiceLineId := a.sourceInvoiceLineId
  quantityHundredths := a.quantityHundredths
  priceInputMode := a.priceInputMode
  vatRateBasisPoints := some a.vatRateBasisPoints
  baseCents := a.baseCents
  discountCents := a.discountCents
  netCents := a.netCents
  vatCents := a.vatCents
  grossCents := a.grossCents

/-- The stored allocations of a history. -/
def storedAllocations (credits : List Credit) : List InvoiceCreditAllocation :=
  (allocationsOf credits).map storedAllocation

theorem rest_of_halfCredited :
    ∃ requested d, createRemainingRequestedLines (netView smallInvoice)
        (storedAllocations halfCredited) = .ok requested
      ∧ calculateCreditInvoiceDraft (fun _ _ => 0) smallInvoice.lines
        (allocationsOf halfCredited) requested [] = .ok d
      ∧ d.totals = withoutEmptyRows ⟨50, 12, 62, [⟨2400, 50, 12, 62⟩]⟩ := by
  have hview : toNormalCreditSourceLines (netView smallInvoice) = .ok smallInvoice.lines := rfl
  have hstored : toNormalPreviousCreditAllocations (storedAllocations halfCredited)
      = .ok (allocationsOf halfCredited) := rfl
  have hremaining : calculateRemainingCreditTotals smallInvoice.lines
      (allocationsOf halfCredited) = .ok ⟨50, 12, 62, [⟨2400, 50, 12, 62⟩]⟩ := by
    decide +kernel
  exact (remaining_request_accepted_iff (source_of_uncancelled halfCredited_uncancelled) hview
    hstored (List.Perm.refl _) hremaining (by decide)).mpr (by decide)

/-- A line of one cent beside a line at another rate. -/
def centInvoice : SentInvoice where
  lines := [⟨⟨100, .net, 2400, 1, 0, 1, 0, 1⟩, "line-1", 1⟩,
    ⟨⟨100, .net, 1000, 1000, 0, 1000, 100, 1100⟩, "line-2", 2⟩]
  totals := ⟨1001, 100, 1101, [⟨1000, 1000, 100, 1100⟩, ⟨2400, 1, 0, 1⟩]⟩
  priced := by
    intro l hl
    rcases List.mem_cons.mp hl with rfl | hl
    · exact ⟨⟨100, 1, 2400, .net, .none⟩, _, rfl, rfl⟩
    · rw [List.mem_singleton] at hl
      subst hl
      exact ⟨⟨100, 1000, 1000, .net, .none⟩, _, rfl, rfl⟩
  settled := by decide
  uniqueIds := by decide
  identifiers := by decide
  positions := by decide

/-- Half of the line of one cent: rounded up, it is the whole cent. -/
def centDraft : CalculatedNormalCreditDraft :=
  ⟨[⟨⟨50, .net, 2400, 1, 0, 1, 0, 1⟩, "line-1", some "line-1", none⟩],
    ⟨1, 0, 1, [⟨2400, 1, 0, 1⟩]⟩⟩

/-- One credit of a cent. -/
def centCredited : List Credit := [approvedCredit centDraft]

theorem centCredited_reachable :
    TransitionSystem.Reachable (sourceCreditSystem (fun _ _ => 0) centInvoice)
      centCredited := by
  have hempty : TransitionSystem.Reachable (uncancelledSystem (fun _ _ => 0) centInvoice) [] :=
    .initial rfl
  have hdraft : calculateCreditInvoiceDraft (fun _ _ => 0) centInvoice.lines []
      [⟨"line-1", 50⟩] [] = .ok centDraft := by decide +kernel
  exact source_of_uncancelled (.step hempty (.approve (List.Perm.refl _) ⟨_, _, hdraft, rfl⟩))

/-- The other half of that line is worth nothing, and the request for the rest is
    refused although eleven euros are left. -/
theorem rest_of_cent_refused :
    calculateRemainingCreditTotals centInvoice.lines (allocationsOf centCredited)
        = .ok ⟨1000, 100, 1100, [⟨1000, 1000, 100, 1100⟩, ⟨2400, 0, 0, 0⟩]⟩
      ∧ createRemainingRequestedLines (netView centInvoice) (storedAllocations centCredited)
        = .ok [⟨"line-1", 50⟩, ⟨"line-2", 100⟩]
      ∧ calculateCreditInvoiceDraft (fun _ _ => 0) centInvoice.lines
          (allocationsOf centCredited) [⟨"line-1", 50⟩, ⟨"line-2", 100⟩] []
        = .error (.credit "Credit invoice tax cannot be allocated to zero-value lines.")
      ∧ ¬ ∀ (invoice : SentInvoice) (credits : List Credit) (view : ApprovedInvoiceView)
          (stored : List InvoiceCreditAllocation) (remaining : InvoiceTotals),
        TransitionSystem.Reachable (sourceCreditSystem (fun _ _ => 0) invoice) credits →
        toNormalCreditSourceLines view = .ok invoice.lines →
        toNormalPreviousCreditAllocations stored = .ok (allocationsOf credits) →
        calculateRemainingCreditTotals invoice.lines (allocationsOf credits) = .ok remaining →
        0 < remaining.grossTotalCents →
        ∃ requested d, createRemainingRequestedLines view stored = .ok requested
          ∧ calculateCreditInvoiceDraft (fun _ _ => 0) invoice.lines (allocationsOf credits)
            requested [] = .ok d
          ∧ d.totals = withoutEmptyRows remaining := by
  have hremaining : calculateRemainingCreditTotals centInvoice.lines
      (allocationsOf centCredited)
      = .ok ⟨1000, 100, 1100, [⟨1000, 1000, 100, 1100⟩, ⟨2400, 0, 0, 0⟩]⟩ := by
    decide +kernel
  have hrequested : createRemainingRequestedLines (netView centInvoice)
      (storedAllocations centCredited) = .ok [⟨"line-1", 50⟩, ⟨"line-2", 100⟩] := by
    decide +kernel
  have hrefused : calculateCreditInvoiceDraft (fun _ _ => 0) centInvoice.lines
      (allocationsOf centCredited) [⟨"line-1", 50⟩, ⟨"line-2", 100⟩] []
      = .error (.credit "Credit invoice tax cannot be allocated to zero-value lines.") := by
    decide +kernel
  refine ⟨hremaining, hrequested, hrefused, fun hall => ?_⟩
  obtain ⟨requested, d, hrequest, hd, _⟩ := hall centInvoice centCredited (netView centInvoice)
    (storedAllocations centCredited) _ centCredited_reachable rfl rfl hremaining (by decide)
  obtain rfl := Except.ok.inj (hrequested.symm.trans hrequest)
  exact nomatch hrefused.symm.trans hd

end CreditHistory
