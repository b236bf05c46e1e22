import Eky.AcceptedDraft
import Eky.CreditInvoiceOrder

/-! # The lines of a credit draft in any order

    `calculateCreditInvoiceDraft` sums up what was credited, hands the tax of each rate out
    over the current lines and checks every rate against its capacity, all in the order in
    which the lines come.  Only the cents of a single line depend on that order.

    - `WithinCapacities.of_sums`, `settleable_of_sameLines`: what a rate is checked against;
    - `calculateSourceLines_perm`: the lines of the source invoice in another order;
    - `calculateCreditInvoiceDraft_perm`: the whole draft. -/

namespace CreditDraft

open Fallible Apportionment OrderedMap InvoiceMoney VatGroups InvoiceCalculation
open VatDistribution
open CreditInvoice (CreditSourceLine RequestedCreditLine PreviousCreditLineAllocation
  Resolves Payable)

variable {localeCompare : String → String → Int} {sourceLines : List CreditSourceLine}
variable {prev prev' : List PreviousCreditAllocation}
variable {requested requested' : List RequestedCreditLine}
variable {manualRequests manualRequests' : List RequestedManualCreditLine}

variable {d : CalculatedNormalCreditDraft} {previous : List LineAmounts}
  {calculated : List CreditInvoice.CalculatedCreditLine}
  {capacities : OrderedMap Int VatCapacity} {x : LineAmounts}

/-! ## What a rate is checked against -/

/-- Lines with the same sums are within the same capacities. -/
theorem WithinCapacities.of_sums {used used' : List LineAmounts}
    (h : WithinCapacities capacities used) (hsame : SameLines used used')
    (hsums : ∀ r, sumOn (·.netCents) r used' = sumOn (·.netCents) r used
      ∧ sumOn (·.vatCents) r used' = sumOn (·.vatCents) r used
      ∧ sumOn (·.grossCents) r used' = sumOn (·.grossCents) r used) :
    WithinCapacities capacities used' := by
  intro y hy
  obtain ⟨x, hx, hmode, hrate⟩ := hsame.symm.exists_mem hy
  obtain ⟨c, hc, hcmode, hnet, hvat, hgross⟩ := h x hx
  obtain ⟨hnet', hvat', hgross'⟩ := hsums x.vatRateBasisPoints
  refine ⟨c, hrate ▸ hc, hcmode.trans hmode, ?_⟩
  rw [← hrate, hnet', hvat', hgross']
  exact ⟨hnet, hvat, hgross⟩

theorem WithinCapacities.perm {used used' : List LineAmounts} (h : WithinCapacities capacities used)
    (hperm : used.Perm used') : WithinCapacities capacities used' :=
  h.of_sums (sameLines_of_perm hperm) fun _ =>
    ⟨(sumOn_perm hperm).symm, (sumOn_perm hperm).symm, (sumOn_perm hperm).symm⟩

/-- What could be settled can be settled for the same lines. -/
private theorem settleable_of_sameLines {previous' : List LineAmounts}
    {lines lines' : List CalculatedNormalCreditDraftLine} (hprev : previous.Perm previous')
    (hsame : SameLines (lines.map (·.toLineAmounts)) (lines'.map (·.toLineAmounts)))
    (h : ∀ x ∈ lines, Settleable previous lines x) :
    ∀ x ∈ lines', Settleable previous' lines' x := by
  intro y hy
  obtain ⟨_, hmem, hmode, hrate⟩ := hsame.symm.exists_mem (List.mem_map_of_mem hy)
  obtain ⟨x, hx, rfl⟩ := List.mem_map.mp hmem
  obtain ⟨hpositive, hroom⟩ := h x hx
  rw [hsame.sumOn_input, hrate] at hpositive
  rw [hsame.sumOn_input, hrate, hmode, LeavesRoom, sumOn_perm hprev, sumOn_perm hprev,
    sumOn_perm hprev] at hroom
  exact ⟨hpositive, hroom⟩

/-! ## The lines of the source invoice -/

/-- The earlier credits of source lines are among the earlier credits. -/
private theorem resolves_sublist (hids : (sourceLines.map (·.id)).Nodup)
    {xs : List LineAmounts}
    (hknown : ∀ a ∈ prev, ∀ id, a.sourceInvoiceLineId = some id → ∃ l ∈ sourceLines,
      l.id = id ∧ l.priceInputMode = a.priceInputMode
        ∧ l.vatRateBasisPoints = a.vatRateBasisPoints)
    (h : List.Forall₂ (Resolves sourceLines) (prev.filterMap toPreviousLineAllocation) xs) :
    xs.Sublist (prev.map (·.toLineAmounts)) := by
  induction prev generalizing xs with
  | nil =>
      cases h with
      | nil => exact List.Sublist.refl _
  | cons a rest ih =>
      have hrest : ∀ b ∈ rest, ∀ id, b.sourceInvoiceLineId = some id → ∃ l ∈ sourceLines,
          l.id = id ∧ l.priceInputMode = b.priceInputMode
            ∧ l.vatRateBasisPoints = b.vatRateBasisPoints :=
        fun b hb => hknown b (List.mem_cons_of_mem a hb)
      cases hsource : a.sourceInvoiceLineId with
      | none =>
          have hnone : toPreviousLineAllocation a = none := by
            rw [toPreviousLineAllocation, hsource]
            rfl
          rw [List.filterMap_cons_none hnone] at h
          exact (ih hrest h).cons _
      | some id =>
          have hsome : toPreviousLineAllocation a
              = some ⟨lineTotal a.toLineAmounts, id⟩ := by
            rw [toPreviousLineAllocation, hsource]
            rfl
          rw [List.filterMap_cons_some hsome] at h
          cases h with
          | @cons _ x _ xs hx hxs =>
              obtain ⟨l, hl, _, hid, rfl⟩ := hx
              obtain ⟨k, hk, hkid, hmode, hrate⟩ := hknown a List.mem_cons_self id hsource
              obtain rfl : k = l := List.inj_on_of_nodup_map hids hk hl (hkid.trans hid.symm)
              rw [hmode, hrate]
              exact (ih hrest hxs).cons_cons _

/-- The source lines of a draft in another order. -/
private theorem calculateSourceLines_perm
    (hmode : OneModePerRate (sourceLines.map (·.toLineAmounts))) (hprev : prev.Perm prev')
    (hrequested : requested.Perm requested')
    (hbound : (sourceLines.map (·.id)).Nodup → ∀ xs, List.Forall₂ (Resolves sourceLines)
        (prev.filterMap toPreviousLineAllocation) xs → ∀ x ∈ calculated,
      grossOf x.priceInputMode x.vatRateBasisPoints (sumOn (·.inputCents) x.vatRateBasisPoints xs
        + sumOn (·.inputCents) x.vatRateBasisPoints (calculated.map (·.toLineAmounts)))
        ≤ maximumSafeInteger) (h : calculateSourceLines localeCompare sourceLines
      (prev.filterMap toPreviousLineAllocation) requested = .ok calculated) :
    ∃ calculated', calculateSourceLines localeCompare sourceLines
        (prev'.filterMap toPreviousLineAllocation) requested' = .ok calculated'
      ∧ SameLines (calculated.map (·.toLineAmounts)) (calculated'.map (·.toLineAmounts)) := by
  rw [calculateSourceLines] at h
  split at h
  · next hnone =>
    have hcalculated : [] = calculated := pure_eq_ok.mp h
    subst hcalculated
    refine ⟨[], ?_, sameLines_of_perm (List.Perm.refl _)⟩
    rw [calculateSourceLines, if_pos (hrequested.length_eq ▸ hnone)]
    rfl
  · next hsome =>
    simp only [bind_eq_ok, pure_eq_ok] at h
    obtain ⟨c, hc, rfl⟩ := h
    obtain ⟨_, hids, _⟩ := CreditInvoice.calculateCreditInvoice_spec hc
    obtain ⟨c', hc', hsame⟩ := CreditInvoice.calculateCreditInvoice_perm hmode
      (hprev.filterMap _) hrequested (hbound hids) hc
    refine ⟨c'.lines, ?_, hsame⟩
    rw [calculateSourceLines, if_neg (hrequested.length_eq ▸ hsome)]
    simp only [bind_eq_ok, pure_eq_ok]
    exact ⟨c', hc', rfl⟩

/-! ## The whole draft -/

/-- What is settled of lines that reconcile leaves room for itself. -/
private theorem settleable_of_settled {lines ys : List CalculatedNormalCreditDraftLine}
    (hsettled : SettledLines previous (lines.map (·.toLineAmounts)) (ys.map (·.toLineAmounts)))
    (hpositive : ∀ x ∈ lines,
      0 < sumOn (·.inputCents) x.vatRateBasisPoints (lines.map (·.toLineAmounts)))
    (hrate : ∀ x ∈ lines, 0 ≤ x.vatRateBasisPoints) (hprev : ∀ x ∈ previous, Reconciled x)
    (hys : ∀ y ∈ ys, Reconciled y.toLineAmounts)
    (hmax : ∀ r, sumOn (·.grossCents) r (previous ++ ys.map (·.toLineAmounts))
      ≤ maximumSafeInteger) : ∀ x ∈ lines, Settleable previous lines x := by
  intro x hx
  refine ⟨hpositive x hx, hsettled.leavesRoom (List.mem_map_of_mem hx) (hrate x hx) hprev
    (fun y hy => ?_) ?_ (fun hzero => ?_)⟩
  · obtain ⟨z, hz, rfl⟩ := List.mem_map.mp hy
    exact hys z hz
  · rw [← hsettled.gross _ (List.mem_map_of_mem hx), ← sumOn_append]
    exact hmax _
  · have hpos := hpositive x hx
    omega

/-- A line that differs from a calculated one by its tax is calculated, too. -/
private theorem calculated_of_untaxed {y : LineAmounts} (hyx : untaxed y = untaxed x)
    (hx : validateCalculatedInvoiceLine x = .ok ()) (hy : Reconciled y)
    (hmax : y.grossCents ≤ maximumSafeInteger) : validateCalculatedInvoiceLine y = .ok () := by
  obtain ⟨hrate, hbase, hdiscount, _⟩ := validateCalculatedInvoiceLine_eq_ok.mp hx
  obtain ⟨hnet, hvat, hsum⟩ := hy
  refine validateCalculatedInvoiceLine_eq_ok.mpr ⟨?_, ?_, ?_, ⟨hnet, by omega⟩,
    ⟨hvat, by omega⟩, ⟨by omega, hmax⟩, hsum⟩
  · have hsame : y.vatRateBasisPoints = x.vatRateBasisPoints :=
      congrArg UntaxedLine.vatRateBasisPoints hyx
    rwa [hsame]
  · have hsame : y.baseCents = x.baseCents := congrArg UntaxedLine.baseCents hyx
    rwa [hsame]
  · have hsame : y.discountCents = x.discountCents := congrArg UntaxedLine.discountCents hyx
    rwa [hsame]

/-- **THE TAX OF A DRAFT** is settled, within the capacities and to the same totals, for
    the same lines in every order. -/
private theorem settled_perm {previous' : List LineAmounts}
    {lines lines' ys : List CalculatedNormalCreditDraftLine} {totals : InvoiceTotals} {u : Unit}
    (hcapMax : ∀ rate c, capacities.get? rate = some c → c.grossCents ≤ maximumSafeInteger)
    (hprev : previous.Perm previous') (hprevRec : ∀ x ∈ previous, Reconciled x)
    (hlines : ∀ x ∈ lines, Reconciled x.toLineAmounts)
    (hlines' : ∀ x ∈ lines', Reconciled x.toLineAmounts)
    (hsame : SameLines (lines.map (·.toLineAmounts)) (lines'.map (·.toLineAmounts)))
    (hreconciled : reconcileCurrentVat lines previous = .ok ys)
    (hwithin : requireWithinVatCapacity previous (ys.map (·.toLineAmounts)) capacities = .ok u)
    (htotals : sumCreditTotals (ys.map (·.toLineAmounts)) = .ok totals) :
    ∃ ys', reconcileCurrentVat lines' previous' = .ok ys'
      ∧ requireWithinVatCapacity previous' (ys'.map (·.toLineAmounts)) capacities = .ok ()
      ∧ sumCreditTotals (ys'.map (·.toLineAmounts)) = .ok totals := by
  obtain ⟨hall, hsettled, hpositive⟩ := reconcileCurrentVat_spec hprevRec hlines hreconciled
  obtain ⟨hvalid, hmodeYs, rfl⟩ := sumCreditTotals_spec htotals
  obtain ⟨hmodes, hused⟩ := requireWithinVatCapacity_spec hwithin
  have husedMax := hused.gross_le hcapMax
  have hysRec : ∀ y ∈ ys, Reconciled y.toLineAmounts :=
    fun y hy => reconciled_of_calculated (hvalid _ (List.mem_map_of_mem hy))
  have hprevRec' : ∀ x ∈ previous', Reconciled x :=
    fun x hx => hprevRec x (hprev.mem_iff.mpr hx)
  have hprevMax : ∀ r, sumOn (·.grossCents) r previous' ≤ maximumSafeInteger := by
    intro r
    have hcurrent : 0 ≤ sumOn (·.grossCents) r (ys.map (·.toLineAmounts)) := by
      refine sumOn_nonneg (fun x hx => ?_)
      obtain ⟨y, hy, rfl⟩ := List.mem_map.mp hx
      exact (hysRec y hy).gross_nonneg
    have hall := husedMax r
    rw [sumOn_append] at hall
    rw [← sumOn_perm hprev]
    omega
  -- the lines have room in the new order as they had in the old one
  have hready := settleable_of_sameLines hprev hsame (settleable_of_settled hsettled hpositive
    (fun x hx => by
      obtain ⟨y, hy, hxy⟩ := exists_right_of_forall₂ hall hx
      rw [← hxy.amounts.rate]
      exact (validateCalculatedInvoiceLine_eq_ok.mp
        (hvalid _ (List.mem_map_of_mem hy))).1.1) hprevRec hysRec husedMax)
  have hsettledSame := sameLines_of_resettles hsettled.each
  obtain ⟨ys', hys', hnonneg⟩ := reconcileCurrentVat_total hprevRec' hprevMax hlines'
    (((sameLines_of_perm hprev).append (hsettledSame.symm.trans hsame)).oneModePerRate hmodes)
    hready
  obtain ⟨_, hsettled', _⟩ := reconcileCurrentVat_spec hprevRec' hlines' hys'
  have hsums := hsettled.sumOn_eq hsettled' hprev hsame
  have hsameYs : SameLines (ys.map (·.toLineAmounts)) (ys'.map (·.toLineAmounts)) :=
    hsettledSame.symm.trans (hsame.trans (sameLines_of_resettles hsettled'.each))
  have hysRec' : ∀ x ∈ ys'.map (·.toLineAmounts), Reconciled x := by
    intro x hx
    obtain ⟨_, _, hxy⟩ := exists_left_of_forall₂ hsettled'.each hx
    obtain ⟨y, hy, rfl⟩ := List.mem_map.mp hx
    exact ⟨(hnonneg y hy).1, (hnonneg y hy).2, hxy.reconciles⟩
  have htotal := hsameYs.sum_eq (fun r => (hsums r).2.2)
  have hmax := sumCreditTotals_max htotals
  rw [← htotal] at hmax
  refine ⟨ys', hys', requireWithinVatCapacity_total (fun x hx => ?_)
    (hused.of_sums ((sameLines_of_perm hprev).append hsameYs) (fun r => ?_)) hcapMax, ?_⟩
  · rcases List.mem_append.mp hx with hx | hx
    · exact hprevRec' x hx
    · exact hysRec' x hx
  · obtain ⟨hnet, hvat, hgross⟩ := hsums r
    simp only [sumOn_append, hnet, hvat, hgross, sumOn_perm hprev, and_self]
  · rw [sumCreditTotals_of_sum_le (fun y hy => ?_) (hsameYs.oneModePerRate hmodeYs) hmax,
      ← hsameYs.ratesOf_eq]
    · have hrow : ∀ r, sumsOf (ys'.map (·.toLineAmounts)) r
          = sumsOf (ys.map (·.toLineAmounts)) r := by
        intro r
        obtain ⟨hnet, hvat, hgross⟩ := hsums r
        rw [sumsOf, sumsOf, hnet, hvat, hgross]
      rw [List.map_congr_left fun r _ => hrow r]
    · obtain ⟨x, hx, hxy⟩ := hsameYs.symm.exists_untaxed hy
      refine calculated_of_untaxed hxy.symm (hvalid x hx) (hysRec' y hy) ?_
      have hsingle := List.single_le_sum (l := (ys'.map (·.toLineAmounts)).map (·.grossCents))
        (fun n hn => by
          obtain ⟨z, hz, rfl⟩ := List.mem_map.mp hn
          exact (hysRec' z hz).gross_nonneg) y.grossCents (List.mem_map_of_mem hy)
      omega

private theorem validatePreviousAllocations_perm {sourceById : OrderedMap String CreditSourceLine}
    {u : Unit} (hmax : ∀ rate c, capacities.get? rate = some c → c.grossCents ≤ maximumSafeInteger)
    (hprev : prev.Perm prev') (h : validatePreviousAllocations prev sourceById capacities = .ok u) :
    validatePreviousAllocations prev' sourceById capacities = .ok () := by
  simp only [validatePreviousAllocations, bind_eq_ok] at h ⊢
  obtain ⟨_, hvalid, hwithin⟩ := h
  have hvalid' : ∀ a ∈ prev', validatePreviousAllocation sourceById capacities a = .ok () :=
    fun a ha => forM_eq_ok.mp hvalid a (hprev.mem_iff.mpr ha)
  refine ⟨(), forM_eq_ok.mpr hvalid', requireWithinVatCapacity_total (fun x hx => ?_)
    ((requireWithinVatCapacity_spec hwithin).2.perm ((hprev.map _).append_right _)) hmax⟩
  rw [List.append_nil] at hx
  obtain ⟨a, ha, rfl⟩ := List.mem_map.mp hx
  exact validatePreviousAllocation_reconciled (hvalid' a ha)

/-- A part of what is settled is bounded by all of it. -/
private theorem part_bound {part xs rest ys : List LineAmounts}
    (hsettled : SettledLines previous (xs ++ rest) ys) (hx : x ∈ xs) (hpart : part.Sublist previous)
    (hprev : ∀ y ∈ previous, Reconciled y) (hrest : ∀ y ∈ rest, Reconciled y)
    (hrate : ∀ y ∈ ys, 0 ≤ y.vatRateBasisPoints)
    (hmax : ∀ r, sumOn (·.grossCents) r (previous ++ ys) ≤ maximumSafeInteger) :
    grossOf x.priceInputMode x.vatRateBasisPoints (sumOn (·.inputCents) x.vatRateBasisPoints part
      + sumOn (·.inputCents) x.vatRateBasisPoints xs) ≤ maximumSafeInteger := by
  have hmem : x ∈ xs ++ rest := List.mem_append_left _ hx
  have hprevInput : sumOn (·.inputCents) x.vatRateBasisPoints part
      ≤ sumOn (·.inputCents) x.vatRateBasisPoints previous := by
    refine ((hpart.filter _).map _).sum_le_sum (fun n hn => ?_)
    obtain ⟨y, hy, rfl⟩ := List.mem_map.mp hn
    exact (hprev y (List.mem_of_mem_filter hy)).input_nonneg
  have hcurrentInput : sumOn (·.inputCents) x.vatRateBasisPoints xs
      ≤ sumOn (·.inputCents) x.vatRateBasisPoints (xs ++ rest) := by
    rw [sumOn_append]
    exact Int.le_add_of_nonneg_right (sumOn_nonneg (fun y hy => (hrest y hy).input_nonneg))
  obtain ⟨y, hy, hxy⟩ := exists_right_of_forall₂ hsettled.each hmem
  have hmono := @grossOf_mono x.priceInputMode _ _ _ (hxy.rate ▸ hrate y hy)
    (Int.add_le_add hprevInput hcurrentInput)
  have hgross := hsettled.gross _ hmem
  rw [← sumOn_append] at hgross
  exact Int.le_trans hmono (hgross ▸ hmax x.vatRateBasisPoints)

private theorem sourceLines_payable {allocations : List PreviousCreditLineAllocation}
    (h : calculateSourceLines localeCompare sourceLines allocations requested
      = .ok calculated) : ∀ y ∈ calculated, Payable y := by
  rw [calculateSourceLines] at h
  split at h
  · have hcalculated : [] = calculated := pure_eq_ok.mp h
    subst hcalculated
    exact fun y hy => (by cases hy)
  · simp only [bind_eq_ok, pure_eq_ok] at h
    obtain ⟨c, hc, rfl⟩ := h
    exact (CreditInvoice.calculateCreditInvoice_spec hc).2.2.2.2

private theorem sourceLines_priced {allocations : List PreviousCreditLineAllocation}
    (h : calculateSourceLines localeCompare sourceLines allocations requested
      = .ok calculated) : ∀ y ∈ calculated, y.baseCents - y.discountCents = y.inputCents := by
  rw [calculateSourceLines] at h
  split at h
  · have hcalculated : [] = calculated := pure_eq_ok.mp h
    subst hcalculated
    exact fun y hy => (by cases hy)
  · simp only [bind_eq_ok, pure_eq_ok] at h
    obtain ⟨c, hc, rfl⟩ := h
    intro y hy
    obtain ⟨_, _, _, hlines, _⟩ := CreditInvoice.calculateCreditInvoice_spec hc
    obtain ⟨request, _, l, _, _, _, hfrom⟩ := exists_left_of_forall₂ hlines hy
    exact hfrom.reconciles

private theorem lines_reconciled {manual : List CalculatedNormalCreditDraftLine}
    (hcalculated : ∀ y ∈ calculated, Reconciled y.toLineAmounts)
    (hmanual : ∀ y ∈ manual, Reconciled y.toLineAmounts) :
    ∀ x ∈ calculated.map toDraftLine ++ manual, Reconciled x.toLineAmounts := by
  intro x hx
  rcases List.mem_append.mp hx with hx | hx
  · obtain ⟨y, hy, rfl⟩ := List.mem_map.mp hx
    exact hcalculated y hy
  · exact hmanual x hx

/-- **ANY ORDER**: a draft that is accepted is accepted for every order of its requests and
    of the earlier credits, with the same totals. -/
theorem calculateCreditInvoiceDraft_perm (hprev : prev.Perm prev')
    (hrequested : requested.Perm requested') (hmanualRequests : manualRequests.Perm manualRequests')
    (h : calculateCreditInvoiceDraft localeCompare sourceLines prev requested manualRequests
      = .ok d) : ∃ d', calculateCreditInvoiceDraft localeCompare sourceLines prev' requested'
        manualRequests' = .ok d' ∧ d'.totals = d.totals := by
  simp only [calculateCreditInvoiceDraft, bind_eq_ok, throwIf_eq_ok, exists_const] at h
  obtain ⟨hlength, capacities, hcapacities, _, hvalidated, calculated, hsource, manual,
    hmanual, ys, hreconciled, _, hwithin, totals, htotals, hd⟩ := h
  rw [pure_eq_ok] at hd
  subst hd
  obtain ⟨hcreditable, hcap, _⟩ := createVatCapacities_spec hcapacities
  have hcapMax := createVatCapacities_max hcapacities
  have hvalidated' := validatePreviousAllocations_perm hcapMax hprev hvalidated
  obtain ⟨_, hprevValid, _⟩ := by
    simpa only [validatePreviousAllocations, bind_eq_ok] using hvalidated
  have hprevRec : ∀ x ∈ prev.map (·.toLineAmounts), Reconciled x := by
    intro x hx
    obtain ⟨a, ha, rfl⟩ := List.mem_map.mp hx
    exact validatePreviousAllocation_reconciled (forM_eq_ok.mp hprevValid a ha)
  have hmanualRec : ∀ y ∈ manual, Reconciled y.toLineAmounts := by
    intro y hy
    obtain ⟨request, _, hrequest⟩ := exists_source_of_mapM_ok hmanual hy
    exact (calculateManualLine_spec hcap hrequest).2.1.reconciled
  have hcalculatedRec : ∀ y ∈ calculated, Reconciled y.toLineAmounts :=
    fun y hy => (sourceLines_payable hsource y hy).2
  have hlinesRec : ∀ x ∈ calculated.map toDraftLine ++ manual,
      Reconciled x.toLineAmounts := lines_reconciled hcalculatedRec hmanualRec
  obtain ⟨_, hsettled, _⟩ := reconcileCurrentVat_spec hprevRec hlinesRec hreconciled
  obtain ⟨hvalid, _, _⟩ := sumCreditTotals_spec htotals
  have husedMax := (requireWithinVatCapacity_spec hwithin).2.gross_le hcapMax
  rw [List.map_append, List.map_map] at hsettled
  -- the calculation over the source lines is bounded by the whole draft
  have hbound : (sourceLines.map (·.id)).Nodup → ∀ xs, List.Forall₂ (Resolves sourceLines)
      (prev.filterMap toPreviousLineAllocation) xs → ∀ x ∈ calculated,
      grossOf x.priceInputMode x.vatRateBasisPoints
        (sumOn (·.inputCents) x.vatRateBasisPoints xs
          + sumOn (·.inputCents) x.vatRateBasisPoints (calculated.map (·.toLineAmounts)))
        ≤ maximumSafeInteger := by
    intro hids xs hxs x hx
    have hsub := resolves_sublist hids (fun a ha id hid =>
      validatePreviousAllocation_source (forM_eq_ok.mp hprevValid a ha) hid) hxs
    exact part_bound hsettled (List.mem_map_of_mem hx) hsub hprevRec
      (fun y hy => by
        obtain ⟨z, hz, rfl⟩ := List.mem_map.mp hy
        exact hmanualRec z hz) (fun y hy => (validateCalculatedInvoiceLine_eq_ok.mp
          (hvalid y hy)).1.1) husedMax
  obtain ⟨calculated', hsource', hsameSource⟩ := calculateSourceLines_perm hcreditable.mode hprev
    hrequested hbound hsource
  obtain ⟨manual', hmanual', hmanualPerm⟩ := mapM_perm hmanualRequests hmanual
  have hlinesRec' := lines_reconciled (fun y hy => (sourceLines_payable hsource' y hy).2)
    (fun y hy => hmanualRec y (hmanualPerm.mem_iff.mpr hy))
  have hsame : SameLines ((calculated.map toDraftLine ++ manual).map (·.toLineAmounts))
      ((calculated'.map toDraftLine ++ manual').map (·.toLineAmounts)) := by
    rw [List.map_append, List.map_append, List.map_map, List.map_map]
    exact hsameSource.append (sameLines_of_perm (hmanualPerm.map _))
  obtain ⟨ys', hys', hwithin', htotals'⟩ := settled_perm hcapMax (hprev.map _) hprevRec
    hlinesRec hlinesRec' hsame hreconciled hwithin htotals
  refine ⟨⟨ys', totals⟩, ?_, rfl⟩
  simp only [calculateCreditInvoiceDraft, bind_eq_ok, throwIf_eq_ok, exists_const]
  refine ⟨?_, capacities, hcapacities, (), hvalidated', calculated', hsource', manual',
    hmanual', ys', hys', (), hwithin', totals, htotals', rfl⟩
  rwa [← hrequested.length_eq, ← hmanualRequests.length_eq]

/-! ## What an accepted draft adds up to -/

/-- A draft whose lines reconcile and add up to its totals, rate by rate. -/
structure Balanced (d : CalculatedNormalCreditDraft) : Prop where
  reconciled : ∀ y ∈ d.lines, y.netCents + y.vatCents = y.grossCents
    ∧ y.baseCents - y.discountCents = y.inputCents
  nonneg : ∀ y ∈ d.lines, 0 ≤ y.quantityHundredths ∧ 0 ≤ y.vatRateBasisPoints
    ∧ 0 ≤ y.baseCents ∧ 0 ≤ y.discountCents ∧ 0 ≤ y.netCents ∧ 0 ≤ y.vatCents
    ∧ 0 ≤ y.grossCents ∧ 0 ≤ y.inputCents
  breakdown : d.totals.vatBreakdown = (ratesOf (d.lines.map (·.toLineAmounts))).map
    (sumsOf (d.lines.map (·.toLineAmounts)))
  netTotal : d.totals.netTotalCents = (d.lines.map (·.netCents)).sum
  vatTotal : d.totals.vatTotalCents = (d.lines.map (·.vatCents)).sum
  grossTotal : d.totals.grossTotalCents = (d.lines.map (·.grossCents)).sum

/-- The totals of a draft are amounts when its gross total is in range. -/
theorem Balanced.amounts (h : Balanced d)
    (hmax : (d.lines.map (·.grossCents)).sum ≤ maximumSafeInteger) :
    IsAmount d.totals.netTotalCents ∧ IsAmount d.totals.vatTotalCents
      ∧ IsAmount d.totals.grossTotalCents := by
  have hnet : 0 ≤ (d.lines.map (·.netCents)).sum := List.sum_nonneg (fun n hn => by
    obtain ⟨y, hy, rfl⟩ := List.mem_map.mp hn
    obtain ⟨_, _, _, _, hnet, _⟩ := h.nonneg y hy
    exact hnet)
  have hvat : 0 ≤ (d.lines.map (·.vatCents)).sum := List.sum_nonneg (fun n hn => by
    obtain ⟨y, hy, rfl⟩ := List.mem_map.mp hn
    obtain ⟨_, _, _, _, _, hvat, _⟩ := h.nonneg y hy
    exact hvat)
  have hsum : (d.lines.map (·.netCents)).sum + (d.lines.map (·.vatCents)).sum
      = (d.lines.map (·.grossCents)).sum := by
    rw [← List.sum_map_add]
    exact congrArg List.sum (List.map_congr_left fun y hy => (h.reconciled y hy).1)
  rw [h.netTotal, h.vatTotal, h.grossTotal]
  exact ⟨⟨hnet, by omega⟩, ⟨hvat, by omega⟩, ⟨by omega, hmax⟩⟩

section

variable (h : calculateCreditInvoiceDraft localeCompare sourceLines prev requested manualRequests
    = .ok d)
include h

/-- The lines of an accepted draft, as they were before their tax was settled. -/
private theorem settled_of_accepted : ∃ capacities calculated manual,
      HoldsCapacities (sourceLines.map (·.toLineAmounts)) capacities
        ∧ calculateSourceLines localeCompare sourceLines
          (prev.filterMap toPreviousLineAllocation) requested = .ok calculated
        ∧ manualRequests.mapM (calculateManualLine capacities) = .ok manual
        ∧ List.Forall₂ ResettlesLine (calculated.map toDraftLine ++ manual) d.lines
        ∧ sumCreditTotals (d.lines.map (·.toLineAmounts)) = .ok d.totals := by
  simp only [calculateCreditInvoiceDraft, bind_eq_ok, throwIf_eq_ok, exists_const,
    validatePreviousAllocations] at h
  obtain ⟨_, capacities, hcapacities, _, ⟨_, hprevValid, _⟩, calculated, hsource, manual,
    hmanual, ys, hreconciled, _, _, totals, htotals, hd⟩ := h
  rw [pure_eq_ok] at hd
  subst hd
  have hcap := (createVatCapacities_spec hcapacities).2.1
  obtain ⟨hall, _, _⟩ := reconcileCurrentVat_spec (fun x hx => by
      obtain ⟨a, ha, rfl⟩ := List.mem_map.mp hx
      exact validatePreviousAllocation_reconciled (forM_eq_ok.mp hprevValid a ha))
    (lines_reconciled (fun y hy => (sourceLines_payable hsource y hy).2) (fun y hy => by
      obtain ⟨request, _, hrequest⟩ := exists_source_of_mapM_ok hmanual hy
      exact (calculateManualLine_spec hcap hrequest).2.1.reconciled)) hreconciled
  exact ⟨capacities, calculated, manual, hcap, hsource, hmanual, hall, htotals⟩

/-- The lines are priced before their tax is settled, and settling keeps the price. -/
private theorem price_of_accepted :
    ∀ y ∈ d.lines, y.baseCents - y.discountCents = y.inputCents := by
  obtain ⟨_, calculated, manual, hcap, hsource, hmanual, hall, _⟩ := settled_of_accepted h
  intro y hy
  obtain ⟨x, hx, hxy⟩ := exists_left_of_forall₂ hall hy
  rw [hxy.amounts.base, hxy.amounts.discount, hxy.amounts.input]
  rcases List.mem_append.mp hx with hx | hx
  · obtain ⟨z, hz, rfl⟩ := List.mem_map.mp hx
    exact sourceLines_priced hsource z hz
  · obtain ⟨request, _, hrequest⟩ := exists_source_of_mapM_ok hmanual hx
    exact (calculateManualLine_spec hcap hrequest).2.1.input.symm

/-- A line that credits no source line was written by hand, with its own key and rate. -/
theorem manual_of_accepted {y : CalculatedNormalCreditDraftLine} (hy : y ∈ d.lines)
    (hnone : y.sourceInvoiceLineId = none) : ∃ request ∈ manualRequests, y.lineKey = request.lineKey
      ∧ y.vatRateBasisPoints = request.vatRateBasisPoints := by
  obtain ⟨_, calculated, manual, hcap, _, hmanual, hall, _⟩ := settled_of_accepted h
  obtain ⟨x, hx, hxy⟩ := exists_left_of_forall₂ hall hy
  rcases List.mem_append.mp hx with hx | hx
  · obtain ⟨z, _, rfl⟩ := List.mem_map.mp hx
    exact nomatch hnone.symm.trans hxy.source
  · obtain ⟨request, hmem, hrequest⟩ := exists_source_of_mapM_ok hmanual hx
    obtain ⟨_, _, _, _, hkey, _, _, hrate, _⟩ := calculateManualLine_spec hcap hrequest
    exact ⟨request, hmem, hxy.key.trans hkey, hxy.amounts.rate.trans hrate⟩

/-- A line of the source invoice is credited only when those lines have different ids. -/
theorem nodup_of_accepted (hrequested : requested ≠ []) : (sourceLines.map (·.id)).Nodup := by
  obtain ⟨_, calculated, _, _, hsource, _⟩ := settled_of_accepted h
  rw [calculateSourceLines, if_neg fun hnil =>
    hrequested (List.eq_nil_of_length_eq_zero hnil)] at hsource
  simp only [bind_eq_ok] at hsource
  obtain ⟨c, hc, _⟩ := hsource
  exact (CreditInvoice.calculateCreditInvoice_spec hc).2.1

/-- The totals of a draft are those of its lines. -/
theorem sumCreditTotals_of_accepted :
    sumCreditTotals (d.lines.map (·.toLineAmounts)) = .ok d.totals := by
  obtain ⟨_, _, _, _, _, _, _, htotals⟩ := settled_of_accepted h
  exact htotals

end

/-- Lines are added up to the same totals in every order. -/
theorem sumCreditTotals_perm {lines lines' : List LineAmounts} {totals : InvoiceTotals}
    (hperm : lines.Perm lines') (h : sumCreditTotals lines = .ok totals) :
    sumCreditTotals lines' = .ok totals := by
  obtain ⟨hvalid, hmode, rfl⟩ := sumCreditTotals_spec h
  have hsame := sameLines_of_perm hperm
  have hrow : ∀ r, sumsOf lines' r = sumsOf lines r := by
    intro r
    rw [sumsOf, sumsOf, sumOn_perm hperm, sumOn_perm hperm, sumOn_perm hperm]
  have hsum : (lines'.map (·.grossCents)).sum = (lines.map (·.grossCents)).sum :=
    (hperm.map _).sum_eq.symm
  rw [sumCreditTotals_of_sum_le (fun x hx => hvalid x (hperm.mem_iff.mpr hx))
    (hsame.oneModePerRate hmode) (hsum ▸ sumCreditTotals_max h), ← hsame.ratesOf_eq,
    List.map_congr_left fun r _ => hrow r]

theorem balanced_of_accepted
    (h : calculateCreditInvoiceDraft localeCompare sourceLines prev requested manualRequests
      = .ok d) : Balanced d := by
  have haccepted := calculateCreditInvoiceDraft_spec h
  have hprice := price_of_accepted h
  have htotal : ∀ f : LineAmounts → Int,
      (((ratesOf (d.lines.map (·.toLineAmounts))).map fun r =>
        sumOn f r (d.lines.map (·.toLineAmounts)))).sum
        = (d.lines.map (fun y => f y.toLineAmounts)).sum := by
    intro f
    have hsum := sum_withKey (nodup_ratesOf (d.lines.map (·.toLineAmounts)))
      (fun x hx => mem_ratesOf.mpr ⟨x, hx, rfl⟩) f
    rw [List.map_map] at hsum
    exact hsum
  refine ⟨fun y hy => ⟨(haccepted.valid y hy).reconciled.2.2, hprice y hy⟩, fun y hy => ?_,
    by rw [haccepted.totals]; rfl, ?_, ?_, ?_⟩
  · obtain ⟨hquantity, hrate, hbase, hdiscount, hreconciled, _⟩ := haccepted.valid y hy
    exact ⟨hquantity.1.1, hrate.1, hbase.1, hdiscount.1, hreconciled.1, hreconciled.2.1,
      hreconciled.gross_nonneg, hreconciled.input_nonneg⟩
  all_goals
    rw [haccepted.totals, totalsOf, ← htotal]
    dsimp only
    rw [List.map_map]
    rfl

/-- **ORDER DOES NOT MATTER**: a draft is accepted for one order of its lines and of the
    earlier credits exactly when it is accepted for another, with the same totals, rate by
    rate; and every accepted draft balances. -/
theorem calculateCreditInvoiceDraft_order (hprev : prev.Perm prev')
    (hrequested : requested.Perm requested')
    (hmanualRequests : manualRequests.Perm manualRequests') :
    ((∃ d, calculateCreditInvoiceDraft localeCompare sourceLines prev requested
          manualRequests = .ok d)
        ↔ ∃ d', calculateCreditInvoiceDraft localeCompare sourceLines prev' requested'
          manualRequests' = .ok d')
      ∧ (∀ d d', calculateCreditInvoiceDraft localeCompare sourceLines prev requested
            manualRequests = .ok d →
          calculateCreditInvoiceDraft localeCompare sourceLines prev' requested'
            manualRequests' = .ok d' → d'.totals = d.totals)
      ∧ ∀ d, calculateCreditInvoiceDraft localeCompare sourceLines prev requested
          manualRequests = .ok d → Balanced d := by
  refine ⟨⟨?_, ?_⟩, ?_, fun d hd => balanced_of_accepted hd⟩
  · rintro ⟨d, hd⟩
    obtain ⟨d', hd', _⟩ :=
      calculateCreditInvoiceDraft_perm hprev hrequested hmanualRequests hd
    exact ⟨d', hd'⟩
  · rintro ⟨d', hd'⟩
    obtain ⟨d, hd, _⟩ :=
      calculateCreditInvoiceDraft_perm hprev.symm hrequested.symm hmanualRequests.symm hd'
    exact ⟨d, hd⟩
  · intro d d' hd hd'
    obtain ⟨d'', hd'', htotals⟩ :=
      calculateCreditInvoiceDraft_perm hprev hrequested hmanualRequests hd
    obtain rfl : d'' = d' := Except.ok.inj (hd''.symm.trans hd')
    exact htotals

/-- Two lines of two cents, whose one cent of VAT goes to the first of them. -/
def pairLines : List CreditSourceLine :=
  [⟨⟨100, .net, 2400, 2, 0, 2, 0, 2⟩, "line-1", 1⟩,
    ⟨⟨100, .net, 2400, 2, 0, 2, 0, 2⟩, "line-2", 2⟩]

/-- A draft of two lines of a cent each. -/
def pairDraft (first second : String) : CalculatedNormalCreditDraft :=
  ⟨[⟨⟨100, .net, 2400, 2, 0, 2, 1, 3⟩, first, some first, none⟩,
      ⟨⟨100, .net, 2400, 2, 0, 2, 0, 2⟩, second, some second, none⟩],
    ⟨4, 1, 5, [⟨2400, 4, 1, 5⟩]⟩⟩

/-- The cent moves with the order of the requests, and the totals stay. -/
theorem pairDraft_order :
    pairDraft "line-1" "line-2" ≠ pairDraft "line-2" "line-1"
      ∧ (pairDraft "line-2" "line-1").totals = (pairDraft "line-1" "line-2").totals
      ∧ Balanced (pairDraft "line-1" "line-2") := by
  have hdraft : calculateCreditInvoiceDraft (fun _ _ => 0) pairLines []
      [⟨"line-1", 100⟩, ⟨"line-2", 100⟩] [] = .ok (pairDraft "line-1" "line-2") := by
    decide +kernel
  have hdraft' : calculateCreditInvoiceDraft (fun _ _ => 0) pairLines []
      [⟨"line-2", 100⟩, ⟨"line-1", 100⟩] [] = .ok (pairDraft "line-2" "line-1") := by
    decide +kernel
  obtain ⟨_, htotals, hbalanced⟩ := @calculateCreditInvoiceDraft_order (fun _ _ => 0) pairLines
    [] [] _ _ [] [] (List.Perm.refl _)
    (List.Perm.swap (⟨"line-2", 100⟩ : RequestedCreditLine) ⟨"line-1", 100⟩ [])
    (List.Perm.refl _)
  exact ⟨by decide, htotals _ _ hdraft hdraft', hbalanced _ hdraft⟩

end CreditDraft
