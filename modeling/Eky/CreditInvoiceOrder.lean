import Eky.RemainingCredit

/-! # The lines of a credit in any order

    The calculation over the lines of the source invoice goes through its earlier credits and
    through its requests one after the other, and hands tax out in the order of the lines.
    None of this decides whether it goes through.

    - `SettledLines.sumOn_eq`: two settlements of the same lines come to the same sums;
    - `sumPreviousAllocations_perm`: what was credited of a line before has no order;
    - `calculateCreditInvoice_perm`: a calculation that goes through for one order goes
      through for every other, over the same credited lines. -/

namespace VatDistribution

open Apportionment OrderedMap InvoiceMoney VatGroups InvoiceCalculation

/-! ## Lines without their tax -/

/-- A line without its tax: what settling keeps. -/
structure UntaxedLine where
  quantityHundredths : Int
  priceInputMode : PriceInputMode
  vatRateBasisPoints : Int
  baseCents : Int
  discountCents : Int
  inputCents : Int

/-- A line without its tax. -/
def untaxed (x : LineAmounts) : UntaxedLine :=
  ⟨x.quantityHundredths, x.priceInputMode, x.vatRateBasisPoints, x.baseCents,
    x.discountCents, x.inputCents⟩

/-- The same lines up to their order and their tax. -/
def SameLines (xs ys : List LineAmounts) : Prop := (xs.map untaxed).Perm (ys.map untaxed)

variable {prev prev' xs ys zs zs' : List LineAmounts}

theorem sameLines_of_perm (h : xs.Perm ys) : SameLines xs ys := h.map untaxed

variable {x : LineAmounts}

theorem Resettles.untaxed {y : LineAmounts} (h : Resettles x y) : untaxed y = untaxed x := by
  rw [VatDistribution.untaxed, VatDistribution.untaxed, h.quantity, h.mode, h.rate, h.base,
    h.discount, h.input]

theorem sameLines_of_resettles (h : List.Forall₂ Resettles xs ys) : SameLines xs ys := by
  have hmap : ys.map untaxed = xs.map untaxed := by
    induction h with
    | nil => rfl
    | cons hxy _ ih => rw [List.map_cons, List.map_cons, hxy.untaxed, ih]
  rw [SameLines, hmap]

theorem SameLines.symm (h : SameLines xs ys) : SameLines ys xs := List.Perm.symm h

theorem SameLines.trans (hxy : SameLines xs ys) (hyz : SameLines ys zs) : SameLines xs zs :=
  List.Perm.trans hxy hyz

theorem SameLines.append {xs' ys' : List LineAmounts} (h : SameLines xs ys)
    (h' : SameLines xs' ys') : SameLines (xs ++ xs') (ys ++ ys') := by
  rw [SameLines, List.map_append, List.map_append]
  exact List.Perm.append h h'

theorem SameLines.exists_untaxed (h : SameLines xs ys) (hx : x ∈ xs) :
    ∃ y ∈ ys, untaxed y = untaxed x :=
  List.mem_map.mp ((List.Perm.mem_iff h).mp (List.mem_map_of_mem hx))

theorem SameLines.exists_mem (h : SameLines xs ys) (hx : x ∈ xs) :
    ∃ y ∈ ys, y.priceInputMode = x.priceInputMode
      ∧ y.vatRateBasisPoints = x.vatRateBasisPoints := by
  obtain ⟨y, hy, hyx⟩ := h.exists_untaxed hx
  exact ⟨y, hy, congrArg UntaxedLine.priceInputMode hyx,
    congrArg UntaxedLine.vatRateBasisPoints hyx⟩

theorem SameLines.oneModePerRate (h : SameLines xs ys) (hxs : OneModePerRate xs) :
    OneModePerRate ys := by
  intro a ha b hb hrate
  obtain ⟨x, hx, hxm, hxr⟩ := h.symm.exists_mem ha
  obtain ⟨y, hy, hym, hyr⟩ := h.symm.exists_mem hb
  rw [← hxm, ← hym]
  exact hxs x hx y hy (hxr.trans (hrate.trans hyr.symm))

theorem SameLines.sumOn_input (h : SameLines xs ys) (r : Int) :
    sumOn (·.inputCents) r xs = sumOn (·.inputCents) r ys := by
  have hsum : ∀ lines : List LineAmounts, sumOn (·.inputCents) r lines
      = (((lines.map untaxed).filter (fun u => u.vatRateBasisPoints = r)).map
          (·.inputCents)).sum := by
    intro lines
    rw [List.filter_map, List.map_map]
    rfl
  rw [hsum, hsum]
  exact ((List.Perm.filter _ h).map _).sum_eq

/-- The rates of the same lines are the same. -/
theorem SameLines.ratesOf_eq (h : SameLines xs ys) : ratesOf xs = ratesOf ys := by
  have hrates : ∀ lines : List LineAmounts, ratesOf lines
      = ratesOf ((lines.map untaxed).map fun u =>
        ⟨0, u.priceInputMode, u.vatRateBasisPoints, 0, 0, 0, 0, 0⟩) := by
    intro lines
    rw [ratesOf, ratesOf, List.map_map, List.map_map]
    rfl
  rw [hrates, hrates ys]
  exact ratesOf_perm (List.Perm.map _ h)

/-- **THE SAME SUMS**: two settlements of the same lines after the same earlier credits
    bring each rate to the same amounts. -/
theorem SettledLines.sumOn_eq (h : SettledLines prev xs zs) (h' : SettledLines prev' ys zs')
    (hprev : prev.Perm prev') (hsame : SameLines xs ys) (r : Int) :
    sumOn (·.netCents) r zs' = sumOn (·.netCents) r zs
      ∧ sumOn (·.vatCents) r zs' = sumOn (·.vatCents) r zs
      ∧ sumOn (·.grossCents) r zs' = sumOn (·.grossCents) r zs := by
  have hsplit : ∀ {lines settled : List LineAmounts}, List.Forall₂ Resettles lines settled →
      sumOn (·.grossCents) r settled
        = sumOn (·.netCents) r settled + sumOn (·.vatCents) r settled := by
    intro lines settled hall
    refine sumOn_split (fun y hy => ?_)
    obtain ⟨x, _, hxy⟩ := Fallible.exists_left_of_forall₂ hall hy
    exact hxy.reconciles
  have hgross := hsplit h.each
  have hgross' := hsplit h'.each
  by_cases hrate : ∃ x ∈ xs, x.vatRateBasisPoints = r
  · obtain ⟨x, hx, rfl⟩ := hrate
    obtain ⟨y, hy, hmode, hr⟩ := hsame.exists_mem hx
    have hinput := hsame.sumOn_input x.vatRateBasisPoints
    have hnet₁ := h.net x hx
    have hgross₁ := h.gross x hx
    have hnet₂ := h'.net y hy
    have hgross₂ := h'.gross y hy
    rw [hmode, hr, ← sumOn_perm hprev, ← sumOn_perm hprev, ← hinput] at hnet₂ hgross₂
    refine ⟨?_, ?_, ?_⟩ <;> omega
  · have hnone : ∀ {lines settled : List LineAmounts}, List.Forall₂ Resettles lines settled →
        SameLines xs lines → ∀ f : LineAmounts → Int, sumOn f r settled = 0 := by
      intro lines settled hall hlines f
      refine sumOn_of_none (fun z hz hr => hrate ?_)
      obtain ⟨y, hy, hyz⟩ := Fallible.exists_left_of_forall₂ hall hz
      obtain ⟨x, hx, _, hxr⟩ := hlines.symm.exists_mem hy
      exact ⟨x, hx, hxr.trans (hyz.rate.symm.trans hr)⟩
    have hzs := hnone h.each (sameLines_of_perm (List.Perm.refl xs))
    have hzs' := hnone h'.each hsame
    exact ⟨(hzs' _).trans (hzs _).symm, (hzs' _).trans (hzs _).symm,
      (hzs' _).trans (hzs _).symm⟩

/-- What agrees rate by rate agrees in total. -/
theorem SameLines.sum_eq (hsame : SameLines xs ys) {f : LineAmounts → Int}
    (h : ∀ r, sumOn f r ys = sumOn f r xs) : (ys.map f).sum = (xs.map f).sum := by
  have htotal : ∀ lines : List LineAmounts,
      ((ratesOf lines).map fun r => sumOn f r lines).sum = (lines.map f).sum :=
    fun lines => sum_withKey (nodup_ratesOf lines)
      (fun x hx => mem_ratesOf.mpr ⟨x, hx, rfl⟩) f
  rw [← htotal ys, ← htotal xs, hsame.ratesOf_eq]
  exact congrArg List.sum (List.map_congr_left fun r _ => h r)

end VatDistribution

namespace CreditInvoice

open Fallible Apportionment OrderedMap InvoiceMoney VatGroups InvoiceCalculation
open VatDistribution

variable {localeCompare : String → String → Int} {sourceLines : List CreditSourceLine}
variable {allocations allocations' : List PreviousCreditLineAllocation}
variable {requested requested' : List RequestedCreditLine}

theorem totalFor_perm (hperm : allocations.Perm allocations') (id : String) :
    totalFor id allocations' = totalFor id allocations :=
  ((hperm.filter _).map _).sum_eq.symm

variable {capacities : OrderedMap String CreditLineCapacity}
  {totals : OrderedMap String PreviousAllocationTotal}

theorem sumPreviousAllocations_perm (hperm : allocations.Perm allocations')
    (h : sumPreviousAllocations allocations capacities = .ok totals) :
    ∃ totals', sumPreviousAllocations allocations' capacities = .ok totals'
      ∧ ∀ id, (totals'.get? id).getD 0 = (totals.get? id).getD 0 := by
  obtain ⟨hwithin, hrange⟩ := sumPreviousAllocations_within h
  obtain ⟨totals', htotals'⟩ : ∃ totals', sumPreviousAllocations allocations' capacities
      = .ok totals' := by
    refine sumPreviousAllocations_total (fun a ha => ?_) (fun id => ?_)
    · obtain ⟨hvalid, c, hc, hcapacity⟩ := hwithin a (hperm.mem_iff.mpr ha)
      rw [totalFor_perm hperm]
      exact ⟨hvalid, c, hc, hcapacity⟩
    · rw [totalFor_perm hperm]
      exact hrange id
  refine ⟨totals', htotals', fun id => ?_⟩
  rw [sumPreviousAllocations_spec htotals', sumPreviousAllocations_spec h, totalFor_perm hperm]

/-- A request only asks what was credited of its line. -/
theorem creditRequestedLine_congr {totals' : OrderedMap String PreviousAllocationTotal}
    (h : ∀ id, (totals'.get? id).getD 0 = (totals.get? id).getD 0) :
    creditRequestedLine capacities totals' = creditRequestedLine capacities totals := by
  funext request
  have hsame : (totals'.get? request.sourceInvoiceLineId).getD createEmptyPreviousAllocation
      = (totals.get? request.sourceInvoiceLineId).getD createEmptyPreviousAllocation :=
    h request.sourceInvoiceLineId
  rw [creditRequestedLine, creditRequestedLine, hsame]

/-- What was credited of a rate is in range when the tax after it could be settled. -/
private theorem gross_le_of_allocated {lines ys : List CalculatedCreditLine}
    {prev : List LineAmounts}
    (hresolve : allocations.mapM (resolveAllocation capacities) = .ok prev)
    (hprev : ∀ x ∈ prev, Reconciled x)
    (h : allocateCurrentTaxByVatRate localeCompare lines allocations capacities = .ok ys)
    (r : Int) :
    sumOn (·.grossCents) r prev ≤ maximumSafeInteger := by
  simp only [allocateCurrentTaxByVatRate, bind_eq_ok] at h
  obtain ⟨previousByRate, hprevious, _⟩ := h
  obtain ⟨prev', hresolve', hprevious⟩ := groupResolvedM_eq_ok.mp hprevious
  obtain rfl : prev = prev' := Except.ok.inj (hresolve.symm.trans hresolve')
  have hcollects : Collects prev previousByRate := Collects.empty.extend hprevious
  by_cases hr : ∃ x ∈ prev, x.vatRateBasisPoints = r
  · obtain ⟨x, hx, rfl⟩ := hr
    obtain ⟨c, hc, _, _, _, hgross⟩ := hcollects.entry hx
    rw [← hgross]
    exact (collected_le rejectsOverflow_outOfRange (fun x hx => (hprev x hx).gross_nonneg)
      hprevious hc).2
  · rw [sumOn_of_none (fun x hx hxr => hr ⟨x, hx, hxr⟩)]
    decide

private theorem calculateCreditInvoiceTotals_max {ys : List CalculatedCreditLine}
    {totals : InvoiceTotals} (h : calculateCreditInvoiceTotals ys = .ok totals) :
    ((ys.map (·.toLineAmounts)).map (·.grossCents)).sum ≤ maximumSafeInteger := by
  simp only [calculateCreditInvoiceTotals, toSafeInteger, bind_eq_ok, throwIf_eq_ok,
    exists_const] at h
  obtain ⟨_, _, _, _, _, _, _, ⟨hgross, _⟩, _⟩ := h
  rw [List.map_map]
  exact Int.not_lt.mp fun hlt => hgross (Or.inr hlt)

/-- The credited lines, each with its request and its source line. -/
private theorem creditedLines_spec {lines : List CalculatedCreditLine}
    (hvalid : ∀ l ∈ sourceLines, ValidSourceLine l)
    (hget : ∀ id capacity, capacities.get? id = some capacity ↔
      ∃ line ∈ sourceLines, Creditable line ∧ line.id = id
        ∧ capacity = toCapacity line.vatRateBasisPoints line)
    (htotals : sumPreviousAllocations allocations capacities = .ok totals)
    (hlines : requested.mapM (creditRequestedLine capacities totals) = .ok lines) :
    List.Forall₂ (fun (request : RequestedCreditLine) (x : CalculatedCreditLine) =>
      x.sourceInvoiceLineId = request.sourceInvoiceLineId ∧ ∃ l ∈ sourceLines,
        CreditedFrom l (totalFor l.id allocations) request.quantityHundredths x)
      requested lines := by
  refine (mapM_eq_ok.mp hlines).imp (fun request x hx => ?_)
  obtain ⟨capacity, hcapacity, hline⟩ := creditRequestedLine_spec hx
  obtain ⟨l, hl, _, hid, rfl⟩ := (hget _ _).mp hcapacity
  rw [sumPreviousAllocations_spec htotals, ← hid] at hline
  exact ⟨hline.id.trans hid, l, hl, creditedFrom_of_creditedLine (hvalid l hl) hline⟩

private theorem leavesRoom_perm {prev prev' xs xs' : List LineAmounts} {mode : PriceInputMode}
    {r : Int} (hprev : prev.Perm prev') (hxs : xs.Perm xs')
    (h : LeavesRoom prev mode r (sumOn (·.inputCents) r xs)) :
    LeavesRoom prev' mode r (sumOn (·.inputCents) r xs') := by
  rw [LeavesRoom, sumOn_perm hprev, sumOn_perm hprev, sumOn_perm hprev, sumOn_perm hxs] at h
  exact h

/-- **ANY ORDER**: a calculation over the source lines that goes through does so for every
    order of the requests and of the earlier credits, over the same credited lines. -/
theorem calculateCreditInvoice_perm {c : CalculatedCreditInvoice}
    (hmode : OneModePerRate (sourceLines.map (·.toLineAmounts)))
    (hallocations : allocations.Perm allocations') (hrequested : requested.Perm requested')
    (hbound : ∀ prev, List.Forall₂ (Resolves sourceLines) allocations prev →
      ∀ x ∈ c.lines, grossOf x.priceInputMode x.vatRateBasisPoints
        (sumOn (·.inputCents) x.vatRateBasisPoints prev + sumOn (·.inputCents)
          x.vatRateBasisPoints (c.lines.map (·.toLineAmounts))) ≤ maximumSafeInteger)
    (h : calculateCreditInvoice localeCompare sourceLines allocations requested = .ok c) :
    ∃ c', calculateCreditInvoice localeCompare sourceLines allocations' requested' = .ok c'
      ∧ SameLines (c.lines.map (·.toLineAmounts)) (c'.lines.map (·.toLineAmounts)) := by
  simp only [calculateCreditInvoice, bind_eq_ok, throwIf_eq_ok, exists_const,
    pure_eq_ok] at h
  obtain ⟨hlength, capacities, hcapacities, totals, htotals, lines, hlines, ys,
    hreconciled, invoiceTotals, hinvoiceTotals, rfl⟩ := h
  obtain ⟨hvalid, hids, hget⟩ := createCreditLineCapacities_spec hcapacities
  obtain ⟨hwithin, _⟩ := sumPreviousAllocations_within htotals
  -- the earlier credits under the modes and rates of their lines, in both orders
  obtain ⟨prev, hresolves⟩ := exists_resolves hget (fun a ha => by
    obtain ⟨_, capacity, hcapacity, _⟩ := hwithin a ha
    exact ⟨capacity, hcapacity⟩)
  obtain ⟨prev', hresolves', hprev⟩ := List.perm_comp_forall₂ hallocations.symm hresolves
  have hrec := resolves_reconciled hresolves (fun a ha => (hwithin a ha).1)
  have hrec' : ∀ x ∈ prev', Reconciled x := fun x hx => hrec x (hprev.mem_iff.mp hx)
  have hprevMax := gross_le_of_allocated (resolves_mapM hresolves hget) hrec hreconciled
  -- the credited lines, in both orders
  obtain ⟨hunique, _, hlines⟩ := mapUniqueM_eq_ok.mp hlines
  obtain ⟨totals', htotals', hsame⟩ := sumPreviousAllocations_perm hallocations htotals
  obtain ⟨lines', hlines', hlinesPerm⟩ := mapM_perm hrequested hlines
  rw [← creditRequestedLine_congr hsame] at hlines'
  have heach := creditedLines_spec hvalid hget htotals hlines
  have hspec : ∀ x ∈ lines, ∃ l ∈ sourceLines, ∃ q,
      CreditedFrom l (totalFor l.id allocations) q x := by
    intro x hx
    obtain ⟨request, _, _, l, hl, hfrom⟩ := exists_left_of_forall₂ heach hx
    exact ⟨l, hl, request.quantityHundredths, hfrom⟩
  have hinput : ∀ x ∈ lines, 0 ≤ x.inputCents := by
    intro x hx
    obtain ⟨_, _, _, hfrom⟩ := hspec x hx
    exact hfrom.input_nonneg
  have hmodes : OneModePerRate (prev ++ lines.map (·.toLineAmounts)) := by
    refine oneModePerRate_of_source hmode (fun x hx => ?_)
    rcases List.mem_append.mp hx with hx | hx
    · obtain ⟨a, _, l, hl, _, _, rfl⟩ := exists_left_of_forall₂ hresolves hx
      exact ⟨l, hl, rfl, rfl⟩
    · obtain ⟨y, hy, rfl⟩ := List.mem_map.mp hx
      obtain ⟨l, hl, _, hfrom⟩ := hspec y hy
      exact ⟨l, hl, hfrom.rate.symm, hfrom.mode.symm⟩
  have hnodup : (lines.map (·.sourceInvoiceLineId)).Nodup := by
    have hidsOf : lines.map (·.sourceInvoiceLineId)
        = requested.map (·.sourceInvoiceLineId) := by
      rw [← List.forall₂_eq_eq_eq, List.forall₂_map_left_iff, List.forall₂_map_right_iff]
      exact (heach.imp (fun _ _ hx => hx.1)).flip
    exact hidsOf ▸ hunique
  -- the tax was settled in one order, so it has room in the other
  obtain ⟨hsettled, hexhausted⟩ := allocateCurrentTaxByVatRate_spec
    (resolves_mapM hresolves hget) hrec hmodes hinput hnodup hreconciled
  have hpayable := calculateCreditInvoiceTotals_payable hinvoiceTotals
  have hsum := sumOn_input_of_resettles hsettled.each
  have hroom : ∀ x ∈ lines', LeavesRoom prev' x.priceInputMode x.vatRateBasisPoints
      (sumOn (·.inputCents) x.vatRateBasisPoints (lines'.map (·.toLineAmounts))) := by
    intro x hx
    have hmem := hlinesPerm.mem_iff.mpr hx
    obtain ⟨l, hl, _, hfrom⟩ := hspec x hmem
    have hrate : 0 ≤ x.vatRateBasisPoints := by
      rw [hfrom.rate]
      exact (hvalid l hl).rate.1
    obtain ⟨_, hy, hxy⟩ := exists_right_of_forall₂ hsettled.each (List.mem_map_of_mem hmem)
    obtain ⟨y, hys, rfl⟩ := List.mem_map.mp hy
    have hmax := hbound prev hresolves y hys
    rw [hxy.mode, hxy.rate, hsum] at hmax
    have hleaves := hsettled.leavesRoom (List.mem_map_of_mem hmem) hrate hrec
      (fun z hz => by
        obtain ⟨y, hys, rfl⟩ := List.mem_map.mp hz
        exact (hpayable y hys).2)
      hmax (hexhausted x hmem)
    exact leavesRoom_perm hprev.symm (hlinesPerm.map _) hleaves
  have hmodes' : OneModePerRate (prev' ++ lines'.map (·.toLineAmounts)) := by
    have hperm := hprev.append (hlinesPerm.symm.map (·.toLineAmounts))
    exact fun x hx y hy => hmodes x (hperm.mem_iff.mp hx) y (hperm.mem_iff.mp hy)
  obtain ⟨ys', hys', hall', hnonneg', hsettled'⟩ := @allocateCurrentTaxByVatRate_total
    prev' capacities localeCompare lines' allocations' (resolves_mapM hresolves' hget) hrec'
    hmodes' (fun r => by rw [sumOn_perm hprev]; exact hprevMax r)
    (fun x hx => hinput x (hlinesPerm.mem_iff.mpr hx))
    ((hlinesPerm.map (·.sourceInvoiceLineId)).nodup_iff.mp hnodup) hroom
  have hlinesSame : SameLines (lines.map (·.toLineAmounts)) (lines'.map (·.toLineAmounts)) :=
    sameLines_of_perm (hlinesPerm.map _)
  have hsameLines : SameLines (ys.map (·.toLineAmounts)) (ys'.map (·.toLineAmounts)) :=
    (sameLines_of_resettles hsettled.each).symm.trans
      (hlinesSame.trans (sameLines_of_resettles hsettled'.each))
  obtain ⟨invoiceTotals', hinvoiceTotals'⟩ := @calculateCreditInvoiceTotals_total ys'
    (fun y hy => by
      obtain ⟨x, hx, hxy⟩ := exists_left_of_forall₂ hall' hy
      obtain ⟨_, _, _, hfrom⟩ := hspec x (hlinesPerm.mem_iff.mpr hx)
      exact payable_of_credited hfrom hxy (hnonneg' y hy)) (by
      have htotal := hsameLines.sum_eq (fun r =>
        (hsettled.sumOn_eq hsettled' hprev.symm hlinesSame r).2.2)
      have hmax := calculateCreditInvoiceTotals_max hinvoiceTotals
      rw [← htotal, List.map_map] at hmax
      exact hmax)
  refine ⟨⟨ys', invoiceTotals'⟩, ?_, hsameLines⟩
  simp only [calculateCreditInvoice, bind_eq_ok, throwIf_eq_ok, exists_const, pure_eq_ok]
  exact ⟨hrequested.length_eq ▸ hlength, capacities, hcapacities, totals', htotals', lines',
    mapUniqueM_eq_ok.mpr ⟨(hrequested.map _).nodup_iff.mp hunique,
      fun _ _ h => (nomatch h), hlines'⟩, ys', hys', invoiceTotals', hinvoiceTotals', rfl⟩

end CreditInvoice
