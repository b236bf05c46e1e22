import Eky.CreditTaxProofs

/-! # Crediting what is left of the lines of an invoice

    `calculateCreditInvoice_total`: a request is never refused as long as it extends
    the earlier credits of its lines, these took no more than a part of each line,
    and they leave room for the tax of each rate.  `TakenFrom.extends`: a request
    for the rest of a line always extends them.

    Nothing here says where the earlier credits come from; that a history of
    credits satisfies these conditions is proved in `SourceCredits`. -/

namespace CreditInvoice

open Fallible Apportionment OrderedMap InvoiceMoney VatGroups InvoiceCalculation
open VatDistribution

/-- What earlier credits took from a line: a part of it, and all of its input
    amount once its quantity is used up. -/
structure TakenFrom (l : CreditSourceLine) (p : PreviousAllocationTotal) : Prop where
  quantity : 0 ≤ p.quantityHundredths ∧ p.quantityHundredths ≤ l.quantityHundredths
  base : 0 ≤ p.baseCents ∧ p.baseCents ≤ l.baseCents
  input : 0 ≤ p.inputCents l.priceInputMode
    ∧ p.inputCents l.priceInputMode ≤ l.inputCents
  discount : l.inputCents - p.inputCents l.priceInputMode ≤ l.baseCents - p.baseCents
  reconciles : p.baseCents - p.discountCents = p.inputCents l.priceInputMode
  discount_nonneg : 0 ≤ p.discountCents
  exhausted : p.quantityHundredths = l.quantityHundredths →
    p.inputCents l.priceInputMode = l.inputCents

/-- The earlier credit `a` under the mode and rate of its line. -/
def Resolves (sourceLines : List CreditSourceLine) (a : PreviousCreditLineAllocation)
    (x : LineAmounts) : Prop :=
  ∃ l ∈ sourceLines, Creditable l ∧ l.id = a.sourceInvoiceLineId
    ∧ x = ⟨a.quantityHundredths, l.priceInputMode, l.vatRateBasisPoints, a.baseCents,
        a.discountCents, a.netCents, a.vatCents, a.grossCents⟩

variable {l : CreditSourceLine} {p : PreviousAllocationTotal}
  {capacities : OrderedMap String CreditLineCapacity}

section Rest

variable {localeCompare : String → String → Int}
variable {sourceLines : List CreditSourceLine}
variable {allocations : List PreviousCreditLineAllocation} {prev : List LineAmounts}
variable {requested : List RequestedCreditLine} {lines : List CalculatedCreditLine}

/-- What is taken from a line does not exceed its capacity. -/
theorem TakenFrom.within (h : TakenFrom l p) (hl : ValidSourceLine l) :
    ¬ ExceedsCapacity (toCapacity l.vatRateBasisPoints l) p := by
  obtain ⟨⟨_, hquantity⟩, ⟨_, hbase⟩, ⟨hinput, hle⟩, _, hreconciles, hdiscount, _⟩ := h
  have hcapacity : l.baseCents - l.discountCents = l.inputCents := hl.input
  rw [ExceedsCapacity]
  show ¬ (p.quantityHundredths > l.quantityHundredths ∨ p.baseCents > l.baseCents
    ∨ p.discountCents > l.baseCents ∨ p.baseCents - p.discountCents < 0
    ∨ (l.priceInputMode = .net ∧ (p.netCents > l.baseCents - l.discountCents
        ∨ p.baseCents - p.discountCents ≠ p.netCents))
    ∨ (l.priceInputMode = .gross ∧ (p.grossCents > l.baseCents - l.discountCents
        ∨ p.baseCents - p.discountCents ≠ p.grossCents)))
  cases hmode : l.priceInputMode with
  | net =>
      have hnet : p.inputCents l.priceInputMode = p.netCents := by
        rw [hmode]
        rfl
      simp only [reduceCtorEq, false_and, true_and, or_false]
      omega
  | gross =>
      have hgross : p.inputCents l.priceInputMode = p.grossCents := by
        rw [hmode]
        rfl
      simp only [reduceCtorEq, false_and, true_and, false_or]
      omega

theorem resolves_mapM (h : List.Forall₂ (Resolves sourceLines) allocations prev)
    (hget : ∀ id capacity, capacities.get? id = some capacity ↔
      ∃ line ∈ sourceLines, Creditable line ∧ line.id = id
        ∧ capacity = toCapacity line.vatRateBasisPoints line) :
    allocations.mapM (resolveAllocation capacities) = .ok prev := by
  refine mapM_eq_ok.mpr (h.imp fun a x hx => ?_)
  obtain ⟨l, hl, hcreditable, hid, rfl⟩ := hx
  rw [resolveAllocation, bind_eq_ok]
  exact ⟨toCapacity l.vatRateBasisPoints l,
    orThrow_eq_ok.mpr ((hget _ _).mpr ⟨l, hl, hcreditable, hid, rfl⟩), rfl⟩

/-- Every earlier credit of a line with a capacity resolves. -/
theorem exists_resolves (hget : ∀ id capacity, capacities.get? id = some capacity ↔
      ∃ line ∈ sourceLines, Creditable line ∧ line.id = id
        ∧ capacity = toCapacity line.vatRateBasisPoints line)
    (hknown : ∀ a ∈ allocations, ∃ c, capacities.get? a.sourceInvoiceLineId = some c) :
    ∃ prev, List.Forall₂ (Resolves sourceLines) allocations prev := by
  induction allocations with
  | nil => exact ⟨[], List.Forall₂.nil⟩
  | cons a rest ih =>
      obtain ⟨c, hc⟩ := hknown a List.mem_cons_self
      obtain ⟨l, hl, hcreditable, hid, -⟩ := (hget _ _).mp hc
      obtain ⟨prev, hprev⟩ := ih (fun b hb => hknown b (List.mem_cons_of_mem a hb))
      exact ⟨_ :: prev, List.Forall₂.cons ⟨l, hl, hcreditable, hid, rfl⟩ hprev⟩

theorem resolves_reconciled (h : List.Forall₂ (Resolves sourceLines) allocations prev)
    (hvalid : ∀ a ∈ allocations, ValidAllocation a) : ∀ x ∈ prev, Reconciled x := by
  intro x hx
  have hpairs := List.forall₂_iff_zip.mp h
  obtain ⟨a, ha, l, _, _, _, rfl⟩ := exists_left_of_forall₂ h hx
  have hrange := (hvalid a ha).range
  exact ⟨hrange.net.1, hrange.vat.1, (hvalid a ha).reconciles⟩

/-- The mode of a resolved credit or of a credited line is that of a source line
    with its rate. -/
theorem oneModePerRate_of_source
    (hmode : OneModePerRate (sourceLines.map (·.toLineAmounts)))
    {xs : List LineAmounts}
    (h : ∀ x ∈ xs, ∃ l ∈ sourceLines, l.vatRateBasisPoints = x.vatRateBasisPoints
      ∧ l.priceInputMode = x.priceInputMode) : OneModePerRate xs := by
  intro x hx y hy hrate
  obtain ⟨l, hl, hlr, hlm⟩ := h x hx
  obtain ⟨k, hk, hkr, hkm⟩ := h y hy
  rw [← hlm, ← hkm]
  exact hmode _ (List.mem_map_of_mem hl) _ (List.mem_map_of_mem hk)
    (hlr.trans (hrate.trans hkr.symm))

/-- The rest of a line extends what was credited before: the cumulative amounts end
    at the line's own, and the discount that is left is not negative. -/
theorem TakenFrom.extends (h : TakenFrom l p) (hl : ValidSourceLine l) {q : Int} (hq : 0 < q)
    (hfull : p.quantityHundredths + q = l.quantityHundredths) :
    Extends (toCapacity l.vatRateBasisPoints l) p q := by
  have hcapacity : (toCapacity l.vatRateBasisPoints l).discountedInputCents = l.inputCents :=
    hl.input
  have hquantityMax := hl.quantity.2
  have hquantity := h.quantity.1
  have hpos : 0 < l.quantityHundredths := by omega
  refine ⟨⟨⟨by omega, by omega⟩, by omega⟩, ?_, ?_, ?_, ?_⟩
  · show p.quantityHundredths + q ≤ l.quantityHundredths
    omega
  · show p.baseCents ≤ halfUp (l.baseCents * (p.quantityHundredths + q)) l.quantityHundredths
    rw [hfull, halfUp_mul hpos]
    exact h.base.2
  · show p.inputCents l.priceInputMode
      ≤ halfUp (_ * (p.quantityHundredths + q)) l.quantityHundredths
    rw [hcapacity, hfull, halfUp_mul hpos]
    exact h.input.2
  · show halfUp (_ * (p.quantityHundredths + q)) l.quantityHundredths
        - p.inputCents l.priceInputMode
      ≤ halfUp (l.baseCents * (p.quantityHundredths + q)) l.quantityHundredths - p.baseCents
    rw [hcapacity, hfull, halfUp_mul hpos, halfUp_mul hpos]
    exact h.discount

/-- Every request that extends the earlier credits of its line is credited. -/
private theorem creditRequestedLines_total (hvalid : ∀ l ∈ sourceLines, ValidSourceLine l)
    (htaken : ∀ l ∈ sourceLines, TakenFrom l (totalFor l.id allocations))
    (hextends : ∀ request ∈ requested, ∃ l ∈ sourceLines, Creditable l
      ∧ l.id = request.sourceInvoiceLineId
      ∧ Extends (toCapacity l.vatRateBasisPoints l) (totalFor l.id allocations)
        request.quantityHundredths) (hget : ∀ id capacity, capacities.get? id = some capacity ↔
      ∃ line ∈ sourceLines, Creditable line ∧ line.id = id
        ∧ capacity = toCapacity line.vatRateBasisPoints line)
    {totals : OrderedMap String PreviousAllocationTotal}
    (htotals : sumPreviousAllocations allocations capacities = .ok totals) :
    ∀ request ∈ requested, ∃ line, creditRequestedLine capacities totals request = .ok line := by
  intro request hrequest
  obtain ⟨l, hl, hcreditable, hid, hline⟩ := hextends request hrequest
  have hprevious := sumPreviousAllocations_spec htotals request.sourceInvoiceLineId
  rw [← hid] at hprevious
  have ht := htaken l hl
  have hv := hvalid l hl
  have hcapacity : (toCapacity l.vatRateBasisPoints l).discountedInputCents = l.inputCents :=
    hv.input
  have hbase := hv.base
  have hbaseMax := hbase.2
  have hdiscount := hv.discount.1
  have hinput := hv.input
  have htakenInput := ht.input
  refine creditRequestedLine_total (c := toCapacity l.vatRateBasisPoints l)
    ((hget _ _).mpr ⟨l, hl, hcreditable, hid, rfl⟩) (hid ▸ hprevious) hline ht.quantity.1
    hv.quantity.2 ⟨ht.base.1, hbase⟩ ?_
  rw [hcapacity]
  exact ⟨htakenInput.1, by omega, by omega⟩

theorem payable_of_credited {q : Int} {x y : CalculatedCreditLine} (hx : CreditedFrom l p q x)
    (hxy : ResettlesLine x y) (hy : 0 ≤ y.netCents ∧ 0 ≤ y.vatCents) : Payable y := by
  obtain ⟨_, hres⟩ := hxy
  refine ⟨?_, hy.1, hy.2, hres.reconciles⟩
  rw [hres.quantity, hx.quantity]
  exact hx.positive

/-- **AN INVOICE IS CREDITED**: requests that extend the earlier credits of their
    lines are accepted as long as each rate has room for its tax. -/
theorem calculateCreditInvoice_total (hvalid : ∀ l ∈ sourceLines, ValidSourceLine l)
    (hids : (sourceLines.map (·.id)).Nodup)
    (hmode : OneModePerRate (sourceLines.map (·.toLineAmounts)))
    (halloc : ∀ a ∈ allocations, ValidAllocation a)
    (hresolves : List.Forall₂ (Resolves sourceLines) allocations prev)
    (hrange : ∀ id, InRange (totalFor id allocations))
    (htaken : ∀ l ∈ sourceLines, TakenFrom l (totalFor l.id allocations))
    (hprevMax : ∀ r, sumOn (·.grossCents) r prev ≤ maximumSafeInteger)
    (hne : requested ≠ []) (hunique : (requested.map (·.sourceInvoiceLineId)).Nodup)
    (hextends : ∀ request ∈ requested, ∃ l ∈ sourceLines, Creditable l
      ∧ l.id = request.sourceInvoiceLineId
      ∧ Extends (toCapacity l.vatRateBasisPoints l) (totalFor l.id allocations)
        request.quantityHundredths)
    (hroom : ∀ lines : List CalculatedCreditLine, List.Forall₂ (CreditsAsRequested sourceLines allocations) requested lines →
      ∀ x ∈ lines, LeavesRoom prev x.priceInputMode x.vatRateBasisPoints
        (sumOn (·.inputCents) x.vatRateBasisPoints (lines.map (·.toLineAmounts))))
    (hmax : ∀ lines ys : List CalculatedCreditLine, List.Forall₂ (CreditsAsRequested sourceLines allocations) requested lines →
      SettledLines prev (lines.map (·.toLineAmounts)) (ys.map (·.toLineAmounts)) →
      (ys.map (·.grossCents)).sum ≤ maximumSafeInteger) :
    ∃ c, calculateCreditInvoice localeCompare sourceLines allocations requested = .ok c := by
  obtain ⟨capacities, hcapacities⟩ := createCreditLineCapacities_total hvalid hids hmode
  obtain ⟨_, _, hget⟩ := createCreditLineCapacities_spec hcapacities
  -- the earlier credits are summed up
  obtain ⟨totals, htotals⟩ : ∃ totals, sumPreviousAllocations allocations capacities
      = .ok totals := by
    refine sumPreviousAllocations_total (fun a ha => ⟨halloc a ha, ?_⟩) hrange
    obtain ⟨x, _, l, hl, hcreditable, hid, _⟩ := exists_right_of_forall₂ hresolves ha
    exact ⟨_, (hget _ _).mpr ⟨l, hl, hcreditable, hid, rfl⟩,
      hid ▸ (htaken l hl).within (hvalid l hl)⟩
  -- every requested line is credited
  have hcredited := creditRequestedLines_total hvalid htaken hextends hget htotals
  obtain ⟨lines, hlines⟩ := mapM_total hcredited
  have heach : List.Forall₂ (CreditsAsRequested sourceLines allocations) requested lines := by
    refine (mapM_eq_ok.mp hlines).imp (fun request x hx => ?_)
    obtain ⟨capacity, hcapacity, hline⟩ := creditRequestedLine_spec hx
    obtain ⟨l, hl, hcreditable, hid, rfl⟩ := (hget _ _).mp hcapacity
    rw [sumPreviousAllocations_spec htotals, ← hid] at hline
    exact ⟨l, hl, hcreditable, hid, creditedFrom_of_creditedLine (hvalid l hl) hline⟩
  have hknown : ∀ x ∈ lines, ∃ l ∈ sourceLines, l.vatRateBasisPoints = x.vatRateBasisPoints
      ∧ l.priceInputMode = x.priceInputMode := by
    intro x hx
    obtain ⟨request, _, l, hl, _, _, hfrom⟩ := exists_left_of_forall₂ heach hx
    exact ⟨l, hl, hfrom.rate.symm, hfrom.mode.symm⟩
  have hmodes : OneModePerRate (prev ++ lines.map (·.toLineAmounts)) := by
    refine oneModePerRate_of_source hmode (fun x hx => ?_)
    rcases List.mem_append.mp hx with hx | hx
    · obtain ⟨a, _, l, hl, _, _, rfl⟩ := exists_left_of_forall₂ hresolves hx
      exact ⟨l, hl, rfl, rfl⟩
    · obtain ⟨y, hy, rfl⟩ := List.mem_map.mp hx
      exact hknown y hy
  have hnodup : (lines.map (·.sourceInvoiceLineId)).Nodup := by
    have hsame : lines.map (·.sourceInvoiceLineId) = requested.map (·.sourceInvoiceLineId) := by
      clear hlines hcredited hknown hmodes hextends hunique hne hroom hmax
      induction heach with
      | nil => rfl
      | cons hx _ ih =>
          obtain ⟨l, _, _, hid, hfrom⟩ := hx
          rw [List.map_cons, List.map_cons, ih, hfrom.id, hid]
    exact hsame ▸ hunique
  -- the tax of every rate has room
  obtain ⟨ys, hys, hall, hnonneg, hsettled⟩ := @allocateCurrentTaxByVatRate_total
    prev capacities localeCompare lines allocations (resolves_mapM hresolves hget)
    (resolves_reconciled hresolves halloc) hmodes hprevMax (fun x hx => by
      obtain ⟨request, _, l, _, _, _, hfrom⟩ := exists_left_of_forall₂ heach hx
      exact hfrom.input_nonneg) hnodup (hroom lines heach)
  obtain ⟨invoiceTotals, hinvoiceTotals⟩ := calculateCreditInvoiceTotals_total
    (fun y hy => by
      obtain ⟨x, hx, hxy⟩ := exists_left_of_forall₂ hall hy
      obtain ⟨request, _, l, _, _, _, hfrom⟩ := exists_left_of_forall₂ heach hx
      exact payable_of_credited hfrom hxy (hnonneg y hy)) (hmax lines ys heach hsettled)
  refine ⟨⟨ys, invoiceTotals⟩, ?_⟩
  simp only [calculateCreditInvoice, bind_eq_ok, throwIf_eq_ok, exists_const, pure_eq_ok]
  exact ⟨fun hlength => hne (List.eq_nil_of_length_eq_zero hlength), capacities, hcapacities,
    totals, htotals, lines, mapUniqueM_eq_ok.mpr ⟨hunique, fun _ _ h => (nomatch h), hlines⟩,
    ys, hys, invoiceTotals, hinvoiceTotals, rfl⟩

end Rest

end CreditInvoice
