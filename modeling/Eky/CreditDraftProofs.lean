import Eky.CreditDraft
import Eky.CreditTaxProofs

/-! # Credit drafts — capacities, settled rates and totals

    Each function of `CreditDraft` gets two lemmas: what a successful call
    means, and when a call succeeds.

    - `createVatCapacities_spec`: a rate is worth the row that
      `calculateInvoiceTotals` has for it;
    - `requireWithinVatCapacity_spec`: no rate is used beyond its capacity;
    - `reconcileCurrentVat_spec`: every current rate sits on the split of its
      cumulative input, and has something to be credited;
    - `sumCreditTotals_spec`: totals are sums over the lines. -/

namespace CreditDraft

open Fallible Apportionment OrderedMap InvoiceMoney VatGroups InvoiceCalculation
open VatDistribution

theorem rejectsOverflow_exceedsRange : RejectsOverflow exceedsRange :=
  fun _ _ => Iff.rfl

theorem addSafe_eq_ok {a b s : Int} :
    addSafe a b = .ok s ↔ a + b = s ∧ s ≤ maximumSafeInteger := by
  simp only [addSafe, addUnless, bind_eq_ok, throwIf_eq_ok, exists_const, pure_eq_ok]
  constructor
  · rintro ⟨h, rfl⟩
    exact ⟨rfl, Int.not_lt.mp h⟩
  · rintro ⟨rfl, h⟩
    exact ⟨Int.not_lt.mpr h, rfl⟩

theorem subtractSafe_eq_ok {a b s : Int} :
    subtractSafe a b = .ok s ↔ a - b = s ∧ IsAmount s := subtractAmount_eq_ok

variable {used : List LineAmounts} {sums : OrderedMap Int VatCapacity} {u : Unit}
  {a : PreviousCreditAllocation}

theorem requireCreditAmounts_eq_ok {line : LineAmounts} {fieldName : String} :
    requireCreditAmounts line fieldName = .ok u ↔
      IsAmount line.vatRateBasisPoints ∧ IsAmount line.netCents ∧ IsAmount line.vatCents
        ∧ IsAmount line.grossCents ∧ line.netCents + line.vatCents = line.grossCents := by
  simp only [requireCreditAmounts, throwIf_eq_ok, List.mem_cons, List.not_mem_nil, or_false,
    exists_eq_or_imp, exists_eq_left, isAmount_iff]
  tauto

theorem requireIdentifier_eq_ok {value fieldName : String} :
    requireIdentifier value fieldName = .ok u ↔ CreditInvoice.IsIdentifier value :=
  CreditInvoice.requireIdentifier_eq_ok

/-! ## The capacity of a rate -/

/-- What a rate of the invoice is worth: the row of its VAT breakdown. -/
def capacityOf (lines : List LineAmounts) (rate : Int) : VatCapacity :=
  let row := rowOf lines rate
  ⟨modeOn rate lines, row.netCents, row.vatCents, row.grossCents⟩

/-- The capacities of an invoice, one for every rate of its lines. -/
def HoldsCapacities (lines : List LineAmounts) (capacities : OrderedMap Int VatCapacity) :
    Prop :=
  capacities.keys = appearance [] (lines.map (·.vatRateBasisPoints))
    ∧ ∀ rate capacity, capacities.get? rate = some capacity ↔
        (∃ x ∈ lines, x.vatRateBasisPoints = rate) ∧ capacity = capacityOf lines rate

/-- A rate is settled by the split of its input. -/
private theorem settleCapacity_eq_ok {rate : Int} (hr : 0 ≤ rate) {c c' : VatCapacity}
    (hc : 0 ≤ c.inputCents) (hmax : c.inputCents ≤ maximumSafeInteger) :
    settleCapacity rate c = .ok c' ↔
      c' = ⟨c.priceInputMode, netOf c.priceInputMode rate c.inputCents,
        vatOf c.priceInputMode rate c.inputCents,
        grossOf c.priceInputMode rate c.inputCents⟩
      ∧ grossOf c.priceInputMode rate c.inputCents ≤ maximumSafeInteger := by
  obtain ⟨mode, net, vat, gross⟩ := c
  cases mode with
  | net =>
      have hvat : vatOf .net rate net = halfUp (net * rate) 10000 := by
        show net + halfUp (net * rate) 10000 - net = _
        omega
      have hvat0 : 0 ≤ vatOf .net rate net := vatOf_nonneg hr hc
      have hnet : 0 ≤ net := hc
      have hgross : grossOf .net rate net = net + halfUp (net * rate) 10000 := rfl
      simp only [settleCapacity, bind_eq_ok, pure_eq_ok, roundHalfUp_eq_ok, addSafe_eq_ok]
      show _ ↔ c' = ⟨.net, net, vatOf .net rate net, grossOf .net rate net⟩
        ∧ grossOf .net rate net ≤ maximumSafeInteger
      rw [hvat] at hvat0 ⊢
      constructor
      · rintro ⟨_, ⟨_, _, rfl, _⟩, _, ⟨rfl, hmax⟩, rfl⟩
        exact ⟨rfl, hmax⟩
      · rintro ⟨rfl, hmax⟩
        exact ⟨_, ⟨Int.mul_nonneg hnet hr, by omega, rfl, by omega⟩, _, ⟨rfl, hmax⟩, rfl⟩
  | gross =>
      have hvat0 : 0 ≤ vatOf .gross rate gross := vatOf_nonneg hr hc
      have hnet0 : 0 ≤ netOf .gross rate gross := netOf_nonneg hr hc
      have hgross : 0 ≤ gross := hc
      have hsplit : gross - halfUp (gross * 10000) (10000 + rate) = vatOf .gross rate gross :=
        rfl
      have hnet : halfUp (gross * 10000) (10000 + rate) = netOf .gross rate gross := rfl
      simp only [settleCapacity, bind_eq_ok, pure_eq_ok, roundHalfUp_eq_ok,
        subtractSafe_eq_ok]
      show _ ↔ c' = ⟨.gross, netOf .gross rate gross, vatOf .gross rate gross, gross⟩
        ∧ gross ≤ maximumSafeInteger
      constructor
      · rintro ⟨_, ⟨_, _, rfl, _⟩, _, ⟨rfl, _⟩, rfl⟩
        exact ⟨rfl, hmax⟩
      · rintro ⟨rfl, _⟩
        have hle : gross ≤ maximumSafeInteger := hmax
        exact ⟨_, ⟨by omega, by omega, hnet, by omega⟩, _, ⟨rfl, by omega, by omega⟩, rfl⟩

/-- What the lines of an invoice have to satisfy to be credited at all. -/
structure CreditableLines (lines : List LineAmounts) : Prop where
  amounts : ∀ x ∈ lines, IsAmount x.vatRateBasisPoints ∧ IsAmount x.netCents
    ∧ IsAmount x.vatCents ∧ IsAmount x.grossCents
    ∧ x.netCents + x.vatCents = x.grossCents
  mode : OneModePerRate lines

theorem CreditableLines.reconciled {lines : List LineAmounts} (h : CreditableLines lines) :
    ∀ x ∈ lines, Reconciled x := by
  intro x hx
  obtain ⟨_, hnet, hvat, _, hsum⟩ := h.amounts x hx
  exact ⟨hnet.1, hvat.1, hsum⟩

/-- The sums of the first loop, settled, are the capacities of the invoice. -/
private theorem settled_entry {lines : List LineAmounts} (hsums : Collects lines sums)
    (hlines : CreditableLines lines) {rate : Int} {c c' : VatCapacity}
    (hc : sums.get? rate = some c) (hmax : sumOn (·.grossCents) rate lines ≤ maximumSafeInteger) :
    settleCapacity rate c = .ok c' ↔
      c' = capacityOf lines rate
        ∧ (rowOf lines rate).grossCents ≤ maximumSafeInteger := by
  obtain ⟨x, hx, rfl⟩ := hsums.exists_of_get? hc
  have hmode : c.priceInputMode = modeOn x.vatRateBasisPoints lines :=
    ((hsums.mode _ c hc x hx rfl).symm).trans (modeOn_of_mem hlines.mode hx).symm
  obtain ⟨_, _, _, hinput⟩ := hsums.previous x.vatRateBasisPoints c.priceInputMode
    (show c = (sums.get? x.vatRateBasisPoints).getD _ by rw [hc]; rfl)
  have hnonneg : 0 ≤ sumOn (·.inputCents) x.vatRateBasisPoints lines :=
    sumOn_nonneg (fun y hy => (hlines.reconciled y hy).input_nonneg)
  have hle : sumOn (·.inputCents) x.vatRateBasisPoints lines
      ≤ sumOn (·.grossCents) x.vatRateBasisPoints lines :=
    sumOn_le (fun y hy => (hlines.reconciled y hy).input_le_gross)
  rw [settleCapacity_eq_ok (hlines.amounts x hx).1.1 (by omega) (by omega), hinput, hmode]
  rfl

/-- **CAPACITIES**: they exist exactly when the amounts shown on the lines can be
    added up, and then they are the rows of the invoice's VAT breakdown. -/
theorem createVatCapacities_spec {lines : List LineAmounts}
    {capacities : OrderedMap Int VatCapacity}
    (h : createVatCapacities lines = .ok capacities) :
    CreditableLines lines ∧ HoldsCapacities lines capacities
      ∧ ∀ x ∈ lines, sumOn (·.grossCents) x.vatRateBasisPoints lines ≤ maximumSafeInteger := by
  rw [createVatCapacities, bind_eq_ok] at h
  obtain ⟨sums, hsums, hsettled⟩ := h
  obtain ⟨hamounts, hgroup⟩ := groupM_checked.mp hsums
  have hcollects : Collects lines sums := Collects.empty.extend hgroup
  have hlines : CreditableLines lines :=
    ⟨fun x hx => requireCreditAmounts_eq_ok.mp (hamounts x hx), hcollects.oneModePerRate⟩
  have hmax : ∀ x ∈ lines,
      sumOn (·.grossCents) x.vatRateBasisPoints lines ≤ maximumSafeInteger := by
    intro x hx
    obtain ⟨c, hc, _, _, _, hgross⟩ := hcollects.entry hx
    rw [← hgross]
    exact (collected_le rejectsOverflow_exceedsRange
      (fun y hy => (hlines.reconciled y hy).gross_nonneg) hgroup hc).2
  obtain ⟨hkeys, hget⟩ := mapValuesM_spec hsettled
  refine ⟨hlines, ⟨?_, ?_⟩, hmax⟩
  · rw [hkeys, groupM_keys hgroup]
    rfl
  · intro rate capacity
    rw [hget]
    constructor
    · rintro ⟨c, hc, hsettle⟩
      obtain ⟨x, hx, rfl⟩ := hcollects.exists_of_get? hc
      exact ⟨⟨x, hx, rfl⟩, ((settled_entry hcollects hlines hc (hmax x hx)).mp hsettle).1⟩
    · rintro ⟨⟨x, hx, rfl⟩, rfl⟩
      obtain ⟨c, hc, _⟩ := hcollects.entry hx
      have hkey : x.vatRateBasisPoints ∈ capacities.keys := by
        rw [hkeys]
        exact mem_keys.mpr ⟨c, hc⟩
      obtain ⟨c', hc'⟩ := mem_keys.mp hkey
      obtain ⟨c₀, hc₀, hsettle⟩ := (hget _ _).mp hc'
      have hcap := ((settled_entry hcollects hlines hc₀ (hmax x hx)).mp hsettle).1
      exact ⟨c₀, hc₀, hcap ▸ hsettle⟩

/-- What is created is in range. -/
theorem createVatCapacities_max {lines : List LineAmounts}
    {capacities : OrderedMap Int VatCapacity}
    (h : createVatCapacities lines = .ok capacities) (rate : Int) (c : VatCapacity)
    (hc : capacities.get? rate = some c) : c.grossCents ≤ maximumSafeInteger := by
  obtain ⟨hlines, _, hmax⟩ := createVatCapacities_spec h
  rw [createVatCapacities, bind_eq_ok] at h
  obtain ⟨sums, hsums, hsettled⟩ := h
  have hcollects : Collects lines sums := Collects.empty.extend (groupM_checked.mp hsums).2
  obtain ⟨c₀, hc₀, hsettle⟩ := ((mapValuesM_spec hsettled).2 rate c).mp hc
  obtain ⟨x, hx, rfl⟩ := hcollects.exists_of_get? hc₀
  obtain ⟨rfl, hrow⟩ := (settled_entry hcollects hlines hc₀ (hmax x hx)).mp hsettle
  exact hrow

/-- Capacities exist as soon as the sums that are formed for them are in range. -/
theorem createVatCapacities_total {lines : List LineAmounts} (hlines : CreditableLines lines)
    (hmax : ∀ x ∈ lines,
      sumOn (·.grossCents) x.vatRateBasisPoints lines ≤ maximumSafeInteger)
    (hrow : ∀ x ∈ lines,
      (rowOf lines x.vatRateBasisPoints).grossCents ≤ maximumSafeInteger) :
    ∃ capacities, createVatCapacities lines = .ok capacities := by
  obtain ⟨sums, hgroup⟩ : ∃ sums, groupM (·.vatRateBasisPoints)
      (accumulateVat exceedsRange rangeError
        (.credit "Source invoice VAT rate must use one price input mode."))
      OrderedMap.empty lines = .ok sums := by
    refine Collects.empty.total rejectsOverflow_exceedsRange hlines.reconciled hlines.mode ?_
    intro r
    by_cases hr : ∃ x ∈ lines, x.vatRateBasisPoints = r
    · obtain ⟨x, hx, rfl⟩ := hr
      exact hmax x hx
    · rw [List.nil_append, sumOn_of_none (fun x hx hxr => hr ⟨x, hx, hxr⟩)]
      decide
  have hcollects : Collects lines sums := Collects.empty.extend hgroup
  obtain ⟨capacities, hcapacities⟩ := mapValuesM_total (f := settleCapacity) (m := sums) (by
    intro rate c hc
    obtain ⟨x, hx, rfl⟩ := hcollects.exists_of_get? hc
    exact ⟨_, (settled_entry hcollects hlines hc (hmax x hx)).mpr ⟨rfl, hrow x hx⟩⟩)
  refine ⟨capacities, bind_eq_ok.mpr ⟨sums, groupM_checked.mpr ⟨?_, hgroup⟩, hcapacities⟩⟩
  exact fun x hx => requireCreditAmounts_eq_ok.mpr (hlines.amounts x hx)

/-! ## What has been credited of a rate -/

/-- Every rate of the credited lines stays inside its capacity. -/
def WithinCapacities (capacities : OrderedMap Int VatCapacity) (used : List LineAmounts) :
    Prop :=
  ∀ x ∈ used, ∃ capacity, capacities.get? x.vatRateBasisPoints = some capacity
    ∧ capacity.priceInputMode = x.priceInputMode
    ∧ sumOn (·.netCents) x.vatRateBasisPoints used ≤ capacity.netCents
    ∧ sumOn (·.vatCents) x.vatRateBasisPoints used ≤ capacity.vatCents
    ∧ sumOn (·.grossCents) x.vatRateBasisPoints used ≤ capacity.grossCents

section Within

variable {capacities : OrderedMap Int VatCapacity} {prev current : List LineAmounts}

theorem sumPreviousByRate_spec (h : sumPreviousByRate prev = .ok sums) : Collects prev sums :=
  Collects.empty.extend h

private theorem not_exceedsVatCapacity {rate : Int} {used : VatCapacity} :
    ¬ ExceedsVatCapacity capacities rate used ↔
      ∃ capacity, capacities.get? rate = some capacity
        ∧ capacity.priceInputMode = used.priceInputMode
        ∧ used.netCents ≤ capacity.netCents ∧ used.vatCents ≤ capacity.vatCents
        ∧ used.grossCents ≤ capacity.grossCents := by
  rw [ExceedsVatCapacity]
  cases h : capacities.get? rate with
  | none => simp
  | some capacity =>
      simp only [not_or, ne_eq, Decidable.not_not, gt_iff_lt, Int.not_lt, Option.some.injEq,
        exists_eq_left']

/-- The rates of a list of collected lines are within their capacities exactly
    when the entries are. -/
private theorem entries_within (hsums : Collects used sums) :
    (∀ e ∈ sums.entries, ¬ ExceedsVatCapacity capacities e.1 e.2)
      ↔ WithinCapacities capacities used := by
  constructor
  · intro hall x hx
    obtain ⟨c, hc, hmode, hnet, hvat, hgross⟩ := hsums.entry hx
    obtain ⟨capacity, hcap, hcmode, hcnet, hcvat, hcgross⟩ :=
      not_exceedsVatCapacity.mp (hall (x.vatRateBasisPoints, c) (mem_entries.mpr hc))
    exact ⟨capacity, hcap, hcmode.trans hmode, hnet ▸ hcnet, hvat ▸ hcvat, hgross ▸ hcgross⟩
  · rintro hall ⟨rate, c⟩ he
    have hc : sums.get? rate = some c := mem_entries.mp he
    obtain ⟨x, hx, rfl⟩ := hsums.exists_of_get? hc
    obtain ⟨c', hc', hmode, hnet, hvat, hgross⟩ := hsums.entry hx
    obtain ⟨capacity, hcap, hcmode, hcnet, hcvat, hcgross⟩ := hall x hx
    rw [hc] at hc'
    cases hc'
    exact not_exceedsVatCapacity.mpr ⟨capacity, hcap, hcmode.trans hmode.symm,
      hnet ▸ hcnet, hvat ▸ hcvat, hgross ▸ hcgross⟩

theorem sumPreviousByRate_total (hrec : ∀ x ∈ prev, Reconciled x) (hmode : OneModePerRate prev)
    (hmax : ∀ r, sumOn (·.grossCents) r prev ≤ maximumSafeInteger) :
    ∃ sums, sumPreviousByRate prev = .ok sums :=
  Collects.empty.total rejectsOverflow_exceedsRange hrec hmode hmax

theorem WithinCapacities.oneModePerRate (h : WithinCapacities capacities used) :
    OneModePerRate used := by
  intro x hx y hy hr
  obtain ⟨c, hc, hcx, _⟩ := h x hx
  obtain ⟨c', hc', hcy, _⟩ := h y hy
  rw [hr, hc'] at hc
  cases hc
  exact hcx.symm.trans hcy

theorem WithinCapacities.gross_le (h : WithinCapacities capacities used)
    (hmax : ∀ rate c, capacities.get? rate = some c → c.grossCents ≤ maximumSafeInteger) (r : Int) :
    sumOn (·.grossCents) r used ≤ maximumSafeInteger := by
  by_cases hr : ∃ x ∈ used, x.vatRateBasisPoints = r
  · obtain ⟨x, hx, rfl⟩ := hr
    obtain ⟨c, hc, _, _, _, hle⟩ := h x hx
    exact Int.le_trans hle (hmax _ c hc)
  · rw [sumOn_of_none (fun x hx hxr => hr ⟨x, hx, hxr⟩)]
    decide

theorem requireWithinVatCapacity_spec
    (h : requireWithinVatCapacity prev current capacities = .ok u) :
    OneModePerRate (prev ++ current) ∧ WithinCapacities capacities (prev ++ current) := by
  simp only [requireWithinVatCapacity, bind_eq_ok] at h
  obtain ⟨previousByRate, hprev, usedByRate, hused, hentries⟩ := h
  have hcollects : Collects (prev ++ current) usedByRate :=
    (sumPreviousByRate_spec hprev).extend hused
  refine ⟨hcollects.oneModePerRate, (entries_within hcollects).mp ?_⟩
  exact fun e he => throwIf_eq_ok.mp (forM_eq_ok.mp hentries e he)

/-- Lines within the capacities pass the check. -/
theorem requireWithinVatCapacity_total (hrec : ∀ x ∈ prev ++ current, Reconciled x)
    (hwithin : WithinCapacities capacities (prev ++ current))
    (hmax : ∀ rate c, capacities.get? rate = some c → c.grossCents ≤ maximumSafeInteger) :
    requireWithinVatCapacity prev current capacities = .ok () := by
  have hmode := hwithin.oneModePerRate
  have hgross := hwithin.gross_le hmax
  have hrecPrev : ∀ x ∈ prev, Reconciled x := fun x hx => hrec x (List.mem_append_left _ hx)
  have hgrossPrev : ∀ r, sumOn (·.grossCents) r prev ≤ maximumSafeInteger := by
    intro r
    have hcurrent : 0 ≤ sumOn (·.grossCents) r current :=
      sumOn_nonneg (fun x hx => (hrec x (List.mem_append_right _ hx)).gross_nonneg)
    have hall := hgross r
    rw [sumOn_append] at hall
    omega
  have hmodePrev : OneModePerRate prev :=
    fun x hx y hy => hmode x (List.mem_append_left _ hx) y (List.mem_append_left _ hy)
  obtain ⟨previousByRate, hprev⟩ := sumPreviousByRate_total hrecPrev hmodePrev hgrossPrev
  have hcollects := sumPreviousByRate_spec hprev
  obtain ⟨usedByRate, hused⟩ : ∃ m, groupM (·.vatRateBasisPoints)
      (accumulateVat exceedsRange rangeError oneModeError) previousByRate current = .ok m :=
    hcollects.total rejectsOverflow_exceedsRange hrec hmode hgross
  have hentries := (entries_within (hcollects.extend hused)).mpr hwithin
  simp only [requireWithinVatCapacity, bind_eq_ok]
  exact ⟨_, hprev, _, hused, forM_eq_ok.mpr (fun e he => throwIf_of_not (hentries e he))⟩

end Within

/-! ## Earlier credits -/

/-- An earlier credit that `validatePreviousAllocation` lets through. -/
structure ValidAllocation (sourceLines : List CreditInvoice.CreditSourceLine)
    (a : PreviousCreditAllocation) : Prop where
  quantity : IsAmount a.quantityHundredths ∧ a.quantityHundredths ≠ 0
  rate : IsAmount a.vatRateBasisPoints
  base : IsAmount a.baseCents
  discount : 0 ≤ a.discountCents ∧ a.discountCents ≤ a.baseCents
  reconciled : Reconciled a.toLineAmounts
  gross_le : a.grossCents ≤ maximumSafeInteger
  known : ∃ x ∈ sourceLines, x.vatRateBasisPoints = a.vatRateBasisPoints
    ∧ x.priceInputMode = a.priceInputMode
  source : ∀ id, a.sourceInvoiceLineId = some id → ∃ x ∈ sourceLines, x.id = id
    ∧ x.vatRateBasisPoints = a.vatRateBasisPoints ∧ x.priceInputMode = a.priceInputMode

/-- The amounts of a validated allocation reconcile. -/
theorem validatePreviousAllocation_reconciled
    {sourceById : OrderedMap String CreditInvoice.CreditSourceLine}
    {capacities : OrderedMap Int VatCapacity}
    (h : validatePreviousAllocation sourceById capacities a = .ok u) :
    Reconciled a.toLineAmounts := by
  simp only [validatePreviousAllocation, bind_eq_ok, throwIf_eq_ok, exists_const,
    requireCreditAmounts_eq_ok] at h
  obtain ⟨_, ⟨_, hnet, hvat, _, hsum⟩, _⟩ := h
  exact ⟨hnet.1, hvat.1, hsum⟩

/-- The source line of a validated allocation has its mode and rate. -/
theorem validatePreviousAllocation_source {sourceLines : List CreditInvoice.CreditSourceLine}
    {capacities : OrderedMap Int VatCapacity}
    (h : validatePreviousAllocation (ofList (sourceLines.map fun line => (line.id, line)))
      capacities a = .ok u) {id : String} (hid : a.sourceInvoiceLineId = some id) :
    ∃ l ∈ sourceLines, l.id = id ∧ l.priceInputMode = a.priceInputMode
      ∧ l.vatRateBasisPoints = a.vatRateBasisPoints := by
  simp only [validatePreviousAllocation, bind_eq_ok, throwIf_eq_ok, exists_const] at h
  obtain ⟨_, _, _, _, hsource⟩ := h
  obtain ⟨l, hget, hmode, hrate⟩ : ∃ l ∈ (ofList (sourceLines.map fun line =>
      (line.id, line))).get? id, l.priceInputMode = a.priceInputMode
        ∧ l.vatRateBasisPoints = a.vatRateBasisPoints := by
    by_contra hnone
    refine hsource ⟨id, hid, fun l hl => ?_⟩
    by_contra hboth
    exact hnone ⟨l, hl, by rwa [not_or, Decidable.not_not, Decidable.not_not] at hboth⟩
  obtain ⟨l', hl, heq⟩ := List.mem_map.mp (mem_of_get?_ofList hget)
  obtain ⟨hid', rfl⟩ := Prod.mk.inj heq
  exact ⟨l', hl, hid', hmode, hrate⟩

theorem validatePreviousAllocation_total {sourceLines : List CreditInvoice.CreditSourceLine}
    (hids : (sourceLines.map (·.id)).Nodup) {capacities : OrderedMap Int VatCapacity}
    (hcap : HoldsCapacities (sourceLines.map (·.toLineAmounts)) capacities)
    (hmode : OneModePerRate (sourceLines.map (·.toLineAmounts)))
    (ha : ValidAllocation sourceLines a) :
    validatePreviousAllocation (ofList (sourceLines.map fun line => (line.id, line)))
      capacities a = .ok () := by
  have hget : ∀ x ∈ sourceLines,
      (ofList (sourceLines.map fun line => (line.id, line))).get? x.id = some x := by
    intro x hx
    refine (get?_ofList ?_).mpr (List.mem_map_of_mem hx)
    intro p hp q hq hpq
    obtain ⟨y, hy, rfl⟩ := List.mem_map.mp hp
    obtain ⟨z, hz, rfl⟩ := List.mem_map.mp hq
    exact List.inj_on_of_nodup_map hids hy hz hpq
  obtain ⟨⟨hq, hq0⟩, hrate, hbase, hdiscount, ⟨hnet, hvat, hsum⟩, hgross, hknown, hsource⟩ := ha
  simp only [validatePreviousAllocation, bind_eq_ok, throwIf_eq_ok, exists_const,
    requireCreditAmounts_eq_ok]
  refine ⟨?_, ⟨hrate, ⟨hnet, by omega⟩, ⟨hvat, by omega⟩, ⟨by omega, hgross⟩, hsum⟩, ?_, ?_⟩
  · simp only [IsAmount] at hq hbase
    simp only [IsSafeInteger]
    have hmin : 0 ≤ maximumSafeInteger := by decide
    omega
  · intro hall
    obtain ⟨x, hx, hxr, hxm⟩ := hknown
    have hmem : x.toLineAmounts ∈ sourceLines.map (·.toLineAmounts) := List.mem_map_of_mem hx
    have hc := (hcap.2 a.vatRateBasisPoints _).mpr ⟨⟨_, hmem, hxr⟩, rfl⟩
    refine hall _ hc ?_
    show modeOn a.vatRateBasisPoints _ = _
    rw [← hxr, modeOn_of_mem hmode hmem, hxm]
  · rintro ⟨id, hid, hall⟩
    obtain ⟨x, hx, rfl, hxr, hxm⟩ := hsource id hid
    rcases hall x (hget x hx) with hne | hne
    · exact hne hxm
    · exact hne hxr

/-! ## Manual lines -/

/-- What an accepted manual line looks like. -/
theorem calculateManualLine_spec {lines : List LineAmounts}
    {capacities : OrderedMap Int VatCapacity} (hcap : HoldsCapacities lines capacities)
    {request : RequestedManualCreditLine} {line : CalculatedNormalCreditDraftLine}
    (h : calculateManualLine capacities request = .ok line) :
    CreditInvoice.IsIdentifier request.lineKey ∧ Priced line.toLineAmounts
      ∧ line.grossCents ≠ 0 ∧ line.sourceInvoiceLineId = none
      ∧ line.lineKey = request.lineKey
      ∧ line.quantityHundredths = request.quantityHundredths
      ∧ line.unitPriceCents = some request.unitPriceCents
      ∧ line.vatRateBasisPoints = request.vatRateBasisPoints
      ∧ ∃ x ∈ lines, x.vatRateBasisPoints = line.vatRateBasisPoints
        ∧ line.priceInputMode = modeOn line.vatRateBasisPoints lines := by
  simp only [calculateManualLine, bind_eq_ok, orThrow_eq_ok, throwIf_eq_ok, exists_const,
    requireIdentifier_eq_ok, pure_eq_ok] at h
  obtain ⟨hkey, capacity, hget, calculated, hcalculated, hgross, rfl⟩ := h
  obtain ⟨hpriced, hquantity, hmode, hrate, _, _⟩ := calculateInvoiceLine_spec hcalculated
  obtain ⟨⟨x, hx, hxr⟩, rfl⟩ := (hcap.2 _ _).mp hget
  refine ⟨hkey, hpriced, hgross, rfl, rfl, hquantity, rfl, hrate, x, hx, ?_, ?_⟩
  · exact hxr.trans hrate.symm
  · show calculated.priceInputMode = modeOn calculated.vatRateBasisPoints lines
    rw [hmode, hrate]
    rfl

/-! ## The VAT of the current lines -/

/-- `y` is the draft line `x` with its tax settled. -/
structure ResettlesLine (x y : CalculatedNormalCreditDraftLine) : Prop where
  key : y.lineKey = x.lineKey
  source : y.sourceInvoiceLineId = x.sourceInvoiceLineId
  unitPrice : y.unitPriceCents = x.unitPriceCents
  amounts : Resettles x.toLineAmounts y.toLineAmounts

theorem ResettlesLine.refl {x : CalculatedNormalCreditDraftLine}
    (h : x.netCents + x.vatCents = x.grossCents) : ResettlesLine x x :=
  ⟨rfl, rfl, rfl, rfl, rfl, rfl, rfl, rfl, rfl, h⟩

theorem ResettlesLine.trans {x y z : CalculatedNormalCreditDraftLine}
    (hxy : ResettlesLine x y) (hyz : ResettlesLine y z) : ResettlesLine x z where
  key := hyz.key.trans hxy.key
  source := hyz.source.trans hxy.source
  unitPrice := hyz.unitPrice.trans hxy.unitPrice
  amounts := {
    quantity := hyz.amounts.quantity.trans hxy.amounts.quantity
    mode := hyz.amounts.mode.trans hxy.amounts.mode
    rate := hyz.amounts.rate.trans hxy.amounts.rate
    base := hyz.amounts.base.trans hxy.amounts.base
    discount := hyz.amounts.discount.trans hxy.amounts.discount
    input := hyz.amounts.input.trans hxy.amounts.input
    reconciles := hyz.amounts.reconciles }

theorem resettles_of_lines {xs ys : List CalculatedNormalCreditDraftLine}
    (h : List.Forall₂ ResettlesLine xs ys) :
    List.Forall₂ Resettles (xs.map (·.toLineAmounts)) (ys.map (·.toLineAmounts)) := by
  rw [List.forall₂_map_left_iff, List.forall₂_map_right_iff]
  exact h.imp (fun _ _ h => h.amounts)

/-- Writing the settled amounts of a rate back changes the lines of that rate and
    no others. -/
private theorem replaceOnRate_spec {rate : Int}
    {lines : List CalculatedNormalCreditDraftLine} {settled : List LineAmounts}
    (hlines : ∀ x ∈ lines, x.netCents + x.vatCents = x.grossCents)
    (h : List.Forall₂ Resettles (onRate rate (lines.map (·.toLineAmounts))) settled) :
    List.Forall₂ ResettlesLine lines (replaceOnRate rate lines settled)
      ∧ onRate rate ((replaceOnRate rate lines settled).map (·.toLineAmounts)) = settled
      ∧ ∀ r, r ≠ rate → onRate r ((replaceOnRate rate lines settled).map (·.toLineAmounts))
          = onRate r (lines.map (·.toLineAmounts)) := by
  induction lines generalizing settled with
  | nil =>
      cases h with
      | nil => exact ⟨List.Forall₂.nil, rfl, fun _ _ => rfl⟩
  | cons line rest ih =>
      have hline := hlines line List.mem_cons_self
      have hrest : ∀ x ∈ rest, x.netCents + x.vatCents = x.grossCents :=
        fun x hx => hlines x (List.mem_cons_of_mem line hx)
      by_cases hr : line.vatRateBasisPoints = rate
      · subst hr
        rw [List.map_cons, onRate, withKey_cons_self] at h
        cases h with
        | @cons _ amounts _ settled hamounts hsettled =>
            obtain ⟨hall, hon, hother⟩ := ih hrest hsettled
            rw [replaceOnRate, if_pos rfl]
            refine ⟨List.Forall₂.cons ⟨rfl, rfl, rfl, hamounts⟩ hall, ?_, ?_⟩
            · have hrate : amounts.vatRateBasisPoints = line.vatRateBasisPoints :=
                hamounts.rate
              rw [List.map_cons, ← hrate, onRate, withKey_cons_self]
              exact congrArg (amounts :: ·) (hrate ▸ hon)
            · intro r hne
              have hrate : amounts.vatRateBasisPoints ≠ r :=
                fun h => hne (h.symm.trans hamounts.rate)
              rw [List.map_cons, List.map_cons, onRate, onRate, withKey_cons_ne hrate,
                withKey_cons_ne (fun h => hne h.symm)]
              exact hother r hne
      · rw [List.map_cons, onRate, withKey_cons_ne hr] at h
        cases settled with
        | nil =>
            rw [replaceOnRate]
            have hempty : withKey (·.vatRateBasisPoints) rate
                (rest.map (·.toLineAmounts)) = [] := List.forall₂_nil_right_iff.mp h
            refine ⟨List.forall₂_same.mpr (fun x hx => ResettlesLine.refl (hlines x hx)), ?_,
              fun _ _ => rfl⟩
            rw [List.map_cons, onRate, withKey_cons_ne hr, hempty]
        | cons amounts settled =>
            obtain ⟨hall, hon, hother⟩ := ih hrest h
            rw [replaceOnRate, if_neg hr]
            refine ⟨List.Forall₂.cons (ResettlesLine.refl hline) hall, ?_, ?_⟩
            · rw [List.map_cons, onRate, withKey_cons_ne hr]
              exact hon
            · intro r hne
              by_cases hr' : line.vatRateBasisPoints = r
              · subst hr'
                rw [List.map_cons, List.map_cons, onRate, onRate, withKey_cons_self,
                  withKey_cons_self]
                exact congrArg (_ :: ·) (hother _ hne)
              · rw [List.map_cons, List.map_cons, onRate, onRate, withKey_cons_ne hr',
                  withKey_cons_ne hr']
                exact hother r hne

theorem mem_replaceOnRate {rate : Int}
    {lines : List CalculatedNormalCreditDraftLine} {settled : List LineAmounts}
    {y : CalculatedNormalCreditDraftLine} (hy : y ∈ replaceOnRate rate lines settled) :
    y ∈ lines ∨ y.toLineAmounts ∈ settled := by
  induction lines generalizing settled with
  | nil => exact nomatch hy
  | cons line rest ih =>
      cases settled with
      | nil => exact Or.inl hy
      | cons amounts settled =>
          rw [replaceOnRate] at hy
          split at hy
          · rcases List.mem_cons.mp hy with rfl | hy
            · exact Or.inr List.mem_cons_self
            · exact (ih hy).imp (List.mem_cons_of_mem _) (List.mem_cons_of_mem _)
          · rcases List.mem_cons.mp hy with rfl | hy
            · exact Or.inl List.mem_cons_self
            · exact (ih hy).imp (List.mem_cons_of_mem _) id

/-- A distribution over the current lines needs a positive weight. -/
private theorem distributeAmount_pos {t : Int} {ws out : List Int} (hws : ∀ w ∈ ws, 0 ≤ w)
    (h : distributeAmount t ws = .ok out) :
    0 < ws.sum ∧ out.length = ws.length ∧ out.sum = t := by
  have hsumM := @sumM_eq_ok exceedsRange _ rangeError rejectsOverflow_exceedsRange Int
    (fun w => w) ws hws 0
  have hspec := distributeAmount_spec rejectsOverflow_exceedsRange
    (fun a ws out _ hzero => by cases (show (Except.error _ : Checked _) = .ok out from hzero))
    hws h
  refine ⟨?_, hspec⟩
  rw [distributeAmount, VatDistribution.distributeAmount, bind_eq_ok] at h
  obtain ⟨totalWeight, hweight, h⟩ := h
  obtain ⟨hsum, _⟩ := (hsumM isAmount_zero).mp hweight
  rw [List.map_id', Int.zero_add] at hsum
  subst hsum
  split at h
  · cases h
  · next hne =>
    have hnonneg : 0 ≤ ws.sum := List.sum_nonneg hws
    omega

section Reconciling

variable {prev : List LineAmounts} {previousByRate : OrderedMap Int VatCapacity}
variable {lines result result' : List CalculatedNormalCreditDraftLine} {rate : Int}

/-- What the round of a rate leaves. -/
private theorem reconcileRate_spec (hprev : Collects prev previousByRate)
    (hprevRec : ∀ x ∈ prev, Reconciled x) (hlines : ∀ x ∈ lines, 0 ≤ x.inputCents)
    (hresult : ∀ x ∈ result, x.netCents + x.vatCents = x.grossCents)
    (hsame : onRate rate (result.map (·.toLineAmounts))
      = onRate rate (lines.map (·.toLineAmounts)))
    (h : reconcileRate previousByRate lines result rate = .ok result') :
    List.Forall₂ ResettlesLine result result'
      ∧ (∀ r, r ≠ rate → onRate r (result'.map (·.toLineAmounts))
          = onRate r (result.map (·.toLineAmounts)))
      ∧ (∀ x ∈ lines, x.vatRateBasisPoints = rate →
          sumOn (·.netCents) rate prev + sumOn (·.netCents) rate (result'.map (·.toLineAmounts))
              = netOf x.priceInputMode rate (sumOn (·.inputCents) rate prev
                + sumOn (·.inputCents) rate (lines.map (·.toLineAmounts)))
            ∧ sumOn (·.grossCents) rate prev
                + sumOn (·.grossCents) rate (result'.map (·.toLineAmounts))
              = grossOf x.priceInputMode rate (sumOn (·.inputCents) rate prev
                + sumOn (·.inputCents) rate (lines.map (·.toLineAmounts))))
      ∧ 0 < sumOn (·.inputCents) rate (lines.map (·.toLineAmounts)) := by
  rw [reconcileRate] at h
  split at h
  · exact nomatch h
  next first rest hcurrent =>
    rw [← hcurrent] at h
    simp only [bind_eq_ok, throwIf_eq_ok, exists_const, pure_eq_ok] at h
    obtain ⟨hmodes, hprevMode, settled, hsettled, rfl⟩ := h
    have hmode : ∀ x ∈ onRate rate (lines.map (·.toLineAmounts)),
        x.priceInputMode = first.priceInputMode := by
      intro x hx
      by_contra hne
      exact hmodes ⟨x, hx, hne⟩
    have hinput : ∀ x ∈ onRate rate (lines.map (·.toLineAmounts)), 0 ≤ x.inputCents := by
      intro x hx
      obtain ⟨l, hl, rfl⟩ := List.mem_map.mp (mem_onRate.mp hx).1
      exact hlines l hl
    have hweights : ∀ w ∈ (onRate rate (lines.map (·.toLineAmounts))).map (·.inputCents),
        0 ≤ w := by
      intro w hw
      obtain ⟨x, hx, rfl⟩ := List.mem_map.mp hw
      exact hinput x hx
    set previous := (previousByRate.get? rate).getD ⟨first.priceInputMode, 0, 0, 0⟩
      with hprevious
    obtain ⟨hnet, hvat, hgross, hprevInput⟩ := hprev.previous rate _ hprevious
    have hspec := reconcileVatRate_spec
      (fun t ws out hws hout => (distributeAmount_pos hws hout).2)
      (Decidable.not_not.mp hprevMode) (by rw [hnet, hvat, hgross, sumOn_gross hprevRec])
      hmode hinput hsettled
    obtain ⟨t, out, hout⟩ := reconcileVatRate_distributes hmode hsettled
    obtain ⟨hall, hon, hother⟩ := replaceOnRate_spec hresult (hsame ▸ hspec.each)
    refine ⟨hall, hother, ?_, (distributeAmount_pos hweights hout).1⟩
    intro x hx hr
    have hxmode : x.priceInputMode = first.priceInputMode :=
      hmode x.toLineAmounts (mem_onRate.mpr ⟨List.mem_map_of_mem hx, hr⟩)
    have hnetSum := hspec.net
    have hgrossSum := hspec.gross
    rw [hnet, hprevInput, ← hon] at hnetSum
    rw [hgross, hprevInput, ← hon] at hgrossSum
    rw [hxmode]
    exact ⟨hnetSum, hgrossSum⟩

/-- The loop over the rates: what is left to settle is untouched, what has been
    settled stays settled. -/
private theorem reconcileRates_spec (hprev : Collects prev previousByRate)
    (hprevRec : ∀ x ∈ prev, Reconciled x) (hlines : ∀ x ∈ lines, 0 ≤ x.inputCents)
    {rates : List Int} (hrates : rates.Nodup)
    (hresult : ∀ x ∈ result, x.netCents + x.vatCents = x.grossCents)
    (hsame : ∀ r ∈ rates, onRate r (result.map (·.toLineAmounts))
      = onRate r (lines.map (·.toLineAmounts)))
    (h : rates.foldlM (reconcileRate previousByRate lines) result = .ok result') :
    List.Forall₂ ResettlesLine result result'
      ∧ (∀ r, r ∉ rates → onRate r (result'.map (·.toLineAmounts))
          = onRate r (result.map (·.toLineAmounts)))
      ∧ (∀ x ∈ lines, x.vatRateBasisPoints ∈ rates →
          sumOn (·.netCents) x.vatRateBasisPoints prev
              + sumOn (·.netCents) x.vatRateBasisPoints (result'.map (·.toLineAmounts))
              = netOf x.priceInputMode x.vatRateBasisPoints
                (sumOn (·.inputCents) x.vatRateBasisPoints prev
                + sumOn (·.inputCents) x.vatRateBasisPoints (lines.map (·.toLineAmounts)))
            ∧ sumOn (·.grossCents) x.vatRateBasisPoints prev
                + sumOn (·.grossCents) x.vatRateBasisPoints (result'.map (·.toLineAmounts))
              = grossOf x.priceInputMode x.vatRateBasisPoints
                (sumOn (·.inputCents) x.vatRateBasisPoints prev
                + sumOn (·.inputCents) x.vatRateBasisPoints (lines.map (·.toLineAmounts)))
            ∧ 0 < sumOn (·.inputCents) x.vatRateBasisPoints
                (lines.map (·.toLineAmounts))) := by
  induction rates generalizing result with
  | nil =>
      have hr : result = result' := pure_eq_ok.mp h
      subst hr
      exact ⟨List.forall₂_same.mpr (fun x hx => ResettlesLine.refl (hresult x hx)),
        fun _ _ => rfl, fun _ _ hmem => (nomatch hmem)⟩
  | cons r rest ih =>
      rw [List.nodup_cons] at hrates
      rw [List.foldlM_cons, bind_eq_ok] at h
      obtain ⟨result₁, hstep, hrest⟩ := h
      obtain ⟨hall, hother, hsum, hpos⟩ := reconcileRate_spec hprev hprevRec hlines hresult
        (hsame r List.mem_cons_self) hstep
      have hne : ∀ r' ∈ rest, r' ≠ r := fun r' hr' heq => hrates.1 (heq ▸ hr')
      obtain ⟨hall', hother', hsum'⟩ := ih hrates.2 (by
          intro x hx
          obtain ⟨y, _, hy⟩ := exists_left_of_forall₂ hall hx
          exact hy.amounts.reconciles)
        (fun r' hr' => (hother r' (hne r' hr')).trans
          (hsame r' (List.mem_cons_of_mem r hr'))) hrest
      refine ⟨forall₂_comp (T := ResettlesLine) (fun _ _ _ h h' => h.trans h') hall hall',
        ?_, ?_⟩
      · intro r' hr'
        rw [List.mem_cons, not_or] at hr'
        rw [hother' r' hr'.2, hother r' hr'.1]
      · intro x hx hmem
        rcases List.mem_cons.mp hmem with hr | hmem
        · obtain ⟨hnet, hgross⟩ := hsum x hx hr
          -- the later rounds leave this rate alone
          have hlater : ∀ f : LineAmounts → Int, sumOn f r (result'.map (·.toLineAmounts))
              = sumOn f r (result₁.map (·.toLineAmounts)) :=
            fun f => by rw [sumOn, sumOn, hother' r hrates.1]
          rw [hr, hlater, hlater]
          exact ⟨hnet, hgross, hpos⟩
        · exact hsum' x hx hmem

/-- **SETTLED RATES**: every rate of the current lines sits on the split of its
    cumulative input, and has a positive input of its own. -/
theorem reconcileCurrentVat_spec (hprevRec : ∀ x ∈ prev, Reconciled x)
    (hlines : ∀ x ∈ lines, Reconciled x.toLineAmounts)
    (h : reconcileCurrentVat lines prev = .ok result) :
    List.Forall₂ ResettlesLine lines result
      ∧ SettledLines prev (lines.map (·.toLineAmounts)) (result.map (·.toLineAmounts))
      ∧ ∀ x ∈ lines,
          0 < sumOn (·.inputCents) x.vatRateBasisPoints (lines.map (·.toLineAmounts)) := by
  rw [reconcileCurrentVat, bind_eq_ok] at h
  obtain ⟨previousByRate, hprev, h⟩ := h
  obtain ⟨hall, _, hsums⟩ := reconcileRates_spec (sumPreviousByRate_spec hprev) hprevRec
    (fun x hx => (hlines x hx).input_nonneg) (nodup_appearance List.nodup_nil)
    (fun x hx => (hlines x hx).2.2) (fun _ _ => rfl) h
  have hmem : ∀ x ∈ lines,
      x.vatRateBasisPoints ∈ appearance [] (lines.map (·.vatRateBasisPoints)) :=
    fun x hx => mem_appearance.mpr (Or.inr (List.mem_map_of_mem hx))
  refine ⟨hall, ⟨resettles_of_lines hall, ?_, ?_⟩, ?_⟩
  · intro a ha
    obtain ⟨x, hx, rfl⟩ := List.mem_map.mp ha
    exact (hsums x hx (hmem x hx)).1
  · intro a ha
    obtain ⟨x, hx, rfl⟩ := List.mem_map.mp ha
    exact (hsums x hx (hmem x hx)).2.1
  · exact fun x hx => (hsums x hx (hmem x hx)).2.2

end Reconciling

end CreditDraft
