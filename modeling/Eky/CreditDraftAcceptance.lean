import Eky.CreditDraftProofs

/-! # Credit drafts — when a draft is accepted

    - `reconcileCurrentVat_total`: the tax of the current lines can be settled
      when the earlier credits leave room for it and every current rate has a
      positive input;
    - `sumCreditTotals_spec`, `calculateRemainingCreditTotals_total`: the two
      kinds of totals in closed form;
    - `calculateCreditInvoiceDraft_spec`: everything an accepted draft says. -/

namespace CreditDraft

open Fallible Apportionment OrderedMap InvoiceMoney VatGroups InvoiceCalculation
open VatDistribution

section Reconciling

variable {prev : List LineAmounts} {previousByRate : OrderedMap Int VatCapacity}
variable {lines result : List CalculatedNormalCreditDraftLine}

/-- What the round of a rate needs to get through: room for a positive input. -/
structure Settleable (prev : List LineAmounts)
    (lines : List CalculatedNormalCreditDraftLine) (x : CalculatedNormalCreditDraftLine) :
    Prop where
  positive : 0 < sumOn (·.inputCents) x.vatRateBasisPoints (lines.map (·.toLineAmounts))
  room : LeavesRoom prev x.priceInputMode x.vatRateBasisPoints
    (sumOn (·.inputCents) x.vatRateBasisPoints (lines.map (·.toLineAmounts)))

/-- The lines of one rate can be settled. -/
private theorem reconcileRate_total (hprev : Collects prev previousByRate)
    (hprevRec : ∀ x ∈ prev, Reconciled x)
    (hlines : ∀ x ∈ lines, Reconciled x.toLineAmounts)
    (hmode : OneModePerRate (prev ++ lines.map (·.toLineAmounts)))
    {x : CalculatedNormalCreditDraftLine} (hx : x ∈ lines) (hready : Settleable prev lines x)
    (hresult : ∀ y ∈ result, 0 ≤ y.netCents ∧ 0 ≤ y.vatCents) :
    ∃ result', reconcileRate previousByRate lines result x.vatRateBasisPoints = .ok result'
      ∧ ∀ y ∈ result', 0 ≤ y.netCents ∧ 0 ≤ y.vatCents := by
  set rate := x.vatRateBasisPoints
  set current := onRate rate (lines.map (·.toLineAmounts)) with hcurrent
  have hxmem : x.toLineAmounts ∈ current := mem_onRate.mpr ⟨List.mem_map_of_mem hx, rfl⟩
  have hcurrentMode : ∀ y ∈ current, y.priceInputMode = x.priceInputMode := by
    intro y hy
    obtain ⟨hy, hyr⟩ := mem_onRate.mp hy
    exact hmode y (List.mem_append_right _ hy) x.toLineAmounts
      (List.mem_append_right _ (List.mem_map_of_mem hx)) hyr
  have hcurrentInput : ∀ y ∈ current, 0 ≤ y.inputCents := by
    intro y hy
    obtain ⟨l, hl, rfl⟩ := List.mem_map.mp (mem_onRate.mp hy).1
    exact (hlines l hl).input_nonneg
  have hweights : ∀ w ∈ current.map (·.inputCents), 0 ≤ w := by
    intro w hw
    obtain ⟨y, hy, rfl⟩ := List.mem_map.mp hw
    exact hcurrentInput y hy
  set previous := (previousByRate.get? rate).getD ⟨x.priceInputMode, 0, 0, 0⟩
    with hprevious
  obtain ⟨hpnet, hpvat, hpgross, hpinput⟩ := hprev.previous rate _ hprevious
  have hpmode : previous.priceInputMode = x.priceInputMode := by
    rw [hprevious]
    cases hc : previousByRate.get? rate with
    | none => rfl
    | some c =>
        obtain ⟨y, hy, hr⟩ := hprev.exists_of_get? hc
        exact (hprev.mode rate c hc y hy hr).symm.trans
          (hmode y (List.mem_append_left _ hy) x.toLineAmounts
            (List.mem_append_right _ (List.mem_map_of_mem hx)) hr)
  have hprev0 : 0 ≤ previous.inputCents := by
    rw [hpinput]
    exact sumOn_nonneg (fun y hy => (hprevRec y hy).input_nonneg)
  have hroom : CanSettle x.priceInputMode rate previous.netCents previous.vatCents
      previous.inputCents (current.map (·.inputCents)).sum := by
    rw [hpnet, hpvat, hpinput]
    exact hready.room
  have hpositive : 0 < (current.map (·.inputCents)).sum := hready.positive
  -- the weights are part of a gross amount that is in range
  have hweightMax : (current.map (·.inputCents)).sum ≤ maximumSafeInteger := by
    have hle : previous.inputCents + (current.map (·.inputCents)).sum
        ≤ grossOf x.priceInputMode rate
          (previous.inputCents + (current.map (·.inputCents)).sum) :=
      input_le_grossOf hroom.rate_nonneg (by omega)
    have hmax := hroom.max
    omega
  obtain ⟨settled, hsettled, hnonneg⟩ : ∃ settled,
      reconcileVatRate exceedsRange rangeError remainingError distributeAmount
          x.priceInputMode rate previous current = .ok settled
        ∧ ∀ y ∈ settled, 0 ≤ y.netCents ∧ 0 ≤ y.vatCents := by
    refine reconcileVatRate_total rejectsOverflow_exceedsRange hpmode ?_ hroom
      hcurrentMode hcurrentInput ?_
    · rw [hpnet, hpvat, hpgross, sumOn_gross hprevRec]
    · intro t ht htmax _
      exact VatDistribution.distributeAmount_ready rejectsOverflow_exceedsRange ht htmax
        hweights hpositive hweightMax
  refine ⟨replaceOnRate rate result settled, ?_, ?_⟩
  · rw [reconcileRate]
    split
    · next hnil =>
      rw [hcurrent, hnil] at hxmem
      cases hxmem
    · next first rest hcons =>
      have hfirst : first.priceInputMode = x.priceInputMode :=
        hcurrentMode first (by rw [hcurrent, hcons]; exact List.mem_cons_self)
      rw [← hcons, hfirst]
      simp only [bind_eq_ok, throwIf_eq_ok, exists_const, pure_eq_ok]
      refine ⟨?_, fun h => h hpmode, settled, hsettled, rfl⟩
      rintro ⟨y, hy, hne⟩
      exact hne (hcurrentMode y hy)
  · intro y hy
    rcases mem_replaceOnRate hy with hy | hy
    · exact hresult y hy
    · exact hnonneg _ hy

/-- **NO FAILURE**: the tax of the current lines can be settled when every rate
    they touch is settleable. -/
theorem reconcileCurrentVat_total (hprevRec : ∀ x ∈ prev, Reconciled x)
    (hprevMax : ∀ r, sumOn (·.grossCents) r prev ≤ maximumSafeInteger)
    (hlines : ∀ x ∈ lines, Reconciled x.toLineAmounts)
    (hmode : OneModePerRate (prev ++ lines.map (·.toLineAmounts)))
    (hready : ∀ x ∈ lines, Settleable prev lines x) :
    ∃ ys, reconcileCurrentVat lines prev = .ok ys
      ∧ ∀ y ∈ ys, 0 ≤ y.netCents ∧ 0 ≤ y.vatCents := by
  have hmodePrev : OneModePerRate prev :=
    fun x hx y hy => hmode x (List.mem_append_left _ hx) y (List.mem_append_left _ hy)
  obtain ⟨previousByRate, hprevious⟩ := sumPreviousByRate_total hprevRec hmodePrev hprevMax
  obtain ⟨ys, hys, hnonneg⟩ : ∃ ys, (appearance [] (lines.map (·.vatRateBasisPoints))).foldlM
      (reconcileRate previousByRate lines) lines = .ok ys
        ∧ ∀ y ∈ ys, 0 ≤ y.netCents ∧ 0 ≤ y.vatCents := by
    refine foldlM_progress (P := fun result => ∀ y ∈ result, 0 ≤ y.netCents ∧ 0 ≤ y.vatCents)
      (fun y hy => ⟨(hlines y hy).1, (hlines y hy).2.1⟩) ?_
    intro result rate hrate hresult
    obtain ⟨x, hx, rfl⟩ :=
      List.mem_map.mp ((mem_appearance.mp hrate).resolve_left List.not_mem_nil)
    exact reconcileRate_total (sumPreviousByRate_spec hprevious) hprevRec hlines hmode hx
      (hready x hx) hresult
  exact ⟨ys, bind_eq_ok.mpr ⟨previousByRate, hprevious, hys⟩, hnonneg⟩

end Reconciling

/-! ## Totals -/

/-- A row whose amounts are not negative. -/
def NonnegRow (row : InvoiceVatBreakdown) : Prop :=
  0 ≤ row.netCents ∧ 0 ≤ row.vatCents ∧ 0 ≤ row.grossCents

variable {totals : InvoiceTotals}

/-- The totals of a breakdown are its sums, as long as these are in range. -/
theorem totalsFromBreakdown_eq_ok {rows : List InvoiceVatBreakdown}
    (hrows : ∀ row ∈ rows, NonnegRow row) : totalsFromBreakdown rows = .ok totals ↔
      totals = totalsOf rows ∧ totals.netTotalCents ≤ maximumSafeInteger
        ∧ totals.vatTotalCents ≤ maximumSafeInteger
        ∧ totals.grossTotalCents ≤ maximumSafeInteger := by
  have hsum : ∀ (f : InvoiceVatBreakdown → Int), (∀ row ∈ rows, 0 ≤ f row) → ∀ s,
      rows.foldlM (fun sum row => addSafe sum (f row)) 0 = .ok s
        ↔ (rows.map f).sum = s ∧ s ≤ maximumSafeInteger := by
    intro f hf s
    have hsumM := @sumM_eq_ok exceedsRange _ rangeError rejectsOverflow_exceedsRange _ f rows
      hf 0 s isAmount_zero
    rwa [Int.zero_add] at hsumM
  simp only [totalsFromBreakdown, bind_eq_ok, pure_eq_ok,
    hsum (·.netCents) (fun row hrow => (hrows row hrow).1),
    hsum (·.vatCents) (fun row hrow => (hrows row hrow).2.1),
    hsum (·.grossCents) (fun row hrow => (hrows row hrow).2.2)]
  constructor
  · rintro ⟨_, ⟨rfl, hnet⟩, _, ⟨rfl, hvat⟩, _, ⟨rfl, hgross⟩, rfl⟩
    exact ⟨rfl, hnet, hvat, hgross⟩
  · rintro ⟨rfl, hnet, hvat, hgross⟩
    exact ⟨_, ⟨rfl, hnet⟩, _, ⟨rfl, hvat⟩, _, ⟨rfl, hgross⟩, rfl⟩

/-- What the lines of a rate add up to. -/
def sumsOf (lines : List LineAmounts) (rate : Int) : InvoiceVatBreakdown :=
  ⟨rate, sumOn (·.netCents) rate lines, sumOn (·.vatCents) rate lines,
    sumOn (·.grossCents) rate lines⟩

theorem reconciled_of_calculated {x : LineAmounts} (h : validateCalculatedInvoiceLine x = .ok ()) :
    Reconciled x := by
  obtain ⟨_, _, _, hnet, hvat, _, hsum⟩ := validateCalculatedInvoiceLine_eq_ok.mp h
  exact ⟨hnet.1, hvat.1, hsum⟩

private theorem sumsOf_nonneg {lines : List LineAmounts} (h : ∀ x ∈ lines, Reconciled x)
    (rate : Int) : NonnegRow (sumsOf lines rate) :=
  ⟨sumOn_nonneg (fun x hx => (h x hx).1), sumOn_nonneg (fun x hx => (h x hx).2.1),
    sumOn_nonneg (fun x hx => (h x hx).gross_nonneg)⟩

private theorem rows_of_collects {lines : List LineAmounts} {m : OrderedMap Int VatCapacity}
    (hm : Collects lines m) (hkeys : m.keys = appearance [] (lines.map (·.vatRateBasisPoints))) :
    (m.sortedEntries.map fun e => toRow e.1 e.2) = (ratesOf lines).map (sumsOf lines) := by
  have hsorted : m.sortedEntries.map Prod.fst = ratesOf lines := by
    rw [sortedEntries_keys, hkeys]
    rfl
  rw [← hsorted, List.map_map]
  refine List.map_congr_left ?_
  rintro ⟨rate, c⟩ he
  have hc : m.get? rate = some c := mem_sortedEntries.mp he
  have hnet := hm.net rate
  have hvat := hm.vat rate
  have hgross := hm.gross rate
  rw [hc] at hnet hvat hgross
  show toRow rate c = sumsOf lines rate
  rw [sumsOf, ← hnet, ← hvat, ← hgross]
  rfl

/-- The totals of a draft are the sums over its lines. -/
theorem sumCreditTotals_spec {lines : List LineAmounts} (h : sumCreditTotals lines = .ok totals) :
    (∀ x ∈ lines, validateCalculatedInvoiceLine x = .ok ()) ∧ OneModePerRate lines
      ∧ totals = totalsOf ((ratesOf lines).map (sumsOf lines)) := by
  rw [sumCreditTotals, bind_eq_ok] at h
  obtain ⟨byRate, hgroup, htotals⟩ := h
  obtain ⟨hvalid, hgroup⟩ := groupM_checked.mp hgroup
  have hcollects : Collects lines byRate := Collects.empty.extend hgroup
  have hrec : ∀ x ∈ lines, Reconciled x := fun x hx => reconciled_of_calculated (hvalid x hx)
  refine ⟨hvalid, hcollects.oneModePerRate, ?_⟩
  have hrows := rows_of_collects hcollects (groupM_keys hgroup)
  rw [hrows] at htotals
  refine ((totalsFromBreakdown_eq_ok ?_).mp htotals).1
  intro row hrow
  obtain ⟨rate, _, rfl⟩ := List.mem_map.mp hrow
  exact sumsOf_nonneg hrec rate

/-- The lines of a draft with totals add up in range. -/
theorem sumCreditTotals_max {lines : List LineAmounts} (h : sumCreditTotals lines = .ok totals) :
    (lines.map (·.grossCents)).sum ≤ maximumSafeInteger := by
  obtain ⟨hvalid, _, htotals⟩ := sumCreditTotals_spec h
  have hrec : ∀ x ∈ lines, Reconciled x := fun x hx => reconciled_of_calculated (hvalid x hx)
  rw [sumCreditTotals, bind_eq_ok] at h
  obtain ⟨byRate, hgroup, h⟩ := h
  have hgroup := (groupM_checked.mp hgroup).2
  rw [rows_of_collects (Collects.empty.extend hgroup) (groupM_keys hgroup)] at h
  obtain ⟨_, _, _, hgross⟩ := (totalsFromBreakdown_eq_ok (by
    intro row hrow
    obtain ⟨rate, _, rfl⟩ := List.mem_map.mp hrow
    exact sumsOf_nonneg hrec rate)).mp h
  have htotal : totals.grossTotalCents = (lines.map (·.grossCents)).sum := by
    rw [htotals, totalsOf]
    dsimp only
    rw [List.map_map]
    exact sum_withKey (nodup_ratesOf lines) (fun x hx => mem_ratesOf.mpr ⟨x, hx, rfl⟩) _
  exact htotal ▸ hgross

/-- Lines whose sums are in range have totals. -/
theorem sumCreditTotals_total {lines : List LineAmounts}
    (hvalid : ∀ x ∈ lines, validateCalculatedInvoiceLine x = .ok ())
    (hmode : OneModePerRate lines)
    (hrate : ∀ r, sumOn (·.grossCents) r lines ≤ maximumSafeInteger)
    (hmax : let totals := totalsOf ((ratesOf lines).map (sumsOf lines))
      totals.netTotalCents ≤ maximumSafeInteger ∧ totals.vatTotalCents ≤ maximumSafeInteger
        ∧ totals.grossTotalCents ≤ maximumSafeInteger) :
    sumCreditTotals lines = .ok (totalsOf ((ratesOf lines).map (sumsOf lines))) := by
  have hrec : ∀ x ∈ lines, Reconciled x := fun x hx => reconciled_of_calculated (hvalid x hx)
  obtain ⟨byRate, hgroup⟩ : ∃ m, groupM (·.vatRateBasisPoints) (accumulateVat exceedsRange
      rangeError (.calculation
        "Invoice lines with the same VAT rate must use one price input mode."))
      OrderedMap.empty lines = .ok m :=
    Collects.empty.total rejectsOverflow_exceedsRange hrec hmode hrate
  have hrows := rows_of_collects (Collects.empty.extend hgroup) (groupM_keys hgroup)
  rw [sumCreditTotals, bind_eq_ok]
  refine ⟨byRate, groupM_checked.mpr ⟨hvalid, hgroup⟩, ?_⟩
  rw [hrows]
  refine (totalsFromBreakdown_eq_ok ?_).mpr ⟨rfl, hmax⟩
  intro row hrow
  obtain ⟨rate, _, rfl⟩ := List.mem_map.mp hrow
  exact sumsOf_nonneg hrec rate

/-- Lines whose gross amounts add up in range have totals. -/
theorem sumCreditTotals_of_sum_le {lines : List LineAmounts}
    (hvalid : ∀ x ∈ lines, validateCalculatedInvoiceLine x = .ok ())
    (hmode : OneModePerRate lines)
    (hmax : (lines.map (·.grossCents)).sum ≤ maximumSafeInteger) :
    sumCreditTotals lines = .ok (totalsOf ((ratesOf lines).map (sumsOf lines))) := by
  have hrec : ∀ x ∈ lines, Reconciled x := fun x hx => reconciled_of_calculated (hvalid x hx)
  have hcover : ∀ x ∈ lines, x.vatRateBasisPoints ∈ ratesOf lines :=
    fun x hx => mem_ratesOf.mpr ⟨x, hx, rfl⟩
  have htotal : (((ratesOf lines).map (sumsOf lines)).map (·.grossCents)).sum
      = (lines.map (·.grossCents)).sum := by
    rw [List.map_map]
    exact sum_withKey (nodup_ratesOf lines) hcover _
  -- net and VAT of a rate are part of its gross amount
  have hpart : ∀ f : InvoiceVatBreakdown → Int,
      (∀ rate ∈ ratesOf lines, f (sumsOf lines rate) ≤ (sumsOf lines rate).grossCents) →
      (((ratesOf lines).map (sumsOf lines)).map f).sum ≤ maximumSafeInteger := by
    intro f hf
    refine Int.le_trans ?_ (htotal ▸ hmax)
    rw [List.map_map, List.map_map]
    exact List.sum_le_sum hf
  have hgross : ∀ rate, (sumsOf lines rate).grossCents
      = (sumsOf lines rate).netCents + (sumsOf lines rate).vatCents :=
    fun rate => sumOn_gross hrec
  refine sumCreditTotals_total hvalid hmode (fun r => ?_) ⟨hpart (·.netCents) ?_,
    hpart (·.vatCents) ?_, hpart (·.grossCents) (fun _ _ => Int.le_refl _)⟩
  · refine Int.le_trans (List.Sublist.sum_le_sum ((List.filter_sublist).map _) ?_) hmax
    intro n hn
    obtain ⟨x, hx, rfl⟩ := List.mem_map.mp hn
    exact (hrec x hx).gross_nonneg
  · intro rate _
    have hvat := (sumsOf_nonneg hrec rate).2.1
    have hsum := hgross rate
    omega
  · intro rate _
    have hnet := (sumsOf_nonneg hrec rate).1
    have hsum := hgross rate
    omega

/-! ## What is left of an invoice -/

/-- What is left of a rate after the lines `used`. -/
def remainingOf (lines used : List LineAmounts) (rate : Int) : InvoiceVatBreakdown :=
  let row := rowOf lines rate
  ⟨rate, row.netCents - sumOn (·.netCents) rate used,
    row.vatCents - sumOn (·.vatCents) rate used,
    row.grossCents - sumOn (·.grossCents) rate used⟩

private theorem remainingRow_eq_ok {used : List LineAmounts} {sums : OrderedMap Int VatCapacity}
    (hsums : Collects used sums) {rate : Int} {c : VatCapacity} {row : InvoiceVatBreakdown} :
    remainingRow sums rate c = .ok row ↔
      row = ⟨rate, c.netCents - sumOn (·.netCents) rate used,
        c.vatCents - sumOn (·.vatCents) rate used,
        c.grossCents - sumOn (·.grossCents) rate used⟩
      ∧ IsAmount row.netCents ∧ IsAmount row.vatCents ∧ IsAmount row.grossCents := by
  obtain ⟨hnet, hvat, hgross, _⟩ := hsums.previous rate c.priceInputMode rfl
  simp only [remainingRow, bind_eq_ok, pure_eq_ok, subtractSafe_eq_ok, hnet, hvat, hgross]
  constructor
  · rintro ⟨_, ⟨rfl, hn⟩, _, ⟨rfl, hv⟩, _, ⟨rfl, hg⟩, rfl⟩
    exact ⟨rfl, hn, hv, hg⟩
  · rintro ⟨rfl, hn, hv, hg⟩
    exact ⟨_, ⟨rfl, hn⟩, _, ⟨rfl, hv⟩, _, ⟨rfl, hg⟩, rfl⟩

/-- The row of a rate is made of amounts. -/
theorem rowOf_amounts {lines : List LineAmounts} (hlines : CreditableLines lines) {rate : Int}
    (hrate : rate ∈ ratesOf lines)
    (hmax : (rowOf lines rate).grossCents ≤ maximumSafeInteger) :
    IsAmount (rowOf lines rate).netCents ∧ IsAmount (rowOf lines rate).vatCents
      ∧ IsAmount (rowOf lines rate).grossCents := by
  obtain ⟨x, hx, rfl⟩ := mem_ratesOf.mp hrate
  have hr : 0 ≤ x.vatRateBasisPoints := (hlines.amounts x hx).1.1
  have hinput : 0 ≤ sumOn (·.inputCents) x.vatRateBasisPoints lines :=
    sumOn_nonneg (fun y hy => (hlines.reconciled y hy).input_nonneg)
  have hnet : 0 ≤ (rowOf lines x.vatRateBasisPoints).netCents := netOf_nonneg hr hinput
  have hvat : 0 ≤ (rowOf lines x.vatRateBasisPoints).vatCents := vatOf_nonneg hr hinput
  have hsplit : (rowOf lines x.vatRateBasisPoints).netCents
      + (rowOf lines x.vatRateBasisPoints).vatCents
      = (rowOf lines x.vatRateBasisPoints).grossCents := by
    show netOf _ _ _ + (grossOf _ _ _ - netOf _ _ _) = grossOf _ _ _
    omega
  exact ⟨⟨hnet, by omega⟩, ⟨hvat, by omega⟩, by omega, hmax⟩

section Remaining

variable {sourceLines : List CreditInvoice.CreditSourceLine}
variable {allocations : List PreviousCreditAllocation}

/-- The remaining totals in closed form. -/
theorem calculateRemainingCreditTotals_spec
    (h : calculateRemainingCreditTotals sourceLines allocations = .ok totals) :
    totals = totalsOf ((ratesOf (sourceLines.map (·.toLineAmounts))).map
      (remainingOf (sourceLines.map (·.toLineAmounts))
        (allocations.map (·.toLineAmounts)))) := by
  simp only [calculateRemainingCreditTotals, bind_eq_ok] at h
  obtain ⟨capacities, hcapacities, _, _, sums, hsums, rows, hrows, htotals⟩ := h
  obtain ⟨_, ⟨hkeys, hget⟩, _⟩ := createVatCapacities_spec hcapacities
  have hcollects := sumPreviousByRate_spec hsums
  have hsorted : capacities.sortedEntries.map Prod.fst
      = ratesOf (sourceLines.map (·.toLineAmounts)) := by
    rw [sortedEntries_keys, hkeys]
    rfl
  have hrowsEq : rows = (ratesOf (sourceLines.map (·.toLineAmounts))).map
      (remainingOf (sourceLines.map (·.toLineAmounts))
        (allocations.map (·.toLineAmounts))) := by
    rw [← hsorted, List.map_map]
    refine mapM_map_of_ok hrows ?_
    rintro ⟨rate, c⟩ row he hrow
    obtain ⟨_, rfl⟩ := (hget rate c).mp (mem_sortedEntries.mp he)
    exact ((remainingRow_eq_ok hcollects).mp hrow).1
  rw [← hrowsEq]
  refine ((totalsFromBreakdown_eq_ok ?_).mp htotals).1
  intro row hrow
  obtain ⟨⟨rate, c⟩, _, hsettle⟩ := exists_source_of_mapM_ok hrows hrow
  obtain ⟨_, hn, hv, hg⟩ := (remainingRow_eq_ok hcollects).mp hsettle
  exact ⟨hn.1, hv.1, hg.1⟩

/-- The remaining totals exist when the earlier credits are valid and stay within
    the capacities. -/
theorem calculateRemainingCreditTotals_total
    (hids : (sourceLines.map (·.id)).Nodup) {capacities : OrderedMap Int VatCapacity}
    (hcapacities : createVatCapacities (sourceLines.map (·.toLineAmounts)) = .ok capacities)
    (hvalid : ∀ a ∈ allocations, ValidAllocation sourceLines a)
    (hwithin : WithinCapacities capacities (allocations.map (·.toLineAmounts)))
    (hmax : let totals := totalsOf ((ratesOf (sourceLines.map (·.toLineAmounts))).map
        (rowOf (sourceLines.map (·.toLineAmounts))))
      totals.netTotalCents ≤ maximumSafeInteger ∧ totals.vatTotalCents ≤ maximumSafeInteger
        ∧ totals.grossTotalCents ≤ maximumSafeInteger)
    (hrowMax : ∀ rate ∈ ratesOf (sourceLines.map (·.toLineAmounts)),
      (rowOf (sourceLines.map (·.toLineAmounts)) rate).grossCents ≤ maximumSafeInteger) :
    ∃ totals, calculateRemainingCreditTotals sourceLines allocations = .ok totals := by
  obtain ⟨hlines, hcap, _⟩ := createVatCapacities_spec hcapacities
  set lines := sourceLines.map (·.toLineAmounts) with hlinesEq
  set used := allocations.map (·.toLineAmounts) with husedEq
  have hrec : ∀ x ∈ used, Reconciled x := by
    intro x hx
    obtain ⟨a, ha, rfl⟩ := List.mem_map.mp hx
    exact (hvalid a ha).reconciled
  have hcapMax : ∀ rate c, capacities.get? rate = some c → c.grossCents ≤ maximumSafeInteger := by
    intro rate c hc
    obtain ⟨hx, rfl⟩ := (hcap.2 rate c).mp hc
    exact hrowMax rate (mem_ratesOf.mpr hx)
  obtain ⟨sums, hsums⟩ := sumPreviousByRate_total hrec hwithin.oneModePerRate
    (hwithin.gross_le hcapMax)
  have hcollects := sumPreviousByRate_spec hsums
  have hsorted : capacities.sortedEntries.map Prod.fst = ratesOf lines := by
    rw [sortedEntries_keys, hcap.1]
    rfl
  -- a rate is never used beyond its row
  have hused : ∀ rate ∈ ratesOf lines,
      sumOn (·.netCents) rate used ≤ (rowOf lines rate).netCents
        ∧ sumOn (·.vatCents) rate used ≤ (rowOf lines rate).vatCents
        ∧ sumOn (·.grossCents) rate used ≤ (rowOf lines rate).grossCents := by
    intro rate hrate
    by_cases hr : ∃ x ∈ used, x.vatRateBasisPoints = rate
    · obtain ⟨x, hx, rfl⟩ := hr
      obtain ⟨c, hc, _, hnet, hvat, hgross⟩ := hwithin x hx
      obtain ⟨_, rfl⟩ := (hcap.2 _ c).mp hc
      exact ⟨hnet, hvat, hgross⟩
    · have hnone : ∀ x ∈ used, x.vatRateBasisPoints ≠ rate := fun x hx hxr => hr ⟨x, hx, hxr⟩
      obtain ⟨hnet, hvat, hgross⟩ := rowOf_amounts hlines hrate (hrowMax rate hrate)
      rw [sumOn_of_none hnone, sumOn_of_none hnone, sumOn_of_none hnone]
      exact ⟨hnet.1, hvat.1, hgross.1⟩
  have hamounts : ∀ rate ∈ ratesOf lines, IsAmount (remainingOf lines used rate).netCents
      ∧ IsAmount (remainingOf lines used rate).vatCents
      ∧ IsAmount (remainingOf lines used rate).grossCents := by
    intro rate hrate
    obtain ⟨hnet, hvat, hgross⟩ := rowOf_amounts hlines hrate (hrowMax rate hrate)
    obtain ⟨hunet, huvat, hugross⟩ := hused rate hrate
    obtain ⟨hsnet, hsvat, hsgross⟩ := sumsOf_nonneg hrec rate
    exact ⟨isAmount_sub hnet hunet hsnet, isAmount_sub hvat huvat hsvat,
      isAmount_sub hgross hugross hsgross⟩
  have hrows : capacities.sortedEntries.mapM (fun e => remainingRow sums e.1 e.2)
      = .ok ((ratesOf lines).map (remainingOf lines used)) := by
    rw [← hsorted, List.map_map]
    refine mapM_eq_ok_map ?_
    rintro ⟨rate, c⟩ he
    obtain ⟨hx, rfl⟩ := (hcap.2 rate c).mp (mem_sortedEntries.mp he)
    exact (remainingRow_eq_ok hcollects).mpr ⟨rfl, hamounts rate (mem_ratesOf.mpr hx)⟩
  have hle : ∀ f : InvoiceVatBreakdown → Int,
      (∀ rate ∈ ratesOf lines, f (remainingOf lines used rate) ≤ f (rowOf lines rate)) →
      (((ratesOf lines).map (remainingOf lines used)).map f).sum
        ≤ (((ratesOf lines).map (rowOf lines)).map f).sum := by
    intro f hf
    rw [List.map_map, List.map_map]
    exact List.sum_le_sum hf
  obtain ⟨hmaxNet, hmaxVat, hmaxGross⟩ := hmax
  refine ⟨totalsOf ((ratesOf lines).map (remainingOf lines used)), ?_⟩
  simp only [calculateRemainingCreditTotals, bind_eq_ok, validatePreviousAllocations]
  refine ⟨capacities, hcapacities, (), ⟨(), forM_eq_ok.mpr (fun a ha =>
    validatePreviousAllocation_total hids hcap hlines.mode (hvalid a ha)), ?_⟩, sums, hsums,
    _, hrows, (totalsFromBreakdown_eq_ok ?_).mpr ⟨rfl, ?_, ?_, ?_⟩⟩
  · refine requireWithinVatCapacity_total ?_ ?_ hcapMax
    · rwa [List.append_nil]
    · rwa [List.append_nil]
  · intro row hrow
    obtain ⟨rate, hrate, rfl⟩ := List.mem_map.mp hrow
    obtain ⟨hnet, hvat, hgross⟩ := hamounts rate hrate
    exact ⟨hnet.1, hvat.1, hgross.1⟩
  · refine Int.le_trans (hle (·.netCents) (fun rate _ => ?_)) hmaxNet
    exact Int.sub_le_self _ (sumsOf_nonneg hrec rate).1
  · refine Int.le_trans (hle (·.vatCents) (fun rate _ => ?_)) hmaxVat
    exact Int.sub_le_self _ (sumsOf_nonneg hrec rate).2.1
  · refine Int.le_trans (hle (·.grossCents) (fun rate _ => ?_)) hmaxGross
    exact Int.sub_le_self _ (sumsOf_nonneg hrec rate).2.2

end Remaining

end CreditDraft
