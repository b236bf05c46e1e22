import Eky.VatGroups

/-! # VAT distribution — the tax of a rate, line by line

    Twice the program settles the VAT of a rate cumulatively and hands the
    current part of it out over the current lines: once inside
    `calculateCreditInvoice` and once more over the whole credit draft.  The two
    copies differ in their additions, in the message of a failed subtraction
    and in what a distribution over zero-value lines does, so the shared body
    takes these as parameters.

    - `distributeFrom`, the loop of `distributeAmount`, computes the cumulative
      shares of `Apportionment`;
    - `reconcileVatRate`: after it the rate has exactly the net, VAT and gross
      of its cumulative input amount. -/

namespace VatDistribution

open Fallible Apportionment OrderedMap InvoiceMoney VatGroups

variable {mode : PriceInputMode}

section Parameters

variable (rejected : Int → Prop) [DecidablePred rejected]
variable (rangeError subtractError : InvoiceError)

/-! ## Distributing an amount -/

/-- The loop of `distributeAmount`, with its two running variables. -/
def distributeFrom (totalAmount totalWeight : Int) :
    Int → Int → List Int → Checked (List Int)
  | _, _, [] => pure []
  | cumulativeWeight, previousTarget, weight :: rest => do
      let cumulativeWeight ← addUnless rejected rangeError cumulativeWeight weight
      let target ← roundHalfUp (totalAmount * cumulativeWeight) totalWeight
      let allocation ← subtractAmount subtractError target previousTarget
      let allocations ← distributeFrom totalAmount totalWeight cumulativeWeight target rest
      pure (allocation :: allocations)

/-- `distributeAmount`: what happens on a zero total weight is the caller's. -/
def distributeAmount (onZeroWeight : Int → List Int → Checked (List Int))
    (totalAmount : Int) (weights : List Int) : Checked (List Int) := do
  let totalWeight ← weights.foldlM (addUnless rejected rangeError) 0
  if totalWeight = 0 then
    onZeroWeight totalAmount weights
  else
    distributeFrom rejected rangeError subtractError totalAmount totalWeight 0 0 weights

variable {rejected rangeError subtractError}
variable {onZeroWeight : Int → List Int → Checked (List Int)}
variable {total weight cumulative : Int} {ws out : List Int}

/-- The loop computes the cumulative shares. -/
theorem distributeFrom_shares {previous : Int}
    (hp : previous = halfUp (total * cumulative) weight)
    (h : distributeFrom rejected rangeError subtractError total weight cumulative
      previous ws = .ok out) : out = sharesFrom total weight cumulative ws := by
  induction ws generalizing cumulative previous out with
  | nil => exact (pure_eq_ok.mp h).symm
  | cons w rest ih =>
      subst hp
      simp only [distributeFrom, addUnless, bind_eq_ok, throwIf_eq_ok, exists_const,
        pure_eq_ok, roundHalfUp_eq_ok, subtractAmount_eq_ok] at h
      obtain ⟨_, ⟨_, rfl⟩, _, ⟨_, _, rfl, _⟩, _, ⟨rfl, _⟩, allocations, hrest, rfl⟩ := h
      rw [sharesFrom, ih rfl hrest]

theorem distributeFrom_total {previous : Int}
    (hp : previous = halfUp (total * cumulative) weight)
    (hr : RejectsOverflow rejected) (ht : 0 ≤ total)
    (htmax : total ≤ maximumSafeInteger) (hw : 0 < weight)
    (hwmax : weight ≤ maximumSafeInteger) (hc : 0 ≤ cumulative)
    (hws : ∀ w ∈ ws, 0 ≤ w) (hsum : cumulative + ws.sum ≤ weight) :
    distributeFrom rejected rangeError subtractError total weight cumulative previous ws
      = .ok (sharesFrom total weight cumulative ws) := by
  induction ws generalizing cumulative previous with
  | nil => rfl
  | cons w rest ih =>
      subst hp
      have hhead : 0 ≤ w := hws w List.mem_cons_self
      have hrest : ∀ v ∈ rest, 0 ≤ v := fun v hv => hws v (List.mem_cons_of_mem w hv)
      have hrestSum : 0 ≤ rest.sum := List.sum_nonneg hrest
      rw [List.sum_cons] at hsum
      -- a target never exceeds the total, so it stays in range
      have htarget : halfUp (total * (cumulative + w)) weight ≤ total :=
        halfUp_part_le ht (by omega) hw
      have hnonneg : 0 ≤ total * (cumulative + w) := Int.mul_nonneg ht (by omega)
      have hprev : 0 ≤ halfUp (total * cumulative) weight :=
        halfUp_nonneg (by omega) (Int.mul_nonneg ht hc)
      have hmono : halfUp (total * cumulative) weight
          ≤ halfUp (total * (cumulative + w)) weight :=
        halfUp_mono hw (Int.mul_le_mul_of_nonneg_left (by omega) ht)
      simp only [distributeFrom, bind_eq_ok, pure_eq_ok, roundHalfUp_eq_ok,
        subtractAmount_eq_ok, sharesFrom]
      exact ⟨_, (addUnless_eq_ok hr (by omega)).mpr ⟨rfl, by omega⟩, _,
        ⟨hnonneg, hw, rfl, by omega⟩, _, ⟨rfl, by omega, by omega⟩, _,
        ih rfl (by omega) hrest (by omega), rfl⟩

theorem distributeFrom_length {previous : Int}
    (h : distributeFrom rejected rangeError subtractError total weight cumulative
      previous ws = .ok out) : out.length = ws.length := by
  induction ws generalizing cumulative previous out with
  | nil =>
      have hout : [] = out := pure_eq_ok.mp h
      rw [← hout]
  | cons w rest ih =>
      simp only [distributeFrom, bind_eq_ok, pure_eq_ok] at h
      obtain ⟨_, _, _, _, _, _, _, hrest, rfl⟩ := h
      rw [List.length_cons, List.length_cons, ih hrest]

theorem distributeAmount_length
    (hzero : ∀ a ws out, onZeroWeight a ws = .ok out → out.length = ws.length)
    (h : distributeAmount rejected rangeError subtractError onZeroWeight total ws = .ok out) :
    out.length = ws.length := by
  rw [distributeAmount, bind_eq_ok] at h
  obtain ⟨_, _, h⟩ := h
  split at h
  · exact hzero _ _ _ h
  · exact distributeFrom_length h

/-- What a successful distribution hands out. -/
theorem distributeAmount_spec (hr : RejectsOverflow rejected)
    (hzero : ∀ a ws out, ws.sum = 0 → onZeroWeight a ws = .ok out →
      out.length = ws.length ∧ out.sum = a)
    (hws : ∀ w ∈ ws, 0 ≤ w)
    (h : distributeAmount rejected rangeError subtractError onZeroWeight total ws = .ok out) :
    out.length = ws.length ∧ out.sum = total := by
  have hsumM := @sumM_eq_ok rejected _ rangeError hr Int (fun w => w) ws hws 0
  rw [distributeAmount, bind_eq_ok] at h
  obtain ⟨totalWeight, hweight, h⟩ := h
  obtain ⟨hsum, _⟩ := (hsumM isAmount_zero).mp hweight
  rw [List.map_id', Int.zero_add] at hsum
  subst hsum
  split at h
  · next hw => exact hzero _ _ _ hw h
  · next hw =>
    have hnonneg : 0 ≤ ws.sum := List.sum_nonneg hws
    have hstart : halfUp (total * 0) ws.sum = 0 := by
      rw [Int.mul_zero, halfUp_zero hnonneg]
    rw [distributeFrom_shares hstart.symm h]
    exact ⟨sharesFrom_length, shares_sum (by omega)⟩

section

variable (hr : RejectsOverflow rejected)
  (ht : 0 ≤ total)
  (htmax : total ≤ maximumSafeInteger)
  (hws : ∀ w ∈ ws, 0 ≤ w)
  (hw : 0 < ws.sum)
  (hwmax : ws.sum ≤ maximumSafeInteger)
include hr ht htmax hws hw hwmax

/-- A distribution over positive weight gets through. -/
theorem distributeAmount_total :
    distributeAmount rejected rangeError subtractError onZeroWeight total ws
      = .ok (shares total ws) := by
  have hsumM := @sumM_eq_ok rejected _ rangeError hr Int (fun w => w) ws hws 0 ws.sum
    isAmount_zero
  rw [List.map_id', Int.zero_add] at hsumM
  have hstart : halfUp (total * 0) ws.sum = 0 := by
    rw [Int.mul_zero, halfUp_zero (by omega)]
  rw [distributeAmount, bind_eq_ok]
  refine ⟨ws.sum, hsumM.mpr ⟨rfl, hwmax⟩, ?_⟩
  rw [if_neg (by omega)]
  exact distributeFrom_total hstart.symm hr ht htmax hw hwmax (Int.le_refl 0) hws (by omega)

/-- Over a positive weight a distribution gets through, and no share is negative
    or, as long as there is no more to hand out than weight, above its weight. -/
theorem distributeAmount_ready :
    ∃ out, distributeAmount rejected rangeError subtractError onZeroWeight total ws = .ok out
      ∧ out.length = ws.length ∧ out.sum = total ∧ (∀ s ∈ out, 0 ≤ s)
      ∧ (total ≤ ws.sum → List.Forall₂ (fun s w => s ≤ w) out ws) :=
  ⟨shares total ws, distributeAmount_total hr ht htmax hws hw hwmax, shares_length,
    shares_sum hw, sharesFrom_nonneg hw ht hws, fun hle => sharesFrom_le hw hle hws⟩

end

/-! ## Settling a rate -/

variable (rejected rangeError subtractError)

/-- The lines of a rate, with the current part of the rate's VAT handed out. -/
def reconcileVatRate (distribute : Int → List Int → Checked (List Int))
    (mode : PriceInputMode) (vatRateBasisPoints : Int) (previous : VatCapacity)
    (currentLines : List LineAmounts) : Checked (List LineAmounts) :=
  let add := addUnless rejected rangeError
  match mode with
  | .net => do
      let currentNetCents ← currentLines.foldlM (fun sum line => add sum line.netCents) 0
      let cumulativeNetCents ← add previous.netCents currentNetCents
      let cumulativeVatCents ← roundHalfUp (cumulativeNetCents * vatRateBasisPoints) 10000
      let currentVatCents ← subtractAmount subtractError cumulativeVatCents previous.vatCents
      let shares ← distribute currentVatCents (currentLines.map (·.netCents))
      -- there are as many shares as lines, so `?? 0` has no case of its own
      (currentLines.zip shares).mapM fun (line, vatCents) => do
        let grossCents ← add line.netCents vatCents
        pure { line with vatCents, grossCents }
  | .gross => do
      let currentGrossCents ←
        currentLines.foldlM (fun sum line => add sum line.grossCents) 0
      let cumulativeGrossCents ← add previous.grossCents currentGrossCents
      let cumulativeNetCents ←
        roundHalfUp (cumulativeGrossCents * 10000) (10000 + vatRateBasisPoints)
      let currentNetCents ← subtractAmount subtractError cumulativeNetCents previous.netCents
      let shares ← distribute currentNetCents (currentLines.map (·.grossCents))
      pure ((currentLines.zip shares).map fun (line, netCents) =>
        { line with netCents, vatCents := line.grossCents - netCents })

variable {rejected rangeError subtractError}

/-- `y` is the line `x` with its tax settled anew. -/
structure Resettles (x y : LineAmounts) : Prop where
  quantity : y.quantityHundredths = x.quantityHundredths
  mode : y.priceInputMode = x.priceInputMode
  rate : y.vatRateBasisPoints = x.vatRateBasisPoints
  base : y.baseCents = x.baseCents
  discount : y.discountCents = x.discountCents
  input : y.inputCents = x.inputCents
  reconciles : y.netCents + y.vatCents = y.grossCents

/-- The result of a settled rate: the same lines, and sums that bring the rate
    to the split of its cumulative input amount. -/
structure SettledRate (mode : PriceInputMode) (rate : Int) (previous : VatCapacity)
    (lines settled : List LineAmounts) : Prop where
  each : List.Forall₂ Resettles lines settled
  net : previous.netCents + (settled.map (·.netCents)).sum
    = netOf mode rate (previous.inputCents + (lines.map (·.inputCents)).sum)
  gross : previous.grossCents + (settled.map (·.grossCents)).sum
    = grossOf mode rate (previous.inputCents + (lines.map (·.inputCents)).sum)

theorem foldlM_add_ok {α : Type} {f : α → Int} {xs : List α} {a s : Int}
    (h : xs.foldlM (fun sum x => addUnless rejected rangeError sum (f x)) a = .ok s) :
    s = a + (xs.map f).sum := by
  induction xs generalizing a with
  | nil => simp [pure_eq_ok.mp h]
  | cons x rest ih =>
      rw [List.foldlM_cons, bind_eq_ok] at h
      obtain ⟨c, hc, hrest⟩ := h
      simp only [addUnless, bind_eq_ok, throwIf_eq_ok, exists_const, pure_eq_ok] at hc
      rw [ih hrest, ← hc.2, List.map_cons, List.sum_cons, Int.add_assoc]

/-! In net mode the net amounts are the input amounts, in gross mode the gross amounts. -/

private theorem map_netCents_of_mode {xs : List LineAmounts}
    (hmode : ∀ x ∈ xs, x.priceInputMode = .net) : xs.map (·.netCents) = xs.map (·.inputCents) :=
  List.map_congr_left fun x hx => by rw [LineAmounts.inputCents, hmode x hx]

private theorem map_grossCents_of_mode {xs : List LineAmounts}
    (hmode : ∀ x ∈ xs, x.priceInputMode = .gross) :
    xs.map (·.grossCents) = xs.map (·.inputCents) :=
  List.map_congr_left fun x hx => by rw [LineAmounts.inputCents, hmode x hx]

private theorem inputCents_of_net {previous : VatCapacity}
    (h : previous.priceInputMode = .net) : previous.inputCents = previous.netCents := by
  rw [VatCapacity.inputCents, h]

private theorem inputCents_of_gross {previous : VatCapacity}
    (h : previous.priceInputMode = .gross) : previous.inputCents = previous.grossCents := by
  rw [VatCapacity.inputCents, h]

/-- Settled lines in net mode: the shares become the VAT. -/
private theorem settled_net {xs ys : List LineAmounts} {out : List Int}
    (hmode : ∀ x ∈ xs, x.priceInputMode = .net) (hlen : out.length = xs.length)
    (h : (xs.zip out).mapM (fun p : LineAmounts × Int => do
      let grossCents ← addUnless rejected rangeError p.1.netCents p.2
      pure { p.1 with vatCents := p.2, grossCents }) = .ok ys) :
    List.Forall₂ Resettles xs ys
      ∧ (ys.map (·.netCents)).sum = (xs.map (·.inputCents)).sum
      ∧ (ys.map (·.grossCents)).sum = (xs.map (·.inputCents)).sum + out.sum := by
  induction xs generalizing out ys with
  | nil =>
      obtain rfl : out = [] := List.eq_nil_of_length_eq_zero hlen
      have hys : [] = ys := pure_eq_ok.mp h
      subst hys
      exact ⟨List.Forall₂.nil, rfl, rfl⟩
  | cons x rest ih =>
      cases out with
      | nil => exact nomatch hlen
      | cons v out =>
          rw [List.zip_cons_cons, List.mapM_cons] at h
          simp only [bind_eq_ok, pure_eq_ok, addUnless, throwIf_eq_ok, exists_const] at h
          obtain ⟨_, ⟨_, ⟨_, rfl⟩, rfl⟩, zs, hzs, rfl⟩ := h
          have hx : x.priceInputMode = .net := hmode x List.mem_cons_self
          have hinput : x.inputCents = x.netCents := by rw [LineAmounts.inputCents, hx]
          obtain ⟨hall, hnet, hgross⟩ := ih
            (fun z hz => hmode z (List.mem_cons_of_mem x hz)) (Nat.succ.inj hlen)
            (by simpa only [addUnless, bind_eq_ok, throwIf_eq_ok, pure_eq_ok] using hzs)
          refine ⟨List.Forall₂.cons ⟨rfl, rfl, rfl, rfl, rfl, ?_, rfl⟩ hall, ?_, ?_⟩
          · simp only [LineAmounts.inputCents, hx]
          · simp only [List.map_cons, List.sum_cons, hnet, hinput]
          · simp only [List.map_cons, List.sum_cons, hgross, hinput]
            omega

/-- Settled lines in gross mode: the shares become the net amounts. -/
private theorem settled_gross {xs : List LineAmounts} {out : List Int}
    (hmode : ∀ x ∈ xs, x.priceInputMode = .gross) (hlen : out.length = xs.length) :
    let ys := (xs.zip out).map fun p : LineAmounts × Int =>
      { p.1 with netCents := p.2, vatCents := p.1.grossCents - p.2 }
    List.Forall₂ Resettles xs ys
      ∧ (ys.map (·.netCents)).sum = out.sum
      ∧ (ys.map (·.grossCents)).sum = (xs.map (·.inputCents)).sum := by
  induction xs generalizing out with
  | nil =>
      obtain rfl : out = [] := List.eq_nil_of_length_eq_zero hlen
      exact ⟨List.Forall₂.nil, rfl, rfl⟩
  | cons x rest ih =>
      cases out with
      | nil => exact nomatch hlen
      | cons v out =>
          have hx : x.priceInputMode = .gross := hmode x List.mem_cons_self
          have hinput : x.inputCents = x.grossCents := by rw [LineAmounts.inputCents, hx]
          obtain ⟨hall, hnet, hgross⟩ := ih
            (fun z hz => hmode z (List.mem_cons_of_mem x hz)) (Nat.succ.inj hlen)
          refine ⟨List.Forall₂.cons ⟨rfl, rfl, rfl, rfl, rfl, ?_, ?_⟩ hall, ?_, ?_⟩
          · simp only [LineAmounts.inputCents, hx]
          · show v + (x.grossCents - v) = x.grossCents
            omega
          · simp only [List.zip_cons_cons, List.map_cons, List.sum_cons, hnet]
          · simp only [List.zip_cons_cons, List.map_cons, List.sum_cons, hgross, hinput]

/-- Settling a rate keeps everything of a line but its tax. -/
theorem reconcileVatRate_each {distribute : Int → List Int → Checked (List Int)} {rate : Int}
    {previous : VatCapacity} {xs ys : List LineAmounts}
    (hlen : ∀ t ws out, distribute t ws = .ok out → out.length = ws.length)
    (hmode : ∀ x ∈ xs, x.priceInputMode = mode)
    (h : reconcileVatRate rejected rangeError subtractError distribute mode rate previous xs
      = .ok ys) : List.Forall₂ Resettles xs ys := by
  cases mode with
  | net =>
      simp only [reconcileVatRate, bind_eq_ok] at h
      obtain ⟨_, _, _, _, _, _, _, _, out, hout, hlines⟩ := h
      have hlength := hlen _ _ _ hout
      rw [List.length_map] at hlength
      exact (settled_net hmode hlength hlines).1
  | gross =>
      simp only [reconcileVatRate, bind_eq_ok, pure_eq_ok] at h
      obtain ⟨_, _, _, _, _, _, _, _, out, hout, rfl⟩ := h
      have hlength := hlen _ _ _ hout
      rw [List.length_map] at hlength
      exact (settled_gross hmode hlength).1

/-- A settled rate had its tax distributed over the input amounts. -/
theorem reconcileVatRate_distributes {distribute : Int → List Int → Checked (List Int)} {rate : Int}
    {previous : VatCapacity} {xs ys : List LineAmounts} (hmode : ∀ x ∈ xs, x.priceInputMode = mode)
    (h : reconcileVatRate rejected rangeError subtractError distribute mode rate previous xs
      = .ok ys) : ∃ t out, distribute t (xs.map (·.inputCents)) = .ok out := by
  cases mode with
  | net =>
      have hnets : xs.map (·.netCents) = xs.map (·.inputCents) := by
        refine List.map_congr_left (fun x hx => ?_)
        rw [LineAmounts.inputCents, hmode x hx]
      simp only [reconcileVatRate, bind_eq_ok] at h
      obtain ⟨_, _, _, _, _, _, t, _, out, hout, _⟩ := h
      exact ⟨t, out, hnets ▸ hout⟩
  | gross =>
      have hgrosses : xs.map (·.grossCents) = xs.map (·.inputCents) := by
        refine List.map_congr_left (fun x hx => ?_)
        rw [LineAmounts.inputCents, hmode x hx]
      simp only [reconcileVatRate, bind_eq_ok] at h
      obtain ⟨_, _, _, _, _, _, t, _, out, hout, _⟩ := h
      exact ⟨t, out, hgrosses ▸ hout⟩

/-- **A SETTLED RATE**: what a successful settlement leaves. -/
theorem reconcileVatRate_spec {distribute : Int → List Int → Checked (List Int)} {rate : Int}
    {previous : VatCapacity} {xs ys : List LineAmounts}
    (hdist : ∀ t ws out, (∀ w ∈ ws, 0 ≤ w) → distribute t ws = .ok out →
      out.length = ws.length ∧ out.sum = t) (hprev : previous.priceInputMode = mode)
    (hsum : previous.netCents + previous.vatCents = previous.grossCents)
    (hmode : ∀ x ∈ xs, x.priceInputMode = mode) (hinput : ∀ x ∈ xs, 0 ≤ x.inputCents)
    (h : reconcileVatRate rejected rangeError subtractError distribute mode rate previous xs
      = .ok ys) : SettledRate mode rate previous xs ys := by
  cases mode with
  | net =>
      have hnets := map_netCents_of_mode hmode
      have hprevInput := inputCents_of_net hprev
      simp only [reconcileVatRate, bind_eq_ok, roundHalfUp_eq_ok, subtractAmount_eq_ok] at h
      obtain ⟨current, hcurrent, cumulative, hadd, _, ⟨_, _, rfl, _⟩, _, ⟨rfl, _⟩, out,
        hout, hlines⟩ := h
      have hcur := foldlM_add_ok hcurrent
      simp only [addUnless, bind_eq_ok, throwIf_eq_ok, exists_const, pure_eq_ok] at hadd
      obtain ⟨hlen, houtSum⟩ := hdist _ _ _ (by
        intro w hw
        obtain ⟨x, hx, rfl⟩ := List.mem_map.mp (hnets ▸ hw)
        exact hinput x hx) hout
      rw [List.length_map] at hlen
      obtain ⟨hall, hnet, hgross⟩ := settled_net hmode hlen hlines
      rw [hnets, Int.zero_add] at hcur
      refine ⟨hall, ?_, ?_⟩
      · rw [hnet, hprevInput]
        rfl
      · rw [hgross, houtSum, hprevInput, ← hadd.2, hcur, grossOf, ← hsum]
        omega
  | gross =>
      have hgrosses := map_grossCents_of_mode hmode
      have hprevInput := inputCents_of_gross hprev
      simp only [reconcileVatRate, bind_eq_ok, pure_eq_ok, roundHalfUp_eq_ok,
        subtractAmount_eq_ok] at h
      obtain ⟨current, hcurrent, cumulative, hadd, _, ⟨_, _, rfl, _⟩, _, ⟨rfl, _⟩, out,
        hout, rfl⟩ := h
      have hcur := foldlM_add_ok hcurrent
      simp only [addUnless, bind_eq_ok, throwIf_eq_ok, exists_const, pure_eq_ok] at hadd
      obtain ⟨hlen, houtSum⟩ := hdist _ _ _ (by
        intro w hw
        obtain ⟨x, hx, rfl⟩ := List.mem_map.mp (hgrosses ▸ hw)
        exact hinput x hx) hout
      rw [List.length_map] at hlen
      obtain ⟨hall, hnet, hgross⟩ := settled_gross hmode hlen
      rw [hgrosses, Int.zero_add] at hcur
      refine ⟨hall, ?_, ?_⟩
      · rw [hnet, houtSum, hprevInput, ← hadd.2, hcur, netOf]
        omega
      · rw [hgross, hprevInput]
        rfl

/-- When nothing is credited now, the earlier credits sit on the split of their input: a
    distribution over no weight has nothing to hand out. -/
theorem reconcileVatRate_exhausted {distribute : Int → List Int → Checked (List Int)} {rate : Int}
    {previous : VatCapacity} {xs ys : List LineAmounts}
    (hzero : ∀ t ws out, ws.sum = 0 → distribute t ws = .ok out → t = 0)
    (hprev : previous.priceInputMode = mode)
    (hsum : previous.netCents + previous.vatCents = previous.grossCents)
    (hmode : ∀ x ∈ xs, x.priceInputMode = mode) (htotal : (xs.map (·.inputCents)).sum = 0)
    (h : reconcileVatRate rejected rangeError subtractError distribute mode rate previous xs
      = .ok ys) : previous.netCents = netOf mode rate previous.inputCents
      ∧ previous.vatCents = vatOf mode rate previous.inputCents := by
  cases mode with
  | net =>
      have hnets := map_netCents_of_mode hmode
      have hprevInput := inputCents_of_net hprev
      simp only [reconcileVatRate, bind_eq_ok, roundHalfUp_eq_ok, subtractAmount_eq_ok] at h
      obtain ⟨current, hcurrent, cumulative, hadd, _, ⟨_, _, rfl, _⟩, t, ⟨ht, _⟩, out,
        hout, _⟩ := h
      have hcur := foldlM_add_ok hcurrent
      simp only [addUnless, bind_eq_ok, throwIf_eq_ok, exists_const, pure_eq_ok] at hadd
      rw [hnets, htotal] at hcur
      have hnothing := hzero t _ out (hnets ▸ htotal) hout
      obtain rfl : cumulative = previous.netCents := by omega
      rw [hprevInput]
      refine ⟨rfl, ?_⟩
      show previous.vatCents = previous.netCents
        + halfUp (previous.netCents * rate) 10000 - previous.netCents
      omega
  | gross =>
      have hgrosses := map_grossCents_of_mode hmode
      have hprevInput := inputCents_of_gross hprev
      simp only [reconcileVatRate, bind_eq_ok, pure_eq_ok, roundHalfUp_eq_ok,
        subtractAmount_eq_ok] at h
      obtain ⟨current, hcurrent, cumulative, hadd, _, ⟨_, _, rfl, _⟩, t, ⟨ht, _⟩, out,
        hout, _⟩ := h
      have hcur := foldlM_add_ok hcurrent
      simp only [addUnless, bind_eq_ok, throwIf_eq_ok, exists_const, pure_eq_ok] at hadd
      rw [hgrosses, htotal] at hcur
      have hnothing := hzero t _ out (hgrosses ▸ htotal) hout
      obtain rfl : cumulative = previous.grossCents := by omega
      have hnet : previous.netCents = netOf .gross rate previous.grossCents := by
        show previous.netCents = halfUp (previous.grossCents * 10000) (10000 + rate)
        omega
      rw [hprevInput]
      refine ⟨hnet, ?_⟩
      show previous.vatCents = previous.grossCents - netOf .gross rate previous.grossCents
      omega

/-- What is left of a rate can be settled: the earlier net and VAT amounts do not
    go beyond the split of the cumulative input, and meet it when there is no
    current input. -/
structure CanSettle (mode : PriceInputMode) (rate net vat input total : Int) : Prop where
  rate_nonneg : 0 ≤ rate
  net_nonneg : 0 ≤ net
  vat_nonneg : 0 ≤ vat
  net_le : net ≤ netOf mode rate (input + total)
  vat_le : vat ≤ vatOf mode rate (input + total)
  max : grossOf mode rate (input + total) ≤ maximumSafeInteger
  exhausted : total = 0 → net = netOf mode rate (input + total)
    ∧ vat = vatOf mode rate (input + total)

/-- The earlier credits `prev` of a rate leave room for an input of `total`. -/
def LeavesRoom (prev : List LineAmounts) (mode : PriceInputMode) (rate total : Int) : Prop :=
  CanSettle mode rate (sumOn (·.netCents) rate prev) (sumOn (·.vatCents) rate prev)
    (sumOn (·.inputCents) rate prev) total

/-- A distribution of at most what is in range over the weights `ws`. -/
def Distributes (distribute : Int → List Int → Checked (List Int)) (ws : List Int) : Prop :=
  ∀ t, 0 ≤ t → t ≤ maximumSafeInteger → (ws.sum = 0 → t = 0) →
    ∃ out, distribute t ws = .ok out ∧ out.length = ws.length ∧ out.sum = t
      ∧ (∀ s ∈ out, 0 ≤ s) ∧ (t ≤ ws.sum → List.Forall₂ (fun s w => s ≤ w) out ws)

section Totals

variable {distribute : Int → List Int → Checked (List Int)} {rate : Int}
variable {previous : VatCapacity} {xs : List LineAmounts}

private theorem sum_inputs_nonneg (hinput : ∀ x ∈ xs, 0 ≤ x.inputCents) :
    0 ≤ (xs.map (·.inputCents)).sum := by
  refine List.sum_nonneg ?_
  intro n hn
  obtain ⟨x, hx, rfl⟩ := List.mem_map.mp hn
  exact hinput x hx

private theorem input_le_sum (hinput : ∀ x ∈ xs, 0 ≤ x.inputCents) {x : LineAmounts}
    (hx : x ∈ xs) : x.inputCents ≤ (xs.map (·.inputCents)).sum := by
  refine List.single_le_sum ?_ _ (List.mem_map.mpr ⟨x, hx, rfl⟩)
  intro n hn
  obtain ⟨z, hz, rfl⟩ := List.mem_map.mp hn
  exact hinput z hz

/-- Net lines can be settled while there is room. -/
private theorem reconcileNet_total (hr : RejectsOverflow rejected)
    (hprev : previous.priceInputMode = .net)
    (hready : CanSettle .net rate previous.netCents previous.vatCents previous.inputCents
      (xs.map (·.inputCents)).sum)
    (hmode : ∀ x ∈ xs, x.priceInputMode = .net) (hinput : ∀ x ∈ xs, 0 ≤ x.inputCents)
    (hdist : Distributes distribute (xs.map (·.inputCents))) :
    ∃ ys, reconcileVatRate rejected rangeError subtractError distribute .net rate previous xs
        = .ok ys ∧ ∀ y ∈ ys, 0 ≤ y.netCents ∧ 0 ≤ y.vatCents := by
  obtain ⟨hrate, hnet0, hvat0, hnetLe, hvatLe, hmax, hexhausted⟩ := hready
  set total := (xs.map (·.inputCents)).sum with htotal
  have hsumNonneg : 0 ≤ total := sum_inputs_nonneg hinput
  have hx : ∀ x ∈ xs, x.netCents = x.inputCents := by
    intro x hx
    rw [LineAmounts.inputCents, hmode x hx]
  have hnets : xs.map (·.netCents) = xs.map (·.inputCents) := List.map_congr_left hx
  have hprevInput := inputCents_of_net hprev
  rw [hprevInput] at hnetLe hvatLe hmax hexhausted
  have hvatOf : vatOf .net rate (previous.netCents + total)
      = halfUp ((previous.netCents + total) * rate) 10000 := by
    show previous.netCents + total + halfUp ((previous.netCents + total) * rate) 10000
      - (previous.netCents + total) = _
    omega
  have hgross : grossOf .net rate (previous.netCents + total)
      = previous.netCents + total + halfUp ((previous.netCents + total) * rate) 10000 := rfl
  -- the current VAT is what the cumulative VAT is ahead of the earlier credits
  obtain ⟨out, hout, hlen, houtSum, houtNonneg, _⟩ := hdist
    (vatOf .net rate (previous.netCents + total) - previous.vatCents) (by omega) (by omega)
    (fun h0 => by rw [(hexhausted h0).2, Int.sub_self])
  have hshare : ∀ s ∈ out, s ≤ vatOf .net rate (previous.netCents + total) := by
    intro s hs
    have hle := List.single_le_sum houtNonneg s hs
    omega
  have hlines : (xs.zip out).mapM (fun p : LineAmounts × Int => do
      let grossCents ← addUnless rejected rangeError p.1.netCents p.2
      pure { p.1 with vatCents := p.2, grossCents })
      = .ok ((xs.zip out).map fun p =>
        { p.1 with vatCents := p.2, grossCents := p.1.netCents + p.2 }) := by
    refine mapM_eq_ok_map ?_
    rintro ⟨x, s⟩ hp
    obtain ⟨hmem, hs⟩ := List.of_mem_zip hp
    have hx0 := hinput x hmem
    have hxle : x.inputCents ≤ total := input_le_sum hinput hmem
    have hs0 := houtNonneg s hs
    have hsle := hshare s hs
    have hadd : addUnless rejected rangeError x.netCents s = .ok (x.netCents + s) :=
      (addUnless_eq_ok hr (by rw [hx x hmem]; omega)).mpr
        ⟨rfl, by rw [hx x hmem]; omega⟩
    show (addUnless rejected rangeError x.netCents s >>= fun _ => _) = _
    rw [hadd]
    rfl
  refine ⟨(xs.zip out).map fun p =>
      { p.1 with vatCents := p.2, grossCents := p.1.netCents + p.2 }, ?_, ?_⟩
  · simp only [reconcileVatRate, bind_eq_ok, roundHalfUp_eq_ok, subtractAmount_eq_ok, hnets]
    refine ⟨total, (sumM_eq_ok hr (fun x hmem => by
        rw [hx x hmem]; exact hinput x hmem) isAmount_zero).mpr
        ⟨by rw [hnets, Int.zero_add], by omega⟩,
      _, (addUnless_eq_ok hr (by omega)).mpr ⟨rfl, by omega⟩,
      _, ⟨Int.mul_nonneg (by omega) hrate, by omega, rfl, by omega⟩,
      _, ⟨rfl, by omega, by omega⟩, out, ?_, hlines⟩
    rw [← hvatOf]
    exact hout
  · intro y hy
    obtain ⟨⟨x, s⟩, hp, rfl⟩ := List.mem_map.mp hy
    obtain ⟨hmem, hs⟩ := List.of_mem_zip hp
    exact ⟨hx x hmem ▸ hinput x hmem, houtNonneg s hs⟩

/-- Gross lines can be settled while there is room. -/
private theorem reconcileGross_total (hr : RejectsOverflow rejected)
    (hprev : previous.priceInputMode = .gross)
    (hsum : previous.netCents + previous.vatCents = previous.grossCents)
    (hready : CanSettle .gross rate previous.netCents previous.vatCents previous.inputCents
      (xs.map (·.inputCents)).sum)
    (hmode : ∀ x ∈ xs, x.priceInputMode = .gross) (hinput : ∀ x ∈ xs, 0 ≤ x.inputCents)
    (hdist : Distributes distribute (xs.map (·.inputCents))) :
    ∃ ys, reconcileVatRate rejected rangeError subtractError distribute .gross rate previous xs
        = .ok ys ∧ ∀ y ∈ ys, 0 ≤ y.netCents ∧ 0 ≤ y.vatCents := by
  obtain ⟨hrate, hnet0, hvat0, hnetLe, hvatLe, hmax, hexhausted⟩ := hready
  set total := (xs.map (·.inputCents)).sum with htotal
  have hsumNonneg : 0 ≤ total := sum_inputs_nonneg hinput
  have hx : ∀ x ∈ xs, x.grossCents = x.inputCents := by
    intro x hx
    rw [LineAmounts.inputCents, hmode x hx]
  have hgrosses : xs.map (·.grossCents) = xs.map (·.inputCents) := List.map_congr_left hx
  have hprevInput := inputCents_of_gross hprev
  rw [hprevInput] at hnetLe hvatLe hmax hexhausted
  have hcum : previous.grossCents + total ≤ maximumSafeInteger := hmax
  have hvatCum : vatOf .gross rate (previous.grossCents + total)
      = previous.grossCents + total - netOf .gross rate (previous.grossCents + total) := rfl
  have hnetCum : netOf .gross rate (previous.grossCents + total)
      = halfUp ((previous.grossCents + total) * 10000) (10000 + rate) := rfl
  obtain ⟨out, hout, hlen, _, houtNonneg, houtLe⟩ := hdist
    (netOf .gross rate (previous.grossCents + total) - previous.netCents) (by omega) (by omega)
    (fun h0 => by rw [(hexhausted h0).1, Int.sub_self])
  -- the current net amount is at most the current gross amount, as the VAT did not fall
  have hshares := houtLe (by omega)
  rw [List.forall₂_map_right_iff] at hshares
  have hpairs : ∀ x s, (x, s) ∈ xs.zip out → s ≤ x.inputCents :=
    fun x s hp => (List.forall₂_iff_zip.mp hshares.flip).2 hp
  refine ⟨(xs.zip out).map fun p =>
      { p.1 with netCents := p.2, vatCents := p.1.grossCents - p.2 }, ?_, ?_⟩
  · simp only [reconcileVatRate, bind_eq_ok, pure_eq_ok, roundHalfUp_eq_ok,
      subtractAmount_eq_ok, hgrosses]
    refine ⟨total, (sumM_eq_ok hr (fun x hmem => by
        rw [hx x hmem]; exact hinput x hmem) isAmount_zero).mpr
        ⟨by rw [hgrosses, Int.zero_add], by omega⟩,
      _, (addUnless_eq_ok hr (by omega)).mpr ⟨rfl, by omega⟩,
      _, ⟨by omega, by omega, rfl, by omega⟩, _, ⟨rfl, by omega, by omega⟩, out, ?_, rfl⟩
    rw [← hnetCum]
    exact hout
  · intro y hy
    obtain ⟨⟨x, s⟩, hp, rfl⟩ := List.mem_map.mp hy
    obtain ⟨hmem, hs⟩ := List.of_mem_zip hp
    refine ⟨houtNonneg s hs, ?_⟩
    have hle : s ≤ x.inputCents := hpairs x s hp
    show 0 ≤ x.grossCents - s
    rw [hx x hmem]
    omega

/-- **NO FAILURE**: a rate that can be settled is settled when its VAT can be
    distributed, and no line ends up with a negative amount. -/
theorem reconcileVatRate_total (hr : RejectsOverflow rejected)
    (hprev : previous.priceInputMode = mode)
    (hsum : previous.netCents + previous.vatCents = previous.grossCents)
    (hready : CanSettle mode rate previous.netCents previous.vatCents previous.inputCents
      (xs.map (·.inputCents)).sum) (hmode : ∀ x ∈ xs, x.priceInputMode = mode)
    (hinput : ∀ x ∈ xs, 0 ≤ x.inputCents) (hdist : Distributes distribute (xs.map (·.inputCents))) :
    ∃ ys, reconcileVatRate rejected rangeError subtractError distribute mode rate previous xs
        = .ok ys ∧ ∀ y ∈ ys, 0 ≤ y.netCents ∧ 0 ≤ y.vatCents := by
  cases mode with
  | net => exact reconcileNet_total hr hprev hready hmode hinput hdist
  | gross => exact reconcileGross_total hr hprev hsum hready hmode hinput hdist

end Totals

end Parameters

/-! ## Settling all rates -/

/-- The lines `ys` are the lines `xs` with their tax settled after the lines
    `prev`: every rate of `xs` sits on the split of its cumulative input. -/
structure SettledLines (prev xs ys : List LineAmounts) : Prop where
  each : List.Forall₂ Resettles xs ys
  net : ∀ x ∈ xs, sumOn (·.netCents) x.vatRateBasisPoints prev
      + sumOn (·.netCents) x.vatRateBasisPoints ys
    = netOf x.priceInputMode x.vatRateBasisPoints
        (sumOn (·.inputCents) x.vatRateBasisPoints prev
          + sumOn (·.inputCents) x.vatRateBasisPoints xs)
  gross : ∀ x ∈ xs, sumOn (·.grossCents) x.vatRateBasisPoints prev
      + sumOn (·.grossCents) x.vatRateBasisPoints ys
    = grossOf x.priceInputMode x.vatRateBasisPoints
        (sumOn (·.inputCents) x.vatRateBasisPoints prev
          + sumOn (·.inputCents) x.vatRateBasisPoints xs)

/-- The amounts of a rate are the split of its input. -/
abbrev OnSplit (prev : List LineAmounts) (mode : PriceInputMode) (rate : Int) : Prop :=
  sumOn (·.netCents) rate prev = netOf mode rate (sumOn (·.inputCents) rate prev)
    ∧ sumOn (·.vatCents) rate prev = vatOf mode rate (sumOn (·.inputCents) rate prev)

/-- Settled lines add up. -/
theorem SettledLines.gross_total {prev xs ys : List LineAmounts} (h : SettledLines prev xs ys)
    (r : Int) : sumOn (·.grossCents) r ys = sumOn (·.netCents) r ys + sumOn (·.vatCents) r ys := by
  refine sumOn_split (fun y hy => ?_)
  obtain ⟨z, _, hzy⟩ := exists_left_of_forall₂ h.each hy
  exact hzy.reconciles

/-- What was settled leaves room for itself. -/
theorem SettledLines.leavesRoom {prev xs ys : List LineAmounts} (h : SettledLines prev xs ys)
    {x : LineAmounts} (hx : x ∈ xs) (hrate : 0 ≤ x.vatRateBasisPoints)
    (hprev : ∀ y ∈ prev, Reconciled y) (hys : ∀ y ∈ ys, Reconciled y)
    (hmax : grossOf x.priceInputMode x.vatRateBasisPoints
      (sumOn (·.inputCents) x.vatRateBasisPoints prev
        + sumOn (·.inputCents) x.vatRateBasisPoints xs) ≤ maximumSafeInteger)
    (hexhausted : sumOn (·.inputCents) x.vatRateBasisPoints xs = 0 →
      OnSplit prev x.priceInputMode x.vatRateBasisPoints) :
    LeavesRoom prev x.priceInputMode x.vatRateBasisPoints
      (sumOn (·.inputCents) x.vatRateBasisPoints xs) := by
  have hnet := h.net x hx
  have hgross := h.gross x hx
  have hprevGross := sumOn_gross (r := x.vatRateBasisPoints) hprev
  have hysGross := sumOn_gross (r := x.vatRateBasisPoints) hys
  have hysNet : 0 ≤ sumOn (·.netCents) x.vatRateBasisPoints ys :=
    sumOn_nonneg (fun y hy => (hys y hy).1)
  have hysVat : 0 ≤ sumOn (·.vatCents) x.vatRateBasisPoints ys :=
    sumOn_nonneg (fun y hy => (hys y hy).2.1)
  refine ⟨hrate, sumOn_nonneg (fun y hy => (hprev y hy).1),
    sumOn_nonneg (fun y hy => (hprev y hy).2.1), by omega, ?_, hmax, ?_⟩
  · rw [vatOf]
    omega
  · intro hzero
    rw [hzero, Int.add_zero]
    exact hexhausted hzero

/-- Settling changes no input amount. -/
theorem sumOn_input_of_resettles {xs ys : List LineAmounts}
    (h : List.Forall₂ Resettles xs ys) (r : Int) :
    sumOn (·.inputCents) r ys = sumOn (·.inputCents) r xs := by
  induction h with
  | nil => rfl
  | cons hxy _ ih => rw [sumOn_cons, sumOn_cons, hxy.rate, hxy.input, ih]

end VatDistribution
