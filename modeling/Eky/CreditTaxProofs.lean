import Eky.CreditLineProofs

/-! # The tax of a credit — settled over the current lines

    `allocateCurrentTaxByVatRate` groups the credited lines by rate, settles
    each group and puts the results back in the order of the lines.

    - `allocateCurrentTaxByVatRate_spec`: the lines come back with their tax
      settled, rate by rate;
    - `allocateCurrentTaxByVatRate_total`: this never fails while the earlier
      credits sit on the split of their input;
    - `calculateCreditInvoice_spec` and `calculateCreditInvoice_total`: the same
      for the whole calculation. -/

namespace CreditInvoice

open Fallible Apportionment OrderedMap InvoiceMoney VatGroups InvoiceCalculation
open VatDistribution

/-! ## Distribution over the lines of a rate -/

theorem distributeAmount_zero {a : Int} {ws out : List Int}
    (h : allocateToZeroValueLines a ws = .ok out) : out.length = ws.length ∧ out.sum = a := by
  simp only [allocateToZeroValueLines, bind_eq_ok, throwIf_eq_ok, exists_const, pure_eq_ok,
    ne_eq, Decidable.not_not] at h
  obtain ⟨rfl, rfl⟩ := h
  simp

/-- A distribution over zero-value lines has nothing to allocate. -/
theorem distributeAmount_no_weight {t : Int} {ws out : List Int} (hws : ws.sum = 0)
    (h : distributeAmount t ws = .ok out) : t = 0 := by
  rw [distributeAmount, VatDistribution.distributeAmount, bind_eq_ok] at h
  obtain ⟨total, htotal, h⟩ := h
  have hsum : total = ws.sum := by
    have hsame := foldlM_add_ok (f := fun w => w) htotal
    rw [hsame, List.map_id', Int.zero_add]
  rw [if_pos (hsum.trans hws)] at h
  simp only [allocateToZeroValueLines, bind_eq_ok, throwIf_eq_ok, exists_const, ne_eq,
    Decidable.not_not] at h
  exact h.1

/-- Over positive weights, and over zero-value lines when there is nothing to
    allocate, a distribution gets through. -/
theorem distributeAmount_ready {ws : List Int} (hws : ∀ w ∈ ws, 0 ≤ w)
    (hmax : ws.sum ≤ maximumSafeInteger) (t : Int) (ht : 0 ≤ t)
    (htmax : t ≤ maximumSafeInteger) (hzero : ws.sum = 0 → t = 0) :
    ∃ out, distributeAmount t ws = .ok out ∧ out.length = ws.length ∧ out.sum = t
      ∧ (∀ s ∈ out, 0 ≤ s) ∧ (t ≤ ws.sum → List.Forall₂ (fun s w => s ≤ w) out ws) := by
  have hnonneg : 0 ≤ ws.sum := List.sum_nonneg hws
  by_cases hw : ws.sum = 0
  · have hsum := (@sumM_eq_ok outOfRange _ rangeError rejectsOverflow_outOfRange Int
      (fun w => w) ws hws 0 0 isAmount_zero).mpr
      ⟨by rw [List.map_id', Int.zero_add, hw], by decide⟩
    refine ⟨ws.map fun _ => 0, ?_, by simp, by simp [hzero hw], by simp, ?_⟩
    · rw [distributeAmount, VatDistribution.distributeAmount, bind_eq_ok]
      refine ⟨0, hsum, ?_⟩
      rw [if_pos rfl, allocateToZeroValueLines, bind_eq_ok]
      exact ⟨(), throwIf_of_not (fun h => h (hzero hw)), rfl⟩
    · intro _
      rw [List.forall₂_map_left_iff, List.forall₂_same]
      exact hws
  · have hpos : 0 < ws.sum := by omega
    exact VatDistribution.distributeAmount_ready rejectsOverflow_outOfRange ht htmax hws hpos
      hmax

/-! ## One rate -/

/-- `y` is the credited line `x` with its tax settled. -/
def ResettlesLine (x y : CalculatedCreditLine) : Prop :=
  y.sourceInvoiceLineId = x.sourceInvoiceLineId ∧ Resettles x.toLineAmounts y.toLineAmounts

private theorem resettlesLine_zipWith {lines : List CalculatedCreditLine}
    {settled : List LineAmounts}
    (h : List.Forall₂ Resettles (lines.map (·.toLineAmounts)) settled) :
    List.Forall₂ ResettlesLine lines
        (lines.zipWith (fun line amounts => ⟨amounts, line.sourceInvoiceLineId⟩) settled)
      ∧ (lines.zipWith (fun line amounts => (⟨amounts, line.sourceInvoiceLineId⟩
          : CalculatedCreditLine)) settled).map (·.toLineAmounts) = settled := by
  induction lines generalizing settled with
  | nil =>
      cases h with
      | nil => exact ⟨List.Forall₂.nil, rfl⟩
  | cons x rest ih =>
      cases h with
      | cons hxy hrest =>
          obtain ⟨hall, hmap⟩ := ih hrest
          exact ⟨List.Forall₂.cons ⟨rfl, hxy⟩ hall, congrArg _ hmap⟩

variable {groups : List (Int × List CalculatedCreditLine)}
  {previousByRate : OrderedMap Int VatCapacity} {prev : List LineAmounts}
  {reconciled : List (List CalculatedCreditLine)}
  {capacities : OrderedMap String CreditLineCapacity} {rate : Int}
  {group out : List CalculatedCreditLine} {mode : PriceInputMode}

section Collation

variable {localeCompare : String → String → Int}

/-- The lines of one rate come back settled, in an order of their own. -/
theorem allocateCurrentTaxOfRate_spec (hprev : Collects prev previousByRate)
    (hprevRec : ∀ x ∈ prev, Reconciled x)
    (hgroup : ∀ x ∈ group, x.priceInputMode = mode ∧ 0 ≤ x.inputCents)
    (h : allocateCurrentTaxOfRate localeCompare previousByRate rate group = .ok out) :
    ∃ ordered : List CalculatedCreditLine, ordered.Perm group
      ∧ List.Forall₂ ResettlesLine ordered out
      ∧ (group ≠ [] →
          sumOn (·.netCents) rate prev + (out.map (·.netCents)).sum
              = netOf mode rate (sumOn (·.inputCents) rate prev
                + (group.map (·.inputCents)).sum)
            ∧ sumOn (·.grossCents) rate prev + (out.map (·.grossCents)).sum
              = grossOf mode rate (sumOn (·.inputCents) rate prev
                + (group.map (·.inputCents)).sum)) := by
  cases hcases : group with
  | nil =>
      rw [hcases] at h
      have hout : [] = out := pure_eq_ok.mp h
      subst hout
      exact ⟨[], List.Perm.refl _, List.Forall₂.nil, fun hne => absurd rfl hne⟩
  | cons first rest =>
      rw [← hcases]
      have hfirst : first.priceInputMode = mode :=
        (hgroup first (hcases ▸ List.mem_cons_self)).1
      rw [hcases] at h
      simp only [allocateCurrentTaxOfRate, bind_eq_ok, throwIf_eq_ok, exists_const,
        pure_eq_ok] at h
      rw [← hcases, hfirst] at h
      obtain ⟨_, hprevMode, settled, hsettled, rfl⟩ := h
      set ordered := group.insertionSort fun a b =>
        localeCompare a.sourceInvoiceLineId b.sourceInvoiceLineId ≤ 0
      have hperm : ordered.Perm group := List.perm_insertionSort _ _
      set previous := (previousByRate.get? rate).getD ⟨mode, 0, 0, 0⟩ with hprevious
      obtain ⟨hnet, hvat, hgross, hinput⟩ := hprev.previous rate mode hprevious
      have hspec : SettledRate mode rate previous (ordered.map (·.toLineAmounts)) settled :=
        reconcileVatRate_spec (fun t ws out hws hout => distributeAmount_spec rejectsOverflow_outOfRange
          (fun a ws out _ hzero => distributeAmount_zero hzero) hws hout)
        (Decidable.not_not.mp hprevMode)
        (by rw [hnet, hvat, hgross, sumOn_gross hprevRec])
        (by
          intro x hx
          obtain ⟨l, hl, rfl⟩ := List.mem_map.mp hx
          exact (hgroup l (hperm.mem_iff.mp hl)).1)
        (by
          intro x hx
          obtain ⟨l, hl, rfl⟩ := List.mem_map.mp hx
          exact (hgroup l (hperm.mem_iff.mp hl)).2)
        hsettled
      obtain ⟨hall, hmap⟩ := resettlesLine_zipWith hspec.each
      refine ⟨ordered, hperm, hall, fun _ => ?_⟩
      have hsum : ((ordered.map (·.toLineAmounts)).map (·.inputCents)).sum
          = (group.map (·.inputCents)).sum := by
        rw [List.map_map]
        exact (hperm.map _).sum_eq
      have hnetSum := hspec.net
      have hgrossSum := hspec.gross
      rw [hsum, hinput, hnet] at hnetSum
      rw [hsum, hinput, hgross] at hgrossSum
      rw [← hmap, List.map_map] at hnetSum hgrossSum
      exact ⟨hnetSum, hgrossSum⟩

/-- When a group has no input, the earlier credits of its rate sit on the split of
    theirs. -/
theorem allocateCurrentTaxOfRate_exhausted (hprev : Collects prev previousByRate)
    (hprevRec : ∀ x ∈ prev, Reconciled x) (hne : group ≠ [])
    (hgroup : ∀ x ∈ group, x.priceInputMode = mode) (hzero : (group.map (·.inputCents)).sum = 0)
    (h : allocateCurrentTaxOfRate localeCompare previousByRate rate group = .ok out) :
    OnSplit prev mode rate := by
  obtain ⟨first, rest, hcases⟩ := List.exists_cons_of_ne_nil hne
  have hfirst : first.priceInputMode = mode := hgroup first (hcases ▸ List.mem_cons_self)
  rw [hcases] at h
  simp only [allocateCurrentTaxOfRate, bind_eq_ok, throwIf_eq_ok, exists_const,
    pure_eq_ok] at h
  rw [← hcases, hfirst] at h
  obtain ⟨_, hprevMode, settled, hsettled, _⟩ := h
  have hperm := List.perm_insertionSort (fun a b : CalculatedCreditLine =>
    localeCompare a.sourceInvoiceLineId b.sourceInvoiceLineId ≤ 0) group
  set previous := (previousByRate.get? rate).getD ⟨mode, 0, 0, 0⟩ with hprevious
  obtain ⟨hnet, hvat, hgross, hinput⟩ := hprev.previous rate mode hprevious
  have hall := reconcileVatRate_exhausted
    (fun t ws out hws hout => distributeAmount_no_weight hws hout)
    (Decidable.not_not.mp hprevMode) (by rw [hnet, hvat, hgross, sumOn_gross hprevRec])
    (by
      intro x hx
      obtain ⟨l, hl, rfl⟩ := List.mem_map.mp hx
      exact hgroup l (hperm.mem_iff.mp hl))
    (by
      rw [List.map_map]
      exact (hperm.map _).sum_eq.trans hzero)
    hsettled
  rw [hnet, hvat, hinput] at hall
  exact hall

/-- The tax of a rate can be allocated whenever the earlier credits of the rate
    leave room for it. -/
theorem allocateCurrentTaxOfRate_total (hprev : Collects prev previousByRate)
    (hprevRec : ∀ x ∈ prev, Reconciled x)
    (hgroup : ∀ x ∈ group, x.priceInputMode = mode ∧ 0 ≤ x.inputCents)
    (hmode : ∀ x ∈ prev, x.vatRateBasisPoints = rate → x.priceInputMode = mode)
    (hready : LeavesRoom prev mode rate (group.map (·.inputCents)).sum) :
    ∃ out, allocateCurrentTaxOfRate localeCompare previousByRate rate group = .ok out
      ∧ ∀ y ∈ out, 0 ≤ y.netCents ∧ 0 ≤ y.vatCents := by
  cases hcases : group with
  | nil => exact ⟨[], rfl, fun y hy => (nomatch hy)⟩
  | cons first rest =>
      rw [← hcases]
      have hfirst : first.priceInputMode = mode :=
        (hgroup first (hcases ▸ List.mem_cons_self)).1
      set ordered := group.insertionSort fun a b =>
        localeCompare a.sourceInvoiceLineId b.sourceInvoiceLineId ≤ 0 with hordered
      have hperm : ordered.Perm group := List.perm_insertionSort _ _
      set previous := (previousByRate.get? rate).getD ⟨mode, 0, 0, 0⟩ with hprevious
      obtain ⟨hpnet, hpvat, hpgross, hpinput⟩ := hprev.previous rate mode hprevious
      have hpmode : previous.priceInputMode = mode := by
        rw [hprevious]
        cases hc : previousByRate.get? rate with
        | none => rfl
        | some c =>
            obtain ⟨x, hx, hr⟩ := hprev.exists_of_get? hc
            exact (hprev.mode rate c hc x hx hr).symm.trans (hmode x hx hr)
      have hsum : ((ordered.map (·.toLineAmounts)).map (·.inputCents)).sum
          = (group.map (·.inputCents)).sum := by
        rw [List.map_map]
        exact (hperm.map _).sum_eq
      have hprevNonneg : 0 ≤ sumOn (·.inputCents) rate prev :=
        sumOn_nonneg (fun x hx => (hprevRec x hx).input_nonneg)
      have hweights : ∀ w ∈ (ordered.map (·.toLineAmounts)).map (·.inputCents), 0 ≤ w := by
        intro w hw
        rw [List.map_map] at hw
        obtain ⟨l, hl, rfl⟩ := List.mem_map.mp hw
        exact (hgroup l (hperm.mem_iff.mp hl)).2
      -- the sum of the weights is part of the gross amount, which is in range
      have hweightMax : ((ordered.map (·.toLineAmounts)).map (·.inputCents)).sum
          ≤ maximumSafeInteger := by
        rw [hsum]
        have hnonneg := List.sum_nonneg hweights
        have hle : sumOn (·.inputCents) rate prev + (group.map (·.inputCents)).sum
            ≤ grossOf mode rate (sumOn (·.inputCents) rate prev
              + (group.map (·.inputCents)).sum) :=
          input_le_grossOf hready.rate_nonneg (by omega)
        have hmax := hready.max
        omega
      obtain ⟨settled, hsettled, hnonneg⟩ : ∃ settled,
          reconcileVatRate outOfRange rangeError exceedsCumulative distributeAmount mode rate
              previous (ordered.map (·.toLineAmounts)) = .ok settled
            ∧ ∀ y ∈ settled, 0 ≤ y.netCents ∧ 0 ≤ y.vatCents :=
        reconcileVatRate_total rejectsOverflow_outOfRange hpmode
        (by rw [hpnet, hpvat, hpgross, sumOn_gross hprevRec])
        (by rw [hpnet, hpvat, hpinput, hsum]; exact hready)
        (by
          intro x hx
          obtain ⟨l, hl, rfl⟩ := List.mem_map.mp hx
          exact (hgroup l (hperm.mem_iff.mp hl)).1)
        (by
          intro x hx
          obtain ⟨l, hl, rfl⟩ := List.mem_map.mp hx
          exact (hgroup l (hperm.mem_iff.mp hl)).2)
        (fun t ht htmax hzero => distributeAmount_ready hweights hweightMax t ht htmax hzero)
      refine ⟨ordered.zipWith (fun line amounts => ⟨amounts, line.sourceInvoiceLineId⟩)
        settled, ?_, ?_⟩
      · rw [hcases, allocateCurrentTaxOfRate]
        rw [← hcases, hfirst]
        simp only [bind_eq_ok, throwIf_eq_ok, exists_const, pure_eq_ok]
        refine ⟨?_, fun h => h hpmode, settled, hsettled, rfl⟩
        rintro ⟨x, hx, hne⟩
        exact hne (hgroup x hx).1
      · intro y hy
        have heach := reconcileVatRate_each (fun t ws out hout => by
            refine distributeAmount_length (fun a ws out hz => (distributeAmount_zero hz).1) hout)
          (by
            intro x hx
            obtain ⟨l, hl, rfl⟩ := List.mem_map.mp hx
            exact (hgroup l (hperm.mem_iff.mp hl)).1) hsettled
        have hmem : y.toLineAmounts ∈ settled := by
          rw [← (resettlesLine_zipWith heach).2]
          exact List.mem_map_of_mem hy
        exact hnonneg _ hmem

/-! ## All rates -/

/-- The lines that come back of each group are the lines of the group. -/
private theorem groups_resettled
    (h : groups.mapM (fun g => allocateCurrentTaxOfRate localeCompare previousByRate g.1 g.2)
      = .ok reconciled) : List.Forall₂ (fun g out => ∃ ordered : List CalculatedCreditLine,
      ordered.Perm g.2 ∧ List.Forall₂ ResettlesLine ordered out) groups reconciled := by
  have hall := mapM_eq_ok.mp h
  clear h
  induction hall with
  | nil => exact List.Forall₂.nil
  | @cons g out gs outs hg _ ih =>
      refine List.Forall₂.cons ?_ ih
      cases hcases : g.2 with
      | nil =>
          rw [hcases] at hg
          have hout : [] = out := pure_eq_ok.mp hg
          subst hout
          exact ⟨[], List.Perm.refl _, List.Forall₂.nil⟩
      | cons first rest =>
          rw [hcases] at hg
          simp only [allocateCurrentTaxOfRate, bind_eq_ok, throwIf_eq_ok, exists_const,
            pure_eq_ok] at hg
          obtain ⟨hmodes, _, settled, hsettled, rfl⟩ := hg
          have hperm := List.perm_insertionSort (fun a b : CalculatedCreditLine =>
            localeCompare a.sourceInvoiceLineId b.sourceInvoiceLineId ≤ 0) (first :: rest)
          refine ⟨_, hperm, (resettlesLine_zipWith (reconcileVatRate_each
            (fun t ws out hout => distributeAmount_length
              (fun a ws out hz => (distributeAmount_zero hz).1) hout) ?_ hsettled)).1⟩
          intro x hx
          obtain ⟨l, hl, rfl⟩ := List.mem_map.mp hx
          by_contra hne
          exact hmodes ⟨l, hperm.mem_iff.mp hl, hne⟩

private theorem flatten_resettled
    (h : List.Forall₂ (fun g out => ∃ ordered : List CalculatedCreditLine,
      ordered.Perm g.2 ∧ List.Forall₂ ResettlesLine ordered out) groups reconciled) :
    ∃ ordered : List CalculatedCreditLine, ordered.Perm (groups.flatMap Prod.snd)
      ∧ List.Forall₂ ResettlesLine ordered reconciled.flatten := by
  induction h with
  | nil => exact ⟨[], List.Perm.refl _, List.Forall₂.nil⟩
  | @cons g out gs outs hg _ ih =>
      obtain ⟨o₁, hperm₁, hall₁⟩ := hg
      obtain ⟨o₂, hperm₂, hall₂⟩ := ih
      rw [List.flatMap_cons, List.flatten_cons]
      exact ⟨o₁ ++ o₂, hperm₁.append hperm₂, List.rel_append hall₁ hall₂⟩

private theorem resettled_ids {xs ys : List CalculatedCreditLine}
    (h : List.Forall₂ ResettlesLine xs ys) :
    ys.map (·.sourceInvoiceLineId) = xs.map (·.sourceInvoiceLineId) := by
  induction h with
  | nil => rfl
  | cons hxy _ ih => rw [List.map_cons, List.map_cons, hxy.1, ih]

/-- Looking the settled lines up by id puts them back in the order of the lines. -/
private theorem lookup_settled {lines flat ordered : List CalculatedCreditLine}
    (hnodup : (lines.map (·.sourceInvoiceLineId)).Nodup) (hperm : ordered.Perm lines)
    (hall : List.Forall₂ ResettlesLine ordered flat) :
    ∃ ys, lines.mapM (readReconciledLine
        (ofList (flat.map fun l => (l.sourceInvoiceLineId, l)))) = .ok ys
      ∧ List.Forall₂ ResettlesLine lines ys ∧ ys.Perm flat := by
  have hids : (flat.map (·.sourceInvoiceLineId)).Perm (lines.map (·.sourceInvoiceLineId)) := by
    rw [resettled_ids hall]
    exact hperm.map _
  have hfound : ∀ x y, x ∈ lines → readReconciledLine
      (ofList (flat.map fun l => (l.sourceInvoiceLineId, l))) x = .ok y →
      y ∈ flat ∧ ResettlesLine x y := by
    intro x y hx hxy
    have hmem := mem_of_get?_ofList (orThrow_eq_ok.mp hxy)
    obtain ⟨y', hy', heq⟩ := List.mem_map.mp hmem
    obtain ⟨hid, rfl⟩ := Prod.mk.inj heq
    obtain ⟨x', hx', hres⟩ := exists_left_of_forall₂ hall hy'
    have hsame : x' = x := List.inj_on_of_nodup_map hnodup (hperm.mem_iff.mp hx') hx
      (hres.1.symm.trans hid)
    exact ⟨hy', hsame ▸ hres⟩
  obtain ⟨ys, hys⟩ : ∃ ys, lines.mapM (readReconciledLine
      (ofList (flat.map fun l => (l.sourceInvoiceLineId, l)))) = .ok ys := by
    refine mapM_total (fun x hx => ?_)
    have hkey : x.sourceInvoiceLineId
        ∈ (flat.map fun l => (l.sourceInvoiceLineId, l)).map Prod.fst := by
      rw [List.map_map]
      exact hids.mem_iff.mpr (List.mem_map_of_mem hx)
    obtain ⟨y, hy⟩ := exists_get?_ofList hkey
    exact ⟨y, orThrow_eq_ok.mpr hy⟩
  have hpairs : List.Forall₂ (fun x y => y ∈ flat ∧ ResettlesLine x y) lines ys := by
    have heach := mapM_eq_ok.mp hys
    clear hys hids hperm hnodup
    induction heach with
    | nil => exact List.Forall₂.nil
    | @cons x y xs ys hxy _ ih =>
        exact List.Forall₂.cons (hfound x y List.mem_cons_self hxy)
          (ih (fun x' y' hx' => hfound x' y' (List.mem_cons_of_mem x hx')))
  have hsettled : List.Forall₂ ResettlesLine lines ys := hpairs.imp (fun _ _ h => h.2)
  have hlength : flat.length ≤ lines.length := by
    have hsame := hids.length_eq
    rw [List.length_map, List.length_map] at hsame
    exact Nat.le_of_eq hsame
  exact ⟨ys, hys, hsettled, perm_of_keys (hpairs.imp fun _ _ h => ⟨h.1, h.2.1⟩) hnodup hlength⟩

/-- What is settled for the group of a rate is what the rate amounts to. -/
private theorem sumOn_flatten {f : LineAmounts → Int}
    (h : List.Forall₂ (fun g out => ∀ y ∈ out, y.vatRateBasisPoints = g.1) groups reconciled)
    (hnodup : (groups.map Prod.fst).Nodup) {g : Int × List CalculatedCreditLine}
    (hmem : (g, out) ∈ groups.zip reconciled) :
    sumOn f g.1 (reconciled.flatten.map (·.toLineAmounts))
      = (out.map (fun y => f y.toLineAmounts)).sum := by
  induction h with
  | nil => exact nomatch hmem
  | @cons g₀ out₀ gs outs hg hgs ih =>
      rw [List.map_cons, List.nodup_cons] at hnodup
      rw [List.flatten_cons, List.map_append, sumOn_append]
      rw [List.zip_cons_cons, List.mem_cons] at hmem
      rcases hmem with heq | hmem
      · obtain ⟨rfl, rfl⟩ := Prod.mk.inj heq
        have hrest : sumOn f g.1 (outs.flatten.map (·.toLineAmounts)) = 0 := by
          refine sumOn_of_none (fun x hx hr => ?_)
          obtain ⟨y, hy, rfl⟩ := List.mem_map.mp hx
          obtain ⟨out', hout', hy'⟩ := List.mem_flatten.mp hy
          obtain ⟨g', hg', hrate⟩ := exists_left_of_forall₂ hgs hout'
          exact hnodup.1 (List.mem_map.mpr ⟨g', hg', (hrate y hy').symm.trans hr⟩)
        have hself : withKey (fun y : CalculatedCreditLine => y.vatRateBasisPoints) g.1 out
            = out := List.filter_eq_self.mpr (fun y hy => decide_eq_true (hg y hy))
        rw [hrest, Int.add_zero, sumOn_map, hself]
      · have hne : g₀.1 ≠ g.1 := fun heq => hnodup.1
          (List.mem_map.mpr ⟨g, (List.of_mem_zip hmem).1, heq.symm⟩)
        have hhead : sumOn f g.1 (out₀.map (·.toLineAmounts)) = 0 := by
          refine sumOn_of_none (fun x hx hr => ?_)
          obtain ⟨y, hy, rfl⟩ := List.mem_map.mp hx
          exact hne ((hg y hy).symm.trans hr)
        rw [hhead, Int.zero_add]
        exact ih hnodup.2 hmem

/-- The settled lines are the credited lines, in their order. -/
theorem allocateCurrentTaxByVatRate_each {lines ys : List CalculatedCreditLine}
    {allocations : List PreviousCreditLineAllocation}
    (hnodup : (lines.map (·.sourceInvoiceLineId)).Nodup)
    (h : allocateCurrentTaxByVatRate localeCompare lines allocations capacities = .ok ys) :
    List.Forall₂ ResettlesLine lines ys := by
  simp only [allocateCurrentTaxByVatRate, bind_eq_ok] at h
  obtain ⟨previousByRate, _, reconciled, hreconciled, hlookup⟩ := h
  obtain ⟨ordered, hperm, hall⟩ := flatten_resettled (groups_resettled hreconciled)
  obtain ⟨zs, hzs, hsettled, _⟩ := lookup_settled hnodup
    (hperm.trans (groupBy_flatten_perm _ lines)) hall
  rw [hzs] at hlookup
  exact Except.ok.inj hlookup ▸ hsettled

/-- The sum of a group is the sum at its rate. -/
private theorem group_sum {lines : List CalculatedCreditLine} (f : LineAmounts → Int) (rate : Int) :
    ((withKey (fun l : CalculatedCreditLine => l.vatRateBasisPoints) rate lines).map
      (fun l => f l.toLineAmounts)).sum = sumOn f rate (lines.map (·.toLineAmounts)) :=
  (sumOn_map _ lines).symm

/-- The groups of the current lines, each with the mode of its lines. -/
private theorem group_spec {lines : List CalculatedCreditLine}
    (hmode : OneModePerRate (prev ++ lines.map (·.toLineAmounts)))
    (hlines : ∀ x ∈ lines, 0 ≤ x.inputCents) :
    ∀ g ∈ groupBy (fun l : CalculatedCreditLine => l.vatRateBasisPoints) lines,
      ∃ x ∈ lines, x.vatRateBasisPoints = g.1
        ∧ g.2 = withKey (fun l : CalculatedCreditLine => l.vatRateBasisPoints) g.1 lines
        ∧ ∀ l ∈ g.2, l.priceInputMode = x.priceInputMode ∧ 0 ≤ l.inputCents := by
  rintro ⟨rate, group⟩ hg
  obtain ⟨⟨x, hx, rfl⟩, rfl⟩ := mem_groupBy.mp hg
  refine ⟨x, hx, rfl, rfl, ?_⟩
  intro l hl
  obtain ⟨hl, hr⟩ := mem_withKey.mp hl
  exact ⟨hmode l.toLineAmounts (List.mem_append_right _ (List.mem_map_of_mem hl))
    x.toLineAmounts (List.mem_append_right _ (List.mem_map_of_mem hx)) hr, hlines l hl⟩

/-- **THE TAX OF A CREDIT**, when it is settled, brings every rate to the split of its
    cumulative input; a rate without current input was there before. -/
theorem allocateCurrentTaxByVatRate_spec {lines ys : List CalculatedCreditLine}
    {allocations : List PreviousCreditLineAllocation}
    (hresolve : allocations.mapM (resolveAllocation capacities) = .ok prev)
    (hprev : ∀ x ∈ prev, Reconciled x)
    (hmode : OneModePerRate (prev ++ lines.map (·.toLineAmounts)))
    (hlines : ∀ x ∈ lines, 0 ≤ x.inputCents) (hnodup : (lines.map (·.sourceInvoiceLineId)).Nodup)
    (h : allocateCurrentTaxByVatRate localeCompare lines allocations capacities = .ok ys) :
    SettledLines prev (lines.map (·.toLineAmounts)) (ys.map (·.toLineAmounts))
      ∧ ∀ x ∈ lines,
        sumOn (·.inputCents) x.vatRateBasisPoints (lines.map (·.toLineAmounts)) = 0 →
          OnSplit prev x.priceInputMode x.vatRateBasisPoints := by
  simp only [allocateCurrentTaxByVatRate, bind_eq_ok] at h
  obtain ⟨previousByRate, hprevious, reconciled, hreconciled, hlookup⟩ := h
  obtain ⟨prev', hresolve', hprevious⟩ := groupResolvedM_eq_ok.mp hprevious
  obtain rfl : prev = prev' := Except.ok.inj (hresolve.symm.trans hresolve')
  have hcollects : Collects prev previousByRate := Collects.empty.extend hprevious
  have hgroup := group_spec hmode hlines
  obtain ⟨ordered, hperm, hall⟩ := flatten_resettled (groups_resettled hreconciled)
  obtain ⟨zs, hzs, hsettled, hflat⟩ := lookup_settled hnodup
    (hperm.trans (groupBy_flatten_perm _ lines)) hall
  rw [hzs] at hlookup
  obtain rfl := Except.ok.inj hlookup
  have hlen := (mapM_eq_ok.mp hreconciled).length_eq
  have hspec : ∀ g out, (g, out) ∈ (groupBy (fun l : CalculatedCreditLine =>
      l.vatRateBasisPoints) lines).zip reconciled →
      ∀ x ∈ lines, x.vatRateBasisPoints = g.1 → ∃ ordered : List CalculatedCreditLine,
        ordered.Perm g.2 ∧ List.Forall₂ ResettlesLine ordered out
        ∧ sumOn (·.netCents) g.1 prev + (out.map (·.netCents)).sum
            = netOf x.priceInputMode g.1 (sumOn (·.inputCents) g.1 prev
              + (g.2.map (·.inputCents)).sum)
        ∧ sumOn (·.grossCents) g.1 prev + (out.map (·.grossCents)).sum
            = grossOf x.priceInputMode g.1 (sumOn (·.inputCents) g.1 prev
              + (g.2.map (·.inputCents)).sum)
        ∧ ((g.2.map (·.inputCents)).sum = 0 → OnSplit prev x.priceInputMode g.1) := by
    intro g out hz x hx hr
    obtain ⟨x', hx', hr', hg2, hmodes⟩ := hgroup g (List.of_mem_zip hz).1
    have hsame : x'.priceInputMode = x.priceInputMode :=
      hmode x'.toLineAmounts (List.mem_append_right _ (List.mem_map_of_mem hx'))
        x.toLineAmounts (List.mem_append_right _ (List.mem_map_of_mem hx))
        (hr'.trans hr.symm)
    have hallocated := List.forall₂_zip (mapM_eq_ok.mp hreconciled) hz
    obtain ⟨ordered, hperm, hall, hsums⟩ := allocateCurrentTaxOfRate_spec hcollects hprev
      (fun l hl => ⟨(hmodes l hl).1.trans hsame, (hmodes l hl).2⟩) hallocated
    have hne : g.2 ≠ [] := by
      rw [hg2]
      exact List.ne_nil_of_mem (mem_withKey.mpr ⟨hx, hr⟩)
    obtain ⟨hnet, hgross⟩ := hsums hne
    exact ⟨ordered, hperm, hall, hnet, hgross, fun hzero =>
      allocateCurrentTaxOfRate_exhausted hcollects hprev hne
        (fun l hl => (hmodes l hl).1.trans hsame) hzero hallocated⟩
  have hrates : List.Forall₂ (fun (g : Int × List CalculatedCreditLine) out =>
      ∀ y ∈ out, y.vatRateBasisPoints = g.1)
      (groupBy (fun l : CalculatedCreditLine => l.vatRateBasisPoints) lines)
      reconciled := by
    refine List.forall₂_iff_zip.mpr ⟨hlen, fun {g out} hz y hy => ?_⟩
    obtain ⟨x, hx, hr, hg2, _⟩ := hgroup g (List.of_mem_zip hz).1
    obtain ⟨ordered, hperm, hall, _⟩ := hspec g out hz x hx hr
    obtain ⟨l, hl, hres⟩ := exists_left_of_forall₂ hall hy
    have hl' := hperm.mem_iff.mp hl
    rw [hg2, mem_withKey] at hl'
    exact hres.2.rate.trans hl'.2
  have hkeys : ((groupBy (fun l : CalculatedCreditLine => l.vatRateBasisPoints) lines).map
      Prod.fst).Nodup := by
    rw [groupBy, List.map_map]
    exact (List.map_id _).symm ▸ nodup_appearance List.nodup_nil
  -- the sums of a rate over all settled lines are those of its group
  have hsums : ∀ x ∈ lines, ∃ out : List CalculatedCreditLine,
      (∀ f : LineAmounts → Int, sumOn f x.vatRateBasisPoints (zs.map (·.toLineAmounts))
        = (out.map (fun y => f y.toLineAmounts)).sum)
      ∧ sumOn (·.netCents) x.vatRateBasisPoints prev + (out.map (·.netCents)).sum
          = netOf x.priceInputMode x.vatRateBasisPoints
            (sumOn (·.inputCents) x.vatRateBasisPoints prev
              + sumOn (·.inputCents) x.vatRateBasisPoints (lines.map (·.toLineAmounts)))
      ∧ sumOn (·.grossCents) x.vatRateBasisPoints prev + (out.map (·.grossCents)).sum
          = grossOf x.priceInputMode x.vatRateBasisPoints
            (sumOn (·.inputCents) x.vatRateBasisPoints prev
              + sumOn (·.inputCents) x.vatRateBasisPoints (lines.map (·.toLineAmounts)))
      ∧ (sumOn (·.inputCents) x.vatRateBasisPoints (lines.map (·.toLineAmounts)) = 0 →
        OnSplit prev x.priceInputMode x.vatRateBasisPoints) := by
    intro x hx
    have hg : (x.vatRateBasisPoints, withKey (fun l : CalculatedCreditLine =>
        l.vatRateBasisPoints) x.vatRateBasisPoints lines)
        ∈ groupBy (fun l : CalculatedCreditLine => l.vatRateBasisPoints) lines :=
      mem_groupBy.mpr ⟨⟨x, hx, rfl⟩, rfl⟩
    have hzips : List.Forall₂ (fun g out => (g, out) ∈ (groupBy
        (fun l : CalculatedCreditLine => l.vatRateBasisPoints) lines).zip reconciled)
        (groupBy (fun l : CalculatedCreditLine => l.vatRateBasisPoints) lines)
        reconciled := List.forall₂_iff_zip.mpr ⟨hlen, fun hz => hz⟩
    obtain ⟨out, _, hz⟩ := exists_right_of_forall₂ hzips hg
    obtain ⟨_, _, _, hnet, hgross, hexhausted⟩ := hspec _ out hz x hx rfl
    rw [group_sum (fun l => l.inputCents)] at hnet hgross hexhausted
    refine ⟨out, fun f => ?_, hnet, hgross, hexhausted⟩
    rw [sumOn_perm (hflat.map _)]
    exact sumOn_flatten hrates hkeys hz
  refine ⟨⟨?_, ?_, ?_⟩, ?_⟩
  · rw [List.forall₂_map_left_iff, List.forall₂_map_right_iff]
    exact hsettled.imp (fun _ _ h => h.2)
  · intro a ha
    obtain ⟨x, hx, rfl⟩ := List.mem_map.mp ha
    obtain ⟨out, hout, hnet, _⟩ := hsums x hx
    rw [hout]
    exact hnet
  · intro a ha
    obtain ⟨x, hx, rfl⟩ := List.mem_map.mp ha
    obtain ⟨out, hout, _, hgross, _⟩ := hsums x hx
    rw [hout]
    exact hgross
  · intro x hx
    obtain ⟨_, _, _, _, hexhausted⟩ := hsums x hx
    exact hexhausted

/-- The tax of a credit can be settled as long as the earlier credits leave room for it. -/
theorem allocateCurrentTaxByVatRate_total {lines : List CalculatedCreditLine}
    {allocations : List PreviousCreditLineAllocation}
    (hresolve : allocations.mapM (resolveAllocation capacities) = .ok prev)
    (hprev : ∀ x ∈ prev, Reconciled x)
    (hmode : OneModePerRate (prev ++ lines.map (·.toLineAmounts)))
    (hprevMax : ∀ r, sumOn (·.grossCents) r prev ≤ maximumSafeInteger)
    (hlines : ∀ x ∈ lines, 0 ≤ x.inputCents) (hnodup : (lines.map (·.sourceInvoiceLineId)).Nodup)
    (hready : ∀ x ∈ lines, LeavesRoom prev x.priceInputMode x.vatRateBasisPoints
      (sumOn (·.inputCents) x.vatRateBasisPoints (lines.map (·.toLineAmounts)))) :
    ∃ ys, allocateCurrentTaxByVatRate localeCompare lines allocations capacities = .ok ys
      ∧ List.Forall₂ ResettlesLine lines ys
      ∧ (∀ y ∈ ys, 0 ≤ y.netCents ∧ 0 ≤ y.vatCents)
      ∧ SettledLines prev (lines.map (·.toLineAmounts)) (ys.map (·.toLineAmounts)) := by
  obtain ⟨previousByRate, hprevious⟩ : ∃ m, groupM (·.vatRateBasisPoints)
      (accumulateVat outOfRange rangeError oneModeError) OrderedMap.empty prev = .ok m := by
    refine Collects.empty.total rejectsOverflow_outOfRange hprev ?_ hprevMax
    exact fun x hx y hy =>
      hmode x (List.mem_append_left _ hx) y (List.mem_append_left _ hy)
  have hcollects : Collects prev previousByRate := Collects.empty.extend hprevious
  have hgroup := group_spec hmode hlines
  -- every group of the current lines can be settled
  have htotal : ∀ g ∈ groupBy (fun l : CalculatedCreditLine => l.vatRateBasisPoints) lines,
      ∃ out, allocateCurrentTaxOfRate localeCompare previousByRate g.1 g.2 = .ok out
        ∧ ∀ y ∈ out, 0 ≤ y.netCents ∧ 0 ≤ y.vatCents := by
    intro g hg
    obtain ⟨x, hx, hr, hg2, hmodes⟩ := hgroup g hg
    have hroom := hready x hx
    rw [hr] at hroom
    refine allocateCurrentTaxOfRate_total hcollects hprev hmodes ?_ ?_
    · intro y hy hyr
      exact hmode y (List.mem_append_left _ hy) x.toLineAmounts
        (List.mem_append_right _ (List.mem_map_of_mem hx)) (hyr.trans hr.symm)
    · rw [hg2, group_sum]
      exact hroom
  obtain ⟨reconciled, hreconciled⟩ := mapM_total (fun g hg =>
    (htotal g hg).imp (fun _ h => h.1))
  obtain ⟨ordered, hperm, hall⟩ := flatten_resettled (groups_resettled hreconciled)
  obtain ⟨ys, hys, hsettled, hflat⟩ := lookup_settled hnodup
    (hperm.trans (groupBy_flatten_perm _ lines)) hall
  have hok : allocateCurrentTaxByVatRate localeCompare lines allocations capacities
      = .ok ys := by
    simp only [allocateCurrentTaxByVatRate, bind_eq_ok]
    exact ⟨previousByRate, groupResolvedM_eq_ok.mpr ⟨prev, hresolve, hprevious⟩,
      reconciled, hreconciled, hys⟩
  refine ⟨ys, hok, hsettled, ?_,
    (allocateCurrentTaxByVatRate_spec hresolve hprev hmode hlines hnodup hok).1⟩
  intro y hy
  obtain ⟨out, hout, hyout⟩ := List.mem_flatten.mp (hflat.mem_iff.mp hy)
  obtain ⟨g, hg, hgout⟩ := exists_source_of_mapM_ok hreconciled hout
  obtain ⟨out', hout', hnonneg⟩ := htotal g hg
  rw [hgout] at hout'
  exact hnonneg y (Except.ok.inj hout' ▸ hyout)

end Collation

/-! ## The totals of a credit -/

/-- A line that `validateCalculatedCreditLine` lets through. -/
def Payable (y : CalculatedCreditLine) : Prop :=
  (IsAmount y.quantityHundredths ∧ y.quantityHundredths ≠ 0) ∧ Reconciled y.toLineAmounts

private theorem entryM_addToBreakdown_total {entry : Option InvoiceVatBreakdown}
    {ys : List CalculatedCreditLine} (hys : ∀ y ∈ ys, Payable y)
    (hnet : 0 ≤ (entry.map (·.netCents)).getD 0) (hvat : 0 ≤ (entry.map (·.vatCents)).getD 0)
    (hgross : (entry.map (·.netCents)).getD 0 + (entry.map (·.vatCents)).getD 0
      ≤ (entry.map (·.grossCents)).getD 0)
    (hmax : (entry.map (·.grossCents)).getD 0 + (ys.map (·.grossCents)).sum
      ≤ maximumSafeInteger) :
    ∃ entry', entryM addToBreakdown entry ys = .ok entry' := by
  induction ys generalizing entry with
  | nil => exact ⟨entry, rfl⟩
  | cons y rest ih =>
      obtain ⟨_, hynet, hyvat, hysum⟩ := hys y List.mem_cons_self
      have hrest : 0 ≤ (rest.map (·.grossCents)).sum := List.sum_nonneg (by
        intro n hn
        obtain ⟨z, hz, rfl⟩ := List.mem_map.mp hn
        exact (hys z (List.mem_cons_of_mem y hz)).2.gross_nonneg)
      rw [List.map_cons, List.sum_cons] at hmax
      have hadd : ∀ a b : Int, 0 ≤ a + b → a + b ≤ maximumSafeInteger →
          addSafeIntegers a b = .ok (a + b) :=
        fun a b h₀ h₁ => (addUnless_eq_ok rejectsOverflow_outOfRange h₀).mpr ⟨rfl, h₁⟩
      have hstep : addToBreakdown entry y = .ok ⟨y.vatRateBasisPoints,
          (entry.map (·.netCents)).getD 0 + y.netCents,
          (entry.map (·.vatCents)).getD 0 + y.vatCents,
          (entry.map (·.grossCents)).getD 0 + y.grossCents⟩ := by
        simp only [addToBreakdown, bind_eq_ok, pure_eq_ok]
        exact ⟨_, hadd _ _ (by omega) (by omega), _, hadd _ _ (by omega) (by omega), _,
          hadd _ _ (by omega) (by omega), rfl⟩
      obtain ⟨entry', hentry'⟩ := @ih (some ⟨y.vatRateBasisPoints,
          (entry.map (·.netCents)).getD 0 + y.netCents,
          (entry.map (·.vatCents)).getD 0 + y.vatCents,
          (entry.map (·.grossCents)).getD 0 + y.grossCents⟩)
        (fun z hz => hys z (List.mem_cons_of_mem y hz))
        (by simp only [Option.map_some, Option.getD_some]; omega)
        (by simp only [Option.map_some, Option.getD_some]; omega)
        (by simp only [Option.map_some, Option.getD_some]; omega)
        (by simp only [Option.map_some, Option.getD_some]; omega)
      exact ⟨entry', entryM_cons.mpr ⟨_, hstep, hentry'⟩⟩

theorem validateCalculatedCreditLine_eq_ok {y : CalculatedCreditLine} {u : Unit} :
    validateCalculatedCreditLine y = .ok u ↔
      Payable y ∧ y.grossCents ≤ maximumSafeInteger := by
  simp only [validateCalculatedCreditLine, bind_eq_ok, throwIf_eq_ok, exists_const,
    requirePositiveSafeInteger_eq_ok, requireNonNegativeSafeInteger_eq_ok,
    Decidable.not_not, ne_eq]
  constructor
  · rintro ⟨hq, hnet, hvat, hgross, hsum⟩
    exact ⟨⟨hq, hnet.1, hvat.1, hsum⟩, hgross.2⟩
  · rintro ⟨⟨hq, hnet, hvat, hsum⟩, hmax⟩
    exact ⟨hq, ⟨hnet, by omega⟩, ⟨hvat, by omega⟩, ⟨by omega, hmax⟩, hsum⟩

/-- The totals are formed over payable lines only. -/
theorem calculateCreditInvoiceTotals_payable {ys : List CalculatedCreditLine}
    {totals : InvoiceTotals} (h : calculateCreditInvoiceTotals ys = .ok totals) :
    ∀ y ∈ ys, Payable y := by
  rw [calculateCreditInvoiceTotals, bind_eq_ok] at h
  obtain ⟨_, hgroup, _⟩ := h
  exact fun y hy => (validateCalculatedCreditLine_eq_ok.mp ((groupM_checked.mp hgroup).1 y hy)).1

/-- Payable lines whose gross sum is in range have totals. -/
theorem calculateCreditInvoiceTotals_total {ys : List CalculatedCreditLine}
    (hys : ∀ y ∈ ys, Payable y)
    (hmax : (ys.map (·.grossCents)).sum ≤ maximumSafeInteger) :
    ∃ totals, calculateCreditInvoiceTotals ys = .ok totals := by
  -- an amount below the gross amount has a sum below the gross sum
  have hbound : ∀ f : LineAmounts → Int,
      (∀ y ∈ ys, 0 ≤ f y.toLineAmounts ∧ f y.toLineAmounts ≤ y.grossCents) →
      0 ≤ (ys.map (fun y => f y.toLineAmounts)).sum
        ∧ (ys.map (fun y => f y.toLineAmounts)).sum ≤ (ys.map (·.grossCents)).sum := by
    intro f hf
    refine ⟨List.sum_nonneg ?_, List.sum_le_sum (fun y hy => (hf y hy).2)⟩
    intro n hn
    obtain ⟨y, hy, rfl⟩ := List.mem_map.mp hn
    exact (hf y hy).1
  have hnet := hbound (·.netCents) (by
    intro y hy
    obtain ⟨_, h₁, h₂, h₃⟩ := hys y hy
    exact ⟨h₁, by omega⟩)
  have hvat := hbound (·.vatCents) (by
    intro y hy
    obtain ⟨_, h₁, h₂, h₃⟩ := hys y hy
    exact ⟨h₂, by omega⟩)
  have hgross := hbound (·.grossCents) (by
    intro y hy
    exact ⟨(hys y hy).2.gross_nonneg, Int.le_refl _⟩)
  obtain ⟨byRate, hbyRate⟩ : ∃ m, groupM (·.vatRateBasisPoints) addToBreakdown
      OrderedMap.empty ys = .ok m := by
    refine groupM_total (fun rate => ?_)
    refine entryM_addToBreakdown_total (fun y hy => hys y (mem_withKey.mp hy).1)
      (Int.le_refl 0) (Int.le_refl 0) (Int.le_refl 0) ?_
    have hsub : ((withKey (fun y : CalculatedCreditLine => y.vatRateBasisPoints) rate
        ys).map (·.grossCents)).Sublist (ys.map (·.grossCents)) :=
      (List.filter_sublist).map _
    have hle := hsub.sum_le_sum (fun n hn => by
      obtain ⟨y, hy, rfl⟩ := List.mem_map.mp hn
      exact (hys y hy).2.gross_nonneg)
    show 0 + _ ≤ _
    omega
  have htoSafe : ∀ n : Int, 0 ≤ n → n ≤ maximumSafeInteger → toSafeInteger n = .ok n := by
    intro n h₀ h₁
    rw [toSafeInteger, bind_eq_ok]
    refine ⟨(), throwIf_of_not ?_, rfl⟩
    rw [outOfRange]
    omega
  refine ⟨⟨(ys.map (·.netCents)).sum, (ys.map (·.vatCents)).sum,
    (ys.map (·.grossCents)).sum, byRate.sortedEntries.map Prod.snd⟩, ?_⟩
  simp only [calculateCreditInvoiceTotals, bind_eq_ok, pure_eq_ok]
  refine ⟨byRate, groupM_checked.mpr ⟨?_, hbyRate⟩, _, htoSafe _ hnet.1 (by omega), _,
    htoSafe _ hvat.1 (by omega), _, htoSafe _ hgross.1 hmax, rfl⟩
  intro y hy
  refine validateCalculatedCreditLine_eq_ok.mpr ⟨hys y hy, ?_⟩
  have hsingle := List.single_le_sum (l := ys.map (·.grossCents)) (fun n hn => by
    obtain ⟨z, hz, rfl⟩ := List.mem_map.mp hn
    exact (hys z hz).2.gross_nonneg) y.grossCents (List.mem_map_of_mem hy)
  omega

/-! ## The whole calculation -/

/-- **A CREDITED SOURCE LINE**: what a credit takes from a source line whose
    earlier credits add up to `previous`. -/
structure CreditedFrom (l : CreditSourceLine) (previous : PreviousAllocationTotal)
    (credited : Int) (y : CalculatedCreditLine) : Prop where
  id : y.sourceInvoiceLineId = l.id
  quantity : y.quantityHundredths = credited
  positive : IsAmount credited ∧ credited ≠ 0
  within : previous.quantityHundredths + credited ≤ l.quantityHundredths
  mode : y.priceInputMode = l.priceInputMode
  rate : y.vatRateBasisPoints = l.vatRateBasisPoints
  base : previous.baseCents + y.baseCents
    = halfUp (l.baseCents * (previous.quantityHundredths + credited)) l.quantityHundredths
  input : previous.inputCents l.priceInputMode + y.inputCents
    = halfUp (l.inputCents * (previous.quantityHundredths + credited)) l.quantityHundredths
  reconciles : y.baseCents - y.discountCents = y.inputCents
  base_nonneg : 0 ≤ y.baseCents
  discount_nonneg : 0 ≤ y.discountCents
  input_nonneg : 0 ≤ y.inputCents

section Calculation

variable {localeCompare : String → String → Int}

theorem creditedFrom_of_creditedLine {l : CreditSourceLine} (hl : ValidSourceLine l)
    {previous : PreviousAllocationTotal} {credited : Int} {x : CalculatedCreditLine}
    (hx : CreditedLine (toCapacity l.vatRateBasisPoints l) previous credited x) :
    CreditedFrom l previous credited x := by
  have hinput : (toCapacity l.vatRateBasisPoints l).discountedInputCents = l.inputCents :=
    hl.input
  exact {
    id := hx.id
    quantity := hx.quantity
    positive := hx.positive
    within := hx.within
    mode := hx.mode
    rate := hx.rate
    base := hx.base
    input := by rw [← hinput]; exact hx.input
    reconciles := hx.reconciles
    base_nonneg := hx.base_nonneg
    discount_nonneg := hx.discount_nonneg
    input_nonneg := hx.input_nonneg }

/-- What is credited of a source line stays when its tax is settled anew. -/
theorem CreditedFrom.resettles {l : CreditSourceLine} {previous : PreviousAllocationTotal}
    {q : Int} {x y : CalculatedCreditLine} (h : CreditedFrom l previous q x)
    (hid : y.sourceInvoiceLineId = l.id) (hxy : Resettles x.toLineAmounts y.toLineAmounts) :
    CreditedFrom l previous q y where
  id := hid
  quantity := hxy.quantity.trans h.quantity
  positive := h.positive
  within := h.within
  mode := hxy.mode.trans h.mode
  rate := hxy.rate.trans h.rate
  base := by rw [hxy.base]; exact h.base
  input := by rw [hxy.input]; exact h.input
  reconciles := by rw [hxy.base, hxy.discount, hxy.input]; exact h.reconciles
  base_nonneg := by rw [hxy.base]; exact h.base_nonneg
  discount_nonneg := by rw [hxy.discount]; exact h.discount_nonneg
  input_nonneg := by rw [hxy.input]; exact h.input_nonneg

/-- The request a line was credited for, with the source line it belongs to. -/
private def CreditedRequest (sourceLines : List CreditSourceLine)
    (allocations : List PreviousCreditLineAllocation) (request : RequestedCreditLine)
    (x : CalculatedCreditLine) : Prop :=
  ∃ l ∈ sourceLines, Creditable l ∧ l.id = request.sourceInvoiceLineId
    ∧ CreditedLine (toCapacity l.vatRateBasisPoints l) (totalFor l.id allocations)
      request.quantityHundredths x

section Requests

variable {sourceLines : List CreditSourceLine}
variable {allocations : List PreviousCreditLineAllocation}
variable {requested : List RequestedCreditLine} {lines ys : List CalculatedCreditLine}

private theorem creditedRequest_ids
    (h : List.Forall₂ (CreditedRequest sourceLines allocations) requested lines) :
    lines.map (·.sourceInvoiceLineId) = requested.map (·.sourceInvoiceLineId) := by
  induction h with
  | nil => rfl
  | cons hx _ ih =>
      obtain ⟨l, _, _, hid, hcredited⟩ := hx
      rw [List.map_cons, List.map_cons, ih, hcredited.id]
      exact congrArg (· :: _) hid

private theorem creditedRequest_settled (hvalid : ∀ l ∈ sourceLines, ValidSourceLine l)
    (h : List.Forall₂ (CreditedRequest sourceLines allocations) requested lines)
    (hsettled : List.Forall₂ ResettlesLine lines ys) :
    List.Forall₂ (fun (request : RequestedCreditLine) y => ∃ l ∈ sourceLines, Creditable l
      ∧ l.id = request.sourceInvoiceLineId
      ∧ CreditedFrom l (totalFor l.id allocations) request.quantityHundredths y)
      requested ys := by
  refine forall₂_comp (fun request x y hx hxy => ?_) h hsettled
  obtain ⟨l, hl, hcreditable, hid, hcredited⟩ := hx
  exact ⟨l, hl, hcreditable, hid, (creditedFrom_of_creditedLine (hvalid l hl)
    hcredited).resettles (hxy.1.trans hcredited.id) hxy.2⟩

end Requests

/-- The line `y` credits a source line as `request` asks. -/
def CreditsAsRequested (sourceLines : List CreditSourceLine)
    (allocations : List PreviousCreditLineAllocation) (request : RequestedCreditLine)
    (y : CalculatedCreditLine) : Prop :=
  ∃ l ∈ sourceLines, Creditable l ∧ l.id = request.sourceInvoiceLineId
    ∧ CreditedFrom l (totalFor l.id allocations) request.quantityHundredths y

/-- What a successful calculation credits, request by request. -/
theorem calculateCreditInvoice_spec {sourceLines : List CreditSourceLine}
    {allocations : List PreviousCreditLineAllocation}
    {requested : List RequestedCreditLine} {c : CalculatedCreditInvoice}
    (h : calculateCreditInvoice localeCompare sourceLines allocations requested = .ok c) :
    (∀ l ∈ sourceLines, ValidSourceLine l)
      ∧ (sourceLines.map (·.id)).Nodup
      ∧ (requested.map (·.sourceInvoiceLineId)).Nodup
      ∧ List.Forall₂ (CreditsAsRequested sourceLines allocations) requested c.lines
      ∧ ∀ y ∈ c.lines, Payable y := by
  simp only [calculateCreditInvoice, bind_eq_ok, throwIf_eq_ok, exists_const,
    pure_eq_ok] at h
  obtain ⟨_, capacities, hcapacities, totals, htotals, lines, hlines, reconciled,
    hreconciled, totals', htotals', rfl⟩ := h
  obtain ⟨hvalid, hnodup, hget⟩ := createCreditLineCapacities_spec hcapacities
  obtain ⟨hunique, _, hlines⟩ := mapUniqueM_eq_ok.mp hlines
  have heach : List.Forall₂ (CreditedRequest sourceLines allocations) requested lines := by
    refine (mapM_eq_ok.mp hlines).imp (fun request x hx => ?_)
    obtain ⟨capacity, hcapacity, hcredited⟩ := creditRequestedLine_spec hx
    obtain ⟨l, hl, hcreditable, hid, rfl⟩ := (hget _ _).mp hcapacity
    rw [sumPreviousAllocations_spec htotals, ← hid] at hcredited
    exact ⟨l, hl, hcreditable, hid, hcredited⟩
  have hsettled := allocateCurrentTaxByVatRate_each
    (creditedRequest_ids heach ▸ hunique) hreconciled
  exact ⟨hvalid, hnodup, hunique, creditedRequest_settled hvalid heach hsettled,
    calculateCreditInvoiceTotals_payable htotals'⟩

end Calculation

end CreditInvoice
