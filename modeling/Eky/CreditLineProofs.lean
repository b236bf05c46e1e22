import Eky.CreditInvoice

/-! # Credited lines — what a credit of a quantity is worth

    - `createCreditLineCapacities_spec`: the capacities of a sent invoice are
      exactly its creditable lines;
    - `sumPreviousAllocations_spec`: the earlier credits of a line, summed up;
    - `creditRequestedLine_spec`: a credited line takes base and input amount to
      the rounded part that belongs to the cumulative quantity. -/

namespace CreditInvoice

open Fallible Apportionment OrderedMap InvoiceMoney VatGroups InvoiceCalculation
open VatDistribution

variable {sourceLines : List CreditSourceLine} {previous : Option PreviousAllocationTotal}
  {capacities : OrderedMap String CreditLineCapacity}
  {allocations : List PreviousCreditLineAllocation} {fieldName : String}
  {allocation : PreviousCreditLineAllocation} {u : Unit}

/-! ## What the checks accept -/

theorem requireIdentifier_eq_ok {value : String} :
    requireIdentifier value fieldName = .ok u ↔ IsIdentifier value := by
  simp only [requireIdentifier, throwIf_eq_ok, IsIdentifier, not_or, gt_iff_lt, not_lt]

theorem requireNonNegativeSafeInteger_eq_ok {value : Int} :
    requireNonNegativeSafeInteger value fieldName = .ok u ↔ IsAmount value := by
  simp only [requireNonNegativeSafeInteger, throwIf_eq_ok, isAmount_iff, not_or,
    Decidable.not_not]

theorem requirePositiveSafeInteger_eq_ok {value : Int} :
    requirePositiveSafeInteger value fieldName = .ok u ↔ IsAmount value ∧ value ≠ 0 := by
  simp only [requirePositiveSafeInteger, bind_eq_ok, throwIf_eq_ok, exists_const,
    requireNonNegativeSafeInteger_eq_ok, ne_eq]

theorem rejectsOverflow_outOfRange : RejectsOverflow outOfRange := by
  intro n hn
  rw [outOfRange]
  omega

/-- What `validateSourceLine` accepts. -/
structure ValidSourceLine (line : CreditSourceLine) : Prop where
  id : IsIdentifier line.id
  lineOrder : IsAmount line.lineOrder ∧ line.lineOrder ≠ 0
  quantity : IsAmount line.quantityHundredths
  rate : IsAmount line.vatRateBasisPoints
  base : IsAmount line.baseCents
  discount : IsAmount line.discountCents
  net : IsAmount line.netCents
  vat : IsAmount line.vatCents
  gross : IsAmount line.grossCents
  discount_le : line.discountCents ≤ line.baseCents
  reconciles : line.netCents + line.vatCents = line.grossCents
  input : line.baseCents - line.discountCents = line.inputCents

theorem validateSourceLine_eq_ok {line : CreditSourceLine} :
    validateSourceLine line = .ok u ↔ ValidSourceLine line := by
  simp only [validateSourceLine, bind_eq_ok, throwIf_eq_ok, exists_const,
    requireIdentifier_eq_ok, requirePositiveSafeInteger_eq_ok,
    requireNonNegativeSafeInteger_eq_ok]
  constructor
  · rintro ⟨hid, horder, hq, hrate, hbase, hdiscount, hnet, hvat, hgross, hrest⟩
    refine ⟨hid, horder, hq, hrate, hbase, hdiscount, hnet, hvat, hgross, ?_, ?_, ?_⟩
    · omega
    · omega
    · rw [LineAmounts.inputCents]
      cases hmode : line.priceInputMode with
      | net => simp only [hmode] at hrest ⊢; tauto
      | gross => simp only [hmode] at hrest ⊢; tauto
  · intro h
    refine ⟨h.id, h.lineOrder, h.quantity, h.rate, h.base, h.discount, h.net, h.vat,
      h.gross, ?_⟩
    have hle := h.discount_le
    have hrec := h.reconciles
    have hin := h.input
    rw [LineAmounts.inputCents] at hin
    rintro (hbad | hbad | ⟨hmode, hbad⟩ | ⟨hmode, hbad⟩)
    · omega
    · exact hbad hrec
    · rw [hmode] at hin
      exact hbad hin
    · rw [hmode] at hin
      exact hbad hin

/-! ## The capacities of a sent invoice -/

/-- A source line that can be credited at all. -/
def Creditable (line : CreditSourceLine) : Prop :=
  line.quantityHundredths ≠ 0 ∧ line.grossCents ≠ 0

instance : DecidablePred Creditable := fun _ => inferInstanceAs (Decidable (_ ∧ _))

/-- The loop over the lines accepts exactly valid, distinct lines. -/
private theorem collectSourceLines_eq_ok {state state' : SourceLineGroups} :
    sourceLines.foldlM collectSourceLine state = .ok state' ↔
      (∀ line ∈ sourceLines, ValidSourceLine line)
        ∧ (∀ line ∈ sourceLines, line.id ∉ state.sourceLineIds)
        ∧ (sourceLines.map (·.id)).Nodup
        ∧ groupM (·.vatRateBasisPoints) addToVatGroup state.groupsByRate
            (sourceLines.filter Creditable) = .ok state'.groupsByRate
        ∧ state'.sourceLineIds = state.sourceLineIds ++ sourceLines.map (·.id) := by
  induction sourceLines generalizing state with
  | nil =>
      rw [List.foldlM_nil, pure_eq_ok]
      constructor
      · rintro rfl
        exact ⟨fun _ h => (nomatch h), fun _ h => (nomatch h), List.nodup_nil, rfl,
          (List.append_nil _).symm⟩
      · rintro ⟨_, _, _, hgroups, hids⟩
        have hgroups' : state.groupsByRate = state'.groupsByRate := pure_eq_ok.mp hgroups
        cases state
        cases state'
        simp_all
  | cons line rest ih =>
      rw [List.foldlM_cons, bind_eq_ok, List.map_cons, List.nodup_cons,
        List.forall_mem_cons, List.forall_mem_cons]
      by_cases hc : Creditable line
      · have hcond : ¬ (line.quantityHundredths = 0 ∨ line.grossCents = 0) :=
          fun h => h.elim hc.1 hc.2
        rw [List.filter_cons_of_pos (by simpa using hc), groupM_cons]
        simp only [collectSourceLine, bind_eq_ok, throwIf_eq_ok, exists_const,
          validateSourceLine_eq_ok, if_neg hcond, pure_eq_ok]
        constructor
        · rintro ⟨_, ⟨hvalid, hfresh, group, hgroup, rfl⟩, hrest⟩
          obtain ⟨hvalids, hfreshs, hnodup, hgroups, hids⟩ := ih.mp hrest
          refine ⟨⟨hvalid, hvalids⟩, ⟨hfresh, fun l hl hmem => hfreshs l hl
            (List.mem_append_left _ hmem)⟩, ⟨?_, hnodup⟩, ⟨group, hgroup, hgroups⟩, ?_⟩
          · intro hmem
            obtain ⟨l, hl, hid⟩ := List.mem_map.mp hmem
            exact hfreshs l hl (List.mem_append_right _ (List.mem_singleton.mpr hid))
          · rw [hids, List.append_assoc]
            rfl
        · rintro ⟨⟨hvalid, hvalids⟩, ⟨hfresh, hfreshs⟩, ⟨hid, hnodup⟩,
            ⟨group, hgroup, hgroups⟩, hids⟩
          refine ⟨_, ⟨hvalid, hfresh, group, hgroup, rfl⟩, ih.mpr ⟨hvalids, ?_, hnodup,
            hgroups, ?_⟩⟩
          · intro l hl hmem
            rcases List.mem_append.mp hmem with hmem | hmem
            · exact hfreshs l hl hmem
            · exact hid (List.mem_map.mpr ⟨l, hl, List.mem_singleton.mp hmem⟩)
          · rw [hids, List.append_assoc]
            rfl
      · have hcond : line.quantityHundredths = 0 ∨ line.grossCents = 0 := by
          by_contra h
          exact hc ⟨fun hq => h (Or.inl hq), fun hg => h (Or.inr hg)⟩
        rw [List.filter_cons_of_neg (by simpa using hc)]
        simp only [collectSourceLine, bind_eq_ok, throwIf_eq_ok, exists_const,
          validateSourceLine_eq_ok, if_pos hcond, pure_eq_ok]
        constructor
        · rintro ⟨_, ⟨hvalid, hfresh, rfl⟩, hrest⟩
          obtain ⟨hvalids, hfreshs, hnodup, hgroups, hids⟩ := ih.mp hrest
          refine ⟨⟨hvalid, hvalids⟩, ⟨hfresh, fun l hl hmem => hfreshs l hl
            (List.mem_append_left _ hmem)⟩, ⟨?_, hnodup⟩, hgroups, ?_⟩
          · intro hmem
            obtain ⟨l, hl, hid⟩ := List.mem_map.mp hmem
            exact hfreshs l hl (List.mem_append_right _ (List.mem_singleton.mpr hid))
          · rw [hids, List.append_assoc]
            rfl
        · rintro ⟨⟨hvalid, hvalids⟩, ⟨hfresh, hfreshs⟩, ⟨hid, hnodup⟩, hgroups, hids⟩
          refine ⟨_, ⟨hvalid, hfresh, rfl⟩, ih.mpr ⟨hvalids, ?_, hnodup, hgroups, ?_⟩⟩
          · intro l hl hmem
            rcases List.mem_append.mp hmem with hmem | hmem
            · exact hfreshs l hl hmem
            · exact hid (List.mem_map.mpr ⟨l, hl, List.mem_singleton.mp hmem⟩)
          · rw [hids, List.append_assoc]
            rfl

private theorem entryM_addToVatGroup {entry : Option MutableVatGroup}
    {g : MutableVatGroup} {lines : List CreditSourceLine}
    (h : entryM addToVatGroup entry lines = .ok (some g)) :
    g.lines = ((entry.map (·.lines)).getD []) ++ lines := by
  induction lines generalizing entry with
  | nil =>
      have he : entry = some g := pure_eq_ok.mp h
      subst he
      exact (List.append_nil _).symm
  | cons line rest ih =>
      obtain ⟨g₁, hstep, hrest⟩ := entryM_cons.mp h
      have hg₁ : g₁.lines = ((entry.map (·.lines)).getD []) ++ [line] := by
        cases entry with
        | none =>
            have hg : _ = g₁ := pure_eq_ok.mp hstep
            subst hg
            rfl
        | some g₀ =>
            simp only [addToVatGroup, bind_eq_ok, throwIf_eq_ok, exists_const,
              pure_eq_ok] at hstep
            rw [← hstep.2]
            rfl
      rw [ih hrest, Option.map_some, Option.getD_some, hg₁, List.append_assoc]
      rfl

private theorem entryM_addToVatGroup_total {entry : Option MutableVatGroup}
    {lines : List CreditSourceLine} (m : PriceInputMode)
    (hlines : ∀ line ∈ lines, line.priceInputMode = m)
    (hentry : ∀ g, entry = some g → g.mode = m) :
    ∃ entry', entryM addToVatGroup entry lines = .ok entry' := by
  induction lines generalizing entry with
  | nil => exact ⟨entry, rfl⟩
  | cons line rest ih =>
      have hline : line.priceInputMode = m := hlines line List.mem_cons_self
      obtain ⟨g₁, hstep, hg₁⟩ : ∃ g₁, addToVatGroup entry line = .ok g₁ ∧ g₁.mode = m := by
        cases entry with
        | none => exact ⟨_, rfl, hline⟩
        | some g =>
            have hg : g.mode = m := hentry g rfl
            refine ⟨⟨g.mode, g.lines ++ [line]⟩, ?_, hg⟩
            simp only [addToVatGroup, bind_eq_ok, throwIf_eq_ok, exists_const, pure_eq_ok]
            exact ⟨fun h => h (hg.trans hline.symm), trivial⟩
      obtain ⟨entry', hentry'⟩ := @ih (some g₁)
        (fun l hl => hlines l (List.mem_cons_of_mem line hl))
        (fun g hg => Option.some.inj hg ▸ hg₁)
      exact ⟨entry', entryM_cons.mpr ⟨g₁, hstep, hentry'⟩⟩

/-- The capacities of a sent invoice: one for every creditable line. -/
theorem createCreditLineCapacities_spec
    (h : createCreditLineCapacities sourceLines = .ok capacities) :
    (∀ line ∈ sourceLines, ValidSourceLine line) ∧ (sourceLines.map (·.id)).Nodup
      ∧ ∀ id capacity, capacities.get? id = some capacity ↔
          ∃ line ∈ sourceLines, Creditable line ∧ line.id = id
            ∧ capacity = toCapacity line.vatRateBasisPoints line := by
  rw [createCreditLineCapacities, bind_eq_ok] at h
  obtain ⟨state, hstate, h⟩ := h
  obtain ⟨hvalid, _, hnodup, hgroups, _⟩ := collectSourceLines_eq_ok.mp hstate
  rw [pure_eq_ok] at h
  subst h
  refine ⟨hvalid, hnodup, ?_⟩
  -- an entry of the group map holds the creditable lines of its rate
  have hentry : ∀ rate g, (rate, g) ∈ state.groupsByRate.entries ↔
      state.groupsByRate.get? rate = some g ∧
        g.lines = withKey (·.vatRateBasisPoints) rate (sourceLines.filter Creditable) := by
    intro rate g
    rw [mem_entries]
    constructor
    · intro hg
      have hget := groupM_get? hgroups rate
      rw [hg] at hget
      exact ⟨hg, by simpa using entryM_addToVatGroup hget⟩
    · exact fun hg => hg.1
  set pairs := state.groupsByRate.entries.flatMap fun e =>
    (e.2.lines.insertionSort (fun first second => first.lineOrder ≤ second.lineOrder)).map
      fun line => (line.id, toCapacity e.1 line) with hpairs
  have hmem : ∀ p, p ∈ pairs ↔ ∃ line ∈ sourceLines, Creditable line ∧
      p = (line.id, toCapacity line.vatRateBasisPoints line) := by
    intro p
    rw [hpairs, List.mem_flatMap]
    constructor
    · rintro ⟨⟨rate, g⟩, he, hp⟩
      obtain ⟨line, hline, rfl⟩ := List.mem_map.mp hp
      rw [List.mem_insertionSort, ((hentry rate g).mp he).2, mem_withKey,
        List.mem_filter] at hline
      obtain ⟨⟨hmem, hc⟩, rfl⟩ := hline
      exact ⟨line, hmem, by simpa using hc, rfl⟩
    · rintro ⟨line, hline, hc, rfl⟩
      have hin : line ∈ withKey (·.vatRateBasisPoints) line.vatRateBasisPoints
          (sourceLines.filter Creditable) :=
        mem_withKey.mpr ⟨List.mem_filter.mpr ⟨hline, by simpa using hc⟩, rfl⟩
      cases hg : state.groupsByRate.get? line.vatRateBasisPoints with
      | none =>
          have hget := groupM_get? hgroups line.vatRateBasisPoints
          rw [hg] at hget
          cases ((entryM_none hget).2 ▸ hin : _ ∈ ([] : List _))
      | some g =>
          have he := mem_entries.mpr hg
          refine ⟨(line.vatRateBasisPoints, g), he, ?_⟩
          refine List.mem_map.mpr ⟨line, ?_, rfl⟩
          rw [List.mem_insertionSort, ((hentry _ _).mp he).2]
          exact hin
  intro id capacity
  rw [get?_ofList, hmem]
  · constructor
    · rintro ⟨line, hline, hc, heq⟩
      exact ⟨line, hline, hc, (Prod.mk.inj heq).1.symm, (Prod.mk.inj heq).2⟩
    · rintro ⟨line, hline, hc, rfl, rfl⟩
      exact ⟨line, hline, hc, rfl⟩
  · intro p hp q hq hpq
    obtain ⟨l₁, h₁, _, rfl⟩ := (hmem p).mp hp
    obtain ⟨l₂, h₂, _, rfl⟩ := (hmem q).mp hq
    have heq : l₁ = l₂ := List.inj_on_of_nodup_map hnodup h₁ h₂ hpq
    rw [heq]

/-- Valid source lines with unique ids and one mode a rate have capacities. -/
theorem createCreditLineCapacities_total (hvalid : ∀ line ∈ sourceLines, ValidSourceLine line)
    (hnodup : (sourceLines.map (·.id)).Nodup)
    (hmode : OneModePerRate (sourceLines.map (·.toLineAmounts))) :
    ∃ capacities, createCreditLineCapacities sourceLines = .ok capacities := by
  obtain ⟨groups, hgroups⟩ : ∃ groups, groupM (·.vatRateBasisPoints) addToVatGroup
      OrderedMap.empty (sourceLines.filter Creditable) = .ok groups := by
    refine groupM_total (fun rate => ?_)
    have hmem : ∀ line ∈ withKey (·.vatRateBasisPoints) rate (sourceLines.filter Creditable),
        line.toLineAmounts ∈ sourceLines.map (·.toLineAmounts)
          ∧ line.vatRateBasisPoints = rate := by
      intro line hline
      rw [mem_withKey, List.mem_filter] at hline
      exact ⟨List.mem_map_of_mem hline.1.1, hline.2⟩
    refine entryM_addToVatGroup_total (modeOn rate (sourceLines.map (·.toLineAmounts))) ?_
      (fun g hg => (nomatch hg))
    intro line hline
    obtain ⟨hin, hr⟩ := hmem line hline
    rw [← hr]
    exact (modeOn_of_mem hmode hin).symm
  refine ⟨_, bind_eq_ok.mpr ⟨⟨sourceLines.map (·.id), groups⟩, ?_, rfl⟩⟩
  exact collectSourceLines_eq_ok.mpr
    ⟨hvalid, fun _ _ hmem => (nomatch hmem), hnodup, hgroups, rfl⟩

/-! ## The earlier credits of a line -/

instance : Add PreviousAllocationTotal where
  add a b := ⟨a.quantityHundredths + b.quantityHundredths, a.baseCents + b.baseCents,
    a.discountCents + b.discountCents, a.netCents + b.netCents, a.vatCents + b.vatCents,
    a.grossCents + b.grossCents⟩

instance : Zero PreviousAllocationTotal := ⟨createEmptyPreviousAllocation⟩

/-- Every field is an amount. -/
structure InRange (t : PreviousAllocationTotal) : Prop where
  quantity : IsAmount t.quantityHundredths
  base : IsAmount t.baseCents
  discount : IsAmount t.discountCents
  net : IsAmount t.netCents
  vat : IsAmount t.vatCents
  gross : IsAmount t.grossCents

theorem inRange_zero : InRange 0 :=
  ⟨isAmount_zero, isAmount_zero, isAmount_zero, isAmount_zero, isAmount_zero, isAmount_zero⟩

theorem PreviousAllocationTotal.ext_add {a b : PreviousAllocationTotal} :
    a + b = ⟨a.quantityHundredths + b.quantityHundredths, a.baseCents + b.baseCents,
      a.discountCents + b.discountCents, a.netCents + b.netCents, a.vatCents + b.vatCents,
      a.grossCents + b.grossCents⟩ := rfl

/-- Totals are added field by field. -/
instance : AddCommMonoid PreviousAllocationTotal where
  add_assoc a b c := by simp only [PreviousAllocationTotal.ext_add, Int.add_assoc]
  zero_add a := by
    show PreviousAllocationTotal.mk (0 + _) (0 + _) (0 + _) (0 + _) (0 + _) (0 + _) = a
    simp only [Int.zero_add]
  add_zero a := by
    show PreviousAllocationTotal.mk (_ + 0) (_ + 0) (_ + 0) (_ + 0) (_ + 0) (_ + 0) = a
    simp only [Int.add_zero]
  add_comm a b := by
    simp only [PreviousAllocationTotal.ext_add, PreviousAllocationTotal.mk.injEq]
    exact ⟨Int.add_comm _ _, Int.add_comm _ _, Int.add_comm _ _, Int.add_comm _ _,
      Int.add_comm _ _, Int.add_comm _ _⟩
  nsmul := nsmulRec

/-- What the earlier credits of a line add up to. -/
def totalFor (id : String) (allocations : List PreviousCreditLineAllocation) :
    PreviousAllocationTotal :=
  ((withKey (·.sourceInvoiceLineId) id allocations).map
    (·.toPreviousAllocationTotal)).sum

private theorem addPreviousAllocation_eq_ok {t : PreviousAllocationTotal}
    (h : addPreviousAllocation previous allocation = .ok t) :
    t = previous.getD 0 + allocation.toPreviousAllocationTotal := by
  simp only [addPreviousAllocation, addSafeIntegers, addUnless, bind_eq_ok, throwIf_eq_ok,
    exists_const, pure_eq_ok] at h
  obtain ⟨_, ⟨_, rfl⟩, _, ⟨_, rfl⟩, _, ⟨_, rfl⟩, _, ⟨_, rfl⟩, _, ⟨_, rfl⟩, _, ⟨_, rfl⟩, rfl⟩ := h
  rfl

private theorem addPreviousAllocation_total
    (h : InRange (previous.getD 0 + allocation.toPreviousAllocationTotal)) :
    addPreviousAllocation previous allocation
      = .ok (previous.getD 0 + allocation.toPreviousAllocationTotal) := by
  have hadd : ∀ a b : Int, IsAmount (a + b) → addSafeIntegers a b = .ok (a + b) :=
    fun a b hab => (addUnless_eq_ok rejectsOverflow_outOfRange hab.1).mpr ⟨rfl, hab.2⟩
  simp only [addPreviousAllocation, bind_eq_ok, pure_eq_ok]
  exact ⟨_, hadd _ _ h.quantity, _, hadd _ _ h.base, _, hadd _ _ h.discount, _,
    hadd _ _ h.net, _, hadd _ _ h.vat, _, hadd _ _ h.gross, rfl⟩

private theorem entryM_addPreviousAllocation {previous' : Option PreviousAllocationTotal}
    (h : entryM addPreviousAllocation previous allocations = .ok previous') : previous'.getD 0
      = previous.getD 0 + (allocations.map (·.toPreviousAllocationTotal)).sum := by
  induction allocations generalizing previous with
  | nil =>
      have hp : previous = previous' := pure_eq_ok.mp h
      rw [hp]
      exact (add_zero _).symm
  | cons allocation rest ih =>
      obtain ⟨t, hstep, hrest⟩ := entryM_cons.mp h
      rw [ih hrest, Option.getD_some, addPreviousAllocation_eq_ok hstep, List.map_cons,
        List.sum_cons, add_assoc]

private theorem entryM_addPreviousAllocation_total (hprev : InRange (previous.getD 0))
    (hall : ∀ a ∈ allocations, InRange a.toPreviousAllocationTotal) (hsum : InRange
      (previous.getD 0 + (allocations.map (·.toPreviousAllocationTotal)).sum)) :
    ∃ previous', entryM addPreviousAllocation previous allocations = .ok previous' := by
  induction allocations generalizing previous with
  | nil => exact ⟨previous, rfl⟩
  | cons a rest ih =>
      have ha := hall a List.mem_cons_self
      have hrest : ∀ b ∈ rest, InRange b.toPreviousAllocationTotal :=
        fun b hb => hall b (List.mem_cons_of_mem a hb)
      -- the rest of the sum is not negative, so the sum so far is in range as well
      have hnonneg : ∀ bs : List PreviousCreditLineAllocation,
          (∀ b ∈ bs, InRange b.toPreviousAllocationTotal) →
          let t := (bs.map (·.toPreviousAllocationTotal)).sum
          0 ≤ t.quantityHundredths ∧ 0 ≤ t.baseCents ∧ 0 ≤ t.discountCents
            ∧ 0 ≤ t.netCents ∧ 0 ≤ t.vatCents ∧ 0 ≤ t.grossCents := by
        intro bs
        induction bs with
        | nil =>
            intro _
            exact ⟨Int.le_refl 0, Int.le_refl 0, Int.le_refl 0, Int.le_refl 0,
              Int.le_refl 0, Int.le_refl 0⟩
        | cons b bs ihb =>
            intro hbs
            have hb := hbs b List.mem_cons_self
            obtain ⟨h₁, h₂, h₃, h₄, h₅, h₆⟩ :=
              ihb (fun c hc => hbs c (List.mem_cons_of_mem b hc))
            exact ⟨Int.add_nonneg hb.quantity.1 h₁, Int.add_nonneg hb.base.1 h₂,
              Int.add_nonneg hb.discount.1 h₃, Int.add_nonneg hb.net.1 h₄,
              Int.add_nonneg hb.vat.1 h₅, Int.add_nonneg hb.gross.1 h₆⟩
      obtain ⟨h₁, h₂, h₃, h₄, h₅, h₆⟩ := hnonneg rest hrest
      rw [List.map_cons, List.sum_cons, ← add_assoc] at hsum
      have hpart : ∀ x y z : Int, 0 ≤ x → 0 ≤ y → 0 ≤ z → IsAmount (x + y + z) →
          IsAmount (x + y) := by
        intro x y z hx hy hz h
        exact ⟨by omega, by have := h.2; omega⟩
      have hnow : InRange (previous.getD 0 + a.toPreviousAllocationTotal) :=
        ⟨hpart _ _ _ hprev.quantity.1 ha.quantity.1 h₁ hsum.quantity,
          hpart _ _ _ hprev.base.1 ha.base.1 h₂ hsum.base,
          hpart _ _ _ hprev.discount.1 ha.discount.1 h₃ hsum.discount,
          hpart _ _ _ hprev.net.1 ha.net.1 h₄ hsum.net,
          hpart _ _ _ hprev.vat.1 ha.vat.1 h₅ hsum.vat,
          hpart _ _ _ hprev.gross.1 ha.gross.1 h₆ hsum.gross⟩
      obtain ⟨previous', hprevious'⟩ :=
        @ih (some (previous.getD 0 + a.toPreviousAllocationTotal)) hnow hrest hsum
      exact ⟨previous', entryM_cons.mpr ⟨_, addPreviousAllocation_total hnow, hprevious'⟩⟩

/-- What `validatePreviousAllocation` accepts. -/
structure ValidAllocation (a : PreviousCreditLineAllocation) : Prop where
  id : IsIdentifier a.sourceInvoiceLineId
  range : InRange a.toPreviousAllocationTotal
  positive : a.quantityHundredths ≠ 0
  discount_le : a.discountCents ≤ a.baseCents
  reconciles : a.netCents + a.vatCents = a.grossCents

theorem validatePreviousAllocation_eq_ok {a : PreviousCreditLineAllocation} :
    validatePreviousAllocation a = .ok u ↔ ValidAllocation a := by
  simp only [validatePreviousAllocation, bind_eq_ok, throwIf_eq_ok, exists_const,
    requireIdentifier_eq_ok, requirePositiveSafeInteger_eq_ok,
    requireNonNegativeSafeInteger_eq_ok]
  constructor
  · rintro ⟨hid, ⟨hq, hpos⟩, hbase, hdiscount, hnet, hvat, hgross, hrest⟩
    exact ⟨hid, ⟨hq, hbase, hdiscount, hnet, hvat, hgross⟩, hpos, by omega, by omega⟩
  · intro h
    have hle := h.discount_le
    have hrec := h.reconciles
    exact ⟨h.id, ⟨h.range.quantity, h.positive⟩, h.range.base, h.range.discount,
      h.range.net, h.range.vat, h.range.gross, by omega⟩

theorem sumPreviousAllocations_spec {totals : OrderedMap String PreviousAllocationTotal}
    (h : sumPreviousAllocations allocations capacities = .ok totals) (id : String) :
    (totals.get? id).getD 0 = totalFor id allocations := by
  simp only [sumPreviousAllocations, bind_eq_ok, pure_eq_ok] at h
  obtain ⟨_, hgroup, _, _, rfl⟩ := h
  have hsum := entryM_addPreviousAllocation (groupM_get? (groupM_checked.mp hgroup).2 id)
  rw [hsum]
  exact zero_add (totalFor id allocations)

private theorem inRange_of_addPreviousAllocation {t : PreviousAllocationTotal}
    (h : addPreviousAllocation previous allocation = .ok t) : InRange t := by
  have hamount : ∀ n, ¬ outOfRange n → IsAmount n := by
    intro n hn
    rw [outOfRange] at hn
    exact ⟨by omega, by omega⟩
  simp only [addPreviousAllocation, addSafeIntegers, addUnless, bind_eq_ok, throwIf_eq_ok,
    exists_const, pure_eq_ok] at h
  obtain ⟨_, ⟨hquantity, rfl⟩, _, ⟨hbase, rfl⟩, _, ⟨hdiscount, rfl⟩, _, ⟨hnet, rfl⟩, _,
    ⟨hvat, rfl⟩, _, ⟨hgross, rfl⟩, rfl⟩ := h
  exact ⟨hamount _ hquantity, hamount _ hbase, hamount _ hdiscount, hamount _ hnet,
    hamount _ hvat, hamount _ hgross⟩

private theorem inRange_of_entryM {previous' : Option PreviousAllocationTotal}
    (hprevious : InRange (previous.getD 0))
    (h : entryM addPreviousAllocation previous allocations = .ok previous') :
    InRange (previous'.getD 0) := by
  induction allocations generalizing previous with
  | nil =>
      obtain rfl : previous = previous' := pure_eq_ok.mp h
      exact hprevious
  | cons allocation rest ih =>
      obtain ⟨t, hstep, hrest⟩ := entryM_cons.mp h
      exact ih (inRange_of_addPreviousAllocation hstep) hrest

/-- Earlier credits that are summed up stay inside their lines. -/
theorem sumPreviousAllocations_within {totals : OrderedMap String PreviousAllocationTotal}
    (h : sumPreviousAllocations allocations capacities = .ok totals) :
    (∀ a ∈ allocations, ValidAllocation a ∧
      ∃ c, capacities.get? a.sourceInvoiceLineId = some c
        ∧ ¬ ExceedsCapacity c (totalFor a.sourceInvoiceLineId allocations))
      ∧ ∀ id, InRange (totalFor id allocations) := by
  have htotal := sumPreviousAllocations_spec h
  simp only [sumPreviousAllocations, bind_eq_ok, pure_eq_ok] at h
  obtain ⟨_, hgroup, _, hentries, rfl⟩ := h
  obtain ⟨hvalid, hgroup⟩ := groupM_checked.mp hgroup
  refine ⟨fun a ha => ?_, fun id => ?_⟩
  · have hcheck := hvalid a ha
    simp only [requireSourceLineAllocation, bind_eq_ok, throwIf_eq_ok, exists_const] at hcheck
    obtain ⟨hknown, hallocation⟩ := hcheck
    obtain ⟨c, hc⟩ := Option.ne_none_iff_exists'.mp hknown
    -- the line of an allocation has an entry, and the entry was checked
    obtain ⟨total, hget⟩ : ∃ total, _ := mem_keys.mp (by
      rw [groupM_keys hgroup, mem_appearance]
      exact .inr (List.mem_map_of_mem ha))
    have hchecked := forM_eq_ok.mp hentries _ (mem_entries.mpr hget)
    simp only [hc, throwIf_eq_ok] at hchecked
    have hsum := htotal a.sourceInvoiceLineId
    rw [hget, Option.getD_some] at hsum
    exact ⟨validatePreviousAllocation_eq_ok.mp hallocation, c, hc, hsum ▸ hchecked⟩
  · rw [← htotal id]
    exact @inRange_of_entryM none _ _ inRange_zero (groupM_get? hgroup id)

/-- Earlier credits that stay inside their lines are summed up without error. -/
theorem sumPreviousAllocations_total (hall : ∀ a ∈ allocations, ValidAllocation a ∧
      ∃ c, capacities.get? a.sourceInvoiceLineId = some c
        ∧ ¬ ExceedsCapacity c (totalFor a.sourceInvoiceLineId allocations))
    (hrange : ∀ id, InRange (totalFor id allocations)) :
    ∃ totals, sumPreviousAllocations allocations capacities = .ok totals := by
  have hadded : ∃ totals, groupM (·.sourceInvoiceLineId) addPreviousAllocation
      OrderedMap.empty allocations = .ok totals := by
    refine groupM_total (fun id => ?_)
    refine entryM_addPreviousAllocation_total inRange_zero ?_ ?_
    · exact fun a ha => (hall a (mem_withKey.mp ha).1).1.range
    · show InRange (0 + totalFor id allocations)
      rw [zero_add]
      exact hrange id
  obtain ⟨totals, htotals⟩ := hadded
  have hvalid : ∀ a ∈ allocations, requireSourceLineAllocation capacities a = .ok () := by
    intro a ha
    obtain ⟨hvalid, c, hc, _⟩ := hall a ha
    rw [requireSourceLineAllocation, bind_eq_ok]
    exact ⟨(), throwIf_of_not (by rw [hc]; exact Option.some_ne_none c),
      validatePreviousAllocation_eq_ok.mpr hvalid⟩
  refine ⟨totals, ?_⟩
  rw [sumPreviousAllocations, bind_eq_ok]
  refine ⟨totals, groupM_checked.mpr ⟨hvalid, htotals⟩, ?_⟩
  rw [bind_eq_ok]
  refine ⟨(), forM_eq_ok.mpr ?_, rfl⟩
  rintro ⟨id, total⟩ he
  have hget : totals.get? id = some total := mem_entries.mp he
  have hentry := groupM_get? htotals id
  -- an entry belongs to a line with an earlier credit
  obtain ⟨a, ha, rfl⟩ : ∃ a ∈ allocations, a.sourceInvoiceLineId = id := by
    have hkey : id ∈ totals.keys := mem_keys.mpr ⟨total, hget⟩
    rw [groupM_keys htotals, mem_appearance] at hkey
    exact List.mem_map.mp (hkey.resolve_left List.not_mem_nil)
  obtain ⟨_, c, hc, hwithin⟩ := hall a ha
  have htotal : total = totalFor a.sourceInvoiceLineId allocations := by
    have hsum := entryM_addPreviousAllocation hentry
    rw [hget, Option.getD_some, OrderedMap.get?_empty, Option.getD_none,
      zero_add] at hsum
    exact hsum
  simp only [hc]
  exact throwIf_of_not (htotal ▸ hwithin)

/-! ## A credited line -/

/-- The input amount of what was credited before. -/
def PreviousAllocationTotal.inputCents (mode : PriceInputMode)
    (t : PreviousAllocationTotal) : Int :=
  match mode with
  | .net => t.netCents
  | .gross => t.grossCents

/-- **CUMULATIVE ALLOCATION**: a credited line takes base and input amount to the
    rounded part that belongs to the cumulative quantity. -/
structure CreditedLine (capacity : CreditLineCapacity) (previous : PreviousAllocationTotal)
    (credited : Int) (line : CalculatedCreditLine) : Prop where
  id : line.sourceInvoiceLineId = capacity.sourceInvoiceLineId
  quantity : line.quantityHundredths = credited
  positive : IsAmount credited ∧ credited ≠ 0
  within : previous.quantityHundredths + credited ≤ capacity.quantityHundredths
  mode : line.priceInputMode = capacity.priceInputMode
  rate : line.vatRateBasisPoints = capacity.vatRateBasisPoints
  base : previous.baseCents + line.baseCents
    = halfUp (capacity.baseCents * (previous.quantityHundredths + credited))
        capacity.quantityHundredths
  input : previous.inputCents capacity.priceInputMode + line.inputCents
    = halfUp (capacity.discountedInputCents * (previous.quantityHundredths + credited))
        capacity.quantityHundredths
  reconciles : line.baseCents - line.discountCents = line.inputCents
  base_nonneg : 0 ≤ line.baseCents
  discount_nonneg : 0 ≤ line.discountCents
  input_nonneg : 0 ≤ line.inputCents

theorem creditRequestedLine_spec {previousBySourceLine : OrderedMap String PreviousAllocationTotal}
    {requested : RequestedCreditLine} {line : CalculatedCreditLine}
    (h : creditRequestedLine capacities previousBySourceLine requested = .ok line) :
    ∃ capacity, capacities.get? requested.sourceInvoiceLineId = some capacity
      ∧ CreditedLine capacity
          ((previousBySourceLine.get? requested.sourceInvoiceLineId).getD 0)
          requested.quantityHundredths line := by
  simp only [creditRequestedLine, allocateCreditLine, allocateCumulativeAmount,
    subtractAllocation, bind_eq_ok, orThrow_eq_ok, throwIf_eq_ok, exists_const, pure_eq_ok,
    requirePositiveSafeInteger_eq_ok, roundHalfUp_eq_ok, subtractAmount_eq_ok] at h
  obtain ⟨capacity, hcapacity, hq, hwithin, _, ⟨_, _, rfl, _⟩, _, ⟨_, _, rfl, _⟩, base,
    ⟨hbase, hbase0⟩, input, ⟨hinput, hinput0⟩, hrest, rfl⟩ := h
  have hzero : ((previousBySourceLine.get? requested.sourceInvoiceLineId).getD 0)
      = (previousBySourceLine.get? requested.sourceInvoiceLineId).getD
          createEmptyPreviousAllocation := rfl
  refine ⟨capacity, hcapacity, ?_⟩
  rw [hzero]
  set previous := (previousBySourceLine.get? requested.sourceInvoiceLineId).getD
    createEmptyPreviousAllocation
  cases hmode : capacity.priceInputMode with
  | net =>
      simp only [hmode, if_true] at hinput hrest
      refine ⟨rfl, ?_, hq, by omega, hmode.symm ▸ rfl, rfl, ?_, ?_, ?_, hbase0.1, ?_, ?_⟩
      all_goals simp only [LineAmounts.inputCents, PreviousAllocationTotal.inputCents,
        hmode, if_true]
      all_goals first | exact hinput0.1 | omega
  | gross =>
      simp only [hmode, reduceCtorEq, if_false, if_true] at hinput hrest
      refine ⟨rfl, ?_, hq, by omega, hmode.symm ▸ rfl, rfl, ?_, ?_, ?_, hbase0.1, ?_, ?_⟩
      all_goals simp only [LineAmounts.inputCents, PreviousAllocationTotal.inputCents,
        hmode, reduceCtorEq, if_false, if_true]
      all_goals first | exact hinput0.1 | omega

/-- What a line has left for a quantity `q`: the rounded amounts of the cumulative
    quantity do not go below those credited before, and neither does the discount
    between them. -/
structure Extends (c : CreditLineCapacity) (p : PreviousAllocationTotal) (q : Int) : Prop where
  positive : IsAmount q ∧ q ≠ 0
  within : p.quantityHundredths + q ≤ c.quantityHundredths
  base : p.baseCents ≤ halfUp (c.baseCents * (p.quantityHundredths + q)) c.quantityHundredths
  input : p.inputCents c.priceInputMode
    ≤ halfUp (c.discountedInputCents * (p.quantityHundredths + q)) c.quantityHundredths
  discount : halfUp (c.discountedInputCents * (p.quantityHundredths + q)) c.quantityHundredths
      - p.inputCents c.priceInputMode
    ≤ halfUp (c.baseCents * (p.quantityHundredths + q)) c.quantityHundredths - p.baseCents

/-- **A LINE IS CREDITED** as far as it extends what was credited before. -/
theorem creditRequestedLine_total {previousBySourceLine : OrderedMap String PreviousAllocationTotal}
    {requested : RequestedCreditLine} {c : CreditLineCapacity} {p : PreviousAllocationTotal}
    (hc : capacities.get? requested.sourceInvoiceLineId = some c)
    (hp : (previousBySourceLine.get? requested.sourceInvoiceLineId).getD 0 = p)
    (hextends : Extends c p requested.quantityHundredths) (hp0 : 0 ≤ p.quantityHundredths)
    (hcq : c.quantityHundredths ≤ maximumSafeInteger)
    (hbase : 0 ≤ p.baseCents ∧ 0 ≤ c.baseCents ∧ c.baseCents ≤ maximumSafeInteger)
    (hinput : 0 ≤ p.inputCents c.priceInputMode ∧ 0 ≤ c.discountedInputCents
      ∧ c.discountedInputCents ≤ maximumSafeInteger) :
    ∃ line, creditRequestedLine capacities previousBySourceLine requested = .ok line := by
  obtain ⟨hq, hwithin, hbaseGrows, hinputGrows, hdiscount⟩ := hextends
  have hpos : 0 < c.quantityHundredths := by
    have h₁ := hq.1.1
    have h₂ := hq.2
    omega
  have hcumulative : 0 ≤ p.quantityHundredths + requested.quantityHundredths := by
    have h₁ := hq.1.1
    omega
  have hp' : (previousBySourceLine.get? requested.sourceInvoiceLineId).getD
      createEmptyPreviousAllocation = p := hp
  have hsafe : ¬ (¬ IsSafeInteger (p.quantityHundredths + requested.quantityHundredths)
      ∨ p.quantityHundredths + requested.quantityHundredths > c.quantityHundredths) := by
    simp only [IsSafeInteger]
    omega
  -- the rounded amounts end within the capacity
  have hbaseTarget : 0 ≤ c.baseCents * (p.quantityHundredths + requested.quantityHundredths) :=
    Int.mul_nonneg hbase.2.1 hcumulative
  have hinputTarget : 0 ≤ c.discountedInputCents
      * (p.quantityHundredths + requested.quantityHundredths) :=
    Int.mul_nonneg hinput.2.1 hcumulative
  have hbaseMax := halfUp_part_le hbase.2.1 hwithin hpos
  have hinputMax := halfUp_part_le hinput.2.1 hwithin hpos
  cases hmode : c.priceInputMode
  case' net =>
    have hpInput : p.inputCents c.priceInputMode = p.netCents := by
      rw [hmode]
      rfl
  case' gross =>
    have hpInput : p.inputCents c.priceInputMode = p.grossCents := by
      rw [hmode]
      rfl
  all_goals
    simp only [creditRequestedLine, allocateCreditLine, allocateCumulativeAmount,
      subtractAllocation, bind_eq_ok, orThrow_eq_ok, throwIf_eq_ok, exists_const,
      pure_eq_ok, requirePositiveSafeInteger_eq_ok, roundHalfUp_eq_ok,
      subtractAmount_eq_ok, hp']
    refine ⟨_, c, hc, hq, hsafe, _, ⟨hbaseTarget, hpos, rfl, by omega⟩, _,
      ⟨hinputTarget, hpos, rfl, by omega⟩, _, ⟨rfl, by omega, by omega⟩, _, ⟨rfl, ?_, ?_⟩,
      ?_, rfl⟩
    all_goals simp only [hmode, reduceCtorEq, if_true, if_false, false_and, true_and,
      ne_eq, not_true_eq_false, or_false]
    all_goals omega

end CreditInvoice
