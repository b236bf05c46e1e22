import Eky.ReverseCharge

/-! # Reverse-charge proofs — what is accepted, and when

    - `calculateReverseChargeInvoice_spec`: the lines and totals of an issued
      invoice;
    - `calculateReverseChargeCreditInvoiceDraft_spec`: what an accepted draft
      says about its lines, and that it stays within the invoice;
    - `calculateReverseChargeCreditInvoiceDraft_rest`: when the request for what is
      left of the lines is accepted. -/

namespace ReverseCharge

open Fallible Apportionment OrderedMap InvoiceMoney
open CreditInvoice (RequestedCreditLine)
open InvoiceCalculation (InvoiceTotals)

/-! ## Amounts -/

theorem rejectsOverflow_outsideSafeRange : RejectsOverflow outsideSafeRange := by
  intro n hn
  simp only [outsideSafeRange, IsSafeInteger, maximumSafeInteger]
  omega

theorem addSafe_eq_ok {a b s : Int} (h : 0 ≤ a + b) :
    addSafe a b = .ok s ↔ a + b = s ∧ s ≤ maximumSafeInteger :=
  addUnless_eq_ok rejectsOverflow_outsideSafeRange h

theorem subtract_eq_ok {a b s : Int} : subtract a b = .ok s ↔ a - b = s ∧ IsAmount s :=
  subtractAmount_eq_ok

/-- A sum of amounts, added up with checks. -/
theorem sumNet_eq_ok {α : Type} {f : α → Int} {xs : List α} (h : ∀ x ∈ xs, 0 ≤ f x)
    {s : Int} : xs.foldlM (fun sum x => addSafe sum (f x)) 0 = .ok s
      ↔ (xs.map f).sum = s ∧ s ≤ maximumSafeInteger := by
  have hsum := @sumM_eq_ok outsideSafeRange _ (.credit "Credit amount exceeds safe integer range.")
    rejectsOverflow_outsideSafeRange α f xs h 0 s isAmount_zero
  rwa [Int.zero_add] at hsum

theorem allocate_eq_ok {total quantity capacity r : Int} :
    allocate total quantity capacity = .ok r ↔ 0 < capacity ∧ 0 ≤ total * quantity
      ∧ halfUp (total * quantity) capacity = r ∧ r ≤ maximumSafeInteger := by
  simp only [allocate, bind_eq_ok, throwIf_eq_ok, exists_const, roundHalfUp_eq_ok, Int.not_le]
  constructor
  · rintro ⟨hc, hn, _, hr, hmax⟩
    exact ⟨hc, hn, hr, hmax⟩
  · rintro ⟨hc, hn, hr, hmax⟩
    exact ⟨hc, hn, hc, hr, hmax⟩

/-- The amounts of a line without VAT: its net amount is base less discount. -/
structure Untaxed (x : CreditAmounts) : Prop where
  quantity : IsAmount x.quantityHundredths
  mode : x.priceInputMode = .net
  rate : x.vatRateBasisPoints = none
  base : IsAmount x.baseCents
  discount : 0 ≤ x.discountCents ∧ x.discountCents ≤ x.baseCents
  net : x.netCents = x.baseCents - x.discountCents
  vat : x.vatCents = 0
  gross : x.grossCents = x.netCents

variable {x : CreditAmounts} {d : CalculatedCreditDraft} {id : String}
  {m : OrderedMap String AllocationTotal} {a : ReverseChargePreviousCreditAllocation}
  {l : ReverseChargeCreditSourceLine}

theorem Untaxed.net_nonneg (h : Untaxed x) : 0 ≤ x.netCents := by
  have hnet := h.net
  have hdiscount := h.discount
  omega

theorem Untaxed.net_le (h : Untaxed x) : x.netCents ≤ maximumSafeInteger := by
  have hnet := h.net
  have hdiscount := h.discount
  have hbase := h.base.2
  omega

/-- **THE CHECK**: it passes the amounts of a line without VAT, except those of a
    line WITHOUT QUANTITY. -/
theorem not_hasInvalidAmounts : ¬ HasInvalidAmounts x ↔ Untaxed x ∧ 0 < x.quantityHundredths := by
  constructor
  · intro h
    simp only [HasInvalidAmounts, not_or, Decidable.not_not] at h
    obtain ⟨hsafe, hpositive, hmode, hrate, hbase, hdiscount, hnet, hgross, hvat, hle, hrec,
      heq⟩ := h
    have hq : 0 < x.quantityHundredths := Int.not_le.mp hpositive
    exact ⟨⟨⟨Int.le_of_lt hq, hsafe.2⟩, hmode, hrate, hbase, ⟨hdiscount.1, Int.not_lt.mp hle⟩,
      hrec.symm, hvat, heq.symm⟩, hq⟩
  · rintro ⟨h, hq⟩
    have hnet := h.net_nonneg
    have hnetMax := h.net_le
    have hdiscount := h.discount
    have hbase := h.base.2
    simp only [HasInvalidAmounts, not_or, Decidable.not_not]
    refine ⟨(isAmount_iff.mp h.quantity).1, Int.not_le.mpr hq, h.mode, h.rate, h.base,
      ⟨hdiscount.1, by omega⟩, ⟨hnet, hnetMax⟩, ?_, h.vat, Int.not_lt.mpr hdiscount.2,
      h.net.symm, h.gross.symm⟩
    rw [h.gross]
    exact ⟨hnet, hnetMax⟩

/-- The portion that a line stands for. -/
def CreditAmounts.portion (x : CreditAmounts) : Portion :=
  ⟨x.quantityHundredths, x.baseCents, x.netCents⟩

/-! ## The invoice -/

theorem calculateReverseChargeInvoiceLine_spec
    {input : ReverseChargeInvoiceLineCalculationInput} {c : CalculatedReverseChargeInvoiceLine}
    (h : calculateReverseChargeInvoiceLine input = .ok c) :
    Untaxed c.toCreditAmounts
      ∧ (c.quantityHundredths = 0 → c.netCents = 0) := by
  simp only [calculateReverseChargeInvoiceLine, bind_eq_ok, throwIf_eq_ok, exists_const,
    pure_eq_ok] at h
  obtain ⟨_, base, hbase, rfl⟩ := h
  obtain ⟨hquantity, _, hprice, hamount, hdiscount, hle, hnet⟩ :=
    calculateInvoiceLineBase_spec hbase
  refine ⟨⟨hquantity, rfl, rfl, hamount, ⟨hdiscount, hle⟩, hnet, rfl, rfl⟩, ?_⟩
  intro hzero
  have hq : input.quantityHundredths = 0 := hzero
  rw [hq, Int.mul_zero, halfUp_zero (by decide)] at hprice
  show base.discountedBaseCents = 0
  omega

/-- **THE INVOICE**: lines without VAT, and the sum of their net amounts. -/
theorem calculateReverseChargeInvoice_spec
    {inputs : List ReverseChargeInvoiceLineCalculationInput} {c : CalculatedReverseChargeInvoice}
    (h : calculateReverseChargeInvoice inputs = .ok c) :
    (∀ line ∈ c.lines, Untaxed line.toCreditAmounts
        ∧ (line.quantityHundredths = 0 → line.netCents = 0))
      ∧ c.totals = ⟨(c.lines.map (·.netCents)).sum, 0, (c.lines.map (·.netCents)).sum, []⟩
      ∧ (c.lines.map (·.netCents)).sum ≤ maximumSafeInteger := by
  simp only [calculateReverseChargeInvoice, bind_eq_ok, pure_eq_ok] at h
  obtain ⟨lines, hlines, net, hnet, rfl⟩ := h
  have hall : ∀ line ∈ lines, Untaxed line.toCreditAmounts
      ∧ (line.quantityHundredths = 0 → line.netCents = 0) := by
    intro line hline
    obtain ⟨input, _, hinput⟩ := exists_source_of_mapM_ok hlines hline
    exact calculateReverseChargeInvoiceLine_spec hinput
  obtain ⟨rfl, hmax⟩ := (sumM_eq_ok rejectsOverflow_outsideSafeRange
    (fun line hline => (hall line hline).1.net_nonneg) isAmount_zero).mp hnet
  rw [Int.zero_add] at hmax ⊢
  exact ⟨hall, rfl, hmax⟩

/-! ## Source lines -/

/-- A source line that the credit accepts. -/
structure ValidSourceLine (l : ReverseChargeCreditSourceLine) : Prop where
  id : l.id.length ≠ 0
  lineOrder : IsSafeInteger l.lineOrder ∧ 1 ≤ l.lineOrder
  amounts : Untaxed l.toCreditAmounts
  positive : 0 < l.quantityHundredths

private theorem validateSourceLine_eq_ok
    {m m' : OrderedMap String ReverseChargeCreditSourceLine}
    {line : ReverseChargeCreditSourceLine} : validateSourceLine m line = .ok m'
      ↔ ValidSourceLine line ∧ m.get? line.id = none ∧ m' = m.set line.id line := by
  simp only [validateSourceLine, bind_eq_ok, throwIf_eq_ok, exists_const, pure_eq_ok, not_or,
    not_hasInvalidAmounts, Decidable.not_not, Option.not_isSome_iff_eq_none, Int.not_lt]
  constructor
  · rintro ⟨⟨hid, hnone, hsafe, horder, hamounts, hpositive⟩, rfl⟩
    exact ⟨⟨hid, ⟨hsafe, horder⟩, hamounts, hpositive⟩, hnone, rfl⟩
  · rintro ⟨⟨hid, ⟨hsafe, horder⟩, hamounts, hpositive⟩, hnone, rfl⟩
    exact ⟨⟨hid, hnone, hsafe, horder, hamounts, hpositive⟩, rfl⟩

/-- The loop accepts exactly valid, distinct lines. -/
private theorem foldlM_validateSourceLine
    {m m' : OrderedMap String ReverseChargeCreditSourceLine}
    {lines : List ReverseChargeCreditSourceLine} :
    lines.foldlM validateSourceLine m = .ok m' ↔
      (∀ l ∈ lines, ValidSourceLine l) ∧ (lines.map (·.id)).Nodup
        ∧ (∀ l ∈ lines, m.get? l.id = none)
        ∧ m' = lines.foldl (fun m l => m.set l.id l) m := by
  induction lines generalizing m with
  | nil =>
      rw [List.foldlM_nil, pure_eq_ok]
      constructor
      · rintro rfl
        exact ⟨fun _ h => (nomatch h), List.nodup_nil, fun _ h => (nomatch h), rfl⟩
      · rintro ⟨_, _, _, h⟩
        exact h.symm
  | cons line rest ih =>
      rw [List.foldlM_cons, bind_eq_ok, List.map_cons, List.nodup_cons, List.forall_mem_cons,
        List.forall_mem_cons]
      have hother : ∀ l ∈ rest, line.id ∉ rest.map (·.id) →
          (m.set line.id line).get? l.id = m.get? l.id :=
        fun l hl hnot => get?_set_ne
          (fun heq => hnot (heq ▸ List.mem_map_of_mem hl))
      constructor
      · rintro ⟨m₁, hline, hrest⟩
        obtain ⟨hvalid, hnone, rfl⟩ := validateSourceLine_eq_ok.mp hline
        obtain ⟨hvalids, hnodup, hfresh, hm⟩ := ih.mp hrest
        have hnot : line.id ∉ rest.map (·.id) := by
          intro hmem
          obtain ⟨l, hl, hid⟩ := List.mem_map.mp hmem
          have hsome := hfresh l hl
          rw [hid, get?_set_self] at hsome
          exact nomatch hsome
        refine ⟨⟨hvalid, hvalids⟩, ⟨hnot, hnodup⟩, ⟨hnone, fun l hl => ?_⟩, hm⟩
        rw [← hother l hl hnot]
        exact hfresh l hl
      · rintro ⟨⟨hvalid, hvalids⟩, ⟨hnot, hnodup⟩, ⟨hnone, hfresh⟩, hm⟩
        refine ⟨_, validateSourceLine_eq_ok.mpr ⟨hvalid, hnone, rfl⟩,
          ih.mpr ⟨hvalids, hnodup, fun l hl => ?_, hm⟩⟩
        rw [hother l hl hnot]
        exact hfresh l hl

/-- The source lines by their ids. -/
def linesById (lines : List ReverseChargeCreditSourceLine) :
    OrderedMap String ReverseChargeCreditSourceLine :=
  ofList (lines.map fun l => (l.id, l))

theorem validateSourceLines_eq_ok {m : OrderedMap String ReverseChargeCreditSourceLine}
    {lines : List ReverseChargeCreditSourceLine} : validateSourceLines lines = .ok m ↔
      (∀ l ∈ lines, ValidSourceLine l) ∧ (lines.map (·.id)).Nodup ∧ m = linesById lines := by
  have hfold : linesById lines = lines.foldl (fun m l => m.set l.id l) empty := by
    rw [linesById, ofList, List.foldl_map]
  rw [validateSourceLines, foldlM_validateSourceLine, hfold]
  constructor
  · rintro ⟨hvalid, hnodup, _, hm⟩
    exact ⟨hvalid, hnodup, hm⟩
  · rintro ⟨hvalid, hnodup, hm⟩
    exact ⟨hvalid, hnodup, fun _ _ => rfl, hm⟩

theorem get?_linesById {lines : List ReverseChargeCreditSourceLine}
    (hids : (lines.map (·.id)).Nodup) (hl : l ∈ lines) : (linesById lines).get? l.id = some l := by
  refine (get?_ofList ?_).mpr (List.mem_map_of_mem hl)
  rintro _ hp _ hq heq
  obtain ⟨k, hk, rfl⟩ := List.mem_map.mp hp
  obtain ⟨k', hk', rfl⟩ := List.mem_map.mp hq
  exact List.inj_on_of_nodup_map hids hk hk' heq

theorem mem_of_get?_linesById {lines : List ReverseChargeCreditSourceLine}
    (h : (linesById lines).get? id = some l) : l ∈ lines ∧ l.id = id := by
  obtain ⟨k, hk, heq⟩ := List.mem_map.mp (mem_of_get?_ofList h)
  obtain ⟨hid, rfl⟩ := Prod.mk.inj heq
  exact ⟨hk, hid⟩

/-! ## Earlier credits -/

instance : Add AllocationTotal where
  add a b := ⟨a.quantityHundredths + b.quantityHundredths, a.baseCents + b.baseCents,
    a.discountCents + b.discountCents, a.netCents + b.netCents⟩

instance : Zero AllocationTotal := ⟨createEmptyAllocation⟩

theorem AllocationTotal.ext_add {a b : AllocationTotal} :
    a + b = ⟨a.quantityHundredths + b.quantityHundredths, a.baseCents + b.baseCents,
      a.discountCents + b.discountCents, a.netCents + b.netCents⟩ := rfl

/-- Totals are added field by field. -/
instance : AddCommMonoid AllocationTotal where
  add_assoc a b c := by simp only [AllocationTotal.ext_add, Int.add_assoc]
  zero_add a := by
    show AllocationTotal.mk (0 + _) (0 + _) (0 + _) (0 + _) = a
    simp only [Int.zero_add]
  add_zero a := by
    show AllocationTotal.mk (_ + 0) (_ + 0) (_ + 0) (_ + 0) = a
    simp only [Int.add_zero]
  add_comm a b := by
    simp only [AllocationTotal.ext_add, AllocationTotal.mk.injEq]
    exact ⟨Int.add_comm _ _, Int.add_comm _ _, Int.add_comm _ _, Int.add_comm _ _⟩
  nsmul := nsmulRec

/-- A line as part of a total. -/
def CreditAmounts.total (x : CreditAmounts) : AllocationTotal :=
  ⟨x.quantityHundredths, x.baseCents, x.discountCents, x.netCents⟩

/-- What the allocations take from a source line. -/
def allocated (id : String) (allocations : List ReverseChargePreviousCreditAllocation) :
    AllocationTotal :=
  ((withKey (·.sourceInvoiceLineId) (some id) allocations).map (·.total)).sum

theorem allocated_append (id : String)
    (first second : List ReverseChargePreviousCreditAllocation) :
    allocated id (first ++ second) = allocated id first + allocated id second := by
  rw [allocated, withKey, List.filter_append, List.map_append, List.sum_append]
  rfl

theorem allocated_perm (id : String)
    {first second : List ReverseChargePreviousCreditAllocation} (h : first.Perm second) :
    allocated id first = allocated id second :=
  ((h.filter _).map _).sum_eq

theorem allocated_cons_self {rest : List ReverseChargePreviousCreditAllocation}
    (h : a.sourceInvoiceLineId = some id) :
    allocated id (a :: rest) = a.total + allocated id rest := by
  rw [allocated, allocated, ← h, withKey_cons_self, List.map_cons, List.sum_cons]

theorem allocated_cons_ne {rest : List ReverseChargePreviousCreditAllocation}
    (h : a.sourceInvoiceLineId ≠ some id) : allocated id (a :: rest) = allocated id rest := by
  rw [allocated, withKey_cons_ne h]
  rfl

theorem allocated_of_none {allocations : List ReverseChargePreviousCreditAllocation}
    (h : ∀ a ∈ allocations, a.sourceInvoiceLineId ≠ some id) : allocated id allocations = 0 := by
  have hnil : withKey (·.sourceInvoiceLineId) (some id) allocations = [] := by
    rw [List.eq_nil_iff_forall_not_mem]
    intro a ha
    exact h a (mem_withKey.mp ha).1 (mem_withKey.mp ha).2
  rw [allocated, hnil]
  rfl

/-- A sum of credited lines. -/
structure IsPart (t : AllocationTotal) : Prop where
  quantity : 0 ≤ t.quantityHundredths
  discount : 0 ≤ t.discountCents ∧ t.discountCents ≤ t.baseCents
  net : t.netCents = t.baseCents - t.discountCents
  nothing : t.quantityHundredths = 0 → t.netCents = 0

theorem isPart_zero : IsPart 0 :=
  ⟨Int.le_refl 0, ⟨Int.le_refl 0, Int.le_refl 0⟩, rfl, fun _ => rfl⟩

theorem IsPart.add {a b : AllocationTotal} (ha : IsPart a) (hb : IsPart b) : IsPart (a + b) := by
  obtain ⟨haq, had, han, ha0⟩ := ha
  obtain ⟨hbq, hbd, hbn, hb0⟩ := hb
  rw [AllocationTotal.ext_add]
  refine ⟨Int.add_nonneg haq hbq, ⟨Int.add_nonneg had.1 hbd.1, Int.add_le_add had.2 hbd.2⟩,
    ?_, ?_⟩
  · dsimp only
    omega
  · intro hzero
    dsimp only at hzero ⊢
    rw [ha0 (by omega), hb0 (by omega)]
    rfl

/-- The part of a line that was taken. -/
def AllocationTotal.portion (t : AllocationTotal) : Portion :=
  ⟨t.quantityHundredths, t.baseCents, t.netCents⟩

theorem IsPart.portion {t : AllocationTotal} (h : IsPart t) : IsPortion t.portion where
  quantity := h.quantity
  input := by
    have hnet := h.net
    have hdiscount := h.discount
    show 0 ≤ t.netCents
    omega
  discount := by
    have hnet := h.net
    have hdiscount := h.discount
    show t.netCents ≤ t.baseCents
    omega
  nothing := h.nothing

/-- An earlier credit that the check accepts. -/
structure ValidAllocation (lines : List ReverseChargeCreditSourceLine)
    (a : ReverseChargePreviousCreditAllocation) : Prop where
  amounts : Untaxed a.toCreditAmounts
  positive : 0 < a.quantityHundredths
  source : ∀ id, a.sourceInvoiceLineId = some id → ∃ l ∈ lines, l.id = id

theorem ValidAllocation.isPart {lines : List ReverseChargeCreditSourceLine}
    (h : ValidAllocation lines a) : IsPart a.total where
  quantity := Int.le_of_lt h.positive
  discount := h.amounts.discount
  net := h.amounts.net
  nothing hzero := absurd hzero (ne_of_gt h.positive)

theorem isPart_allocated {allocations : List ReverseChargePreviousCreditAllocation}
    (h : ∀ a ∈ allocations, a.sourceInvoiceLineId = some id → IsPart a.total) :
    IsPart (allocated id allocations) := by
  rw [allocated]
  have hown : ∀ a ∈ withKey (·.sourceInvoiceLineId) (some id) allocations, IsPart a.total :=
    fun a ha => h a (mem_withKey.mp ha).1 (mem_withKey.mp ha).2
  generalize withKey (·.sourceInvoiceLineId) (some id) allocations = own at hown
  induction own with
  | nil => exact isPart_zero
  | cons a rest ih =>
      rw [List.map_cons, List.sum_cons]
      exact (hown a List.mem_cons_self).add
        (ih (fun b hb => hown b (List.mem_cons_of_mem a hb)))

private theorem addAllocation_spec {p t : AllocationTotal} (h : addAllocation p a = .ok t) :
    t = p + a.total := by
  simp only [addAllocation, addSafe, addUnless, bind_eq_ok, throwIf_eq_ok, exists_const,
    pure_eq_ok] at h
  obtain ⟨_, ⟨_, rfl⟩, _, ⟨_, rfl⟩, _, ⟨_, rfl⟩, _, ⟨_, rfl⟩, rfl⟩ := h
  rfl

/-- Parts of a source line can be added up. -/
private theorem addAllocation_total (hl : ValidSourceLine l) {p : AllocationTotal}
    (hpart : IsPart (p + a.total)) (htaken : TakenPart l.portion (p + a.total).portion) :
    addAllocation p a = .ok (p + a.total) := by
  have hquantityMax := hl.amounts.quantity.2
  have hbaseMax := hl.amounts.base.2
  have hnetMax := hl.amounts.net_le
  have hquantity : 0 ≤ p.quantityHundredths + a.quantityHundredths
      ∧ p.quantityHundredths + a.quantityHundredths ≤ l.quantityHundredths := htaken.quantity
  have hbase : 0 ≤ p.baseCents + a.baseCents ∧ p.baseCents + a.baseCents ≤ l.baseCents :=
    htaken.base
  have hnet : 0 ≤ p.netCents + a.netCents ∧ p.netCents + a.netCents ≤ l.netCents :=
    htaken.input
  have hdiscount : 0 ≤ p.discountCents + a.discountCents
      ∧ p.discountCents + a.discountCents ≤ p.baseCents + a.baseCents := hpart.discount
  simp only [addAllocation, bind_eq_ok, pure_eq_ok]
  exact ⟨_, (addSafe_eq_ok hquantity.1).mpr ⟨rfl, by omega⟩,
    _, (addSafe_eq_ok hbase.1).mpr ⟨rfl, by omega⟩,
    _, (addSafe_eq_ok hdiscount.1).mpr ⟨rfl, by omega⟩,
    _, (addSafe_eq_ok hnet.1).mpr ⟨rfl, by omega⟩, rfl⟩

section Allocations

variable {lines : List ReverseChargeCreditSourceLine}
variable {allocations : List ReverseChargePreviousCreditAllocation}

/-- One step of the loop: the totals grow by the allocation, line by line. -/
private theorem validatePreviousAllocation_spec {m' : OrderedMap String AllocationTotal}
    (h : validatePreviousAllocation (linesById lines) m a = .ok m') : ValidAllocation lines a
      ∧ ∀ id, (m'.get? id).getD 0 = (m.get? id).getD 0 + allocated id [a] := by
  rw [validatePreviousAllocation, bind_eq_ok] at h
  obtain ⟨_, hcheck, h⟩ := h
  obtain ⟨hamounts, hpositive⟩ := not_hasInvalidAmounts.mp (throwIf_eq_ok.mp hcheck)
  cases hsource : a.sourceInvoiceLineId with
  | none =>
      rw [hsource] at h
      obtain rfl : m = m' := pure_eq_ok.mp h
      refine ⟨⟨hamounts, hpositive, fun id hid => nomatch hsource.symm.trans hid⟩, fun id => ?_⟩
      rw [allocated_cons_ne (fun heq => nomatch hsource.symm.trans heq)]
      exact (add_zero _).symm
  | some source =>
      rw [hsource] at h
      simp only [bind_eq_ok, orThrow_eq_ok, throwIf_eq_ok, exists_const, pure_eq_ok] at h
      obtain ⟨l, hl, next, hnext, _, rfl⟩ := h
      obtain ⟨hmem, hid⟩ := mem_of_get?_linesById hl
      refine ⟨⟨hamounts, hpositive, fun id h => ?_⟩, fun id => ?_⟩
      · exact ⟨l, hmem, hid.trans (Option.some.inj (hsource.symm.trans h))⟩
      · by_cases heq : id = source
        · subst heq
          rw [get?_set_self, allocated_cons_self hsource, Option.getD_some,
            addAllocation_spec hnext]
          exact congrArg _ (add_zero _).symm
        · rw [get?_set_ne heq, allocated_cons_ne
            (fun h => heq (Option.some.inj (hsource.symm.trans h)).symm)]
          exact (add_zero _).symm

private theorem validatePreviousAllocation_total (hlines : ∀ l ∈ lines, ValidSourceLine l)
    (hids : (lines.map (·.id)).Nodup) (ha : ValidAllocation lines a)
    (hpart : ∀ id, IsPart ((m.get? id).getD 0 + allocated id [a])) (htaken : ∀ l ∈ lines,
      TakenPart l.portion ((m.get? l.id).getD 0 + allocated l.id [a]).portion) :
    ∃ m', validatePreviousAllocation (linesById lines) m a = .ok m' := by
  have hcheck : ¬ HasInvalidAmounts a.toCreditAmounts :=
    not_hasInvalidAmounts.mpr ⟨ha.amounts, ha.positive⟩
  rw [validatePreviousAllocation, throwIf_of_not hcheck]
  cases hsource : a.sourceInvoiceLineId with
  | none => exact ⟨m, rfl⟩
  | some source =>
      obtain ⟨l, hl, rfl⟩ := ha.source source hsource
      have hone : allocated l.id [a] = a.total := by
        rw [allocated_cons_self hsource]
        exact add_zero _
      have hpartLine := hpart l.id
      have htakenLine := htaken l hl
      rw [hone] at hpartLine htakenLine
      refine ⟨m.set l.id ((m.get? l.id).getD 0 + a.total), ?_⟩
      simp only [ok_bind, bind_eq_ok, orThrow_eq_ok, throwIf_eq_ok, exists_const, pure_eq_ok]
      refine ⟨l, get?_linesById hids hl, _,
        addAllocation_total (hlines l hl) hpartLine htakenLine, ?_, rfl⟩
      have hquantity := htakenLine.quantity.2
      have hbase := htakenLine.base.2
      have hnet := htakenLine.input.2
      rintro (hgt | hgt | hgt)
      · exact absurd hquantity (Int.not_le.mpr hgt)
      · exact absurd hbase (Int.not_le.mpr hgt)
      · exact absurd hnet (Int.not_le.mpr hgt)

/-- The loop over the earlier credits. -/
private theorem foldlM_validatePreviousAllocation {m' : OrderedMap String AllocationTotal}
    (h : allocations.foldlM (validatePreviousAllocation (linesById lines)) m = .ok m') :
    (∀ a ∈ allocations, ValidAllocation lines a)
      ∧ ∀ id, (m'.get? id).getD 0 = (m.get? id).getD 0 + allocated id allocations := by
  induction allocations generalizing m with
  | nil =>
      obtain rfl : m = m' := pure_eq_ok.mp h
      exact ⟨fun _ h => (nomatch h), fun id => (add_zero _).symm⟩
  | cons a rest ih =>
      rw [List.foldlM_cons, bind_eq_ok] at h
      obtain ⟨m₁, ha, hrest⟩ := h
      obtain ⟨hvalid, hget⟩ := validatePreviousAllocation_spec ha
      obtain ⟨hvalids, hgets⟩ := ih hrest
      refine ⟨List.forall_mem_cons.mpr ⟨hvalid, hvalids⟩, fun id => ?_⟩
      have hsplit : allocated id (a :: rest) = allocated id [a] + allocated id rest :=
        allocated_append id [a] rest
      rw [hgets, hget, hsplit, add_assoc]

private theorem foldlM_validatePreviousAllocation_total (hlines : ∀ l ∈ lines, ValidSourceLine l)
    (hids : (lines.map (·.id)).Nodup) (hm : ∀ id, IsPart ((m.get? id).getD 0))
    (hvalid : ∀ a ∈ allocations, ValidAllocation lines a) (htaken : ∀ l ∈ lines,
      TakenPart l.portion ((m.get? l.id).getD 0 + allocated l.id allocations).portion) :
    ∃ m', allocations.foldlM (validatePreviousAllocation (linesById lines)) m = .ok m' := by
  induction allocations generalizing m with
  | nil => exact ⟨m, rfl⟩
  | cons a rest ih =>
      have ha := hvalid a List.mem_cons_self
      have hrest : ∀ b ∈ rest, ValidAllocation lines b :=
        fun b hb => hvalid b (List.mem_cons_of_mem a hb)
      have hone : ∀ id, IsPart (allocated id [a]) :=
        fun id => isPart_allocated (fun b hb _ => List.mem_singleton.mp hb ▸ ha.isPart)
      have hpart : ∀ id, IsPart ((m.get? id).getD 0 + allocated id [a]) :=
        fun id => (hm id).add (hone id)
      have hsplit : ∀ id, allocated id (a :: rest) = allocated id [a] + allocated id rest :=
        fun id => allocated_append id [a] rest
      -- what is taken after one allocation is part of what is taken in the end
      have hprefix : ∀ l ∈ lines,
          TakenPart l.portion ((m.get? l.id).getD 0 + allocated l.id [a]).portion := by
        intro l hl
        have hall := htaken l hl
        rw [hsplit, ← add_assoc, add_comm] at hall
        exact TakenPart.of_add (isPart_allocated (fun b hb _ => (hrest b hb).isPart)).portion
          (hpart l.id).portion hall
      obtain ⟨m₁, hstep⟩ := validatePreviousAllocation_total hlines hids ha hpart hprefix
      obtain ⟨_, hget⟩ := validatePreviousAllocation_spec hstep
      obtain ⟨m', hm'⟩ := @ih m₁ (fun id => hget id ▸ hpart id) hrest (fun l hl => by
        rw [hget, add_assoc, ← hsplit]
        exact htaken l hl)
      refine ⟨m', ?_⟩
      rw [List.foldlM_cons, bind_eq_ok]
      exact ⟨m₁, hstep, hm'⟩

/-- The capacity check compares three sums. -/
theorem requireWithinInvoiceCapacity_eq_ok {current : List CalculatedCreditDraftLine}
    {u : Unit} (hlines : ∀ l ∈ lines, 0 ≤ l.netCents)
    (hallocations : ∀ a ∈ allocations, 0 ≤ a.netCents) (hcurrent : ∀ y ∈ current, 0 ≤ y.netCents) :
    requireWithinInvoiceCapacity lines allocations current = .ok u ↔
      (lines.map (·.netCents)).sum ≤ maximumSafeInteger
        ∧ (allocations.map (·.netCents)).sum + (current.map (·.netCents)).sum
          ≤ (lines.map (·.netCents)).sum := by
  have hprevious0 : 0 ≤ (allocations.map (·.netCents)).sum := List.sum_nonneg (by
    intro n hn
    obtain ⟨a, ha, rfl⟩ := List.mem_map.mp hn
    exact hallocations a ha)
  have hcurrent0 : 0 ≤ (current.map (·.netCents)).sum := List.sum_nonneg (by
    intro n hn
    obtain ⟨y, hy, rfl⟩ := List.mem_map.mp hn
    exact hcurrent y hy)
  simp only [requireWithinInvoiceCapacity, bind_eq_ok, throwIf_eq_ok, sumNet_eq_ok hlines,
    sumNet_eq_ok hallocations, sumNet_eq_ok hcurrent, Int.not_lt]
  constructor
  · rintro ⟨_, ⟨rfl, hsource⟩, _, ⟨rfl, _⟩, _, ⟨rfl, _⟩, used, hused, hle⟩
    obtain ⟨rfl, _⟩ := (addSafe_eq_ok (by omega)).mp hused
    exact ⟨hsource, hle⟩
  · rintro ⟨hsource, hle⟩
    exact ⟨_, ⟨rfl, hsource⟩, _, ⟨rfl, by omega⟩, _, ⟨rfl, by omega⟩, _,
      (addSafe_eq_ok (by omega)).mpr ⟨rfl, by omega⟩, hle⟩

/-- The earlier credits are accepted with the totals of their lines. -/
theorem validatePreviousAllocations_spec
    (h : validatePreviousAllocations lines allocations (linesById lines) = .ok m) :
    (∀ a ∈ allocations, ValidAllocation lines a)
      ∧ ∀ id, (m.get? id).getD createEmptyAllocation = allocated id allocations := by
  simp only [validatePreviousAllocations, bind_eq_ok, pure_eq_ok] at h
  obtain ⟨m', hfold, _, _, rfl⟩ := h
  obtain ⟨hvalid, hget⟩ := foldlM_validatePreviousAllocation hfold
  exact ⟨hvalid, fun id => (hget id).trans (zero_add _)⟩

theorem validatePreviousAllocations_total (hlines : ∀ l ∈ lines, ValidSourceLine l)
    (hids : (lines.map (·.id)).Nodup) (hvalid : ∀ a ∈ allocations, ValidAllocation lines a)
    (htaken : ∀ l ∈ lines, TakenPart l.portion (allocated l.id allocations).portion)
    (hmax : (lines.map (·.netCents)).sum ≤ maximumSafeInteger)
    (hwithin : (allocations.map (·.netCents)).sum ≤ (lines.map (·.netCents)).sum) :
    ∃ m, validatePreviousAllocations lines allocations (linesById lines) = .ok m := by
  obtain ⟨m, hm⟩ := @foldlM_validatePreviousAllocation_total empty lines allocations hlines hids
    (fun _ => isPart_zero) hvalid (fun l hl => by
      show TakenPart l.portion (0 + allocated l.id allocations).portion
      rw [zero_add]
      exact htaken l hl)
  refine ⟨m, ?_⟩
  simp only [validatePreviousAllocations, bind_eq_ok, pure_eq_ok]
  refine ⟨m, hm, (), (@requireWithinInvoiceCapacity_eq_ok lines allocations [] ()
    (fun l hl => (hlines l hl).amounts.net_nonneg)
    (fun a ha => (hvalid a ha).amounts.net_nonneg) (fun _ h => (by cases h))).mpr
    ⟨hmax, ?_⟩, rfl⟩
  show _ + 0 ≤ _
  rwa [Int.add_zero]

/-! ## The lines of a draft -/

/-- What the line `y` credits of the source line `l`. -/
structure CreditsLine (allocations : List ReverseChargePreviousCreditAllocation)
    (l : ReverseChargeCreditSourceLine) (request : RequestedCreditLine)
    (y : CalculatedCreditDraftLine) : Prop where
  id : l.id = request.sourceInvoiceLineId
  source : y.sourceInvoiceLineId = some l.id
  quantity : y.quantityHundredths = request.quantityHundredths
  positive : 0 < y.quantityHundredths
  within : (allocated l.id allocations).quantityHundredths + y.quantityHundredths
    ≤ l.quantityHundredths
  amounts : Untaxed y.toCreditAmounts
  cumulative : (allocated l.id allocations + y.total).portion
    = cumulativePart l.portion
      ((allocated l.id allocations).quantityHundredths + y.quantityHundredths)

theorem creditSourceLine_spec
    (hget : ∀ id, (m.get? id).getD createEmptyAllocation = allocated id allocations)
    (hvalid : ∀ a ∈ allocations, ValidAllocation lines a) {request : RequestedCreditLine}
    {y : CalculatedCreditDraftLine} (h : creditSourceLine (linesById lines) m request = .ok y) :
    ∃ l ∈ lines, CreditsLine allocations l request y := by
  simp only [creditSourceLine, bind_eq_ok, orThrow_eq_ok, requirePositiveSafeInteger,
    throwIf_eq_ok, exists_const, allocate_eq_ok, subtract_eq_ok, pure_eq_ok, hget, not_or,
    Decidable.not_not, Int.not_le, Int.not_lt] at h
  obtain ⟨l, hl, ⟨hsafe, hpositive⟩, q, hq, hle, base, ⟨_, _, hbase, _⟩, net,
    ⟨_, _, hnet, _⟩, b, ⟨hb, hbAmount⟩, n, ⟨hn, hnAmount⟩, hdiscount, rfl⟩ := h
  obtain ⟨hmem, hid⟩ := mem_of_get?_linesById hl
  have hpart : IsPart (allocated l.id allocations) :=
    isPart_allocated (fun a ha _ => (hvalid a ha).isPart)
  obtain ⟨rfl, _⟩ := (addSafe_eq_ok (Int.add_nonneg hpart.quantity (Int.le_of_lt hpositive))).mp hq
  refine ⟨l, hmem, hid, rfl, rfl, hpositive, hle, ?_, ?_⟩
  · refine ⟨⟨Int.le_of_lt hpositive, hsafe.2⟩, rfl, rfl, hbAmount, ⟨hdiscount, ?_⟩,
      ?_, rfl, rfl⟩
    · have hn0 := hnAmount.1
      show b - n ≤ b
      omega
    · show n = b - (b - n)
      omega
  · show Portion.mk _ _ _ = Portion.mk _ _ _
    rw [Portion.mk.injEq]
    refine ⟨rfl, ?_, ?_⟩
    · show (allocated l.id allocations).baseCents + b = _
      have hcumulative : halfUp (l.baseCents * ((allocated l.id allocations).quantityHundredths
        + request.quantityHundredths)) l.quantityHundredths = base := hbase
      show _ = halfUp (l.baseCents * ((allocated l.id allocations).quantityHundredths
        + request.quantityHundredths)) l.quantityHundredths
      omega
    · show (allocated l.id allocations).netCents + n = _
      have hcumulative : halfUp (l.netCents * ((allocated l.id allocations).quantityHundredths
        + request.quantityHundredths)) l.quantityHundredths = net := hnet
      show _ = halfUp (l.netCents * ((allocated l.id allocations).quantityHundredths
        + request.quantityHundredths)) l.quantityHundredths
      omega

/-- The rest of a line can be credited. -/
theorem creditSourceLine_rest
    (hget : ∀ id, (m.get? id).getD createEmptyAllocation = allocated id allocations)
    (hids : (lines.map (·.id)).Nodup) (hl : l ∈ lines) (hline : ValidSourceLine l)
    (htaken : TakenPart l.portion (allocated l.id allocations).portion)
    (hopen : (allocated l.id allocations).quantityHundredths < l.quantityHundredths) :
    ∃ y, creditSourceLine (linesById lines) m ⟨l.id, l.quantityHundredths
      - (allocated l.id allocations).quantityHundredths⟩ = .ok y := by
  set p := allocated l.id allocations with hp
  have hquantity0 : 0 ≤ p.quantityHundredths := htaken.quantity.1
  have hquantityMax := hline.amounts.quantity.2
  have hbase : 0 ≤ p.baseCents ∧ p.baseCents ≤ l.baseCents := htaken.base
  have hnet : 0 ≤ p.netCents ∧ p.netCents ≤ l.netCents := htaken.input
  have hdiscount : l.netCents - p.netCents ≤ l.baseCents - p.baseCents := htaken.discount
  have hbaseMax := hline.amounts.base.2
  have hnetMax := hline.amounts.net_le
  have hfull : p.quantityHundredths + (l.quantityHundredths - p.quantityHundredths)
      = l.quantityHundredths := by omega
  -- the cumulative part of the whole quantity is the whole amount
  have hall : ∀ total, 0 ≤ total → total ≤ maximumSafeInteger →
      allocate total l.quantityHundredths l.quantityHundredths = .ok total :=
    fun total h0 hmax => allocate_eq_ok.mpr ⟨hline.positive,
      Int.mul_nonneg h0 (Int.le_of_lt hline.positive), halfUp_mul hline.positive, hmax⟩
  simp only [creditSourceLine, bind_eq_ok, orThrow_eq_ok, requirePositiveSafeInteger,
    throwIf_eq_ok, exists_const, subtract_eq_ok, pure_eq_ok, hget]
  refine ⟨_, l, get?_linesById hids hl, ?_, l.quantityHundredths,
    (addSafe_eq_ok (show 0 ≤ p.quantityHundredths
      + (l.quantityHundredths - p.quantityHundredths) by omega)).mpr ⟨hfull, hquantityMax⟩,
    Int.lt_irrefl _, l.baseCents,
    hall _ (by omega) hbaseMax, l.netCents, hall _ (by omega) hnetMax,
    l.baseCents - p.baseCents, ⟨rfl, by omega, by omega⟩, l.netCents - p.netCents,
    ⟨rfl, by omega, by omega⟩, by omega, rfl⟩
  have hrest : IsAmount (l.quantityHundredths - p.quantityHundredths) :=
    ⟨by omega, by omega⟩
  rintro (hsafe | hle)
  · exact hsafe (isAmount_iff.mp hrest).1
  · omega

end Allocations

theorem calculateManualLine_spec {request : RequestedReverseChargeManualCreditLine}
    {y : CalculatedCreditDraftLine} (h : calculateManualLine request = .ok y) :
    Untaxed y.toCreditAmounts ∧ y.sourceInvoiceLineId = none := by
  simp only [calculateManualLine, bind_eq_ok, pure_eq_ok] at h
  obtain ⟨c, hc, rfl⟩ := h
  exact ⟨(calculateReverseChargeInvoiceLine_spec hc).1, rfl⟩

/-- The totals of lines without VAT. -/
def untaxedTotals (netTotalCents : Int) : InvoiceTotals :=
  ⟨netTotalCents, 0, netTotalCents, []⟩

theorem sumReverseChargeCreditTotals_eq_ok {lines : List CalculatedCreditDraftLine}
    (h : ∀ y ∈ lines, Untaxed y.toCreditAmounts) {totals : InvoiceTotals} :
    sumReverseChargeCreditTotals lines = .ok totals ↔
      untaxedTotals (lines.map (·.netCents)).sum = totals
        ∧ (lines.map (·.netCents)).sum ≤ maximumSafeInteger := by
  have hstep : ∀ start : Int, lines.foldlM (fun sum line => do
        throwIf (line.vatRateBasisPoints ≠ none ∨ line.vatCents ≠ 0
            ∨ line.netCents ≠ line.grossCents)
          (.credit "Calculated reverse charge credit line is invalid.")
        addSafe sum line.netCents) start
      = lines.foldlM (fun sum line => addSafe sum line.netCents) start := by
    induction lines with
    | nil => exact fun _ => rfl
    | cons y rest ih =>
        intro start
        have hy := h y List.mem_cons_self
        have hpass : ¬ (y.vatRateBasisPoints ≠ none ∨ y.vatCents ≠ 0
            ∨ y.netCents ≠ y.grossCents) := by
          rintro (hrate | hvat | hgross)
          · exact hrate hy.rate
          · exact hvat hy.vat
          · exact hgross hy.gross.symm
        rw [List.foldlM_cons, List.foldlM_cons, throwIf_of_not hpass, ok_bind]
        exact congrArg _ (funext (ih (fun z hz => h z (List.mem_cons_of_mem y hz))))
  rw [sumReverseChargeCreditTotals, hstep]
  simp only [bind_eq_ok, pure_eq_ok, sumNet_eq_ok (fun y hy => (h y hy).net_nonneg)]
  constructor
  · rintro ⟨_, ⟨rfl, hmax⟩, rfl⟩
    exact ⟨rfl, hmax⟩
  · rintro ⟨rfl, hmax⟩
    exact ⟨_, ⟨rfl, hmax⟩, rfl⟩

/-! ## Drafts -/

section Drafts

variable {lines : List ReverseChargeCreditSourceLine}
variable {allocations : List ReverseChargePreviousCreditAllocation}
variable {requested : List RequestedCreditLine}
variable {manual : List RequestedReverseChargeManualCreditLine}

/-- What is known of the draft `d`, accepted after the allocations. -/
structure Accepted (lines : List ReverseChargeCreditSourceLine)
    (allocations : List ReverseChargePreviousCreditAllocation)
    (requested : List RequestedCreditLine) (d : CalculatedCreditDraft) : Prop where
  validLines : ∀ l ∈ lines, ValidSourceLine l
  validAllocations : ∀ a ∈ allocations, ValidAllocation lines a
  unique : (requested.map (·.sourceInvoiceLineId)).Nodup
  untaxed : ∀ y ∈ d.lines, Untaxed y.toCreditAmounts
  parts : ∃ source free, d.lines = source ++ free
    ∧ List.Forall₂ (fun request y => ∃ l ∈ lines, CreditsLine allocations l request y)
      requested source
    ∧ ∀ y ∈ free, y.sourceInvoiceLineId = none
  within : (allocations.map (·.netCents)).sum + (d.lines.map (·.netCents)).sum
    ≤ (lines.map (·.netCents)).sum
  totals : d.totals = untaxedTotals (d.lines.map (·.netCents)).sum

section

variable (h : calculateReverseChargeCreditInvoiceDraft lines allocations requested manual = .ok d)
include h

/-- **AN ACCEPTED DRAFT** credits parts of source lines and stays within the
    invoice. -/
theorem calculateReverseChargeCreditInvoiceDraft_spec : Accepted lines allocations requested d := by
  simp only [calculateReverseChargeCreditInvoiceDraft, bind_eq_ok, throwIf_eq_ok, exists_const,
    pure_eq_ok, validateSourceLines_eq_ok, mapUniqueM_eq_ok] at h
  obtain ⟨_, _, ⟨hlines, _, rfl⟩, m, hm, source, ⟨hunique, _, hsource⟩, free, hfree, _, hwithin,
    totals, htotals, rfl⟩ := h
  obtain ⟨hvalid, hget⟩ := validatePreviousAllocations_spec hm
  have hrequests : List.Forall₂ (fun request y => ∃ l ∈ lines,
      CreditsLine allocations l request y) requested source :=
    (mapM_eq_ok.mp hsource).imp (fun _ _ hy => creditSourceLine_spec hget hvalid hy)
  have huntaxed : ∀ y ∈ source ++ free, Untaxed y.toCreditAmounts := by
    intro y hy
    rcases List.mem_append.mp hy with hy | hy
    · obtain ⟨_, _, _, _, hline⟩ := exists_left_of_forall₂ hrequests hy
      exact hline.amounts
    · obtain ⟨_, _, hline⟩ := exists_source_of_mapM_ok hfree hy
      exact (calculateManualLine_spec hline).1
  refine ⟨hlines, hvalid, hunique, huntaxed, ⟨source, free, rfl, hrequests, fun y hy => ?_⟩, ?_,
    ((sumReverseChargeCreditTotals_eq_ok huntaxed).mp htotals).1.symm⟩
  · obtain ⟨_, _, hline⟩ := exists_source_of_mapM_ok hfree hy
    exact (calculateManualLine_spec hline).2
  · exact ((requireWithinInvoiceCapacity_eq_ok
      (fun l hl => (hlines l hl).amounts.net_nonneg)
      (fun a ha => (hvalid a ha).amounts.net_nonneg)
      (fun y hy => (huntaxed y hy).net_nonneg)).mp hwithin).2

/-- A draft has one line a request. -/
theorem length_of_accepted : d.lines.length = requested.length + manual.length := by
  simp only [calculateReverseChargeCreditInvoiceDraft, bind_eq_ok, throwIf_eq_ok, exists_const,
    pure_eq_ok, mapUniqueM_eq_ok] at h
  obtain ⟨_, _, _, _, _, source, ⟨_, _, hsource⟩, free, hfree, _, _, _, _, rfl⟩ := h
  rw [List.length_append, (mapM_eq_ok.mp hsource).length_eq, (mapM_eq_ok.mp hfree).length_eq]

/-- The total of a draft is in range. -/
theorem net_le_of_accepted : (d.lines.map (·.netCents)).sum ≤ maximumSafeInteger := by
  have huntaxed := (calculateReverseChargeCreditInvoiceDraft_spec h).untaxed
  simp only [calculateReverseChargeCreditInvoiceDraft, bind_eq_ok, throwIf_eq_ok, exists_const,
    pure_eq_ok] at h
  obtain ⟨_, _, _, _, _, source, _, free, _, _, _, totals, htotals, rfl⟩ := h
  exact ((sumReverseChargeCreditTotals_eq_ok huntaxed).mp htotals).2

end

/-- What is needed to read the earlier credits. -/
structure Readable (lines : List ReverseChargeCreditSourceLine)
    (allocations : List ReverseChargePreviousCreditAllocation) : Prop where
  validLines : ∀ l ∈ lines, ValidSourceLine l
  unique : (lines.map (·.id)).Nodup
  validAllocations : ∀ a ∈ allocations, ValidAllocation lines a
  taken : ∀ l ∈ lines, TakenPart l.portion (allocated l.id allocations).portion
  max : (lines.map (·.netCents)).sum ≤ maximumSafeInteger
  within : (allocations.map (·.netCents)).sum ≤ (lines.map (·.netCents)).sum

theorem calculateRemainingReverseChargeCreditTotals_eq (h : Readable lines allocations) :
    calculateRemainingReverseChargeCreditTotals lines allocations
      = .ok (untaxedTotals ((lines.map (·.netCents)).sum
        - (allocations.map (·.netCents)).sum)) := by
  obtain ⟨m, hm⟩ := validatePreviousAllocations_total h.validLines h.unique h.validAllocations h.taken
    h.max h.within
  have hmax := h.max
  have hwithin := h.within
  have hlines : ∀ l ∈ lines, 0 ≤ l.netCents := fun l hl => (h.validLines l hl).amounts.net_nonneg
  have hcredited : ∀ a ∈ allocations, 0 ≤ a.netCents :=
    fun a ha => (h.validAllocations a ha).amounts.net_nonneg
  have hcredited0 : 0 ≤ (allocations.map (·.netCents)).sum := List.sum_nonneg (by
    intro n hn
    obtain ⟨a, ha, rfl⟩ := List.mem_map.mp hn
    exact hcredited a ha)
  simp only [calculateRemainingReverseChargeCreditTotals, bind_eq_ok, pure_eq_ok,
    validateSourceLines_eq_ok, sumNet_eq_ok hlines, sumNet_eq_ok hcredited, subtract_eq_ok]
  exact ⟨_, ⟨h.validLines, h.unique, rfl⟩, m, hm, _, ⟨rfl, hmax⟩, _, ⟨rfl, by omega⟩, _,
    ⟨rfl, by omega, by omega⟩, rfl⟩

end Drafts

end ReverseCharge
