import Eky.CreditHistory
import Eky.RemainingCredit

/-! # Source-line credits — what a history takes from each line

    Histories without manual lines: every credited amount belongs to a source
    line, so the amounts of a rate are the amounts taken from its lines.

    - `sourceSound_of_reachable`: no line gives more than it has, its discount
      included, and a line whose quantity is used up has no input left;
    - `sum_creditedOf_input`: the credited input of a rate, line by line. -/

namespace CreditHistory

open Fallible Apportionment OrderedMap InvoiceMoney VatGroups InvoiceCalculation
open VatDistribution CreditDraft CreditLedger
open CreditInvoice (CreditSourceLine RequestedCreditLine PreviousAllocationTotal Creditable
  CreditedFrom TakenFrom ValidSourceLine)

/-! ## Histories without manual lines -/

section Steps

variable (localeCompare : String → String → Int) (invoice : SentInvoice)

/-- The lines of a draft without manual lines that is accepted after the
    allocations. -/
def ApprovesSource (allocations lines : List PreviousCreditAllocation) : Prop :=
  ∃ requested d,
    calculateCreditInvoiceDraft localeCompare invoice.lines allocations requested [] = .ok d
      ∧ lines = d.lines.map toAllocation

/-- The credits of an invoice when only source lines are credited. -/
def sourceCreditSystem : TransitionSystem (List Credit) :=
  CreditLedger.system (ApprovesSource localeCompare invoice)

/-- The same without cancellations. -/
def uncancelledSystem : TransitionSystem (List Credit) :=
  CreditLedger.uncancelledSystem (ApprovesSource localeCompare invoice)

end Steps

section Systems

variable {localeCompare : String → String → Int} {invoice : SentInvoice}
variable {credits : List Credit}

theorem reachable_of_source
    (h : TransitionSystem.Reachable (sourceCreditSystem localeCompare invoice) credits) :
    TransitionSystem.Reachable (creditSystem localeCompare invoice) credits := by
  refine CreditLedger.reachable_mono ?_ h
  rintro allocations lines ⟨requested, d, hd, hlines⟩
  exact ⟨requested, [], d, hd, hlines⟩

theorem source_of_uncancelled
    (h : TransitionSystem.Reachable (uncancelledSystem localeCompare invoice) credits) :
    TransitionSystem.Reachable (sourceCreditSystem localeCompare invoice) credits :=
  CreditLedger.reachable_of_uncancelled h

end Systems

/-! ## What allocations take from a line -/

/-- An allocation that credits a creditable line of the invoice. -/
def FromSource (invoice : SentInvoice) (a : PreviousCreditAllocation) : Prop :=
  (∃ l ∈ invoice.lines, Creditable l ∧ a.sourceInvoiceLineId = some l.id
      ∧ l.vatRateBasisPoints = a.vatRateBasisPoints ∧ l.priceInputMode = a.priceInputMode)
    ∧ a.baseCents - a.discountCents = a.inputCents

/-- A sum of reconciled credits of lines in one mode: it has no negative amount,
    and none at all without a quantity. -/
structure Part (mode : PriceInputMode) (p : PreviousAllocationTotal) : Prop where
  quantity : 0 ≤ p.quantityHundredths
  base : 0 ≤ p.baseCents
  discount : 0 ≤ p.discountCents
  net : 0 ≤ p.netCents
  vat : 0 ≤ p.vatCents
  gross : p.netCents + p.vatCents = p.grossCents
  input : p.baseCents - p.discountCents = p.inputCents mode
  nothing : p.quantityHundredths = 0 → p = 0

namespace Part

variable {mode : PriceInputMode} {p q : PreviousAllocationTotal}

theorem zero : Part mode 0 := by
  refine ⟨Int.le_refl 0, Int.le_refl 0, Int.le_refl 0, Int.le_refl 0, Int.le_refl 0, rfl, ?_,
    fun _ => rfl⟩
  cases mode with
  | net => rfl
  | gross => rfl

theorem inputCents_add : (p + q).inputCents mode = p.inputCents mode + q.inputCents mode := by
  cases mode with
  | net => rfl
  | gross => rfl

theorem add (hp : Part mode p) (hq : Part mode q) : Part mode (p + q) where
  quantity := Int.add_nonneg hp.quantity hq.quantity
  base := Int.add_nonneg hp.base hq.base
  discount := Int.add_nonneg hp.discount hq.discount
  net := Int.add_nonneg hp.net hq.net
  vat := Int.add_nonneg hp.vat hq.vat
  gross := by
    show p.netCents + q.netCents + (p.vatCents + q.vatCents) = p.grossCents + q.grossCents
    have h₁ := hp.gross
    have h₂ := hq.gross
    omega
  input := by
    rw [inputCents_add]
    show p.baseCents + q.baseCents - (p.discountCents + q.discountCents) = _
    have h₁ := hp.input
    have h₂ := hq.input
    omega
  nothing h := by
    have hsum : p.quantityHundredths + q.quantityHundredths = 0 := h
    have h₁ := hp.quantity
    have h₂ := hq.quantity
    rw [hp.nothing (by omega), hq.nothing (by omega)]
    rfl

theorem input_nonneg (h : Part mode p) : 0 ≤ p.inputCents mode := by
  have hnet := h.net
  have hvat := h.vat
  have hgross := h.gross
  cases mode with
  | net => exact hnet
  | gross =>
      show 0 ≤ p.grossCents
      omega

end Part

variable {l : CreditSourceLine}

section Allocations

variable {invoice : SentInvoice} {allocations : List PreviousCreditAllocation}

private theorem part_lineTotal {a : PreviousCreditAllocation}
    (hvalid : ValidAllocation invoice.lines a)
    (hinput : a.baseCents - a.discountCents = a.inputCents) :
    Part a.priceInputMode (lineTotal a.toLineAmounts) where
  quantity := hvalid.quantity.1.1
  base := hvalid.base.1
  discount := hvalid.discount.1
  net := hvalid.reconciled.1
  vat := hvalid.reconciled.2.1
  gross := hvalid.reconciled.2.2
  input := hinput
  nothing h := absurd h hvalid.quantity.2

/-- What has been credited of a line is a part in the mode of the line. -/
theorem part_creditedOf (hvalid : ∀ a ∈ allocations, ValidAllocation invoice.lines a)
    (hsource : ∀ a ∈ allocations, FromSource invoice a) (hl : l ∈ invoice.lines) :
    Part l.priceInputMode (creditedOf l.id allocations) := by
  induction allocations with
  | nil => exact Part.zero
  | cons a rest ih =>
      have hrest := ih (fun b hb => hvalid b (List.mem_cons_of_mem a hb))
        (fun b hb => hsource b (List.mem_cons_of_mem a hb))
      obtain ⟨⟨k, hk, _, hid, _, hmode⟩, hinput⟩ := hsource a List.mem_cons_self
      rw [creditedOf_cons]
      split
      · next hal =>
        have hkl : k.id = l.id := Option.some.inj (hid.symm.trans hal)
        obtain rfl : k = l := List.inj_on_of_nodup_map invoice.uniqueIds hk hl hkl
        rw [hmode]
        exact (part_lineTotal (hvalid a List.mem_cons_self) hinput).add (hmode ▸ hrest)
      · rw [zero_add]
        exact hrest

/-- A field of what has been credited, as a sum over the allocations of the line. -/
private theorem creditedOf_map (φ : PreviousAllocationTotal →+ Int) (id : String) :
    φ (creditedOf id allocations)
      = ((withKey (·.sourceInvoiceLineId) (some id) allocations).map
          (fun a => φ (lineTotal a.toLineAmounts))).sum := by
  induction allocations with
  | nil => exact map_zero φ
  | cons a rest ih =>
      rw [creditedOf_cons, map_add, ih]
      by_cases h : a.sourceInvoiceLineId = some id
      · rw [if_pos h, ← h]
        have hself : withKey (·.sourceInvoiceLineId) a.sourceInvoiceLineId (a :: rest)
            = a :: withKey (·.sourceInvoiceLineId) a.sourceInvoiceLineId rest :=
          withKey_cons_self
        rw [hself, List.map_cons, List.sum_cons]
      · rw [if_neg h, map_zero, zero_add, withKey_cons_ne h]

/-- **LINE BY LINE**: an amount credited of a rate is what was credited of the lines
    of the rate. -/
theorem sum_creditedOf (φ : PreviousAllocationTotal →+ Int) {f : LineAmounts → Int} {rate : Int}
    (hφ : ∀ a ∈ allocations, a.vatRateBasisPoints = rate →
      φ (lineTotal a.toLineAmounts) = f a.toLineAmounts)
    (hsource : ∀ a ∈ allocations, FromSource invoice a) :
    ((withKey (·.vatRateBasisPoints) rate invoice.lines).map
        (fun l => φ (creditedOf l.id allocations))).sum = sumOn f rate (amountsOf allocations) := by
  set lines := withKey (·.vatRateBasisPoints) rate invoice.lines with hlines
  set onIt := withKey (·.vatRateBasisPoints) rate allocations with honIt
  have hids : (lines.map (fun l => some l.id)).Nodup := by
    have hnodup : (lines.map (·.id)).Nodup :=
      invoice.uniqueIds.sublist ((List.filter_sublist).map _)
    have hmap : lines.map (fun l => some l.id) = (lines.map (·.id)).map some := by
      rw [List.map_map]
      rfl
    rw [hmap]
    exact hnodup.map (Option.some_injective _)
  -- an allocation of a line has the rate of the line
  have honRate : ∀ l ∈ lines, withKey (·.sourceInvoiceLineId) (some l.id) allocations
      = withKey (·.sourceInvoiceLineId) (some l.id) onIt := by
    intro l hl
    obtain ⟨hl, hlr⟩ := mem_withKey.mp hl
    rw [honIt, withKey, withKey, withKey, List.filter_filter]
    refine List.filter_congr (fun a ha => ?_)
    obtain ⟨⟨k, hk, _, hid, hr, _⟩, _⟩ := hsource a ha
    by_cases hal : a.sourceInvoiceLineId = some l.id
    · have hkl : k.id = l.id := Option.some.inj (hid.symm.trans hal)
      obtain rfl : k = l := List.inj_on_of_nodup_map invoice.uniqueIds hk hl hkl
      simp [hal, hr ▸ hlr]
    · simp [hal]
  have hcover : ∀ a ∈ onIt, a.sourceInvoiceLineId ∈ lines.map (fun l => some l.id) := by
    intro a ha
    obtain ⟨ha, har⟩ := mem_withKey.mp ha
    obtain ⟨⟨k, hk, _, hid, hr, _⟩, _⟩ := hsource a ha
    rw [hid]
    exact List.mem_map.mpr ⟨k, mem_withKey.mpr ⟨hk, hr.trans har⟩, rfl⟩
  have hsum := sum_withKey hids hcover (fun a => φ (lineTotal a.toLineAmounts))
  rw [List.map_map] at hsum
  have hleft : lines.map (fun l => φ (creditedOf l.id allocations))
      = lines.map ((fun k => ((withKey (·.sourceInvoiceLineId) k onIt).map
          (fun a => φ (lineTotal a.toLineAmounts))).sum) ∘ fun l => some l.id) := by
    refine List.map_congr_left (fun l hl => ?_)
    rw [creditedOf_map, honRate l hl]
    rfl
  have hright : onIt.map (fun a => φ (lineTotal a.toLineAmounts))
      = onIt.map (fun a => f a.toLineAmounts) :=
    List.map_congr_left (fun a ha => hφ a (mem_withKey.mp ha).1 (mem_withKey.mp ha).2)
  rw [hleft, hsum, hright, amountsOf, sumOn_map]

/-- The input amount as an additive function. -/
def inputHom (mode : PriceInputMode) : PreviousAllocationTotal →+ Int where
  toFun p := p.inputCents mode
  map_zero' := by cases mode with | net => rfl | gross => rfl
  map_add' _ _ := Part.inputCents_add

/-- The gross amount, which is additive. -/
def grossHom : PreviousAllocationTotal →+ Int where
  toFun p := p.grossCents
  map_zero' := rfl
  map_add' _ _ := rfl

/-- The credited input of a rate, line by line. -/
theorem sum_creditedOf_input (hsource : ∀ a ∈ allocations, FromSource invoice a) (rate : Int) :
    ((withKey (·.vatRateBasisPoints) rate invoice.lines).map (fun l =>
        (creditedOf l.id allocations).inputCents l.priceInputMode)).sum
      = sumOn (·.inputCents) rate (amountsOf allocations) := by
  set mode := modeOn rate invoice.amounts with hmode
  have hφ : ∀ a ∈ allocations, a.vatRateBasisPoints = rate →
      inputHom mode (lineTotal a.toLineAmounts) = a.inputCents := by
    intro a ha har
    obtain ⟨⟨l, hl, _, _, hlr, hlm⟩, _⟩ := hsource a ha
    have ham := modeOn_of_mem SentInvoice.oneModePerRate (SentInvoice.mem_amounts hl)
    rw [hlm, hlr, har, ← hmode] at ham
    rw [LineAmounts.inputCents, ← ham]
    show (lineTotal a.toLineAmounts).inputCents mode = _
    cases mode with
    | net => rfl
    | gross => rfl
  rw [← sum_creditedOf (inputHom mode) hφ hsource]
  refine congrArg List.sum (List.map_congr_left fun l hl => ?_)
  obtain ⟨hl, hlr⟩ := mem_withKey.mp hl
  have hlm := modeOn_of_mem SentInvoice.oneModePerRate (SentInvoice.mem_amounts hl)
  rw [hlr, ← hmode] at hlm
  rw [← hlm]
  rfl

/-- What has been credited of a line is part of what has been credited of its rate. -/
theorem creditedOf_gross_le (hvalid : ∀ a ∈ allocations, ValidAllocation invoice.lines a)
    (hsource : ∀ a ∈ allocations, FromSource invoice a) (hl : l ∈ invoice.lines) :
    (creditedOf l.id allocations).grossCents
      ≤ sumOn (·.grossCents) l.vatRateBasisPoints (amountsOf allocations) := by
  have hsum : _ = sumOn (·.grossCents) l.vatRateBasisPoints (amountsOf allocations) :=
    sum_creditedOf grossHom (fun _ _ _ => rfl) hsource
  rw [← hsum]
  refine List.single_le_sum ?_ _ (List.mem_map.mpr ⟨l, mem_withKey.mpr ⟨hl, rfl⟩, rfl⟩)
  intro n hn
  obtain ⟨k, hk, rfl⟩ := List.mem_map.mp hn
  have hpart := part_creditedOf hvalid hsource (mem_withKey.mp hk).1
  have hnet := hpart.net
  have hvat := hpart.vat
  have hgross := hpart.gross
  show 0 ≤ (creditedOf k.id allocations).grossCents
  omega

end Allocations

/-! ## The invariant of a history without manual lines -/

/-- No line gives more than it has. -/
structure SourceSound (invoice : SentInvoice) (credits : List Credit) : Prop where
  source : ∀ c ∈ credits, ∀ a ∈ c.lines, FromSource invoice a
  taken : ∀ l ∈ invoice.lines, TakenFrom l (creditedOf l.id (allocationsOf credits))

section Invariant

variable {localeCompare : String → String → Int} {invoice : SentInvoice}
variable {credits : List Credit}

theorem SourceSound.sourceOf (h : SourceSound invoice credits) :
    ∀ a ∈ allocationsOf credits, FromSource invoice a := by
  intro a ha
  obtain ⟨c, hc, hac⟩ := mem_allocationsOf ha
  exact h.source c hc a hac

theorem sourceSound_nil : SourceSound invoice [] where
  source c hc := nomatch hc
  taken l hl := by
    have hpriced := SentInvoice.priced_of_mem hl
    have hinput := hpriced.input
    have hdiscount := hpriced.discount_nonneg
    have hzero : (0 : PreviousAllocationTotal).inputCents l.priceInputMode = 0 :=
      map_zero (inputHom l.priceInputMode)
    show TakenFrom l 0
    refine ⟨⟨Int.le_refl 0, hpriced.quantity.1⟩, ⟨Int.le_refl 0, hpriced.base.1⟩, ?_, ?_, ?_,
      Int.le_refl 0, ?_⟩
    · rw [hzero]
      exact ⟨Int.le_refl 0, hpriced.input_nonneg⟩
    · rw [hzero]
      show l.inputCents - 0 ≤ l.baseCents - 0
      omega
    · rw [hzero]
      rfl
    · intro h
      rw [hzero]
      exact (hpriced.worthless h.symm).symm

/-- A line that is credited further stays within what it has. -/
theorem takenFrom_credit (hl : l ∈ invoice.lines) {p : PreviousAllocationTotal} (hp : TakenFrom l p)
    {q : Int} {y : LineAmounts} {id : String} (hy : CreditedFrom l p q ⟨y, id⟩) :
    TakenFrom l (p + lineTotal y) := by
  have hpriced := SentInvoice.priced_of_mem hl
  have hinputEq := hpriced.input
  have hdiscount := hpriced.discount_nonneg
  have hquantity : y.quantityHundredths = q := hy.quantity
  have hpositive : 0 < q := by
    have h₁ := hy.positive.1.1
    have h₂ := hy.positive.2
    omega
  have hp0 := hp.quantity.1
  have hwithin := hy.within
  have hcapacity : 0 < l.quantityHundredths := by omega
  have hmode : y.priceInputMode = l.priceInputMode := hy.mode
  have hlineInput : (lineTotal y).inputCents l.priceInputMode = y.inputCents := by
    rw [LineAmounts.inputCents, hmode]
    cases l.priceInputMode with
    | net => rfl
    | gross => rfl
  have hbase : p.baseCents + y.baseCents
      = halfUp (l.baseCents * (p.quantityHundredths + q)) l.quantityHundredths := hy.base
  have hinput : p.inputCents l.priceInputMode + y.inputCents
      = halfUp (l.inputCents * (p.quantityHundredths + q)) l.quantityHundredths := hy.input
  have hreconciles : y.baseCents - y.discountCents = y.inputCents := hy.reconciles
  have hpRec := hp.reconciles
  have hbase0 : 0 ≤ y.baseCents := hy.base_nonneg
  have hinput0 : 0 ≤ y.inputCents := hy.input_nonneg
  have hdiscount0 : 0 ≤ y.discountCents := hy.discount_nonneg
  have hbaseLe := halfUp_part_le hpriced.base.1 hwithin hcapacity
  have hinputLe := halfUp_part_le hpriced.input_nonneg hwithin hcapacity
  -- the discount that is left is not negative, as the parts round alike
  have hpart : halfUp (l.baseCents * (p.quantityHundredths + q)) l.quantityHundredths
      ≤ halfUp (l.inputCents * (p.quantityHundredths + q)) l.quantityHundredths
        + (l.baseCents - l.inputCents) :=
    halfUp_part_sub_le (by omega) hwithin hcapacity
  refine ⟨?_, ?_, ?_, ?_, ?_, ?_, ?_⟩
  · show 0 ≤ p.quantityHundredths + y.quantityHundredths
      ∧ p.quantityHundredths + y.quantityHundredths ≤ l.quantityHundredths
    omega
  · show 0 ≤ p.baseCents + y.baseCents ∧ p.baseCents + y.baseCents ≤ l.baseCents
    exact ⟨Int.add_nonneg hp.base.1 hbase0, hbase ▸ hbaseLe⟩
  · rw [Part.inputCents_add, hlineInput]
    exact ⟨Int.add_nonneg hp.input.1 hinput0, hinput ▸ hinputLe⟩
  · rw [Part.inputCents_add, hlineInput]
    show _ ≤ l.baseCents - (p.baseCents + y.baseCents)
    omega
  · rw [Part.inputCents_add, hlineInput]
    show p.baseCents + y.baseCents - (p.discountCents + y.discountCents) = _
    omega
  · exact Int.add_nonneg hp.discount_nonneg hdiscount0
  · intro hfull
    have hfull' : p.quantityHundredths + q = l.quantityHundredths := hquantity ▸ hfull
    rw [Part.inputCents_add, hlineInput, hinput, hfull']
    exact halfUp_mul hcapacity

/-- A line from which something was given back. -/
theorem takenFrom_cancel {p q : PreviousAllocationTotal} (hp : Part l.priceInputMode p)
    (hq : Part l.priceInputMode q) (h : TakenFrom l (p + q)) : TakenFrom l q := by
  obtain ⟨⟨_, hquantity⟩, ⟨_, hbase⟩, ⟨_, hinput⟩, hdiscount, _, _, hexhausted⟩ := h
  rw [Part.inputCents_add] at hinput hdiscount hexhausted
  have hquantity' : p.quantityHundredths + q.quantityHundredths ≤ l.quantityHundredths :=
    hquantity
  have hbase' : p.baseCents + q.baseCents ≤ l.baseCents := hbase
  have hdiscount' : l.inputCents
      - (p.inputCents l.priceInputMode + q.inputCents l.priceInputMode)
      ≤ l.baseCents - (p.baseCents + q.baseCents) := hdiscount
  have hp0 := hp.quantity
  have hpbase := hp.base
  have hpdiscount := hp.discount
  have hpinput := hp.input
  have hpinput0 := hp.input_nonneg
  refine ⟨⟨hq.quantity, by omega⟩, ⟨hq.base, by omega⟩, ⟨hq.input_nonneg, by omega⟩, by omega,
    hq.input, hq.discount, ?_⟩
  intro hfull
  -- then nothing was given back at all
  have hnothing : p = 0 := hp.nothing (by omega)
  have hzero : (0 : PreviousAllocationTotal).inputCents l.priceInputMode = 0 :=
    map_zero (inputHom l.priceInputMode)
  rw [hnothing, hzero, Int.zero_add] at hexhausted
  exact hexhausted (by rw [zero_add]; exact hfull)

/-- The lines of an accepted draft without manual lines credit source lines. -/
theorem fromSource_of_accepted {prev : List PreviousCreditAllocation}
    {requested : List RequestedCreditLine} {d : CalculatedNormalCreditDraft}
    (hd : Accepted invoice.lines prev requested [] d) :
    ∀ y ∈ d.lines, FromSource invoice (toAllocation y) := by
  obtain ⟨source, manual, hlines, hrequests, hmanual⟩ := hd.lines
  obtain rfl : manual = [] := List.forall₂_nil_left_iff.mp hmanual
  rw [List.append_nil] at hlines
  intro y hy
  rw [hlines] at hy
  obtain ⟨request, _, l, hl, hcreditable, _, hid, hfrom⟩ := exists_left_of_forall₂ hrequests hy
  exact ⟨⟨l, hl, hcreditable, hid, hfrom.rate.symm, hfrom.mode.symm⟩, hfrom.reconciles⟩

theorem sourceSound_approve (h : SourceSound invoice credits)
    {allocations : List PreviousCreditAllocation}
    (hperm : allocations.Perm (allocationsOf credits)) {requested : List RequestedCreditLine}
    {d : CalculatedNormalCreditDraft} (hd : Accepted invoice.lines allocations requested [] d) :
    SourceSound invoice (credits ++ [approvedCredit d]) where
  source := by
    intro c hc
    rcases List.mem_append.mp hc with hc | hc
    · exact h.source c hc
    · rw [List.mem_singleton.mp hc]
      intro a ha
      obtain ⟨y, hy, rfl⟩ := List.mem_map.mp ha
      exact fromSource_of_accepted hd y hy
  taken := by
    intro l hl
    have hp := h.taken l hl
    rw [allocationsOf_approvedCredit, creditedOf_append, ← creditedOf_perm l.id hperm]
    rw [← creditedOf_perm l.id hperm] at hp
    rcases hd.credits invoice.uniqueIds hl with
      ⟨request, _, _, y, _, ⟨_, hfrom⟩, htotal⟩ | ⟨_, htotal⟩
    · rw [htotal]
      exact takenFrom_credit hl hp hfrom
    · rw [htotal, add_zero]
      exact hp

theorem sourceSound_send {before after : List Credit} {lines : List PreviousCreditAllocation}
    (h : SourceSound invoice (before ++ ⟨.approved, lines⟩ :: after)) :
    SourceSound invoice (before ++ ⟨.sent, lines⟩ :: after) where
  source := forall_replaced h.source id
  taken := by
    rw [allocationsOf_send]
    exact h.taken

theorem sourceSound_cancel {before after : List Credit} {lines : List PreviousCreditAllocation}
    (hsound : Sound invoice (before ++ ⟨.approved, lines⟩ :: after))
    (h : SourceSound invoice (before ++ ⟨.approved, lines⟩ :: after)) :
    SourceSound invoice (before ++ ⟨.cancelled, lines⟩ :: after) where
  source := forall_replaced h.source id
  taken := by
    have hperm : (allocationsOf (before ++ ⟨.approved, lines⟩ :: after)).Perm
        (lines ++ allocationsOf (before ++ after)) := allocationsOf_split (fun h => (nomatch h))
    have hvalid : ∀ a ∈ lines ++ allocationsOf (before ++ after),
        ValidAllocation invoice.lines a :=
      fun a ha => hsound.validOf a (hperm.mem_iff.mpr ha)
    have hsource : ∀ a ∈ lines ++ allocationsOf (before ++ after), FromSource invoice a :=
      fun a ha => h.sourceOf a (hperm.mem_iff.mpr ha)
    intro l hl
    have htaken := h.taken l hl
    rw [creditedOf_perm l.id hperm, creditedOf_append] at htaken
    rw [allocationsOf_cancel]
    refine takenFrom_cancel ?_ ?_ htaken
    · exact part_creditedOf (fun a ha => hvalid a (List.mem_append_left _ ha))
        (fun a ha => hsource a (List.mem_append_left _ ha)) hl
    · exact part_creditedOf (fun a ha => hvalid a (List.mem_append_right _ ha))
        (fun a ha => hsource a (List.mem_append_right _ ha)) hl

/-- The invariant holds in every state that such a history can reach. -/
theorem sourceSound_of_reachable
    (h : TransitionSystem.Reachable (sourceCreditSystem localeCompare invoice) credits) :
    SourceSound invoice credits := by
  refine CreditLedger.invariant sourceSound_nil ?_ (fun _ _ _ => sourceSound_send) ?_ h
  · rintro credits allocations lines hbefore hperm ⟨requested, d, hd, rfl⟩
    exact sourceSound_approve hbefore hperm (calculateCreditInvoiceDraft_spec hd)
  · intro before lines after hreachable hbefore
    exact sourceSound_cancel (sound_of_reachable (reachable_of_source hreachable)) hbefore

end Invariant

end CreditHistory
