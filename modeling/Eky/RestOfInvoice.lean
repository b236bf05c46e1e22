import Eky.SourceCredits
import Eky.CreditDraftModel

/-! # The rest of an invoice

    The request for the rest of an invoice takes every creditable line from what
    has been credited to its whole quantity.  `Standing` collects what a reachable
    state says about the allocations, in the order in which the program reads them.

    - `createRemainingRequestedLines_eq`: the request that the program forms;
    - `rest_input`: with it every rate is credited as a whole. -/

namespace CreditHistory

open Fallible Apportionment OrderedMap InvoiceMoney VatGroups InvoiceCalculation
open VatDistribution CreditDraft CreditDraftModel CreditLedger
open CreditInvoice (CreditSourceLine RequestedCreditLine PreviousAllocationTotal Creditable
  CreditedFrom TakenFrom ValidSourceLine)

/-! ## The request for the rest -/

/-- The request for the rest of a line, as the credited quantities have it. -/
def requestRest (allocations : List PreviousCreditAllocation) (l : CreditSourceLine) :
    Option RequestedCreditLine :=
  let taken := (creditedOf l.id allocations).quantityHundredths
  if Creditable l ∧ taken < l.quantityHundredths then
    some ⟨l.id, l.quantityHundredths - taken⟩
  else none

variable {l : CreditSourceLine}

theorem requestRest_eq_some {allocations : List PreviousCreditAllocation}
    {request : RequestedCreditLine} : requestRest allocations l = some request ↔ Creditable l
      ∧ (creditedOf l.id allocations).quantityHundredths < l.quantityHundredths
      ∧ request = ⟨l.id, l.quantityHundredths
        - (creditedOf l.id allocations).quantityHundredths⟩ := by
  rw [requestRest]
  split
  · next h =>
    constructor
    · intro heq
      exact ⟨h.1, h.2, (Option.some.inj heq).symm⟩
    · rintro ⟨_, _, rfl⟩
      rfl
  · next h =>
    constructor
    · intro heq
      exact nomatch heq
    · rintro ⟨hcreditable, hlt, _⟩
      exact absurd ⟨hcreditable, hlt⟩ h

section Quantities

/-- Quantities that stay in range are added up. -/
private theorem entryM_addPreviousQuantity_total {entry : Option Int}
    {pairs : List (String × Int)} (hpairs : ∀ p ∈ pairs, 0 ≤ p.2)
    (hentry : 0 ≤ entry.getD 0)
    (hmax : entry.getD 0 + (pairs.map Prod.snd).sum ≤ maximumSafeInteger) :
    ∃ entry', entryM addPreviousQuantity entry pairs = .ok entry'
      ∧ entry'.getD 0 = entry.getD 0 + (pairs.map Prod.snd).sum := by
  induction pairs generalizing entry with
  | nil => exact ⟨entry, rfl, (Int.add_zero _).symm⟩
  | cons p rest ih =>
      have hp := hpairs p List.mem_cons_self
      have hrest : ∀ q ∈ rest, 0 ≤ q.2 := fun q hq => hpairs q (List.mem_cons_of_mem p hq)
      have hnonneg : 0 ≤ (rest.map Prod.snd).sum := List.sum_nonneg (by
        intro n hn
        obtain ⟨q, hq, rfl⟩ := List.mem_map.mp hn
        exact hrest q hq)
      rw [List.map_cons, List.sum_cons] at hmax
      have hsafe : ¬ (¬ IsSafeInteger (entry.getD 0 + p.2) ∨ entry.getD 0 + p.2 < 0) := by
        simp only [IsSafeInteger]
        omega
      have hstep : addPreviousQuantity entry p = .ok (entry.getD 0 + p.2) := by
        simp only [addPreviousQuantity, bind_eq_ok, throwIf_eq_ok, exists_const, pure_eq_ok]
        exact ⟨hsafe, trivial⟩
      obtain ⟨entry', hentry', hsum⟩ := @ih (some (entry.getD 0 + p.2)) hrest
        (by simp only [Option.getD_some]; omega) (by simp only [Option.getD_some]; omega)
      refine ⟨entry', entryM_cons.mpr ⟨_, hstep, hentry'⟩, ?_⟩
      rw [hsum, Option.getD_some, List.map_cons, List.sum_cons, Int.add_assoc]

variable {stored : List InvoiceCreditAllocation} {allocations : List PreviousCreditAllocation}

/-- The stored quantities of a line are those that have been credited of it. -/
private theorem stored_quantity
    (h : toNormalPreviousCreditAllocations stored = .ok allocations) (id : String) :
    ((withKey Prod.fst id (stored.filterMap creditedQuantity)).map Prod.snd).sum
      = (creditedOf id allocations).quantityHundredths := by
  have hall := mapM_eq_ok.mp h
  clear h
  induction hall with
  | nil => rfl
  | @cons s a stored allocations hsa _ ih =>
      simp only [toNormalPreviousCreditAllocation, bind_eq_ok, pure_eq_ok] at hsa
      obtain ⟨rate, _, rfl⟩ := hsa
      rw [creditedOf_cons]
      cases hsource : s.sourceInvoiceLineId with
      | none =>
          rw [List.filterMap_cons_none (by rw [creditedQuantity, hsource]; rfl), ih,
            if_neg (fun heq => by cases heq), zero_add]
      | some source =>
          rw [List.filterMap_cons_some (by rw [creditedQuantity, hsource]; rfl)]
          by_cases hid : source = id
          · subst hid
            rw [if_pos rfl]
            have hself : withKey Prod.fst source
                ((source, s.quantityHundredths) :: stored.filterMap creditedQuantity)
                = (source, s.quantityHundredths)
                  :: withKey Prod.fst source (stored.filterMap creditedQuantity) :=
              @withKey_cons_self _ _ _ Prod.fst (source, s.quantityHundredths) _
            rw [hself, List.map_cons, List.sum_cons, ih]
            rfl
          · rw [if_neg (fun heq => hid (Option.some.inj heq)), zero_add,
              withKey_cons_ne hid, ih]

/-- The quantities of valid allocations can be added up. -/
theorem sumPreviousQuantities_total {invoice : SentInvoice}
    (h : toNormalPreviousCreditAllocations stored = .ok allocations)
    (hvalid : ∀ a ∈ allocations, ValidAllocation invoice.lines a)
    (htaken : ∀ l ∈ invoice.lines, TakenFrom l (creditedOf l.id allocations)) :
    ∃ sums, sumPreviousQuantities stored = .ok sums ∧ ∀ id, (sums.get? id).getD 0
      = (creditedOf id allocations).quantityHundredths := by
  have hpairs : ∀ p ∈ stored.filterMap creditedQuantity, 0 ≤ p.2
      ∧ ∃ l ∈ invoice.lines, l.id = p.1 := by
    intro p hp
    obtain ⟨s, hs, hsp⟩ := List.mem_filterMap.mp hp
    obtain ⟨a, ha, hsa⟩ := exists_right_of_forall₂ (mapM_eq_ok.mp h) hs
    simp only [toNormalPreviousCreditAllocation, bind_eq_ok, pure_eq_ok] at hsa
    obtain ⟨rate, _, rfl⟩ := hsa
    obtain ⟨id, hid, rfl⟩ := Option.map_eq_some_iff.mp hsp
    obtain ⟨l, hl, hlid, _⟩ := (hvalid _ ha).source id hid
    exact ⟨(hvalid _ ha).quantity.1.1, l, hl, hlid⟩
  have hentry : ∀ id, ∃ entry, entryM addPreviousQuantity none
      (withKey Prod.fst id (stored.filterMap creditedQuantity)) = .ok entry
      ∧ entry.getD 0 = (creditedOf id allocations).quantityHundredths := by
    intro id
    have hsum := stored_quantity h id
    obtain ⟨entry, hentry, hget⟩ := @entryM_addPreviousQuantity_total none
      (withKey Prod.fst id (stored.filterMap creditedQuantity))
      (fun p hp => (hpairs p (mem_withKey.mp hp).1).1) (Int.le_refl 0) (by
        rw [hsum]
        show 0 + _ ≤ _
        by_cases hid : ∃ l ∈ invoice.lines, l.id = id
        · obtain ⟨l, hl, rfl⟩ := hid
          have hle := (htaken l hl).quantity.2
          have hmax := (SentInvoice.priced_of_mem hl).quantity.2
          omega
        · have hnil : withKey Prod.fst id (stored.filterMap creditedQuantity) = [] := by
            rw [List.eq_nil_iff_forall_not_mem]
            intro p hp
            obtain ⟨l, hl, hlid⟩ := (hpairs p (mem_withKey.mp hp).1).2
            exact hid ⟨l, hl, hlid.trans (mem_withKey.mp hp).2⟩
          rw [← hsum, hnil]
          decide)
    refine ⟨entry, hentry, ?_⟩
    rw [hget, hsum]
    exact Int.zero_add _
  obtain ⟨sums, hsums⟩ := groupM_total (m := OrderedMap.empty)
    (fun id => (hentry id).imp (fun _ h => h.1))
  refine ⟨sums, hsums, fun id => ?_⟩
  obtain ⟨entry, hok, hget⟩ := hentry id
  have hsame : Except.ok entry = Except.ok (ε := InvoiceError) (sums.get? id) :=
    hok.symm.trans (groupM_get? hsums id)
  rw [← Except.ok.inj hsame]
  exact hget

end Quantities

section Request

variable {invoice : SentInvoice} {view : ApprovedInvoiceView}
variable {stored : List InvoiceCreditAllocation} {allocations : List PreviousCreditAllocation}

/-- The request that the program forms is the request for the rest of every line. -/
theorem createRemainingRequestedLines_eq
    (hview : toNormalCreditSourceLines view = .ok invoice.lines)
    (hstored : toNormalPreviousCreditAllocations stored = .ok allocations)
    (hvalid : ∀ a ∈ allocations, ValidAllocation invoice.lines a)
    (htaken : ∀ l ∈ invoice.lines, TakenFrom l (creditedOf l.id allocations)) :
    createRemainingRequestedLines view stored
      = .ok (invoice.lines.filterMap (requestRest allocations)) := by
  obtain ⟨sums, hsums, hget⟩ := sumPreviousQuantities_total hstored hvalid htaken
  rw [createRemainingRequestedLines, bind_eq_ok]
  refine ⟨sums, hsums, congrArg Except.ok ?_⟩
  simp only [toNormalCreditSourceLines, bind_eq_ok, throwIf_eq_ok, exists_const] at hview
  have hlines := mapM_eq_ok.mp hview.2
  have hall : ∀ l ∈ invoice.lines, Priced l.toLineAmounts :=
    fun l hl => SentInvoice.priced_of_mem hl
  clear hview htaken hvalid
  generalize invoice.lines = lines at hlines hall
  generalize view.lines = views at hlines ⊢
  induction hlines with
  | nil => rfl
  | @cons v l views lines hvl _ ih =>
      have hrest := ih (fun k hk => hall k (List.mem_cons_of_mem l hk))
      have hpriced := hall l List.mem_cons_self
      simp only [toNormalCreditSourceLine, bind_eq_ok, pure_eq_ok] at hvl
      obtain ⟨rate, _, rfl⟩ := hvl
      have hquantity : 0 ≤ v.quantityHundredths := hpriced.quantity.1
      have hgross : 0 ≤ v.grossCents := hpriced.reconciled.gross_nonneg
      rw [List.filterMap_cons, List.filterMap_cons, hrest]
      have hhead : requestRemaining sums v = requestRest allocations
          ⟨⟨v.quantityHundredths, view.priceInputMode, rate, v.baseCents, v.discountCents,
            v.netCents, v.vatCents, v.grossCents⟩, v.id, v.lineOrder⟩ := by
        rw [requestRemaining, requestRest, hget]
        have hiff : isCreditableSourceLine v = true
              ∧ v.quantityHundredths - (creditedOf v.id allocations).quantityHundredths > 0
            ↔ Creditable (⟨⟨v.quantityHundredths, view.priceInputMode, rate, v.baseCents,
                v.discountCents, v.netCents, v.vatCents, v.grossCents⟩, v.id, v.lineOrder⟩
                : CreditSourceLine)
              ∧ (creditedOf v.id allocations).quantityHundredths < v.quantityHundredths := by
          simp only [isCreditableSourceLine, Creditable, Bool.and_eq_true, decide_eq_true_eq]
          omega
        simp only [hiff]
      rw [hhead]

/-! ## What the rest is worth -/

/-- A request for the rest belongs to a line with something left of it. -/
theorem mem_rest {request : RequestedCreditLine}
    (h : request ∈ invoice.lines.filterMap (requestRest allocations)) :
    ∃ l ∈ invoice.lines, Creditable l ∧ l.id = request.sourceInvoiceLineId
      ∧ 0 < request.quantityHundredths
      ∧ (creditedOf l.id allocations).quantityHundredths + request.quantityHundredths
        = l.quantityHundredths := by
  obtain ⟨l, hl, hsome⟩ := List.mem_filterMap.mp h
  obtain ⟨hcreditable, hlt, rfl⟩ := requestRest_eq_some.mp hsome
  refine ⟨l, hl, hcreditable, rfl, ?_, ?_⟩
  · show 0 < l.quantityHundredths - (creditedOf l.id allocations).quantityHundredths
    omega
  · show (creditedOf l.id allocations).quantityHundredths
      + (l.quantityHundredths - (creditedOf l.id allocations).quantityHundredths) = _
    omega

theorem rest_unique :
    ((invoice.lines.filterMap (requestRest allocations)).map
      (·.sourceInvoiceLineId)).Nodup := by
  have hsub : ((invoice.lines.filterMap (requestRest allocations)).map
      (·.sourceInvoiceLineId)).Sublist (invoice.lines.map (·.id)) := by
    generalize invoice.lines = lines
    induction lines with
    | nil => exact List.Sublist.slnil
    | cons l rest ih =>
        rw [List.filterMap_cons]
        cases hl : requestRest allocations l with
        | none => exact ih.cons _
        | some request =>
            obtain ⟨_, _, rfl⟩ := requestRest_eq_some.mp hl
            exact ih.cons_cons _
  exact invoice.uniqueIds.sublist hsub

/-- A line without value gives nothing. -/
private theorem input_of_not_creditable (hl : l ∈ invoice.lines) (h : ¬ Creditable l) :
    l.inputCents = 0 := by
  have hpriced := SentInvoice.priced_of_mem hl
  by_cases hq : l.quantityHundredths = 0
  · exact hpriced.worthless hq
  · have hgross : l.grossCents = 0 := by
      by_contra hg
      exact h ⟨hq, hg⟩
    have hle := hpriced.reconciled.input_le_gross
    have hnonneg := hpriced.input_nonneg
    omega

/-- The input of a rate with the requested lines added, line by line. -/
theorem input_of_requests (hsource : ∀ a ∈ allocations, FromSource invoice a)
    {requested : List RequestedCreditLine} {source : List CalculatedNormalCreditDraftLine}
    (hrequests : List.Forall₂ (CreditsRequest invoice.lines allocations) requested source)
    (rate : Int) :
    sumOn (·.inputCents) rate (amountsOf allocations)
        + sumOn (·.inputCents) rate (source.map (·.toLineAmounts))
      = ((withKey (·.vatRateBasisPoints) rate invoice.lines).map (fun l =>
          (creditedOf l.id (allocations ++ source.map toAllocation)).inputCents
            l.priceInputMode)).sum := by
  have hnew : ∀ a ∈ allocations ++ source.map toAllocation, FromSource invoice a := by
    intro a ha
    rcases List.mem_append.mp ha with ha | ha
    · exact hsource a ha
    · obtain ⟨y, hy, rfl⟩ := List.mem_map.mp ha
      obtain ⟨request, _, l, hl, hcreditable, _, hid, hfrom⟩ :=
        exists_left_of_forall₂ hrequests hy
      exact ⟨⟨l, hl, hcreditable, hid, hfrom.rate.symm, hfrom.mode.symm⟩, hfrom.reconciles⟩
  have hsum := sum_creditedOf_input hnew rate
  rw [amountsOf_append, sumOn_append, amountsOf_toAllocation] at hsum
  exact hsum.symm

/-- **WHAT THE REST IS WORTH**: with the rest of every line a rate is credited as a
    whole. -/
theorem rest_input (htaken : ∀ l ∈ invoice.lines, TakenFrom l (creditedOf l.id allocations))
    (hsource : ∀ a ∈ allocations, FromSource invoice a)
    {source : List CalculatedNormalCreditDraftLine}
    (hrequests : List.Forall₂ (CreditsRequest invoice.lines allocations)
      (invoice.lines.filterMap (requestRest allocations)) source) (rate : Int) :
    sumOn (·.inputCents) rate (amountsOf allocations)
        + sumOn (·.inputCents) rate (source.map (·.toLineAmounts))
      = sumOn (·.inputCents) rate invoice.amounts := by
  rw [input_of_requests hsource hrequests, SentInvoice.amounts, sumOn_map]
  refine congrArg List.sum (List.map_congr_left fun l hl => ?_)
  have hl := (mem_withKey.mp hl).1
  have hp := htaken l hl
  show (creditedOf l.id (allocations ++ source.map toAllocation)).inputCents l.priceInputMode
    = l.inputCents
  rw [creditedOf_append, Part.inputCents_add]
  have hzero : (0 : PreviousAllocationTotal).inputCents l.priceInputMode = 0 :=
    map_zero (inputHom l.priceInputMode)
  by_cases hopen : Creditable l
      ∧ (creditedOf l.id allocations).quantityHundredths < l.quantityHundredths
  · -- the line is requested, up to its whole quantity
    have hrequest := List.mem_filterMap.mpr ⟨l, hl, requestRest_eq_some.mpr
      ⟨hopen.1, hopen.2, rfl⟩⟩
    obtain ⟨y, _, ⟨k, hk, _, hid, _, hfrom⟩, htotal⟩ :=
      creditedOf_of_requested hrequests rest_unique hrequest
    obtain rfl : k = l := List.inj_on_of_nodup_map invoice.uniqueIds hk hl hid
    have hmode : y.priceInputMode = k.priceInputMode := hfrom.mode
    have hinput : (creditedOf k.id allocations).inputCents k.priceInputMode + y.inputCents
        = halfUp (k.inputCents * ((creditedOf k.id allocations).quantityHundredths
            + (k.quantityHundredths - (creditedOf k.id allocations).quantityHundredths)))
          k.quantityHundredths := hfrom.input
    have hlineInput : (lineTotal y.toLineAmounts).inputCents k.priceInputMode
        = y.inputCents := by
      rw [LineAmounts.inputCents, hmode]
      cases k.priceInputMode with
      | net => rfl
      | gross => rfl
    have hq := hp.quantity.1
    have hfull : (creditedOf k.id allocations).quantityHundredths
        + (k.quantityHundredths - (creditedOf k.id allocations).quantityHundredths)
        = k.quantityHundredths := by omega
    have hpositive : 0 < k.quantityHundredths := by
      have hlt := hopen.2
      omega
    rw [htotal, hlineInput, hinput, hfull, halfUp_mul hpositive]
  · -- the line is used up or worth nothing
    have hnot : l.id ∉ (invoice.lines.filterMap (requestRest allocations)).map
        (·.sourceInvoiceLineId) := by
      intro hmem
      obtain ⟨request, hrequest, hid⟩ := List.mem_map.mp hmem
      obtain ⟨k, hk, hsome⟩ := List.mem_filterMap.mp hrequest
      obtain ⟨hcreditable, hlt, rfl⟩ := requestRest_eq_some.mp hsome
      obtain rfl : k = l := List.inj_on_of_nodup_map invoice.uniqueIds hk hl hid
      exact hopen ⟨hcreditable, hlt⟩
    rw [creditedOf_of_not_requested hrequests hnot, hzero, Int.add_zero]
    by_cases hcreditable : Creditable l
    · refine hp.exhausted ?_
      have hle := hp.quantity.2
      have hnlt : ¬ (creditedOf l.id allocations).quantityHundredths < l.quantityHundredths :=
        fun hlt => hopen ⟨hcreditable, hlt⟩
      omega
    · have hnone := input_of_not_creditable hl hcreditable
      have hinput := hp.input
      omega

end Request

/-! ## The standing of an invoice -/

/-- What a reachable state says about the allocations, in the order in which the
    program reads them. -/
structure Standing (invoice : SentInvoice) (allocations : List PreviousCreditAllocation) :
    Prop where
  valid : ∀ a ∈ allocations, ValidAllocation invoice.lines a
  source : ∀ a ∈ allocations, FromSource invoice a
  taken : ∀ l ∈ invoice.lines, TakenFrom l (creditedOf l.id allocations)
  within : ∀ rate ∈ ratesOf invoice.amounts,
    sumOn (·.netCents) rate (amountsOf allocations) ≤ (rowOf invoice.amounts rate).netCents
      ∧ sumOn (·.vatCents) rate (amountsOf allocations)
        ≤ (rowOf invoice.amounts rate).vatCents
      ∧ sumOn (·.grossCents) rate (amountsOf allocations)
        ≤ (rowOf invoice.amounts rate).grossCents
  exhausted : ∀ rate ∈ ratesOf invoice.amounts,
    sumOn (·.inputCents) rate (amountsOf allocations)
        = sumOn (·.inputCents) rate invoice.amounts →
      sumsOf (amountsOf allocations) rate = rowOf invoice.amounts rate

section Standing

variable {localeCompare : String → String → Int} {invoice : SentInvoice}
variable {credits : List Credit} {allocations : List PreviousCreditAllocation}

theorem standing_of_reachable
    (h : TransitionSystem.Reachable (sourceCreditSystem localeCompare invoice) credits)
    (hperm : allocations.Perm (allocationsOf credits)) : Standing invoice allocations := by
  have hsound := sound_of_reachable (reachable_of_source h)
  have hsource := sourceSound_of_reachable h
  have hsum : ∀ (f : LineAmounts → Int) r,
      sumOn f r (amountsOf allocations) = sumOn f r (credited credits) :=
    fun f r => sumOn_perm (hperm.map _)
  refine ⟨fun a ha => hsound.validOf a (hperm.mem_iff.mp ha),
    fun a ha => hsource.sourceOf a (hperm.mem_iff.mp ha), ?_, ?_, ?_⟩
  · intro l hl
    rw [creditedOf_perm l.id hperm]
    exact hsource.taken l hl
  · intro rate hrate
    rw [hsum, hsum, hsum]
    exact hsound.within rate hrate
  · intro rate hrate hfull
    rw [hsum] at hfull
    rw [sumsOf, hsum, hsum, hsum]
    exact hsound.exhausted rate hrate hfull

namespace Standing

section

variable (h : Standing invoice allocations)
include h

theorem reconciled : ∀ x ∈ amountsOf allocations, Reconciled x := reconciled_of_valid h.valid

/-- The gross amount credited of a rate is in range. -/
theorem gross_le (rate : Int) :
    sumOn (·.grossCents) rate (amountsOf allocations) ≤ maximumSafeInteger := by
  by_cases hrate : rate ∈ ratesOf invoice.amounts
  · exact Int.le_trans (h.within rate hrate).2.2 (SentInvoice.rowOf_le hrate)
  · have hnone : ∀ x ∈ amountsOf allocations, x.vatRateBasisPoints ≠ rate := by
      intro x hx hr
      obtain ⟨a, ha, rfl⟩ := List.mem_map.mp hx
      exact hrate (hr ▸ (mode_of_valid (h.valid a ha)).1)
    rw [sumOn_of_none hnone]
    decide

/-- There is room for the rest of a rate. -/
theorem room {rate total : Int} (hrate : rate ∈ ratesOf invoice.amounts)
    (htotal : sumOn (·.inputCents) rate (amountsOf allocations) + total
      = sumOn (·.inputCents) rate invoice.amounts) :
    LeavesRoom (amountsOf allocations) (modeOn rate invoice.amounts) rate total := by
  obtain ⟨x, hx, rfl⟩ := mem_ratesOf.mp hrate
  obtain ⟨hnet, hvat, _⟩ := h.within _ hrate
  refine ⟨(SentInvoice.creditable.amounts x hx).1.1,
    sumOn_nonneg (fun y hy => (h.reconciled y hy).1),
    sumOn_nonneg (fun y hy => (h.reconciled y hy).2.1), ?_, ?_, ?_, ?_⟩
  · rw [htotal]
    exact hnet
  · rw [htotal]
    exact hvat
  · rw [htotal]
    exact SentInvoice.rowOf_le hrate
  · intro hzero
    rw [hzero, Int.add_zero] at htotal
    have hrow := h.exhausted _ hrate htotal
    rw [hzero, Int.add_zero, htotal]
    exact ⟨congrArg (·.netCents) hrow, congrArg (·.vatCents) hrow⟩

theorem resolves : List.Forall₂ (CreditInvoice.Resolves invoice.lines)
      (allocations.filterMap toPreviousLineAllocation) (amountsOf allocations) := by
  have hsource := h.source
  clear h
  induction allocations with
  | nil => exact List.Forall₂.nil
  | cons a rest ih =>
      obtain ⟨⟨l, hl, hcreditable, hid, hrate, hmode⟩, _⟩ := hsource a List.mem_cons_self
      have hsome : toPreviousLineAllocation a = some ⟨lineTotal a.toLineAmounts, l.id⟩ := by
        rw [toPreviousLineAllocation, hid]
        rfl
      rw [List.filterMap_cons_some hsome]
      refine List.Forall₂.cons ⟨l, hl, hcreditable, rfl, ?_⟩
        (ih (fun b hb => hsource b (List.mem_cons_of_mem a hb)))
      rw [hmode, hrate]
      rfl

theorem validLine :
    ∀ a ∈ allocations.filterMap toPreviousLineAllocation, CreditInvoice.ValidAllocation a := by
  intro b hb
  obtain ⟨a, ha, hsome⟩ := List.mem_filterMap.mp hb
  obtain ⟨⟨l, hl, _, hid, _, _⟩, _⟩ := h.source a ha
  obtain ⟨id, hid', rfl⟩ := Option.map_eq_some_iff.mp hsome
  obtain rfl : l.id = id := Option.some.inj (hid.symm.trans hid')
  have hvalid := h.valid a ha
  obtain ⟨hnet, hvat, hsum⟩ := hvalid.reconciled
  have hgross := hvalid.gross_le
  have hbase := hvalid.base
  have hbaseMax := hbase.2
  have hdiscount := hvalid.discount
  exact {
    id := invoice.identifiers l hl
    range := ⟨hvalid.quantity.1, hbase, ⟨hdiscount.1, by show a.discountCents ≤ _; omega⟩,
      ⟨hnet, by show a.netCents ≤ _; omega⟩, ⟨hvat, by show a.vatCents ≤ _; omega⟩,
      ⟨by show 0 ≤ a.grossCents; omega, hgross⟩⟩
    positive := hvalid.quantity.2
    discount_le := hdiscount.2
    reconciles := hsum }

theorem range (id : String) : CreditInvoice.InRange (creditedOf id allocations) := by
  by_cases hid : ∃ l ∈ invoice.lines, l.id = id
  · obtain ⟨l, hl, rfl⟩ := hid
    have hpart := part_creditedOf h.valid h.source hl
    have htaken := h.taken l hl
    have hpriced := SentInvoice.priced_of_mem hl
    have hquantityMax := hpriced.quantity.2
    have hquantity := htaken.quantity
    have hbaseMax := hpriced.base.2
    have hbase := htaken.base
    have hinput := hpart.input
    have hinput0 := hpart.input_nonneg
    have hgross := Int.le_trans (creditedOf_gross_le h.valid h.source hl) (h.gross_le _)
    have hnet := hpart.net
    have hvat := hpart.vat
    have hsum := hpart.gross
    exact ⟨⟨by omega, by omega⟩, ⟨by omega, by omega⟩, ⟨hpart.discount, by omega⟩,
      ⟨by omega, by omega⟩, ⟨by omega, by omega⟩, ⟨by omega, by omega⟩⟩
  · have hnone : ∀ a ∈ allocations, a.sourceInvoiceLineId ≠ some id := by
      intro a ha hsome
      obtain ⟨l, hl, hlid, _⟩ := (h.valid a ha).source id hsome
      exact hid ⟨l, hl, hlid⟩
    rw [creditedOf_of_none hnone]
    exact CreditInvoice.inRange_zero

end

end Standing

theorem SentInvoice.validSourceLine (hl : l ∈ invoice.lines) : ValidSourceLine l := by
  have hpriced := SentInvoice.priced_of_mem hl
  obtain ⟨hrate, hnet, hvat, hgross, hsum⟩ :=
    SentInvoice.creditable.amounts _ (SentInvoice.mem_amounts hl)
  have hdiscount := hpriced.discount_nonneg
  have hle := hpriced.discount_le
  have hbase := hpriced.base
  have hbaseMax := hbase.2
  exact {
    id := invoice.identifiers l hl
    lineOrder := invoice.positions l hl
    quantity := hpriced.quantity
    rate := hrate
    base := hbase
    discount := ⟨hdiscount, by omega⟩
    net := hnet
    vat := hvat
    gross := hgross
    discount_le := hle
    reconciles := hsum
    input := hpriced.input.symm }

end Standing

end CreditHistory
