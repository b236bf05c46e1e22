import Eky.CreditDraftAcceptance

/-! # Accepted drafts — what a credit says about the invoice

    `calculateCreditInvoiceDraft_spec` collects, in one structure, everything
    that is known of an accepted draft: its lines are valid as later
    allocations, every rate it touches has a positive input and sits on the
    split of its cumulative input, no rate is used beyond its capacity, and the
    lines of the source invoice are credited cumulatively.

    The histories of `CreditHistory` and `CreditCompletion` only use this. -/

namespace CreditDraft

open Fallible Apportionment OrderedMap InvoiceMoney VatGroups InvoiceCalculation
open VatDistribution
open CreditInvoice (CreditSourceLine RequestedCreditLine PreviousAllocationTotal
  CreditedFrom Creditable totalFor calculateCreditInvoice)

/-- A line of a draft, as the credit invoice keeps it. -/
def toAllocation (line : CalculatedNormalCreditDraftLine) : PreviousCreditAllocation :=
  ⟨line.toLineAmounts, line.sourceInvoiceLineId⟩

/-- What has been credited of a source line. -/
def creditedOf (id : String) (allocations : List PreviousCreditAllocation) :
    PreviousAllocationTotal :=
  totalFor id (allocations.filterMap toPreviousLineAllocation)

/-- The credited amounts of a list of allocations. -/
def amountsOf (allocations : List PreviousCreditAllocation) : List LineAmounts :=
  allocations.map (·.toLineAmounts)

theorem amountsOf_append (first second : List PreviousCreditAllocation) :
    amountsOf (first ++ second) = amountsOf first ++ amountsOf second := List.map_append

theorem creditedOf_append (id : String) (first second : List PreviousCreditAllocation) :
    creditedOf id (first ++ second) = creditedOf id first + creditedOf id second := by
  rw [creditedOf, List.filterMap_append, totalFor, withKey, List.filter_append,
    List.map_append, List.sum_append]
  rfl

theorem creditedOf_perm (id : String) {first second : List PreviousCreditAllocation}
    (h : first.Perm second) : creditedOf id first = creditedOf id second :=
  (((h.filterMap _).filter _).map _).sum_eq

/-- The amounts of a line that count towards its source line. -/
def lineTotal (x : LineAmounts) : PreviousAllocationTotal :=
  ⟨x.quantityHundredths, x.baseCents, x.discountCents, x.netCents, x.vatCents, x.grossCents⟩

theorem creditedOf_cons (id : String) (a : PreviousCreditAllocation)
    (rest : List PreviousCreditAllocation) :
    creditedOf id (a :: rest)
      = (if a.sourceInvoiceLineId = some id then lineTotal a.toLineAmounts else 0)
        + creditedOf id rest := by
  obtain ⟨amounts, source⟩ := a
  cases source with
  | none =>
      show creditedOf id rest = (if (none : Option String) = some id then _ else 0) + _
      rw [if_neg (Option.some_ne_none id).symm, zero_add]
  | some source =>
      have hmap : (PreviousCreditAllocation.mk amounts (some source) :: rest).filterMap
          toPreviousLineAllocation
          = ⟨lineTotal amounts, source⟩ :: rest.filterMap toPreviousLineAllocation := rfl
      rw [creditedOf, totalFor, hmap]
      by_cases h : source = id
      · subst h
        have hself := @withKey_cons_self _ _ _
          (fun p : CreditInvoice.PreviousCreditLineAllocation => p.sourceInvoiceLineId)
          ⟨lineTotal amounts, source⟩ (rest.filterMap toPreviousLineAllocation)
        rw [if_pos rfl, hself, List.map_cons, List.sum_cons]
        rfl
      · have hne : ¬ some source = some id := fun heq => h (Option.some.inj heq)
        rw [if_neg hne, zero_add, withKey_cons_ne h]
        rfl

@[simp] theorem creditedOf_nil (id : String) : creditedOf id [] = 0 := rfl

/-- A source line without allocations has been credited nothing. -/
theorem creditedOf_of_none {allocations : List PreviousCreditAllocation} {id : String}
    (h : ∀ a ∈ allocations, a.sourceInvoiceLineId ≠ some id) :
    creditedOf id allocations = 0 := by
  induction allocations with
  | nil => rfl
  | cons a rest ih =>
      rw [creditedOf_cons, if_neg (h a List.mem_cons_self), zero_add]
      exact ih (fun b hb => h b (List.mem_cons_of_mem a hb))

theorem creditedOf_quantity_nonneg {allocations : List PreviousCreditAllocation}
    (h : ∀ a ∈ allocations, 0 ≤ a.quantityHundredths) (id : String) :
    0 ≤ (creditedOf id allocations).quantityHundredths := by
  induction allocations with
  | nil => exact Int.le_refl 0
  | cons a rest ih =>
      have hrest := ih (fun b hb => h b (List.mem_cons_of_mem a hb))
      have ha := h a List.mem_cons_self
      rw [creditedOf_cons]
      split
      · show 0 ≤ a.quantityHundredths + (creditedOf id rest).quantityHundredths
        omega
      · rw [zero_add]
        exact hrest

/-! ## The source lines of a draft -/

/-- A draft line that credits `l` after the allocations `prev`. -/
def CreditsLine (prev : List PreviousCreditAllocation) (l : CreditSourceLine)
    (quantity : Int) (y : CalculatedNormalCreditDraftLine) : Prop :=
  y.sourceInvoiceLineId = some l.id
    ∧ CreditedFrom l (creditedOf l.id prev) quantity ⟨y.toLineAmounts, l.id⟩

/-- A draft line for a request: some creditable source line has the requested id. -/
def CreditsRequest (sourceLines : List CreditSourceLine)
    (prev : List PreviousCreditAllocation) (request : RequestedCreditLine)
    (y : CalculatedNormalCreditDraftLine) : Prop :=
  ∃ l ∈ sourceLines, Creditable l ∧ l.id = request.sourceInvoiceLineId
    ∧ CreditsLine prev l request.quantityHundredths y

variable {request : RequestedCreditLine}

section Requests

variable {sourceLines : List CreditSourceLine} {prev : List PreviousCreditAllocation}
variable {requested : List RequestedCreditLine}
variable {source : List CalculatedNormalCreditDraftLine}

/-- A source line that was not requested gets nothing. -/
theorem creditedOf_of_not_requested
    (h : List.Forall₂ (CreditsRequest sourceLines prev) requested source) {id : String}
    (hid : id ∉ requested.map (·.sourceInvoiceLineId)) :
    creditedOf id (source.map toAllocation) = 0 := by
  induction h with
  | nil => rfl
  | @cons request y requested source hy _ ih =>
      rw [List.map_cons, List.mem_cons, not_or] at hid
      obtain ⟨l, _, _, hl, hsource, _⟩ := hy
      have hne : ¬ (toAllocation y).sourceInvoiceLineId = some id := by
        intro heq
        exact hid.1 (Option.some.inj (heq.symm.trans hsource) ▸ hl)
      rw [List.map_cons, creditedOf_cons, if_neg hne, ih hid.2, add_zero]

/-- A requested source line gets its one line of the draft. -/
theorem creditedOf_of_requested
    (h : List.Forall₂ (CreditsRequest sourceLines prev) requested source)
    (hnodup : (requested.map (·.sourceInvoiceLineId)).Nodup) (hrequest : request ∈ requested) :
    ∃ y ∈ source, CreditsRequest sourceLines prev request y
      ∧ creditedOf request.sourceInvoiceLineId (source.map toAllocation)
        = lineTotal y.toLineAmounts := by
  induction h with
  | nil => exact nomatch hrequest
  | @cons request' y requested source hy hrest ih =>
      rw [List.map_cons, List.nodup_cons] at hnodup
      have hcredits := hy
      obtain ⟨l, _, _, hl, hsource, _⟩ := hy
      rcases List.mem_cons.mp hrequest with rfl | hrequest
      · have hself : (toAllocation y).sourceInvoiceLineId
            = some request.sourceInvoiceLineId := hl ▸ hsource
        refine ⟨y, List.mem_cons_self, hcredits, ?_⟩
        rw [List.map_cons, creditedOf_cons, if_pos hself,
          creditedOf_of_not_requested hrest hnodup.1, add_zero]
        rfl
      · obtain ⟨y', hy', hcredits', htotal⟩ := ih hnodup.2 hrequest
        have hne : ¬ (toAllocation y).sourceInvoiceLineId
            = some request.sourceInvoiceLineId := by
          intro heq
          have hid : l.id = request.sourceInvoiceLineId :=
            Option.some.inj (hsource.symm.trans heq)
          exact hnodup.1 (List.mem_map.mpr ⟨request, hrequest, hid.symm.trans hl⟩)
        refine ⟨y', List.mem_cons_of_mem y hy', hcredits', ?_⟩
        rw [List.map_cons, creditedOf_cons, if_neg hne, zero_add, htotal]

/-- Manual lines credit no source line. -/
theorem creditedOf_manual {manual : List CalculatedNormalCreditDraftLine}
    (h : ∀ y ∈ manual, y.sourceInvoiceLineId = none) (id : String) :
    creditedOf id (manual.map toAllocation) = 0 := by
  refine creditedOf_of_none (fun a ha hsome => ?_)
  obtain ⟨y, hy, rfl⟩ := List.mem_map.mp ha
  exact nomatch (h y hy).symm.trans hsome

end Requests

/-! ## An accepted draft -/

/-- Everything that is known of the draft `d`, accepted after the allocations
    `prev`. -/
structure Accepted (sourceLines : List CreditSourceLine)
    (prev : List PreviousCreditAllocation) (requested : List RequestedCreditLine)
    (manualRequests : List RequestedManualCreditLine) (d : CalculatedNormalCreditDraft) :
    Prop where
  creditable : CreditableLines (sourceLines.map (·.toLineAmounts))
  range : ∀ x ∈ sourceLines,
    sumOn (·.grossCents) x.vatRateBasisPoints (sourceLines.map (·.toLineAmounts))
      ≤ maximumSafeInteger
  valid : ∀ y ∈ d.lines, ValidAllocation sourceLines (toAllocation y)
  net : ∀ y ∈ d.lines, sumOn (·.netCents) y.vatRateBasisPoints
      (amountsOf (prev ++ d.lines.map toAllocation))
    = netOf y.priceInputMode y.vatRateBasisPoints (sumOn (·.inputCents)
        y.vatRateBasisPoints (amountsOf (prev ++ d.lines.map toAllocation)))
  gross : ∀ y ∈ d.lines, sumOn (·.grossCents) y.vatRateBasisPoints
      (amountsOf (prev ++ d.lines.map toAllocation))
    = grossOf y.priceInputMode y.vatRateBasisPoints (sumOn (·.inputCents)
        y.vatRateBasisPoints (amountsOf (prev ++ d.lines.map toAllocation)))
  positive : ∀ y ∈ d.lines,
    0 < sumOn (·.inputCents) y.vatRateBasisPoints (d.lines.map (·.toLineAmounts))
  within : ∃ capacities, HoldsCapacities (sourceLines.map (·.toLineAmounts)) capacities
    ∧ WithinCapacities capacities (amountsOf (prev ++ d.lines.map toAllocation))
  totals : d.totals = totalsOf ((ratesOf (d.lines.map (·.toLineAmounts))).map
    (sumsOf (d.lines.map (·.toLineAmounts))))
  unique : (requested.map (·.sourceInvoiceLineId)).Nodup
  lines : ∃ source manual, d.lines = source ++ manual
    ∧ List.Forall₂ (CreditsRequest sourceLines prev) requested source
    ∧ List.Forall₂ (fun _ y => y.sourceInvoiceLineId = none) manualRequests manual

/-- A source line of an accepted draft: it was requested and has one line of the
    draft, or it was not requested and gets nothing. -/
theorem Accepted.credits {sourceLines : List CreditSourceLine}
    {prev : List PreviousCreditAllocation} {requested : List RequestedCreditLine}
    {manualRequests : List RequestedManualCreditLine} {d : CalculatedNormalCreditDraft}
    (h : Accepted sourceLines prev requested manualRequests d)
    (hids : (sourceLines.map (·.id)).Nodup) {l : CreditSourceLine} (hl : l ∈ sourceLines) :
    (∃ request ∈ requested, request.sourceInvoiceLineId = l.id ∧ ∃ y ∈ d.lines,
        CreditsLine prev l request.quantityHundredths y
        ∧ creditedOf l.id (d.lines.map toAllocation) = lineTotal y.toLineAmounts)
      ∨ (l.id ∉ requested.map (·.sourceInvoiceLineId)
        ∧ creditedOf l.id (d.lines.map toAllocation) = 0) := by
  obtain ⟨source, manual, hlines, hrequests, hmanual⟩ := h.lines
  have htotal : creditedOf l.id (d.lines.map toAllocation)
      = creditedOf l.id (source.map toAllocation) := by
    have hnone : ∀ y ∈ manual, y.sourceInvoiceLineId = none := by
      intro y hy
      obtain ⟨_, _, hy⟩ := exists_left_of_forall₂ hmanual hy
      exact hy
    rw [hlines, List.map_append, creditedOf_append, creditedOf_manual hnone, add_zero]
  rw [htotal]
  by_cases hreq : l.id ∈ requested.map (·.sourceInvoiceLineId)
  · obtain ⟨request, hrequest, hid⟩ := List.mem_map.mp hreq
    obtain ⟨y, hy, ⟨l', hl', _, hid', hcredits⟩, hy'⟩ :=
      creditedOf_of_requested hrequests h.unique hrequest
    obtain rfl : l' = l := List.inj_on_of_nodup_map hids hl' hl (hid'.trans hid)
    refine Or.inl ⟨request, hrequest, hid, y, ?_, hcredits, hid ▸ hy'⟩
    rw [hlines]
    exact List.mem_append_left _ hy
  · exact Or.inr ⟨hreq, creditedOf_of_not_requested hrequests hreq⟩

theorem amountsOf_toAllocation (lines : List CalculatedNormalCreditDraftLine) :
    amountsOf (lines.map toAllocation) = lines.map (·.toLineAmounts) := by
  rw [amountsOf, List.map_map]
  rfl

/-! ## The lines before their tax is settled -/

section Lines

variable {localeCompare : String → String → Int}
variable {sourceLines : List CreditSourceLine} {prev : List PreviousCreditAllocation}

/-- A credited line as a line of the draft. -/
theorem creditsRequest_toDraftLine {y : CreditInvoice.CalculatedCreditLine}
    (h : CreditInvoice.CreditsAsRequested sourceLines
      (prev.filterMap toPreviousLineAllocation) request y) :
    CreditsRequest sourceLines prev request (toDraftLine y) := by
  obtain ⟨l, hl, hcreditable, hid, hfrom⟩ := h
  have hsource : y.sourceInvoiceLineId = l.id := hfrom.id
  refine ⟨l, hl, hcreditable, hid, congrArg some hsource, ?_⟩
  have hy : y = ⟨y.toLineAmounts, l.id⟩ := by rw [← hsource]
  exact hy ▸ hfrom

/-- The request lines, as `calculateCreditInvoice` credits them. -/
private theorem sourceCalculation_spec {requested : List RequestedCreditLine}
    {calculated : List CreditInvoice.CalculatedCreditLine}
    (h : calculateSourceLines localeCompare sourceLines
      (prev.filterMap toPreviousLineAllocation) requested = .ok calculated) :
    (requested.map (·.sourceInvoiceLineId)).Nodup
      ∧ List.Forall₂ (CreditsRequest sourceLines prev) requested (calculated.map toDraftLine)
      ∧ ∀ y ∈ calculated, CreditInvoice.Payable y := by
  rw [List.forall₂_map_right_iff]
  rw [calculateSourceLines] at h
  split at h
  · next hnil =>
    obtain rfl : requested = [] := List.eq_nil_of_length_eq_zero hnil
    have hcalculated : [] = calculated := pure_eq_ok.mp h
    subst hcalculated
    exact ⟨List.nodup_nil, List.Forall₂.nil, fun y hy => (nomatch hy)⟩
  · simp only [bind_eq_ok, pure_eq_ok] at h
    obtain ⟨c, hc, rfl⟩ := h
    obtain ⟨_, _, hnodup, hlines, hpayable⟩ := CreditInvoice.calculateCreditInvoice_spec hc
    exact ⟨hnodup, hlines.imp (fun _ _ hy => creditsRequest_toDraftLine hy), hpayable⟩

/-- A settled line is as valid an allocation as the line it was settled from. -/
private theorem validAllocation_of_source {x y : CalculatedNormalCreditDraftLine}
    (hrequest : CreditsRequest sourceLines prev request x) (hxy : ResettlesLine x y)
    (hy : validateCalculatedInvoiceLine y.toLineAmounts = .ok ()) :
    ValidAllocation sourceLines (toAllocation y) := by
  obtain ⟨hrate, hbase, hdiscount, hnet, hvat, hgross, hsum⟩ :=
    validateCalculatedInvoiceLine_eq_ok.mp hy
  obtain ⟨l, hl, _, _, hsource, hfrom⟩ := hrequest
  have hquantity : y.quantityHundredths = request.quantityHundredths :=
    hxy.amounts.quantity.trans hfrom.quantity
  have hle : y.discountCents ≤ y.baseCents := by
    rw [hxy.amounts.base, hxy.amounts.discount]
    have hrec := hfrom.reconciles
    have hinput := hfrom.input_nonneg
    dsimp only at hrec hinput
    omega
  have hknown : l.vatRateBasisPoints = y.vatRateBasisPoints
      ∧ l.priceInputMode = y.priceInputMode :=
    ⟨(hxy.amounts.rate.trans hfrom.rate).symm, (hxy.amounts.mode.trans hfrom.mode).symm⟩
  exact {
    quantity := by
      show IsAmount y.quantityHundredths ∧ y.quantityHundredths ≠ 0
      rw [hquantity]
      exact hfrom.positive
    rate := hrate
    base := hbase
    discount := ⟨hdiscount.1, hle⟩
    reconciled := ⟨hnet.1, hvat.1, hsum⟩
    gross_le := hgross.2
    known := ⟨l, hl, hknown⟩
    source := by
      intro id hid
      have hid' : some l.id = some id := (hxy.source.trans hsource).symm.trans hid
      exact ⟨l, hl, Option.some.inj hid', hknown⟩ }

private theorem validAllocation_of_manual {capacities : OrderedMap Int VatCapacity}
    (hcap : HoldsCapacities (sourceLines.map (·.toLineAmounts)) capacities)
    (hmode : OneModePerRate (sourceLines.map (·.toLineAmounts)))
    {request : RequestedManualCreditLine} {x y : CalculatedNormalCreditDraftLine}
    (hx : calculateManualLine capacities request = .ok x) (hxy : ResettlesLine x y)
    (hy : validateCalculatedInvoiceLine y.toLineAmounts = .ok ()) :
    ValidAllocation sourceLines (toAllocation y) ∧ y.sourceInvoiceLineId = none := by
  obtain ⟨hrate, hbase, hdiscount, hnet, hvat, hgross, hsum⟩ :=
    validateCalculatedInvoiceLine_eq_ok.mp hy
  obtain ⟨_, hpriced, hpositive, hsource, _, _, _, _, a, ha, har, ham⟩ :=
    calculateManualLine_spec hcap hx
  obtain ⟨l, hl, rfl⟩ := List.mem_map.mp ha
  have hnone : y.sourceInvoiceLineId = none := hxy.source.trans hsource
  -- a line with a positive gross amount has a positive quantity
  have hquantity : x.quantityHundredths ≠ 0 := by
    intro hq
    refine hpositive ?_
    rw [hpriced.gross, hpriced.worthless hq, grossOf_zero]
  have hmodeOn := modeOn_of_mem hmode ha
  have hknown : l.vatRateBasisPoints = y.vatRateBasisPoints
      ∧ l.priceInputMode = y.priceInputMode := by
    refine ⟨har.trans hxy.amounts.rate.symm, ?_⟩
    rw [hxy.amounts.mode, ham, ← har]
    exact hmodeOn.symm
  refine ⟨?_, hnone⟩
  exact {
    quantity := by
      show IsAmount y.quantityHundredths ∧ y.quantityHundredths ≠ 0
      rw [hxy.amounts.quantity]
      exact ⟨hpriced.quantity, hquantity⟩
    rate := hrate
    base := hbase
    discount := by
      refine ⟨hdiscount.1, ?_⟩
      show y.discountCents ≤ y.baseCents
      rw [hxy.amounts.base, hxy.amounts.discount]
      exact hpriced.discount_le
    reconciled := ⟨hnet.1, hvat.1, hsum⟩
    gross_le := hgross.2
    known := ⟨l, hl, hknown⟩
    source := fun id hid => nomatch hnone.symm.trans hid }

/-- **AN ACCEPTED DRAFT**: what a successful calculation says. -/
theorem calculateCreditInvoiceDraft_spec {requested : List RequestedCreditLine}
    {manualRequests : List RequestedManualCreditLine} {d : CalculatedNormalCreditDraft}
    (h : calculateCreditInvoiceDraft localeCompare sourceLines prev requested manualRequests
      = .ok d) : Accepted sourceLines prev requested manualRequests d := by
  simp only [calculateCreditInvoiceDraft, bind_eq_ok, throwIf_eq_ok, exists_const,
    validatePreviousAllocations] at h
  obtain ⟨_, capacities, hcapacities, _, ⟨_, hprevValid, _⟩, calculated, hsource, manual,
    hmanual, reconciled, hreconciled, _, hwithin, totals, htotals, hd⟩ := h
  rw [pure_eq_ok] at hd
  subst hd
  obtain ⟨hcreditable, hcap, hrange⟩ := createVatCapacities_spec hcapacities
  obtain ⟨hunique, hrequests, hpayable⟩ := sourceCalculation_spec hsource
  have hprevRec : ∀ x ∈ prev.map (·.toLineAmounts), Reconciled x := by
    intro x hx
    obtain ⟨a, ha, rfl⟩ := List.mem_map.mp hx
    exact validatePreviousAllocation_reconciled (forM_eq_ok.mp hprevValid a ha)
  have hlinesRec : ∀ x ∈ calculated.map toDraftLine ++ manual, Reconciled x.toLineAmounts := by
    intro x hx
    rcases List.mem_append.mp hx with hx | hx
    · obtain ⟨y, hy, rfl⟩ := List.mem_map.mp hx
      exact (hpayable y hy).2
    · obtain ⟨request, _, hrequest⟩ := exists_source_of_mapM_ok hmanual hx
      exact (calculateManualLine_spec hcap hrequest).2.1.reconciled
  obtain ⟨hall, hsettled, hpositive⟩ := reconcileCurrentVat_spec hprevRec hlinesRec hreconciled
  obtain ⟨source, manual', rfl, hsourceAll, hmanualAll⟩ := forall₂_append_left hall
  obtain ⟨hcalculated, _, htotalsEq⟩ := sumCreditTotals_spec htotals
  have hcalc : ∀ y ∈ source ++ manual',
      validateCalculatedInvoiceLine y.toLineAmounts = .ok () :=
    fun y hy => hcalculated _ (List.mem_map_of_mem hy)
  have hmanualValid : ∀ y ∈ manual', ValidAllocation sourceLines (toAllocation y) := by
    intro y hy
    obtain ⟨x, hx, hxy⟩ := exists_left_of_forall₂ hmanualAll hy
    obtain ⟨request, _, hrequest⟩ := exists_source_of_mapM_ok hmanual hx
    exact (validAllocation_of_manual hcap hcreditable.mode hrequest hxy
      (hcalc y (List.mem_append_right _ hy))).1
  have hmanualNone : List.Forall₂ (fun (_ : RequestedManualCreditLine) y =>
      y.sourceInvoiceLineId = none) manualRequests manual' := by
    refine forall₂_comp (fun request x y hx hxy => ?_) (mapM_eq_ok.mp hmanual) hmanualAll
    exact hxy.source.trans (calculateManualLine_spec hcap hx).2.2.2.1
  have hsourceValid : ∀ y ∈ source, ValidAllocation sourceLines (toAllocation y) := by
    intro y hy
    obtain ⟨x, hx, hxy⟩ := exists_left_of_forall₂ hsourceAll hy
    obtain ⟨request, _, hrequest⟩ := exists_left_of_forall₂ hrequests hx
    exact validAllocation_of_source hrequest hxy (hcalc y (List.mem_append_left _ hy))
  -- the sums of a rate, over the earlier credits and the settled lines together
  have hsum : ∀ (f : LineAmounts → Int) r,
      sumOn f r (amountsOf (prev ++ (source ++ manual').map toAllocation))
        = sumOn f r (prev.map (·.toLineAmounts))
          + sumOn f r ((source ++ manual').map (·.toLineAmounts)) := by
    intro f r
    rw [amountsOf_append, amountsOf_toAllocation, sumOn_append]
    rfl
  have hinput := sumOn_input_of_resettles (resettles_of_lines hall)
  refine ⟨hcreditable, ?_, ?_, ?_, ?_, ?_, ⟨capacities, hcap, ?_⟩, htotalsEq, hunique,
    source, manual', rfl, ?_, hmanualNone⟩
  · exact fun x hx => hrange x.toLineAmounts (List.mem_map_of_mem hx)
  · intro y hy
    rcases List.mem_append.mp hy with hy | hy
    · exact hsourceValid y hy
    · exact hmanualValid y hy
  · intro y hy
    obtain ⟨x, hx, hxy⟩ := exists_left_of_forall₂ hall hy
    rw [hsum, hsum, hinput, hxy.amounts.rate, hxy.amounts.mode]
    exact hsettled.net x.toLineAmounts (List.mem_map_of_mem hx)
  · intro y hy
    obtain ⟨x, hx, hxy⟩ := exists_left_of_forall₂ hall hy
    rw [hsum, hsum, hinput, hxy.amounts.rate, hxy.amounts.mode]
    exact hsettled.gross x.toLineAmounts (List.mem_map_of_mem hx)
  · intro y hy
    obtain ⟨x, hx, hxy⟩ := exists_left_of_forall₂ hall hy
    rw [hinput, hxy.amounts.rate]
    exact hpositive x hx
  · rw [amountsOf_append, amountsOf_toAllocation]
    exact (requireWithinVatCapacity_spec hwithin).2
  · refine forall₂_comp (fun request x y hx hxy => ?_) hrequests hsourceAll
    obtain ⟨l, hl, hcredit, hid, hsrc, hfrom⟩ := hx
    exact ⟨l, hl, hcredit, hid, hxy.source.trans hsrc, CreditedFrom.resettles hfrom rfl hxy.amounts⟩

end Lines

end CreditDraft
