import Eky.ReverseChargeProofs
import Eky.CreditLedger

/-! # Reverse-charge credits — conservation, and the rest of an invoice

    The credits of a reverse-charge invoice share one capacity, the net amount of
    the invoice; a source line gives rounded parts of its own amount, and a manual
    line takes from the whole.

    - `reverse_charge_credits`: no run credits more than the invoice, and the
      request for what is left of the lines is accepted, with exactly the
      remaining total, if and only if no manual line has taken anything;
    - `manual_line_blocks_rest`: a run in which one did. -/

namespace ReverseCharge

open Fallible Apportionment OrderedMap InvoiceMoney CreditLedger
open CreditInvoice (RequestedCreditLine)
open InvoiceCalculation (InvoiceTotals)

/-! ## Sent invoices and their credits -/

/-- A sent invoice: the lines and totals that `calculateReverseChargeInvoice`
    returned, under the ids and positions of the stored lines. -/
structure SentInvoice where
  inputs : List ReverseChargeInvoiceLineCalculationInput
  calculated : CalculatedReverseChargeInvoice
  accepted : calculateReverseChargeInvoice inputs = .ok calculated
  lines : List ReverseChargeCreditSourceLine
  amounts : lines.map (·.toCreditAmounts) = calculated.lines.map (·.toCreditAmounts)
  uniqueIds : (lines.map (·.id)).Nodup
  identifiers : ∀ l ∈ lines, l.id.length ≠ 0
  positions : ∀ l ∈ lines, IsSafeInteger l.lineOrder ∧ 1 ≤ l.lineOrder

/-- A credit of an invoice without VAT. -/
abbrev Credit := CreditLedger.Credit ReverseChargePreviousCreditAllocation

/-- What a credit line has taken. -/
def toPreviousAllocation (line : CalculatedCreditDraftLine) :
    ReverseChargePreviousCreditAllocation where
  toCreditAmounts := line.toCreditAmounts
  sourceInvoiceLineId := line.sourceInvoiceLineId

/-- The lines of a draft that is accepted after the allocations. -/
def Approves (invoice : SentInvoice)
    (allocations lines : List ReverseChargePreviousCreditAllocation) : Prop :=
  ∃ requested manual d,
    calculateReverseChargeCreditInvoiceDraft invoice.lines allocations requested manual = .ok d
      ∧ lines = d.lines.map toPreviousAllocation

/-- The credits of a reverse-charge invoice. -/
def creditSystem (invoice : SentInvoice) : TransitionSystem (List Credit) :=
  CreditLedger.system (Approves invoice)

/-- The net amount of allocations. -/
def netOf (allocations : List ReverseChargePreviousCreditAllocation) : Int :=
  (allocations.map (·.netCents)).sum

theorem netOf_append (first second : List ReverseChargePreviousCreditAllocation) :
    netOf (first ++ second) = netOf first + netOf second := by
  rw [netOf, List.map_append, List.sum_append]
  rfl

theorem netOf_perm {first second : List ReverseChargePreviousCreditAllocation}
    (h : first.Perm second) : netOf first = netOf second := (h.map _).sum_eq

theorem netOf_toPreviousAllocation (lines : List CalculatedCreditDraftLine) :
    netOf (lines.map toPreviousAllocation) = (lines.map (·.netCents)).sum := by
  rw [netOf, List.map_map]
  rfl

variable {l : ReverseChargeCreditSourceLine}

namespace SentInvoice

variable {invoice : SentInvoice}

theorem untaxed (hl : l ∈ invoice.lines) :
    Untaxed l.toCreditAmounts ∧ (l.quantityHundredths = 0 → l.netCents = 0) := by
  have hmem : l.toCreditAmounts ∈ invoice.calculated.lines.map (·.toCreditAmounts) :=
    invoice.amounts ▸ List.mem_map_of_mem hl
  obtain ⟨c, hc, heq⟩ := List.mem_map.mp hmem
  rw [← heq]
  exact (calculateReverseChargeInvoice_spec invoice.accepted).1 c hc

/-- The totals of the invoice are the sum of its lines. -/
theorem totals_eq : invoice.calculated.totals
      = untaxedTotals (invoice.lines.map (·.netCents)).sum
    ∧ (invoice.lines.map (·.netCents)).sum ≤ maximumSafeInteger := by
  obtain ⟨_, htotals, hmax⟩ := calculateReverseChargeInvoice_spec invoice.accepted
  have hsame : invoice.lines.map (·.netCents) = invoice.calculated.lines.map (·.netCents) := by
    have hnet := congrArg (List.map (·.netCents)) invoice.amounts
    rwa [List.map_map, List.map_map] at hnet
  rw [hsame]
  exact ⟨htotals, hmax⟩

end SentInvoice

/-! ## The invariant -/

/-- What a line of a credit is: without VAT, and a positive quantity of a source
    line if it has one. -/
structure Stored (invoice : SentInvoice) (a : ReverseChargePreviousCreditAllocation) : Prop where
  amounts : Untaxed a.toCreditAmounts
  source : ∀ id, a.sourceInvoiceLineId = some id →
    0 < a.quantityHundredths ∧ ∃ l ∈ invoice.lines, l.id = id

/-- What holds of the credits of an invoice. -/
structure Sound (invoice : SentInvoice) (credits : List Credit) : Prop where
  stored : ∀ c ∈ credits, ∀ a ∈ c.lines, Stored invoice a
  within : netOf (allocationsOf credits) ≤ (invoice.lines.map (·.netCents)).sum
  taken : ∀ l ∈ invoice.lines,
    TakenPart l.portion (allocated l.id (allocationsOf credits)).portion

section Invariant

variable {invoice : SentInvoice} {credits : List Credit}

theorem Stored.isPart {a : ReverseChargePreviousCreditAllocation} (h : Stored invoice a)
    {id : String} (hid : a.sourceInvoiceLineId = some id) : IsPart a.total where
  quantity := Int.le_of_lt (h.source id hid).1
  discount := h.amounts.discount
  net := h.amounts.net
  nothing hzero := absurd hzero (ne_of_gt (h.source id hid).1)

theorem Sound.storedOf (h : Sound invoice credits) :
    ∀ a ∈ allocationsOf credits, Stored invoice a := by
  intro a ha
  obtain ⟨c, hc, hac⟩ := mem_allocationsOf ha
  exact h.stored c hc a hac

theorem isPart_of_stored {allocations : List ReverseChargePreviousCreditAllocation} {id : String}
    (h : ∀ a ∈ allocations, Stored invoice a) : IsPart (allocated id allocations) :=
  isPart_allocated (fun a ha hid => (h a ha).isPart hid)

theorem netOf_nonneg {allocations : List ReverseChargePreviousCreditAllocation}
    (h : ∀ a ∈ allocations, Stored invoice a) : 0 ≤ netOf allocations := by
  refine List.sum_nonneg ?_
  intro n hn
  obtain ⟨a, ha, rfl⟩ := List.mem_map.mp hn
  exact (h a ha).amounts.net_nonneg

theorem sound_nil : Sound invoice [] where
  stored c hc := nomatch hc
  within := by
    refine List.sum_nonneg ?_
    intro n hn
    obtain ⟨l, hl, rfl⟩ := List.mem_map.mp hn
    exact (SentInvoice.untaxed hl).1.net_nonneg
  taken l hl := by
    obtain ⟨huntaxed, hworthless⟩ := SentInvoice.untaxed hl
    have hnet := huntaxed.net_nonneg
    have hbase := huntaxed.base.1
    have hrec := huntaxed.net
    have hdiscount := huntaxed.discount
    refine ⟨⟨Int.le_refl 0, huntaxed.quantity.1⟩, ⟨Int.le_refl 0, hbase⟩,
      ⟨Int.le_refl 0, hnet⟩, ?_, fun hzero => (hworthless hzero.symm).symm⟩
    show l.netCents - 0 ≤ l.baseCents - 0
    omega

/-- One requested line of an accepted draft takes its part of the line. -/
private theorem allocated_of_parts {lines : List ReverseChargeCreditSourceLine}
    (hids : (lines.map (·.id)).Nodup) {allocations : List ReverseChargePreviousCreditAllocation}
    {requested : List RequestedCreditLine} {source : List CalculatedCreditDraftLine}
    (hunique : (requested.map (·.sourceInvoiceLineId)).Nodup)
    (hparts : List.Forall₂ (fun request y => ∃ l ∈ lines, CreditsLine allocations l request y)
      requested source) (hl : l ∈ lines) : (∃ request y, CreditsLine allocations l request y
        ∧ allocated l.id (source.map toPreviousAllocation) = y.total)
      ∨ allocated l.id (source.map toPreviousAllocation) = 0 := by
  induction hparts with
  | nil => exact Or.inr rfl
  | @cons request y requested source hy hrest ih =>
      rw [List.map_cons, List.nodup_cons] at hunique
      obtain ⟨k, hk, hline⟩ := hy
      rw [List.map_cons]
      by_cases hid : k.id = l.id
      · obtain rfl : k = l := List.inj_on_of_nodup_map hids hk hl hid
        refine Or.inl ⟨request, y, hline, ?_⟩
        have hnone : ∀ a ∈ source.map toPreviousAllocation,
            a.sourceInvoiceLineId ≠ some k.id := by
          intro a ha hsome
          obtain ⟨z, hz, rfl⟩ := List.mem_map.mp ha
          obtain ⟨r, hr, m, hm, hzline⟩ := exists_left_of_forall₂ hrest hz
          have hmk : m.id = k.id := Option.some.inj (hzline.source.symm.trans hsome)
          exact hunique.1 (List.mem_map.mpr ⟨r, hr, by rw [← hzline.id, hmk, hline.id]⟩)
        rw [allocated_cons_self (show (toPreviousAllocation y).sourceInvoiceLineId = some k.id
          from hline.source), allocated_of_none hnone]
        exact add_zero _
      · rw [allocated_cons_ne (fun hsome => hid
          (Option.some.inj (hline.source.symm.trans hsome)))]
        exact ih hunique.2

/-- **APPROVAL KEEPS THE INVARIANT.** -/
theorem sound_approve (h : Sound invoice credits)
    {allocations : List ReverseChargePreviousCreditAllocation}
    (hperm : allocations.Perm (allocationsOf credits)) {requested : List RequestedCreditLine}
    {d : CalculatedCreditDraft} (hd : Accepted invoice.lines allocations requested d) :
    Sound invoice (credits ++ [⟨.approved, d.lines.map toPreviousAllocation⟩]) := by
  obtain ⟨source, free, hlines, hparts, hfree⟩ := hd.parts
  refine ⟨?_, ?_, ?_⟩
  · intro c hc a ha
    rcases List.mem_append.mp hc with hc | hc
    · exact h.stored c hc a ha
    · rw [List.mem_singleton.mp hc] at ha
      obtain ⟨y, hy, rfl⟩ := List.mem_map.mp ha
      refine ⟨hd.untaxed y hy, fun id hid => ?_⟩
      rw [hlines] at hy
      rcases List.mem_append.mp hy with hy | hy
      · obtain ⟨_, _, l, hl, hline⟩ := exists_left_of_forall₂ hparts hy
        exact ⟨hline.positive, l, hl, Option.some.inj (hline.source.symm.trans hid)⟩
      · exact nomatch (hfree y hy).symm.trans hid
  · rw [allocationsOf_approve, netOf_append, netOf_toPreviousAllocation, ← netOf_perm hperm]
    exact hd.within
  · intro l hl
    have htaken := h.taken l hl
    have hnone : allocated l.id (free.map toPreviousAllocation) = 0 := by
      refine allocated_of_none ?_
      intro a ha hsome
      obtain ⟨y, hy, rfl⟩ := List.mem_map.mp ha
      exact nomatch (hfree y hy).symm.trans hsome
    rw [allocationsOf_approve, allocated_append, hlines, List.map_append, allocated_append,
      hnone, add_zero]
    rw [← allocated_perm l.id hperm] at htaken ⊢
    rcases allocated_of_parts invoice.uniqueIds hd.unique hparts hl with
      ⟨request, y, hline, hy⟩ | hy
    · rw [hy, hline.cumulative]
      have hline0 := hd.validLines l hl
      have hnet := hline0.amounts.net
      have hdiscount := hline0.amounts.discount
      have hbefore : 0 ≤ (allocated l.id allocations).quantityHundredths := htaken.quantity.1
      refine takenPart_cumulative hline0.amounts.net_nonneg ?_ hline0.positive ?_ hline.within
      · show l.netCents ≤ l.baseCents
        omega
      · exact Int.add_nonneg hbefore (Int.le_of_lt hline.positive)
    · rw [hy, add_zero]
      exact htaken

theorem sound_send {before after : List Credit}
    {lines : List ReverseChargePreviousCreditAllocation}
    (h : Sound invoice (before ++ ⟨.approved, lines⟩ :: after)) :
    Sound invoice (before ++ ⟨.sent, lines⟩ :: after) where
  stored := forall_replaced h.stored id
  within := by
    rw [allocationsOf_send]
    exact h.within
  taken := by
    rw [allocationsOf_send]
    exact h.taken

/-- **CANCELLATION KEEPS THE INVARIANT**: what is given back was part of what was
    taken. -/
theorem sound_cancel {before after : List Credit}
    {lines : List ReverseChargePreviousCreditAllocation}
    (h : Sound invoice (before ++ ⟨.approved, lines⟩ :: after)) :
    Sound invoice (before ++ ⟨.cancelled, lines⟩ :: after) := by
  have hperm : (allocationsOf (before ++ ⟨.approved, lines⟩ :: after)).Perm
      (lines ++ allocationsOf (before ++ after)) :=
    allocationsOf_split (fun h => (nomatch h))
  have hstored : ∀ a ∈ lines ++ allocationsOf (before ++ after), Stored invoice a :=
    fun a ha => h.storedOf a (hperm.mem_iff.mpr ha)
  have hgiven : ∀ a ∈ lines, Stored invoice a :=
    fun a ha => hstored a (List.mem_append_left _ ha)
  have hleft : ∀ a ∈ allocationsOf (before ++ after), Stored invoice a :=
    fun a ha => hstored a (List.mem_append_right _ ha)
  refine ⟨?_, ?_, ?_⟩
  · exact forall_replaced h.stored id
  · have hwithin := h.within
    rw [netOf_perm hperm, netOf_append] at hwithin
    have hnonneg := netOf_nonneg hgiven
    rw [allocationsOf_cancel]
    omega
  · intro l hl
    have htaken := h.taken l hl
    rw [allocated_perm l.id hperm, allocated_append] at htaken
    rw [allocationsOf_cancel]
    exact TakenPart.of_add (isPart_of_stored hgiven).portion (isPart_of_stored hleft).portion
      htaken

/-- The invariant holds in every state that a history can reach. -/
theorem sound_of_reachable
    (h : TransitionSystem.Reachable (creditSystem invoice) credits) : Sound invoice credits := by
  refine CreditLedger.invariant sound_nil ?_ (fun _ _ _ => sound_send)
    (fun _ _ _ _ => sound_cancel) h
  rintro credits allocations lines hbefore hperm ⟨requested, manual, d, hd, rfl⟩
  exact sound_approve hbefore hperm (calculateReverseChargeCreditInvoiceDraft_spec hd)

end Invariant

/-! ## The rest of an invoice -/

/-- The request for the rest of a line, when the line can be credited at all. -/
def requestRest (allocations : List ReverseChargePreviousCreditAllocation)
    (l : ReverseChargeCreditSourceLine) : Option RequestedCreditLine :=
  let taken := (allocated l.id allocations).quantityHundredths
  if 0 < l.quantityHundredths ∧ 0 < l.grossCents ∧ taken < l.quantityHundredths then
    some ⟨l.id, l.quantityHundredths - taken⟩
  else none

theorem requestRest_eq_some {allocations : List ReverseChargePreviousCreditAllocation}
    {request : RequestedCreditLine} : requestRest allocations l = some request ↔
      (0 < l.quantityHundredths ∧ 0 < l.grossCents
        ∧ (allocated l.id allocations).quantityHundredths < l.quantityHundredths)
      ∧ request = ⟨l.id, l.quantityHundredths
        - (allocated l.id allocations).quantityHundredths⟩ := by
  rw [requestRest]
  split
  · next h =>
    constructor
    · intro heq
      exact ⟨h, (Option.some.inj heq).symm⟩
    · rintro ⟨_, rfl⟩
      rfl
  · next h =>
    constructor
    · intro heq
      exact nomatch heq
    · rintro ⟨hopen, _⟩
      exact absurd hopen h

section Rest

variable {lines : List ReverseChargeCreditSourceLine}
variable {allocations : List ReverseChargePreviousCreditAllocation}

/-- What is left of a line. -/
def leftOf (allocations : List ReverseChargePreviousCreditAllocation)
    (l : ReverseChargeCreditSourceLine) : Int :=
  l.netCents - (allocated l.id allocations).netCents

/-- A line that is not requested has nothing left. -/
theorem leftOf_eq_zero (hl : ValidSourceLine l)
    (htaken : TakenPart l.portion (allocated l.id allocations).portion)
    (hnone : requestRest allocations l = none) : leftOf allocations l = 0 := by
  have hnet : 0 ≤ (allocated l.id allocations).netCents
      ∧ (allocated l.id allocations).netCents ≤ l.netCents := htaken.input
  have hquantity : (allocated l.id allocations).quantityHundredths ≤ l.quantityHundredths :=
    htaken.quantity.2
  have hclosed : ¬ (0 < l.quantityHundredths ∧ 0 < l.grossCents
      ∧ (allocated l.id allocations).quantityHundredths < l.quantityHundredths) := by
    intro hopen
    exact nomatch hnone.symm.trans (requestRest_eq_some.mpr ⟨hopen, rfl⟩)
  rw [leftOf]
  by_cases hgross : 0 < l.grossCents
  · have hexhausted : (allocated l.id allocations).netCents = l.netCents := by
      refine htaken.exhausted ?_
      show (allocated l.id allocations).quantityHundredths = l.quantityHundredths
      by_contra hne
      exact hclosed ⟨hl.positive, hgross, by omega⟩
    omega
  · have hgrossEq := hl.amounts.gross
    omega

/-- The credited rest of a line is what is left of it. -/
theorem CreditsLine.net_eq_left {y : CalculatedCreditDraftLine} (hl : ValidSourceLine l)
    (h : CreditsLine allocations l ⟨l.id, l.quantityHundredths
      - (allocated l.id allocations).quantityHundredths⟩ y) :
    y.netCents = leftOf allocations l := by
  have hquantity : y.quantityHundredths = l.quantityHundredths
      - (allocated l.id allocations).quantityHundredths := h.quantity
  have hinput := congrArg Portion.input h.cumulative
  have hfull : (allocated l.id allocations).quantityHundredths + y.quantityHundredths
      = l.quantityHundredths := by omega
  have hcumulative : (allocated l.id allocations).netCents + y.netCents
      = halfUp (l.netCents * ((allocated l.id allocations).quantityHundredths
        + y.quantityHundredths)) l.quantityHundredths := hinput
  rw [hfull, halfUp_mul hl.positive] at hcumulative
  rw [leftOf]
  omega

/-- **THE REST**, line by line, adds up to what is left of the lines. -/
theorem rest_net (hids : (lines.map (·.id)).Nodup) (hlines : ∀ l ∈ lines, ValidSourceLine l)
    (htaken : ∀ l ∈ lines, TakenPart l.portion (allocated l.id allocations).portion)
    {source : List CalculatedCreditDraftLine}
    (hparts : List.Forall₂ (fun request y => ∃ l ∈ lines, CreditsLine allocations l request y)
      (lines.filterMap (requestRest allocations)) source) :
    (source.map (·.netCents)).sum = (lines.map (leftOf allocations)).sum := by
  have hsub : ∀ ks ⊆ lines, ∀ ys : List CalculatedCreditDraftLine,
      List.Forall₂ (fun request y => ∃ l ∈ lines, CreditsLine allocations l request y)
        (ks.filterMap (requestRest allocations)) ys →
      (ys.map (·.netCents)).sum = (ks.map (leftOf allocations)).sum := by
    intro ks
    induction ks with
    | nil =>
        intro _ ys hys
        cases hys
        rfl
    | cons l rest ih =>
        intro hks ys hys
        obtain ⟨hl, hrest⟩ := List.cons_subset.mp hks
        rw [List.map_cons, List.sum_cons]
        cases hrequest : requestRest allocations l with
        | none =>
            rw [List.filterMap_cons_none hrequest] at hys
            rw [ih hrest ys hys, leftOf_eq_zero (hlines l hl) (htaken l hl) hrequest, Int.zero_add]
        | some request =>
            rw [List.filterMap_cons_some hrequest] at hys
            obtain ⟨_, rfl⟩ := requestRest_eq_some.mp hrequest
            cases hys with
            | cons hy hys =>
                obtain ⟨k, hk, hline⟩ := hy
                obtain rfl : k = l := List.inj_on_of_nodup_map hids hk hl hline.id
                rw [List.map_cons, List.sum_cons, ih hrest _ hys,
                  hline.net_eq_left (hlines k hl)]
  exact hsub lines (List.Subset.refl _) source hparts

/-- What the allocations took: from the lines, and by hand. -/
theorem netOf_split (hids : (lines.map (·.id)).Nodup)
    (hvalid : ∀ a ∈ allocations, ValidAllocation lines a) :
    netOf allocations = netOf (withKey (·.sourceInvoiceLineId) none allocations)
      + (lines.map (fun l => (allocated l.id allocations).netCents)).sum := by
  have hkeys : (none :: lines.map (fun l => some l.id)).Nodup := by
    rw [List.nodup_cons]
    refine ⟨fun hmem => ?_, ?_⟩
    · obtain ⟨_, _, heq⟩ := List.mem_map.mp hmem
      exact nomatch heq
    · have hsome := hids.map (Option.some_injective String)
      rwa [List.map_map] at hsome
  have hcover : ∀ a ∈ allocations,
      a.sourceInvoiceLineId ∈ none :: lines.map (fun l => some l.id) := by
    intro a ha
    cases hsource : a.sourceInvoiceLineId with
    | none => exact List.mem_cons_self
    | some id =>
        obtain ⟨l, hl, rfl⟩ := (hvalid a ha).source id hsource
        exact List.mem_cons_of_mem _ (List.mem_map.mpr ⟨l, hl, rfl⟩)
  have hsum := sum_withKey hkeys hcover (fun a => a.netCents)
  rw [List.map_cons, List.sum_cons, List.map_map] at hsum
  have hline : ∀ id, ((withKey (·.sourceInvoiceLineId) (some id) allocations).map
      (fun a => a.netCents)).sum = (allocated id allocations).netCents := by
    intro id
    rw [allocated]
    generalize withKey (·.sourceInvoiceLineId) (some id) allocations = own
    induction own with
    | nil => rfl
    | cons a rest ih =>
        rw [List.map_cons, List.sum_cons, ih, List.map_cons, List.sum_cons]
        rfl
  rw [netOf, ← hsum]
  exact congrArg _ (congrArg List.sum (List.map_congr_left fun l _ => hline l.id))

/-- The lines have what the allocations did not take from them. -/
theorem sum_leftOf : (lines.map (leftOf allocations)).sum
    = (lines.map (·.netCents)).sum
      - (lines.map (fun l => (allocated l.id allocations).netCents)).sum := by
  induction lines with
  | nil => rfl
  | cons l rest ih =>
      rw [List.map_cons, List.sum_cons, ih, List.map_cons, List.sum_cons, List.map_cons,
        List.sum_cons, leftOf]
      omega

/-- Something is left of a line as long as something is left at all. -/
theorem rest_ne_nil (h : Readable lines allocations)
    (hpositive : netOf allocations < (lines.map (·.netCents)).sum) :
    lines.filterMap (requestRest allocations) ≠ [] := by
  intro hnil
  have hparts : List.Forall₂ (fun request y => ∃ l ∈ lines,
      CreditsLine allocations l request y) (lines.filterMap (requestRest allocations)) [] := by
    rw [hnil]
    exact List.Forall₂.nil
  have hleft := rest_net h.unique h.validLines h.taken hparts
  have hsplit := netOf_split h.unique h.validAllocations
  have hmanual : 0 ≤ netOf (withKey (·.sourceInvoiceLineId) none allocations) := by
    refine List.sum_nonneg ?_
    intro n hn
    obtain ⟨a, ha, rfl⟩ := List.mem_map.mp hn
    exact (h.validAllocations a (mem_withKey.mp ha).1).amounts.net_nonneg
  rw [sum_leftOf] at hleft
  have hzero : (([] : List CalculatedCreditDraftLine).map (·.netCents)).sum = 0 := rfl
  omega

/-- **ACCEPTED OR REFUSED**: while something is left, the request for the rest is
    accepted with exactly the remaining total if and only if no manual line has
    taken anything. -/
theorem rest_accepted_iff (h : Readable lines allocations)
    (hpositive : netOf allocations < (lines.map (·.netCents)).sum) :
    (∃ d, calculateReverseChargeCreditInvoiceDraft lines allocations
        (lines.filterMap (requestRest allocations)) [] = .ok d
      ∧ d.totals = untaxedTotals ((lines.map (·.netCents)).sum - netOf allocations))
    ↔ ∀ a ∈ allocations, a.sourceInvoiceLineId = none → a.netCents = 0 := by
  have hsplit := netOf_split h.unique h.validAllocations
  have hmanual : ∀ a ∈ withKey (·.sourceInvoiceLineId) none allocations, 0 ≤ a.netCents :=
    fun a ha => (h.validAllocations a (mem_withKey.mp ha).1).amounts.net_nonneg
  constructor
  · rintro ⟨d, hd, _⟩ a ha hnone
    have haccepted := calculateReverseChargeCreditInvoiceDraft_spec hd
    have hwithin : netOf allocations + (d.lines.map (·.netCents)).sum
        ≤ (lines.map (·.netCents)).sum := haccepted.within
    obtain ⟨source, free, hlines, hparts, _⟩ := haccepted.parts
    have hsource := rest_net h.unique h.validLines h.taken hparts
    have hfree : 0 ≤ (free.map (·.netCents)).sum := by
      refine List.sum_nonneg ?_
      intro n hn
      obtain ⟨y, hy, rfl⟩ := List.mem_map.mp hn
      exact (haccepted.untaxed y (hlines ▸ List.mem_append_right _ hy)).net_nonneg
    rw [hlines, List.map_append, List.sum_append, hsource, sum_leftOf] at hwithin
    have hle : a.netCents ≤ netOf (withKey (·.sourceInvoiceLineId) none allocations) := by
      refine List.single_le_sum ?_ _ (List.mem_map_of_mem (mem_withKey.mpr ⟨ha, hnone⟩))
      intro n hn
      obtain ⟨b, hb, rfl⟩ := List.mem_map.mp hn
      exact hmanual b hb
    have hnonneg := (h.validAllocations a ha).amounts.net_nonneg
    omega
  · intro hzero
    have hnone : netOf (withKey (·.sourceInvoiceLineId) none allocations) = 0 := by
      refine List.sum_eq_zero ?_
      intro n hn
      obtain ⟨a, ha, rfl⟩ := List.mem_map.mp hn
      exact hzero a (mem_withKey.mp ha).1 (mem_withKey.mp ha).2
    obtain ⟨m, hm⟩ := validatePreviousAllocations_total h.validLines h.unique h.validAllocations
      h.taken h.max h.within
    obtain ⟨_, hget⟩ := validatePreviousAllocations_spec hm
    have hopen : ∀ request ∈ lines.filterMap (requestRest allocations),
        ∃ y, creditSourceLine (linesById lines) m request = .ok y := by
      intro request hrequest
      obtain ⟨l, hl, hsome⟩ := List.mem_filterMap.mp hrequest
      obtain ⟨⟨_, _, hlt⟩, rfl⟩ := requestRest_eq_some.mp hsome
      exact creditSourceLine_rest hget h.unique hl (h.validLines l hl) (h.taken l hl) hlt
    obtain ⟨source, hsource⟩ := mapM_total hopen
    have hparts : List.Forall₂ (fun request y => ∃ l ∈ lines,
        CreditsLine allocations l request y) (lines.filterMap (requestRest allocations)) source :=
      (mapM_eq_ok.mp hsource).imp
        (fun _ _ hy => creditSourceLine_spec hget h.validAllocations hy)
    have huntaxed : ∀ y ∈ source, Untaxed y.toCreditAmounts := by
      intro y hy
      obtain ⟨_, _, _, _, hline⟩ := exists_left_of_forall₂ hparts hy
      exact hline.amounts
    have hnet := rest_net h.unique h.validLines h.taken hparts
    rw [sum_leftOf] at hnet
    have htotal : (source.map (·.netCents)).sum
        = (lines.map (·.netCents)).sum - netOf allocations := by omega
    have hunique : ((lines.filterMap (requestRest allocations)).map
        (·.sourceInvoiceLineId)).Nodup := by
      refine h.unique.sublist ?_
      generalize lines = ls
      induction ls with
      | nil => exact List.Sublist.slnil
      | cons l rest ih =>
          rw [List.filterMap_cons]
          cases hl : requestRest allocations l with
          | none => exact ih.cons _
          | some request =>
              obtain ⟨_, rfl⟩ := requestRest_eq_some.mp hl
              exact ih.cons_cons _
    have hcapacity : requireWithinInvoiceCapacity lines allocations source = .ok () := by
      refine (requireWithinInvoiceCapacity_eq_ok
        (fun l hl => (h.validLines l hl).amounts.net_nonneg)
        (fun a ha => (h.validAllocations a ha).amounts.net_nonneg)
        (fun y hy => (huntaxed y hy).net_nonneg)).mpr ⟨h.max, ?_⟩
      have hsum : (allocations.map (·.netCents)).sum = netOf allocations := rfl
      omega
    have hmax := h.max
    have hcredited : 0 ≤ netOf allocations := by
      refine List.sum_nonneg ?_
      intro n hn
      obtain ⟨a, ha, rfl⟩ := List.mem_map.mp hn
      exact (h.validAllocations a ha).amounts.net_nonneg
    refine ⟨⟨source, untaxedTotals (source.map (·.netCents)).sum⟩, ?_, congrArg untaxedTotals htotal⟩
    simp only [calculateReverseChargeCreditInvoiceDraft, bind_eq_ok, throwIf_eq_ok, exists_const,
      pure_eq_ok, validateSourceLines_eq_ok, mapUniqueM_eq_ok]
    refine ⟨?_, _, ⟨h.validLines, h.unique, rfl⟩, m, hm, source,
      ⟨hunique, fun _ _ => List.not_mem_nil, hsource⟩, [], rfl, (), ?_, _,
      (sumReverseChargeCreditTotals_eq_ok ?_).mpr ⟨rfl, ?_⟩, ?_⟩
    · intro hlength
      exact rest_ne_nil h hpositive (List.eq_nil_of_length_eq_zero hlength)
    · rw [List.append_nil]
      exact hcapacity
    · rw [List.append_nil]
      exact huntaxed
    · rw [List.append_nil]
      omega
    · rw [List.append_nil]

end Rest

/-! ## Every run -/

section Runs

variable {invoice : SentInvoice} {credits : List Credit}

/-- A reachable state can be read, as long as every quantity in it is positive. -/
theorem readable_of_sound (h : Sound invoice credits)
    {allocations : List ReverseChargePreviousCreditAllocation}
    (hperm : allocations.Perm (allocationsOf credits))
    (hlines : ∀ l ∈ invoice.lines, 0 < l.quantityHundredths)
    (hmanual : ∀ a ∈ allocations, a.sourceInvoiceLineId = none → 0 < a.quantityHundredths) :
    Readable invoice.lines allocations where
  validLines l hl :=
    ⟨invoice.identifiers l hl, invoice.positions l hl, (SentInvoice.untaxed hl).1, hlines l hl⟩
  unique := invoice.uniqueIds
  validAllocations a ha := by
    have hstored := h.storedOf a (hperm.mem_iff.mp ha)
    refine ⟨hstored.amounts, ?_, fun id hid => (hstored.source id hid).2⟩
    cases hsource : a.sourceInvoiceLineId with
    | none => exact hmanual a ha hsource
    | some id => exact (hstored.source id hsource).1
  taken l hl := by
    rw [allocated_perm l.id hperm]
    exact h.taken l hl
  max := SentInvoice.totals_eq.2
  within := by
    have hwithin := h.within
    rwa [← netOf_perm hperm] at hwithin

/-- **CREDITS WITHOUT VAT**: in every state that approvals, sendings and
    cancellations lead to, the credits stay within the invoice and within each
    line.  While all quantities are positive, the remaining total is the total of
    the invoice less what has been credited, and the request for the rest of the
    lines is accepted with exactly that total if and only if no manual line has
    taken anything. -/
theorem reverse_charge_credits
    (h : TransitionSystem.Reachable (creditSystem invoice) credits) :
    netOf (allocationsOf credits) ≤ invoice.calculated.totals.netTotalCents
      ∧ (∀ l ∈ invoice.lines,
          (allocated l.id (allocationsOf credits)).quantityHundredths ≤ l.quantityHundredths)
      ∧ ∀ allocations, allocations.Perm (allocationsOf credits) →
          (∀ l ∈ invoice.lines, 0 < l.quantityHundredths) →
          (∀ a ∈ allocations, a.sourceInvoiceLineId = none → 0 < a.quantityHundredths) →
          calculateRemainingReverseChargeCreditTotals invoice.lines allocations
              = .ok (untaxedTotals (invoice.calculated.totals.netTotalCents - netOf allocations))
            ∧ (0 < invoice.calculated.totals.netTotalCents - netOf allocations →
                ((∃ d, calculateReverseChargeCreditInvoiceDraft invoice.lines allocations
                    (invoice.lines.filterMap (requestRest allocations)) [] = .ok d
                  ∧ d.totals = untaxedTotals
                    (invoice.calculated.totals.netTotalCents - netOf allocations))
                ↔ ∀ a ∈ allocations, a.sourceInvoiceLineId = none → a.netCents = 0)) := by
  have hsound := sound_of_reachable h
  have htotal : invoice.calculated.totals.netTotalCents
      = (invoice.lines.map (·.netCents)).sum := by
    rw [SentInvoice.totals_eq.1]
    rfl
  rw [htotal]
  refine ⟨hsound.within, fun l hl => (hsound.taken l hl).quantity.2, ?_⟩
  intro allocations hperm hlines hmanual
  have hreadable := readable_of_sound hsound hperm hlines hmanual
  refine ⟨calculateRemainingReverseChargeCreditTotals_eq hreadable, fun hpositive => ?_⟩
  exact rest_accepted_iff hreadable (by omega)

/-- A line without quantity, which the invoice may hold, keeps every credit from
    being calculated. -/
theorem refused_of_zero_quantity {lines : List ReverseChargeCreditSourceLine} (hl : l ∈ lines)
    (hzero : l.quantityHundredths = 0) (allocations : List ReverseChargePreviousCreditAllocation)
    (requested : List RequestedCreditLine) (manual : List RequestedReverseChargeManualCreditLine)
    (d : CalculatedCreditDraft) :
    calculateReverseChargeCreditInvoiceDraft lines allocations requested manual ≠ .ok d := by
  intro hd
  have hpositive :=
    ((calculateReverseChargeCreditInvoiceDraft_spec hd).validLines l hl).positive
  omega

end Runs

/-! ## An invoice over ninety euros -/

/-- An invoice of 90 euros. -/
def ninetyEuros : SentInvoice where
  inputs := [⟨300, 3000, .net, .none⟩]
  calculated := ⟨[⟨⟨300, .net, none, 9000, 0, 9000, 0, 9000⟩, 3000⟩], ⟨9000, 0, 9000, []⟩⟩
  accepted := rfl
  lines := [⟨⟨300, .net, none, 9000, 0, 9000, 0, 9000⟩, "line-1", 1⟩]
  amounts := rfl
  uniqueIds := by decide
  identifiers := by decide
  positions := by decide

/-- A third of its line. -/
def thirdDraft : CalculatedCreditDraft :=
  ⟨[⟨⟨100, .net, none, 3000, 0, 3000, 0, 3000⟩, "line-1", some "line-1", none⟩],
    ⟨3000, 0, 3000, []⟩⟩

/-- One credit of a third. -/
def thirdCredited : List Credit := [⟨.approved, thirdDraft.lines.map toPreviousAllocation⟩]

theorem rest_of_thirdCredited :
    ∃ d, calculateReverseChargeCreditInvoiceDraft ninetyEuros.lines
        (allocationsOf thirdCredited) [⟨"line-1", 200⟩] [] = .ok d
      ∧ d.totals = untaxedTotals 6000 := by
  have hempty : TransitionSystem.Reachable (creditSystem ninetyEuros) [] := .initial rfl
  have hdraft : calculateReverseChargeCreditInvoiceDraft ninetyEuros.lines []
      [⟨"line-1", 100⟩] [] = .ok thirdDraft := by decide +kernel
  have hreachable : TransitionSystem.Reachable (creditSystem ninetyEuros) thirdCredited :=
    .step hempty (.approval (.approve (List.Perm.refl _) ⟨_, _, _, hdraft, rfl⟩))
  obtain ⟨_, _, hrest⟩ := reverse_charge_credits hreachable
  exact ((hrest _ (List.Perm.refl _) (by decide) (by decide)).2 (by decide)).mpr (by decide)

/-- Twenty euros, credited by hand. -/
def manualDraft : CalculatedCreditDraft :=
  ⟨[⟨⟨100, .net, none, 2000, 0, 2000, 0, 2000⟩, "manual-1", none, some 2000⟩],
    ⟨2000, 0, 2000, []⟩⟩

/-- One credit by hand. -/
def manuallyCredited : List Credit := [⟨.approved, manualDraft.lines.map toPreviousAllocation⟩]

/-- After a manual line seventy euros are left, and the request for the whole line is
    refused. -/
theorem manual_line_blocks_rest :
    TransitionSystem.Reachable (creditSystem ninetyEuros) manuallyCredited
      ∧ calculateRemainingReverseChargeCreditTotals ninetyEuros.lines
          (allocationsOf manuallyCredited) = .ok (untaxedTotals 7000)
      ∧ ninetyEuros.lines.filterMap (requestRest (allocationsOf manuallyCredited))
        = [⟨"line-1", 300⟩]
      ∧ calculateReverseChargeCreditInvoiceDraft ninetyEuros.lines
          (allocationsOf manuallyCredited) [⟨"line-1", 300⟩] []
        = .error (.credit "Credit invoice exceeds the remaining source invoice amount.") := by
  have hempty : TransitionSystem.Reachable (creditSystem ninetyEuros) [] := .initial rfl
  have hdraft : calculateReverseChargeCreditInvoiceDraft ninetyEuros.lines []
      [] [⟨"manual-1", 100, 2000⟩] = .ok manualDraft := by decide +kernel
  refine ⟨.step hempty (.approval (.approve (List.Perm.refl _) ⟨_, _, _, hdraft, rfl⟩)), ?_, ?_,
    ?_⟩
  · decide +kernel
  · decide +kernel
  · decide +kernel

end ReverseCharge
