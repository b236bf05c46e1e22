import Eky.AcceptedDraft
import Eky.CreditLedger

/-! # The credits of an invoice — no run credits too much

    The state of a sent invoice is the list of its credits.  A credit is
    approved against the lines of the credits that are not cancelled, an
    approved credit may be sent or cancelled, and a cancelled credit no longer
    counts.

    The invariant of a run has three parts:

    - no rate is used beyond its row of the VAT breakdown, and no source line
      beyond its quantity;
    - a rate whose input is used up has exactly the amounts of its row;
    - every credit has a POSITIVE input on each rate it touches.

    The last part is what lets a credit be cancelled in the middle of a history:
    the input of every rate it touched falls, so no rate that is used up can lose
    a line and stay used up. -/

namespace CreditHistory

open Fallible Apportionment OrderedMap InvoiceMoney VatGroups InvoiceCalculation
open VatDistribution CreditDraft CreditLedger
open CreditInvoice (CreditSourceLine RequestedCreditLine IsIdentifier)

/-! ## Sent invoices -/

/-- A sent invoice with normal VAT: every line was priced by the program and the
    totals are those of the lines. -/
structure SentInvoice where
  lines : List CreditSourceLine
  totals : InvoiceTotals
  priced : ∀ l ∈ lines, ∃ input c, calculateInvoiceLine input = .ok c
    ∧ l.toLineAmounts = c.toLineAmounts
  settled : calculateInvoiceTotals (lines.map (·.toLineAmounts)) = .ok totals
  uniqueIds : (lines.map (·.id)).Nodup
  identifiers : ∀ l ∈ lines, IsIdentifier l.id
  positions : ∀ l ∈ lines, IsAmount l.lineOrder ∧ l.lineOrder ≠ 0

/-- The row of a rate, zero when the invoice does not have the rate. -/
def rowAt (totals : InvoiceTotals) (rate : Int) : InvoiceVatBreakdown :=
  (totals.vatBreakdown.find? (·.vatRateBasisPoints = rate)).getD ⟨rate, 0, 0, 0⟩

/-- The input amount of a row. -/
def rowInput (mode : PriceInputMode) (row : InvoiceVatBreakdown) : Int :=
  match mode with
  | .net => row.netCents
  | .gross => row.grossCents

variable {l : CreditSourceLine} {rate : Int} {allocations : List PreviousCreditAllocation}

namespace SentInvoice

variable (invoice : SentInvoice)

/-- The amounts of the lines. -/
def amounts : List LineAmounts := invoice.lines.map (·.toLineAmounts)

variable {invoice}

theorem priced_of_mem (h : l ∈ invoice.lines) : Priced l.toLineAmounts := by
  obtain ⟨input, c, hc, heq⟩ := invoice.priced l h
  rw [heq]
  exact (calculateInvoiceLine_spec hc).1

theorem mem_amounts (h : l ∈ invoice.lines) :
    l.toLineAmounts ∈ invoice.amounts := List.mem_map_of_mem h

theorem reconciled : ∀ x ∈ invoice.amounts, Reconciled x := by
  intro x hx
  obtain ⟨l, hl, rfl⟩ := List.mem_map.mp hx
  exact (priced_of_mem hl).reconciled

theorem oneModePerRate : OneModePerRate invoice.amounts :=
  (calculateInvoiceTotals_spec invoice.settled).1

theorem creditable : CreditableLines invoice.amounts where
  amounts := by
    intro x hx
    obtain ⟨l, hl, rfl⟩ := List.mem_map.mp hx
    have hpriced := priced_of_mem hl
    obtain ⟨hnet, hvat, hsum⟩ := hpriced.reconciled
    have hmax := hpriced.gross_le
    exact ⟨hpriced.rate, ⟨hnet, by omega⟩, ⟨hvat, by omega⟩, ⟨by omega, hmax⟩, hsum⟩
  mode := oneModePerRate

theorem totals_eq : invoice.totals
    = totalsOf ((ratesOf invoice.amounts).map (rowOf invoice.amounts)) :=
  (calculateInvoiceTotals_spec invoice.settled).2.1

theorem rowOf_le (h : rate ∈ ratesOf invoice.amounts) :
    (rowOf invoice.amounts rate).grossCents ≤ maximumSafeInteger :=
  (calculateInvoiceTotals_spec invoice.settled).2.2.1 rate h

theorem mem_rates (h : l ∈ invoice.lines) : l.vatRateBasisPoints ∈ ratesOf invoice.amounts :=
  mem_ratesOf.mpr ⟨_, mem_amounts h, rfl⟩

private theorem find?_rows {lines : List LineAmounts} {rates : List Int} (h : rate ∈ rates) :
    (rates.map (rowOf lines)).find? (·.vatRateBasisPoints = rate)
      = some (rowOf lines rate) := by
  induction rates with
  | nil => exact nomatch h
  | cons r rest ih =>
      rw [List.map_cons]
      by_cases hr : r = rate
      · subst hr
        exact List.find?_cons_of_pos (decide_eq_true rfl)
      · rw [List.find?_cons_of_neg
          (p := fun row : InvoiceVatBreakdown => decide (row.vatRateBasisPoints = rate))
          (fun heq => hr (of_decide_eq_true heq))]
        exact ih ((List.mem_cons.mp h).resolve_left (fun heq => hr heq.symm))

/-- The row of a rate of the invoice is the settled sum of the rate. -/
theorem rowAt_of_mem (h : rate ∈ ratesOf invoice.amounts) :
    rowAt invoice.totals rate = rowOf invoice.amounts rate := by
  rw [rowAt, totals_eq]
  show (((ratesOf invoice.amounts).map (rowOf invoice.amounts)).find? _).getD _ = _
  rw [find?_rows h]
  rfl

theorem rowAt_of_not_mem (h : rate ∉ ratesOf invoice.amounts) :
    rowAt invoice.totals rate = ⟨rate, 0, 0, 0⟩ := by
  rw [rowAt, totals_eq]
  show (((ratesOf invoice.amounts).map (rowOf invoice.amounts)).find? _).getD _ = _
  have hnone : ((ratesOf invoice.amounts).map (rowOf invoice.amounts)).find?
      (·.vatRateBasisPoints = rate) = none := by
    refine List.find?_eq_none.mpr ?_
    intro row hrow
    obtain ⟨r, hr, rfl⟩ := List.mem_map.mp hrow
    exact fun heq => h (of_decide_eq_true heq ▸ hr)
  rw [hnone]
  rfl

end SentInvoice

/-! ## Credits and their runs -/

/-- A credit of an invoice with VAT. -/
abbrev Credit := CreditLedger.Credit PreviousCreditAllocation

/-- The credit that an accepted draft becomes. -/
def approvedCredit (d : CalculatedNormalCreditDraft) : Credit :=
  ⟨.approved, d.lines.map toAllocation⟩

section Steps

variable (localeCompare : String → String → Int) (invoice : SentInvoice)

/-- The lines of a draft that is accepted after the allocations. -/
def Approves (allocations lines : List PreviousCreditAllocation) : Prop :=
  ∃ requested manual d,
    calculateCreditInvoiceDraft localeCompare invoice.lines allocations requested manual = .ok d
      ∧ lines = d.lines.map toAllocation

/-- The credits of an invoice with normal VAT. -/
def creditSystem : TransitionSystem (List Credit) :=
  CreditLedger.system (Approves localeCompare invoice)

end Steps

theorem allocationsOf_approvedCredit (credits : List Credit) (d : CalculatedNormalCreditDraft) :
    allocationsOf (credits ++ [approvedCredit d])
      = allocationsOf credits ++ d.lines.map toAllocation :=
  allocationsOf_approve credits _

/-! ## The invariant -/

/-- What has been credited, amount by amount. -/
def credited (credits : List Credit) : List LineAmounts := amountsOf (allocationsOf credits)

/-- The invariant of a history. -/
structure Sound (invoice : SentInvoice) (credits : List Credit) : Prop where
  valid : ∀ c ∈ credits, ∀ a ∈ c.lines, ValidAllocation invoice.lines a
  positive : ∀ c ∈ credits, ∀ a ∈ c.lines,
    0 < sumOn (·.inputCents) a.vatRateBasisPoints (amountsOf c.lines)
  within : ∀ rate ∈ ratesOf invoice.amounts,
    sumOn (·.netCents) rate (credited credits) ≤ (rowOf invoice.amounts rate).netCents
      ∧ sumOn (·.vatCents) rate (credited credits) ≤ (rowOf invoice.amounts rate).vatCents
      ∧ sumOn (·.grossCents) rate (credited credits)
        ≤ (rowOf invoice.amounts rate).grossCents
  quantity : ∀ l ∈ invoice.lines,
    (creditedOf l.id (allocationsOf credits)).quantityHundredths ≤ l.quantityHundredths
  exhausted : ∀ rate ∈ ratesOf invoice.amounts,
    sumOn (·.inputCents) rate (credited credits) = sumOn (·.inputCents) rate invoice.amounts →
      sumsOf (credited credits) rate = rowOf invoice.amounts rate

section Invariant

variable {localeCompare : String → String → Int} {invoice : SentInvoice}
variable {credits : List Credit}

theorem Sound.validOf (h : Sound invoice credits) :
    ∀ a ∈ allocationsOf credits, ValidAllocation invoice.lines a := by
  intro a ha
  obtain ⟨c, hc, hac⟩ := mem_allocationsOf ha
  exact h.valid c hc a hac

theorem reconciled_of_valid (h : ∀ a ∈ allocations, ValidAllocation invoice.lines a) :
    ∀ x ∈ amountsOf allocations, Reconciled x := by
  intro x hx
  obtain ⟨a, ha, rfl⟩ := List.mem_map.mp hx
  exact (h a ha).reconciled

/-- A valid allocation has the rate and mode of a line of the invoice. -/
theorem mode_of_valid {a : PreviousCreditAllocation} (h : ValidAllocation invoice.lines a) :
    a.vatRateBasisPoints ∈ ratesOf invoice.amounts
      ∧ modeOn a.vatRateBasisPoints invoice.amounts = a.priceInputMode := by
  obtain ⟨l, hl, hrate, hmode⟩ := h.known
  rw [← hrate, ← hmode]
  exact ⟨SentInvoice.mem_rates hl,
    modeOn_of_mem SentInvoice.oneModePerRate (SentInvoice.mem_amounts hl)⟩

/-- The input that has been credited of a rate is part of the input of the rate. -/
theorem credited_input_le {used : List LineAmounts}
    (hmode : ∀ x ∈ used, x.vatRateBasisPoints = rate →
      x.priceInputMode = modeOn rate invoice.amounts)
    (hnet : sumOn (·.netCents) rate used ≤ (rowOf invoice.amounts rate).netCents)
    (hgross : sumOn (·.grossCents) rate used ≤ (rowOf invoice.amounts rate).grossCents) :
    sumOn (·.inputCents) rate used ≤ sumOn (·.inputCents) rate invoice.amounts := by
  cases hm : modeOn rate invoice.amounts with
  | net =>
      rw [sumOn_input_net (fun x hx hr => hm ▸ hmode x hx hr)]
      have hrow : (rowOf invoice.amounts rate).netCents
          = sumOn (·.inputCents) rate invoice.amounts := by
        show netOf (modeOn rate invoice.amounts) rate _ = _
        rw [hm]
        rfl
      exact hrow ▸ hnet
  | gross =>
      rw [sumOn_input_gross (fun x hx hr => hm ▸ hmode x hx hr)]
      have hrow : (rowOf invoice.amounts rate).grossCents
          = sumOn (·.inputCents) rate invoice.amounts := by
        show grossOf (modeOn rate invoice.amounts) rate _ = _
        rw [hm]
        rfl
      exact hrow ▸ hgross

theorem sound_nil : Sound invoice [] where
  valid c hc := nomatch hc
  positive c hc := nomatch hc
  within rate hrate := by
    obtain ⟨hnet, hvat, hgross⟩ := rowOf_amounts SentInvoice.creditable hrate
      (SentInvoice.rowOf_le hrate)
    exact ⟨hnet.1, hvat.1, hgross.1⟩
  quantity l hl := (SentInvoice.priced_of_mem hl).quantity.1
  exhausted rate hrate h := by
    obtain ⟨x, hx, rfl⟩ := mem_ratesOf.mp hrate
    have hr : 0 ≤ x.vatRateBasisPoints := (SentInvoice.creditable.amounts x hx).1.1
    have hzero : sumOn (·.inputCents) x.vatRateBasisPoints invoice.amounts = 0 := h.symm
    rw [rowOf, hzero, netOf_zero hr, vatOf_zero hr, grossOf_zero]
    rfl

/-- **APPROVAL KEEPS THE INVARIANT**: the new credit is within what is left, and a
    rate it exhausts sits on the split of its whole input. -/
theorem sound_approve (h : Sound invoice credits) (hperm : allocations.Perm (allocationsOf credits))
    {requested : List RequestedCreditLine} {manual : List RequestedManualCreditLine}
    {d : CalculatedNormalCreditDraft} (hd : Accepted invoice.lines allocations requested manual d) :
    Sound invoice (credits ++ [approvedCredit d]) := by
  set new := d.lines.map toAllocation with hnew
  have hlive : allocationsOf (credits ++ [approvedCredit d]) = allocationsOf credits ++ new :=
    allocationsOf_approvedCredit credits d
  have hperm' : (amountsOf (allocations ++ new)).Perm (credited (credits ++ [approvedCredit d])) := by
    rw [credited, hlive]
    exact (hperm.append_right new).map _
  have hsum : ∀ (f : LineAmounts → Int) r, sumOn f r (amountsOf (allocations ++ new))
      = sumOn f r (credited (credits ++ [approvedCredit d])) := fun f r => sumOn_perm hperm'
  have hsplit : ∀ (f : LineAmounts → Int) r,
      sumOn f r (credited (credits ++ [approvedCredit d]))
        = sumOn f r (credited credits) + sumOn f r (d.lines.map (·.toLineAmounts)) := by
    intro f r
    rw [credited, hlive, amountsOf_append, sumOn_append, hnew, amountsOf_toAllocation]
    rfl
  have hvalid : ∀ a ∈ new, ValidAllocation invoice.lines a := by
    intro a ha
    obtain ⟨y, hy, rfl⟩ := List.mem_map.mp ha
    exact hd.valid y hy
  have hvalidAll : ∀ a ∈ allocations ++ new, ValidAllocation invoice.lines a := by
    intro a ha
    rcases List.mem_append.mp ha with ha | ha
    · exact h.validOf a (hperm.mem_iff.mp ha)
    · exact hvalid a ha
  have hrec : ∀ x ∈ credited (credits ++ [approvedCredit d]), Reconciled x :=
    fun x hx => reconciled_of_valid hvalidAll x (hperm'.mem_iff.mpr hx)
  have hmem : ∀ c ∈ credits ++ [approvedCredit d], c ∈ credits ∨ c = approvedCredit d := by
    intro c hc
    rcases List.mem_append.mp hc with hc | hc
    · exact Or.inl hc
    · exact Or.inr (List.mem_singleton.mp hc)
  obtain ⟨capacities, hcap, hwithin⟩ := hd.within
  refine ⟨?_, ?_, ?_, ?_, ?_⟩
  · intro c hc
    rcases hmem c hc with hc | rfl
    · exact h.valid c hc
    · exact hvalid
  · intro c hc a ha
    rcases hmem c hc with hc | rfl
    · exact h.positive c hc a ha
    · obtain ⟨y, hy, rfl⟩ := List.mem_map.mp ha
      show 0 < sumOn _ y.vatRateBasisPoints (amountsOf (d.lines.map toAllocation))
      rw [amountsOf_toAllocation]
      exact hd.positive y hy
  · intro rate hrate
    by_cases hused : ∃ x ∈ amountsOf (allocations ++ new), x.vatRateBasisPoints = rate
    · obtain ⟨x, hx, rfl⟩ := hused
      obtain ⟨c, hc, _, hnet, hvat, hgross⟩ := hwithin x hx
      obtain ⟨_, rfl⟩ := (hcap.2 _ _).mp hc
      rw [← hsum, ← hsum, ← hsum]
      exact ⟨hnet, hvat, hgross⟩
    · have hnone : ∀ x ∈ amountsOf (allocations ++ new), x.vatRateBasisPoints ≠ rate :=
        fun x hx hr => hused ⟨x, hx, hr⟩
      obtain ⟨hnet, hvat, hgross⟩ := rowOf_amounts SentInvoice.creditable hrate
        (SentInvoice.rowOf_le hrate)
      rw [← hsum, ← hsum, ← hsum, sumOn_of_none hnone, sumOn_of_none hnone,
        sumOn_of_none hnone]
      exact ⟨hnet.1, hvat.1, hgross.1⟩
  · intro l hl
    rw [hlive, creditedOf_append]
    show (creditedOf l.id (allocationsOf credits)).quantityHundredths
      + (creditedOf l.id new).quantityHundredths ≤ l.quantityHundredths
    rcases hd.credits invoice.uniqueIds hl with ⟨request, _, _, y, _, hy, htotal⟩ | ⟨_, htotal⟩
    · have hwithinLine := hy.2.within
      have hquantity : y.quantityHundredths = request.quantityHundredths := hy.2.quantity
      rw [creditedOf_perm l.id hperm] at hwithinLine
      rw [htotal]
      show _ + y.quantityHundredths ≤ _
      omega
    · rw [htotal]
      show _ + 0 ≤ _
      have hbefore := h.quantity l hl
      omega
  · intro rate hrate hfull
    by_cases htouched : ∃ y ∈ d.lines, y.vatRateBasisPoints = rate
    · obtain ⟨y, hy, rfl⟩ := htouched
      obtain ⟨_, hmode⟩ := mode_of_valid (hd.valid y hy)
      have hnet := hd.net y hy
      have hgross := hd.gross y hy
      rw [hsum, hsum, hfull] at hnet hgross
      have hvat := sumOn_gross hrec (r := y.vatRateBasisPoints)
      have hmode' : modeOn y.vatRateBasisPoints invoice.amounts = y.priceInputMode := hmode
      rw [sumsOf, rowOf, hmode', hnet, hgross]
      rw [hnet, hgross] at hvat
      congr 1
      rw [vatOf]
      omega
    · have hnone : ∀ x ∈ d.lines.map (·.toLineAmounts), x.vatRateBasisPoints ≠ rate := by
        intro x hx hr
        obtain ⟨y, hy, rfl⟩ := List.mem_map.mp hx
        exact htouched ⟨y, hy, hr⟩
      have hsame : ∀ f : LineAmounts → Int,
          sumOn f rate (credited (credits ++ [approvedCredit d]))
            = sumOn f rate (credited credits) := by
        intro f
        rw [hsplit, sumOn_of_none hnone, Int.add_zero]
      rw [hsame] at hfull
      rw [sumsOf, hsame, hsame, hsame]
      exact h.exhausted rate hrate hfull

/-- Sending a credit changes nothing that counts. -/
theorem sound_send {before after : List Credit} {lines : List PreviousCreditAllocation}
    (h : Sound invoice (before ++ ⟨.approved, lines⟩ :: after)) :
    Sound invoice (before ++ ⟨.sent, lines⟩ :: after) := by
  have hsame : allocationsOf (before ++ ⟨.sent, lines⟩ :: after)
      = allocationsOf (before ++ ⟨.approved, lines⟩ :: after) := allocationsOf_send
  have hcredited : credited (before ++ ⟨.sent, lines⟩ :: after)
      = credited (before ++ ⟨.approved, lines⟩ :: after) := by rw [credited, hsame]; rfl
  refine ⟨?_, ?_, ?_, ?_, ?_⟩
  · exact forall_replaced h.valid id
  · exact forall_replaced h.positive id
  · rw [hcredited]
    exact h.within
  · rw [hsame]
    exact h.quantity
  · rw [hcredited]
    exact h.exhausted

/-- **CANCELLATION KEEPS THE INVARIANT**: a rate that the cancelled credit touched
    has input left again. -/
theorem sound_cancel {before after : List Credit} {lines : List PreviousCreditAllocation}
    (h : Sound invoice (before ++ ⟨.approved, lines⟩ :: after)) :
    Sound invoice (before ++ ⟨.cancelled, lines⟩ :: after) := by
  have hmem : (⟨.approved, lines⟩ : Credit) ∈ before ++ ⟨.approved, lines⟩ :: after :=
    List.mem_append_right _ List.mem_cons_self
  have hperm : (allocationsOf (before ++ ⟨.approved, lines⟩ :: after)).Perm
      (lines ++ allocationsOf (before ++ after)) :=
    allocationsOf_split (fun h => (nomatch h))
  have hafter : allocationsOf (before ++ ⟨.cancelled, lines⟩ :: after)
      = allocationsOf (before ++ after) := allocationsOf_cancel
  -- before the cancellation a sum had the part of the cancelled credit, too
  have hsum : ∀ (f : LineAmounts → Int) r,
      sumOn f r (credited (before ++ ⟨.approved, lines⟩ :: after))
        = sumOn f r (amountsOf lines)
          + sumOn f r (credited (before ++ ⟨.cancelled, lines⟩ :: after)) := by
    intro f r
    have hamounts : (credited (before ++ ⟨.approved, lines⟩ :: after)).Perm
        (amountsOf lines ++ credited (before ++ ⟨.cancelled, lines⟩ :: after)) := by
      rw [credited, credited, hafter, ← amountsOf_append]
      exact hperm.map _
    rw [sumOn_perm hamounts, sumOn_append]
  have hrec := reconciled_of_valid (h.valid _ hmem)
  refine ⟨?_, ?_, ?_, ?_, ?_⟩
  · exact forall_replaced h.valid id
  · exact forall_replaced h.positive id
  · intro rate hrate
    obtain ⟨hnet, hvat, hgross⟩ := h.within rate hrate
    rw [hsum] at hnet hvat hgross
    have hnet0 : 0 ≤ sumOn (·.netCents) rate (amountsOf lines) :=
      sumOn_nonneg (fun x hx => (hrec x hx).1)
    have hvat0 : 0 ≤ sumOn (·.vatCents) rate (amountsOf lines) :=
      sumOn_nonneg (fun x hx => (hrec x hx).2.1)
    have hgross0 : 0 ≤ sumOn (·.grossCents) rate (amountsOf lines) :=
      sumOn_nonneg (fun x hx => (hrec x hx).gross_nonneg)
    exact ⟨by omega, by omega, by omega⟩
  · intro l hl
    have hquantity := h.quantity l hl
    rw [creditedOf_perm l.id hperm, creditedOf_append] at hquantity
    have hnonneg : 0 ≤ (creditedOf l.id lines).quantityHundredths :=
      creditedOf_quantity_nonneg (fun a ha => (h.valid _ hmem a ha).quantity.1.1) l.id
    rw [hafter]
    have hsplit : (creditedOf l.id lines).quantityHundredths
        + (creditedOf l.id (allocationsOf (before ++ after))).quantityHundredths
        ≤ l.quantityHundredths := hquantity
    omega
  · intro rate hrate hfull
    obtain ⟨hnet, _, hgross⟩ := h.within rate hrate
    have hmode : ∀ x ∈ credited (before ++ ⟨.approved, lines⟩ :: after),
        x.vatRateBasisPoints = rate → x.priceInputMode = modeOn rate invoice.amounts := by
      intro x hx hr
      obtain ⟨a, ha, rfl⟩ := List.mem_map.mp hx
      rw [← hr]
      exact (mode_of_valid (h.validOf a ha)).2.symm
    have hle := credited_input_le hmode hnet hgross
    by_cases htouched : ∃ a ∈ lines, a.vatRateBasisPoints = rate
    · obtain ⟨a, ha, rfl⟩ := htouched
      have hpositive : 0 < sumOn (·.inputCents) a.vatRateBasisPoints (amountsOf lines) :=
        h.positive _ hmem a ha
      rw [hsum] at hle
      omega
    · have hnone : ∀ x ∈ amountsOf lines, x.vatRateBasisPoints ≠ rate := by
        intro x hx hr
        obtain ⟨a, ha, rfl⟩ := List.mem_map.mp hx
        exact htouched ⟨a, ha, hr⟩
      have hsame : ∀ f : LineAmounts → Int,
          sumOn f rate (credited (before ++ ⟨.cancelled, lines⟩ :: after))
            = sumOn f rate (credited (before ++ ⟨.approved, lines⟩ :: after)) := by
        intro f
        rw [hsum, sumOn_of_none hnone, Int.zero_add]
      rw [hsame] at hfull
      rw [sumsOf, hsame, hsame, hsame]
      exact h.exhausted rate hrate hfull

/-- The invariant holds in every state that a history can reach. -/
theorem sound_of_reachable
    (h : TransitionSystem.Reachable (creditSystem localeCompare invoice) credits) :
    Sound invoice credits := by
  refine CreditLedger.invariant sound_nil ?_ (fun _ _ _ => sound_send)
    (fun _ _ _ _ => sound_cancel) h
  rintro credits allocations lines hbefore hperm ⟨requested, manual, d, hd, rfl⟩
  exact sound_approve hbefore hperm (calculateCreditInvoiceDraft_spec hd)

end Invariant

/-! ## What is left in a reachable state -/

/-- The amounts that the lines of a rate SHOW can be added up.  The capacity of a
    rate is formed from these sums before it is settled, and a sum outside the
    safe range is refused. -/
def ShownInRange (invoice : SentInvoice) : Prop :=
  ∀ l ∈ invoice.lines,
    sumOn (·.grossCents) l.vatRateBasisPoints invoice.amounts ≤ maximumSafeInteger

instance (invoice : SentInvoice) : Decidable (ShownInRange invoice) :=
  inferInstanceAs (Decidable (∀ _ ∈ _, _))

/-- The totals of the invoice less what has been credited. -/
def lessCredited (totals : InvoiceTotals) (used : List LineAmounts) : InvoiceTotals :=
  totalsOf (totals.vatBreakdown.map fun row =>
    let rate := row.vatRateBasisPoints
    ⟨rate, row.netCents - sumOn (·.netCents) rate used,
      row.vatCents - sumOn (·.vatCents) rate used,
      row.grossCents - sumOn (·.grossCents) rate used⟩)

section Remaining

variable {localeCompare : String → String → Int} {invoice : SentInvoice}
variable {credits : List Credit}

theorem lessCredited_eq (used : List LineAmounts) : lessCredited invoice.totals used
    = totalsOf ((ratesOf invoice.amounts).map (remainingOf invoice.amounts used)) := by
  rw [lessCredited, SentInvoice.totals_eq]
  show totalsOf (((ratesOf invoice.amounts).map (rowOf invoice.amounts)).map _) = _
  rw [List.map_map]
  rfl

theorem lessCredited_nil : lessCredited invoice.totals [] = invoice.totals := by
  rw [lessCredited_eq, SentInvoice.totals_eq]
  refine congrArg totalsOf (List.map_congr_left fun rate _ => ?_)
  show InvoiceVatBreakdown.mk rate (_ - 0) (_ - 0) (_ - 0) = _
  rw [Int.sub_zero, Int.sub_zero, Int.sub_zero]
  rfl

/-- Remaining totals are only ever formed for shown amounts in range. -/
theorem shownInRange_of_remaining {totals : InvoiceTotals}
    (h : calculateRemainingCreditTotals invoice.lines allocations = .ok totals) :
    ShownInRange invoice := by
  rw [calculateRemainingCreditTotals, bind_eq_ok] at h
  obtain ⟨capacities, hcapacities, _⟩ := h
  exact fun l hl => (createVatCapacities_spec hcapacities).2.2 _ (SentInvoice.mem_amounts hl)

theorem SentInvoice.exists_capacities (h : ShownInRange invoice) :
    ∃ capacities, createVatCapacities invoice.amounts = .ok capacities := by
  refine createVatCapacities_total SentInvoice.creditable ?_ ?_
  · intro x hx
    obtain ⟨l, hl, rfl⟩ := List.mem_map.mp hx
    exact h l hl
  · exact fun x hx => SentInvoice.rowOf_le (mem_ratesOf.mpr ⟨x, hx, rfl⟩)

/-- **THE REMAINING TOTALS** of a state that keeps the invariant are the totals of
    the invoice less what has been credited. -/
theorem calculateRemainingCreditTotals_eq (hshown : ShownInRange invoice)
    (h : Sound invoice credits) (hperm : allocations.Perm (allocationsOf credits)) :
    calculateRemainingCreditTotals invoice.lines allocations
      = .ok (lessCredited invoice.totals (credited credits)) := by
  obtain ⟨capacities, hcapacities⟩ := SentInvoice.exists_capacities hshown
  obtain ⟨_, hcap, _⟩ := createVatCapacities_spec hcapacities
  have hvalid : ∀ a ∈ allocations, ValidAllocation invoice.lines a :=
    fun a ha => h.validOf a (hperm.mem_iff.mp ha)
  have hsum : ∀ (f : LineAmounts → Int) r,
      sumOn f r (amountsOf allocations) = sumOn f r (credited credits) :=
    fun f r => sumOn_perm (hperm.map _)
  have hwithin : WithinCapacities capacities (amountsOf allocations) := by
    intro x hx
    obtain ⟨a, ha, rfl⟩ := List.mem_map.mp hx
    obtain ⟨hrate, hmode⟩ := mode_of_valid (hvalid a ha)
    obtain ⟨hnet, hvat, hgross⟩ := h.within _ hrate
    refine ⟨capacityOf invoice.amounts a.vatRateBasisPoints,
      (hcap.2 _ _).mpr ⟨mem_ratesOf.mp hrate, rfl⟩, hmode, ?_, ?_, ?_⟩
    · rw [hsum]
      exact hnet
    · rw [hsum]
      exact hvat
    · rw [hsum]
      exact hgross
  have hmax := (calculateInvoiceTotals_spec invoice.settled).2.2.2
  rw [SentInvoice.totals_eq] at hmax
  obtain ⟨totals, htotals⟩ := calculateRemainingCreditTotals_total invoice.uniqueIds
    hcapacities hvalid hwithin hmax (fun rate hrate => SentInvoice.rowOf_le hrate)
  have hclosed := calculateRemainingCreditTotals_spec htotals
  rw [htotals, hclosed, lessCredited_eq]
  refine congrArg Except.ok (congrArg totalsOf (List.map_congr_left fun rate _ => ?_))
  show remainingOf invoice.amounts (amountsOf allocations) rate = _
  rw [remainingOf, hsum, hsum, hsum]
  rfl

/-- **NO RUN CREDITS TOO MUCH**, and a rate that is used up is used up exactly.  What
    is left is what the remaining totals say, as soon as the amounts shown on the
    lines of a rate can be added up. -/
theorem credits_stay_within_invoice
    (h : TransitionSystem.Reachable (creditSystem localeCompare invoice) credits) :
    (∀ rate, sumOn (·.netCents) rate (credited credits) ≤ (rowAt invoice.totals rate).netCents
        ∧ sumOn (·.vatCents) rate (credited credits) ≤ (rowAt invoice.totals rate).vatCents
        ∧ sumOn (·.grossCents) rate (credited credits)
          ≤ (rowAt invoice.totals rate).grossCents)
      ∧ (∀ l ∈ invoice.lines,
          (creditedOf l.id (allocationsOf credits)).quantityHundredths ≤ l.quantityHundredths)
      ∧ (∀ l ∈ invoice.lines,
          rowInput l.priceInputMode (rowAt invoice.totals l.vatRateBasisPoints)
              - sumOn (·.inputCents) l.vatRateBasisPoints (credited credits) = 0 →
            sumsOf (credited credits) l.vatRateBasisPoints
              = rowAt invoice.totals l.vatRateBasisPoints)
      ∧ (calculateRemainingCreditTotals invoice.lines [] = .ok invoice.totals
          ↔ ShownInRange invoice)
      ∧ (ShownInRange invoice → ∀ allocations, allocations.Perm (allocationsOf credits) →
          calculateRemainingCreditTotals invoice.lines allocations
            = .ok (lessCredited invoice.totals (credited credits))) := by
  have hsound := sound_of_reachable h
  refine ⟨?_, hsound.quantity, ?_, ⟨shownInRange_of_remaining, ?_⟩, ?_⟩
  · intro rate
    by_cases hrate : rate ∈ ratesOf invoice.amounts
    · rw [SentInvoice.rowAt_of_mem hrate]
      exact hsound.within rate hrate
    · have hnone : ∀ x ∈ credited credits, x.vatRateBasisPoints ≠ rate := by
        intro x hx hr
        obtain ⟨a, ha, rfl⟩ := List.mem_map.mp hx
        exact hrate (hr ▸ (mode_of_valid (hsound.validOf a ha)).1)
      rw [SentInvoice.rowAt_of_not_mem hrate, sumOn_of_none hnone, sumOn_of_none hnone,
        sumOn_of_none hnone]
      exact ⟨Int.le_refl 0, Int.le_refl 0, Int.le_refl 0⟩
  · intro l hl hfull
    have hrate := SentInvoice.mem_rates hl
    rw [SentInvoice.rowAt_of_mem hrate] at hfull ⊢
    refine hsound.exhausted _ hrate ?_
    -- the input amount of the row is the input of the lines
    have hmode := modeOn_of_mem SentInvoice.oneModePerRate (SentInvoice.mem_amounts hl)
    have hrow : rowInput l.priceInputMode (rowOf invoice.amounts l.vatRateBasisPoints)
        = sumOn (·.inputCents) l.vatRateBasisPoints invoice.amounts := by
      rw [rowOf, hmode]
      cases l.priceInputMode with
      | net => rfl
      | gross => rfl
    omega
  · intro hshown
    have hnone := calculateRemainingCreditTotals_eq hshown sound_nil
      (List.Perm.refl (allocationsOf []))
    exact hnone.trans (congrArg Except.ok lessCredited_nil)
  · exact fun hshown allocations hperm =>
      calculateRemainingCreditTotals_eq hshown hsound hperm

end Remaining

/-! ## Two invoices -/

/-- An invoice over one euro and 24 cents. -/
def smallInvoice : SentInvoice where
  lines := [⟨⟨100, .net, 2400, 100, 0, 100, 24, 124⟩, "line-1", 1⟩]
  totals := ⟨100, 24, 124, [⟨2400, 100, 24, 124⟩]⟩
  priced := by
    intro l hl
    rw [List.mem_singleton] at hl
    subst hl
    exact ⟨⟨100, 100, 2400, .net, .none⟩, _, rfl, rfl⟩
  settled := by decide
  uniqueIds := by decide
  identifiers := by decide
  positions := by decide

/-- Half of the small invoice. -/
def halfDraft : CalculatedNormalCreditDraft :=
  ⟨[⟨⟨50, .net, 2400, 50, 0, 50, 12, 62⟩, "line-1", some "line-1", none⟩],
    ⟨50, 12, 62, [⟨2400, 50, 12, 62⟩]⟩⟩

/-- One credit of half a line. -/
def halfCredited : List Credit := [approvedCredit halfDraft]

theorem halfCredited_reachable :
    TransitionSystem.Reachable (creditSystem (fun _ _ => 0) smallInvoice) halfCredited := by
  have hempty : TransitionSystem.Reachable (creditSystem (fun _ _ => 0) smallInvoice) [] :=
    .initial rfl
  have hdraft : calculateCreditInvoiceDraft (fun _ _ => 0) smallInvoice.lines []
      [⟨"line-1", 50⟩] [] = .ok halfDraft := by decide +kernel
  exact .step hempty (.approval (.approve (List.Perm.refl _) ⟨_, _, _, hdraft, rfl⟩))

theorem halfCredited_within :
    sumOn (·.grossCents) 2400 (credited halfCredited) ≤ (rowAt smallInvoice.totals 2400).grossCents
      ∧ calculateRemainingCreditTotals smallInvoice.lines (allocationsOf halfCredited)
        = .ok ⟨50, 12, 62, [⟨2400, 50, 12, 62⟩]⟩ := by
  obtain ⟨hwithin, _, _, _, hremaining⟩ := credits_stay_within_invoice halfCredited_reachable
  refine ⟨(hwithin 2400).2.2, ?_⟩
  exact hremaining (by decide) _ (List.Perm.refl _)

/-- The largest invoice there can be at its rate: each of its two lines rounds its
    tax up, their VAT group does not. -/
def largestInvoice : SentInvoice where
  lines := [⟨⟨100, .net, 2400, 3631935183363303, 0, 3631935183363303, 871664444007193,
        4503599627370496⟩, "line-1", 1⟩,
      ⟨⟨100, .net, 2400, 3631935183363303, 0, 3631935183363303, 871664444007193,
        4503599627370496⟩, "line-2", 2⟩]
  totals := ⟨7263870366726606, 1743328888014385, 9007199254740991,
    [⟨2400, 7263870366726606, 1743328888014385, 9007199254740991⟩]⟩
  priced := by
    intro l hl
    refine ⟨⟨100, 3631935183363303, 2400, .net, .none⟩, _, rfl, ?_⟩
    rcases List.mem_cons.mp hl with rfl | hl
    · rfl
    · rw [List.mem_singleton] at hl
      rw [hl]
      rfl
  settled := by decide +kernel
  uniqueIds := by decide
  identifiers := by decide
  positions := by decide

/-- The remaining totals of an untouched invoice are not always its totals. -/
theorem remaining_of_largestInvoice :
    calculateRemainingCreditTotals largestInvoice.lines [] = .error rangeError
      ∧ ¬ ∀ invoice : SentInvoice,
        calculateRemainingCreditTotals invoice.lines [] = .ok invoice.totals := by
  have herror : calculateRemainingCreditTotals largestInvoice.lines [] = .error rangeError := by
    decide +kernel
  refine ⟨herror, fun hall => ?_⟩
  exact nomatch herror.symm.trans (hall largestInvoice)

end CreditHistory
