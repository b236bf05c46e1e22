import Eky.SourceCredits

/-! # Path independence — only the credited quantities count

    Without cancellations the accumulated amounts of a history are a FUNCTION of
    the accumulated quantities: each credit is the difference of two rounded
    cumulative values, so the credits of a line telescope to the rounded part of
    its quantity, and the settled tax of a rate to the tax of the credited input.

    Both closed forms are kept by every step; that two histories agree is then
    read off the closed forms. -/

namespace CreditHistory

open Fallible Apportionment OrderedMap InvoiceMoney VatGroups InvoiceCalculation
open VatDistribution CreditDraft CreditLedger
open CreditInvoice (CreditSourceLine RequestedCreditLine PreviousAllocationTotal)

/-- The closed forms of an uncancelled history. -/
structure Cumulative (invoice : SentInvoice) (credits : List Credit) : Prop where
  base : ∀ l ∈ invoice.lines, (creditedOf l.id (allocationsOf credits)).baseCents
    = halfUp (l.baseCents * (creditedOf l.id (allocationsOf credits)).quantityHundredths)
        l.quantityHundredths
  input : ∀ l ∈ invoice.lines,
    (creditedOf l.id (allocationsOf credits)).inputCents l.priceInputMode
    = halfUp (l.inputCents * (creditedOf l.id (allocationsOf credits)).quantityHundredths)
        l.quantityHundredths
  net : ∀ rate ∈ ratesOf invoice.amounts, sumOn (·.netCents) rate (credited credits)
    = netOf (modeOn rate invoice.amounts) rate
        (sumOn (·.inputCents) rate (credited credits))
  gross : ∀ rate ∈ ratesOf invoice.amounts, sumOn (·.grossCents) rate (credited credits)
    = grossOf (modeOn rate invoice.amounts) rate
        (sumOn (·.inputCents) rate (credited credits))

variable {allocations : List PreviousCreditAllocation}

section Invariant

variable {localeCompare : String → String → Int} {invoice : SentInvoice}
variable {credits other : List Credit}

theorem cumulative_nil : Cumulative invoice [] where
  base l hl := by
    show 0 = halfUp (l.baseCents * 0) l.quantityHundredths
    rw [Int.mul_zero, halfUp_zero (SentInvoice.priced_of_mem hl).quantity.1]
  input l hl := by
    show (0 : PreviousAllocationTotal).inputCents l.priceInputMode
      = halfUp (l.inputCents * 0) l.quantityHundredths
    rw [Int.mul_zero, halfUp_zero (SentInvoice.priced_of_mem hl).quantity.1]
    exact map_zero (inputHom l.priceInputMode)
  net rate hrate := by
    obtain ⟨x, hx, rfl⟩ := mem_ratesOf.mp hrate
    show 0 = netOf _ x.vatRateBasisPoints 0
    rw [netOf_zero (SentInvoice.creditable.amounts x hx).1.1]
  gross rate _ := by
    show 0 = grossOf _ rate 0
    rw [grossOf_zero]

/-- The credits of a line telescope. -/
private theorem cumulative_line (hperm : allocations.Perm (allocationsOf credits))
    {requested : List RequestedCreditLine} {d : CalculatedNormalCreditDraft}
    (hd : Accepted invoice.lines allocations requested [] d) {l : CreditSourceLine}
    (hl : l ∈ invoice.lines) (hbase : (creditedOf l.id (allocationsOf credits)).baseCents
      = halfUp (l.baseCents * (creditedOf l.id (allocationsOf credits)).quantityHundredths)
        l.quantityHundredths)
    (hinput : (creditedOf l.id (allocationsOf credits)).inputCents l.priceInputMode
      = halfUp (l.inputCents * (creditedOf l.id (allocationsOf credits)).quantityHundredths)
        l.quantityHundredths) :
    let p := creditedOf l.id (allocationsOf (credits ++ [approvedCredit d]))
    p.baseCents = halfUp (l.baseCents * p.quantityHundredths) l.quantityHundredths
      ∧ p.inputCents l.priceInputMode
        = halfUp (l.inputCents * p.quantityHundredths) l.quantityHundredths := by
  rw [allocationsOf_approvedCredit, creditedOf_append]
  rw [← creditedOf_perm l.id hperm] at hbase hinput ⊢
  rcases hd.credits invoice.uniqueIds hl with
    ⟨request, _, _, y, _, ⟨_, hfrom⟩, htotal⟩ | ⟨_, htotal⟩
  · rw [htotal]
    have hquantity : y.quantityHundredths = request.quantityHundredths := hfrom.quantity
    have hmode : y.priceInputMode = l.priceInputMode := hfrom.mode
    have hlineInput : (lineTotal y.toLineAmounts).inputCents l.priceInputMode
        = y.inputCents := by
      rw [LineAmounts.inputCents, hmode]
      cases l.priceInputMode with
      | net => rfl
      | gross => rfl
    refine ⟨?_, ?_⟩
    · show (creditedOf l.id allocations).baseCents + y.baseCents
        = halfUp (l.baseCents * ((creditedOf l.id allocations).quantityHundredths
            + y.quantityHundredths)) l.quantityHundredths
      rw [hquantity]
      exact hfrom.base
    · rw [Part.inputCents_add, hlineInput]
      show _ = halfUp (l.inputCents * ((creditedOf l.id allocations).quantityHundredths
            + y.quantityHundredths)) l.quantityHundredths
      rw [hquantity]
      exact hfrom.input
  · rw [htotal, add_zero]
    exact ⟨hbase, hinput⟩

/-- What an approval adds to an amount of a rate. -/
private theorem credited_approve (hperm : allocations.Perm (allocationsOf credits))
    (d : CalculatedNormalCreditDraft) (f : LineAmounts → Int) (rate : Int) :
    sumOn f rate (credited (credits ++ [approvedCredit d]))
      = sumOn f rate (amountsOf (allocations ++ d.lines.map toAllocation)) := by
  rw [credited, allocationsOf_approvedCredit]
  exact (sumOn_perm ((hperm.append_right _).map _)).symm

theorem cumulative_approve (h : Cumulative invoice credits)
    (hperm : allocations.Perm (allocationsOf credits)) {requested : List RequestedCreditLine}
    {d : CalculatedNormalCreditDraft} (hd : Accepted invoice.lines allocations requested [] d) :
    Cumulative invoice (credits ++ [approvedCredit d]) := by
  have hmode : ∀ y ∈ d.lines, modeOn y.vatRateBasisPoints invoice.amounts = y.priceInputMode :=
    fun y hy => (mode_of_valid (hd.valid y hy)).2
  -- a rate that the credit does not touch keeps its sums
  have huntouched : ∀ rate, (¬ ∃ y ∈ d.lines, y.vatRateBasisPoints = rate) →
      ∀ f : LineAmounts → Int, sumOn f rate (credited (credits ++ [approvedCredit d]))
        = sumOn f rate (credited credits) := by
    intro rate hnone f
    have hnew : sumOn f rate (amountsOf (d.lines.map toAllocation)) = 0 := by
      rw [amountsOf_toAllocation]
      refine sumOn_of_none (fun x hx hr => ?_)
      obtain ⟨y, hy, rfl⟩ := List.mem_map.mp hx
      exact hnone ⟨y, hy, hr⟩
    rw [credited_approve hperm, amountsOf_append, sumOn_append, hnew, Int.add_zero]
    exact sumOn_perm (hperm.map _)
  refine ⟨?_, ?_, ?_, ?_⟩
  · exact fun l hl => (cumulative_line hperm hd hl (h.base l hl) (h.input l hl)).1
  · exact fun l hl => (cumulative_line hperm hd hl (h.base l hl) (h.input l hl)).2
  · intro rate hrate
    by_cases htouched : ∃ y ∈ d.lines, y.vatRateBasisPoints = rate
    · obtain ⟨y, hy, rfl⟩ := htouched
      rw [credited_approve hperm, credited_approve hperm, hmode y hy]
      exact hd.net y hy
    · rw [huntouched rate htouched, huntouched rate htouched]
      exact h.net rate hrate
  · intro rate hrate
    by_cases htouched : ∃ y ∈ d.lines, y.vatRateBasisPoints = rate
    · obtain ⟨y, hy, rfl⟩ := htouched
      rw [credited_approve hperm, credited_approve hperm, hmode y hy]
      exact hd.gross y hy
    · rw [huntouched rate htouched, huntouched rate htouched]
      exact h.gross rate hrate

/-- The closed forms hold after every uncancelled history. -/
theorem cumulative_of_reachable
    (h : TransitionSystem.Reachable (uncancelledSystem localeCompare invoice) credits) :
    Cumulative invoice credits := by
  refine CreditLedger.uncancelled_invariant cumulative_nil ?_ ?_ h
  · rintro credits allocations lines hbefore hperm ⟨requested, d, hd, rfl⟩
    exact cumulative_approve hbefore hperm (calculateCreditInvoiceDraft_spec hd)
  · intro before lines after hbefore
    refine ⟨?_, ?_, ?_, ?_⟩
    all_goals
      simp only [credited, allocationsOf_send]
    · exact hbefore.base
    · exact hbefore.input
    · exact hbefore.net
    · exact hbefore.gross

/-- Net, VAT and gross of a rate follow from its credited input. -/
theorem Cumulative.sumsOf_eq (h : Cumulative invoice credits) (hsound : Sound invoice credits)
    {rate : Int} (hrate : rate ∈ ratesOf invoice.amounts) :
    sumsOf (credited credits) rate
      = let mode := modeOn rate invoice.amounts
        let input := sumOn (·.inputCents) rate (credited credits)
        ⟨rate, netOf mode rate input, vatOf mode rate input, grossOf mode rate input⟩ := by
  have hgross : sumOn (·.grossCents) rate (credited credits)
      = sumOn (·.netCents) rate (credited credits)
        + sumOn (·.vatCents) rate (credited credits) :=
    sumOn_gross (reconciled_of_valid hsound.validOf)
  have hnet := h.net rate hrate
  have hgross' := h.gross rate hrate
  have hvat : sumOn (·.vatCents) rate (credited credits)
      = vatOf (modeOn rate invoice.amounts) rate
        (sumOn (·.inputCents) rate (credited credits)) := by
    rw [vatOf]
    omega
  rw [sumsOf, hvat, hnet, hgross']

/-- The credited input of a rate is a function of the credited quantities. -/
theorem input_of_quantities (h : Cumulative invoice credits)
    (hsource : SourceSound invoice credits) (rate : Int) :
    sumOn (·.inputCents) rate (credited credits)
      = ((withKey (·.vatRateBasisPoints) rate invoice.lines).map (fun l =>
          halfUp (l.inputCents * (creditedOf l.id (allocationsOf credits)).quantityHundredths)
            l.quantityHundredths)).sum := by
  rw [credited, ← sum_creditedOf_input hsource.sourceOf]
  exact congrArg List.sum (List.map_congr_left fun l hl => h.input l (mem_withKey.mp hl).1)

/-- **PATH INDEPENDENCE**: after any history without cancellations the accumulated
    amounts are those of the accumulated quantities.  A line has given the rounded
    part of its base and input amount, a rate has the amounts that the invoice's own
    rule gives its accumulated input, and so two histories that credited the same
    quantities credited the same amounts. -/
theorem credits_depend_on_quantities
    (h : TransitionSystem.Reachable (uncancelledSystem localeCompare invoice) credits) :
    (∀ l ∈ invoice.lines,
        let p := creditedOf l.id (allocationsOf credits)
        p.baseCents - p.discountCents = p.inputCents l.priceInputMode
          ∧ (l.quantityHundredths ≠ 0 →
              roundHalfUp (l.baseCents * p.quantityHundredths) l.quantityHundredths
                  = .ok p.baseCents
                ∧ roundHalfUp (l.inputCents * p.quantityHundredths) l.quantityHundredths
                  = .ok (p.inputCents l.priceInputMode))
          ∧ (l.quantityHundredths = 0 → p = 0))
      ∧ (∀ l ∈ invoice.lines,
          let rate := l.vatRateBasisPoints
          settleVatRate rate ⟨sumOn (·.grossCents) rate (credited credits), l.priceInputMode,
              sumOn (·.netCents) rate (credited credits)⟩
            = .ok (sumsOf (credited credits) rate))
      ∧ ∀ other, TransitionSystem.Reachable (uncancelledSystem localeCompare invoice) other →
          (∀ l ∈ invoice.lines, (creditedOf l.id (allocationsOf credits)).quantityHundredths
            = (creditedOf l.id (allocationsOf other)).quantityHundredths) →
          ∀ rate, sumsOf (credited credits) rate = sumsOf (credited other) rate := by
  have hsource := sourceSound_of_reachable (source_of_uncancelled h)
  have hsound := sound_of_reachable (reachable_of_source (source_of_uncancelled h))
  have hcumulative := cumulative_of_reachable h
  refine ⟨?_, ?_, ?_⟩
  · intro l hl
    have hpart := part_creditedOf hsound.validOf hsource.sourceOf hl
    have htaken := hsource.taken l hl
    have hpriced := SentInvoice.priced_of_mem hl
    have hbaseMax := hpriced.base.2
    have hinputEq := hpriced.input
    have hdiscount := hpriced.discount_nonneg
    have hquantity := hpriced.quantity.1
    have hbase := htaken.base
    have hinput := htaken.input
    refine ⟨hpart.input, fun hne => ⟨?_, ?_⟩, fun hzero => ?_⟩
    · exact roundHalfUp_eq_ok.mpr ⟨Int.mul_nonneg hpriced.base.1 hpart.quantity, by omega,
        (hcumulative.base l hl).symm, by omega⟩
    · exact roundHalfUp_eq_ok.mpr ⟨Int.mul_nonneg hpriced.input_nonneg hpart.quantity,
        by omega, (hcumulative.input l hl).symm, by omega⟩
    · have hle := htaken.quantity.2
      have hnonneg := hpart.quantity
      exact hpart.nothing (by omega)
  · intro l hl rate
    have hrate := SentInvoice.mem_rates hl
    have hlmode := modeOn_of_mem SentInvoice.oneModePerRate (SentInvoice.mem_amounts hl)
    have hmode : ∀ x ∈ credited credits, x.vatRateBasisPoints = l.vatRateBasisPoints →
        x.priceInputMode = l.priceInputMode := by
      intro x hx hr
      obtain ⟨a, ha, rfl⟩ := List.mem_map.mp hx
      rw [← hlmode, ← hr]
      exact (mode_of_valid (hsound.validOf a ha)).2.symm
    have hclosed := hcumulative.sumsOf_eq hsound hrate
    rw [hlmode] at hclosed
    show settleVatRate rate _ = .ok (sumsOf (credited credits) l.vatRateBasisPoints)
    rw [hclosed]
    refine settleVatRate_total (SentInvoice.creditable.amounts _ (SentInvoice.mem_amounts hl)).1.1
      ?_ ?_ ?_ ?_
    · exact sumOn_nonneg
        (fun x hx => (reconciled_of_valid hsound.validOf x hx).input_nonneg)
    · have hgross := hcumulative.gross _ hrate
      rw [hlmode] at hgross
      have hle := (hsound.within _ hrate).2.2
      have hmax := SentInvoice.rowOf_le hrate
      show grossOf l.priceInputMode l.vatRateBasisPoints _ ≤ _
      omega
    · exact fun hm => (sumOn_input_net (fun x hx hr => (hmode x hx hr).trans hm)).symm
    · exact fun hm => (sumOn_input_gross (fun x hx hr => (hmode x hx hr).trans hm)).symm
  · intro other hother hquantities rate
    have hsource' := sourceSound_of_reachable (source_of_uncancelled hother)
    have hsound' := sound_of_reachable (reachable_of_source (source_of_uncancelled hother))
    have hcumulative' := cumulative_of_reachable hother
    by_cases hrate : rate ∈ ratesOf invoice.amounts
    · have hinput : sumOn (·.inputCents) rate (credited credits)
          = sumOn (·.inputCents) rate (credited other) := by
        rw [input_of_quantities hcumulative hsource,
          input_of_quantities hcumulative' hsource']
        refine congrArg List.sum (List.map_congr_left fun l hl => ?_)
        rw [hquantities l (mem_withKey.mp hl).1]
      rw [hcumulative.sumsOf_eq hsound hrate, hcumulative'.sumsOf_eq hsound' hrate, hinput]
    · have hnone : ∀ {cs : List Credit}, Sound invoice cs →
          ∀ x ∈ credited cs, x.vatRateBasisPoints ≠ rate := by
        intro cs hcs x hx hr
        obtain ⟨a, ha, rfl⟩ := List.mem_map.mp hx
        exact hrate (hr ▸ (mode_of_valid (hcs.validOf a ha)).1)
      have hsums : ∀ {cs : List Credit}, Sound invoice cs →
          sumsOf (credited cs) rate = ⟨rate, 0, 0, 0⟩ := by
        intro cs hcs
        rw [sumsOf, sumOn_of_none (hnone hcs), sumOn_of_none (hnone hcs),
          sumOn_of_none (hnone hcs)]
      rw [hsums hsound, hsums hsound']

end Invariant

/-! ## Half an invoice, at once and in two parts -/

/-- A credit of a fifth. -/
def fifthDraft : CalculatedNormalCreditDraft :=
  ⟨[⟨⟨20, .net, 2400, 20, 0, 20, 5, 25⟩, "line-1", some "line-1", none⟩],
    ⟨20, 5, 25, [⟨2400, 20, 5, 25⟩]⟩⟩

/-- The next three tenths: the tax of the first fifth was rounded up. -/
def threeTenthsDraft : CalculatedNormalCreditDraft :=
  ⟨[⟨⟨30, .net, 2400, 30, 0, 30, 7, 37⟩, "line-1", some "line-1", none⟩],
    ⟨30, 7, 37, [⟨2400, 30, 7, 37⟩]⟩⟩

/-- A fifth and three tenths. -/
def creditedInTwo : List Credit := [approvedCredit fifthDraft, approvedCredit threeTenthsDraft]

theorem halfCredited_uncancelled :
    TransitionSystem.Reachable (uncancelledSystem (fun _ _ => 0) smallInvoice) halfCredited := by
  have hempty : TransitionSystem.Reachable (uncancelledSystem (fun _ _ => 0) smallInvoice) [] :=
    .initial rfl
  have hdraft : calculateCreditInvoiceDraft (fun _ _ => 0) smallInvoice.lines []
      [⟨"line-1", 50⟩] [] = .ok halfDraft := by decide +kernel
  exact .step hempty (.approve (List.Perm.refl _) ⟨_, _, hdraft, rfl⟩)

theorem creditedInTwo_uncancelled :
    TransitionSystem.Reachable (uncancelledSystem (fun _ _ => 0) smallInvoice)
      creditedInTwo := by
  have hempty : TransitionSystem.Reachable (uncancelledSystem (fun _ _ => 0) smallInvoice) [] :=
    .initial rfl
  have hfirst : calculateCreditInvoiceDraft (fun _ _ => 0) smallInvoice.lines []
      [⟨"line-1", 20⟩] [] = .ok fifthDraft := by decide +kernel
  have hsecond : calculateCreditInvoiceDraft (fun _ _ => 0) smallInvoice.lines
      (allocationsOf [approvedCredit fifthDraft]) [⟨"line-1", 30⟩] []
        = .ok threeTenthsDraft := by decide +kernel
  have hone := TransitionSystem.Reachable.step hempty (.approve (List.Perm.refl _) ⟨_, _, hfirst, rfl⟩)
  exact .step hone (.approve (List.Perm.refl _) ⟨_, _, hsecond, rfl⟩)

theorem creditedInTwo_as_at_once :
    roundHalfUp (100 * 50) 100 = .ok 50
      ∧ sumsOf (credited creditedInTwo) 2400 = sumsOf (credited halfCredited) 2400 := by
  obtain ⟨hlines, _, hsame⟩ := credits_depend_on_quantities creditedInTwo_uncancelled
  refine ⟨((hlines _ (List.mem_singleton.mpr rfl)).2.1 (by decide)).1, ?_⟩
  refine hsame halfCredited halfCredited_uncancelled ?_ 2400
  intro l hl
  rw [List.mem_singleton.mp hl]
  decide

end CreditHistory
