import Eky.InvoiceCalculation
import Mathlib.Data.Rat.Floor
import Mathlib.Tactic.FieldSimp
import Mathlib.Tactic.Linarith

/-! # Invoice totals against exact arithmetic

    The reference calculates in unbounded integers and rounds exact quotients
    (`roundedHalfUp`); it has no limits and rejects nothing.  The program agrees with it
    wherever it returns, and it returns exactly when every input is in its range, the lines of
    a rate share one price input mode and no number of the exact result leaves the safe range
    (`calculateLinesAndTotals_eq_ok`). -/

namespace ExactInvoice

open Fallible Apportionment InvoiceMoney VatGroups InvoiceCalculation

/-! ## Rounding -/

/-- To the nearest integer, halves up. -/
def roundedHalfUp (x : ℚ) : ℤ := ⌊x + 1 / 2⌋

/-- The quotient of integers that the program calculates rounds the exact one. -/
theorem halfUp_eq_roundedHalfUp {n d : ℤ} (hd : 0 < d) :
    halfUp n d = roundedHalfUp ((n : ℚ) / d) := by
  have hpos : (0 : ℚ) < d := by exact_mod_cast hd
  have hlow : halfUp n d * d ≤ n + d / 2 := Int.ediv_mul_le _ hd.ne'
  have hhigh : n + d / 2 < (halfUp n d + 1) * d := Int.lt_ediv_add_one_mul_self _ hd
  symm
  rw [roundedHalfUp, Int.floor_eq_iff]
  constructor
  · have hdouble : 2 * (halfUp n d * d) ≤ 2 * n + d := by omega
    have hcast : (2 : ℚ) * (halfUp n d * d) ≤ 2 * n + d := by exact_mod_cast hdouble
    have hsum : (n : ℚ) / d + 1 / 2 = (2 * n + d) / (2 * d) := by field_simp
    rw [hsum, le_div_iff₀ (by linarith)]
    linarith
  · have hdouble : 2 * n + d < 2 * ((halfUp n d + 1) * d) := by omega
    have hcast : (2 : ℚ) * n + d < 2 * ((halfUp n d + 1) * d) := by exact_mod_cast hdouble
    have hsum : (n : ℚ) / d + 1 / 2 = (2 * n + d) / (2 * d) := by field_simp
    rw [hsum, div_lt_iff₀ (by linarith)]
    linarith

/-! ## The reference -/

/-- Quantity times price, rounded once. -/
def exactBaseCents (input : InvoiceLineCalculationInput) : ℤ :=
  roundedHalfUp (input.quantityHundredths * input.unitPriceCents / 100)

/-- The discount of an exact base. -/
def exactDiscountCents (baseCents : ℤ) : InvoiceLineDiscount → ℤ
  | .none => 0
  | .percentage basisPoints => roundedHalfUp (baseCents * basisPoints / 10000)
  | .fixed amountCents => amountCents

/-- Net, VAT and gross of an amount in its price input mode. -/
def exactSplit (mode : PriceInputMode) (rate amount : ℤ) : ℤ × ℤ × ℤ :=
  match mode with
  | .net =>
      let vat := roundedHalfUp (amount * rate / 10000)
      (amount, vat, amount + vat)
  | .gross =>
      let net := roundedHalfUp (amount * 10000 / (10000 + rate))
      (net, amount - net, amount)

/-- The line over unbounded integers. -/
def exactLine (input : InvoiceLineCalculationInput) : CalculatedInvoiceLine :=
  let baseCents := exactBaseCents input
  let discountCents := exactDiscountCents baseCents input.discount
  let (netCents, vatCents, grossCents) :=
    exactSplit input.priceInputMode input.vatRateBasisPoints (baseCents - discountCents)
  { quantityHundredths := input.quantityHundredths
    unitPriceCents := input.unitPriceCents
    vatRateBasisPoints := input.vatRateBasisPoints
    priceInputMode := input.priceInputMode
    baseCents, discountCents, netCents, vatCents, grossCents }

/-- The row of a rate: the VAT of the sum of its lines. -/
def exactRow (lines : List LineAmounts) (rate : ℤ) : InvoiceVatBreakdown :=
  let mode := modeOn rate lines
  let amount := match mode with
    | .net => sumOn (·.netCents) rate lines
    | .gross => sumOn (·.grossCents) rate lines
  let (netCents, vatCents, grossCents) := exactSplit mode rate amount
  ⟨rate, netCents, vatCents, grossCents⟩

/-- The totals over unbounded integers. -/
def exactTotals (lines : List LineAmounts) : InvoiceTotals :=
  totalsOf ((ratesOf lines).map (exactRow lines))

/-- Lines and totals of an invoice. -/
structure InvoiceResult where
  lines : List CalculatedInvoiceLine
  totals : InvoiceTotals
  deriving DecidableEq

/-- The reference that the program is compared with. -/
def exactInvoice (inputs : List InvoiceLineCalculationInput) : InvoiceResult :=
  ⟨inputs.map exactLine, exactTotals ((inputs.map exactLine).map (·.toLineAmounts))⟩

/-- The calculation of the program: every line, then the totals. -/
def calculateLinesAndTotals (inputs : List InvoiceLineCalculationInput) :
    Checked InvoiceResult := do
  let lines ← inputs.mapM calculateInvoiceLine
  let totals ← calculateInvoiceTotals (lines.map (·.toLineAmounts))
  pure ⟨lines, totals⟩

/-! ## Ranges -/

/-- The range of a discount on a line of a given base. -/
def DiscountInRange (baseCents : ℤ) : InvoiceLineDiscount → Prop
  | .none => True
  | .percentage basisPoints => 0 ≤ basisPoints ∧ basisPoints ≤ 10000
  | .fixed amountCents => 0 ≤ amountCents ∧ amountCents ≤ baseCents

/-- The validated range of a line. -/
structure InRange (input : InvoiceLineCalculationInput) : Prop where
  quantity : IsAmount input.quantityHundredths
  price : IsAmount input.unitPriceCents
  rate : IsAmount input.vatRateBasisPoints
  discount : DiscountInRange (exactBaseCents input) input.discount

/-- The numbers of a line that are results. -/
def lineResults (line : LineAmounts) : List ℤ :=
  [line.baseCents, line.discountCents, line.netCents, line.vatCents, line.grossCents]

/-- Every number that the calculation returns beside its inputs. -/
def InvoiceResult.amounts (result : InvoiceResult) : List ℤ :=
  result.lines.flatMap (fun line => lineResults line.toLineAmounts)
    ++ result.totals.vatBreakdown.flatMap (fun row => [row.netCents, row.vatCents, row.grossCents])
    ++ [result.totals.netTotalCents, result.totals.vatTotalCents, result.totals.grossTotalCents]

/-- No exact result exceeds the safe range. -/
def InvoiceResult.Fits (result : InvoiceResult) : Prop :=
  ∀ amount ∈ result.amounts, amount ≤ maximumSafeInteger

variable {input : InvoiceLineCalculationInput} {result : InvoiceResult} {rate : ℤ}

/-! ## One line -/

theorem exactSplit_eq {mode : PriceInputMode} {amount : ℤ} (hrate : 0 ≤ rate) :
    exactSplit mode rate amount
      = (netOf mode rate amount, vatOf mode rate amount, grossOf mode rate amount) := by
  cases mode with
  | net =>
      have hvat : halfUp (amount * rate) 10000 = roundedHalfUp (amount * rate / 10000) := by
        rw [halfUp_eq_roundedHalfUp (by decide)]
        push_cast
        rfl
      rw [exactSplit, vatOf, netOf, grossOf, hvat, add_sub_cancel_left]
  | gross =>
      have hnet : halfUp (amount * 10000) (10000 + rate)
          = roundedHalfUp (amount * 10000 / (10000 + rate)) := by
        rw [halfUp_eq_roundedHalfUp (by omega)]
        push_cast
        rfl
      rw [exactSplit, vatOf, netOf, grossOf, hnet]

theorem exactBaseCents_eq (input : InvoiceLineCalculationInput) :
    halfUp (input.unitPriceCents * input.quantityHundredths) 100 = exactBaseCents input := by
  rw [halfUp_eq_roundedHalfUp (by decide), exactBaseCents, Int.mul_comm]
  push_cast
  rfl

/-- The discount is the exact one, and it is in range exactly when the program accepts it
    and it does not exceed the base. -/
theorem calculateDiscountCents_eq_ok {base d : ℤ} {discount : InvoiceLineDiscount}
    (hbase : IsAmount base) :
    calculateDiscountCents base discount = .ok d ∧ d ≤ base
      ↔ DiscountInRange base discount ∧ d = exactDiscountCents base discount := by
  cases discount with
  | none =>
      simp only [calculateDiscountCents, pure_eq_ok, DiscountInRange, exactDiscountCents, true_and]
      constructor
      · rintro ⟨rfl, -⟩
        rfl
      · rintro rfl
        exact ⟨rfl, hbase.1⟩
  | percentage basisPoints =>
      simp only [calculateDiscountCents, bind_eq_ok, throwIf_eq_ok, exists_const,
        requireNonNegativeSafeInteger_eq_ok, roundHalfUp_eq_ok, DiscountInRange,
        exactDiscountCents]
      have hexact : halfUp (base * basisPoints) 10000
          = roundedHalfUp (base * basisPoints / 10000) := by
        rw [halfUp_eq_roundedHalfUp (by decide)]
        push_cast
        rfl
      rw [hexact]
      constructor
      · rintro ⟨⟨hpoints, hle, -, -, rfl, -⟩, -⟩
        exact ⟨⟨hpoints.1, Int.not_lt.mp hle⟩, rfl⟩
      · rintro ⟨⟨hpoints, hle⟩, rfl⟩
        -- a part of the base is at most the base
        have hpart : halfUp (base * basisPoints) 10000 ≤ base :=
          halfUp_part_le hbase.1 hle (by decide)
        rw [hexact] at hpart
        have hmax := hbase.2
        refine ⟨⟨⟨hpoints, ?_⟩, by omega, Int.mul_nonneg hbase.1 hpoints, by decide, rfl,
          by omega⟩, hpart⟩
        exact le_trans hle (by decide)
  | fixed amountCents =>
      simp only [calculateDiscountCents, bind_eq_ok, pure_eq_ok, exists_const,
        requireNonNegativeSafeInteger_eq_ok, DiscountInRange, exactDiscountCents]
      constructor
      · rintro ⟨⟨hamount, rfl⟩, hle⟩
        exact ⟨⟨hamount.1, hle⟩, rfl⟩
      · rintro ⟨⟨hamount, hle⟩, rfl⟩
        exact ⟨⟨⟨hamount, le_trans hle hbase.2⟩, rfl⟩, hle⟩

theorem exactBaseCents_nonneg (hquantity : IsAmount input.quantityHundredths)
    (hprice : IsAmount input.unitPriceCents) : 0 ≤ exactBaseCents input := by
  rw [← exactBaseCents_eq]
  exact halfUp_nonneg (by decide) (Int.mul_nonneg hprice.1 hquantity.1)

theorem calculateInvoiceLineBase_eq_ok {base : InvoiceLineBaseCalculation} :
    calculateInvoiceLineBase input.quantityHundredths input.unitPriceCents input.discount
        = .ok base
      ↔ IsAmount input.quantityHundredths ∧ IsAmount input.unitPriceCents
        ∧ exactBaseCents input ≤ maximumSafeInteger
        ∧ DiscountInRange (exactBaseCents input) input.discount
        ∧ base = ⟨exactBaseCents input, exactDiscountCents (exactBaseCents input) input.discount,
          exactBaseCents input - exactDiscountCents (exactBaseCents input) input.discount⟩ := by
  simp only [calculateInvoiceLineBase, bind_eq_ok, throwIf_eq_ok, exists_const, pure_eq_ok,
    requireNonNegativeSafeInteger_eq_ok, roundHalfUp_eq_ok, exactBaseCents_eq]
  constructor
  · rintro ⟨hquantity, hprice, _, ⟨-, -, rfl, hmax⟩, discount, hdiscount, hle, rfl⟩
    obtain ⟨hrange, rfl⟩ := (calculateDiscountCents_eq_ok
      ⟨exactBaseCents_nonneg hquantity hprice, hmax⟩).mp ⟨hdiscount, Int.not_lt.mp hle⟩
    exact ⟨hquantity, hprice, hmax, hrange, rfl⟩
  · rintro ⟨hquantity, hprice, hmax, hrange, rfl⟩
    obtain ⟨hdiscount, hle⟩ := (calculateDiscountCents_eq_ok
      ⟨exactBaseCents_nonneg hquantity hprice, hmax⟩).mpr ⟨hrange, rfl⟩
    exact ⟨hquantity, hprice, _, ⟨Int.mul_nonneg hprice.1 hquantity.1, by decide, rfl, hmax⟩,
      _, hdiscount, Int.not_lt.mpr hle, rfl⟩

theorem exactDiscountCents_le {base : ℤ} {discount : InvoiceLineDiscount} (hbase : IsAmount base)
    (h : DiscountInRange base discount) :
    0 ≤ exactDiscountCents base discount ∧ exactDiscountCents base discount ≤ base := by
  obtain ⟨hdiscount, hle⟩ := (calculateDiscountCents_eq_ok hbase).mpr ⟨h, rfl⟩
  exact ⟨calculateDiscountCents_nonneg hdiscount, hle⟩

/-- The amount that is left of a line for its VAT. -/
def exactAmount (input : InvoiceLineCalculationInput) : ℤ :=
  exactBaseCents input - exactDiscountCents (exactBaseCents input) input.discount

/-- The exact line in the words of the VAT groups. -/
theorem exactLine_eq (hrate : 0 ≤ input.vatRateBasisPoints) : exactLine input =
      { quantityHundredths := input.quantityHundredths
        unitPriceCents := input.unitPriceCents
        vatRateBasisPoints := input.vatRateBasisPoints
        priceInputMode := input.priceInputMode
        baseCents := exactBaseCents input
        discountCents := exactDiscountCents (exactBaseCents input) input.discount
        netCents := netOf input.priceInputMode input.vatRateBasisPoints (exactAmount input)
        vatCents := vatOf input.priceInputMode input.vatRateBasisPoints (exactAmount input)
        grossCents :=
          grossOf input.priceInputMode input.vatRateBasisPoints (exactAmount input) } := by
  unfold exactLine exactAmount
  dsimp only
  rw [exactSplit_eq hrate]

theorem exactAmount_nonneg (h : InRange input) (hbase : exactBaseCents input ≤ maximumSafeInteger) :
    0 ≤ exactAmount input ∧ exactAmount input ≤ maximumSafeInteger := by
  have hdiscount :=
    exactDiscountCents_le ⟨exactBaseCents_nonneg h.quantity h.price, hbase⟩ h.discount
  unfold exactAmount
  omega

/-- The results of a line are in range when its base and its gross amount are. -/
theorem lineResults_le (h : InRange input) :
    (∀ amount ∈ lineResults (exactLine input).toLineAmounts, amount ≤ maximumSafeInteger)
      ↔ exactBaseCents input ≤ maximumSafeInteger
        ∧ grossOf input.priceInputMode input.vatRateBasisPoints (exactAmount input)
          ≤ maximumSafeInteger := by
  rw [exactLine_eq h.rate.1]
  simp only [lineResults, List.forall_mem_cons]
  constructor
  · rintro ⟨hbase, -, -, -, hgross, -⟩
    exact ⟨hbase, hgross⟩
  · rintro ⟨hbase, hgross⟩
    have hdiscount :=
      exactDiscountCents_le ⟨exactBaseCents_nonneg h.quantity h.price, hbase⟩ h.discount
    have hamount := (exactAmount_nonneg h hbase).1
    have hnet := @netOf_nonneg input.priceInputMode _ _ h.rate.1 hamount
    have hvat := @vatOf_nonneg input.priceInputMode _ _ h.rate.1 hamount
    have hsplit : vatOf input.priceInputMode input.vatRateBasisPoints (exactAmount input)
        = grossOf input.priceInputMode input.vatRateBasisPoints (exactAmount input)
          - netOf input.priceInputMode input.vatRateBasisPoints (exactAmount input) := rfl
    exact ⟨hbase, by omega, by omega, by omega, hgross, fun _ h => absurd h List.not_mem_nil⟩

/-- The program returns the exact line, and returns it when it can. -/
theorem calculateInvoiceLine_eq_ok {line : CalculatedInvoiceLine} :
    calculateInvoiceLine input = .ok line
      ↔ InRange input
        ∧ (∀ amount ∈ lineResults (exactLine input).toLineAmounts, amount ≤ maximumSafeInteger)
        ∧ line = exactLine input := by
  simp only [calculateInvoiceLine, bind_eq_ok, exists_const, requireNonNegativeSafeInteger_eq_ok,
    calculateInvoiceLineBase_eq_ok]
  constructor
  · rintro ⟨hrate, _, ⟨hquantity, hprice, hbase, hdiscount, rfl⟩, h⟩
    have hrange : InRange input := ⟨hquantity, hprice, hrate, hdiscount⟩
    refine ⟨hrange, ?_⟩
    rw [lineResults_le hrange, exactLine_eq hrate.1]
    cases hmode : input.priceInputMode with
    | net =>
        simp only [hmode, bind_eq_ok, throwIf_eq_ok, exists_const, pure_eq_ok, roundHalfUp_eq_ok,
          Decidable.not_not] at h
        obtain ⟨_, ⟨-, -, rfl, -⟩, hsafe, rfl⟩ := h
        refine ⟨⟨hbase, hsafe.2⟩, ?_⟩
        rw [vatOf, grossOf, netOf, add_sub_cancel_left]
        rfl
    | gross =>
        simp only [hmode, bind_eq_ok, pure_eq_ok, roundHalfUp_eq_ok] at h
        obtain ⟨_, ⟨-, -, rfl, -⟩, rfl⟩ := h
        exact ⟨⟨hbase, (exactAmount_nonneg hrange hbase).2⟩, rfl⟩
  · rintro ⟨hrange, hfits, rfl⟩
    obtain ⟨hbase, hgross⟩ := (lineResults_le hrange).mp hfits
    have hrate := hrange.rate.1
    have hamount := (exactAmount_nonneg hrange hbase).1
    refine ⟨hrange.rate, _, ⟨hrange.quantity, hrange.price, hbase, hrange.discount, rfl⟩, ?_⟩
    rw [exactLine_eq hrate]
    cases hmode : input.priceInputMode with
    | net =>
        rw [hmode, grossOf] at hgross
        have hvat : 0 ≤ halfUp (exactAmount input * input.vatRateBasisPoints) 10000 :=
          halfUp_nonneg (by decide) (Int.mul_nonneg hamount hrate)
        simp only [bind_eq_ok, throwIf_eq_ok, exists_const, pure_eq_ok, roundHalfUp_eq_ok,
          Decidable.not_not]
        refine ⟨_, ⟨Int.mul_nonneg hamount hrate, by decide, rfl, ?_⟩, ⟨?_, hgross⟩, ?_⟩
        · unfold exactAmount at *
          omega
        · unfold exactAmount maximumSafeInteger at *
          omega
        · rw [vatOf, grossOf, netOf, add_sub_cancel_left]
          rfl
    | gross =>
        rw [hmode, grossOf] at hgross
        have hnet : 0 ≤ netOf .gross input.vatRateBasisPoints (exactAmount input) :=
          netOf_nonneg hrate hamount
        have hvat : 0 ≤ vatOf .gross input.vatRateBasisPoints (exactAmount input) :=
          vatOf_nonneg hrate hamount
        have hsplit : vatOf .gross input.vatRateBasisPoints (exactAmount input)
            = exactAmount input - netOf .gross input.vatRateBasisPoints (exactAmount input) := rfl
        simp only [bind_eq_ok, pure_eq_ok, roundHalfUp_eq_ok]
        exact ⟨netOf .gross input.vatRateBasisPoints (exactAmount input),
          ⟨Int.mul_nonneg hamount (by decide), by omega, rfl, by omega⟩, rfl⟩

/-! ## Rows and totals -/

theorem exactRow_eq {lines : List LineAmounts} (hone : OneModePerRate lines) (hrate : 0 ≤ rate) :
    exactRow lines rate = rowOf lines rate := by
  have hmode : ∀ x ∈ lines, x.vatRateBasisPoints = rate →
      x.priceInputMode = modeOn rate lines := by
    rintro x hx rfl
    exact (modeOn_of_mem hone hx).symm
  have hamount : (match modeOn rate lines with
      | .net => sumOn (·.netCents) rate lines
      | .gross => sumOn (·.grossCents) rate lines) = sumOn (·.inputCents) rate lines := by
    cases h : modeOn rate lines with
    | net =>
        rw [h] at hmode
        exact (sumOn_input_net hmode).symm
    | gross =>
        rw [h] at hmode
        exact (sumOn_input_gross hmode).symm
  unfold exactRow rowOf
  dsimp only
  rw [hamount, exactSplit_eq hrate]

/-- Net and VAT of a reference row make its gross amount. -/
theorem exactRow_reconciled (lines : List LineAmounts) (rate : ℤ) :
    (exactRow lines rate).netCents + (exactRow lines rate).vatCents
      = (exactRow lines rate).grossCents := by
  unfold exactRow
  cases modeOn rate lines with
  | net => rfl
  | gross => exact add_sub_cancel _ _

theorem exactLine_reconciled (input : InvoiceLineCalculationInput) :
    (exactLine input).netCents + (exactLine input).vatCents = (exactLine input).grossCents := by
  unfold exactLine
  cases input.priceInputMode with
  | net => rfl
  | gross => exact add_sub_cancel _ _

theorem exactTotals_reconciled (lines : List LineAmounts) :
    (exactTotals lines).netTotalCents + (exactTotals lines).vatTotalCents
      = (exactTotals lines).grossTotalCents := by
  show (((ratesOf lines).map (exactRow lines)).map (·.netCents)).sum
      + (((ratesOf lines).map (exactRow lines)).map (·.vatCents)).sum
    = (((ratesOf lines).map (exactRow lines)).map (·.grossCents)).sum
  rw [← List.sum_map_add]
  refine congrArg List.sum (List.map_congr_left fun row hrow => ?_)
  obtain ⟨rate, -, rfl⟩ := List.mem_map.mp hrow
  exact exactRow_reconciled lines rate

/-- The amounts of the exact lines. -/
def exactAmounts (inputs : List InvoiceLineCalculationInput) : List LineAmounts :=
  (inputs.map exactLine).map (·.toLineAmounts)

theorem mem_exactAmounts {inputs : List InvoiceLineCalculationInput} {x : LineAmounts} :
    x ∈ exactAmounts inputs ↔ ∃ input ∈ inputs, (exactLine input).toLineAmounts = x := by
  simp only [exactAmounts, List.map_map, List.mem_map, Function.comp_apply]

/-- Lines in range pass the check in front of the totals. -/
theorem validate_exactLine (h : InRange input)
    (hfits : ∀ amount ∈ lineResults (exactLine input).toLineAmounts,
      amount ≤ maximumSafeInteger) :
    validateCalculatedInvoiceLine (exactLine input).toLineAmounts = .ok () := by
  have hpriced := (calculateInvoiceLine_spec (calculateInvoiceLine_eq_ok.mpr ⟨h, hfits, rfl⟩)).1
  have hreconciled := hpriced.reconciled
  refine validateCalculatedInvoiceLine_eq_ok.mpr ⟨hpriced.rate, hpriced.base,
    ⟨hpriced.discount_nonneg, hfits _ ?_⟩, ⟨hreconciled.1, hfits _ ?_⟩,
    ⟨hreconciled.2.1, hfits _ ?_⟩, ⟨hreconciled.gross_nonneg, hpriced.gross_le⟩,
    hreconciled.2.2⟩
  · simp [lineResults]
  · simp [lineResults]
  · simp [lineResults]

/-- The lines of one rate have one price input mode. -/
def ModesAgree (inputs : List InvoiceLineCalculationInput) : Prop :=
  ∀ x ∈ inputs, ∀ y ∈ inputs, x.vatRateBasisPoints = y.vatRateBasisPoints →
    x.priceInputMode = y.priceInputMode

theorem oneModePerRate_exactAmounts {inputs : List InvoiceLineCalculationInput} :
    OneModePerRate (exactAmounts inputs) ↔ ModesAgree inputs := by
  constructor
  · intro h x hx y hy hrate
    exact h _ (mem_exactAmounts.mpr ⟨x, hx, rfl⟩) _ (mem_exactAmounts.mpr ⟨y, hy, rfl⟩) hrate
  · intro h x hx y hy hrate
    obtain ⟨first, hfirst, rfl⟩ := mem_exactAmounts.mp hx
    obtain ⟨second, hsecond, rfl⟩ := mem_exactAmounts.mp hy
    exact h first hfirst second hsecond hrate

/-- What it takes for all amounts of a result to be in range. -/
theorem fits_iff : result.Fits
      ↔ (∀ line ∈ result.lines, ∀ amount ∈ lineResults line.toLineAmounts,
          amount ≤ maximumSafeInteger)
        ∧ (∀ row ∈ result.totals.vatBreakdown, row.netCents ≤ maximumSafeInteger
          ∧ row.vatCents ≤ maximumSafeInteger ∧ row.grossCents ≤ maximumSafeInteger)
        ∧ result.totals.netTotalCents ≤ maximumSafeInteger
        ∧ result.totals.vatTotalCents ≤ maximumSafeInteger
        ∧ result.totals.grossTotalCents ≤ maximumSafeInteger := by
  simp only [InvoiceResult.Fits, InvoiceResult.amounts, List.forall_mem_append,
    List.forall_mem_flatMap, List.forall_mem_cons, List.not_mem_nil, false_implies,
    implies_true, and_true, and_assoc]

/-! ## The program and the reference -/

theorem exactTotals_eq {inputs : List InvoiceLineCalculationInput}
    (hrange : ∀ input ∈ inputs, InRange input) (hmodes : ModesAgree inputs) :
    exactTotals (exactAmounts inputs)
      = totalsOf ((ratesOf (exactAmounts inputs)).map (rowOf (exactAmounts inputs))) := by
  refine congrArg totalsOf (List.map_congr_left fun rate hrate => ?_)
  obtain ⟨x, hx, rfl⟩ := mem_ratesOf.mp hrate
  obtain ⟨input, hinput, rfl⟩ := mem_exactAmounts.mp hx
  exact exactRow_eq (oneModePerRate_exactAmounts.mpr hmodes) (hrange input hinput).rate.1

/-- Net and VAT of a row are in range when its gross amount is. -/
theorem rowOf_le {inputs : List InvoiceLineCalculationInput}
    (hrange : ∀ input ∈ inputs, InRange input)
    (hfits : ∀ input ∈ inputs, ∀ amount ∈ lineResults (exactLine input).toLineAmounts,
      amount ≤ maximumSafeInteger) (hrate : rate ∈ ratesOf (exactAmounts inputs))
    (hgross : (rowOf (exactAmounts inputs) rate).grossCents ≤ maximumSafeInteger) :
    (rowOf (exactAmounts inputs) rate).netCents ≤ maximumSafeInteger
      ∧ (rowOf (exactAmounts inputs) rate).vatCents ≤ maximumSafeInteger := by
  have hamounts : ∀ x ∈ exactAmounts inputs, 0 ≤ x.vatRateBasisPoints ∧ 0 ≤ x.inputCents := by
    intro x hx
    obtain ⟨input, hinput, rfl⟩ := mem_exactAmounts.mp hx
    have hpriced := (calculateInvoiceLine_spec
      (calculateInvoiceLine_eq_ok.mpr ⟨hrange input hinput, hfits input hinput, rfl⟩)).1
    exact ⟨hpriced.rate.1, hpriced.input_nonneg⟩
  obtain ⟨x, hx, rfl⟩ := mem_ratesOf.mp hrate
  have hrate0 := (hamounts x hx).1
  have hinput : 0 ≤ sumOn (·.inputCents) x.vatRateBasisPoints (exactAmounts inputs) :=
    sumOn_nonneg fun y hy => (hamounts y hy).2
  have hnet := @netOf_nonneg (modeOn x.vatRateBasisPoints (exactAmounts inputs)) _ _ hrate0 hinput
  have hvat := @vatOf_nonneg (modeOn x.vatRateBasisPoints (exactAmounts inputs)) _ _ hrate0 hinput
  simp only [rowOf, vatOf] at hnet hvat hgross ⊢
  omega

/-- **EXACTNESS**: the program returns the exact invoice and nothing else, and it returns
    exactly when the inputs are in range, the modes agree and the exact result fits. -/
theorem calculateLinesAndTotals_eq_ok {inputs : List InvoiceLineCalculationInput} :
    calculateLinesAndTotals inputs = .ok result
      ↔ (∀ input ∈ inputs, InRange input) ∧ ModesAgree inputs ∧ (exactInvoice inputs).Fits
        ∧ result = exactInvoice inputs := by
  rw [calculateLinesAndTotals]
  simp only [bind_eq_ok, pure_eq_ok]
  constructor
  · rintro ⟨lines, hlines, totals, htotals, rfl⟩
    obtain rfl : lines = inputs.map exactLine :=
      mapM_map_of_ok hlines fun input line _ h => (calculateInvoiceLine_eq_ok.mp h).2.2
    have heach : ∀ input ∈ inputs, InRange input
        ∧ ∀ amount ∈ lineResults (exactLine input).toLineAmounts,
          amount ≤ maximumSafeInteger := by
      intro input hinput
      obtain ⟨line, -, hline⟩ := exists_of_mapM_ok hlines hinput
      obtain ⟨hrange, hfits, -⟩ := calculateInvoiceLine_eq_ok.mp hline
      exact ⟨hrange, hfits⟩
    have hrange := fun input hinput => (heach input hinput).1
    obtain ⟨hone, htotalsEq, hrows, hnet, hvat, hgross⟩ := calculateInvoiceTotals_spec htotals
    have hmodes := oneModePerRate_exactAmounts.mp hone
    have hexact : totals = exactTotals (exactAmounts inputs) :=
      htotalsEq.trans (exactTotals_eq hrange hmodes).symm
    refine ⟨hrange, hmodes, fits_iff.mpr ⟨?_, ?_, ?_⟩, ?_⟩
    · intro line hline
      obtain ⟨input, hinput, rfl⟩ := List.mem_map.mp hline
      exact (heach input hinput).2
    · intro row hrow
      have hrow : row ∈ (ratesOf (exactAmounts inputs)).map (rowOf (exactAmounts inputs)) := by
        show row ∈ (totalsOf _).vatBreakdown
        rw [← exactTotals_eq hrange hmodes]
        exact hrow
      obtain ⟨rate, hrate, rfl⟩ := List.mem_map.mp hrow
      have hle := rowOf_le hrange (fun input hinput => (heach input hinput).2) hrate
        (hrows rate hrate)
      exact ⟨hle.1, hle.2, hrows rate hrate⟩
    · show (exactTotals (exactAmounts inputs)).netTotalCents ≤ _
        ∧ (exactTotals (exactAmounts inputs)).vatTotalCents ≤ _
        ∧ (exactTotals (exactAmounts inputs)).grossTotalCents ≤ _
      rw [← hexact]
      exact ⟨hnet, hvat, hgross⟩
    · rw [hexact]
      rfl
  · rintro ⟨hrange, hmodes, hfits, rfl⟩
    obtain ⟨hlines, hrows, hnet, hvat, hgross⟩ := fits_iff.mp hfits
    have hfitsLine : ∀ input ∈ inputs,
        ∀ amount ∈ lineResults (exactLine input).toLineAmounts, amount ≤ maximumSafeInteger :=
      fun input hinput => hlines _ (List.mem_map_of_mem (f := exactLine) hinput)
    refine ⟨inputs.map exactLine, mapM_eq_ok_map fun input hinput =>
      calculateInvoiceLine_eq_ok.mpr ⟨hrange input hinput, hfitsLine input hinput, rfl⟩,
      exactTotals (exactAmounts inputs), ?_, rfl⟩
    refine (calculateInvoiceTotals_eq_ok fun x hx => ?_).mpr
      ⟨oneModePerRate_exactAmounts.mpr hmodes, exactTotals_eq hrange hmodes, ?_,
        hnet, hvat, hgross⟩
    · obtain ⟨input, hinput, rfl⟩ := mem_exactAmounts.mp hx
      exact validate_exactLine (hrange input hinput) (hfitsLine input hinput)
    · intro rate hrate
      have hrow := hrows (rowOf (exactAmounts inputs) rate) (by
        show _ ∈ (exactTotals (exactAmounts inputs)).vatBreakdown
        rw [exactTotals_eq hrange hmodes]
        exact List.mem_map_of_mem hrate)
      exact hrow.2.2

/-! ## The order of the lines -/

variable {inputs inputs' : List InvoiceLineCalculationInput}

theorem exactTotals_perm (h : inputs.Perm inputs') (hrange : ∀ input ∈ inputs, InRange input)
    (hmodes : ModesAgree inputs) :
    exactTotals (exactAmounts inputs') = exactTotals (exactAmounts inputs) := by
  have hrange' : ∀ input ∈ inputs', InRange input := fun input hinput =>
    hrange input (h.mem_iff.mpr hinput)
  have hmodes' : ModesAgree inputs' := fun x hx y hy =>
    hmodes x (h.mem_iff.mpr hx) y (h.mem_iff.mpr hy)
  have hamounts : (exactAmounts inputs).Perm (exactAmounts inputs') := (h.map _).map _
  rw [exactTotals_eq hrange hmodes, exactTotals_eq hrange' hmodes', ← ratesOf_perm hamounts]
  refine congrArg totalsOf (List.map_congr_left fun rate hrate => ?_)
  exact (rowOf_perm hamounts (oneModePerRate_exactAmounts.mpr hmodes) hrate).symm

/-- Another order of the lines gives the lines in that order and the same totals. -/
theorem calculateLinesAndTotals_perm (h : inputs.Perm inputs')
    (hresult : calculateLinesAndTotals inputs = .ok result) :
    ∃ result', calculateLinesAndTotals inputs' = .ok result'
      ∧ result.lines.Perm result'.lines ∧ result'.totals = result.totals := by
  obtain ⟨hrange, hmodes, hfits, rfl⟩ := calculateLinesAndTotals_eq_ok.mp hresult
  have htotals : (exactInvoice inputs').totals = (exactInvoice inputs).totals :=
    exactTotals_perm h hrange hmodes
  have hlines : (exactInvoice inputs).lines.Perm (exactInvoice inputs').lines := h.map exactLine
  refine ⟨exactInvoice inputs', calculateLinesAndTotals_eq_ok.mpr
    ⟨fun input hinput => hrange input (h.mem_iff.mpr hinput),
      fun x hx y hy => hmodes x (h.mem_iff.mpr hx) y (h.mem_iff.mpr hy), ?_, rfl⟩,
    hlines, htotals⟩
  rw [fits_iff] at hfits ⊢
  rw [htotals]
  exact ⟨fun line hline => hfits.1 line (hlines.mem_iff.mpr hline), hfits.2⟩

/-! ## The result -/

/-- For every list of lines: the program returns the exact invoice, and returns it exactly when
    the inputs are in range, lines of one rate have one price input mode and no exact result
    exceeds the safe range.  In the exact invoice net and VAT make gross in every line, row and
    in the totals, which are the sums of the rows.  The order of the lines does not matter. -/
theorem invoice_is_exact (inputs : List InvoiceLineCalculationInput) :
    (∀ result, calculateLinesAndTotals inputs = .ok result
      ↔ (∀ input ∈ inputs, InRange input) ∧ ModesAgree inputs ∧ (exactInvoice inputs).Fits
        ∧ result = exactInvoice inputs)
    ∧ (∀ line ∈ (exactInvoice inputs).lines, line.netCents + line.vatCents = line.grossCents)
    ∧ (∀ row ∈ (exactInvoice inputs).totals.vatBreakdown,
        row.netCents + row.vatCents = row.grossCents)
    ∧ (exactInvoice inputs).totals = totalsOf (exactInvoice inputs).totals.vatBreakdown
    ∧ (exactInvoice inputs).totals.netTotalCents + (exactInvoice inputs).totals.vatTotalCents
        = (exactInvoice inputs).totals.grossTotalCents
    ∧ ∀ inputs', inputs.Perm inputs' → ∀ result, calculateLinesAndTotals inputs = .ok result →
        ∃ result', calculateLinesAndTotals inputs' = .ok result'
          ∧ result.lines.Perm result'.lines ∧ result'.totals = result.totals := by
  refine ⟨fun result => calculateLinesAndTotals_eq_ok, fun line hline => ?_, fun row hrow => ?_,
    rfl, exactTotals_reconciled _, fun inputs' h result => calculateLinesAndTotals_perm h⟩
  · obtain ⟨input, -, rfl⟩ := List.mem_map.mp hline
    exact exactLine_reconciled input
  · obtain ⟨rate, -, rfl⟩ := List.mem_map.mp hrow
    exact exactRow_reconciled _ rate

/-- A net price and a gross price at one rate. -/
def mixedModes : List InvoiceLineCalculationInput :=
  [⟨100, 1000, 2550, .net, .none⟩, ⟨100, 1255, 2550, .gross, .none⟩]

/-- Every input is in its range and every exact result fits, but the modes of a rate differ. -/
theorem mixed_modes_rejected :
    (∀ input ∈ mixedModes, InRange input) ∧ (exactInvoice mixedModes).Fits
      ∧ calculateLinesAndTotals mixedModes = .error
        (.calculation "Invoice lines with the same VAT rate must use one price input mode.") := by
  refine ⟨?_, ?_, by decide⟩
  · refine List.forall_mem_cons.mpr ⟨⟨by decide, by decide, by decide, trivial⟩, ?_⟩
    exact List.forall_mem_cons.mpr ⟨⟨by decide, by decide, by decide, trivial⟩,
      fun _ h => absurd h List.not_mem_nil⟩
  · show ∀ amount ∈ (exactInvoice mixedModes).amounts, amount ≤ maximumSafeInteger
    decide +kernel

end ExactInvoice
