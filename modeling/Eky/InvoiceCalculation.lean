import Eky.VatGroups
import Mathlib.Algebra.BigOperators.Group.Finset.Basic

/-! # Invoice totals — from priced lines to the VAT breakdown

    - `calculateInvoiceLine` prices one line; `calculateInvoiceLine_spec` says
      that its net, VAT and gross are the split of base less discount;
    - `calculateInvoiceTotals` settles the VAT of every rate from the sum of the
      rate; `calculateInvoiceTotals_spec` gives the breakdown in closed form. -/

namespace InvoiceCalculation

open Fallible Apportionment OrderedMap InvoiceMoney VatGroups

/-! ## One line -/

/-- A line: base, discount, and tax by the input mode. -/
def calculateInvoiceLine (input : InvoiceLineCalculationInput) :
    Checked CalculatedInvoiceLine := do
  requireNonNegativeSafeInteger input.vatRateBasisPoints "VAT rate"
  -- `requirePriceInputMode` has nothing left to reject: the mode is an enumeration
  let base ← calculateInvoiceLineBase input.quantityHundredths input.unitPriceCents
    input.discount
  match input.priceInputMode with
  | .net => do
      let netCents := base.discountedBaseCents
      let vatCents ← roundHalfUp (netCents * input.vatRateBasisPoints) 10000
      let grossCents := netCents + vatCents
      throwIf (¬ IsSafeInteger grossCents)
        (.calculation "Calculated amount exceeds the safe integer range.")
      pure {
        quantityHundredths := input.quantityHundredths
        unitPriceCents := input.unitPriceCents
        vatRateBasisPoints := input.vatRateBasisPoints
        priceInputMode := input.priceInputMode
        baseCents := base.baseCents
        discountCents := base.discountCents
        netCents, vatCents, grossCents }
  | .gross => do
      let grossCents := base.discountedBaseCents
      let netCents ← roundHalfUp (grossCents * 10000) (10000 + input.vatRateBasisPoints)
      let vatCents := grossCents - netCents
      pure {
        quantityHundredths := input.quantityHundredths
        unitPriceCents := input.unitPriceCents
        vatRateBasisPoints := input.vatRateBasisPoints
        priceInputMode := input.priceInputMode
        baseCents := base.baseCents
        discountCents := base.discountCents
        netCents, vatCents, grossCents }

/-- A line that was priced by the program: its input amount is base less
    discount and its net, VAT and gross are the split of that amount. -/
structure Priced (x : LineAmounts) : Prop where
  quantity : IsAmount x.quantityHundredths
  rate : IsAmount x.vatRateBasisPoints
  base : IsAmount x.baseCents
  discount_nonneg : 0 ≤ x.discountCents
  discount_le : x.discountCents ≤ x.baseCents
  input : x.inputCents = x.baseCents - x.discountCents
  net : x.netCents = netOf x.priceInputMode x.vatRateBasisPoints x.inputCents
  vat : x.vatCents = vatOf x.priceInputMode x.vatRateBasisPoints x.inputCents
  gross : x.grossCents = grossOf x.priceInputMode x.vatRateBasisPoints x.inputCents
  gross_le : x.grossCents ≤ maximumSafeInteger
  worthless : x.quantityHundredths = 0 → x.inputCents = 0

variable {byRate : OrderedMap Int MutableVatBreakdown} {x : LineAmounts} {rate : Int}

theorem Priced.input_nonneg (h : Priced x) : 0 ≤ x.inputCents := by
  have hle := h.discount_le
  rw [h.input]
  omega

theorem Priced.reconciled (h : Priced x) : Reconciled x := by
  refine ⟨?_, ?_, ?_⟩
  · rw [h.net]
    exact netOf_nonneg h.rate.1 h.input_nonneg
  · rw [h.vat]
    exact vatOf_nonneg h.rate.1 h.input_nonneg
  · rw [h.net, h.vat, h.gross, vatOf]
    omega

/-- **A PRICED LINE**: what every accepted line looks like. -/
theorem calculateInvoiceLine_spec {input : InvoiceLineCalculationInput}
    {c : CalculatedInvoiceLine} (h : calculateInvoiceLine input = .ok c) :
    Priced c.toLineAmounts
      ∧ c.quantityHundredths = input.quantityHundredths
      ∧ c.priceInputMode = input.priceInputMode
      ∧ c.vatRateBasisPoints = input.vatRateBasisPoints
      ∧ c.unitPriceCents = input.unitPriceCents
      ∧ c.baseCents = halfUp (input.unitPriceCents * input.quantityHundredths) 100 := by
  simp only [calculateInvoiceLine, bind_eq_ok, exists_const,
    requireNonNegativeSafeInteger_eq_ok] at h
  obtain ⟨hrate, base, hbase, h⟩ := h
  obtain ⟨hquantity, _, hbaseEq, hbaseAmount, hdiscount, hdiscountLe, hinput⟩ :=
    calculateInvoiceLineBase_spec hbase
  -- nothing is left of a line without quantity, whatever its price
  have hworthless : input.quantityHundredths = 0 → base.discountedBaseCents = 0 := by
    intro hq
    rw [hq, Int.mul_zero, halfUp_zero (by omega)] at hbaseEq
    omega
  cases hmode : input.priceInputMode with
  | net =>
      simp only [hmode, bind_eq_ok, throwIf_eq_ok, exists_const, pure_eq_ok,
        roundHalfUp_eq_ok, Decidable.not_not] at h
      obtain ⟨_, ⟨_, _, rfl, _⟩, hsafe, rfl⟩ := h
      refine ⟨⟨hquantity, hrate, hbaseAmount, hdiscount, hdiscountLe, hinput, rfl, ?_, rfl,
        hsafe.2, hworthless⟩, rfl, rfl, rfl, rfl, hbaseEq⟩
      show halfUp (base.discountedBaseCents * input.vatRateBasisPoints) 10000
        = base.discountedBaseCents
          + halfUp (base.discountedBaseCents * input.vatRateBasisPoints) 10000
          - base.discountedBaseCents
      omega
  | gross =>
      simp only [hmode, bind_eq_ok, pure_eq_ok, roundHalfUp_eq_ok] at h
      obtain ⟨_, ⟨_, _, rfl, _⟩, rfl⟩ := h
      have hmax := hbaseAmount.2
      refine ⟨⟨hquantity, hrate, hbaseAmount, hdiscount, hdiscountLe, hinput, rfl, rfl, rfl,
        ?_, hworthless⟩, rfl, rfl, rfl, rfl, hbaseEq⟩
      show base.discountedBaseCents ≤ maximumSafeInteger
      omega

/-! ## The totals of an invoice -/

/-- The row of a VAT rate. -/
structure InvoiceVatBreakdown where
  vatRateBasisPoints : Int
  netCents : Int
  vatCents : Int
  grossCents : Int
  deriving DecidableEq

/-- The totals of an invoice and its rows. -/
structure InvoiceTotals where
  netTotalCents : Int
  vatTotalCents : Int
  grossTotalCents : Int
  vatBreakdown : List InvoiceVatBreakdown
  deriving DecidableEq

/-- A row while it is summed. -/
structure MutableVatBreakdown where
  grossInputCents : Int
  mode : PriceInputMode
  netCents : Int
  deriving DecidableEq

/-- The value itself, if it is in the safe range. -/
def toSafeInteger (value : Int) : Checked Int := do
  throwIf (value > maximumSafeInteger)
    (.calculation "Calculated amount exceeds the safe integer range.")
  pure value

/-- The checks of a calculated line. -/
def validateCalculatedInvoiceLine (line : LineAmounts) : Checked Unit := do
  let monetaryValues := [line.baseCents, line.discountCents, line.netCents,
    line.vatCents, line.grossCents]
  throwIf (¬ IsSafeInteger line.vatRateBasisPoints ∨ line.vatRateBasisPoints < 0
      ∨ ∃ value ∈ monetaryValues, ¬ IsSafeInteger value ∨ value < 0)
    (.calculation "Calculated invoice line values must be non-negative safe integers.")
  throwIf (line.netCents + line.vatCents ≠ line.grossCents)
    (.calculation "Calculated invoice line net, VAT, and gross amounts do not reconcile.")

/-- Adds a line to the row of its rate. -/
def addToVatBreakdown (existingBreakdown : Option MutableVatBreakdown)
    (line : LineAmounts) : Checked MutableVatBreakdown :=
  match existingBreakdown with
  | some existing => do
      throwIf (existing.mode ≠ line.priceInputMode)
        (.calculation "Invoice lines with the same VAT rate must use one price input mode.")
      pure { existing with
        grossInputCents := existing.grossInputCents + line.grossCents
        netCents := existing.netCents + line.netCents }
  | none => pure ⟨line.grossCents, line.priceInputMode, line.netCents⟩

/-- The row of one entry of the breakdown map. -/
def settleVatRate (vatRateBasisPoints : Int) (breakdown : MutableVatBreakdown) :
    Checked InvoiceVatBreakdown :=
  match breakdown.mode with
  | .gross => do
      let grossCents ← toSafeInteger breakdown.grossInputCents
      let netCents ← roundHalfUp (grossCents * 10000) (10000 + vatRateBasisPoints)
      pure ⟨vatRateBasisPoints, netCents, grossCents - netCents, grossCents⟩
  | .net => do
      let netCents ← toSafeInteger breakdown.netCents
      let vatCents ← roundHalfUp (netCents * vatRateBasisPoints) 10000
      throwIf (¬ IsSafeInteger (netCents + vatCents))
        (.calculation "Calculated amount exceeds the safe integer range.")
      pure ⟨vatRateBasisPoints, netCents, vatCents, netCents + vatCents⟩

/-- The rows in the order of the rates. -/
def createVatBreakdown (breakdownByRate : OrderedMap Int MutableVatBreakdown) :
    Checked (List InvoiceVatBreakdown) :=
  breakdownByRate.sortedEntries.mapM fun (vatRateBasisPoints, breakdown) =>
    settleVatRate vatRateBasisPoints breakdown

/-- The totals of calculated lines. -/
def calculateInvoiceTotals (lines : List LineAmounts) : Checked InvoiceTotals := do
  let breakdownByRate ← groupM (·.vatRateBasisPoints)
    (fun existing line => do
      validateCalculatedInvoiceLine line
      addToVatBreakdown existing line) OrderedMap.empty lines
  let vatBreakdown ← createVatBreakdown breakdownByRate
  let netTotalCents ← toSafeInteger (vatBreakdown.map (·.netCents)).sum
  let vatTotalCents ← toSafeInteger (vatBreakdown.map (·.vatCents)).sum
  let grossTotalCents ← toSafeInteger (vatBreakdown.map (·.grossCents)).sum
  pure ⟨netTotalCents, vatTotalCents, grossTotalCents, vatBreakdown⟩

/-! ## The breakdown in closed form -/

/-- The rates of a list of lines in ascending order. -/
def ratesOf (lines : List LineAmounts) : List Int :=
  (appearance [] (lines.map (·.vatRateBasisPoints))).insertionSort (· ≤ ·)

/-- The mode of the first line of a rate. -/
def modeOn (rate : Int) (lines : List LineAmounts) : PriceInputMode :=
  match onRate rate lines with
  | line :: _ => line.priceInputMode
  | [] => .net

/-- The VAT of a rate, settled from the sum of its input amounts. -/
def rowOf (lines : List LineAmounts) (rate : Int) : InvoiceVatBreakdown :=
  let mode := modeOn rate lines
  let input := sumOn (·.inputCents) rate lines
  ⟨rate, netOf mode rate input, vatOf mode rate input, grossOf mode rate input⟩

/-- The totals of a breakdown. -/
def totalsOf (rows : List InvoiceVatBreakdown) : InvoiceTotals :=
  ⟨(rows.map (·.netCents)).sum, (rows.map (·.vatCents)).sum,
    (rows.map (·.grossCents)).sum, rows⟩

variable {lines : List LineAmounts}

theorem mem_ratesOf : rate ∈ ratesOf lines ↔ ∃ x ∈ lines, x.vatRateBasisPoints = rate := by
  rw [ratesOf, List.mem_insertionSort, mem_appearance, List.mem_map]
  simp

theorem nodup_ratesOf (lines : List LineAmounts) : (ratesOf lines).Nodup :=
  (List.perm_insertionSort _ _).nodup_iff.mpr (nodup_appearance List.nodup_nil)

/-- The rates do not depend on the order of the lines. -/
theorem ratesOf_perm {lines' : List LineAmounts} (h : lines.Perm lines') :
    ratesOf lines = ratesOf lines' := by
  have hperm : (ratesOf lines).Perm (ratesOf lines') := by
    refine (List.perm_ext_iff_of_nodup (nodup_ratesOf lines) (nodup_ratesOf lines')).mpr ?_
    intro rate
    simp only [mem_ratesOf, h.mem_iff]
  exact hperm.eq_of_sortedLE List.sortedLE_insertionSort List.sortedLE_insertionSort

theorem modeOn_of_mem (h : OneModePerRate lines) (hx : x ∈ lines) :
    modeOn x.vatRateBasisPoints lines = x.priceInputMode := by
  rw [modeOn]
  split
  · next line rest hline =>
    have hmem : line ∈ lines ∧ line.vatRateBasisPoints = x.vatRateBasisPoints :=
      mem_onRate.mp (hline ▸ List.mem_cons_self)
    exact h line hmem.1 x hx hmem.2
  · next hnil =>
    have hmem : x ∈ onRate x.vatRateBasisPoints lines := mem_onRate.mpr ⟨hx, rfl⟩
    exact nomatch hnil ▸ hmem

/-- Where the modes agree, neither does a row. -/
theorem rowOf_perm {lines' : List LineAmounts} (h : lines.Perm lines') (hone : OneModePerRate lines)
    (hrate : rate ∈ ratesOf lines) : rowOf lines rate = rowOf lines' rate := by
  obtain ⟨x, hx, rfl⟩ := mem_ratesOf.mp hrate
  have hone' : OneModePerRate lines' := fun y hy z hz =>
    hone y (h.mem_iff.mpr hy) z (h.mem_iff.mpr hz)
  rw [rowOf, rowOf, modeOn_of_mem hone hx, modeOn_of_mem hone' (h.mem_iff.mp hx), sumOn_perm h]

theorem toSafeInteger_eq_ok {value s : Int} :
    toSafeInteger value = .ok s ↔ value = s ∧ s ≤ maximumSafeInteger := by
  simp only [toSafeInteger, bind_eq_ok, throwIf_eq_ok, exists_const, pure_eq_ok]
  constructor
  · rintro ⟨h, rfl⟩; exact ⟨rfl, by omega⟩
  · rintro ⟨rfl, h⟩; exact ⟨by omega, rfl⟩

theorem validateCalculatedInvoiceLine_eq_ok {line : LineAmounts} {u : Unit} :
    validateCalculatedInvoiceLine line = .ok u ↔
      IsAmount line.vatRateBasisPoints ∧ IsAmount line.baseCents
        ∧ IsAmount line.discountCents ∧ IsAmount line.netCents
        ∧ IsAmount line.vatCents ∧ IsAmount line.grossCents
        ∧ line.netCents + line.vatCents = line.grossCents := by
  simp only [validateCalculatedInvoiceLine, bind_eq_ok, throwIf_eq_ok, exists_const,
    List.mem_cons, List.not_mem_nil, or_false, exists_eq_or_imp, exists_eq_left,
    isAmount_iff]
  tauto

/-- What collecting the lines of one rate leaves in the issuing path. -/
private theorem entryM_addToVatBreakdown {entry entry' : Option MutableVatBreakdown}
    {ys : List LineAmounts} (h : entryM addToVatBreakdown entry ys = .ok entry') :
    (∀ b, entry' = some b →
        b.netCents = (entry.map (·.netCents)).getD 0 + (ys.map (·.netCents)).sum
          ∧ b.grossInputCents
            = (entry.map (·.grossInputCents)).getD 0 + (ys.map (·.grossCents)).sum
          ∧ (∀ y ∈ ys, y.priceInputMode = b.mode)
          ∧ ∀ b₀, entry = some b₀ → b₀.mode = b.mode)
      ∧ (entry' = none → entry = none ∧ ys = []) := by
  induction ys generalizing entry with
  | nil =>
      have he : entry = entry' := pure_eq_ok.mp h
      subst he
      refine ⟨?_, fun hnone => ⟨hnone, rfl⟩⟩
      rintro b rfl
      exact ⟨by simp, by simp, fun y hy => (by cases hy), fun b₀ h₀ => by rw [Option.some.inj h₀]⟩
  | cons y rest ih =>
      obtain ⟨b₁, hstep, hrest⟩ := entryM_cons.mp h
      obtain ⟨ihsome, ihnone⟩ := ih hrest
      have hb₁ : b₁.mode = y.priceInputMode
          ∧ b₁.netCents = (entry.map (·.netCents)).getD 0 + y.netCents
          ∧ b₁.grossInputCents = (entry.map (·.grossInputCents)).getD 0 + y.grossCents
          ∧ ∀ b₀, entry = some b₀ → b₀.mode = b₁.mode := by
        cases entry with
        | none =>
            have hb : _ = b₁ := pure_eq_ok.mp hstep
            subst hb
            exact ⟨rfl, by simp, by simp, fun b₀ h₀ => (by cases h₀)⟩
        | some b₀ =>
            simp only [addToVatBreakdown, bind_eq_ok, throwIf_eq_ok, exists_const,
              pure_eq_ok, Decidable.not_not] at hstep
            obtain ⟨hmode, rfl⟩ := hstep
            exact ⟨hmode, rfl, rfl, fun b h => by rw [Option.some.inj h]⟩
      refine ⟨?_, fun hnone => by cases (ihnone hnone).1⟩
      intro b hb
      obtain ⟨hnet, hgross, hmodes, hfirst⟩ := ihsome b hb
      have hbmode : b₁.mode = b.mode := hfirst b₁ rfl
      have hnet' : b.netCents = b₁.netCents + (rest.map (·.netCents)).sum := hnet
      have hgross' : b.grossInputCents
          = b₁.grossInputCents + (rest.map (·.grossCents)).sum := hgross
      rw [List.map_cons, List.sum_cons, List.map_cons, List.sum_cons]
      refine ⟨by omega, by omega, ?_, fun b₀ h₀ => (hb₁.2.2.2 b₀ h₀).trans hbmode⟩
      intro z hz
      rcases List.mem_cons.mp hz with rfl | hz
      · exact hb₁.1.symm.trans hbmode
      · exact hmodes z hz

private theorem settleVatRate_spec {breakdown : MutableVatBreakdown} {input : Int}
    {row : InvoiceVatBreakdown} (h : settleVatRate rate breakdown = .ok row)
    (hnet : breakdown.mode = .net → breakdown.netCents = input)
    (hgross : breakdown.mode = .gross → breakdown.grossInputCents = input) :
    row = ⟨rate, netOf breakdown.mode rate input, vatOf breakdown.mode rate input,
        grossOf breakdown.mode rate input⟩
      ∧ row.grossCents ≤ maximumSafeInteger := by
  cases hmode : breakdown.mode with
  | net =>
      simp only [settleVatRate, hmode, bind_eq_ok, throwIf_eq_ok, exists_const,
        pure_eq_ok, toSafeInteger_eq_ok, roundHalfUp_eq_ok, Decidable.not_not,
        hnet hmode] at h
      obtain ⟨_, ⟨rfl, _⟩, _, ⟨_, _, rfl, _⟩, hsafe, rfl⟩ := h
      refine ⟨?_, hsafe.2⟩
      simp only [netOf, vatOf, grossOf, InvoiceVatBreakdown.mk.injEq, true_and, and_true]
      omega
  | gross =>
      simp only [settleVatRate, hmode, bind_eq_ok, pure_eq_ok, toSafeInteger_eq_ok,
        roundHalfUp_eq_ok, hgross hmode] at h
      obtain ⟨_, ⟨rfl, hmax⟩, _, ⟨_, _, rfl, _⟩, rfl⟩ := h
      exact ⟨rfl, hmax⟩

/-- A rate whose gross amount is in range is settled. -/
theorem settleVatRate_total {breakdown : MutableVatBreakdown} {input : Int} (hrate : 0 ≤ rate)
    (hinput : 0 ≤ input) (hmax : grossOf breakdown.mode rate input ≤ maximumSafeInteger)
    (hnet : breakdown.mode = .net → breakdown.netCents = input)
    (hgross : breakdown.mode = .gross → breakdown.grossInputCents = input) :
    settleVatRate rate breakdown = .ok ⟨rate, netOf breakdown.mode rate input,
      vatOf breakdown.mode rate input, grossOf breakdown.mode rate input⟩ := by
  have hvat0 : 0 ≤ vatOf breakdown.mode rate input := vatOf_nonneg hrate hinput
  have hnet0 : 0 ≤ netOf breakdown.mode rate input := netOf_nonneg hrate hinput
  have hle : input ≤ grossOf breakdown.mode rate input := input_le_grossOf hrate hinput
  have hsplit : vatOf breakdown.mode rate input
      = grossOf breakdown.mode rate input - netOf breakdown.mode rate input := rfl
  cases hmode : breakdown.mode with
  | net =>
      rw [hmode] at hmax hvat0 hle hsplit
      have hgrossOf : grossOf .net rate input = input + halfUp (input * rate) 10000 := rfl
      have hnetOf : netOf .net rate input = input := rfl
      simp only [settleVatRate, hmode, hnet hmode, bind_eq_ok, throwIf_eq_ok, exists_const,
        pure_eq_ok, toSafeInteger_eq_ok, roundHalfUp_eq_ok, Decidable.not_not,
        InvoiceVatBreakdown.mk.injEq]
      exact ⟨input, ⟨rfl, by omega⟩, _, ⟨Int.mul_nonneg hinput hrate, by omega, rfl, by omega⟩,
        ⟨by simp only [maximumSafeInteger] at *; omega, by omega⟩, trivial, rfl, by omega,
        rfl⟩
  | gross =>
      rw [hmode] at hmax hvat0 hnet0 hsplit
      have hgrossOf : grossOf .gross rate input = input := rfl
      simp only [settleVatRate, hmode, hgross hmode, bind_eq_ok, pure_eq_ok,
        toSafeInteger_eq_ok, roundHalfUp_eq_ok, InvoiceVatBreakdown.mk.injEq]
      exact ⟨input, ⟨rfl, by omega⟩, netOf .gross rate input,
        ⟨by omega, by omega, rfl, by omega⟩, trivial, rfl, rfl, rfl⟩

/-- What the loop over the lines leaves: the rates, each with its mode and the sum of its
    input amounts. -/
structure CollectsBreakdown (lines : List LineAmounts)
    (byRate : OrderedMap Int MutableVatBreakdown) : Prop where
  keys : byRate.sortedEntries.map Prod.fst = ratesOf lines
  mode : ∀ rate b, byRate.get? rate = some b → b.mode = modeOn rate lines
  net : ∀ rate b, byRate.get? rate = some b → b.mode = .net →
    b.netCents = sumOn (·.inputCents) rate lines
  gross : ∀ rate b, byRate.get? rate = some b → b.mode = .gross →
    b.grossInputCents = sumOn (·.inputCents) rate lines

private theorem collectsBreakdown_of_groupM
    (hgroup : groupM (·.vatRateBasisPoints) addToVatBreakdown OrderedMap.empty lines
      = .ok byRate) : OneModePerRate lines ∧ CollectsBreakdown lines byRate := by
  have hentry := fun r => entryM_addToVatBreakdown (groupM_get? hgroup r)
  have hmodes : ∀ x ∈ lines, ∃ b, byRate.get? x.vatRateBasisPoints = some b
      ∧ b.mode = x.priceInputMode := by
    intro x hx
    have hmem : x ∈ withKey (·.vatRateBasisPoints) x.vatRateBasisPoints lines :=
      mem_withKey.mpr ⟨hx, rfl⟩
    cases hb : byRate.get? x.vatRateBasisPoints with
    | none => exact nomatch ((hentry _).2 hb).2 ▸ hmem
    | some b => exact ⟨b, rfl, (((hentry _).1 b hb).2.2.1 x hmem).symm⟩
  have hone : OneModePerRate lines := by
    intro x hx y hy hrate
    obtain ⟨b, hb, hbx⟩ := hmodes x hx
    obtain ⟨b', hb', hby⟩ := hmodes y hy
    rw [hrate, hb'] at hb
    rw [← hbx, ← hby, Option.some.inj hb]
  have hsorted : byRate.sortedEntries.map Prod.fst = ratesOf lines := by
    rw [sortedEntries_keys, groupM_keys hgroup]
    rfl
  have hmode : ∀ rate b, byRate.get? rate = some b →
      ∀ x ∈ lines, x.vatRateBasisPoints = rate → x.priceInputMode = b.mode :=
    fun rate b hb x hx hr => ((hentry rate).1 b hb).2.2.1 x (mem_withKey.mpr ⟨hx, hr⟩)
  refine ⟨hone, hsorted, fun rate b hb => ?_, fun rate b hb h => ?_, fun rate b hb h => ?_⟩
  · have hrate : rate ∈ ratesOf lines :=
      hsorted ▸ List.mem_map.mpr ⟨(rate, b), mem_sortedEntries.mpr hb, rfl⟩
    obtain ⟨x, hx, hr⟩ := mem_ratesOf.mp hrate
    rw [← hmode rate b hb x hx hr, ← hr]
    exact (modeOn_of_mem hone hx).symm
  · have hnet := ((hentry rate).1 b hb).1
    rw [OrderedMap.get?_empty, Option.map_none, Option.getD_none, Int.zero_add] at hnet
    exact hnet.trans (sumOn_input_net fun x hx hr => h ▸ hmode rate b hb x hx hr).symm
  · have hgross := ((hentry rate).1 b hb).2.1
    rw [OrderedMap.get?_empty, Option.map_none, Option.getD_none, Int.zero_add] at hgross
    exact hgross.trans (sumOn_input_gross fun x hx hr => h ▸ hmode rate b hb x hx hr).symm

private theorem createVatBreakdown_spec {rows : List InvoiceVatBreakdown}
    (hcollects : CollectsBreakdown lines byRate) (h : createVatBreakdown byRate = .ok rows) :
    rows = (ratesOf lines).map (rowOf lines)
      ∧ ∀ rate ∈ ratesOf lines, (rowOf lines rate).grossCents ≤ maximumSafeInteger := by
  -- each entry settles to the row of its rate
  have hrow : ∀ e row, e ∈ byRate.sortedEntries → settleVatRate e.1 e.2 = .ok row →
      row = rowOf lines e.1 ∧ row.grossCents ≤ maximumSafeInteger := by
    rintro ⟨rate, b⟩ row he hrow
    have hb : byRate.get? rate = some b := mem_sortedEntries.mp he
    obtain ⟨hrowEq, hmax⟩ :=
      settleVatRate_spec hrow (hcollects.net rate b hb) (hcollects.gross rate b hb)
    exact ⟨by rw [hrowEq, rowOf, hcollects.mode rate b hb], hmax⟩
  refine ⟨?_, fun rate hrate => ?_⟩
  · rw [← hcollects.keys, List.map_map]
    exact mapM_map_of_ok h (fun e row he h => (hrow e row he h).1)
  · rw [← hcollects.keys] at hrate
    obtain ⟨e, he, rfl⟩ := List.mem_map.mp hrate
    obtain ⟨row, _, hsettle⟩ := exists_of_mapM_ok h he
    obtain ⟨hrowEq, hmax⟩ := hrow e row he hsettle
    exact hrowEq ▸ hmax

/-- **THE VAT OF AN INVOICE** is settled rate by rate from the sum of the rate. -/
theorem calculateInvoiceTotals_spec {totals : InvoiceTotals}
    (h : calculateInvoiceTotals lines = .ok totals) :
    OneModePerRate lines
      ∧ totals = totalsOf ((ratesOf lines).map (rowOf lines))
      ∧ (∀ rate ∈ ratesOf lines, (rowOf lines rate).grossCents ≤ maximumSafeInteger)
      ∧ totals.netTotalCents ≤ maximumSafeInteger
      ∧ totals.vatTotalCents ≤ maximumSafeInteger
      ∧ totals.grossTotalCents ≤ maximumSafeInteger := by
  simp only [calculateInvoiceTotals, bind_eq_ok, pure_eq_ok, toSafeInteger_eq_ok] at h
  obtain ⟨byRate, hgroup, rows, hrows, _, ⟨rfl, hnetMax⟩, _, ⟨rfl, hvatMax⟩, _,
    ⟨rfl, hgrossMax⟩, rfl⟩ := h
  obtain ⟨_, hgroup⟩ := groupM_checked.mp hgroup
  obtain ⟨hone, hcollects⟩ := collectsBreakdown_of_groupM hgroup
  obtain ⟨rfl, hrowMax⟩ := createVatBreakdown_spec hcollects hrows
  exact ⟨hone, rfl, hrowMax, hnetMax, hvatMax, hgrossMax⟩

/-! ## When the totals exist -/

/-- Collecting the lines of one mode gets through. -/
private theorem entryM_addToVatBreakdown_total {entry : Option MutableVatBreakdown}
    {ys : List LineAmounts} (mode : PriceInputMode) (hys : ∀ y ∈ ys, y.priceInputMode = mode)
    (hentry : ∀ b, entry = some b → b.mode = mode) :
    ∃ entry', entryM addToVatBreakdown entry ys = .ok entry' := by
  induction ys generalizing entry with
  | nil => exact ⟨entry, rfl⟩
  | cons y rest ih =>
      obtain ⟨hy, hrest⟩ := List.forall_mem_cons.mp hys
      have hstep : ∃ b, addToVatBreakdown entry y = .ok b ∧ b.mode = mode := by
        cases entry with
        | none => exact ⟨_, rfl, hy⟩
        | some b =>
            have hb := hentry b rfl
            rw [addToVatBreakdown, throwIf_of_not (not_not.mpr (hb.trans hy.symm))]
            exact ⟨_, rfl, hb⟩
      obtain ⟨b, hb, hmode⟩ := hstep
      obtain ⟨entry', hentry'⟩ : ∃ entry', entryM addToVatBreakdown (some b) rest = .ok entry' :=
        ih hrest fun b' h => Option.some.inj h ▸ hmode
      exact ⟨entry', entryM_cons.mpr ⟨b, hb, hentry'⟩⟩

private theorem groupM_addToVatBreakdown_total (hone : OneModePerRate lines) :
    ∃ byRate, groupM (·.vatRateBasisPoints) addToVatBreakdown OrderedMap.empty lines
      = .ok byRate := by
  refine groupM_total fun rate => ?_
  refine entryM_addToVatBreakdown_total (modeOn rate lines) (fun y hy => ?_)
    fun b h => (nomatch h)
  obtain ⟨hmem, rfl⟩ := mem_withKey.mp hy
  exact (modeOn_of_mem hone hmem).symm

private theorem createVatBreakdown_total (hcollects : CollectsBreakdown lines byRate)
    (hlines : ∀ x ∈ lines, 0 ≤ x.vatRateBasisPoints ∧ 0 ≤ x.inputCents)
    (hmax : ∀ rate ∈ ratesOf lines, (rowOf lines rate).grossCents ≤ maximumSafeInteger) :
    createVatBreakdown byRate = .ok ((ratesOf lines).map (rowOf lines)) := by
  obtain ⟨rows, hrows⟩ : ∃ rows, createVatBreakdown byRate = .ok rows := by
    refine mapM_total fun e he => ?_
    obtain ⟨rate, b⟩ := e
    have hb : byRate.get? rate = some b := mem_sortedEntries.mp he
    have hrate : rate ∈ ratesOf lines :=
      hcollects.keys ▸ List.mem_map.mpr ⟨(rate, b), he, rfl⟩
    obtain ⟨x, hx, hr⟩ := mem_ratesOf.mp hrate
    have hrow := hmax rate hrate
    rw [rowOf, ← hcollects.mode rate b hb] at hrow
    exact ⟨_, settleVatRate_total (hr ▸ (hlines x hx).1)
      (sumOn_nonneg fun y hy => (hlines y hy).2) hrow
      (hcollects.net rate b hb) (hcollects.gross rate b hb)⟩
  rw [hrows, (createVatBreakdown_spec hcollects hrows).1]

/-- The totals of well-formed lines exist exactly when the modes agree and no sum leaves the
    safe range. -/
theorem calculateInvoiceTotals_eq_ok {totals : InvoiceTotals}
    (hlines : ∀ x ∈ lines, validateCalculatedInvoiceLine x = .ok ()) :
    calculateInvoiceTotals lines = .ok totals
      ↔ OneModePerRate lines
        ∧ totals = totalsOf ((ratesOf lines).map (rowOf lines))
        ∧ (∀ rate ∈ ratesOf lines, (rowOf lines rate).grossCents ≤ maximumSafeInteger)
        ∧ totals.netTotalCents ≤ maximumSafeInteger
        ∧ totals.vatTotalCents ≤ maximumSafeInteger
        ∧ totals.grossTotalCents ≤ maximumSafeInteger := by
  refine ⟨calculateInvoiceTotals_spec, ?_⟩
  rintro ⟨hone, rfl, hrows, hnet, hvat, hgross⟩
  have hamounts : ∀ x ∈ lines, 0 ≤ x.vatRateBasisPoints ∧ 0 ≤ x.inputCents := by
    intro x hx
    obtain ⟨hrate, -, -, hnet, hvat, hgross, -⟩ :=
      validateCalculatedInvoiceLine_eq_ok.mp (hlines x hx)
    refine ⟨hrate.1, ?_⟩
    rw [LineAmounts.inputCents]
    split
    · exact hnet.1
    · exact hgross.1
  obtain ⟨byRate, hgroup⟩ := groupM_addToVatBreakdown_total hone
  have hbreakdown :=
    createVatBreakdown_total (collectsBreakdown_of_groupM hgroup).2 hamounts hrows
  simp only [calculateInvoiceTotals, bind_eq_ok, pure_eq_ok, toSafeInteger_eq_ok]
  exact ⟨byRate, groupM_checked.mpr ⟨hlines, hgroup⟩, _, hbreakdown, _, ⟨rfl, hnet⟩,
    _, ⟨rfl, hvat⟩, _, ⟨rfl, hgross⟩, rfl⟩

end InvoiceCalculation
