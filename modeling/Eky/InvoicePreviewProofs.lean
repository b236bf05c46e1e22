import Eky.InvoicePreview
import Eky.ReverseChargeProofs

/-! # The preview agrees with the backend

    - the rows: a row has preview totals exactly when the draft line that is sent is
      calculated by the backend, and they are the amounts of that line;
    - the breakdown: the two maps of the grouping loops are related value by value, so
      both loops return together;
    - the totals: the preview does not look at the gross amount of a rate, but at the sum,
      which is larger.

    `preview_agrees_with_backend` puts them together. -/

namespace InvoicePreview

open Fallible Apportionment OrderedMap InvoiceMoney InvoiceForm
open InvoiceCalculation (Priced calculateInvoiceLine calculateInvoiceTotals InvoiceTotals
  InvoiceVatBreakdown calculateInvoiceLine_spec)

/-! ## Rounding -/

theorem toSafeNumber_eq_ok {value s : Int} :
    toSafeNumber value = .ok s ↔ value = s ∧ s ≤ maximumSafeInteger := by
  simp only [toSafeNumber, bind_eq_ok, throwIf_eq_ok, exists_const, pure_eq_ok]
  constructor
  · rintro ⟨hmax, rfl⟩
    exact ⟨rfl, by omega⟩
  · rintro ⟨rfl, hmax⟩
    exact ⟨by omega, rfl⟩

variable {cs : List LineAmounts} {row : InvoiceRowForm}
  {rate gross d quantity price net vat : Int} {mode : PriceInputMode}
  {m : OrderedMap Int MutableVatBreakdown} {drafts : List InvoiceDraftLineInput}
  {taxTreatment : InvoiceTaxTreatment} {discount : InvoiceLineDiscount}
  {rows : List InvoiceRowForm} {totals : InvoiceDraftPreviewTotals} {line : PreviewLineTotals}

/-- Comparing twice the remainder rounds as adding half the denominator does. -/
theorem roundHalfUp_eq_ok {n r : Int} (hn : 0 ≤ n) (hd : 0 < d) :
    roundHalfUp n d = .ok r ↔ halfUp n d = r ∧ r ≤ maximumSafeInteger := by
  have hhalf : (if n.tmod d * 2 ≥ d then n.tdiv d + 1 else n.tdiv d) = halfUp n d := by
    rw [Int.tdiv_eq_ediv_of_nonneg hn, Int.tmod_eq_emod_of_nonneg hn, halfUp]
    have hsplit := Int.mul_ediv_add_emod n d
    have hmod := Int.emod_lt_of_pos n hd
    have hmod0 := Int.emod_nonneg n (Int.ne_of_gt hd)
    by_cases hup : n % d * 2 ≥ d
    · rw [if_pos hup]
      have hnext : d * (n / d + 1) = d * (n / d) + d := by rw [Int.mul_add, Int.mul_one]
      exact ((Int.ediv_emod_unique hd).mpr
        ⟨(by omega : (n % d + d / 2 - d) + d * (n / d + 1) = n + d / 2), by omega,
          by omega⟩).1.symm
    · rw [if_neg hup]
      exact ((Int.ediv_emod_unique hd).mpr
        ⟨(by omega : (n % d + d / 2) + d * (n / d) = n + d / 2), by omega, by omega⟩).1.symm
  rw [roundHalfUp, hhalf]
  exact toSafeNumber_eq_ok

/-- Both round alike. -/
theorem roundHalfUp_iff {n r : Int} (hn : 0 ≤ n) (hd : 0 < d) :
    roundHalfUp n d = .ok r ↔ InvoiceMoney.roundHalfUp n d = .ok r := by
  rw [roundHalfUp_eq_ok hn hd, InvoiceMoney.roundHalfUp_eq_ok]
  exact ⟨fun h => ⟨hn, hd, h⟩, fun h => h.2.2⟩

/-! ## The base of a row -/

/-- A discount that the form can hold. -/
def Parsed : InvoiceLineDiscount → Prop
  | .none => True
  | .percentage basisPoints => IsAmount basisPoints
  | .fixed amountCents => IsAmount amountCents

/-- The discounts of the preview: a percentage is one of at most a hundred. -/
def Bounded : InvoiceLineDiscount → Prop
  | .percentage basisPoints => basisPoints ≤ 10000
  | _ => True

theorem mapDiscount_parsed (h : mapDiscount row = .ok discount) : Parsed discount := by
  unfold mapDiscount at h
  split at h
  · rw [pure_eq_ok] at h
    subst h
    trivial
  · obtain ⟨basisPoints, hparse, heq⟩ := bind_eq_ok.mp h
    rw [pure_eq_ok] at heq
    subst heq
    exact parseScaledDecimal_amount (orThrow_eq_ok.mp hparse)
  · obtain ⟨amountCents, hparse, heq⟩ := bind_eq_ok.mp h
    rw [pure_eq_ok] at heq
    subst heq
    exact parseScaledDecimal_amount (orThrow_eq_ok.mp hparse)

theorem parsePreviewDiscount_eq_some : parsePreviewDiscount row = some discount ↔
      mapDiscount row = .ok discount ∧ Bounded discount := by
  unfold parsePreviewDiscount mapDiscount
  cases row.discountType with
  | none =>
      simp only [Option.some.injEq, pure_eq_ok]
      constructor
      · rintro rfl
        exact ⟨rfl, trivial⟩
      · exact fun h => h.1
  | percentage =>
      simp only [bind_eq_ok, orThrow_eq_ok, pure_eq_ok]
      cases hparse : parsePercentageBasisPoints row.discountValue with
      | none =>
          constructor
          · exact fun h => by cases h
          · rintro ⟨⟨_, h, _⟩, _⟩
            cases h
      | some basisPoints =>
          by_cases hmax : basisPoints > 10000
          · simp only [if_pos hmax]
            constructor
            · exact fun h => by cases h
            · rintro ⟨⟨_, h, rfl⟩, hbounded⟩
              obtain rfl := Option.some.inj h
              exact absurd hbounded (Int.not_le.mpr hmax)
          · simp only [if_neg hmax, Option.some.injEq]
            constructor
            · rintro rfl
              exact ⟨⟨basisPoints, rfl, rfl⟩, Int.not_lt.mp hmax⟩
            · rintro ⟨⟨_, h, rfl⟩, _⟩
              rw [h]
  | fixed =>
      simp only [bind_eq_ok, orThrow_eq_ok, pure_eq_ok, Option.map_eq_some_iff]
      constructor
      · rintro ⟨amountCents, hparse, rfl⟩
        exact ⟨⟨amountCents, hparse, rfl⟩, trivial⟩
      · exact fun h => h.1

theorem calculateDiscountCents_iff {base : Int} (hbase : 0 ≤ base) (hparsed : Parsed discount) :
    InvoiceMoney.calculateDiscountCents base discount = .ok d ↔
      Bounded discount ∧ calculateDiscountCents base discount = .ok d := by
  cases discount with
  | none =>
      simp only [InvoiceMoney.calculateDiscountCents, calculateDiscountCents, pure_eq_ok]
      exact ⟨fun h => ⟨trivial, h⟩, fun h => h.2⟩
  | percentage basisPoints =>
      have hproduct : 0 ≤ base * basisPoints := Int.mul_nonneg hbase hparsed.1
      simp only [InvoiceMoney.calculateDiscountCents, calculateDiscountCents, bind_eq_ok,
        throwIf_eq_ok, exists_const, requireNonNegativeSafeInteger_eq_ok,
        roundHalfUp_iff hproduct (by decide : (0 : Int) < 10000)]
      exact ⟨fun h => ⟨Int.not_lt.mp h.2.1, h.2.2⟩,
        fun h => ⟨hparsed, Int.not_lt.mpr h.1, h.2⟩⟩
  | fixed amountCents =>
      simp only [InvoiceMoney.calculateDiscountCents, calculateDiscountCents, bind_eq_ok,
        exists_const, requireNonNegativeSafeInteger_eq_ok, pure_eq_ok]
      exact ⟨fun h => ⟨trivial, h.2⟩, fun h => ⟨hparsed, h.2⟩⟩

/-- What is left of a row after its discount is the same on both sides. -/
theorem previewParsed_eq_ok (hquantity : IsAmount quantity) (hprice : IsAmount price)
    (hparsed : Parsed discount) :
    Bounded discount ∧ previewParsed row mode taxTreatment quantity price discount
        = .ok (some line) ↔
      ∃ base, calculateInvoiceLineBase quantity price discount = .ok base
        ∧ previewTaxed row mode taxTreatment base.discountedBaseCents = .ok (some line) := by
  have hproduct : 0 ≤ price * quantity := Int.mul_nonneg hprice.1 hquantity.1
  simp only [previewParsed, calculateInvoiceLineBase, bind_eq_ok, throwIf_eq_ok, exists_const,
    requireNonNegativeSafeInteger_eq_ok, roundHalfUp_iff hproduct (by decide : (0 : Int) < 100),
    pure_eq_ok]
  constructor
  · rintro ⟨hbounded, base, hbase, d, hd, h⟩
    obtain ⟨_, _, hhalf, _⟩ := InvoiceMoney.roundHalfUp_eq_ok.mp hbase
    have hbase0 : 0 ≤ base := hhalf ▸ halfUp_nonneg (by decide) hproduct
    by_cases hgreater : d > base
    · rw [if_pos hgreater, pure_eq_ok] at h
      cases h
    · rw [if_neg hgreater] at h
      exact ⟨_, ⟨hquantity, hprice, base, hbase, d,
        (calculateDiscountCents_iff hbase0 hparsed).mpr ⟨hbounded, hd⟩, hgreater, rfl⟩, h⟩
  · rintro ⟨_, ⟨_, _, base, hbase, d, hd, hgreater, rfl⟩, h⟩
    obtain ⟨_, _, hhalf, _⟩ := InvoiceMoney.roundHalfUp_eq_ok.mp hbase
    have hbase0 : 0 ≤ base := hhalf ▸ halfUp_nonneg (by decide) hproduct
    obtain ⟨hbounded, hd⟩ := (calculateDiscountCents_iff hbase0 hparsed).mp hd
    refine ⟨hbounded, base, hbase, d, hd, ?_⟩
    rw [if_neg hgreater]
    exact h

/-! ## Rows -/

theorem toPreviewLineTotals_eq_some {rate : Option Int} :
    toPreviewLineTotals rate mode gross net vat = some line ↔
      (IsSafeInteger gross ∧ IsSafeInteger net ∧ IsSafeInteger vat)
        ∧ line = ⟨gross, net, mode, vat, rate⟩ := by
  rw [toPreviewLineTotals]
  by_cases hsafe : IsSafeInteger gross ∧ IsSafeInteger net ∧ IsSafeInteger vat
  · rw [if_neg (by tauto), Option.some.injEq]
    exact ⟨fun h => ⟨hsafe, h.symm⟩, fun h => h.2.symm⟩
  · rw [if_pos (by tauto)]
    constructor
    · exact fun h => nomatch h
    · exact fun h => absurd h.1 hsafe

/-- The preview of a calculated line. -/
def linePreview (c : LineAmounts) : PreviewLineTotals :=
  ⟨c.grossCents, c.netCents, c.priceInputMode, c.vatCents, some c.vatRateBasisPoints⟩

theorem isAmount_discountedBase {base : InvoiceLineBaseCalculation}
    (h : calculateInvoiceLineBase quantity price discount = .ok base) :
    IsAmount base.discountedBaseCents := by
  obtain ⟨_, _, _, hbase, hdiscount, hle, hrest⟩ := calculateInvoiceLineBase_spec h
  rw [hrest]
  exact isAmount_sub hbase hle hdiscount

/-- A line with VAT is calculated exactly when it has preview totals, and they are its. -/
theorem calculateInvoiceLine_preview (hrate : IsAmount rate) :
    (∃ c, calculateInvoiceLine ⟨quantity, price, rate, mode, discount⟩ = .ok c
        ∧ line = linePreview c.toLineAmounts) ↔
      ∃ base, calculateInvoiceLineBase quantity price discount = .ok base
        ∧ previewNormalVat mode rate base.discountedBaseCents = .ok (some line) := by
  cases mode with
  | net =>
      simp only [calculateInvoiceLine, previewNormalVat, bind_eq_ok, throwIf_eq_ok,
        exists_const, pure_eq_ok, requireNonNegativeSafeInteger_eq_ok, Decidable.not_not,
        toPreviewLineTotals_eq_some]
      constructor
      · rintro ⟨c, ⟨_, base, hbase, vat, hvat, hsafe, rfl⟩, rfl⟩
        have hx := isAmount_discountedBase hbase
        have hproduct := Int.mul_nonneg hx.1 hrate.1
        obtain ⟨_, _, hhalf, hmax⟩ := InvoiceMoney.roundHalfUp_eq_ok.mp hvat
        have hvat0 : 0 ≤ vat := hhalf ▸ halfUp_nonneg (by decide) hproduct
        exact ⟨base, hbase, vat, (roundHalfUp_iff hproduct (by decide)).mpr hvat,
          ⟨hsafe, (isAmount_iff.mp hx).1, (isAmount_iff.mp ⟨hvat0, hmax⟩).1⟩, rfl⟩
      · rintro ⟨base, hbase, vat, hvat, ⟨hsafe, _, _⟩, rfl⟩
        have hx := isAmount_discountedBase hbase
        have hproduct := Int.mul_nonneg hx.1 hrate.1
        exact ⟨_, ⟨hrate, base, hbase, vat, (roundHalfUp_iff hproduct (by decide)).mp hvat,
          hsafe, rfl⟩, rfl⟩
  | gross =>
      simp only [calculateInvoiceLine, previewNormalVat, bind_eq_ok,
        exists_const, pure_eq_ok, requireNonNegativeSafeInteger_eq_ok,
        toPreviewLineTotals_eq_some]
      have hscale : 0 < 10000 + rate := Int.add_pos_of_pos_of_nonneg (by decide) hrate.1
      constructor
      · rintro ⟨c, ⟨_, base, hbase, net, hnet, rfl⟩, rfl⟩
        have hx := isAmount_discountedBase hbase
        have hproduct : 0 ≤ base.discountedBaseCents * 10000 :=
          Int.mul_nonneg hx.1 (by decide)
        obtain ⟨_, _, hhalf, hmax⟩ := InvoiceMoney.roundHalfUp_eq_ok.mp hnet
        have hnet0 : 0 ≤ net := hhalf ▸ halfUp_nonneg (Int.le_of_lt hscale) hproduct
        have hxMax := hx.2
        have hx0 := hx.1
        refine ⟨base, hbase, net, (roundHalfUp_iff hproduct hscale).mpr hnet,
          ⟨(isAmount_iff.mp hx).1, (isAmount_iff.mp ⟨hnet0, hmax⟩).1, ?_⟩, rfl⟩
        exact ⟨by omega, by omega⟩
      · rintro ⟨base, hbase, net, hnet, _, rfl⟩
        have hx := isAmount_discountedBase hbase
        have hproduct : 0 ≤ base.discountedBaseCents * 10000 :=
          Int.mul_nonneg hx.1 (by decide)
        exact ⟨_, ⟨hrate, base, hbase, net, (roundHalfUp_iff hproduct hscale).mp hnet,
          rfl⟩, rfl⟩

theorem previewTaxed_normalVat {x : Int} : previewTaxed row mode .normalVat x = .ok (some line) ↔
      ∃ rate, row.vatRateBasisPoints = some rate ∧ 0 < rate ∧ IsAmount rate
        ∧ previewNormalVat mode rate x = .ok (some line) := by
  unfold previewTaxed
  cases row.vatRateBasisPoints with
  | none =>
      constructor
      · exact fun h => nomatch h
      · rintro ⟨_, h, _⟩
        exact nomatch h
  | some rate =>
      simp only [Option.some.injEq]
      by_cases hrate : ¬ IsSafeInteger rate ∨ rate ≤ 0
      · rw [if_pos hrate]
        constructor
        · exact fun h => nomatch h
        · rintro ⟨_, rfl, hpos, hamount, _⟩
          rcases hrate with hrate | hrate
          · exact absurd (isAmount_iff.mp hamount).1 hrate
          · exact absurd hpos (Int.not_lt.mpr hrate)
      · rw [if_neg hrate]
        rw [not_or, Decidable.not_not] at hrate
        constructor
        · exact fun h => ⟨rate, rfl, by omega, isAmount_iff.mpr ⟨hrate.1, by omega⟩, h⟩
        · rintro ⟨_, rfl, _, _, h⟩
          exact h

/-- What a row has to be for its texts to be parsed on both sides. -/
theorem calculatePreviewLine_eq_ok : calculatePreviewLine mode taxTreatment row = .ok (some line) ↔
      ∃ quantity price discount, parseQuantityHundredths row.quantity = some quantity
        ∧ parseEuroCents row.unitPrice = some price ∧ mapDiscount row = .ok discount
        ∧ 0 < quantity ∧ ∃ base, calculateInvoiceLineBase quantity price discount = .ok base
          ∧ previewTaxed row mode taxTreatment base.discountedBaseCents = .ok (some line) := by
  unfold calculatePreviewLine
  constructor
  · intro h
    split at h
    · next quantity price discount hquantity hprice hdiscount =>
      obtain ⟨hmap, hbounded⟩ := parsePreviewDiscount_eq_some.mp hdiscount
      by_cases hzero : quantity ≤ 0
      · rw [if_pos hzero, pure_eq_ok] at h
        exact nomatch h
      · rw [if_neg hzero] at h
        exact ⟨quantity, price, discount, hquantity, hprice, hmap, Int.not_le.mp hzero,
          (previewParsed_eq_ok (parseScaledDecimal_amount hquantity)
            (parseScaledDecimal_amount hprice) (mapDiscount_parsed hmap)).mp ⟨hbounded, h⟩⟩
    · rw [pure_eq_ok] at h
      exact nomatch h
  · rintro ⟨quantity, price, discount, hquantity, hprice, hmap, hpos, hbase⟩
    obtain ⟨hbounded, hparsed⟩ := (previewParsed_eq_ok (parseScaledDecimal_amount hquantity)
      (parseScaledDecimal_amount hprice) (mapDiscount_parsed hmap)).mpr hbase
    have hdiscount := parsePreviewDiscount_eq_some.mpr ⟨hmap, hbounded⟩
    simp only [hquantity, hprice, hdiscount, if_neg (Int.not_le.mpr hpos)]
    exact hparsed

/-- **A ROW WITH VAT** has preview totals exactly when the line that is sent for it has a
    quantity and is calculated. -/
theorem previewLine_normalVat : calculatePreviewLine mode .normalVat row = .ok (some line) ↔
      ∃ draft c, mapInvoiceDraftLine .normalVat row = .ok draft
        ∧ 0 < draft.quantityHundredths ∧ calculateNormalVatLine mode draft = .ok c
        ∧ line = linePreview c.toLineAmounts := by
  rw [calculatePreviewLine_eq_ok]
  simp only [mapInvoiceDraftLine, calculateNormalVatLine, bind_eq_ok, throwIf_eq_ok,
    exists_const, orThrow_eq_ok, pure_eq_ok]
  constructor
  · rintro ⟨quantity, price, discount, hquantity, hprice, hdiscount, hpos, base, hbase, h⟩
    obtain ⟨rate, hvat, hrate, hamount, h⟩ := previewTaxed_normalVat.mp h
    obtain ⟨c, hc, hline⟩ := (calculateInvoiceLine_preview hamount).mpr ⟨base, hbase, h⟩
    refine ⟨_, c, ⟨quantity, hquantity, price, hprice, ?_, discount, hdiscount, rfl⟩, hpos,
      ⟨rate, hvat, by omega, hc⟩, hline⟩
    rintro ⟨_, hall⟩
    exact absurd (hall rate hvat) (Int.not_le.mpr hrate)
  · rintro ⟨draft, c, ⟨quantity, hquantity, price, hprice, hpositive, discount, hdiscount, rfl⟩,
      hpos, ⟨rate, hvat, _, hc⟩, hline⟩
    have hvat : row.vatRateBasisPoints = some rate := hvat
    have hrate : 0 < rate := by
      by_contra hnot
      refine hpositive ⟨trivial, fun r hr => ?_⟩
      rw [hvat, Option.mem_some_iff] at hr
      omega
    have hamount : IsAmount rate := by
      obtain ⟨hpriced, _, _, hr, _⟩ := calculateInvoiceLine_spec hc
      have hpricedRate := hpriced.rate
      rw [hr] at hpricedRate
      exact hpricedRate
    obtain ⟨base, hbase, h⟩ := (calculateInvoiceLine_preview hamount).mp ⟨c, hc, hline⟩
    exact ⟨quantity, price, discount, hquantity, hprice, hdiscount, hpos, base, hbase,
      previewTaxed_normalVat.mpr ⟨rate, hvat, hrate, hamount, h⟩⟩

/-- The preview of a line without VAT. -/
def untaxedPreview (c : ReverseCharge.CalculatedReverseChargeInvoiceLine) : PreviewLineTotals :=
  ⟨c.grossCents, c.netCents, c.priceInputMode, c.vatCents, none⟩

/-- The line of the backend under reverse charge. -/
def calculateUntaxedLine (mode : PriceInputMode) (draft : InvoiceDraftLineInput) :
    Checked ReverseCharge.CalculatedReverseChargeInvoiceLine := do
  let input ← reverseChargeInput mode draft
  ReverseCharge.calculateReverseChargeInvoiceLine input

theorem previewTaxed_reverseCharge {x : Int} (hx : IsAmount x) :
    previewTaxed row mode .reverseChargeConstruction x = .ok (some line) ↔
      row.vatRateBasisPoints = none ∧ mode = .net ∧ line = ⟨x, x, .net, 0, none⟩ := by
  have hsafe := (isAmount_iff.mp hx).1
  unfold previewTaxed
  cases row.vatRateBasisPoints with
  | none =>
      cases mode with
      | net =>
          simp only [pure_eq_ok, ne_eq, not_true_eq_false, if_false,
            toPreviewLineTotals_eq_some]
          exact ⟨fun h => ⟨trivial, trivial, h.2⟩,
            fun h => ⟨⟨hsafe, hsafe, (isAmount_iff.mp isAmount_zero).1⟩, h.2.2⟩⟩
      | gross =>
          constructor
          · exact fun h => by cases h
          · rintro ⟨_, hmode, _⟩
            cases hmode
  | some rate =>
      constructor
      · exact fun h => by cases h
      · rintro ⟨hnone, _⟩
        cases hnone

/-- **A ROW WITHOUT VAT** has preview totals exactly when it has no rate and the line that
    is sent for it has a quantity and is calculated. -/
theorem previewLine_reverseCharge :
    calculatePreviewLine mode .reverseChargeConstruction row = .ok (some line) ↔
      row.vatRateBasisPoints = none
        ∧ ∃ draft c, mapInvoiceDraftLine .reverseChargeConstruction row = .ok draft
          ∧ 0 < draft.quantityHundredths ∧ calculateUntaxedLine mode draft = .ok c
          ∧ line = untaxedPreview c := by
  rw [calculatePreviewLine_eq_ok]
  simp only [mapInvoiceDraftLine, calculateUntaxedLine, reverseChargeInput,
    ReverseCharge.calculateReverseChargeInvoiceLine, bind_eq_ok, throwIf_eq_ok, exists_const,
    orThrow_eq_ok, pure_eq_ok, Decidable.not_not]
  constructor
  · rintro ⟨quantity, price, discount, hquantity, hprice, hdiscount, hpos, base, hbase, h⟩
    obtain ⟨hvat, rfl, rfl⟩ :=
      (previewTaxed_reverseCharge (isAmount_discountedBase hbase)).mp h
    exact ⟨hvat, _, _, ⟨quantity, hquantity, price, hprice, (fun hmode => by cases hmode.1),
      discount, hdiscount, rfl⟩, hpos, ⟨_, ⟨rfl, rfl⟩, rfl, base, hbase, rfl⟩, rfl⟩
  · rintro ⟨hvat, draft, c, ⟨quantity, hquantity, price, hprice, _, discount, hdiscount, rfl⟩,
      hpos, ⟨_, ⟨_, rfl⟩, hmode, base, hbase, rfl⟩, rfl⟩
    exact ⟨quantity, price, discount, hquantity, hprice, hdiscount, hpos, base, hbase,
      (previewTaxed_reverseCharge (isAmount_discountedBase hbase)).mpr ⟨hvat, hmode, rfl⟩⟩

/-- The rows together: the loop collects what the draft lines are calculated to. -/
theorem collectPreviewLines_eq_ok {σ ε : Type} {calculate : InvoiceDraftLineInput → Except ε σ}
    {shown : σ → PreviewLineTotals} {sent : InvoiceRowForm → Prop}
    (hrow : ∀ row line, calculatePreviewLine mode taxTreatment row = .ok (some line) ↔
      sent row ∧ ∃ draft c, mapInvoiceDraftLine taxTreatment row = .ok draft
        ∧ 0 < draft.quantityHundredths ∧ calculate draft = .ok c ∧ line = shown c)
    {lines : List PreviewLineTotals} :
    collectPreviewLines mode taxTreatment rows = .ok (some lines) ↔
      (∀ row ∈ rows, sent row)
        ∧ ∃ drafts cs, rows.mapM (mapInvoiceDraftLine taxTreatment) = .ok drafts
          ∧ (∀ draft ∈ drafts, 0 < draft.quantityHundredths)
          ∧ drafts.mapM calculate = .ok cs ∧ lines = cs.map shown := by
  induction rows generalizing lines with
  | nil =>
      rw [collectPreviewLines, pure_eq_ok, Option.some.injEq]
      constructor
      · rintro rfl
        exact ⟨(fun row hrow => nomatch hrow), [], [], rfl, (fun d hd => nomatch hd), rfl, rfl⟩
      · rintro ⟨_, drafts, cs, hdrafts, _, hcs, rfl⟩
        obtain rfl : [] = drafts := pure_eq_ok.mp hdrafts
        obtain rfl : [] = cs := pure_eq_ok.mp hcs
        rfl
  | cons row rest ih =>
      rw [collectPreviewLines, bind_eq_ok]
      constructor
      · rintro ⟨line?, hline, h⟩
        cases line? with
        | none => exact nomatch h
        | some line =>
            obtain ⟨tail, htail, heq⟩ := bind_eq_ok.mp h
            rw [pure_eq_ok] at heq
            obtain ⟨others, rfl, rfl⟩ := Option.map_eq_some_iff.mp heq
            obtain ⟨hsent, draft, c, hdraft, hpos, hc, rfl⟩ := (hrow row line).mp hline
            obtain ⟨hall, drafts, cs, hdrafts, hposAll, hcs, rfl⟩ := ih.mp htail
            refine ⟨?_, draft :: drafts, c :: cs, ?_, ?_, ?_, rfl⟩
            · intro r hr
              rcases List.mem_cons.mp hr with rfl | hr
              · exact hsent
              · exact hall r hr
            · rw [List.mapM_cons, hdraft, hdrafts]
              rfl
            · intro d hd
              rcases List.mem_cons.mp hd with rfl | hd
              · exact hpos
              · exact hposAll d hd
            · rw [List.mapM_cons, hc, hcs]
              rfl
      · rintro ⟨hall, drafts, cs, hdrafts, hposAll, hcs, rfl⟩
        rw [List.mapM_cons] at hdrafts
        obtain ⟨draft, hdraft, h⟩ := bind_eq_ok.mp hdrafts
        obtain ⟨tail, htail, heq⟩ := bind_eq_ok.mp h
        rw [pure_eq_ok] at heq
        subst heq
        rw [List.mapM_cons] at hcs
        obtain ⟨c, hc, h'⟩ := bind_eq_ok.mp hcs
        obtain ⟨others, hothers, heq⟩ := bind_eq_ok.mp h'
        rw [pure_eq_ok] at heq
        subst heq
        have hline := (hrow row (shown c)).mpr ⟨hall row List.mem_cons_self, draft, c, hdraft,
          hposAll draft List.mem_cons_self, hc, rfl⟩
        have hrest := ih.mpr ⟨(fun r hr => hall r (List.mem_cons_of_mem _ hr)), tail, others,
          htail, (fun d hd => hposAll d (List.mem_cons_of_mem _ hd)), hothers, rfl⟩
        exact ⟨some (shown c), hline, bind_eq_ok.mpr ⟨_, hrest, rfl⟩⟩

/-! ## The breakdown -/

/-- What the backend keeps of an entry of the preview. -/
def issued (breakdown : MutableVatBreakdown) : InvoiceCalculation.MutableVatBreakdown :=
  ⟨breakdown.grossInputCents, breakdown.priceInputMode, breakdown.netCents⟩

/-- The row that the backend issues for one of the preview. -/
def issuedRow (row : InvoiceDraftPreviewVatBreakdown) : InvoiceVatBreakdown :=
  ⟨row.vatRateBasisPoints, row.netCents, row.vatCents, row.grossCents⟩

/-- The loop over rows with VAT fills the breakdown alone. -/
theorem foldlM_addPreviewLine {sums : PreviewSums} :
    (cs.map linePreview).foldlM addPreviewLine ⟨0, 0, 0, m⟩ = .ok sums ↔
      ∃ m', groupM (·.vatRateBasisPoints) (fun entry c => addVatBreakdown entry (linePreview c))
          m cs = .ok m' ∧ sums = ⟨0, 0, 0, m'⟩ := by
  induction cs generalizing m with
  | nil =>
      rw [List.map_nil, List.foldlM_nil, pure_eq_ok]
      constructor
      · rintro rfl
        exact ⟨m, rfl, rfl⟩
      · rintro ⟨m', hm', rfl⟩
        rw [pure_eq_ok.mp hm']
  | cons c rest ih =>
      rw [List.map_cons, List.foldlM_cons, bind_eq_ok]
      simp only [groupM_cons, addPreviewLine, linePreview, bind_eq_ok, pure_eq_ok]
      constructor
      · rintro ⟨_, ⟨breakdown, hbreakdown, rfl⟩, hrest⟩
        obtain ⟨m', hm', rfl⟩ := ih.mp hrest
        exact ⟨m', ⟨breakdown, hbreakdown, hm'⟩, rfl⟩
      · rintro ⟨m', ⟨breakdown, hbreakdown, hm'⟩, rfl⟩
        exact ⟨_, ⟨breakdown, hbreakdown, rfl⟩, ih.mpr ⟨m', hm', rfl⟩⟩

/-- One step of the two grouping loops. -/
theorem addVatBreakdown_iff {entry : Option MutableVatBreakdown} {c : LineAmounts}
    {w : InvoiceCalculation.MutableVatBreakdown} :
    InvoiceCalculation.addToVatBreakdown (entry.map issued) c = .ok w ↔
      ∃ v, addVatBreakdown entry (linePreview c) = .ok v ∧ issued v = w := by
  cases entry with
  | none =>
      simp only [Option.map_none, InvoiceCalculation.addToVatBreakdown, addVatBreakdown,
        pure_eq_ok]
      constructor
      · rintro rfl
        exact ⟨_, rfl, rfl⟩
      · rintro ⟨_, rfl, rfl⟩
        rfl
  | some existing =>
      simp only [Option.map_some, InvoiceCalculation.addToVatBreakdown, addVatBreakdown,
        bind_eq_ok, throwIf_eq_ok, exists_const, pure_eq_ok, Decidable.not_not]
      constructor
      · rintro ⟨hmode, rfl⟩
        exact ⟨_, ⟨hmode, rfl⟩, rfl⟩
      · rintro ⟨_, ⟨hmode, rfl⟩, rfl⟩
        exact ⟨hmode, rfl⟩

/-- The amounts of an entry. -/
structure NonNegative (rate : Int) (breakdown : MutableVatBreakdown) : Prop where
  rate : 0 ≤ rate
  net : 0 ≤ breakdown.netCents
  gross : 0 ≤ breakdown.grossInputCents

theorem nonNegative_of_groupM (hcs : ∀ c ∈ cs, Priced c)
    (h : groupM (·.vatRateBasisPoints) (fun entry c => addVatBreakdown entry (linePreview c))
      OrderedMap.empty cs = .ok m) : ∀ rate v, m.get? rate = some v → NonNegative rate v := by
  refine groupM_invariant h (fun k v hv => nomatch hv) ?_
  intro c hc entry v hentry hstep
  have hpriced := hcs c hc
  have hreconciled := hpriced.reconciled
  have hgross := hreconciled.gross_nonneg
  have hnet : 0 ≤ c.netCents := hreconciled.1
  cases entry with
  | none =>
      rw [addVatBreakdown, pure_eq_ok] at hstep
      subst hstep
      exact ⟨hpriced.rate.1, hnet, hgross⟩
  | some existing =>
      simp only [addVatBreakdown, bind_eq_ok, throwIf_eq_ok, exists_const, pure_eq_ok] at hstep
      obtain ⟨_, rfl⟩ := hstep
      obtain ⟨hrate, hnet₀, hgross₀⟩ := hentry existing rfl
      exact ⟨hrate, Int.add_nonneg hnet₀ hnet, Int.add_nonneg hgross₀ hgross⟩

/-- A rate is settled alike, except that the backend looks at its gross amount. -/
theorem settleVatRate_iff {breakdown : MutableVatBreakdown} {w : InvoiceVatBreakdown}
    (h : NonNegative rate breakdown) :
    InvoiceCalculation.settleVatRate rate (issued breakdown) = .ok w ↔
      ∃ row, settleVatRate rate breakdown = .ok row ∧ IsAmount row.grossCents
        ∧ issuedRow row = w := by
  obtain ⟨hrate, hnet, hgross⟩ := h
  have hscale : 0 < 10000 + rate := Int.add_pos_of_pos_of_nonneg (by decide) hrate
  cases hmode : breakdown.priceInputMode with
  | net =>
      have hproduct := Int.mul_nonneg hnet hrate
      simp only [InvoiceCalculation.settleVatRate, settleVatRate, issued, hmode, bind_eq_ok,
        throwIf_eq_ok, exists_const, pure_eq_ok, InvoiceCalculation.toSafeInteger_eq_ok,
        toSafeNumber_eq_ok, Decidable.not_not]
      constructor
      · rintro ⟨_, ⟨rfl, hmax⟩, vat, hvat, hsafe, rfl⟩
        obtain ⟨_, _, hhalf, _⟩ := InvoiceMoney.roundHalfUp_eq_ok.mp hvat
        have hvat0 : 0 ≤ vat := hhalf ▸ halfUp_nonneg (by decide) hproduct
        exact ⟨_, ⟨_, ⟨rfl, hmax⟩, vat, (roundHalfUp_iff hproduct (by decide)).mpr hvat, rfl⟩,
          isAmount_iff.mpr ⟨hsafe, Int.not_lt.mpr (Int.add_nonneg hnet hvat0)⟩, rfl⟩
      · rintro ⟨_, ⟨_, ⟨rfl, hmax⟩, vat, hvat, rfl⟩, hamount, rfl⟩
        exact ⟨_, ⟨rfl, hmax⟩, vat, (roundHalfUp_iff hproduct (by decide)).mp hvat,
          (isAmount_iff.mp hamount).1, rfl⟩
  | gross =>
      have hproduct : 0 ≤ breakdown.grossInputCents * 10000 :=
        Int.mul_nonneg hgross (by decide)
      simp only [InvoiceCalculation.settleVatRate, settleVatRate, issued, hmode, bind_eq_ok,
        pure_eq_ok, InvoiceCalculation.toSafeInteger_eq_ok, toSafeNumber_eq_ok]
      constructor
      · rintro ⟨_, ⟨rfl, hmax⟩, net, hround, rfl⟩
        exact ⟨_, ⟨_, ⟨rfl, hmax⟩, net, (roundHalfUp_iff hproduct hscale).mpr hround, rfl⟩,
          ⟨hgross, hmax⟩, rfl⟩
      · rintro ⟨_, ⟨_, ⟨rfl, hmax⟩, net, hround, rfl⟩, _, rfl⟩
        exact ⟨_, ⟨rfl, hmax⟩, net, (roundHalfUp_iff hproduct hscale).mp hround, rfl⟩

theorem settleVatRate_gross_nonneg {breakdown : MutableVatBreakdown}
    {row : InvoiceDraftPreviewVatBreakdown} (h : NonNegative rate breakdown)
    (hrow : settleVatRate rate breakdown = .ok row) : 0 ≤ row.grossCents := by
  obtain ⟨hrate, hnet, hgross⟩ := h
  cases hmode : breakdown.priceInputMode with
  | net =>
      simp only [settleVatRate, hmode, bind_eq_ok, pure_eq_ok, toSafeNumber_eq_ok] at hrow
      obtain ⟨_, ⟨rfl, _⟩, vat, hvat, rfl⟩ := hrow
      have hproduct := Int.mul_nonneg hnet hrate
      obtain ⟨hhalf, _⟩ := (roundHalfUp_eq_ok hproduct (by decide)).mp hvat
      exact Int.add_nonneg hnet (hhalf ▸ halfUp_nonneg (by decide) hproduct)
  | gross =>
      simp only [settleVatRate, hmode, bind_eq_ok, pure_eq_ok, toSafeNumber_eq_ok] at hrow
      obtain ⟨_, ⟨rfl, _⟩, _, _, rfl⟩ := hrow
      exact hgross

/-- All rates are settled alike. -/
theorem mapM_settleVatRate {entries : List (Int × MutableVatBreakdown)}
    {rows : List InvoiceVatBreakdown} (h : ∀ e ∈ entries, NonNegative e.1 e.2) :
    (entries.map (fun e => (e.1, issued e.2))).mapM
        (fun e => InvoiceCalculation.settleVatRate e.1 e.2) = .ok rows ↔
      ∃ shown, entries.mapM (fun e => settleVatRate e.1 e.2) = .ok shown
        ∧ (∀ row ∈ shown, IsAmount row.grossCents) ∧ rows = shown.map issuedRow := by
  induction entries generalizing rows with
  | nil =>
      rw [List.map_nil, List.mapM_nil, pure_eq_ok]
      constructor
      · rintro rfl
        exact ⟨[], rfl, (fun row hrow => nomatch hrow), rfl⟩
      · rintro ⟨shown, hshown, _, rfl⟩
        rw [← pure_eq_ok.mp hshown]
        rfl
  | cons e rest ih =>
      have ih' := fun rows => @ih rows (fun e' he' => h e' (List.mem_cons_of_mem _ he'))
      simp only [List.map_cons, List.mapM_cons, bind_eq_ok, pure_eq_ok,
        settleVatRate_iff (h e List.mem_cons_self)]
      constructor
      · rintro ⟨_, ⟨row, hrow, hamount, rfl⟩, tail, htail, rfl⟩
        obtain ⟨shown, hshown, hall, rfl⟩ := (ih' _).mp htail
        refine ⟨_, ⟨row, hrow, shown, hshown, rfl⟩, ?_, rfl⟩
        intro r hr
        rcases List.mem_cons.mp hr with rfl | hr
        · exact hamount
        · exact hall r hr
      · rintro ⟨_, ⟨row, hrow, shown, hshown, rfl⟩, hall, rfl⟩
        exact ⟨_, ⟨row, hrow, hall row List.mem_cons_self, rfl⟩, _,
          (ih' _).mpr ⟨shown, hshown, (fun r hr => hall r (List.mem_cons_of_mem _ hr)), rfl⟩,
          rfl⟩

/-! ## The totals -/

theorem validate_of_priced {c : LineAmounts} (h : Priced c) :
    InvoiceCalculation.validateCalculatedInvoiceLine c = .ok () := by
  obtain ⟨hnet, hvat, hsum⟩ := h.reconciled
  have hgross := h.gross_le
  have hbase := h.base.2
  have hdiscount := h.discount_le
  exact InvoiceCalculation.validateCalculatedInvoiceLine_eq_ok.mpr ⟨h.rate, h.base,
    ⟨h.discount_nonneg, by omega⟩, ⟨hnet, by omega⟩, ⟨hvat, by omega⟩,
    ⟨by omega, hgross⟩, hsum⟩

/-- A row of the invoice as the preview shows it. -/
def shownRow (row : InvoiceVatBreakdown) : InvoiceDraftPreviewVatBreakdown :=
  ⟨row.grossCents, row.netCents, row.vatCents, row.vatRateBasisPoints⟩

/-- The totals of the backend, as the preview shows them. -/
def shownTotals (totals : InvoiceTotals) : InvoiceDraftPreviewTotals :=
  .available totals.grossTotalCents totals.netTotalCents totals.vatTotalCents
    (totals.vatBreakdown.map shownRow)

theorem map_shownRow (rows : List InvoiceDraftPreviewVatBreakdown) :
    (rows.map issuedRow).map shownRow = rows := by
  rw [List.map_map]
  exact List.map_id rows

/-- A sum of rows is in range only when every row is. -/
theorem gross_le_of_sum {rows : List InvoiceDraftPreviewVatBreakdown}
    (h : ∀ row ∈ rows, 0 ≤ row.grossCents)
    (hsum : (rows.map (·.grossCents)).sum ≤ maximumSafeInteger) :
    ∀ row ∈ rows, IsAmount row.grossCents := by
  intro row hrow
  have hle : row.grossCents ≤ (rows.map (·.grossCents)).sum := by
    refine List.single_le_sum ?_ _ (List.mem_map_of_mem hrow)
    intro n hn
    obtain ⟨r, hr, rfl⟩ := List.mem_map.mp hn
    exact h r hr
  exact ⟨h row hrow, by omega⟩

/-- **THE TOTALS WITH VAT**: lines that are priced have preview totals exactly when the
    backend totals them, and the totals are the same. -/
theorem calculatePreviewTotals_normalVat (hcs : ∀ c ∈ cs, Priced c) :
    calculatePreviewTotals (cs.map linePreview) = .ok totals ↔
      ∃ t, calculateInvoiceTotals cs = .ok t ∧ totals = shownTotals t := by
  simp only [calculatePreviewTotals, calculateInvoiceTotals, createVatBreakdown,
    InvoiceCalculation.createVatBreakdown, bind_eq_ok, pure_eq_ok, foldlM_addPreviewLine,
    toSafeNumber_eq_ok, InvoiceCalculation.toSafeInteger_eq_ok]
  -- the two maps are related value by value
  have hgroups : ∀ m'', groupM (·.vatRateBasisPoints)
      InvoiceCalculation.addToVatBreakdown OrderedMap.empty cs = .ok m'' ↔
        ∃ m', groupM (·.vatRateBasisPoints)
          (fun entry c => addVatBreakdown entry (linePreview c)) OrderedMap.empty cs = .ok m'
            ∧ m'.mapValues issued = m'' :=
    fun m'' => groupM_mapValues issued (m := OrderedMap.empty)
      (fun c _ entry w => addVatBreakdown_iff)
  constructor
  · rintro ⟨_, ⟨m, hm, rfl⟩, rows, hrows, _, ⟨rfl, hgross⟩, _, ⟨rfl, hnet⟩, _, ⟨rfl, hvat⟩,
      rfl⟩
    have hentries : ∀ e ∈ m.sortedEntries, NonNegative e.1 e.2 :=
      fun e he => nonNegative_of_groupM hcs hm e.1 e.2 (mem_sortedEntries.mp he)
    simp only [Int.zero_add] at hgross hnet hvat ⊢
    have hnonneg : ∀ row ∈ rows, 0 ≤ row.grossCents := by
      intro row hrow
      obtain ⟨e, he, hsettle⟩ := exists_source_of_mapM_ok hrows hrow
      exact settleVatRate_gross_nonneg (hentries e he) hsettle
    have hsettled := (mapM_settleVatRate hentries).mpr
      ⟨rows, hrows, gross_le_of_sum hnonneg hgross, rfl⟩
    rw [← sortedEntries_mapValues] at hsettled
    refine ⟨_, ⟨_, groupM_checked.mpr ⟨fun c hc => validate_of_priced (hcs c hc),
      (hgroups _).mpr ⟨m, hm, rfl⟩⟩, _, hsettled, _, ⟨rfl, ?_⟩, _, ⟨rfl, ?_⟩, _, ⟨rfl, ?_⟩,
      rfl⟩, ?_⟩
    · rw [List.map_map]
      exact hnet
    · rw [List.map_map]
      exact hvat
    · rw [List.map_map]
      exact hgross
    · rw [shownTotals, map_shownRow, List.map_map, List.map_map, List.map_map]
      rfl
  · rintro ⟨t, ⟨m'', hm'', issuedRows, hrows, _, ⟨rfl, hnet⟩, _, ⟨rfl, hvat⟩, _,
      ⟨rfl, hgross⟩, rfl⟩, rfl⟩
    obtain ⟨m, hm, rfl⟩ := (hgroups _).mp (groupM_checked.mp hm'').2
    have hentries : ∀ e ∈ m.sortedEntries, NonNegative e.1 e.2 :=
      fun e he => nonNegative_of_groupM hcs hm e.1 e.2 (mem_sortedEntries.mp he)
    rw [sortedEntries_mapValues] at hrows
    obtain ⟨rows, hshown, _, rfl⟩ := (mapM_settleVatRate hentries).mp hrows
    rw [List.map_map] at hnet hvat hgross
    refine ⟨_, ⟨m, hm, rfl⟩, rows, hshown, _, ⟨rfl, ?_⟩, _, ⟨rfl, ?_⟩, _, ⟨rfl, ?_⟩, ?_⟩
    · rw [Int.zero_add]
      exact hgross
    · rw [Int.zero_add]
      exact hnet
    · rw [Int.zero_add]
      exact hvat
    · rw [shownTotals, map_shownRow, List.map_map, List.map_map, List.map_map, Int.zero_add,
        Int.zero_add, Int.zero_add]
      rfl

/-- The loop over rows without VAT only adds. -/
theorem foldlM_addPreviewLine_untaxed {cs : List ReverseCharge.CalculatedReverseChargeInvoiceLine}
    (hcs : ∀ c ∈ cs, ReverseCharge.Untaxed c.toCreditAmounts) {sums : PreviewSums} :
    (cs.map untaxedPreview).foldlM addPreviewLine ⟨net, net, 0, m⟩ = .ok sums ↔
      sums = ⟨net + (cs.map (·.netCents)).sum, net + (cs.map (·.netCents)).sum, 0, m⟩ := by
  induction cs generalizing net with
  | nil =>
      rw [List.map_nil, List.foldlM_nil, pure_eq_ok, List.map_nil, List.sum_nil, Int.add_zero]
      exact eq_comm
  | cons c rest ih =>
      have hc := hcs c List.mem_cons_self
      have hstep : addPreviewLine ⟨net, net, 0, m⟩ (untaxedPreview c)
          = .ok ⟨net + c.netCents, net + c.netCents, 0, m⟩ := by
        rw [addPreviewLine, untaxedPreview]
        simp only [hc.gross, hc.vat, Int.add_zero]
        rfl
      rw [List.map_cons, List.foldlM_cons, hstep, ok_bind,
        ih (fun d hd => hcs d (List.mem_cons_of_mem _ hd)), List.map_cons, List.sum_cons,
        Int.add_assoc]

/-- **THE TOTALS WITHOUT VAT** are the sum of the net amounts on both sides. -/
theorem calculatePreviewTotals_reverseCharge
    {cs : List ReverseCharge.CalculatedReverseChargeInvoiceLine}
    (hcs : ∀ c ∈ cs, ReverseCharge.Untaxed c.toCreditAmounts) :
    calculatePreviewTotals (cs.map untaxedPreview) = .ok totals ↔
      (cs.map (·.netCents)).sum ≤ maximumSafeInteger
        ∧ totals = shownTotals ⟨(cs.map (·.netCents)).sum, 0, (cs.map (·.netCents)).sum, []⟩ := by
  have hfold := fun sums => @foldlM_addPreviewLine_untaxed 0 OrderedMap.empty cs hcs sums
  have hrows : createVatBreakdown OrderedMap.empty = .ok [] := rfl
  have hzero : (0 : Int) ≤ maximumSafeInteger := by decide
  simp only [calculatePreviewTotals, bind_eq_ok, hfold, pure_eq_ok, toSafeNumber_eq_ok,
    Int.zero_add]
  constructor
  · rintro ⟨_, rfl, rows, hrows', _, ⟨rfl, hmax⟩, _, ⟨rfl, _⟩, _, ⟨rfl, _⟩, rfl⟩
    rw [hrows] at hrows'
    obtain rfl : [] = rows := Except.ok.inj hrows'
    simp only [List.map_nil, List.sum_nil, Int.add_zero] at hmax ⊢
    exact ⟨hmax, rfl⟩
  · rintro ⟨hmax, rfl⟩
    refine ⟨_, rfl, [], hrows, _, ⟨rfl, ?_⟩, _, ⟨rfl, ?_⟩, _, ⟨rfl, hzero⟩, ?_⟩
    · simp only [List.map_nil, List.sum_nil, Int.add_zero]
      exact hmax
    · simp only [List.map_nil, List.sum_nil, Int.add_zero]
      exact hmax
    · simp only [List.map_nil, List.sum_nil, Int.add_zero]
      rfl

/-! ## The whole form -/

/-- What the preview shows is what the collected rows are totalled to. -/
theorem preview_available {form : NewInvoiceFormState}
    {rows : List InvoiceDraftPreviewVatBreakdown} :
    calculateInvoiceDraftPreviewTotals form = .available gross net vat rows ↔
      ∃ lines, collectPreviewLines form.priceInputMode form.taxTreatment form.lines
          = .ok (some lines)
        ∧ calculatePreviewTotals lines = .ok (.available gross net vat rows) := by
  unfold calculateInvoiceDraftPreviewTotals
  constructor
  · intro h
    split at h
    · next lines hlines =>
      split at h
      · next totals htotals => exact ⟨lines, hlines, h ▸ htotals⟩
      · exact nomatch h
    · exact nomatch h
  · rintro ⟨lines, hlines, htotals⟩
    simp only [hlines, htotals]

theorem available_eq_shownTotals {rows : List InvoiceDraftPreviewVatBreakdown} {t : InvoiceTotals} :
    InvoiceDraftPreviewTotals.available gross net vat rows = shownTotals t ↔
      t = ⟨net, vat, gross, rows.map issuedRow⟩ := by
  rw [shownTotals, InvoiceDraftPreviewTotals.available.injEq]
  constructor
  · rintro ⟨rfl, rfl, rfl, rfl⟩
    have hrows : (t.vatBreakdown.map shownRow).map issuedRow = t.vatBreakdown := by
      rw [List.map_map]
      exact List.map_id _
    rw [hrows]
  · rintro rfl
    exact ⟨rfl, rfl, rfl, (map_shownRow rows).symm⟩

theorem toInvoiceDraftInput_lines {form : NewInvoiceFormState} {input : InvoiceDraftInput}
    (h : toInvoiceDraftInput form = .ok input) :
    form.lines.mapM (mapInvoiceDraftLine form.taxTreatment) = .ok input.lines
      ∧ input.priceInputMode = form.priceInputMode
      ∧ input.taxTreatment = form.taxTreatment := by
  simp only [toInvoiceDraftInput, bind_eq_ok, throwIf_eq_ok, exists_const, orThrow_eq_ok,
    pure_eq_ok] at h
  obtain ⟨_, _, _, _, _, _, _, lines, hlines, rfl⟩ := h
  exact ⟨hlines, rfl, rfl⟩

/-- Under normal VAT every row that is sent has a rate. -/
theorem rate_of_mapInvoiceDraftLine (h : rows.mapM (mapInvoiceDraftLine .normalVat) = .ok drafts) :
    ∀ row ∈ rows, row.vatRateBasisPoints ≠ none := by
  intro row hrow hnone
  obtain ⟨draft, _, hdraft⟩ := exists_of_mapM_ok h hrow
  simp only [mapInvoiceDraftLine, bind_eq_ok, throwIf_eq_ok, exists_const, orThrow_eq_ok] at hdraft
  obtain ⟨_, _, _, _, hrate, _⟩ := hdraft
  rw [hnone] at hrate
  exact hrate ⟨trivial, fun rate hr => by cases hr⟩

theorem normalVat_agrees (hdrafts : rows.mapM (mapInvoiceDraftLine .normalVat) = .ok drafts) :
    (∃ lines, collectPreviewLines mode .normalVat rows = .ok (some lines)
        ∧ calculatePreviewTotals lines = .ok totals) ↔
      (∀ draft ∈ drafts, 0 < draft.quantityHundredths)
        ∧ ∃ cs, drafts.mapM (calculateNormalVatLine mode) = .ok cs
          ∧ ∃ t, calculateInvoiceTotals (cs.map (·.toLineAmounts)) = .ok t
            ∧ totals = shownTotals t := by
  have hrow : ∀ row line, calculatePreviewLine mode .normalVat row = .ok (some line) ↔
      True ∧ ∃ draft c, mapInvoiceDraftLine .normalVat row = .ok draft
        ∧ 0 < draft.quantityHundredths ∧ calculateNormalVatLine mode draft = .ok c
        ∧ line = linePreview c.toLineAmounts := by
    intro row line
    rw [true_and]
    exact previewLine_normalVat
  have hpriced : ∀ cs, drafts.mapM (calculateNormalVatLine mode) = .ok cs →
      ∀ c ∈ cs.map (·.toLineAmounts), Priced c := by
    intro cs hcs c hc
    obtain ⟨line, hline, rfl⟩ := List.mem_map.mp hc
    obtain ⟨draft, _, hcalculated⟩ := exists_source_of_mapM_ok hcs hline
    obtain ⟨_, _, h⟩ := bind_eq_ok.mp hcalculated
    obtain ⟨_, _, h⟩ := bind_eq_ok.mp h
    exact (calculateInvoiceLine_spec h).1
  have hcollect := fun lines => @collectPreviewLines_eq_ok mode .normalVat rows _ _ _
    (fun c : CalculatedInvoiceLine => linePreview c.toLineAmounts) (fun _ => True) hrow lines
  constructor
  · rintro ⟨lines, hlines, htotals⟩
    obtain ⟨_, drafts', cs, hdrafts', hpos, hcs, rfl⟩ := (hcollect lines).mp hlines
    obtain rfl : drafts = drafts' := Except.ok.inj (hdrafts.symm.trans hdrafts')
    have hmap : cs.map (fun c => linePreview c.toLineAmounts)
        = (cs.map (·.toLineAmounts)).map linePreview := by
      rw [List.map_map]
      rfl
    rw [hmap, calculatePreviewTotals_normalVat (hpriced cs hcs)] at htotals
    exact ⟨hpos, cs, hcs, htotals⟩
  · rintro ⟨hpos, cs, hcs, htotals⟩
    refine ⟨_, (hcollect _).mpr ⟨fun _ _ => trivial, drafts, cs, hdrafts, hpos, hcs, rfl⟩, ?_⟩
    rw [← calculatePreviewTotals_normalVat (hpriced cs hcs), List.map_map] at htotals
    exact htotals

theorem reverseCharge_agrees
    (hdrafts : rows.mapM (mapInvoiceDraftLine .reverseChargeConstruction) = .ok drafts) :
    (∃ lines, collectPreviewLines mode .reverseChargeConstruction rows = .ok (some lines)
        ∧ calculatePreviewTotals lines = .ok totals) ↔
      (∀ row ∈ rows, row.vatRateBasisPoints = none)
        ∧ (∀ draft ∈ drafts, 0 < draft.quantityHundredths)
        ∧ ∃ cs, drafts.mapM (calculateUntaxedLine mode) = .ok cs
          ∧ (cs.map (·.netCents)).sum ≤ maximumSafeInteger
          ∧ totals = shownTotals
            ⟨(cs.map (·.netCents)).sum, 0, (cs.map (·.netCents)).sum, []⟩ := by
  have huntaxed : ∀ cs, drafts.mapM (calculateUntaxedLine mode) = .ok cs →
      ∀ c ∈ cs, ReverseCharge.Untaxed c.toCreditAmounts := by
    intro cs hcs c hc
    obtain ⟨draft, _, hcalculated⟩ := exists_source_of_mapM_ok hcs hc
    obtain ⟨_, _, h⟩ := bind_eq_ok.mp hcalculated
    exact (ReverseCharge.calculateReverseChargeInvoiceLine_spec h).1
  have hcollect := fun lines => @collectPreviewLines_eq_ok mode .reverseChargeConstruction rows _ _ _
    untaxedPreview _ (fun row line => previewLine_reverseCharge) lines
  constructor
  · rintro ⟨lines, hlines, htotals⟩
    obtain ⟨hnone, drafts', cs, hdrafts', hpos, hcs, rfl⟩ := (hcollect lines).mp hlines
    obtain rfl : drafts = drafts' := Except.ok.inj (hdrafts.symm.trans hdrafts')
    rw [calculatePreviewTotals_reverseCharge (huntaxed cs hcs)] at htotals
    exact ⟨hnone, hpos, cs, hcs, htotals⟩
  · rintro ⟨hnone, hpos, cs, hcs, htotals⟩
    exact ⟨_, (hcollect _).mpr ⟨hnone, drafts, cs, hdrafts, hpos, hcs, rfl⟩,
      (calculatePreviewTotals_reverseCharge (huntaxed cs hcs)).mpr htotals⟩

/-- The lines of the backend under reverse charge, and their sum. -/
theorem reverseChargeTotals_eq_ok {t : InvoiceTotals} :
    (∃ inputs, drafts.mapM (reverseChargeInput mode) = .ok inputs
        ∧ ∃ invoice, ReverseCharge.calculateReverseChargeInvoice inputs = .ok invoice
          ∧ invoice.totals = t) ↔
      ∃ cs, drafts.mapM (calculateUntaxedLine mode) = .ok cs
        ∧ (cs.map (·.netCents)).sum ≤ maximumSafeInteger
        ∧ t = ⟨(cs.map (·.netCents)).sum, 0, (cs.map (·.netCents)).sum, []⟩ := by
  have hlines : ∀ cs, drafts.mapM (calculateUntaxedLine mode) = .ok cs ↔
      ∃ inputs, drafts.mapM (reverseChargeInput mode) = .ok inputs
        ∧ inputs.mapM ReverseCharge.calculateReverseChargeInvoiceLine = .ok cs :=
    fun cs => mapM_bind_eq_ok
  constructor
  · rintro ⟨inputs, hinputs, invoice, hinvoice, rfl⟩
    obtain ⟨_, htotals, hmax⟩ := ReverseCharge.calculateReverseChargeInvoice_spec hinvoice
    obtain ⟨cs, hcs, h⟩ := bind_eq_ok.mp hinvoice
    obtain ⟨_, _, heq⟩ := bind_eq_ok.mp h
    rw [pure_eq_ok] at heq
    subst heq
    exact ⟨cs, (hlines cs).mpr ⟨inputs, hinputs, hcs⟩, hmax, htotals⟩
  · rintro ⟨cs, hcs, hmax, rfl⟩
    obtain ⟨inputs, hinputs, hcalculated⟩ := (hlines cs).mp hcs
    have hnonneg : ∀ c ∈ cs, 0 ≤ c.netCents := by
      intro c hc
      obtain ⟨input, _, h⟩ := exists_source_of_mapM_ok hcalculated hc
      exact (ReverseCharge.calculateReverseChargeInvoiceLine_spec h).1.net_nonneg
    refine ⟨inputs, hinputs, ⟨cs, _⟩, ?_, rfl⟩
    rw [ReverseCharge.calculateReverseChargeInvoice, hcalculated, ok_bind, bind_eq_ok]
    refine ⟨(cs.map (·.netCents)).sum, ?_, rfl⟩
    exact (sumM_eq_ok ReverseCharge.rejectsOverflow_outsideSafeRange hnonneg
      isAmount_zero).mpr ⟨Int.zero_add _, hmax⟩

/-- **THE PREVIEW SHOWS WHAT IS ISSUED**: for a form that can be sent, the preview shows
    totals exactly when the backend calculates the draft to these totals, every quantity is
    positive and the rows have a rate just where VAT is charged. -/
theorem preview_agrees_with_backend {form : NewInvoiceFormState} {input : InvoiceDraftInput}
    (hinput : toInvoiceDraftInput form = .ok input) (gross net vat : Int)
    (rows : List InvoiceDraftPreviewVatBreakdown) :
    calculateInvoiceDraftPreviewTotals form = .available gross net vat rows ↔
      calculateDraftTotals input = .ok ⟨net, vat, gross, rows.map issuedRow⟩
        ∧ (∀ line ∈ input.lines, 0 < line.quantityHundredths)
        ∧ ∀ row ∈ form.lines,
          row.vatRateBasisPoints = none ↔ form.taxTreatment = .reverseChargeConstruction := by
  obtain ⟨hlines, hmode, htreatment⟩ := toInvoiceDraftInput_lines hinput
  rw [preview_available, calculateDraftTotals, htreatment, hmode]
  cases hform : form.taxTreatment with
  | normalVat =>
      rw [hform] at hlines
      have hrates : ∀ row ∈ form.lines, row.vatRateBasisPoints = none ↔
          InvoiceTaxTreatment.normalVat = .reverseChargeConstruction := by
        intro row hrow
        constructor
        · exact fun hnone => absurd hnone (rate_of_mapInvoiceDraftLine hlines row hrow)
        · exact fun h => nomatch h
      rw [normalVat_agrees hlines]
      simp only [bind_eq_ok, available_eq_shownTotals]
      constructor
      · rintro ⟨hpos, cs, hcs, t, ht, rfl⟩
        exact ⟨⟨cs, hcs, ht⟩, hpos, hrates⟩
      · rintro ⟨⟨cs, hcs, ht⟩, hpos, _⟩
        exact ⟨hpos, cs, hcs, _, ht, rfl⟩
  | reverseChargeConstruction =>
      rw [hform] at hlines
      have hrates : (∀ row ∈ form.lines, row.vatRateBasisPoints = none ↔
          InvoiceTaxTreatment.reverseChargeConstruction = .reverseChargeConstruction) ↔
            ∀ row ∈ form.lines, row.vatRateBasisPoints = none := by
        simp only [iff_true]
      rw [reverseCharge_agrees hlines, hrates]
      simp only [bind_eq_ok, pure_eq_ok, reverseChargeTotals_eq_ok, available_eq_shownTotals]
      constructor
      · rintro ⟨hnone, hpos, cs, hcs, hmax, heq⟩
        exact ⟨⟨cs, hcs, hmax, heq.symm⟩, hpos, hnone⟩
      · rintro ⟨⟨cs, hcs, hmax, heq⟩, hpos, hnone⟩
        exact ⟨hnone, hpos, cs, hcs, hmax, heq.symm⟩

/-- A form with two rates and a discount. -/
def sampleForm : NewInvoiceFormState where
  billingRecipientCustomerId := ""
  customerId := "customer-1"
  deliveryAddressText := ""
  dueDate := "2026-01-15"
  invoiceDate := "2026-01-01"
  latePaymentInterestPercent := ""
  lines := [
    ⟨"invoice-row-1", "Work", "1,5", "h", "10,00", some 2550, .none, ""⟩,
    ⟨"invoice-row-2", "Parts", "3", "kpl", " 0.99 ", some 1400, .percentage, "10"⟩]
  note := ""
  orderNumber := ""
  paymentTermDays := "14"
  performanceDate := ""
  performancePeriodEnd := ""
  performancePeriodStart := ""
  performancePeriodType := .invoiceDate
  priceInputMode := .net
  reminderPeriodDays := ""
  subject := ""
  taxTreatment := .normalVat

/-- A draft of one line. -/
def sampleInput : InvoiceDraftInput where
  customerId := "customer-1"
  billingRecipientCustomerId := none
  invoiceDate := "2026-01-01"
  dueDate := "2026-01-15"
  paymentTermDays := 14
  reminderPeriodDays := none
  latePaymentInterestBasisPoints := none
  priceInputMode := .net
  taxTreatment := .normalVat
  performancePeriod := .invoiceDate
  subject := none
  orderNumber := none
  note := none
  deliveryAddressText := none
  lines := [
    ⟨"Work", 150, "h", 1000, some 2550, .none⟩,
    ⟨"Parts", 300, "kpl", 99, some 1400, .percentage 1000⟩]

theorem sample_preview_issued :
    calculateDraftTotals sampleInput
        = .ok ⟨1767, 420, 2187, [⟨1400, 267, 37, 304⟩, ⟨2550, 1500, 383, 1883⟩]⟩ := by
  have hsent : toInvoiceDraftInput sampleForm = .ok sampleInput := by decide +kernel
  have hshown : calculateInvoiceDraftPreviewTotals sampleForm
      = .available 2187 1767 420 [⟨304, 267, 37, 1400⟩, ⟨1883, 1500, 383, 2550⟩] := by
    decide +kernel
  exact ((preview_agrees_with_backend hsent _ _ _ _).mp hshown).1

end InvoicePreview
