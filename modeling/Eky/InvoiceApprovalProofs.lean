import Eky.InvoiceApproval
import Eky.ReverseChargeProofs
import Eky.CreditOrder

/-! # Standard invoices and the check of a legacy revision

    The lines of a standard invoice were priced when its draft was saved, and the check
    prices them again.

    - `pricedRow_of_saved`: the rows of a saved draft with normal VAT;
    - `recalculated_of_stored`: the rows of a draft without VAT, which approval compares;
    - `standard_validates`: what is issued of a saved draft passes the check. -/

namespace InvoiceApproval

open Fallible OrderedMap InvoiceMoney VatGroups InvoiceCalculation LegacyRevision
open InvoiceForm (InvoiceTaxTreatment InvoiceDraftLineInput InvoiceDraftInput
  reverseChargeInput calculateNormalVatLine)
open ReverseCharge (CalculatedReverseChargeInvoiceLine CalculatedCreditDraftLine
  CalculatedCreditDraft calculateReverseChargeInvoice calculateReverseChargeInvoiceLine
  calculateReverseChargeCreditInvoiceDraft)
open CreditInvoice (CreditSourceLine RequestedCreditLine)
open CreditDraft (calculateCreditInvoiceDraft sumCreditTotals)
open CreditDraftModel (InvoiceCreditAllocation)

/-! ## The rows of a draft -/

@[simp] theorem toDiscount_createInvoiceLineRow (line : InvoiceDraftLineRow) :
    toDiscount (createInvoiceLineRow line).toLineColumns = toDiscount line.toLineColumns := by
  rw [createInvoiceLineRow, toDiscount, toDiscount, storedDiscount]
  cases line.discountType with
  | none => rfl
  | percentage => rfl
  | fixed => rfl

/-- What is stored of a discount is read back. -/
@[simp] theorem toDiscount_toInvoiceDraftLineRow (line : InvoiceDraftLine) :
    toDiscount (toInvoiceDraftLineRow line).toLineColumns = line.discount := by
  rw [toInvoiceDraftLineRow, toDiscount]
  cases line.discount with
  | none => rfl
  | percentage basisPoints => rfl
  | fixed amountCents => rfl

theorem guardInvoiceLine_eq_ok {taxTreatment : InvoiceTaxTreatment} {line : InvoiceLineRow}
    {u : Unit} : guardInvoiceLine taxTreatment line = .ok u ↔
      (taxTreatment = .normalVat ↔ line.vatRateBasisPoints ≠ none) := by
  cases taxTreatment with
  | normalVat => simp only [guardInvoiceLine, throwIf_eq_ok, ne_eq, true_iff]
  | reverseChargeConstruction =>
      simp only [guardInvoiceLine, throwIf_eq_ok, ne_eq, Decidable.not_not, reduceCtorEq,
        false_iff]

/-- A line of a saved draft with normal VAT: it was priced for its row. -/
def PricedRow (priceInputMode : PriceInputMode) (row : InvoiceDraftLineRow) : Prop :=
  ∃ vatRateBasisPoints calculated, row.vatRateBasisPoints = some vatRateBasisPoints
    ∧ calculateInvoiceLine ⟨row.quantityHundredths, row.unitPriceCents, vatRateBasisPoints,
      priceInputMode, toDiscount row.toLineColumns⟩ = .ok calculated
    ∧ lineAmounts row.toLineColumns = [calculated.baseCents, calculated.discountCents,
      calculated.netCents, calculated.vatCents, calculated.grossCents]

/-- **SAVING A DRAFT** prices the rows it keeps. -/
theorem pricedRow_of_saved {randomUUID : Nat → String} {input : InvoiceDraftInput}
    {content : PreparedInvoiceDraftContent} (hvat : input.taxTreatment = .normalVat)
    (h : prepareInvoiceDraftContent randomUUID input = .ok content) :
    ∀ row ∈ toInvoiceDraftLineRows content, PricedRow content.priceInputMode row := by
  simp only [prepareInvoiceDraftContent, calculateDraftLines, hvat, bind_eq_ok, pure_eq_ok,
    throwIf_eq_ok, exists_const] at h
  obtain ⟨_, _, ⟨lines, hlines, totals, _, rfl⟩, rfl⟩ := h
  intro row hrow
  obtain ⟨draftLine, hmem, rfl⟩ := List.mem_map.mp hrow
  obtain ⟨index, hindex, rfl⟩ := List.mem_mapIdx.mp hmem
  generalize hpair : (input.lines.zip (lines.map toCalculatedLine))[index] = pair
  have hzip : pair ∈ input.lines.zip (lines.map toCalculatedLine) :=
    hpair ▸ List.getElem_mem hindex
  obtain ⟨line, calculated⟩ := pair
  have hall : List.Forall₂ (fun line calculated => ∃ c, calculated = toCalculatedLine c
      ∧ calculateNormalVatLine input.priceInputMode line = .ok c) input.lines
      (lines.map toCalculatedLine) := by
    rw [List.forall₂_map_right_iff]
    exact (mapM_eq_ok.mp hlines).imp fun _ c hc => ⟨c, rfl, hc⟩
  obtain ⟨c, rfl, hc⟩ := List.forall₂_zip hall hzip
  simp only [calculateNormalVatLine, bind_eq_ok, orThrow_eq_ok, throwIf_eq_ok,
    exists_const] at hc
  obtain ⟨rate, _, _, hc⟩ := hc
  obtain ⟨_, hquantity, _, hrate, hprice, _⟩ := calculateInvoiceLine_spec hc
  refine ⟨rate, c, congrArg some hrate, ?_, rfl⟩
  rw [toDiscount_toInvoiceDraftLineRow]
  have hsame : (⟨c.quantityHundredths, c.unitPriceCents, rate, input.priceInputMode,
      line.discount⟩ : InvoiceLineCalculationInput)
      = ⟨line.quantityHundredths, line.unitPriceCents, rate, input.priceInputMode,
        line.discount⟩ := by
    rw [hquantity, hprice]
  exact hsame ▸ hc

variable {priceInputMode : PriceInputMode} {rows : List InvoiceDraftLineRow}
  {row : InvoiceDraftLineRow} {draft : InvoiceDraftRow} {totals : InvoiceTotals}

/-! ## A standard invoice with normal VAT -/

theorem PricedRow.spec (h : PricedRow priceInputMode row) : ∃ x : LineAmounts, Priced x
      ∧ StoredAmounts row.toLineColumns
      ∧ toLineAmounts priceInputMode row.toLineColumns = .ok x
      ∧ calculateLineAmounts priceInputMode .normalVat row.toLineColumns
        = .ok (lineAmounts row.toLineColumns) := by
  obtain ⟨rate, c, hrow, hc, hamounts⟩ := h
  obtain ⟨hpriced, hquantity, hmode, hrate, _, _⟩ := calculateInvoiceLine_spec hc
  have hall := hamounts
  simp only [lineAmounts, List.cons.injEq, and_true] at hall
  obtain ⟨hbase, hdiscount, hnet, hvat, hgross⟩ := hall
  refine ⟨c.toLineAmounts, hpriced, ?_, ?_, ?_⟩
  · have hreconciled := hpriced.reconciled
    have hdiscountLe := hpriced.discount_le
    have hbaseMax := hpriced.base.2
    have hgrossMax := hpriced.gross_le
    obtain ⟨hnetNonneg, hvatNonneg, hsum⟩ := hreconciled
    rw [StoredAmounts, hbase, hdiscount, hnet, hvat, hgross]
    exact ⟨hpriced.base, ⟨hpriced.discount_nonneg, by omega⟩, ⟨hnetNonneg, by omega⟩,
      ⟨hvatNonneg, by omega⟩, ⟨by omega, hgrossMax⟩⟩
  · rw [toLineAmounts, hrow, hbase, hdiscount, hnet, hvat, hgross]
    have hsame : c.toLineAmounts = ⟨row.quantityHundredths, priceInputMode, rate,
        c.baseCents, c.discountCents, c.netCents, c.vatCents, c.grossCents⟩ := by
      have hq : c.quantityHundredths = row.quantityHundredths := hquantity
      have hm : c.priceInputMode = priceInputMode := hmode
      have hr : c.vatRateBasisPoints = rate := hrate
      rw [← hq, ← hm, ← hr]
    rw [hsame]
    rfl
  · simp only [calculateLineAmounts, hrow, bind_eq_ok, orThrow_eq_ok, Option.some.injEq,
      exists_eq_left', pure_eq_ok]
    exact ⟨c, hc, hamounts.symm⟩

/-- Totals of priced lines are amounts. -/
theorem calculateInvoiceTotals_amounts {lines : List LineAmounts} (hlines : ∀ x ∈ lines, Priced x)
    (h : calculateInvoiceTotals lines = .ok totals) :
    IsAmount totals.netTotalCents ∧ IsAmount totals.vatTotalCents
      ∧ IsAmount totals.grossTotalCents := by
  obtain ⟨_, rfl, _, hnet, hvat, hgross⟩ := calculateInvoiceTotals_spec h
  have hinput : ∀ rate, 0 ≤ sumOn (·.inputCents) rate lines :=
    fun rate => sumOn_nonneg (fun x hx => (hlines x hx).input_nonneg)
  have hrate : ∀ rate ∈ ratesOf lines, 0 ≤ rate := by
    intro rate hmem
    obtain ⟨x, hx, rfl⟩ := mem_ratesOf.mp hmem
    exact (hlines x hx).rate.1
  have hnonneg : ∀ f : InvoiceVatBreakdown → Int,
      (∀ rate ∈ ratesOf lines, 0 ≤ f (rowOf lines rate)) →
      0 ≤ (((ratesOf lines).map (rowOf lines)).map f).sum := by
    intro f hf
    refine List.sum_nonneg (fun n hn => ?_)
    rw [List.map_map] at hn
    obtain ⟨rate, hmem, rfl⟩ := List.mem_map.mp hn
    exact hf rate hmem
  refine ⟨⟨hnonneg (·.netCents) fun rate hmem => ?_, hnet⟩,
    ⟨hnonneg (·.vatCents) fun rate hmem => ?_, hvat⟩,
    ⟨hnonneg (·.grossCents) fun rate hmem => ?_, hgross⟩⟩
  · exact netOf_nonneg (hrate rate hmem) (hinput rate)
  · exact vatOf_nonneg (hrate rate hmem) (hinput rate)
  · exact grossOf_nonneg (hrate rate hmem) (hinput rate)

/-- What the snapshot of an invoice holds against the validator. -/
theorem snapshot_validates {invoice : IssuedInvoice}
    (hlines : invoice.lines ≠ [])
    (hvalid : ∀ line ∈ invoice.lines, validateStoredLineAmounts invoice.invoiceKind
      invoice.priceInputMode invoice.taxTreatment line.toLineColumns = .ok ())
    (htotals : deriveTotals invoice.invoiceKind invoice.priceInputMode invoice.taxTreatment
      (invoice.lines.map (·.toLineColumns)) = .ok invoice.totals)
    (hamounts : IsAmount invoice.totals.netTotalCents ∧ IsAmount invoice.totals.vatTotalCents
      ∧ IsAmount invoice.totals.grossTotalCents) :
    validateLegacyInvoiceRevisionTotals (legacySnapshot invoice) = .ok invoice.totals := by
  refine validateLegacyInvoiceRevisionTotals_of rfl rfl rfl ?_ ?_ htotals ⟨rfl, rfl, rfl⟩
    hamounts
  · exact fun hnil => hlines (List.map_eq_nil_iff.mp hnil)
  · intro columns hcolumns
    obtain ⟨line, hline, rfl⟩ := List.mem_map.mp hcolumns
    exact hvalid line hline

/-- Writing a row as a line of the invoice keeps what the validator reads. -/
theorem createInvoiceLineRow_columns (row : InvoiceDraftLineRow) :
    lineAmounts (createInvoiceLineRow row).toLineColumns = lineAmounts row.toLineColumns
      ∧ (∀ mode, toLineAmounts mode (createInvoiceLineRow row).toLineColumns
        = toLineAmounts mode row.toLineColumns)
      ∧ (∀ mode tax, calculateLineAmounts mode tax (createInvoiceLineRow row).toLineColumns
        = calculateLineAmounts mode tax row.toLineColumns) := by
  refine ⟨rfl, fun mode => rfl, fun mode tax => ?_⟩
  rw [calculateLineAmounts.eq_def, calculateLineAmounts.eq_def,
    toDiscount_createInvoiceLineRow]
  rfl

/-- The validator accepts what the approval calculates. -/
private theorem normalVat_validates (hne : rows ≠ []) (hvat : draft.taxTreatment = .normalVat)
    (hrows : ∀ row ∈ rows, PricedRow draft.priceInputMode row)
    (h : calculateStoredDraftTotals draft rows = .ok totals) :
    validateLegacyInvoiceRevisionTotals (legacySnapshot ⟨.standard, draft.priceInputMode,
      .normalVat, totals, rows.map createInvoiceLineRow⟩) = .ok totals := by
  simp only [calculateStoredDraftTotals, hvat, bind_eq_ok] at h
  obtain ⟨amounts, hmapM, htotals⟩ := h
  -- the amounts that approval adds up are those of the rows
  have hamounts : List.Forall₂ (fun row x =>
      toLineAmounts draft.priceInputMode row.toLineColumns = .ok x ∧ Priced x) rows amounts := by
    have heach := mapM_eq_ok.mp hmapM
    clear hmapM htotals hne
    induction heach with
    | nil => exact List.Forall₂.nil
    | @cons row x rest xs hx _ ih =>
        refine List.Forall₂.cons ?_ (ih fun row hrow => hrows row (List.mem_cons_of_mem _ hrow))
        obtain ⟨y, hpriced, _, hy, _⟩ := (hrows row List.mem_cons_self).spec
        simp only [storedLineAmounts, requireNormalVatRate, bind_eq_ok, orThrow_eq_ok,
          throwIf_eq_ok, exists_const, pure_eq_ok] at hx
        obtain ⟨rate, ⟨r, hr, _, rfl⟩, rfl⟩ := hx
        simp only [toLineAmounts, bind_eq_ok, orThrow_eq_ok, pure_eq_ok] at hy ⊢
        obtain ⟨r', hr', rfl⟩ := hy
        obtain rfl : r = r' := Option.some.inj (hr.symm.trans hr')
        exact ⟨⟨r, hr, rfl⟩, hpriced⟩
  refine snapshot_validates (fun hnil => hne (List.map_eq_nil_iff.mp hnil)) ?_ ?_
    (calculateInvoiceTotals_amounts (fun x hx => ?_) htotals)
  · intro line hline
    obtain ⟨row, hrow, rfl⟩ := List.mem_map.mp hline
    obtain ⟨_, _, hstored, _, hcalculated⟩ := (hrows row hrow).spec
    obtain ⟨hsame, _, hcalc⟩ := createInvoiceLineRow_columns row
    refine validateStoredLineAmounts_eq_ok.mpr ⟨hstored, fun h => (by cases h), fun _ => ?_⟩
    rw [hcalc, hsame]
    exact hcalculated
  · simp only [deriveTotals, bind_eq_ok]
    refine ⟨amounts, mapM_eq_ok.mpr ?_, htotals⟩
    rw [List.map_map, List.forall₂_map_left_iff]
    exact hamounts.imp fun row x hx => ((createInvoiceLineRow_columns row).2.1 _).trans hx.1
  · obtain ⟨_, _, _, hpriced⟩ := exists_left_of_forall₂ hamounts hx
    exact hpriced

/-! ## Lines without VAT -/

/-- The validator adds up lines without VAT, whatever kind of invoice they are of. -/
theorem deriveTotals_untaxed {invoiceKind : InvoiceKind} {lines : List LineColumns}
    (hlines : ∀ line ∈ lines, line.vatRateBasisPoints = none ∧ line.vatCents = 0
      ∧ line.netCents = line.grossCents)
    (hmax : (lines.map (·.netCents)).sum ≤ maximumSafeInteger) :
    deriveTotals invoiceKind .net .reverseChargeConstruction lines
      = .ok ⟨(lines.map (·.netCents)).sum, 0, (lines.map (·.netCents)).sum, []⟩ := by
  simp only [deriveTotals, sumReverseChargeLines, bind_eq_ok, throwIf_eq_ok, exists_const,
    pure_eq_ok, and_true]
  refine ⟨fun h => h rfl, (), forM_eq_ok.mpr fun line hline => throwIf_of_not ?_,
    Int.not_lt.mpr hmax⟩
  obtain ⟨hrate, hvat, hgross⟩ := hlines line hline
  rintro (h | h | h)
  · exact h hrate
  · exact h hvat
  · exact h hgross

/-- A row without VAT whose amounts were calculated again. -/
def RecalculatedRow (priceInputMode : PriceInputMode) (row : InvoiceDraftLineRow)
    (calculated : CalculatedReverseChargeInvoiceLine) : Prop :=
  row.vatRateBasisPoints = none
    ∧ calculateReverseChargeInvoiceLine ⟨row.quantityHundredths, row.unitPriceCents,
      priceInputMode, toDiscount row.toLineColumns⟩ = .ok calculated
    ∧ lineAmounts row.toLineColumns = [calculated.baseCents, calculated.discountCents,
      calculated.netCents, calculated.vatCents, calculated.grossCents]

private theorem requireCalculatedLines_spec {lines : List CalculatedReverseChargeInvoiceLine}
    {u : Unit} (hlength : rows.length = lines.length)
    (h : requireCalculatedLines rows lines = .ok u) :
    List.Forall₂ (fun (row : InvoiceDraftLineRow) calculated =>
      row.baseCents = calculated.baseCents ∧ row.discountCents = calculated.discountCents
        ∧ row.netCents = calculated.netCents ∧ row.vatCents = 0
        ∧ row.grossCents = calculated.grossCents) rows lines := by
  induction rows generalizing lines with
  | nil =>
      obtain rfl : lines = [] := List.eq_nil_of_length_eq_zero hlength.symm
      exact List.Forall₂.nil
  | cons row rest ih =>
      cases lines with
      | nil => exact nomatch hlength
      | cons calculated lines =>
          simp only [requireCalculatedLines, bind_eq_ok, throwIf_eq_ok, exists_const, not_or,
            ne_eq, Decidable.not_not] at h
          exact List.Forall₂.cons h.1 (ih (Nat.succ.inj hlength) h.2)

private theorem storedLineInput_spec
    {input : ReverseCharge.ReverseChargeInvoiceLineCalculationInput}
    (h : storedLineInput priceInputMode row = .ok input) :
    row.vatRateBasisPoints = none ∧ input = ⟨row.quantityHundredths, row.unitPriceCents,
      priceInputMode, toDiscount row.toLineColumns⟩ := by
  simp only [storedLineInput, bind_eq_ok, throwIf_eq_ok, exists_const, pure_eq_ok, ne_eq,
    Decidable.not_not] at h
  obtain ⟨hrate, rfl⟩ := h
  refine ⟨hrate, ?_⟩
  congr 1
  rw [storedDiscount, toDiscount]
  cases row.discountType with
  | none => rfl
  | percentage => rfl
  | fixed => rfl

/-- **A REVERSE CHARGE DRAFT** is calculated again when it is approved. -/
private theorem recalculated_of_stored (hreverse : draft.taxTreatment = .reverseChargeConstruction)
    (h : calculateStoredDraftTotals draft rows = .ok totals) :
    ∃ lines, List.Forall₂ (RecalculatedRow draft.priceInputMode) rows lines
      ∧ (lines.map (·.netCents)).sum ≤ maximumSafeInteger
      ∧ totals = ⟨(lines.map (·.netCents)).sum, 0, (lines.map (·.netCents)).sum, []⟩ := by
  simp only [calculateStoredDraftTotals, hreverse, bind_eq_ok, pure_eq_ok] at h
  obtain ⟨inputs, hinputs, calculated, hcalculated, _, hrequired, rfl⟩ := h
  obtain ⟨_, htotals, hmax⟩ := ReverseCharge.calculateReverseChargeInvoice_spec hcalculated
  refine ⟨calculated.lines, ?_, hmax, htotals⟩
  simp only [calculateReverseChargeInvoice, bind_eq_ok, pure_eq_ok] at hcalculated
  obtain ⟨lines, hlines, _, _, rfl⟩ := hcalculated
  have heach : List.Forall₂ (fun (row : InvoiceDraftLineRow) calculated =>
      row.vatRateBasisPoints = none ∧ calculateReverseChargeInvoiceLine
        ⟨row.quantityHundredths, row.unitPriceCents, draft.priceInputMode,
          toDiscount row.toLineColumns⟩ = .ok calculated) rows lines := by
    refine forall₂_comp (fun row input c hinput hc => ?_) (mapM_eq_ok.mp hinputs)
      (mapM_eq_ok.mp hlines)
    obtain ⟨hrate, rfl⟩ := storedLineInput_spec hinput
    exact ⟨hrate, hc⟩
  have hstored := requireCalculatedLines_spec heach.length_eq hrequired
  refine List.forall₂_iff_zip.mpr ⟨heach.length_eq, fun {row c} hzip => ?_⟩
  obtain ⟨hrate, hc⟩ := List.forall₂_zip heach hzip
  obtain ⟨hbase, hdiscount, hnet, hvat, hgross⟩ := List.forall₂_zip hstored hzip
  refine ⟨hrate, hc, ?_⟩
  have huntaxed := (ReverseCharge.calculateReverseChargeInvoiceLine_spec hc).1
  rw [lineAmounts, hbase, hdiscount, hnet, hvat, hgross, huntaxed.vat]

private theorem RecalculatedRow.spec {calculated : CalculatedReverseChargeInvoiceLine}
    (h : RecalculatedRow priceInputMode row calculated) : priceInputMode = .net
      ∧ StoredAmounts row.toLineColumns ∧ row.netCents = calculated.netCents
      ∧ row.vatRateBasisPoints = none ∧ row.vatCents = 0 ∧ row.netCents = row.grossCents
      ∧ calculateLineAmounts priceInputMode .reverseChargeConstruction row.toLineColumns
        = .ok (lineAmounts row.toLineColumns) := by
  obtain ⟨hrate, hc, hamounts⟩ := h
  have huntaxed := (ReverseCharge.calculateReverseChargeInvoiceLine_spec hc).1
  have hall := hamounts
  simp only [lineAmounts, List.cons.injEq, and_true] at hall
  obtain ⟨hbase, hdiscount, hnet, hvat, hgross⟩ := hall
  have hnetNonneg := huntaxed.net_nonneg
  have hnetLe := huntaxed.net_le
  have hbaseMax := huntaxed.base.2
  have hdiscountLe := huntaxed.discount
  have hcalc := hc
  simp only [calculateReverseChargeInvoiceLine, bind_eq_ok, throwIf_eq_ok, exists_const,
    ne_eq, Decidable.not_not] at hcalc
  refine ⟨hcalc.1, ?_, hnet, hrate, hvat.trans huntaxed.vat,
    hnet.trans (huntaxed.gross.symm.trans hgross.symm), ?_⟩
  · rw [StoredAmounts, hbase, hdiscount, hnet, hvat, hgross, huntaxed.vat, huntaxed.gross]
    exact ⟨huntaxed.base, ⟨hdiscountLe.1, by omega⟩, ⟨hnetNonneg, hnetLe⟩, isAmount_zero,
      ⟨hnetNonneg, hnetLe⟩⟩
  · simp only [calculateLineAmounts, bind_eq_ok, pure_eq_ok]
    exact ⟨calculated, hc, hamounts.symm⟩

/-- The validator accepts what the approval calculates. -/
private theorem reverseCharge_validates (hne : rows ≠ [])
    (hreverse : draft.taxTreatment = .reverseChargeConstruction)
    (h : calculateStoredDraftTotals draft rows = .ok totals) :
    validateLegacyInvoiceRevisionTotals (legacySnapshot ⟨.standard, draft.priceInputMode,
      .reverseChargeConstruction, totals, rows.map createInvoiceLineRow⟩) = .ok totals := by
  obtain ⟨lines, hall, hmax, rfl⟩ := recalculated_of_stored hreverse h
  have hspec : ∀ row ∈ rows, ∃ calculated, RecalculatedRow draft.priceInputMode row calculated := by
    intro row hrow
    obtain ⟨c, _, hc⟩ := exists_right_of_forall₂ hall hrow
    exact ⟨c, hc⟩
  have hnet : draft.priceInputMode = .net := by
    obtain ⟨row, rest, rfl⟩ := List.exists_cons_of_ne_nil hne
    obtain ⟨c, hc⟩ := hspec row List.mem_cons_self
    exact hc.spec.1
  have hnets : ((rows.map createInvoiceLineRow).map (·.toLineColumns)).map (·.netCents)
      = lines.map (·.netCents) := by
    rw [List.map_map, List.map_map, ← List.forall₂_eq_eq_eq, List.forall₂_map_left_iff,
      List.forall₂_map_right_iff]
    exact hall.imp fun row c hc => hc.spec.2.2.1
  have hsumNonneg : 0 ≤ (lines.map (·.netCents)).sum := by
    refine List.sum_nonneg (fun n hn => ?_)
    obtain ⟨c, hc, rfl⟩ := List.mem_map.mp hn
    obtain ⟨row, _, hrow⟩ := exists_left_of_forall₂ hall hc
    exact (ReverseCharge.calculateReverseChargeInvoiceLine_spec hrow.2.1).1.net_nonneg
  refine snapshot_validates (fun hnil => hne (List.map_eq_nil_iff.mp hnil)) ?_ ?_
    ⟨⟨hsumNonneg, hmax⟩, isAmount_zero, ⟨hsumNonneg, hmax⟩⟩
  · intro line hline
    obtain ⟨row, hrow, rfl⟩ := List.mem_map.mp hline
    obtain ⟨c, hc⟩ := hspec row hrow
    obtain ⟨_, hstored, _, _, _, _, hcalculated⟩ := hc.spec
    obtain ⟨hsame, _, hcalc⟩ := createInvoiceLineRow_columns row
    refine validateStoredLineAmounts_eq_ok.mpr ⟨hstored, fun h => (nomatch h), fun _ => ?_⟩
    rw [hcalc, hsame]
    exact hcalculated
  · rw [hnet, ← hnets]
    refine deriveTotals_untaxed (fun columns hcolumns => ?_) (hnets ▸ hmax)
    obtain ⟨line, hline, rfl⟩ := List.mem_map.mp hcolumns
    obtain ⟨row, hrow, rfl⟩ := List.mem_map.mp hline
    obtain ⟨c, hc⟩ := hspec row hrow
    obtain ⟨_, _, _, hrate, hvat, hgross, _⟩ := hc.spec
    exact ⟨hrate, hvat, hgross⟩

/-- **A STANDARD INVOICE**, of a draft as it was saved, passes the validator. -/
theorem standard_validates {randomUUID : Nat → String} {input : InvoiceDraftInput}
    {content : PreparedInvoiceDraftContent} {confirmed : Bool} {invoice : IssuedInvoice}
    (hsaved : prepareInvoiceDraftContent randomUUID input = .ok content)
    (hmode : draft.priceInputMode = content.priceInputMode)
    (htax : draft.taxTreatment = content.taxTreatment)
    (h : approveDraft draft (toInvoiceDraftLineRows content) confirmed = .ok invoice) :
    validateLegacyInvoiceRevisionTotals (legacySnapshot invoice) = .ok invoice.totals := by
  simp only [approveDraft, bind_eq_ok, throwIf_eq_ok, exists_const, fromChecked_eq_ok,
    pure_eq_ok] at h
  obtain ⟨_, hlength, _, totals, htotals, _, _, rfl⟩ := h
  have hne : toInvoiceDraftLineRows content ≠ [] :=
    fun hnil => hlength (congrArg List.length hnil)
  have hinput : content.taxTreatment = input.taxTreatment := by
    simp only [prepareInvoiceDraftContent, bind_eq_ok, pure_eq_ok] at hsaved
    obtain ⟨_, _, _, _, rfl⟩ := hsaved
    rfl
  cases hcases : draft.taxTreatment with
  | normalVat =>
      have hrows := pricedRow_of_saved (hinput.symm.trans (htax.symm.trans hcases)) hsaved
      rw [← hmode] at hrows
      exact normalVat_validates hne hcases hrows htotals
  | reverseChargeConstruction => exact reverseCharge_validates hne hcases htotals

end InvoiceApproval
