import Eky.InvoiceApprovalProofs

/-! # Every issued invoice passes the check of a legacy revision

    The rows of a credit are its calculated lines, looked up one by one and written in the
    order of the draft; the check adds the same amounts up in another order.

    - `creditRows_perm`: every calculated line is written exactly once;
    - `credit_validates`: a credit of either tax treatment;
    - `issued_validates`: every issued invoice. -/

namespace InvoiceApproval

open Fallible OrderedMap InvoiceMoney VatGroups InvoiceCalculation LegacyRevision
open InvoiceForm (InvoiceTaxTreatment InvoiceDraftInput)
open ReverseCharge (CalculatedCreditDraftLine CalculatedCreditDraft ReverseChargeCreditSourceLine)
open CreditInvoice (CreditSourceLine RequestedCreditLine)
open CreditDraft (CalculatedNormalCreditDraft CalculatedNormalCreditDraftLine
  RequestedManualCreditLine calculateCreditInvoiceDraft sumCreditTotals)
open CreditDraftModel (InvoiceCreditAllocation)

/-! ## The rows of a credit -/

/-- What a row of a draft finds its calculated line by: the credited line, or itself. -/
def rowKey (row : InvoiceDraftLineRow) : String ⊕ String :=
  row.sourceInvoiceLineId.elim (.inr row.id) .inl

/-- The key that a calculated line is found by. -/
def calculatedKey (line : CalculatedCreditDraftLine) : String ⊕ String :=
  line.sourceInvoiceLineId.elim (.inr line.lineKey) .inl

/-- The row that is written for a calculated line: its amounts, and the rate of the line
    that is credited or of the draft. -/
structure WrittenFor (draftLines : List InvoiceDraftLineRow)
    (sourceLines : List InvoiceRevisionLineRow) (row : InvoiceLineRow)
    (line : CalculatedCreditDraftLine) : Prop where
  quantity : row.quantityHundredths = line.quantityHundredths
  amounts : lineAmounts row.toLineColumns
    = [line.baseCents, line.discountCents, line.netCents, line.vatCents, line.grossCents]
  sourceRate : ∀ id, line.sourceInvoiceLineId = some id → ∃ sourceLine ∈ sourceLines,
    sourceLine.lineId = id ∧ ∀ rate, sourceLine.vatRateBasisPoints = some rate →
      row.vatRateBasisPoints = some rate
  manualRate : line.sourceInvoiceLineId = none → ∃ draftLine ∈ draftLines,
    draftLine.sourceInvoiceLineId = none ∧ draftLine.id = line.lineKey
      ∧ row.vatRateBasisPoints = draftLine.vatRateBasisPoints

variable {line : CalculatedCreditDraftLine} {row : InvoiceLineRow}
  {previousAllocations : List InvoiceCreditAllocation} {rows : List InvoiceLineRow}

theorem get?_bySourceId {lines : List CalculatedCreditDraftLine} {id : String}
    (h : (bySourceId lines).get? id = some line) :
    line ∈ lines ∧ line.sourceInvoiceLineId = some id := by
  obtain ⟨x, hx, hpair⟩ := List.mem_filterMap.mp (mem_of_get?_ofList h)
  obtain ⟨id', hid, heq⟩ := Option.map_eq_some_iff.mp hpair
  obtain ⟨rfl, rfl⟩ := Prod.mk.inj heq
  exact ⟨hx, hid⟩

theorem get?_manualByKey {lines : List CalculatedCreditDraftLine} {key : String}
    (h : (manualByKey lines).get? key = some line) :
    line ∈ lines ∧ line.sourceInvoiceLineId = none ∧ line.lineKey = key := by
  obtain ⟨x, hx, heq⟩ := List.mem_map.mp (mem_of_get?_ofList h)
  obtain ⟨rfl, rfl⟩ := Prod.mk.inj heq
  obtain ⟨hmem, hnone⟩ := List.mem_filter.mp hx
  exact ⟨hmem, of_decide_eq_true hnone, rfl⟩

section Rows

variable {draftLines : List InvoiceDraftLineRow} {sourceLines : List InvoiceRevisionLineRow}
variable {lines : List CalculatedCreditDraftLine}

theorem createCreditInvoiceLineRow_spec {draftLine : InvoiceDraftLineRow}
    (hmem : draftLine ∈ draftLines)
    (h : createCreditInvoiceLineRow (ofList (sourceLines.map fun line => (line.lineId, line)))
      (bySourceId lines) (manualByKey lines) draftLine = .ok row) :
    ∃ line, (line ∈ lines ∧ calculatedKey line = rowKey draftLine)
      ∧ WrittenFor draftLines sourceLines row line := by
  rw [createCreditInvoiceLineRow.eq_def] at h
  cases hsource : draftLine.sourceInvoiceLineId with
  | none =>
      simp only [hsource, bind_eq_ok, orThrow_eq_ok, pure_eq_ok] at h
      obtain ⟨line, hline, rfl⟩ := h
      obtain ⟨hlines, hnone, hkey⟩ := get?_manualByKey hline
      refine ⟨line, ⟨hlines, ?_⟩, rfl, rfl, fun id hid => (by cases hnone.symm.trans hid),
        fun _ => ⟨draftLine, hmem, hsource, hkey.symm, rfl⟩⟩
      rw [calculatedKey, rowKey, hnone, hsource, hkey]
  | some id =>
      simp only [hsource, bind_eq_ok, orThrow_eq_ok, pure_eq_ok] at h
      obtain ⟨line, hline, sourceLine, hsourceLine, rfl⟩ := h
      obtain ⟨hlines, hid⟩ := get?_bySourceId hline
      refine ⟨line, ⟨hlines, ?_⟩, rfl, rfl, fun id' hid' => ?_,
        fun hnone => (by cases hid.symm.trans hnone)⟩
      · rw [calculatedKey, rowKey, hid, hsource]
        rfl
      · obtain rfl : id = id' := Option.some.inj (hid.symm.trans hid')
        obtain ⟨x, hx, heq⟩ := List.mem_map.mp (mem_of_get?_ofList hsourceLine)
        obtain ⟨rfl, rfl⟩ := Prod.mk.inj heq
        refine ⟨x, hx, rfl, fun rate hrate => ?_⟩
        show (x.vatRateBasisPoints <|> draftLine.vatRateBasisPoints) = some rate
        rw [hrate]
        rfl

private theorem requestedSourceLine_none {row : InvoiceDraftLineRow}
    (h : row.sourceInvoiceLineId = none) : requestedSourceLine row = none := by
  rw [requestedSourceLine, h]
  rfl

private theorem requestedSourceLine_some {row : InvoiceDraftLineRow} {id : String}
    (h : row.sourceInvoiceLineId = some id) :
    requestedSourceLine row = some ⟨id, row.quantityHundredths⟩ := by
  rw [requestedSourceLine, h]
  rfl

/-- Rows with ids of their own that credit different lines look for different lines. -/
private theorem nodup_rowKey (hids : (draftLines.map (·.id)).Nodup)
    (hrequested : ((draftLines.filterMap requestedSourceLine).map
      (·.sourceInvoiceLineId)).Nodup) : (draftLines.map rowKey).Nodup := by
  induction draftLines with
  | nil => exact List.nodup_nil
  | cons row rest ih =>
      rw [List.map_cons, List.nodup_cons] at hids ⊢
      cases hsource : row.sourceInvoiceLineId with
      | none =>
          rw [List.filterMap_cons_none (requestedSourceLine_none hsource)] at hrequested
          refine ⟨fun hmem => ?_, ih hids.2 hrequested⟩
          obtain ⟨other, hother, heq⟩ := List.mem_map.mp hmem
          rw [rowKey, rowKey, hsource] at heq
          cases hother' : other.sourceInvoiceLineId with
          | none =>
              rw [hother'] at heq
              exact hids.1 (List.mem_map.mpr ⟨other, hother, Sum.inr.inj heq⟩)
          | some id =>
              rw [hother'] at heq
              exact nomatch heq
      | some id =>
          rw [List.filterMap_cons_some (requestedSourceLine_some hsource), List.map_cons,
            List.nodup_cons] at hrequested
          refine ⟨fun hmem => ?_, ih hids.2 hrequested.2⟩
          obtain ⟨other, hother, heq⟩ := List.mem_map.mp hmem
          rw [rowKey, rowKey, hsource] at heq
          cases hother' : other.sourceInvoiceLineId with
          | none =>
              rw [hother'] at heq
              exact nomatch heq
          | some id' =>
              rw [hother'] at heq
              exact hrequested.1 (List.mem_map.mpr ⟨⟨id', other.quantityHundredths⟩,
                List.mem_filterMap.mpr ⟨other, hother, requestedSourceLine_some hother'⟩,
                Sum.inl.inj heq⟩)

/-- Every row requests a line of the source invoice or is written by hand. -/
private theorem length_requests (draftLines : List InvoiceDraftLineRow) :
    (draftLines.filterMap requestedSourceLine).length + (manualLines draftLines).length
      = draftLines.length := by
  induction draftLines with
  | nil => rfl
  | cons row rest ih =>
      cases hsource : row.sourceInvoiceLineId with
      | none =>
          have hmanual : manualLines (row :: rest) = row :: manualLines rest :=
            List.filter_cons_of_pos (decide_eq_true hsource)
          rw [List.filterMap_cons_none (requestedSourceLine_none hsource), hmanual,
            List.length_cons, List.length_cons]
          omega
      | some id =>
          have hmanual : manualLines (row :: rest) = manualLines rest :=
            List.filter_cons_of_neg (by simp [hsource])
          rw [List.filterMap_cons_some (requestedSourceLine_some hsource), hmanual,
            List.length_cons, List.length_cons]
          omega

/-- **THE ROWS OF A CREDIT** are its calculated lines, each of them once. -/
theorem creditRows_perm (hids : (draftLines.map (·.id)).Nodup)
    (hrequested : ((draftLines.filterMap requestedSourceLine).map
      (·.sourceInvoiceLineId)).Nodup)
    (hlength : lines.length = (draftLines.filterMap requestedSourceLine).length
      + (manualLines draftLines).length)
    (h : createCreditInvoiceLineRows draftLines sourceLines lines = .ok rows) :
    ∃ written, written.Perm lines
      ∧ List.Forall₂ (WrittenFor draftLines sourceLines) rows written := by
  have heach : List.Forall₂ (fun draftLine row => ∃ line,
      (line ∈ lines ∧ calculatedKey line = rowKey draftLine)
        ∧ WrittenFor draftLines sourceLines row line) draftLines rows := by
    refine List.forall₂_iff_zip.mpr ⟨(mapM_eq_ok.mp h).length_eq, fun {row c} hzip => ?_⟩
    exact createCreditInvoiceLineRow_spec (List.of_mem_zip hzip).1
      (List.forall₂_zip (mapM_eq_ok.mp h) hzip)
  obtain ⟨written, hfound, hwritten⟩ := forall₂_split heach
  refine ⟨written, perm_of_keys hfound (nodup_rowKey hids hrequested) ?_, hwritten⟩
  rw [hlength, length_requests]

end Rows

/-- What the lines of an issued credit hold against the validator. -/
private theorem validateCreditLine {mode : PriceInputMode} {tax : InvoiceTaxTreatment} {u : Unit}
    (hamounts : lineAmounts row.toLineColumns
      = [line.baseCents, line.discountCents, line.netCents, line.vatCents, line.grossCents])
    (hbase : IsAmount line.baseCents)
    (hdiscount : 0 ≤ line.discountCents ∧ line.discountCents ≤ line.baseCents)
    (hnet : 0 ≤ line.netCents) (hvat : 0 ≤ line.vatCents)
    (hsum : line.netCents + line.vatCents = line.grossCents)
    (hgross : line.grossCents ≤ maximumSafeInteger) (hprice : line.baseCents - line.discountCents
      = if mode = .net then line.netCents else line.grossCents) :
    validateStoredLineAmounts .credit mode tax row.toLineColumns = .ok u := by
  simp only [lineAmounts, List.cons.injEq, and_true] at hamounts
  obtain ⟨hrowBase, hrowDiscount, hrowNet, hrowVat, hrowGross⟩ := hamounts
  have hbaseMax := hbase.2
  refine validateStoredLineAmounts_eq_ok.mpr ⟨?_, fun _ => ?_, fun h => (by cases h)⟩
  · rw [StoredAmounts, hrowBase, hrowDiscount, hrowNet, hrowVat, hrowGross]
    exact ⟨hbase, ⟨hdiscount.1, by omega⟩, ⟨hnet, by omega⟩, ⟨hvat, by omega⟩,
      ⟨by omega, hgross⟩⟩
  · rw [inputCents, hrowBase, hrowDiscount, hrowNet, hrowGross]
    exact ⟨hdiscount.2, hprice⟩

/-! ## A credit with normal VAT -/

section NormalVat

variable {localeCompare : String → String → Int} {mode : PriceInputMode}
variable {sourceLines : List InvoiceRevisionLineRow} {draftLines : InvoiceDraftLines}
variable {sources : List CreditSourceLine} {manual : List RequestedManualCreditLine}
variable {allocations : List CreditDraft.PreviousCreditAllocation}
variable {d : CalculatedNormalCreditDraft}

private theorem toNormalVatSourceLine_spec {line : InvoiceRevisionLineRow}
    {source : CreditSourceLine} (h : toNormalVatSourceLine mode line = .ok source) :
    source.id = line.lineId ∧ line.vatRateBasisPoints = some source.vatRateBasisPoints
      ∧ source.priceInputMode = mode := by
  simp only [toNormalVatSourceLine, bind_eq_ok, orThrow_eq_ok, pure_eq_ok] at h
  obtain ⟨rate, hrate, rfl⟩ := h
  exact ⟨rfl, hrate, rfl⟩

private theorem toNormalVatManualLine_spec {line : InvoiceDraftLineRow}
    {request : RequestedManualCreditLine} (h : toNormalVatManualLine line = .ok request) :
    request.lineKey = line.id ∧ line.vatRateBasisPoints = some request.vatRateBasisPoints := by
  simp only [toNormalVatManualLine, bind_eq_ok, orThrow_eq_ok, pure_eq_ok] at h
  obtain ⟨rate, hrate, rfl⟩ := h
  exact ⟨rfl, hrate⟩

/-- The rate of a row is the rate that its line was calculated with. -/
private theorem rate_of_written
    (hsources : sourceLines.mapM (toNormalVatSourceLine mode) = .ok sources)
    (hmanual : (manualLines draftLines.rows).mapM toNormalVatManualLine = .ok manual)
    (hd : calculateCreditInvoiceDraft localeCompare sources allocations
      (draftLines.rows.filterMap requestedSourceLine) manual = .ok d)
    {y : CalculatedNormalCreditDraftLine} (hy : y ∈ d.lines)
    (h : WrittenFor draftLines.rows sourceLines row (toCreditDraftLine y)) :
    row.vatRateBasisPoints = some y.vatRateBasisPoints := by
  have haccepted := CreditDraft.calculateCreditInvoiceDraft_spec hd
  cases hsource : y.sourceInvoiceLineId with
  | none =>
      obtain ⟨draftLine, hdraftLine, _, hid, hrate⟩ := h.manualRate hsource
      obtain ⟨request, hrequest, hkey, hyrate⟩ :=
        CreditDraft.manual_of_accepted hd hy hsource
      obtain ⟨line, hline, hconverted⟩ := exists_source_of_mapM_ok hmanual hrequest
      obtain ⟨hlineKey, hlineRate⟩ := toNormalVatManualLine_spec hconverted
      have hsame : draftLine.id = line.id := hid.trans (hkey.trans hlineKey)
      obtain rfl : draftLine = line := List.inj_on_of_nodup_map draftLines.uniqueIds
        hdraftLine (List.mem_filter.mp hline).1 hsame
      rw [hrate, hlineRate, hyrate]
  | some id =>
      have hrequested : draftLines.rows.filterMap requestedSourceLine ≠ [] := by
        intro hnil
        obtain ⟨source, free, hlines, hrequests, hfree⟩ := haccepted.lines
        rw [hnil] at hrequests
        cases hrequests with
        | nil =>
            rw [hlines, List.nil_append] at hy
            obtain ⟨_, _, hnone⟩ := exists_left_of_forall₂ hfree hy
            exact nomatch hnone.symm.trans hsource
      have hids := CreditDraft.nodup_of_accepted hd hrequested
      obtain ⟨x, hx, hxid, hxrate, _⟩ := (haccepted.valid y hy).source id hsource
      obtain ⟨sourceLine, hsourceLine, hid, hrate⟩ := h.sourceRate id hsource
      obtain ⟨x', hx', hconverted⟩ := exists_of_mapM_ok hsources hsourceLine
      obtain ⟨hx'id, hx'rate, _⟩ := toNormalVatSourceLine_spec hconverted
      obtain rfl : x' = x := List.inj_on_of_nodup_map hids hx' hx
        (hx'id.trans (hid.trans hxid.symm))
      have hyrate : x'.vatRateBasisPoints = y.vatRateBasisPoints := hxrate
      exact hyrate ▸ hrate _ hx'rate

/-- The amounts of a line that has a rate. -/
def normalAmounts (line : CalculatedCreditDraftLine) : LineAmounts where
  quantityHundredths := line.quantityHundredths
  priceInputMode := line.priceInputMode
  vatRateBasisPoints := line.vatRateBasisPoints.getD 0
  baseCents := line.baseCents
  discountCents := line.discountCents
  netCents := line.netCents
  vatCents := line.vatCents
  grossCents := line.grossCents

/-- **A CREDIT WITH NORMAL VAT** passes the validator. -/
private theorem normalVatCredit_validates {sourceInvoice : InvoiceContentRevisionRow}
    {calculated : CalculatedCreditDraft} (hne : rows ≠ [])
    (hvat : sourceInvoice.taxTreatment = .normalVat)
    (hcalculated : calculateCreditDraftForApproval localeCompare sourceInvoice sourceLines
      previousAllocations draftLines.rows = .ok calculated)
    (hrows : createCreditInvoiceLineRows draftLines.rows sourceLines calculated.lines
      = .ok rows) :
    validateLegacyInvoiceRevisionTotals (legacySnapshot ⟨.credit, sourceInvoice.priceInputMode,
      .normalVat, calculated.totals, rows⟩) = .ok calculated.totals := by
  simp only [calculateCreditDraftForApproval, hvat, bind_eq_ok, pure_eq_ok] at hcalculated
  obtain ⟨sources, hsources, allocations, _, manual, hmanual, d, hd, rfl⟩ := hcalculated
  have haccepted := CreditDraft.calculateCreditInvoiceDraft_spec hd
  have hbalanced := CreditDraft.balanced_of_accepted hd
  have htotals := CreditDraft.sumCreditTotals_of_accepted hd
  have hmode : ∀ y ∈ d.lines, y.priceInputMode = sourceInvoice.priceInputMode := by
    intro y hy
    obtain ⟨x, hx, _, hxmode⟩ := (haccepted.valid y hy).known
    obtain ⟨line, _, hconverted⟩ := exists_source_of_mapM_ok hsources hx
    exact hxmode.symm.trans (toNormalVatSourceLine_spec hconverted).2.2
  have hlength : (d.lines.map toCreditDraftLine).length
      = (draftLines.rows.filterMap requestedSourceLine).length
        + (manualLines draftLines.rows).length := by
    obtain ⟨source, free, hlines, hrequests, hfree⟩ := haccepted.lines
    rw [List.length_map, hlines, List.length_append, ← hrequests.length_eq, ← hfree.length_eq,
      (mapM_eq_ok.mp hmanual).length_eq]
  obtain ⟨written, hperm, hwritten⟩ :=
    creditRows_perm draftLines.uniqueIds haccepted.unique hlength hrows
  -- what the validator reads off a row is the line that the row was written for
  have hread : List.Forall₂ (fun row line => ∃ y ∈ d.lines, line = toCreditDraftLine y
      ∧ WrittenFor draftLines.rows sourceLines row line
      ∧ toLineAmounts sourceInvoice.priceInputMode row.toLineColumns = .ok y.toLineAmounts)
      rows written := by
    refine List.forall₂_iff_zip.mpr ⟨hwritten.length_eq, fun {row line} hzip => ?_⟩
    have hrow := List.forall₂_zip hwritten hzip
    obtain ⟨y, hy, rfl⟩ := List.mem_map.mp (hperm.mem_iff.mp (List.of_mem_zip hzip).2)
    refine ⟨y, hy, rfl, hrow, ?_⟩
    have hamounts := hrow.amounts
    simp only [lineAmounts, List.cons.injEq, and_true] at hamounts
    obtain ⟨hbase, hdiscount, hnet, hvatCents, hgross⟩ := hamounts
    rw [toLineAmounts, rate_of_written hsources hmanual hd hy hrow, hbase, hdiscount, hnet,
      hvatCents, hgross, hrow.quantity, ← hmode y hy]
    rfl
  refine snapshot_validates hne (fun row hrow => ?_) ?_ ?_
  · obtain ⟨line, _, y, hy, rfl, hwrittenFor, _⟩ := exists_right_of_forall₂ hread hrow
    have hvalid := haccepted.valid y hy
    obtain ⟨hreconciled, hprice⟩ := hbalanced.reconciled y hy
    refine validateCreditLine hwrittenFor.amounts hvalid.base hvalid.discount
      hvalid.reconciled.1 hvalid.reconciled.2.1 hreconciled hvalid.gross_le ?_
    rw [LineAmounts.inputCents, hmode y hy] at hprice
    refine hprice.trans ?_
    show _ = if sourceInvoice.priceInputMode = .net then y.netCents else y.grossCents
    cases sourceInvoice.priceInputMode with
    | net => rfl
    | gross => rfl
  · simp only [deriveTotals, bind_eq_ok]
    refine ⟨written.map normalAmounts, mapM_eq_ok.mpr ?_, ?_⟩
    · rw [List.forall₂_map_left_iff, List.forall₂_map_right_iff]
      refine hread.imp fun row line hline => ?_
      obtain ⟨y, _, rfl, _, hamounts⟩ := hline
      exact hamounts
    · have hsame := hperm.map normalAmounts
      rw [List.map_map] at hsame
      exact CreditDraft.sumCreditTotals_perm hsame.symm htotals
  · have hmax := CreditDraft.sumCreditTotals_max htotals
    rw [List.map_map] at hmax
    exact hbalanced.amounts hmax

end NormalVat

/-! ## A credit without VAT -/

/-- **A CREDIT WITHOUT VAT** passes the validator. -/
private theorem reverseChargeCredit_validates {localeCompare : String → String → Int}
    {sourceLines : List InvoiceRevisionLineRow} {draftLines : InvoiceDraftLines}
    {sourceInvoice : InvoiceContentRevisionRow} {calculated : CalculatedCreditDraft} {u : Unit}
    (hne : rows ≠ []) (hreverse : sourceInvoice.taxTreatment = .reverseChargeConstruction)
    (hcalculated : calculateCreditDraftForApproval localeCompare sourceInvoice sourceLines
      previousAllocations draftLines.rows = .ok calculated)
    (hrows : createCreditInvoiceLineRows draftLines.rows sourceLines calculated.lines
      = .ok rows) (hguard : insertInvoiceLines .reverseChargeConstruction rows = .ok u) :
    validateLegacyInvoiceRevisionTotals (legacySnapshot ⟨.credit, sourceInvoice.priceInputMode,
      .reverseChargeConstruction, calculated.totals, rows⟩) = .ok calculated.totals := by
  simp only [calculateCreditDraftForApproval, hreverse, bind_eq_ok] at hcalculated
  obtain ⟨sources, hsources, allocations, _, manual, hmanual, hd⟩ := hcalculated
  have hnet : sourceInvoice.priceInputMode = .net := by
    simp only [toReverseChargeSourceLines, bind_eq_ok, throwIf_eq_ok, exists_const, ne_eq,
      Decidable.not_not] at hsources
    exact hsources.1
  have haccepted := ReverseCharge.calculateReverseChargeCreditInvoiceDraft_spec hd
  have hmax := ReverseCharge.net_le_of_accepted hd
  have hlength := ReverseCharge.length_of_accepted hd
  rw [← (mapM_eq_ok.mp hmanual).length_eq] at hlength
  obtain ⟨written, hperm, hwritten⟩ :=
    creditRows_perm draftLines.uniqueIds haccepted.unique hlength hrows
  have hrate : ∀ row ∈ rows, row.vatRateBasisPoints = none := by
    intro row hrow
    by_contra hsome
    cases (guardInvoiceLine_eq_ok.mp (forM_eq_ok.mp hguard row hrow)).mpr hsome
  have huntaxed : ∀ line ∈ written, ReverseCharge.Untaxed line.toCreditAmounts :=
    fun line hline => haccepted.untaxed line (hperm.mem_iff.mp hline)
  -- the columns of a row are the amounts of an untaxed line
  have hcolumns : List.Forall₂ (fun (row : InvoiceLineRow) (line : CalculatedCreditDraftLine) =>
      row.netCents = line.netCents ∧ row.vatCents = 0 ∧ row.netCents = row.grossCents)
      rows written := by
    refine List.forall₂_iff_zip.mpr ⟨hwritten.length_eq, fun {row line} hzip => ?_⟩
    have hline := huntaxed line (List.of_mem_zip hzip).2
    have hamounts := (List.forall₂_zip hwritten hzip).amounts
    simp only [lineAmounts, List.cons.injEq, and_true] at hamounts
    obtain ⟨_, _, hrowNet, hrowVat, hrowGross⟩ := hamounts
    exact ⟨hrowNet, hrowVat.trans hline.vat,
      hrowNet.trans (hline.gross.symm.trans hrowGross.symm)⟩
  have hnets : ((rows.map (·.toLineColumns)).map (·.netCents)).sum
      = (calculated.lines.map (·.netCents)).sum := by
    have hsame : (rows.map (·.toLineColumns)).map (·.netCents) = written.map (·.netCents) := by
      rw [List.map_map, ← List.forall₂_eq_eq_eq, List.forall₂_map_left_iff,
        List.forall₂_map_right_iff]
      exact hcolumns.imp fun _ _ h => h.1
    rw [hsame]
    exact (hperm.map _).sum_eq
  have hnonneg : 0 ≤ (calculated.lines.map (·.netCents)).sum := List.sum_nonneg (fun n hn => by
    obtain ⟨line, hline, rfl⟩ := List.mem_map.mp hn
    exact (haccepted.untaxed line hline).net_nonneg)
  rw [hnet, haccepted.totals]
  refine snapshot_validates hne (fun row hrow => ?_) ?_
    ⟨⟨hnonneg, hmax⟩, isAmount_zero, ⟨hnonneg, hmax⟩⟩
  · obtain ⟨line, hline, hwrittenFor⟩ := exists_right_of_forall₂ hwritten hrow
    have hline := huntaxed line hline
    have hvat := hline.vat
    have hgross := hline.gross
    refine validateCreditLine hwrittenFor.amounts hline.base hline.discount hline.net_nonneg
      (Int.le_of_eq hvat.symm) (by omega) (hgross ▸ hline.net_le) ?_
    rw [if_pos rfl, hline.net]
  · show deriveTotals .credit .net .reverseChargeConstruction _ = _
    rw [deriveTotals_untaxed (fun columns hmem => ?_) (hnets ▸ hmax), hnets]
    · rfl
    · obtain ⟨row, hrow, rfl⟩ := List.mem_map.mp hmem
      obtain ⟨_, _, _, hvat, hgross⟩ := exists_right_of_forall₂ hcolumns hrow
      exact ⟨hrate row hrow, hvat, hgross⟩

/-- A credit of either tax treatment passes the validator, whatever was credited before. -/
theorem credit_validates {localeCompare : String → String → Int} {draft : InvoiceDraftRow}
    {source : Option (InvoiceContentRevisionRow × List InvoiceRevisionLineRow)}
    {draftLines : InvoiceDraftLines} {invoice : IssuedInvoice}
    (h : approveCreditDraft localeCompare draft source draftLines previousAllocations
      = .ok invoice) :
    validateLegacyInvoiceRevisionTotals (legacySnapshot invoice) = .ok invoice.totals := by
  simp only [approveCreditDraft, bind_eq_ok, throwIf_eq_ok, exists_const, fromChecked_eq_ok,
    pure_eq_ok] at h
  obtain ⟨_, ⟨sourceInvoice, sourceLines⟩, _, _, hlength, calculated, hcalculated, rows, hrows,
    _, hguard, rfl⟩ := h
  have hne : rows ≠ [] := by
    rintro rfl
    exact hlength (mapM_eq_ok.mp hrows).length_eq
  dsimp only at hguard ⊢
  cases hcases : sourceInvoice.taxTreatment with
  | normalVat => exact normalVatCredit_validates hne hcases hcalculated hrows
  | reverseChargeConstruction =>
      exact reverseChargeCredit_validates hne hcases hcalculated hrows (hcases ▸ hguard)

/-! ## Every issued invoice -/

/-- What an approval issues: a standard invoice of a draft as it was saved, or a credit
    after any earlier credits. -/
inductive Issued (localeCompare : String → String → Int) : IssuedInvoice → Prop
  | standard {randomUUID : Nat → String} {input : InvoiceDraftInput}
      {content : PreparedInvoiceDraftContent} {draft : InvoiceDraftRow} {confirmed : Bool}
      {invoice : IssuedInvoice}
      (hsaved : prepareInvoiceDraftContent randomUUID input = .ok content)
      (hmode : draft.priceInputMode = content.priceInputMode)
      (htax : draft.taxTreatment = content.taxTreatment)
      (happroved : approveDraft draft (toInvoiceDraftLineRows content) confirmed
        = .ok invoice) : Issued localeCompare invoice
  | credit {draft : InvoiceDraftRow}
      {source : Option (InvoiceContentRevisionRow × List InvoiceRevisionLineRow)}
      {draftLines : InvoiceDraftLines} {previousAllocations : List InvoiceCreditAllocation}
      {invoice : IssuedInvoice}
      (happroved : approveCreditDraft localeCompare draft source draftLines
        previousAllocations = .ok invoice) : Issued localeCompare invoice

/-- **EVERY ISSUED INVOICE** passes the validator, with the totals it was issued with. -/
theorem issued_validates {localeCompare : String → String → Int} {invoice : IssuedInvoice}
    (h : Issued localeCompare invoice) :
    validateLegacyInvoiceRevisionTotals (legacySnapshot invoice) = .ok invoice.totals := by
  cases h with
  | standard hsaved hmode htax happroved =>
      exact standard_validates hsaved hmode htax happroved
  | credit happroved => exact credit_validates happroved

/-- A line of two cents. -/
def pairColumns (vatCents grossCents : Int) : LineColumns :=
  ⟨100, 2, some 2400, .none, 0, 2, 0, 2, vatCents, grossCents⟩

/-- A credit of two lines in the other order, whose one cent of VAT is on one of them. -/
def pairCredit : IssuedInvoice :=
  ⟨.credit, .net, .normalVat, ⟨4, 1, 5, [⟨2400, 4, 1, 5⟩]⟩,
    [⟨pairColumns 1 3, "row-1", some "line-2", 1⟩,
      ⟨pairColumns 0 2, "row-2", some "line-1", 2⟩]⟩

theorem pairCredit_validates :
    validateLegacyInvoiceRevisionTotals (legacySnapshot pairCredit) = .ok pairCredit.totals := by
  refine @issued_validates (fun _ _ => 0) _ (Issued.credit
    (?_ : approveCreditDraft (fun _ _ => 0)
      ⟨.credit, some "invoice-1", none, .net, .normalVat, some "2026-01-01", none, none⟩
      (some (⟨.net, .normalVat, some "2026-01-01", none, none⟩,
        [⟨pairColumns 0 2, "line-1", 1⟩, ⟨pairColumns 0 2, "line-2", 2⟩]))
      ⟨[⟨pairColumns 0 2, "row-1", some "line-2", 1⟩,
        ⟨pairColumns 0 2, "row-2", some "line-1", 2⟩], by decide⟩ [] = .ok pairCredit))
  decide +kernel

end InvoiceApproval
