import Eky.InvoiceDraftForm
import Eky.InvoicePreviewProofs

/-! # A draft is opened and stored again, and a valid form is mapped

    The amounts of a draft are shown as decimal texts with a comma, which the mapping reads
    back: the whole part by a division of doubles, which is exact for safe integers, and by
    digits on the way back.  So opening a draft and storing it changes nothing.

    The form that is checked and the form that is mapped agree on the rows one by one, but
    the check does not ask for a row, nor for a VAT rate in it; and the errors of a row whose
    id is `__proto__` are written where nobody looks for them. -/

namespace InvoiceForm

open Fallible InvoiceMoney InvoiceCalculation
open CreditInvoice (textLength)
open JavaScript (isWhiteSpace)
open InvoicePreview (Parsed)

/-! ## Texts without blanks -/

theorem trim_of_plain {text : List Char} (h : ∀ c ∈ text, isWhiteSpace c = false) :
    trim (String.ofList text) = String.ofList text := by
  rw [trim, String.toList_ofList, JavaScript.trim_of_forall h]

theorem isWhiteSpace_of_isDigit {c : Char} (h : c.isDigit = true) : isWhiteSpace c = false := by
  obtain ⟨hlow, hhigh⟩ := Decimals.toNat_of_isDigit h
  simp only [isWhiteSpace, List.mem_cons, List.not_mem_nil, Bool.or_eq_false_iff,
    Bool.and_eq_false_iff, decide_eq_false_iff_not, or_false]
  omega

/-! ## Numbers written and read -/

theorem digits_of_number (n : Nat) : Decimals.IsDigits (Nat.toDigits 10 n) :=
  ⟨Nat.toDigits_ne_nil, fun _ hc => Nat.isDigit_of_mem_toDigits (by decide) (by decide) hc⟩

theorem toList_toString (n : Nat) : (toString (n : Int)).toList = Nat.toDigits 10 n := by
  show (toString n).toList = Nat.toDigits 10 n
  rw [Nat.toString_eq_ofList_toDigits, String.toList_ofList]

variable {value : String} {taxTreatment : InvoiceTaxTreatment} {isLetterOrNumber : Char → Bool}
  {n : Int} {row : InvoiceRowForm}

/-- A whole number is read back. -/
theorem parseNonNegativeInteger_toString (h : IsAmount n) :
    parseNonNegativeInteger (toString n) = some n := by
  obtain ⟨m, rfl⟩ := Int.eq_ofNat_of_zero_le h.1
  have hdigits := digits_of_number m
  have htext : toString (m : Int) = String.ofList (Nat.toDigits 10 m) := by
    rw [← toList_toString, String.ofList_toList]
  have htrim : trim (toString (m : Int)) = toString (m : Int) := by
    rw [htext]
    exact trim_of_plain fun c hc => isWhiteSpace_of_isDigit (hdigits.2 c hc)
  have hvalue : digitsValue (Nat.toDigits 10 m) = m := Nat.ofDigitChars_ten_toDigits
  have hall : (Nat.toDigits 10 m).all Char.isDigit = true := List.all_eq_true.mpr hdigits.2
  unfold parseNonNegativeInteger
  simp only [htrim, toList_toString, hvalue]
  rw [if_neg]
  rintro (hnil | hnot | hlarge)
  · exact hdigits.1 hnil
  · exact hnot hall
  · exact absurd h.2 (Int.not_le.mpr hlarge)

theorem replaceComma_append {digits rest : List Char} (h : ∀ c ∈ digits, c.isDigit = true) :
    replaceComma (digits ++ ',' :: rest) = digits ++ '.' :: rest := by
  induction digits with
  | nil => rfl
  | cons c digits ih =>
      have hc : c ≠ ',' := by
        rintro rfl
        exact absurd (h ',' List.mem_cons_self) (by decide)
      rw [List.cons_append, replaceComma, if_neg hc,
        ih fun d hd => h d (List.mem_cons_of_mem c hd)]
      rfl

theorem matchDecimal_append {digits fraction : List Char} (h : Decimals.IsDigits digits)
    (hfraction : ∀ c ∈ fraction, c.isDigit = true) (hlength : fraction.length = 2) :
    matchDecimal (digits ++ '.' :: fraction) = some (digits, fraction) := by
  have hstop : ('.' : Char).isDigit = false := by decide
  have htake : (digits ++ '.' :: fraction).takeWhile Char.isDigit = digits := by
    rw [List.takeWhile_append_of_pos h.2, List.takeWhile_cons, hstop, if_neg (by decide),
      List.append_nil]
  have hdrop : (digits ++ '.' :: fraction).dropWhile Char.isDigit = '.' :: fraction := by
    rw [List.dropWhile_append_of_pos h.2, List.dropWhile_cons, hstop, if_neg (by decide)]
  unfold matchDecimal
  rw [htake, hdrop]
  dsimp only
  rw [if_pos ⟨rfl, h.1, List.all_eq_true.mpr hfraction, by omega, by omega⟩]

/-- The text of an amount: the whole part, a comma and two digits. -/
theorem formatScaledInput_eq {n : Nat} (h : IsAmount n) :
    formatScaledInput n =
      String.ofList (Nat.toDigits 10 (n / 100) ++ ',' :: Decimals.padded 2 (n % 100)) := by
  have hfloor : ⌊DoubleRounding.divide (n : Int) 100⌋ = ((n / 100 : Nat) : Int) := by
    have hmax := h.2
    simp only [maximumSafeInteger] at hmax
    rw [DoubleRounding.floor_divide h.1 (by omega)]
    rfl
  have hfraction : ((n : Int) % 100).toNat = n % 100 := by omega
  have hsign : ¬ (n : Int) < 0 := Int.not_lt.mpr h.1
  have hwhole : toString ((n / 100 : Nat) : Int) = String.ofList (Nat.toDigits 10 (n / 100)) := by
    rw [← toList_toString, String.ofList_toList]
  unfold formatScaledInput
  simp only [if_neg hsign, Int.natAbs_natCast, hfloor, hfraction, hwhole]
  rw [String.ext_iff]
  simp [twoDigits]

/-- **AMOUNTS ARE READ BACK** -/
theorem parseScaledDecimal_format (h : IsAmount n) :
    parseScaledDecimal (formatScaledInput n) 2 = some n := by
  obtain ⟨m, rfl⟩ := Int.eq_ofNat_of_zero_le h.1
  have hwhole := digits_of_number (m / 100)
  have hfraction : Decimals.IsDigits (Decimals.padded 2 (m % 100)) := Decimals.isDigits_padded
  have hlength : (Decimals.padded 2 (m % 100)).length = 2 :=
    Decimals.length_padded (by decide) (Nat.mod_lt m (by decide))
  have htrim : trim (formatScaledInput m) = formatScaledInput m := by
    rw [formatScaledInput_eq h]
    refine trim_of_plain fun c hc => ?_
    rcases List.mem_append.mp hc with hc | hc
    · exact isWhiteSpace_of_isDigit (hwhole.2 c hc)
    · rcases List.mem_cons.mp hc with rfl | hc
      · decide
      · exact isWhiteSpace_of_isDigit (hfraction.2 c hc)
  have hmatch : matchDecimal (replaceComma (trim (formatScaledInput m)).toList)
      = some (Nat.toDigits 10 (m / 100), Decimals.padded 2 (m % 100)) := by
    rw [htrim, formatScaledInput_eq h, String.toList_ofList, replaceComma_append hwhole.2,
      matchDecimal_append hwhole hfraction.2 hlength]
  have hvalues : digitsValue (Nat.toDigits 10 (m / 100)) = m / 100
      ∧ digitsValue (Decimals.padded 2 (m % 100)) = m % 100 :=
    ⟨Nat.ofDigitChars_ten_toDigits, Decimals.value_padded⟩
  unfold parseScaledDecimal
  rw [hmatch]
  simp only [hlength, Nat.sub_self, List.replicate_zero, List.append_nil, hvalues.1, hvalues.2]
  have hsum : ((m / 100 : Nat) : Int) * 10 ^ 2 + ((m % 100 : Nat) : Int) = m := by omega
  rw [hsum, if_neg]
  rintro (htwo | hlarge)
  · exact htwo rfl
  · exact absurd h.2 (Int.not_le.mpr hlarge)

/-! ## Opening a draft and storing it -/

/-- The lines that a draft of this treatment is stored with. -/
structure StoredLine (taxTreatment : InvoiceTaxTreatment) (line : InvoiceDraftLineInput) :
    Prop where
  quantityHundredths : IsAmount line.quantityHundredths
  unitPriceCents : IsAmount line.unitPriceCents
  discount : Parsed line.discount
  description : trim line.description = line.description
  unit : trim line.unit = line.unit
  vatRateBasisPoints : match taxTreatment with
    | .normalVat => ∃ rate, line.vatRateBasisPoints = some rate ∧ 0 < rate
    | .reverseChargeConstruction => line.vatRateBasisPoints = none

/-- The dates of a performance period. -/
def periodTexts : InvoicePerformancePeriod → List String
  | .singleDate date => [date]
  | .dateRange startDate endDate => [startDate, endDate]
  | .invoiceDate => []

/-- The texts of a draft outside its lines. -/
def InvoiceDraft.texts (draft : InvoiceDraft) : List String :=
  [draft.customerId, draft.billingRecipientCustomerId.getD "", draft.invoiceDate, draft.dueDate,
    draft.subject, draft.orderNumber, draft.note, draft.deliveryAddressText]
    ++ periodTexts draft.performancePeriod

/-- What a stored draft satisfies. -/
structure StoredDraft (draft : InvoiceDraft) : Prop where
  lines_ne_nil : draft.lines ≠ []
  lines : ∀ line ∈ draft.lines, StoredLine draft.taxTreatment line
  paymentTermDays : IsAmount draft.paymentTermDays
  reminderPeriodDays : IsAmount draft.reminderPeriodDays
  latePaymentInterestBasisPoints : IsAmount draft.latePaymentInterestBasisPoints
  texts : ∀ text ∈ draft.texts, trim text = text

/-- A text that is left out when it is empty. -/
def givenText (text : String) : Option String := if text = "" then none else some text

/-- The input that has what the draft has. -/
def InvoiceDraft.toInput (draft : InvoiceDraft) : InvoiceDraftInput where
  customerId := draft.customerId
  billingRecipientCustomerId := givenText (draft.billingRecipientCustomerId.getD "")
  invoiceDate := draft.invoiceDate
  dueDate := draft.dueDate
  paymentTermDays := draft.paymentTermDays
  reminderPeriodDays := some draft.reminderPeriodDays
  latePaymentInterestBasisPoints := some draft.latePaymentInterestBasisPoints
  priceInputMode := draft.priceInputMode
  taxTreatment := draft.taxTreatment
  performancePeriod := draft.performancePeriod
  subject := givenText draft.subject
  orderNumber := givenText draft.orderNumber
  note := givenText draft.note
  deliveryAddressText := givenText draft.deliveryAddressText
  lines := draft.lines

theorem optionalTrimmedString_of_trimmed {text : String} (h : trim text = text) :
    optionalTrimmedString text = givenText text := by
  rw [optionalTrimmedString, givenText, h]

/-- Neither a whole number nor an amount is written as an empty text. -/
theorem trim_ne_empty_of_parsed {text : String}
    (h : parseNonNegativeInteger text = some n ∨ parseScaledDecimal text 2 = some n) :
    trim text ≠ "" := by
  intro hempty
  rcases h with h | h
  · have hnone : parseNonNegativeInteger text = none := by
      unfold parseNonNegativeInteger
      rw [hempty]
      rfl
    rw [hnone] at h
    exact nomatch h
  · have hnone : parseScaledDecimal text 2 = none := by
      unfold parseScaledDecimal
      rw [hempty]
      rfl
    rw [hnone] at h
    exact nomatch h

theorem mapDiscount_toInvoiceRowForm {index : Nat} {line : InvoiceDraftLineInput}
    (h : Parsed line.discount) : mapDiscount (toInvoiceRowForm index line) = .ok line.discount := by
  unfold mapDiscount toInvoiceRowForm
  cases hdiscount : line.discount with
  | none => rfl
  | percentage basisPoints =>
      rw [hdiscount] at h
      have hparse : parsePercentageBasisPoints (formatScaledInput basisPoints)
          = some basisPoints := parseScaledDecimal_format h
      simp only [getDiscountType, formatDiscountValue, hparse]
      rfl
  | fixed amountCents =>
      rw [hdiscount] at h
      have hparse : parseEuroCents (formatScaledInput amountCents) = some amountCents :=
        parseScaledDecimal_format h
      simp only [getDiscountType, formatDiscountValue, hparse]
      rfl

theorem mapInvoiceDraftLine_toInvoiceRowForm {index : Nat} {line : InvoiceDraftLineInput}
    (h : StoredLine taxTreatment line) :
    mapInvoiceDraftLine taxTreatment (toInvoiceRowForm index line) = .ok line := by
  have hquantity : parseQuantityHundredths (formatScaledInput line.quantityHundredths)
      = some line.quantityHundredths := parseScaledDecimal_format h.quantityHundredths
  have hprice : parseEuroCents (formatScaledInput line.unitPriceCents)
      = some line.unitPriceCents := parseScaledDecimal_format h.unitPriceCents
  have hrate : ¬ (taxTreatment = .normalVat ∧ ∀ rate ∈ line.vatRateBasisPoints, rate ≤ 0) := by
    rintro ⟨rfl, hall⟩
    obtain ⟨rate, hsome, hpos⟩ := h.vatRateBasisPoints
    exact absurd (hall rate hsome) (Int.not_le.mpr hpos)
  have hsent : sentVatRate (toInvoiceRowForm index line) taxTreatment
      = line.vatRateBasisPoints := by
    cases taxTreatment with
    | normalVat => rfl
    | reverseChargeConstruction => exact h.vatRateBasisPoints.symm
  simp only [mapInvoiceDraftLine, bind_eq_ok, orThrow_eq_ok, throwIf_eq_ok, pure_eq_ok]
  refine ⟨_, hquantity, _, hprice, (), hrate, _, mapDiscount_toInvoiceRowForm h.discount, ?_⟩
  rw [hsent]
  show InvoiceDraftLineInput.mk (trim line.description) _ (trim line.unit) _ _ _ = line
  rw [h.description, h.unit]

theorem mapM_toInvoiceRowForm {lines : List InvoiceDraftLineInput}
    (h : ∀ line ∈ lines, StoredLine taxTreatment line) :
    (lines.mapIdx toInvoiceRowForm).mapM (mapInvoiceDraftLine taxTreatment) = .ok lines := by
  rw [mapM_eq_ok, List.forall₂_iff_get]
  refine ⟨List.length_mapIdx, fun i hi hi' => ?_⟩
  simp only [List.get_eq_getElem, List.getElem_mapIdx]
  exact mapInvoiceDraftLine_toInvoiceRowForm (h _ (List.getElem_mem hi'))

theorem mapPerformancePeriod_of_draft {draft : InvoiceDraft} (h : StoredDraft draft) :
    mapPerformancePeriod (toNewInvoiceFormStateFromDraft draft) = draft.performancePeriod := by
  have htexts : ∀ text ∈ periodTexts draft.performancePeriod, trim text = text :=
    fun text htext => h.texts text (List.mem_append_right _ htext)
  unfold mapPerformancePeriod toNewInvoiceFormStateFromDraft
  cases hperiod : draft.performancePeriod with
  | singleDate date =>
      rw [hperiod] at htexts
      exact congrArg _ (htexts date List.mem_cons_self)
  | dateRange startDate endDate =>
      rw [hperiod] at htexts
      exact congrArg₂ _ (htexts startDate List.mem_cons_self)
        (htexts endDate (List.mem_cons_of_mem _ List.mem_cons_self))
  | invoiceDate => rfl

/-- **NOTHING CHANGES** -/
theorem toInvoiceDraftInput_of_draft {draft : InvoiceDraft} (h : StoredDraft draft) :
    toInvoiceDraftInput (toNewInvoiceFormStateFromDraft draft) = .ok draft.toInput := by
  have hterm := parseNonNegativeInteger_toString h.paymentTermDays
  have hreminder := parseNonNegativeInteger_toString h.reminderPeriodDays
  have hinterest := parseScaledDecimal_format h.latePaymentInterestBasisPoints
  have hreminder' : parseOptionalNonNegativeInteger (toString draft.reminderPeriodDays)
      = some (some draft.reminderPeriodDays) := by
    rw [parseOptionalNonNegativeInteger, if_neg (trim_ne_empty_of_parsed (.inl hreminder)),
      hreminder]
    rfl
  have hinterest' : parseOptionalPercentageBasisPoints
      (formatScaledInput draft.latePaymentInterestBasisPoints)
      = some (some draft.latePaymentInterestBasisPoints) := by
    rw [parseOptionalPercentageBasisPoints, if_neg (trim_ne_empty_of_parsed (.inr hinterest)),
      parsePercentageBasisPoints, hinterest]
    rfl
  have hlines : (toNewInvoiceFormStateFromDraft draft).lines ≠ [] := by
    intro hnil
    exact h.lines_ne_nil (List.mapIdx_eq_nil_iff.mp hnil)
  simp only [toInvoiceDraftInput, bind_eq_ok, orThrow_eq_ok, throwIf_eq_ok, pure_eq_ok]
  refine ⟨_, hterm, _, hreminder', _, hinterest', (), hlines, _,
    mapM_toInvoiceRowForm h.lines, ?_⟩
  have htrim : ∀ text ∈ draft.texts, optionalTrimmedString text = givenText text :=
    fun text htext => optionalTrimmedString_of_trimmed (h.texts text htext)
  have htexts := h.texts
  rw [mapPerformancePeriod_of_draft h]
  simp only [InvoiceDraft.texts, List.cons_append, List.nil_append, List.forall_mem_cons]
    at htrim htexts
  obtain ⟨hcustomer, -, hinvoiceDate, hdueDate, -⟩ := htexts
  obtain ⟨-, hrecipient, -, -, hsubject, horder, hnote, haddress, -⟩ := htrim
  simp only [toNewInvoiceFormStateFromDraft, InvoiceDraft.toInput, hcustomer, hinvoiceDate,
    hdueDate, hrecipient, hsubject, horder, hnote, haddress]

/-! ## Mapping a valid form -/

/-- The numbers of a row can be read. -/
structure Readable (row : InvoiceRowForm) : Prop where
  quantity : parseQuantityHundredths row.quantity ≠ none
  unitPrice : parseEuroCents row.unitPrice ≠ none
  discount : match row.discountType with
    | .none => True
    | .percentage => parsePercentageBasisPoints row.discountValue ≠ none
    | .fixed => parseEuroCents row.discountValue ≠ none

/-- The row has the rate that its treatment asks for. -/
def Taxed (taxTreatment : InvoiceTaxTreatment) (row : InvoiceRowForm) : Prop :=
  taxTreatment = .normalVat → ∃ rate, row.vatRateBasisPoints = some rate ∧ 0 < rate

theorem taxed_iff : ¬ (taxTreatment = .normalVat ∧ ∀ rate ∈ row.vatRateBasisPoints, rate ≤ 0) ↔
      Taxed taxTreatment row := by
  unfold Taxed
  constructor
  · intro h hnormal
    by_contra hnone
    refine h ⟨hnormal, fun rate hrate => ?_⟩
    by_contra hpos
    exact hnone ⟨rate, hrate, Int.not_le.mp hpos⟩
  · rintro h ⟨hnormal, hall⟩
    obtain ⟨rate, hrate, hpos⟩ := h hnormal
    exact absurd (hall rate hrate) (Int.not_le.mpr hpos)

theorem mapDiscount_ok_iff :
    (∃ discount, mapDiscount row = .ok discount) ↔ match row.discountType with
      | .none => True
      | .percentage => parsePercentageBasisPoints row.discountValue ≠ none
      | .fixed => parseEuroCents row.discountValue ≠ none := by
  unfold mapDiscount
  cases row.discountType with
  | none => exact ⟨fun _ => trivial, fun _ => ⟨_, rfl⟩⟩
  | percentage =>
      cases parsePercentageBasisPoints row.discountValue with
      | none => exact ⟨fun ⟨_, h⟩ => (nomatch h), fun h => absurd rfl h⟩
      | some basisPoints => exact ⟨fun _ => Option.some_ne_none _, fun _ => ⟨_, rfl⟩⟩
  | fixed =>
      cases parseEuroCents row.discountValue with
      | none => exact ⟨fun ⟨_, h⟩ => (nomatch h), fun h => absurd rfl h⟩
      | some amountCents => exact ⟨fun _ => Option.some_ne_none _, fun _ => ⟨_, rfl⟩⟩

theorem mapInvoiceDraftLine_ok_iff : (∃ line, mapInvoiceDraftLine taxTreatment row = .ok line) ↔
      Readable row ∧ Taxed taxTreatment row := by
  simp only [mapInvoiceDraftLine, bind_eq_ok, orThrow_eq_ok, throwIf_eq_ok, pure_eq_ok, taxed_iff]
  constructor
  · rintro ⟨_, quantity, hquantity, price, hprice, -, htaxed, discount, hdiscount, -⟩
    refine ⟨⟨?_, ?_, mapDiscount_ok_iff.mp ⟨discount, hdiscount⟩⟩, htaxed⟩
    · rw [hquantity]
      exact Option.some_ne_none _
    · rw [hprice]
      exact Option.some_ne_none _
  · rintro ⟨⟨hquantity, hprice, hdiscount⟩, htaxed⟩
    obtain ⟨quantity, hquantity⟩ := Option.ne_none_iff_exists'.mp hquantity
    obtain ⟨price, hprice⟩ := Option.ne_none_iff_exists'.mp hprice
    obtain ⟨discount, hdiscount⟩ := mapDiscount_ok_iff.mpr hdiscount
    exact ⟨_, quantity, hquantity, price, hprice, (), htaxed, discount, hdiscount, rfl⟩

/-- The three numbers of the form outside its rows can be read. -/
structure ReadableTerms (form : NewInvoiceFormState) : Prop where
  paymentTermDays : parseNonNegativeInteger form.paymentTermDays ≠ none
  reminderPeriodDays : parseOptionalNonNegativeInteger form.reminderPeriodDays ≠ none
  latePaymentInterest :
    parseOptionalPercentageBasisPoints form.latePaymentInterestPercent ≠ none

theorem toInvoiceDraftInput_ok_iff {form : NewInvoiceFormState} :
    (∃ input, toInvoiceDraftInput form = .ok input) ↔
      ReadableTerms form ∧ form.lines ≠ []
        ∧ ∀ row ∈ form.lines, Readable row ∧ Taxed form.taxTreatment row := by
  simp only [toInvoiceDraftInput, bind_eq_ok, orThrow_eq_ok, throwIf_eq_ok, pure_eq_ok]
  constructor
  · rintro ⟨_, term, hterm, reminder, hreminder, interest, hinterest, -, hne, lines, hlines, -⟩
    refine ⟨⟨?_, ?_, ?_⟩, hne, fun row hrow => ?_⟩
    · rw [hterm]
      exact Option.some_ne_none _
    · rw [hreminder]
      exact Option.some_ne_none _
    · rw [hinterest]
      exact Option.some_ne_none _
    · obtain ⟨line, -, hline⟩ := exists_of_mapM_ok hlines hrow
      exact mapInvoiceDraftLine_ok_iff.mp ⟨line, hline⟩
  · rintro ⟨⟨hterm, hreminder, hinterest⟩, hne, hrows⟩
    obtain ⟨term, hterm⟩ := Option.ne_none_iff_exists'.mp hterm
    obtain ⟨reminder, hreminder⟩ := Option.ne_none_iff_exists'.mp hreminder
    obtain ⟨interest, hinterest⟩ := Option.ne_none_iff_exists'.mp hinterest
    obtain ⟨lines, hlines⟩ := mapM_total fun row hrow =>
      mapInvoiceDraftLine_ok_iff.mpr (hrows row hrow)
    exact ⟨_, term, hterm, reminder, hreminder, interest, hinterest, (), hne, lines, hlines, rfl⟩

/-! ## What a valid form has -/

theorem readable_of_valid (h : validateInvoiceDraftLine isLetterOrNumber row = {}) :
    Readable row := by
  obtain ⟨-, hdiscount, hquantity, -, hprice⟩ := InvoiceDraftLineFormErrors.mk.inj h
  refine ⟨fun hnone => ?_, fun hnone => ?_, ?_⟩
  · rw [validateQuantity, hnone] at hquantity
    exact nomatch hquantity
  · rw [if_pos hnone] at hprice
    exact nomatch hprice
  · unfold validateDiscountValue at hdiscount
    revert hdiscount
    cases row.discountType with
    | none => exact fun _ => trivial
    | percentage =>
        intro hdiscount hnone
        simp only [hnone] at hdiscount
        exact nomatch hdiscount
    | fixed =>
        intro hdiscount hnone
        simp only [hnone] at hdiscount
        exact nomatch hdiscount

theorem keys_addLineErrors {lines : OrderedMap String InvoiceDraftLineFormErrors} :
    (addLineErrors isLetterOrNumber lines row).keys = [] ↔
      lines.keys = []
        ∧ (validateInvoiceDraftLine isLetterOrNumber row = {} ∨ row.id = prototypeKey) := by
  unfold addLineErrors
  by_cases hskip : validateInvoiceDraftLine isLetterOrNumber row = {} ∨ row.id = prototypeKey
  · rw [if_pos hskip]
    exact ⟨fun h => ⟨h, hskip⟩, fun h => h.1⟩
  · rw [if_neg hskip, OrderedMap.keys_set]
    constructor
    · intro h
      split at h
      · next hmem =>
          rw [h] at hmem
          exact absurd hmem List.not_mem_nil
      · exact absurd h (List.append_ne_nil_of_right_ne_nil _ (List.cons_ne_nil _ _))
    · exact fun h => absurd h.2 hskip

/-- No error is kept for any row. -/
theorem keys_lineErrors {rows : List InvoiceRowForm}
    {lines : OrderedMap String InvoiceDraftLineFormErrors} :
    (rows.foldl (addLineErrors isLetterOrNumber) lines).keys = [] ↔
      lines.keys = [] ∧ ∀ row ∈ rows,
        validateInvoiceDraftLine isLetterOrNumber row = {} ∨ row.id = prototypeKey := by
  induction rows generalizing lines with
  | nil => exact ⟨fun h => ⟨h, fun _ hrow => nomatch hrow⟩, fun h => h.1⟩
  | cons row rest ih =>
      rw [List.foldl_cons, ih, keys_addLineErrors, List.forall_mem_cons, and_assoc]

theorem isDigitText_iff {text : List Char} :
    isDigitText text = true ↔ text ≠ [] ∧ text.all Char.isDigit = true := by
  rw [isDigitText, Bool.and_eq_true, decide_eq_true_eq]

/-- Digits that are worth a safe integer are a whole number. -/
theorem readable_digits (hdigits : isDigitText (trim value).toList = true)
    (hrange : ¬ (digitsValue (trim value).toList : Int) > maximumSafeInteger) :
    parseNonNegativeInteger value ≠ none := by
  rw [isDigitText_iff] at hdigits
  unfold parseNonNegativeInteger
  rw [if_neg]
  · exact Option.some_ne_none _
  · rintro (hnil | hnot | hlarge)
    · exact hdigits.1 hnil
    · exact hnot hdigits.2
    · exact hrange hlarge

theorem readable_paymentTerm (h : validatePaymentTerm value = none) :
    parseNonNegativeInteger value ≠ none := by
  simp only [validatePaymentTerm] at h
  by_cases hdigits : isDigitText (trim value).toList = true
  · by_cases hrange : (digitsValue (trim value).toList : Int) > maximumSafeInteger
    · rw [hdigits, if_pos hrange] at h
      exact nomatch h
    · exact readable_digits hdigits hrange
  · rw [Bool.not_eq_true] at hdigits
    rw [hdigits] at h
    exact nomatch h

theorem readable_reminderPeriod (h : validateReminderPeriod value = none) :
    parseOptionalNonNegativeInteger value ≠ none := by
  unfold parseOptionalNonNegativeInteger
  by_cases hempty : trim value = ""
  · rw [if_pos hempty]
    exact Option.some_ne_none _
  · have hne : (trim value).toList ≠ [] := fun hnil => hempty (String.toList_eq_nil_iff.mp hnil)
    simp only [validateReminderPeriod, if_neg hne] at h
    rw [if_neg hempty]
    refine fun hnone => readable_digits ?_ ?_ (Option.map_eq_none_iff.mp hnone)
    · by_contra hdigits
      rw [Bool.not_eq_true] at hdigits
      rw [hdigits] at h
      exact nomatch h
    · intro hrange
      by_cases hdigits : isDigitText (trim value).toList = true
      · rw [hdigits, if_pos (Or.inl hrange)] at h
        exact nomatch h
      · rw [Bool.not_eq_true] at hdigits
        rw [hdigits] at h
        exact nomatch h

theorem readable_latePaymentInterest (h : validateLatePaymentInterest value = none) :
    parseOptionalPercentageBasisPoints value ≠ none := by
  intro hnone
  rw [validateLatePaymentInterest, hnone] at h
  exact nomatch h

/-- What the mapping needs of a valid form. -/
theorem readable_of_isValid {form : NewInvoiceFormState} {reverseChargeCustomerEligible : Bool}
    (h : (validateInvoiceDraftForm isLetterOrNumber form reverseChargeCustomerEligible).isValid
      = true) : ReadableTerms form ∧ ∀ row ∈ form.lines, Readable row ∨ row.id = prototypeKey := by
  simp only [validateInvoiceDraftForm, formErrors, Bool.and_eq_true, Option.isNone_iff_eq_none]
    at h
  obtain ⟨⟨⟨⟨⟨⟨⟨⟨⟨-, hterm⟩, hreminder⟩, hinterest⟩, -⟩, -⟩, -⟩, -⟩, -⟩, hlines⟩ := h
  refine ⟨⟨readable_paymentTerm hterm, readable_reminderPeriod hreminder,
    readable_latePaymentInterest hinterest⟩, fun row hrow => ?_⟩
  rcases (keys_lineErrors.mp (of_decide_eq_true hlines)).2 row hrow with hvalid | hkey
  · exact .inl (readable_of_valid hvalid)
  · exact .inr hkey

/-- What the check leaves to the form: a row, the rate of every row, and the numbers of a
    row whose errors are lost. -/
structure Mappable (form : NewInvoiceFormState) : Prop where
  lines_ne_nil : form.lines ≠ []
  taxed : ∀ row ∈ form.lines, Taxed form.taxTreatment row
  readable : ∀ row ∈ form.lines, row.id = prototypeKey → Readable row

/-- **OPENING, CHECKING AND MAPPING** -/
theorem draft_kept_and_valid_form_mapped_iff (isLetterOrNumber : Char → Bool)
    (draft : InvoiceDraft) (form : NewInvoiceFormState) (reverseChargeCustomerEligible : Bool) :
    (StoredDraft draft →
      toInvoiceDraftInput (toNewInvoiceFormStateFromDraft draft) = .ok draft.toInput)
    ∧ ((validateInvoiceDraftForm isLetterOrNumber form reverseChargeCustomerEligible).isValid
        = true →
      ((∃ input, toInvoiceDraftInput form = .ok input) ↔ Mappable form)) := by
  refine ⟨fun h => toInvoiceDraftInput_of_draft h, ?_⟩
  intro hvalid
  obtain ⟨hterms, hrows⟩ := readable_of_isValid hvalid
  rw [toInvoiceDraftInput_ok_iff]
  constructor
  · rintro ⟨-, hne, hall⟩
    exact ⟨hne, fun row hrow => (hall row hrow).2, fun row hrow _ => (hall row hrow).1⟩
  · rintro ⟨hne, htaxed, hreadable⟩
    refine ⟨hterms, hne, fun row hrow => ⟨?_, htaxed row hrow⟩⟩
    rcases hrows row hrow with h | hkey
    · exact h
    · exact hreadable row hrow hkey

/-- A draft of one line whose amounts have cents. -/
def sampleDraft : InvoiceDraft where
  customerId := "customer-1"
  billingRecipientCustomerId := none
  invoiceDate := "2026-01-01"
  dueDate := "2026-01-15"
  paymentTermDays := 14
  reminderPeriodDays := 7
  latePaymentInterestBasisPoints := 950
  priceInputMode := .gross
  taxTreatment := .normalVat
  performancePeriod := .singleDate "2025-12-30"
  subject := ""
  orderNumber := "A-7"
  note := ""
  deliveryAddressText := ""
  lines := [⟨"Work", 105, "h", 9007199254740991, some 2550, .percentage 5⟩]

theorem sample_draft_kept :
    toInvoiceDraftInput (toNewInvoiceFormStateFromDraft sampleDraft) = .ok sampleDraft.toInput
      ∧ ∃ input, toInvoiceDraftInput InvoicePreview.sampleForm = .ok input := by
  have hstored : StoredDraft sampleDraft := by
    refine ⟨by decide, ?_, by decide, by decide, by decide, by decide +kernel⟩
    intro line hline
    obtain rfl := List.mem_singleton.mp hline
    have hdiscount : IsAmount 5 := by decide
    exact ⟨by decide, by decide, hdiscount, by decide +kernel, by decide +kernel, 2550, rfl,
      by decide⟩
  have hvalid : (validateInvoiceDraftForm Char.isAlphanum InvoicePreview.sampleForm false).isValid
      = true := by
    decide +kernel
  have hmappable : Mappable InvoicePreview.sampleForm := by
    have hkeys : ∀ row ∈ InvoicePreview.sampleForm.lines, row.id ≠ prototypeKey := by
      decide +kernel
    have hrates : ∀ row ∈ InvoicePreview.sampleForm.lines,
        ∃ rate ∈ [2550, 1400], row.vatRateBasisPoints = some rate := by
      decide +kernel
    refine ⟨by decide, fun row hrow _ => ?_, fun row hrow hkey => absurd hkey (hkeys row hrow)⟩
    obtain ⟨rate, hmem, hrate⟩ := hrates row hrow
    exact ⟨rate, hrate, (by decide : ∀ r ∈ [2550, 1400], (0 : Int) < r) rate hmem⟩
  obtain ⟨hkept, hmapped⟩ := draft_kept_and_valid_form_mapped_iff Char.isAlphanum sampleDraft
    InvoicePreview.sampleForm false
  exact ⟨hkept hstored, (hmapped hvalid).mpr hmappable⟩

/-- A valid form with the given rate in its only row. -/
def formWithRate (vatRateBasisPoints : Option Int) : NewInvoiceFormState :=
  { InvoicePreview.sampleForm with
    lines := [⟨"invoice-row-1", "Work", "1,5", "h", "10,00", vatRateBasisPoints, .none, ""⟩] }

/-- A form without rows, one whose only row has no VAT rate, and one whose row has the rate 0,
    which the settings may offer: all are valid, and none can be mapped. -/
theorem valid_forms_not_mapped :
    ((validateInvoiceDraftForm Char.isAlphanum { InvoicePreview.sampleForm with lines := [] }
          false).isValid = true
        ∧ toInvoiceDraftInput { InvoicePreview.sampleForm with lines := [] }
          = .error mappingError)
      ∧ ((validateInvoiceDraftForm Char.isAlphanum (formWithRate none) false).isValid = true
          ∧ toInvoiceDraftInput (formWithRate none) = .error mappingError)
      ∧ (validateInvoiceDraftForm Char.isAlphanum (formWithRate (some 0)) false).isValid = true
          ∧ toInvoiceDraftInput (formWithRate (some 0)) = .error mappingError := by
  decide +kernel

end InvoiceForm
