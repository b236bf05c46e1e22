import Eky.Decimals
import Eky.DoubleRounding
import Eky.InvoiceForm
import Eky.OrderedMap

/-! # Opening and checking the invoice form

    `toNewInvoiceFormStateFromDraft` fills the form from a stored draft, and
    `validateInvoiceDraftForm` decides whether the form may be sent.  Both stand beside the
    mapping of the form to a draft: the first is undone by it, and what the second accepts the
    mapping is then given. -/

namespace InvoiceForm

open Fallible InvoiceMoney InvoiceCalculation
open CreditInvoice (textLength)

/-! ## Opening a draft -/

/-- The fields of a stored draft that the form has. -/
structure InvoiceDraft where
  customerId : String
  billingRecipientCustomerId : Option String
  invoiceDate : String
  dueDate : String
  paymentTermDays : Int
  reminderPeriodDays : Int
  latePaymentInterestBasisPoints : Int
  priceInputMode : PriceInputMode
  taxTreatment : InvoiceTaxTreatment
  performancePeriod : InvoicePerformancePeriod
  subject : String
  orderNumber : String
  note : String
  deliveryAddressText : String
  lines : List InvoiceDraftLineInput
  deriving DecidableEq

/-- `String(n).padStart(2, '0')` -/
def twoDigits (n : Nat) : String := String.ofList (Decimals.padded 2 n)

/-- `absoluteValue / 100` is a division of doubles. -/
def formatScaledInput (value : Int) : String :=
  let sign := if value < 0 then "-" else ""
  let absoluteValue : Int := value.natAbs
  let wholePart := ⌊DoubleRounding.divide absoluteValue 100⌋
  let fractionPart := twoDigits (absoluteValue % 100).toNat
  sign ++ toString wholePart ++ "," ++ fractionPart

/-- The type of a discount in the form. -/
def getDiscountType : InvoiceLineDiscount → InvoiceRowDiscountType
  | .none => .none
  | .percentage _ => .percentage
  | .fixed _ => .fixed

/-- The value of a discount in the form. -/
def formatDiscountValue : InvoiceLineDiscount → String
  | .none => ""
  | .percentage basisPoints => formatScaledInput basisPoints
  | .fixed amountCents => formatScaledInput amountCents

/-- A stored line as a row of the form. -/
def toInvoiceRowForm (index : Nat) (line : InvoiceDraftLineInput) : InvoiceRowForm where
  id := "invoice-row-" ++ toString (index + 1)
  description := line.description
  quantity := formatScaledInput line.quantityHundredths
  unit := line.unit
  unitPrice := formatScaledInput line.unitPriceCents
  vatRateBasisPoints := line.vatRateBasisPoints
  discountType := getDiscountType line.discount
  discountValue := formatDiscountValue line.discount

/-- The date of a single day. -/
def performanceDateOf : InvoicePerformancePeriod → String
  | .singleDate date => date
  | _ => ""

/-- The last day of a range. -/
def performancePeriodEndOf : InvoicePerformancePeriod → String
  | .dateRange _ endDate => endDate
  | _ => ""

/-- The first day of a range. -/
def performancePeriodStartOf : InvoicePerformancePeriod → String
  | .dateRange startDate _ => startDate
  | _ => ""

/-- The kind of period. -/
def performancePeriodTypeOf : InvoicePerformancePeriod → PerformancePeriodType
  | .singleDate _ => .singleDate
  | .dateRange _ _ => .dateRange
  | .invoiceDate => .invoiceDate

/-- A stored draft as a form. -/
def toNewInvoiceFormStateFromDraft (draft : InvoiceDraft) : NewInvoiceFormState where
  billingRecipientCustomerId := draft.billingRecipientCustomerId.getD ""
  customerId := draft.customerId
  deliveryAddressText := draft.deliveryAddressText
  dueDate := draft.dueDate
  invoiceDate := draft.invoiceDate
  latePaymentInterestPercent := formatScaledInput draft.latePaymentInterestBasisPoints
  lines := draft.lines.mapIdx toInvoiceRowForm
  note := draft.note
  orderNumber := draft.orderNumber
  paymentTermDays := toString draft.paymentTermDays
  performanceDate := performanceDateOf draft.performancePeriod
  performancePeriodEnd := performancePeriodEndOf draft.performancePeriod
  performancePeriodStart := performancePeriodStartOf draft.performancePeriod
  performancePeriodType := performancePeriodTypeOf draft.performancePeriod
  priceInputMode := draft.priceInputMode
  reminderPeriodDays := toString draft.reminderPeriodDays
  subject := draft.subject
  taxTreatment := draft.taxTreatment

/-! ## Checking the form -/

/-- The errors of a row. -/
structure InvoiceDraftLineFormErrors where
  description : Option String := none
  discountValue : Option String := none
  quantity : Option String := none
  unit : Option String := none
  unitPrice : Option String := none
  deriving DecidableEq

/-- The errors of a form. -/
structure InvoiceDraftFormErrors where
  customerId : Option String
  deliveryAddressText : Option String
  dueDate : Option String
  invoiceDate : Option String
  latePaymentInterestPercent : Option String
  lines : OrderedMap String InvoiceDraftLineFormErrors
  paymentTermDays : Option String
  performanceDate : Option String
  performancePeriodEnd : Option String
  performancePeriodStart : Option String
  reminderPeriodDays : Option String
  taxTreatment : Option String

/-- `Date.UTC` takes a year below 100 for one of the twentieth century. -/
def isValidIsoDate (value : String) : Bool :=
  match value.toList with
  | [y1, y2, y3, y4, '-', m1, m2, '-', d1, d2] =>
      let year := digitsValue [y1, y2, y3, y4]
      let month := digitsValue [m1, m2]
      let day := digitsValue [d1, d2]
      [y1, y2, y3, y4, m1, m2, d1, d2].all Char.isDigit && 100 ≤ year && 1 ≤ month
        && month ≤ 12 && 1 ≤ day && day ≤ JavaScript.daysInMonth year month
  | _ => false

/-- The check of the invoice date. -/
def validateInvoiceDate (invoiceDate : String) : Option String :=
  if invoiceDate = "" then some "Syötä laskun päiväys."
  else if !isValidIsoDate invoiceDate then some "Syötä päiväys muodossa vvvv-kk-pp."
  else none

/-- The check of the due date. -/
def validateDueDate (invoiceDate dueDate : String) : Option String :=
  if dueDate = "" then some "Syötä eräpäivä."
  else if !isValidIsoDate dueDate then some "Syötä päiväys muodossa vvvv-kk-pp."
  else if (validateInvoiceDate invoiceDate).isNone && dueDate < invoiceDate then
    some "Eräpäivä ei voi olla ennen laskun päiväystä."
  else none

/-- `^\d+$` -/
def isDigitText (text : List Char) : Bool := text ≠ [] && text.all Char.isDigit

/-- The check of the payment term. -/
def validatePaymentTerm (value : String) : Option String :=
  let normalizedValue := (trim value).toList
  if !isDigitText normalizedValue then
    some "Syötä maksuehto kokonaisina päivinä, vähintään 0."
  else if (digitsValue normalizedValue : Int) > maximumSafeInteger then
    some "Syötä maksuehto kokonaisina päivinä, vähintään 0."
  else none

/-- The check of the reminder period. -/
def validateReminderPeriod (value : String) : Option String :=
  let normalizedValue := (trim value).toList
  if normalizedValue = [] then none
  else if !isDigitText normalizedValue then
    some "Syötä huomautusaika kokonaisina päivinä väliltä 0–365."
  else if (digitsValue normalizedValue : Int) > maximumSafeInteger
      ∨ digitsValue normalizedValue > 365 then
    some "Syötä huomautusaika kokonaisina päivinä väliltä 0–365."
  else none

/-- The check of the late payment interest. -/
def validateLatePaymentInterest (value : String) : Option String :=
  match parseOptionalPercentageBasisPoints value with
  | none => some "Viivästyskorko pitää antaa prosenttina, esimerkiksi 9,50."
  | some none => none
  | some (some basisPoints) =>
      if basisPoints > 100000 then
        some "Viivästyskorko pitää antaa prosenttina, esimerkiksi 9,50."
      else none

/-- The check of the delivery address. -/
def validateDeliveryAddressText (value : String) : Option String :=
  if textLength (trim value) > 500 then
    some "Toimitus- tai kohdetieto saa olla enintään 500 merkkiä."
  else none

/-- The check of the tax treatment. -/
def validateTaxTreatment (form : NewInvoiceFormState) (reverseChargeCustomerEligible : Bool) :
    Option String :=
  match form.taxTreatment with
  | .normalVat => none
  | .reverseChargeConstruction =>
      if form.priceInputMode ≠ .net then
        some "Käännetty verovelvollisuus sallii vain verottomien hintojen syöttämisen."
      else if !reverseChargeCustomerEligible then
        some "Käännetty verovelvollisuus vaatii yritysasiakkaan ja tämän Y-tunnuksen."
      else none

/-- The check of a single day. -/
def validatePerformanceDate (form : NewInvoiceFormState) : Option String :=
  if form.performancePeriodType = .singleDate
      ∧ isValidIsoDate (trim form.performanceDate) = false then
    some "Anna kelvollinen suorituspäivä."
  else none

/-- The check of a range's first day. -/
def validatePerformancePeriodStart (form : NewInvoiceFormState) : Option String :=
  if form.performancePeriodType = .dateRange
      ∧ isValidIsoDate (trim form.performancePeriodStart) = false then
    some "Anna kelvollinen laskutusjakson alkamispäivä."
  else none

/-- The check of a range's last day. -/
def validatePerformancePeriodEnd (form : NewInvoiceFormState) : Option String :=
  if form.performancePeriodType ≠ .dateRange then none
  else if !isValidIsoDate (trim form.performancePeriodEnd) then
    some "Anna kelvollinen laskutusjakson päättymispäivä."
  else if (validatePerformancePeriodStart form).isNone
      && trim form.performancePeriodEnd < trim form.performancePeriodStart then
    some "Laskutusjakson päättymispäivä ei saa olla ennen alkamispäivää."
  else none

section Lines

-- the letters and numbers of Unicode: any set may stand for them
variable (isLetterOrNumber : Char → Bool)

/-- Characters of a unit. -/
def maximumInvoiceUnitLength : Nat := 8

/-- `^[\p{L}\p{N}.-]+$` -/
def isValidInvoiceUnit (value : String) : Bool :=
  let normalizedValue := trim value
  textLength normalizedValue > 0 && textLength normalizedValue ≤ maximumInvoiceUnitLength
    && normalizedValue.toList.all fun c => isLetterOrNumber c || c = '.' || c = '-'

/-- The check of a discount. -/
def validateDiscountValue (row : InvoiceRowForm) : Option String :=
  match row.discountType with
  | .none => none
  | .percentage =>
      match parsePercentageBasisPoints row.discountValue with
      | none => some "Syötä prosenttialennus väliltä 0–100."
      | some discountValue =>
          if discountValue > 10000 then some "Syötä prosenttialennus väliltä 0–100." else none
  | .fixed =>
      match parseEuroCents row.discountValue with
      | none => some "Syötä euromääräinen alennus nollana tai positiivisena arvona."
      | some _ => none

/-- The check of a quantity. -/
def validateQuantity (value : String) : Option String :=
  match parseQuantityHundredths value with
  | none => some "Syötä määrä enintään kahdella desimaalilla."
  | some quantityHundredths =>
      if quantityHundredths = 0 then some "Määrän pitää olla suurempi kuin 0." else none

/-- The checks of a row. -/
def validateInvoiceDraftLine (row : InvoiceRowForm) : InvoiceDraftLineFormErrors where
  description := if trim row.description = "" then some "Kirjoita riville nimike." else none
  quantity := validateQuantity row.quantity
  unit :=
    if !isValidInvoiceUnit isLetterOrNumber row.unit then
      some ("Syötä yksikkö 1–8 merkillä. "
        ++ "Sallitut merkit ovat kirjaimet, numerot, piste ja väliviiva.")
    else none
  unitPrice :=
    if parseEuroCents row.unitPrice = none then
      some "Syötä yksikköhinta nollana tai positiivisena euromääränä."
    else none
  discountValue := validateDiscountValue row

/-- A record with this key is given another prototype instead of an entry. -/
def prototypeKey : String := "__proto__"

/-- `errors.lines[row.id] = lineErrors` -/
def addLineErrors (lines : OrderedMap String InvoiceDraftLineFormErrors)
    (row : InvoiceRowForm) : OrderedMap String InvoiceDraftLineFormErrors :=
  let lineErrors := validateInvoiceDraftLine isLetterOrNumber row
  if lineErrors = {} ∨ row.id = prototypeKey then lines else lines.set row.id lineErrors

/-- The checks of a form. -/
def formErrors (form : NewInvoiceFormState) (reverseChargeCustomerEligible : Bool) :
    InvoiceDraftFormErrors where
  customerId :=
    if trim form.customerId = "" then some "Valitse laskutettava asiakas." else none
  invoiceDate := validateInvoiceDate (trim form.invoiceDate)
  dueDate := validateDueDate (trim form.invoiceDate) (trim form.dueDate)
  paymentTermDays := validatePaymentTerm form.paymentTermDays
  reminderPeriodDays := validateReminderPeriod form.reminderPeriodDays
  latePaymentInterestPercent := validateLatePaymentInterest form.latePaymentInterestPercent
  deliveryAddressText := validateDeliveryAddressText form.deliveryAddressText
  taxTreatment := validateTaxTreatment form reverseChargeCustomerEligible
  performanceDate := validatePerformanceDate form
  performancePeriodStart := validatePerformancePeriodStart form
  performancePeriodEnd := validatePerformancePeriodEnd form
  lines := form.lines.foldl (addLineErrors isLetterOrNumber) OrderedMap.empty

/-- The errors, and whether there are none. -/
structure InvoiceDraftFormValidationResult where
  errors : InvoiceDraftFormErrors
  isValid : Bool

/-- The result of the checks. -/
def validateInvoiceDraftForm (form : NewInvoiceFormState)
    (reverseChargeCustomerEligible : Bool) : InvoiceDraftFormValidationResult :=
  let errors := formErrors isLetterOrNumber form reverseChargeCustomerEligible
  { errors
    isValid := errors.customerId.isNone && errors.invoiceDate.isNone && errors.dueDate.isNone
      && errors.paymentTermDays.isNone && errors.reminderPeriodDays.isNone
      && errors.latePaymentInterestPercent.isNone && errors.deliveryAddressText.isNone
      && errors.taxTreatment.isNone && errors.performanceDate.isNone
      && errors.performancePeriodStart.isNone && errors.performancePeriodEnd.isNone
      && errors.lines.keys = [] }

end Lines

end InvoiceForm
