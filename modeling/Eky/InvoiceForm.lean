import Eky.CreditInvoice
import Eky.ReverseCharge

/-! # The invoice form and the draft that is sent

    The form of the web application holds texts.  `toInvoiceDraftInput` turns them into
    the draft that the backend is given, and `calculateDraftTotals` is what the backend
    calculates for it.

    The state of the hourly rates of the rows takes no part. -/

namespace InvoiceForm

open Fallible InvoiceMoney InvoiceCalculation ReverseCharge

/-! ## The form -/

/-- With VAT, or with the VAT owed by the customer. -/
inductive InvoiceTaxTreatment
  | normalVat
  | reverseChargeConstruction
  deriving DecidableEq

/-- The type of a discount in the form. -/
inductive InvoiceRowDiscountType
  | none
  | percentage
  | fixed
  deriving DecidableEq

/-- The kind of performance period. -/
inductive PerformancePeriodType
  | dateRange
  | invoiceDate
  | singleDate
  deriving DecidableEq

/-- A row of the form, as typed. -/
structure InvoiceRowForm where
  id : String
  description : String
  quantity : String
  unit : String
  unitPrice : String
  vatRateBasisPoints : Option Int
  discountType : InvoiceRowDiscountType
  discountValue : String
  deriving DecidableEq

/-- The form, as typed. -/
structure NewInvoiceFormState where
  billingRecipientCustomerId : String
  customerId : String
  deliveryAddressText : String
  dueDate : String
  invoiceDate : String
  latePaymentInterestPercent : String
  lines : List InvoiceRowForm
  note : String
  orderNumber : String
  paymentTermDays : String
  performanceDate : String
  performancePeriodEnd : String
  performancePeriodStart : String
  performancePeriodType : PerformancePeriodType
  priceInputMode : PriceInputMode
  reminderPeriodDays : String
  subject : String
  taxTreatment : InvoiceTaxTreatment
  deriving DecidableEq

/-! ## Parsing the texts -/

/-- `trim` of a string. -/
def trim (value : String) : String :=
  String.ofList (JavaScript.trim value.toList)

/-- `replace(',', '.')` replaces the first comma only. -/
def replaceComma : List Char → List Char
  | [] => []
  | c :: rest => if c = ',' then '.' :: rest else c :: replaceComma rest

/-- The number that decimal digits stand for. -/
def digitsValue (digits : List Char) : Nat :=
  digits.foldl (fun value digit => 10 * value + (digit.toNat - 48)) 0

/-- `^(\d+)(?:\.(\d{1,2}))?$` -/
def matchDecimal (text : List Char) : Option (List Char × List Char) :=
  let wholePart := text.takeWhile Char.isDigit
  match text.dropWhile Char.isDigit with
  | [] => if wholePart = [] then none else some (wholePart, [])
  | c :: fraction =>
      if c = '.' ∧ wholePart ≠ [] ∧ fraction.all Char.isDigit
          ∧ 1 ≤ fraction.length ∧ fraction.length ≤ 2 then
        some (wholePart, fraction)
      else none

/-- A decimal of at most that many places, as an integer. -/
def parseScaledDecimal (value : String) (decimalPlaces : Nat) : Option Int :=
  match matchDecimal (replaceComma (trim value).toList) with
  | none => none
  | some (wholePartText, fractionText) =>
      let padded := fractionText ++ List.replicate (decimalPlaces - fractionText.length) '0'
      let scaledValue : Int := digitsValue wholePartText * 10 ^ decimalPlaces
        + digitsValue padded
      if decimalPlaces ≠ 2 ∨ scaledValue > maximumSafeInteger then none else some scaledValue

/-- A quantity. -/
def parseQuantityHundredths (value : String) : Option Int := parseScaledDecimal value 2

/-- An amount of money. -/
def parseEuroCents (value : String) : Option Int := parseScaledDecimal value 2

/-- A percentage. -/
def parsePercentageBasisPoints (value : String) : Option Int := parseScaledDecimal value 2

/-- `none` is the value `null` of an invalid text, `some none` is `undefined`. -/
def parseOptionalPercentageBasisPoints (value : String) : Option (Option Int) :=
  if trim value = "" then some none else (parsePercentageBasisPoints value).map some

/-- `^\d+$` within the safe range. -/
def parseNonNegativeInteger (value : String) : Option Int :=
  let normalizedValue := (trim value).toList
  let parsedValue : Int := digitsValue normalizedValue
  if normalizedValue = [] ∨ ¬ normalizedValue.all Char.isDigit
      ∨ parsedValue > maximumSafeInteger then none
  else some parsedValue

/-- A number that may be left out. -/
def parseOptionalNonNegativeInteger (value : String) : Option (Option Int) :=
  if trim value = "" then some none else (parseNonNegativeInteger value).map some

/-! ## The draft -/

/-- A line as the backend takes it. -/
structure InvoiceDraftLineInput where
  description : String
  quantityHundredths : Int
  unit : String
  unitPriceCents : Int
  vatRateBasisPoints : Option Int
  discount : InvoiceLineDiscount
  deriving DecidableEq

/-- A performance period as the backend takes it. -/
inductive InvoicePerformancePeriod
  | singleDate (date : String)
  | dateRange (startDate endDate : String)
  | invoiceDate
  deriving DecidableEq

/-- A draft as the backend takes it. -/
structure InvoiceDraftInput where
  customerId : String
  billingRecipientCustomerId : Option String
  invoiceDate : String
  dueDate : String
  paymentTermDays : Int
  reminderPeriodDays : Option Int
  latePaymentInterestBasisPoints : Option Int
  priceInputMode : PriceInputMode
  taxTreatment : InvoiceTaxTreatment
  performancePeriod : InvoicePerformancePeriod
  subject : Option String
  orderNumber : Option String
  note : Option String
  deliveryAddressText : Option String
  lines : List InvoiceDraftLineInput
  deriving DecidableEq

/-- `InvoiceDraftFormMappingError` -/
def mappingError : String := "Invoice draft form contains invalid values."

/-- The discount of a row. -/
def mapDiscount (row : InvoiceRowForm) : Except String InvoiceLineDiscount :=
  match row.discountType with
  | .none => pure .none
  | .percentage => do
      let basisPoints ← orThrow (parsePercentageBasisPoints row.discountValue) mappingError
      pure (.percentage basisPoints)
  | .fixed => do
      let amountCents ← orThrow (parseEuroCents row.discountValue) mappingError
      pure (.fixed amountCents)

/-- The rate of a row that is sent. -/
def sentVatRate (row : InvoiceRowForm) (taxTreatment : InvoiceTaxTreatment) : Option Int :=
  match taxTreatment with
  | .reverseChargeConstruction => none
  | .normalVat => row.vatRateBasisPoints

/-- The line of a row. -/
def mapInvoiceDraftLine (taxTreatment : InvoiceTaxTreatment) (row : InvoiceRowForm) :
    Except String InvoiceDraftLineInput := do
  let quantityHundredths ← orThrow (parseQuantityHundredths row.quantity) mappingError
  let unitPriceCents ← orThrow (parseEuroCents row.unitPrice) mappingError
  throwIf (taxTreatment = .normalVat ∧ ∀ rate ∈ row.vatRateBasisPoints, rate ≤ 0)
    mappingError
  let discount ← mapDiscount row
  pure {
    description := trim row.description
    quantityHundredths
    unit := trim row.unit
    unitPriceCents
    vatRateBasisPoints := sentVatRate row taxTreatment
    discount }

/-- The period of a form. -/
def mapPerformancePeriod (form : NewInvoiceFormState) : InvoicePerformancePeriod :=
  match form.performancePeriodType with
  | .singleDate => .singleDate (trim form.performanceDate)
  | .dateRange => .dateRange (trim form.performancePeriodStart) (trim form.performancePeriodEnd)
  | .invoiceDate => .invoiceDate

/-- `addOptionalTrimmedString` -/
def optionalTrimmedString (value : String) : Option String :=
  if trim value = "" then none else some (trim value)

/-- The draft of a form. -/
def toInvoiceDraftInput (form : NewInvoiceFormState) : Except String InvoiceDraftInput := do
  let paymentTermDays ← orThrow (parseNonNegativeInteger form.paymentTermDays) mappingError
  let reminderPeriodDays ←
    orThrow (parseOptionalNonNegativeInteger form.reminderPeriodDays) mappingError
  let latePaymentInterestBasisPoints ←
    orThrow (parseOptionalPercentageBasisPoints form.latePaymentInterestPercent) mappingError
  throwIf (form.lines = []) mappingError
  let lines ← form.lines.mapM (mapInvoiceDraftLine form.taxTreatment)
  pure {
    customerId := trim form.customerId
    billingRecipientCustomerId := optionalTrimmedString form.billingRecipientCustomerId
    invoiceDate := trim form.invoiceDate
    dueDate := trim form.dueDate
    paymentTermDays, reminderPeriodDays, latePaymentInterestBasisPoints
    priceInputMode := form.priceInputMode
    taxTreatment := form.taxTreatment
    performancePeriod := mapPerformancePeriod form
    subject := optionalTrimmedString form.subject
    orderNumber := optionalTrimmedString form.orderNumber
    note := optionalTrimmedString form.note
    deliveryAddressText := optionalTrimmedString form.deliveryAddressText
    lines }

/-! ## What the backend calculates for the draft -/

/-- What a line without VAT is calculated from. -/
def reverseChargeInput (priceInputMode : PriceInputMode) (line : InvoiceDraftLineInput) :
    Checked ReverseChargeInvoiceLineCalculationInput := do
  throwIf (line.vatRateBasisPoints ≠ none)
    (.draftValidation "Reverse charge invoice lines cannot contain a VAT rate.")
  pure ⟨line.quantityHundredths, line.unitPriceCents, priceInputMode, line.discount⟩

/-- A line with VAT, calculated by the backend. -/
def calculateNormalVatLine (priceInputMode : PriceInputMode) (line : InvoiceDraftLineInput) :
    Checked CalculatedInvoiceLine := do
  let vatRateBasisPoints ← orThrow line.vatRateBasisPoints
    (.draftValidation "Normal VAT invoice lines require a positive VAT rate.")
  throwIf (vatRateBasisPoints = 0)
    (.draftValidation "Normal VAT invoice lines require a positive VAT rate.")
  calculateInvoiceLine ⟨line.quantityHundredths, line.unitPriceCents, vatRateBasisPoints,
    priceInputMode, line.discount⟩

/-- The lines and the totals of `prepareInvoiceDraftContent`. -/
def calculateDraftTotals (input : InvoiceDraftInput) : Checked InvoiceTotals :=
  match input.taxTreatment with
  | .reverseChargeConstruction => do
      let inputs ← input.lines.mapM (reverseChargeInput input.priceInputMode)
      let invoice ← calculateReverseChargeInvoice inputs
      pure invoice.totals
  | .normalVat => do
      let lines ← input.lines.mapM (calculateNormalVatLine input.priceInputMode)
      calculateInvoiceTotals (lines.map (·.toLineAmounts))

/-! ## What the parser accepts -/

theorem parseScaledDecimal_amount {value : String} {decimalPlaces : Nat} {n : Int}
    (h : parseScaledDecimal value decimalPlaces = some n) : IsAmount n := by
  simp only [parseScaledDecimal] at h
  split at h
  · exact nomatch h
  · split at h
    · exact nomatch h
    · next hrange =>
        have hn := Option.some.inj h
        rw [not_or] at hrange
        rw [hn] at hrange
        have hpow : (0 : Int) ≤ 10 ^ decimalPlaces := Int.pow_nonneg (by omega)
        refine ⟨?_, Int.not_lt.mp hrange.2⟩
        rw [← hn]
        exact Int.add_nonneg (Int.mul_nonneg (Int.natCast_nonneg _) hpow) (Int.natCast_nonneg _)

end InvoiceForm
