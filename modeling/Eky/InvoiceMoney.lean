import Eky.Fallible
import Eky.Apportionment
import Eky.JavaScript
import Eky.OrderedMap
import Mathlib.Algebra.Order.BigOperators.Group.List
import Mathlib.Data.List.Sort

/-! # Invoice money — lines, VAT groups and totals

    The calculation path that issues an invoice.  All amounts are whole cents,
    quantities are hundredths and rates are basis points; every number the
    program keeps has to stay in the safe integer range of its runtime, and
    leaving the range is an error, never a wrapped value.

    - `roundHalfUp`, the only rounding of the program;
    - `calculateInvoiceLine`, one line from quantity, price and discount;
    - `calculateInvoiceTotals`, the VAT of the invoice from the sums of its
      rates, NOT from the VAT shown on the lines. -/

namespace InvoiceMoney

open Fallible Apportionment OrderedMap

/-! ## Errors and safe integers -/

/-- The error classes of the invoicing module, with their messages. -/
inductive InvoiceError
  | calculation (message : String)
  | credit (message : String)
  | draftValidation (message : String)
  | approveDraft (message : String)
  deriving DecidableEq

/-- An answer of a calculation. -/
abbrev Checked := Except InvoiceError

/-- `Number.isSafeInteger`. -/
def IsSafeInteger (n : Int) : Prop :=
  -maximumSafeInteger ≤ n ∧ n ≤ maximumSafeInteger

instance (n : Int) : Decidable (IsSafeInteger n) :=
  inferInstanceAs (Decidable (_ ∧ _))

/-- An amount of the program: neither negative nor outside the safe range. -/
def IsAmount (n : Int) : Prop := 0 ≤ n ∧ n ≤ maximumSafeInteger

instance (n : Int) : Decidable (IsAmount n) := inferInstanceAs (Decidable (_ ∧ _))

theorem isAmount_iff {n : Int} : IsAmount n ↔ IsSafeInteger n ∧ ¬ n < 0 := by
  simp only [IsAmount, IsSafeInteger, maximumSafeInteger]
  omega

theorem isAmount_zero : IsAmount 0 := by
  simp [IsAmount, maximumSafeInteger]

variable {b a s : Int}

/-- What is left of an amount after a part of it. -/
theorem isAmount_sub (ha : IsAmount a) (hle : b ≤ a) (hb : 0 ≤ b) : IsAmount (a - b) := by
  have hmax := ha.2
  exact ⟨by omega, by omega⟩

/-- An addition that throws `error` when `rejected` holds of the sum.  Every
    module of the program has its own addition of this form. -/
def addUnless (rejected : Int → Prop) [DecidablePred rejected] (error : InvoiceError)
    (first second : Int) : Checked Int := do
  throwIf (rejected (first + second)) error
  pure (first + second)

/-- A test that rejects a non-negative sum exactly when it leaves the safe
    range. -/
def RejectsOverflow (rejected : Int → Prop) : Prop :=
  ∀ n, 0 ≤ n → (rejected n ↔ maximumSafeInteger < n)

/-- A subtraction that throws `error` unless the difference is an amount. -/
def subtractAmount (error : InvoiceError) (target previous : Int) : Checked Int := do
  throwIf (¬ IsSafeInteger (target - previous) ∨ target - previous < 0) error
  pure (target - previous)

section Additions

variable {rejected : Int → Prop} [DecidablePred rejected] {error : InvoiceError}

theorem addUnless_eq_ok (hr : RejectsOverflow rejected) (hnonneg : 0 ≤ a + b) :
    addUnless rejected error a b = .ok s ↔ a + b = s ∧ s ≤ maximumSafeInteger := by
  simp only [addUnless, bind_eq_ok, throwIf_eq_ok, exists_const, pure_eq_ok, hr _ hnonneg]
  constructor
  · rintro ⟨h, rfl⟩; exact ⟨rfl, by omega⟩
  · rintro ⟨rfl, h⟩; exact ⟨by omega, rfl⟩

/-- A sum computed with a checked addition returns when the whole sum is in
    range, because no intermediate sum is larger. -/
theorem sumM_eq_ok (hr : RejectsOverflow rejected) {α : Type} {f : α → Int} {xs : List α}
    (hnonneg : ∀ x ∈ xs, 0 ≤ f x) {a s : Int} (ha : IsAmount a) :
    xs.foldlM (fun sum x => addUnless rejected error sum (f x)) a = .ok s
      ↔ a + (xs.map f).sum = s ∧ s ≤ maximumSafeInteger := by
  induction xs generalizing a with
  | nil =>
      simp only [List.foldlM_nil, pure_eq_ok, List.map_nil, List.sum_nil, Int.add_zero]
      constructor
      · rintro rfl; exact ⟨rfl, ha.2⟩
      · rintro ⟨h, _⟩; exact h
  | cons x rest ih =>
      have hx : 0 ≤ f x := hnonneg x List.mem_cons_self
      have hrest : ∀ y ∈ rest, 0 ≤ f y :=
        fun y hy => hnonneg y (List.mem_cons_of_mem x hy)
      have hsum : 0 ≤ (rest.map f).sum := List.sum_nonneg (by
        intro n hn
        obtain ⟨y, hy, rfl⟩ := List.mem_map.mp hn
        exact hrest y hy)
      have ha0 := ha.1
      rw [List.foldlM_cons, bind_eq_ok, List.map_cons, List.sum_cons]
      constructor
      · rintro ⟨c, hc, h⟩
        obtain ⟨rfl, hmax⟩ := (addUnless_eq_ok hr (by omega)).mp hc
        obtain ⟨hs, hle⟩ := (ih hrest ⟨by omega, hmax⟩).mp h
        exact ⟨by omega, hle⟩
      · rintro ⟨hs, hle⟩
        have hmax : a + f x ≤ maximumSafeInteger := by omega
        exact ⟨a + f x, (addUnless_eq_ok hr (by omega)).mpr ⟨rfl, hmax⟩,
          (ih hrest ⟨by omega, hmax⟩).mpr ⟨by omega, hle⟩⟩

end Additions

theorem subtractAmount_eq_ok {error : InvoiceError} :
    subtractAmount error a b = .ok s ↔ a - b = s ∧ IsAmount s := by
  simp only [subtractAmount, bind_eq_ok, throwIf_eq_ok, exists_const, pure_eq_ok, isAmount_iff]
  constructor
  · rintro ⟨h, rfl⟩
    exact ⟨rfl, by_contra (fun hs => h (Or.inl hs)), fun hlt => h (Or.inr hlt)⟩
  · rintro ⟨rfl, hsafe, hlt⟩
    exact ⟨fun h => h.elim (fun hn => hn hsafe) hlt, rfl⟩

/-- The rounding of the program. -/
def roundHalfUp (numerator denominator : Int) : Checked Int := do
  throwIf (numerator < 0) (.calculation "Rounding numerator cannot be negative.")
  throwIf (denominator ≤ 0) (.calculation "Rounding denominator must be positive.")
  let roundedValue := (numerator + denominator / 2) / denominator
  throwIf (roundedValue > maximumSafeInteger)
    (.calculation "Calculated amount exceeds the safe integer range.")
  pure roundedValue

theorem roundHalfUp_eq_ok {n d r : Int} :
    roundHalfUp n d = .ok r ↔
      0 ≤ n ∧ 0 < d ∧ halfUp n d = r ∧ r ≤ maximumSafeInteger := by
  simp only [roundHalfUp, bind_eq_ok, throwIf_eq_ok, exists_const, pure_eq_ok, Int.not_lt, Int.not_le,
    gt_iff_lt]
  show 0 ≤ n ∧ 0 < d ∧ halfUp n d ≤ maximumSafeInteger ∧ halfUp n d = r ↔ _
  constructor
  · rintro ⟨hn, hd, hmax, rfl⟩; exact ⟨hn, hd, rfl, hmax⟩
  · rintro ⟨hn, hd, rfl, hmax⟩; exact ⟨hn, hd, hmax, rfl⟩

/-! ## Lines -/

/-- Prices without VAT, or with it. -/
inductive PriceInputMode
  | net
  | gross
  deriving DecidableEq

/-- The discount of a line. -/
inductive InvoiceLineDiscount
  | none
  | percentage (basisPoints : Int)
  | fixed (amountCents : Int)
  deriving DecidableEq

/-- What a line is calculated from. -/
structure InvoiceLineCalculationInput where
  quantityHundredths : Int
  unitPriceCents : Int
  vatRateBasisPoints : Int
  priceInputMode : PriceInputMode
  discount : InvoiceLineDiscount
  deriving DecidableEq

/-- The fields that every kind of line shares: issued lines, source lines of a
    credit, earlier credits and calculated credits. -/
structure LineAmounts where
  quantityHundredths : Int
  priceInputMode : PriceInputMode
  vatRateBasisPoints : Int
  baseCents : Int
  discountCents : Int
  netCents : Int
  vatCents : Int
  grossCents : Int
  deriving DecidableEq

/-- A calculated line: its amounts and its price. -/
structure CalculatedInvoiceLine extends LineAmounts where
  unitPriceCents : Int
  deriving DecidableEq

/-- The amount the user's price is about: the net amount in net mode, the gross
    amount in gross mode. -/
def LineAmounts.inputCents (line : LineAmounts) : Int :=
  match line.priceInputMode with
  | .net => line.netCents
  | .gross => line.grossCents

/-- Refuses what is not a safe integer from zero on. -/
def requireNonNegativeSafeInteger (value : Int) (fieldName : String) : Checked Unit := do
  throwIf (¬ IsSafeInteger value) (.calculation (fieldName ++ " must be a safe integer."))
  throwIf (value < 0) (.calculation (fieldName ++ " cannot be negative."))

theorem requireNonNegativeSafeInteger_eq_ok {value : Int} {fieldName : String}
    {u : Unit} :
    requireNonNegativeSafeInteger value fieldName = .ok u ↔ IsAmount value := by
  simp only [requireNonNegativeSafeInteger, bind_eq_ok, throwIf_eq_ok, exists_const,
    Decidable.not_not, isAmount_iff]

/-- The discount in cents. -/
def calculateDiscountCents (baseCents : Int) (discount : InvoiceLineDiscount) :
    Checked Int :=
  match discount with
  | .none => pure 0
  | .percentage basisPoints => do
      requireNonNegativeSafeInteger basisPoints "Discount basis points"
      throwIf (basisPoints > 10000)
        (.calculation "Discount cannot exceed the line value.")
      roundHalfUp (baseCents * basisPoints) 10000
  | .fixed amountCents => do
      requireNonNegativeSafeInteger amountCents "Discount amount"
      pure amountCents

/-- A line before its tax. -/
structure InvoiceLineBaseCalculation where
  baseCents : Int
  discountCents : Int
  discountedBaseCents : Int
  deriving DecidableEq

/-- Base, discount and what is left. -/
def calculateInvoiceLineBase (quantityHundredths unitPriceCents : Int)
    (discount : InvoiceLineDiscount) : Checked InvoiceLineBaseCalculation := do
  requireNonNegativeSafeInteger quantityHundredths "Quantity"
  requireNonNegativeSafeInteger unitPriceCents "Unit price"
  let baseCents ← roundHalfUp (unitPriceCents * quantityHundredths) 100
  let discountCents ← calculateDiscountCents baseCents discount
  throwIf (discountCents > baseCents)
    (.calculation "Discount cannot exceed the line value.")
  pure ⟨baseCents, discountCents, baseCents - discountCents⟩

theorem calculateDiscountCents_nonneg {base d : Int} {discount : InvoiceLineDiscount}
    (h : calculateDiscountCents base discount = .ok d) : 0 ≤ d := by
  cases discount with
  | none =>
      have hd : (0 : Int) = d := pure_eq_ok.mp h
      omega
  | percentage basisPoints =>
      simp only [calculateDiscountCents, bind_eq_ok, throwIf_eq_ok, exists_const,
        requireNonNegativeSafeInteger_eq_ok, roundHalfUp_eq_ok] at h
      obtain ⟨_, _, hn, _, rfl, _⟩ := h
      exact halfUp_nonneg (by omega) hn
  | fixed amountCents =>
      simp only [calculateDiscountCents, bind_eq_ok, pure_eq_ok, exists_const,
        requireNonNegativeSafeInteger_eq_ok] at h
      obtain ⟨hamount, rfl⟩ := h
      exact hamount.1

/-- What an accepted line base looks like. -/
theorem calculateInvoiceLineBase_spec {quantity price : Int}
    {discount : InvoiceLineDiscount} {c : InvoiceLineBaseCalculation}
    (h : calculateInvoiceLineBase quantity price discount = .ok c) :
    IsAmount quantity ∧ IsAmount price
      ∧ c.baseCents = halfUp (price * quantity) 100 ∧ IsAmount c.baseCents
      ∧ 0 ≤ c.discountCents ∧ c.discountCents ≤ c.baseCents
      ∧ c.discountedBaseCents = c.baseCents - c.discountCents := by
  simp only [calculateInvoiceLineBase, bind_eq_ok, throwIf_eq_ok, exists_const, pure_eq_ok,
    requireNonNegativeSafeInteger_eq_ok, roundHalfUp_eq_ok] at h
  obtain ⟨hquantity, hprice, base, ⟨hn, hd, rfl, hmax⟩, d, hdiscount, hle, rfl⟩ := h
  exact ⟨hquantity, hprice, rfl, ⟨halfUp_nonneg (by omega) hn, hmax⟩,
    calculateDiscountCents_nonneg hdiscount, Int.not_lt.mp hle, rfl⟩

end InvoiceMoney
