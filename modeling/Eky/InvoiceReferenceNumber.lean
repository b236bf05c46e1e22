import Eky.SafeSequenceNumber

/-! # Reference numbers

    The reference number of an invoice is its number with a check digit behind it.  The
    digits are weighted from the right with 7, 3 and 1 in turn, and the check digit fills the
    sum up to a multiple of ten.

    - `validateFinnishDomesticReferenceNumber_eq_ok`: a text is accepted when it consists of 2
      to 20 digits whose checksum is a multiple of ten;
    - `createFinnishDomesticReferenceNumber_valid`: what is created is accepted, and tells
      the number it was created from;
    - `mistyped_reference_rejected`: one wrong digit is noticed. -/

namespace InvoiceReferenceNumber

open Fallible Decimals AsciiLines InvoiceNumbering
open SafeSequenceNumber (maximumFinnishDomesticReferenceBaseLength)

/-- The weights, from the right. -/
def finnishDomesticReferenceWeights : List Nat := [7, 3, 1]

/-- Digits of a reference number. -/
def maximumFinnishDomesticReferenceNumberLength : Nat := 20

/-- The weight at a position, counted from the right. -/
def weightAt (index : Nat) : Nat := finnishDomesticReferenceWeights.getD (index % 3) 0

/-- The value of a digit. -/
def digitOf (c : Char) : Nat := c.toNat - 48

/-- The loop over the digits from the right, from a position on. -/
def weightedSum (index : Nat) : Text → Nat
  | [] => 0
  | c :: rest => digitOf c * weightAt index + weightedSum (index + 1) rest

/-- The check digit. -/
def calculateFinnishDomesticReferenceCheckDigit (baseDigits : Text) : Nat :=
  (10 - weightedSum 0 baseDigits.reverse % 10) % 10

/-- Digits only, and not too many. -/
def validateReferenceDigits (value : Text) (label : String) (maximumLength : Nat) :
    Checked Unit := do
  throwIf (value.length = 0) ⟨s!"{label} must not be empty."⟩
  throwIf (¬ IsDigits value) ⟨s!"{label} must contain only digits."⟩
  throwIf (value.length > maximumLength) ⟨s!"{label} must be {maximumLength} digits or less."⟩

/-- The base and its check digit. -/
def createFinnishDomesticReferenceNumber (baseDigits : Text) : Checked Text := do
  validateReferenceDigits baseDigits "Reference number base"
    maximumFinnishDomesticReferenceBaseLength
  pure (baseDigits ++ [Nat.digitChar (calculateFinnishDomesticReferenceCheckDigit baseDigits)])

/-- Digits with the right check digit. -/
def validateFinnishDomesticReferenceNumber (value : Text) : Checked Unit := do
  validateReferenceDigits value "Reference number" maximumFinnishDomesticReferenceNumberLength
  throwIf (value.length < 2) ⟨"Reference number must include a check digit."⟩
  let expectedReferenceNumber ← createFinnishDomesticReferenceNumber value.dropLast
  throwIf (value ≠ expectedReferenceNumber) ⟨"Reference number check digit is invalid."⟩

/-! ## The checksum -/

theorem weightAt_eq (index : Nat) :
    weightAt index = 7 ∧ index % 3 = 0 ∨ weightAt index = 3 ∧ index % 3 = 1
      ∨ weightAt index = 1 ∧ index % 3 = 2 := by
  have hmod : index % 3 < 3 := Nat.mod_lt _ (by decide)
  unfold weightAt
  rcases (by omega : index % 3 = 0 ∨ index % 3 = 1 ∨ index % 3 = 2) with h | h | h
  · rw [h]; exact .inl ⟨rfl, rfl⟩
  · rw [h]; exact .inr (.inl ⟨rfl, rfl⟩)
  · rw [h]; exact .inr (.inr ⟨rfl, rfl⟩)

theorem weightAt_add_three (index : Nat) : weightAt (index + 3) = weightAt index := by
  unfold weightAt
  rw [Nat.add_mod_right]

theorem weightedSum_add_three (index : Nat) (text : Text) :
    weightedSum (index + 3) text = weightedSum index text := by
  induction text generalizing index with
  | nil => rfl
  | cons c rest ih =>
      rw [weightedSum, weightedSum, weightAt_add_three, ← ih (index + 1)]

theorem weightedSum_append (index : Nat) (first second : Text) :
    weightedSum index (first ++ second)
      = weightedSum index first + weightedSum (index + first.length) second := by
  induction first generalizing index with
  | nil => simp [weightedSum]
  | cons c rest ih =>
      rw [List.cons_append, weightedSum, weightedSum, ih, List.length_cons]
      have hindex : index + 1 + rest.length = index + (rest.length + 1) := by omega
      rw [hindex, Nat.add_assoc]

/-- The sum over a number with its check digit, whose weight is 1. -/
def checksum (value : Text) : Nat := weightedSum 2 value.reverse

theorem checksum_append (baseDigits : Text) (c : Char) :
    checksum (baseDigits ++ [c]) = digitOf c + weightedSum 0 baseDigits.reverse := by
  have hweight : weightAt 2 = 1 := rfl
  rw [checksum, List.reverse_append, List.reverse_singleton, List.singleton_append, weightedSum,
    hweight, Nat.mul_one, ← weightedSum_add_three 0]

theorem calculateCheckDigit_lt (baseDigits : Text) :
    calculateFinnishDomesticReferenceCheckDigit baseDigits < 10 :=
  Nat.mod_lt _ (by decide)

theorem digitOf_digitChar {n : Nat} (h : n < 10) :
    (Nat.digitChar n).isDigit = true ∧ digitOf (Nat.digitChar n) = n := by
  revert n
  decide

variable {value baseDigits : Text} {c : Char}

theorem digitOf_lt (h : c.isDigit = true) : digitOf c < 10 := by
  have hcode := toNat_of_isDigit h
  unfold digitOf
  omega

theorem eq_of_digitOf {d : Char} (hc : c.isDigit = true) (hd : d.isDigit = true)
    (h : digitOf c = digitOf d) : c = d := by
  have hcode := toNat_of_isDigit hc
  have hcode' := toNat_of_isDigit hd
  unfold digitOf at h
  exact Char.toNat_inj.mp (by omega)

/-- The check digit is the one that makes the checksum a multiple of ten. -/
theorem checkDigit_iff (hc : c.isDigit = true) :
    c = Nat.digitChar (calculateFinnishDomesticReferenceCheckDigit baseDigits)
      ↔ checksum (baseDigits ++ [c]) % 10 = 0 := by
  obtain ⟨hdigit, hvalue⟩ := digitOf_digitChar (calculateCheckDigit_lt baseDigits)
  have hlt := digitOf_lt hc
  rw [checksum_append]
  have hcalculated : calculateFinnishDomesticReferenceCheckDigit baseDigits
      = (10 - weightedSum 0 baseDigits.reverse % 10) % 10 := rfl
  constructor
  · intro h
    rw [h, hvalue, hcalculated]
    omega
  · intro h
    refine eq_of_digitOf hc hdigit ?_
    rw [hvalue, hcalculated]
    omega

/-! ## What is created and what is accepted -/

theorem validateReferenceDigits_eq_ok {label : String} {maximumLength : Nat} {u : Unit} :
    validateReferenceDigits value label maximumLength = .ok u
      ↔ IsDigits value ∧ value.length ≤ maximumLength := by
  simp only [validateReferenceDigits, bind_eq_ok, throwIf_eq_ok, not_not, not_lt]
  constructor
  · rintro ⟨_, -, _, hdigits, hlength⟩
    exact ⟨hdigits, hlength⟩
  · intro h
    exact ⟨(), fun hzero => h.1.1 (List.length_eq_zero_iff.mp hzero), (), h.1, h.2⟩

theorem createFinnishDomesticReferenceNumber_eq_ok {reference : Text} :
    createFinnishDomesticReferenceNumber baseDigits = .ok reference
      ↔ (IsDigits baseDigits ∧ baseDigits.length ≤ 19)
        ∧ baseDigits ++ [Nat.digitChar (calculateFinnishDomesticReferenceCheckDigit baseDigits)]
          = reference := by
  simp only [createFinnishDomesticReferenceNumber, bind_eq_ok, pure_eq_ok,
    validateReferenceDigits_eq_ok, exists_const]
  rfl

theorem isDigits_dropLast (h : IsDigits value) (hlength : 2 ≤ value.length) :
    IsDigits value.dropLast := by
  refine ⟨fun hnil => ?_, fun c hc => h.2 c (List.dropLast_subset _ hc)⟩
  have hzero := congrArg List.length hnil
  rw [List.length_dropLast, List.length_nil] at hzero
  omega

theorem validateFinnishDomesticReferenceNumber_eq_ok {u : Unit} :
    validateFinnishDomesticReferenceNumber value = .ok u
      ↔ IsDigits value ∧ 2 ≤ value.length ∧ value.length ≤ 20 ∧ checksum value % 10 = 0 := by
  simp only [validateFinnishDomesticReferenceNumber, bind_eq_ok, throwIf_eq_ok,
    validateReferenceDigits_eq_ok, createFinnishDomesticReferenceNumber_eq_ok, not_not, not_lt]
  constructor
  · rintro ⟨_, ⟨hdigits, hmax⟩, _, hmin, reference, ⟨-, hcreated⟩, hsame⟩
    refine ⟨hdigits, hmin, hmax, ?_⟩
    rw [hsame, ← hcreated]
    exact (checkDigit_iff (digitOf_digitChar (calculateCheckDigit_lt _)).1).mp rfl
  · rintro ⟨hdigits, hmin, hmax, hsum⟩
    have hne : value ≠ [] := hdigits.1
    refine ⟨(), ⟨hdigits, hmax⟩, (), hmin, value, ⟨⟨isDigits_dropLast hdigits hmin, ?_⟩, ?_⟩, rfl⟩
    · rw [List.length_dropLast]
      omega
    · have hlast := hdigits.2 _ (List.getLast_mem hne)
      rw [← (checkDigit_iff hlast).mpr]
      · exact List.dropLast_append_getLast hne
      · rw [List.dropLast_append_getLast hne]
        exact hsum

/-- What is created is accepted, and tells the number it was created from. -/
theorem createFinnishDomesticReferenceNumber_valid {reference : Text}
    (h : createFinnishDomesticReferenceNumber baseDigits = .ok reference) :
    validateFinnishDomesticReferenceNumber reference = .ok ()
      ∧ reference.dropLast = baseDigits := by
  obtain ⟨⟨hdigits, hlength⟩, rfl⟩ := createFinnishDomesticReferenceNumber_eq_ok.mp h
  have hcheck := (digitOf_digitChar (calculateCheckDigit_lt baseDigits)).1
  have hpos := List.length_pos_iff.mpr hdigits.1
  refine ⟨validateFinnishDomesticReferenceNumber_eq_ok.mpr ⟨⟨?_, ?_⟩, ?_, ?_, ?_⟩, ?_⟩
  · exact List.append_ne_nil_of_right_ne_nil _ (List.cons_ne_nil _ _)
  · intro c hc
    rcases List.mem_append.mp hc with hc | hc
    · exact hdigits.2 c hc
    · rw [List.mem_singleton.mp hc]
      exact hcheck
  · rw [List.length_append, List.length_singleton]
    omega
  · rw [List.length_append, List.length_singleton]
    omega
  · exact (checkDigit_iff hcheck).mp rfl
  · exact List.dropLast_concat

/-! ## Mistyped digits -/

/-- One digit more or less changes the checksum by less than a multiple of ten: none of the
    weights has a factor in common with ten. -/
theorem checksum_ne {before after : Text} {d : Char} (hc : c.isDigit = true) (hd : d.isDigit = true)
    (hne : c ≠ d) (h : checksum (before ++ c :: after) % 10 = 0) :
    checksum (before ++ d :: after) % 10 ≠ 0 := by
  have hsplit : ∀ x : Char, checksum (before ++ x :: after)
      = weightedSum 2 after.reverse
        + (digitOf x * weightAt (2 + after.reverse.length)
          + weightedSum (2 + after.reverse.length + 1) before.reverse) := by
    intro x
    rw [checksum, List.reverse_append, List.reverse_cons, List.append_assoc, weightedSum_append,
      List.singleton_append, weightedSum]
  rw [hsplit] at h ⊢
  have hlt := digitOf_lt hc
  have hlt' := digitOf_lt hd
  have hdigits : digitOf c ≠ digitOf d := fun heq => hne (eq_of_digitOf hc hd heq)
  rcases weightAt_eq (2 + after.reverse.length) with ⟨hw, -⟩ | ⟨hw, -⟩ | ⟨hw, -⟩
  · rw [hw] at h ⊢
    omega
  · rw [hw] at h ⊢
    omega
  · rw [hw] at h ⊢
    omega

/-- **ONE WRONG DIGIT** in a reference number is noticed. -/
theorem mistyped_reference_rejected {before after : Text} {c d : Char} (hne : c ≠ d)
    (h : validateFinnishDomesticReferenceNumber (before ++ c :: after) = .ok ()) :
    validateFinnishDomesticReferenceNumber (before ++ d :: after) ≠ .ok () := by
  intro h'
  obtain ⟨hdigits, -, -, hsum⟩ := validateFinnishDomesticReferenceNumber_eq_ok.mp h
  obtain ⟨hdigits', -, -, hsum'⟩ := validateFinnishDomesticReferenceNumber_eq_ok.mp h'
  have hmem : ∀ x : Char, x ∈ before ++ x :: after := fun x =>
    List.mem_append_right _ List.mem_cons_self
  exact checksum_ne (hdigits.2 c (hmem c)) (hdigits'.2 d (hmem d)) hne hsum hsum'

theorem mistyped_reference_rejected_sample :
    validateFinnishDomesticReferenceNumber "1432".toList ≠ .ok () :=
  @mistyped_reference_rejected "1".toList "32".toList '2' '4' (by decide) (by rfl)

end InvoiceReferenceNumber
