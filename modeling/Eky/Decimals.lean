import Mathlib
import Eky.Buffers

/-! # Decimals — numbers as padded decimal texts

    `padded width n` is the decimal text of `n`, filled up in front with zeros to `width`
    characters; a longer number stays as it is.

    - `value_padded`: the number is read back whatever the width, so that two texts of one
      width are different when their numbers are;
    - `padded_value`: a text of digits is the padded form, in its own length, of the number
      it is worth.  In a greater width it is not, and in a smaller one only when it does not
      begin with a zero. -/

namespace Decimals

/-- `/^\d+$/` -/
def IsDigits (text : List Char) : Prop := text ≠ [] ∧ ∀ c ∈ text, c.isDigit = true

instance (text : List Char) : Decidable (IsDigits text) := inferInstanceAs (Decidable (_ ∧ _))

/-- What a text of digits is worth. -/
def value (text : List Char) : Nat := Nat.ofDigitChars 10 text 0

/-- `String(n).padStart(width, '0')` -/
def padded (width n : Nat) : List Char := (Nat.toDigits 10 n).leftpad width '0'

variable {left text right : List Char} {width n : Nat} {c : Char}

/-! ## From the number to the text -/

theorem isDigits_padded : IsDigits (padded width n) := by
  refine ⟨List.append_ne_nil_of_right_ne_nil _ Nat.toDigits_ne_nil, fun c hc => ?_⟩
  rw [padded, List.leftpad, List.mem_append] at hc
  rcases hc with hc | hc
  · rw [List.eq_of_mem_replicate hc]
    rfl
  · exact Nat.isDigit_of_mem_toDigits (by decide) (by decide) hc

@[simp] theorem value_padded : value (padded width n) = n := by
  rw [value, padded, List.leftpad, Nat.ofDigitChars_append, Nat.ofDigitChars_replicate_zero,
    Nat.mul_zero, Nat.ofDigitChars_ten_toDigits]

theorem padded_injective : Function.Injective (padded width) := by
  intro n m h
  rw [← @value_padded width n, h, value_padded]

/-- A number that fits the width fills it exactly. -/
theorem length_padded (hwidth : 0 < width) (h : n < 10 ^ width) :
    (padded width n).length = width := by
  have hlength := (Nat.length_toDigits_le_iff (n := n) (by decide : 1 < 10) hwidth).mpr h
  rw [padded, List.leftpad, List.length_append, List.length_replicate]
  omega

/-! ## From the text to the number -/

theorem value_append_digit : value (text ++ [c]) = 10 * value text + (c.toNat - 48) := by
  rw [value, Nat.ofDigitChars_append, Nat.ofDigitChars_cons, Nat.ofDigitChars_nil]
  rfl

/-- The codes of the ten digits. -/
theorem toNat_of_isDigit (h : c.isDigit = true) : 48 ≤ c.toNat ∧ c.toNat ≤ 57 := by
  simp only [Char.isDigit, Bool.and_eq_true, decide_eq_true_eq] at h
  exact ⟨h.1, h.2⟩

theorem value_lt (h : ∀ c ∈ text, c.isDigit = true) : value text < 10 ^ text.length := by
  induction text using List.reverseRecOn with
  | nil => exact Nat.one_pos
  | append_singleton text c ih =>
      have hc := toNat_of_isDigit (h c (List.mem_append_right _ (List.mem_singleton_self c)))
      have htext := ih fun d hd => h d (List.mem_append_left _ hd)
      rw [value_append_digit, List.length_append, List.length_singleton, Nat.pow_succ]
      omega

theorem value_cons : value (c :: text) = (c.toNat - 48) * 10 ^ text.length + value text := by
  rw [value, Nat.ofDigitChars_cons, Nat.ofDigitChars_eq_ofDigitChars_zero, Nat.mul_zero,
    Nat.zero_add, Nat.mul_comm]
  rfl

section

variable (hleft : ∀ c ∈ left, c.isDigit = true) (hright : ∀ c ∈ right, c.isDigit = true)
include hleft hright

/-- Without a zero in front the longer number is the greater one. -/
theorem value_lt_of_length_lt (hzero : right.head? ≠ some '0') (h : left.length < right.length) :
    value left < value right := by
  cases right with
  | nil => exact absurd h (Nat.not_lt_zero _)
  | cons c rest =>
      have hc := toNat_of_isDigit (hright c List.mem_cons_self)
      have hne : c.toNat ≠ 48 := by
        intro heq
        have hchar : c = '0' := Char.toNat_inj.mp heq
        exact hzero (congrArg some hchar)
      rw [value_cons]
      have hpow : 10 ^ left.length ≤ 10 ^ rest.length :=
        Nat.pow_le_pow_right (by decide) (Nat.le_of_lt_succ h)
      have hone : 1 * 10 ^ rest.length ≤ (c.toNat - 48) * 10 ^ rest.length :=
        Nat.mul_le_mul_right _ (by omega)
      have hlt := value_lt hleft
      omega

/-- Numbers of one length are ordered as their texts are. -/
theorem value_lt_of_lt (hlength : left.length = right.length) (h : left < right) :
    value left < value right := by
  induction left generalizing right with
  | nil =>
      cases right with
      | nil => exact absurd h (List.lt_irrefl _)
      | cons d rest => exact nomatch hlength
  | cons c text ih =>
      cases right with
      | nil => exact nomatch hlength
      | cons d rest =>
          have hsame : text.length = rest.length := Nat.succ.inj hlength
          rw [value_cons, value_cons, hsame]
          rcases List.cons_lt_cons_iff.mp h with hcd | ⟨rfl, hrest⟩
          · have hc := toNat_of_isDigit (hleft c List.mem_cons_self)
            have hd := toNat_of_isDigit (hright d List.mem_cons_self)
            have hcodes : c.toNat < d.toNat := Char.lt_def.mp hcd
            have htext := value_lt fun e he => hleft e (List.mem_cons_of_mem c he)
            have hplace : (c.toNat - 48 + 1) * 10 ^ rest.length
                ≤ (d.toNat - 48) * 10 ^ rest.length := Nat.mul_le_mul_right _ (by omega)
            rw [hsame] at htext
            rw [Nat.succ_mul] at hplace
            omega
          · have hvalue := ih (fun e he => hleft e (List.mem_cons_of_mem c he))
              (fun e he => hright e (List.mem_cons_of_mem c he)) hsame hrest
            omega

/-- Digits are known by their number and what they are worth. -/
theorem eq_of_value_eq (hlength : left.length = right.length) (h : value left = value right) :
    left = right := by
  -- on the last digits: what is in front of them is worth the quotient by ten
  induction left using List.reverseRecOn generalizing right with
  | nil => exact (List.eq_nil_of_length_eq_zero hlength.symm).symm
  | append_singleton left c ih =>
      rcases List.eq_nil_or_concat right with rfl | ⟨right, d, rfl⟩
      · rw [List.length_append] at hlength
        exact absurd hlength (by simp)
      · have hc := toNat_of_isDigit (hleft c (List.mem_append_right _ (List.mem_singleton_self c)))
        rw [List.concat_eq_append] at hright hlength h ⊢
        have hd := toNat_of_isDigit (hright d (List.mem_append_right _ (List.mem_singleton_self d)))
        rw [value_append_digit, value_append_digit] at h
        have hcode : c.toNat = d.toNat := by omega
        rw [List.length_append, List.length_append] at hlength
        rw [Char.toNat_inj.mp hcode, ih (fun x hx => hleft x (List.mem_append_left _ hx))
          (fun x hx => hright x (List.mem_append_left _ hx)) (Nat.add_right_cancel hlength)
          (by omega)]

end

theorem padded_value (h : IsDigits text) (hwidth : text.length = width) :
    padded width (value text) = text := by
  subst hwidth
  have hpos : 0 < text.length := List.length_pos_iff.mpr h.1
  exact eq_of_value_eq isDigits_padded.2 h.2 (length_padded hpos (value_lt h.2)) value_padded

end Decimals
