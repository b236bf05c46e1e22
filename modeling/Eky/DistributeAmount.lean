import Eky.CreditTaxProofs
import Eky.CreditDraftProofs
import Mathlib.Algebra.Order.Field.Rat
import Mathlib.Algebra.Order.Field.Basic
import Mathlib.Tactic.FieldSimp

/-! # What a distribution hands out

    The cumulative shares of `Apportionment` are near their quotas, and both versions of
    `distributeAmount` compute them whenever the running sums stay in range.

    - `distributed_shares`: the shares of a positive weight;
    - `distributeAmount_eq_ok`: when the shared body gets through, and to what;
    - `distributeAmount_distributed`: the two versions of the program. -/

namespace VatDistribution

open Fallible Apportionment InvoiceMoney

/-- What is handed out of `total` along the weights. -/
structure Distributed (total : Int) (weights shares : List Int) : Prop where
  length : shares.length = weights.length
  nonneg : ∀ share ∈ shares, 0 ≤ share
  sum : shares.sum = total
  near : List.Forall₂ (fun (share weight : Int) =>
    |(share : ℚ) - total * weight / weights.sum| < 1) shares weights
  bounded : total ≤ weights.sum → List.Forall₂ (fun share weight => share ≤ weight) shares weights
  zero : total ≤ weights.sum →
    List.Forall₂ (fun share weight => weight = 0 → share = 0) shares weights

variable {total : Int} {weights : List Int}

/-- A difference of less than the denominator is a fraction of less than one. -/
private theorem abs_sub_div_lt {share weight sum : Int} (hsum : 0 < sum)
    (h : |share * sum - total * weight| < sum) :
    |(share : ℚ) - total * weight / sum| < 1 := by
  have hpos : (0 : ℚ) < sum := Int.cast_pos.mpr hsum
  have hfraction : (share : ℚ) - total * weight / sum
      = ((share * sum - total * weight : Int) : ℚ) / sum := by
    push_cast
    field_simp
  rw [hfraction, abs_div, abs_of_pos hpos, div_lt_one hpos, ← Int.cast_abs]
  exact Int.cast_lt.mpr h

theorem distributed_shares (hweights : ∀ w ∈ weights, 0 ≤ w) (hsum : 0 < weights.sum)
    (htotal : 0 ≤ total) : Distributed total weights (shares total weights) where
  length := shares_length
  nonneg := sharesFrom_nonneg hsum htotal hweights
  sum := shares_sum hsum
  near := (sharesFrom_near hsum).imp fun _ _ h => abs_sub_div_lt hsum h
  bounded := fun hle => sharesFrom_le hsum hle hweights
  zero := fun _ => sharesFrom_zero

section Parameters

variable {rejected : Int → Prop} [DecidablePred rejected]
variable {rangeError subtractError : InvoiceError}
variable {onZeroWeight : Int → List Int → Checked (List Int)} {out : List Int}

/-- The last target of the loop is in range. -/
private theorem last_target_le {weight cumulative previous : Int} {ws : List Int}
    (hne : ws ≠ [])
    (h : distributeFrom rejected rangeError subtractError total weight cumulative previous ws
      = .ok out) : halfUp (total * (cumulative + ws.sum)) weight ≤ maximumSafeInteger := by
  induction ws generalizing cumulative previous out with
  | nil => exact absurd rfl hne
  | cons w rest ih =>
      simp only [distributeFrom, addUnless, bind_eq_ok, throwIf_eq_ok, exists_const,
        pure_eq_ok, roundHalfUp_eq_ok] at h
      obtain ⟨_, ⟨_, rfl⟩, target, ⟨_, _, htarget, hmax⟩, _, _, _, hrest, _⟩ := h
      rw [List.sum_cons, ← Int.add_assoc]
      cases rest with
      | nil =>
          rw [List.sum_nil, Int.add_zero, htarget]
          exact hmax
      | cons v others => exact ih (List.cons_ne_nil v others) hrest

/-- **WHEN IT GETS THROUGH**: the weights together and the total are in range. -/
theorem distributeAmount_eq_ok (hr : RejectsOverflow rejected) (hweights : ∀ w ∈ weights, 0 ≤ w)
    (hsum : 0 < weights.sum) (htotal : 0 ≤ total) :
    distributeAmount rejected rangeError subtractError onZeroWeight total weights = .ok out ↔
      (weights.sum ≤ maximumSafeInteger ∧ total ≤ maximumSafeInteger)
        ∧ out = shares total weights := by
  constructor
  · intro h
    have hsumM := @sumM_eq_ok rejected _ rangeError hr Int (fun w => w) weights hweights 0
    rw [distributeAmount, bind_eq_ok] at h
    obtain ⟨totalWeight, hweight, h⟩ := h
    obtain ⟨hsame, hmax⟩ := (hsumM isAmount_zero).mp hweight
    rw [List.map_id', Int.zero_add] at hsame
    subst hsame
    rw [if_neg (by omega)] at h
    have hne : weights ≠ [] := by
      rintro rfl
      exact absurd hsum (Int.lt_irrefl 0)
    have hlast := last_target_le hne h
    rw [Int.zero_add, halfUp_mul hsum] at hlast
    have hstart : halfUp (total * 0) weights.sum = 0 := by
      rw [Int.mul_zero, halfUp_zero (by omega)]
    exact ⟨⟨hmax, hlast⟩, distributeFrom_shares hstart.symm h⟩
  · rintro ⟨⟨hmax, htotalMax⟩, rfl⟩
    exact distributeAmount_total hr htotal htotalMax hweights hsum hmax

end Parameters

/-- **BOTH VERSIONS** get through exactly when the weights together and the total are safe
    integers, and what they hand out is near the quotas and adds up. -/
theorem distributeAmount_distributed (hweights : ∀ w ∈ weights, 0 ≤ w)
    (hsum : 0 < weights.sum) (htotal : 0 ≤ total) :
    ∀ distribute ∈ [CreditInvoice.distributeAmount, CreditDraft.distributeAmount],
      ((∃ shares, distribute total weights = .ok shares) ↔
          weights.sum ≤ maximumSafeInteger ∧ total ≤ maximumSafeInteger)
        ∧ ∀ shares, distribute total weights = .ok shares →
          Distributed total weights shares := by
  have hall : ∀ distribute : Int → List Int → Checked (List Int),
      (∀ out, distribute total weights = .ok out ↔
        (weights.sum ≤ maximumSafeInteger ∧ total ≤ maximumSafeInteger)
          ∧ out = Apportionment.shares total weights) →
      ((∃ shares, distribute total weights = .ok shares) ↔
          weights.sum ≤ maximumSafeInteger ∧ total ≤ maximumSafeInteger)
        ∧ ∀ shares, distribute total weights = .ok shares →
          Distributed total weights shares := by
    intro distribute hiff
    refine ⟨⟨?_, fun hfits => ⟨_, (hiff _).mpr ⟨hfits, rfl⟩⟩⟩, ?_⟩
    · rintro ⟨out, hout⟩
      exact ((hiff out).mp hout).1
    · intro out hout
      rw [((hiff out).mp hout).2]
      exact distributed_shares hweights hsum htotal
  intro distribute hmem
  rcases List.mem_cons.mp hmem with rfl | hmem
  · exact hall _ fun out =>
      distributeAmount_eq_ok CreditInvoice.rejectsOverflow_outOfRange hweights hsum htotal
  · obtain rfl := List.mem_singleton.mp hmem
    exact hall _ fun out =>
      distributeAmount_eq_ok CreditDraft.rejectsOverflow_exceedsRange hweights hsum htotal

/-- Five cents over three lines of one cent and one without value. -/
theorem distributeAmount_five :
    Distributed 5 [1, 1, 0, 1] [2, 1, 0, 2] :=
  (distributeAmount_distributed (by decide) (by decide) (by decide) _ List.mem_cons_self).2 _
    (by decide +kernel)

/-- Weights that add up beyond the safe integers are not distributed over. -/
theorem distributeAmount_overflow :
    ¬ ∀ distribute ∈ [CreditInvoice.distributeAmount, CreditDraft.distributeAmount],
      ∀ total weights, (∀ w ∈ weights, 0 ≤ w) → 0 < weights.sum → 0 ≤ total →
        ∃ shares, distribute total weights = .ok shares := by
  intro h
  obtain ⟨shares, hshares⟩ := h _ List.mem_cons_self 0 [maximumSafeInteger, 1]
    (by decide) (by decide) (by decide)
  have herror : CreditInvoice.distributeAmount 0 [maximumSafeInteger, 1]
      = .error CreditInvoice.rangeError := by decide +kernel
  exact nomatch herror.symm.trans hshares

end VatDistribution
