import Mathlib.Algebra.BigOperators.Group.List.Basic
import Mathlib.Data.List.Forall2
import Mathlib.Tactic.Linarith
import Mathlib.Tactic.Ring

/-! # Apportionment — rounded cumulative shares

    A whole number `total` is handed out along a list of weights.  Rounding
    every share by itself would lose or invent units, so the CUMULATIVE target
    `total * (weights so far) / (all weights)` is rounded and each share is the
    difference of two neighbouring targets.

    - `halfUp`, rounding to the nearest integer with halves going up, is
      monotone and has slope at most the slope of its argument;
    - `sharesFrom_sum`: differences of targets telescope, so the shares of any
      list of weights add up to the difference of the outer targets;
    - `shares_sum`: all the weights together receive exactly `total`;
    - `sharesFrom_near`: a share differs from its exact part by less than one;
    - `sharesFrom_nonneg`, `sharesFrom_le`: a share is never negative, and never
      above its own weight as long as `total` is at most the sum of weights;
    - `takenPart_cumulative`: a quantity priced before and after a discount gives
      rounded parts that never exceed it, its discount included. -/

namespace Apportionment

/-! ## Rounding half up -/

/-- `n / d` rounded to the nearest integer, a half going up. -/
def halfUp (n d : Int) : Int := (n + d / 2) / d

variable {n m k d : Int}

theorem halfUp_mono (hd : 0 < d) (h : n ≤ m) : halfUp n d ≤ halfUp m d := by
  unfold halfUp
  exact Int.ediv_le_ediv hd (by omega)

theorem halfUp_add_mul (hd : 0 < d) : halfUp (n + k * d) d = halfUp n d + k := by
  unfold halfUp
  have hsplit : n + k * d + d / 2 = (n + d / 2) + k * d := by ring
  rw [hsplit, Int.add_mul_ediv_right _ _ (by omega)]

/-- Zero rounds to zero, also over a zero denominator. -/
theorem halfUp_zero (hd : 0 ≤ d) : halfUp 0 d = 0 := by
  unfold halfUp
  rcases Int.lt_or_eq_of_le hd with hd | hd
  · exact Int.ediv_eq_zero_of_lt (by omega) (by omega)
  · subst hd
    rfl

theorem halfUp_nonneg (hd : 0 ≤ d) (hn : 0 ≤ n) : 0 ≤ halfUp n d := by
  unfold halfUp
  exact Int.ediv_nonneg (by omega) hd

/-- A multiple of the denominator is rounded to itself. -/
theorem halfUp_mul (hd : 0 < d) : halfUp (k * d) d = k := by
  have h := halfUp_add_mul (n := 0) (k := k) hd
  rw [halfUp_zero (by omega)] at h
  simpa using h

/-- **SLOPE**: an argument that grows by at most `k` denominators lets the
    rounded value grow by at most `k`. -/
theorem halfUp_add_le (hd : 0 < d) (h : m ≤ k * d) :
    halfUp (n + m) d ≤ halfUp n d + k := by
  rw [← halfUp_add_mul hd]
  exact halfUp_mono hd (by omega)

theorem halfUp_le (hd : 0 < d) (h : n ≤ k * d) : halfUp n d ≤ k := by
  have hslope := halfUp_add_le (n := 0) hd h
  rw [halfUp_zero (by omega)] at hslope
  simpa using hslope

/-- The part of `a` that a quantity `q` out of `capacity` stands for. -/
theorem halfUp_part_le {a q capacity : Int} (ha : 0 ≤ a) (hq : q ≤ capacity)
    (hc : 0 < capacity) : halfUp (a * q) capacity ≤ a :=
  halfUp_le hc (Int.mul_le_mul_of_nonneg_left hq ha)

/-- Rounded parts of two amounts differ by at most the difference of the
    amounts. -/
theorem halfUp_part_sub_le {a b q capacity : Int} (hab : a ≤ b)
    (hq : q ≤ capacity) (hc : 0 < capacity) :
    halfUp (b * q) capacity ≤ halfUp (a * q) capacity + (b - a) := by
  have hsplit : b * q = a * q + (b - a) * q := by ring
  rw [hsplit]
  exact halfUp_add_le hc (Int.mul_le_mul_of_nonneg_left hq (by omega))

/-- An argument that grows by a whole denominator more grows at least as much when
    rounded, wherever the growth begins. -/
theorem halfUp_growth_le {e : Int} (hd : 0 < d) (he : d ≤ e) :
    halfUp (n + m) d - halfUp n d ≤ halfUp (k + (m + e)) d - halfUp k d := by
  -- both growths are compared with the whole denominators in `m`
  have hupper : halfUp (n + m) d ≤ halfUp n d + (m / d + 1) := by
    refine halfUp_add_le hd ?_
    have hlt := Int.lt_mul_ediv_self_add hd (x := m)
    rw [Int.add_mul, Int.one_mul, Int.mul_comm]
    omega
  have hlower : halfUp k d + (m / d + 1) ≤ halfUp (k + (m + e)) d := by
    rw [← halfUp_add_mul hd]
    refine halfUp_mono hd ?_
    have hle := Int.mul_ediv_self_le (x := m) (k := d) (by omega)
    rw [Int.add_mul, Int.one_mul, Int.mul_comm]
    omega
  omega

/-! ## Shares -/

/-- The shares of the weights in a list, when the weights before it add up to
    `before` and all the weights to `weight`. -/
def sharesFrom (total weight : Int) : Int → List Int → List Int
  | _, [] => []
  | before, w :: rest =>
      (halfUp (total * (before + w)) weight - halfUp (total * before) weight)
        :: sharesFrom total weight (before + w) rest

/-- The shares of `total` along all the weights. -/
def shares (total : Int) (weights : List Int) : List Int :=
  sharesFrom total weights.sum 0 weights

variable {total weight before : Int} {ws : List Int}

@[simp] theorem sharesFrom_length :
    (sharesFrom total weight before ws).length = ws.length := by
  induction ws generalizing before with
  | nil => rfl
  | cons w rest ih => simp [sharesFrom, ih]

@[simp] theorem shares_length : (shares total ws).length = ws.length :=
  sharesFrom_length

/-- **TELESCOPING**: the shares of a list of weights add up to the difference
    of the targets at its two ends. -/
theorem sharesFrom_sum :
    (sharesFrom total weight before ws).sum
      = halfUp (total * (before + ws.sum)) weight
        - halfUp (total * before) weight := by
  induction ws generalizing before with
  | nil => simp [sharesFrom]
  | cons w rest ih =>
      rw [sharesFrom, List.sum_cons, ih, List.sum_cons, Int.add_assoc]
      omega

/-- All the weights together receive the whole total. -/
theorem shares_sum (h : 0 < ws.sum) : (shares total ws).sum = total := by
  rw [shares, sharesFrom_sum, Int.zero_add, halfUp_mul h, Int.mul_zero,
    halfUp_zero (by omega), Int.sub_zero]

theorem sharesFrom_nonneg (hw : 0 < weight) (ht : 0 ≤ total)
    (hws : ∀ w ∈ ws, 0 ≤ w) : ∀ s ∈ sharesFrom total weight before ws, 0 ≤ s := by
  induction ws generalizing before with
  | nil => intro s hs; exact nomatch hs
  | cons w rest ih =>
      have hhead : 0 ≤ w := hws w List.mem_cons_self
      have hmono : halfUp (total * before) weight
          ≤ halfUp (total * (before + w)) weight :=
        halfUp_mono hw (Int.mul_le_mul_of_nonneg_left (by omega) ht)
      intro s hs
      rcases List.mem_cons.mp hs with rfl | hs
      · omega
      · exact ih (fun v hv => hws v (List.mem_cons_of_mem w hv)) s hs

/-- A share stays below its weight when there is no more to hand out than the
    weights add up to. -/
theorem sharesFrom_le (hw : 0 < weight) (ht : total ≤ weight)
    (hws : ∀ w ∈ ws, 0 ≤ w) :
    List.Forall₂ (fun s w => s ≤ w) (sharesFrom total weight before ws) ws := by
  induction ws generalizing before with
  | nil => exact List.Forall₂.nil
  | cons w rest ih =>
      have hhead : 0 ≤ w := hws w List.mem_cons_self
      have hslope : halfUp (total * (before + w)) weight
          ≤ halfUp (total * before) weight + w := by
        rw [Int.mul_add]
        refine halfUp_add_le hw ?_
        rw [Int.mul_comm total w]
        exact Int.mul_le_mul_of_nonneg_left ht hhead
      exact List.Forall₂.cons (by omega)
        (ih (fun v hv => hws v (List.mem_cons_of_mem w hv)))

/-- A rounded fraction is off by at most a half, and by less than a half downwards. -/
theorem halfUp_error (hd : 0 < d) :
    d / 2 - d < d * halfUp n d - n ∧ d * halfUp n d - n ≤ d / 2 := by
  have hsplit := Int.mul_ediv_add_emod (n + d / 2) d
  have hnonneg := Int.emod_nonneg (n + d / 2) (Int.ne_of_gt hd)
  have hlt := Int.emod_lt_of_pos (n + d / 2) hd
  rw [halfUp]
  omega

/-- **NEAR ITS QUOTA**: a share differs from its exact part by less than one. -/
theorem sharesFrom_near (hw : 0 < weight) :
    List.Forall₂ (fun s w => |s * weight - total * w| < weight)
      (sharesFrom total weight before ws) ws := by
  induction ws generalizing before with
  | nil => exact List.Forall₂.nil
  | cons w rest ih =>
      refine List.Forall₂.cons ?_ ih
      -- the errors of two neighbouring targets lie in one interval of that length
      have hupper := halfUp_error (n := total * (before + w)) hw
      have hlower := halfUp_error (n := total * before) hw
      have hsplit : (halfUp (total * (before + w)) weight - halfUp (total * before) weight)
          * weight - total * w
          = (weight * halfUp (total * (before + w)) weight - total * (before + w))
            - (weight * halfUp (total * before) weight - total * before) := by ring
      rw [hsplit, abs_lt]
      constructor
      · omega
      · omega

/-- A weight of zero gets nothing. -/
theorem sharesFrom_zero :
    List.Forall₂ (fun s w => w = 0 → s = 0) (sharesFrom total weight before ws) ws := by
  induction ws generalizing before with
  | nil => exact List.Forall₂.nil
  | cons w rest ih =>
      refine List.Forall₂.cons ?_ ih
      rintro rfl
      rw [Int.add_zero, Int.sub_self]

/-! ## Parts of a discounted amount -/

/-- A quantity, its amount before a discount and its amount after it. -/
structure Portion where
  quantity : Int
  base : Int
  input : Int
  deriving DecidableEq

instance : Add Portion where
  add a b := ⟨a.quantity + b.quantity, a.base + b.base, a.input + b.input⟩

/-- A portion without negative amounts or discount, and without amount when it
    has no quantity. -/
structure IsPortion (p : Portion) : Prop where
  quantity : 0 ≤ p.quantity
  input : 0 ≤ p.input
  discount : p.input ≤ p.base
  nothing : p.quantity = 0 → p.input = 0

/-- `part` was taken from `whole`: what is left has no negative amount or discount,
    and no amount once the quantity is used up. -/
structure TakenPart (whole part : Portion) : Prop where
  quantity : 0 ≤ part.quantity ∧ part.quantity ≤ whole.quantity
  base : 0 ≤ part.base ∧ part.base ≤ whole.base
  input : 0 ≤ part.input ∧ part.input ≤ whole.input
  discount : whole.input - part.input ≤ whole.base - part.base
  exhausted : part.quantity = whole.quantity → part.input = whole.input

/-- The part of a portion that a quantity stands for. -/
def cumulativePart (whole : Portion) (quantity : Int) : Portion where
  quantity := quantity
  base := halfUp (whole.base * quantity) whole.quantity
  input := halfUp (whole.input * quantity) whole.quantity

/-- **PARTS**: the rounded part of a portion was taken from it. -/
theorem takenPart_cumulative {whole : Portion} {quantity : Int}
    (hinput : 0 ≤ whole.input) (hdiscount : whole.input ≤ whole.base)
    (hpositive : 0 < whole.quantity) (hquantity : 0 ≤ quantity)
    (hle : quantity ≤ whole.quantity) : TakenPart whole (cumulativePart whole quantity) where
  quantity := ⟨hquantity, hle⟩
  base := ⟨halfUp_nonneg (Int.le_of_lt hpositive) (Int.mul_nonneg (by omega) hquantity),
    halfUp_part_le (by omega) hle hpositive⟩
  input := ⟨halfUp_nonneg (Int.le_of_lt hpositive) (Int.mul_nonneg hinput hquantity),
    halfUp_part_le hinput hle hpositive⟩
  discount := by
    have hpart : halfUp (whole.base * quantity) whole.quantity
        ≤ halfUp (whole.input * quantity) whole.quantity + (whole.base - whole.input) :=
      halfUp_part_sub_le hdiscount hle hpositive
    show whole.input - halfUp (whole.input * quantity) whole.quantity
      ≤ whole.base - halfUp (whole.base * quantity) whole.quantity
    omega
  exhausted h := by
    have hfull : quantity = whole.quantity := h
    show halfUp (whole.input * quantity) whole.quantity = whole.input
    rw [hfull, halfUp_mul hpositive]

/-- Giving a portion back leaves a part. -/
theorem TakenPart.of_add {whole given left : Portion} (hgiven : IsPortion given)
    (hleft : IsPortion left) (h : TakenPart whole (given + left)) : TakenPart whole left := by
  obtain ⟨⟨_, hquantity⟩, ⟨_, hbase⟩, ⟨_, hinput⟩, hdiscount, hexhausted⟩ := h
  have hquantity' : given.quantity + left.quantity ≤ whole.quantity := hquantity
  have hbase' : given.base + left.base ≤ whole.base := hbase
  have hinput' : given.input + left.input ≤ whole.input := hinput
  have hdiscount' : whole.input - (given.input + left.input)
      ≤ whole.base - (given.base + left.base) := hdiscount
  obtain ⟨hgq, hgi, hgd, hnothing⟩ := hgiven
  obtain ⟨hlq, hli, hld, _⟩ := hleft
  refine ⟨⟨hlq, by omega⟩, ⟨by omega, by omega⟩, ⟨hli, by omega⟩, by omega, ?_⟩
  intro hfull
  -- then nothing was given back at all
  have hzero : given.quantity = 0 := by omega
  have hall : given.input + left.input = whole.input :=
    hexhausted (show given.quantity + left.quantity = whole.quantity by omega)
  have hnone := hnothing hzero
  omega

end Apportionment
