import Mathlib.Algebra.GroupWithZero.Nat
import Mathlib.Data.List.Basic
import Mathlib.Data.List.Forall2
import Mathlib.Data.List.Perm.Basic

/-! # Fallible computations — when a chain of checks succeeds

    A function that may throw is a function into `Except`.  Everything proved
    about such a function goes through one question, WHEN DOES IT RETURN, and
    this file answers it for each way of putting checks together:

    - `throwIf` and `orThrow`, the two elementary checks;
    - `bind_eq_ok`, one step followed by another;
    - `forM_eq_ok`, `mapM_eq_ok`, a check or a conversion of every element;
    - `foldlM_invariant` and `foldlM_progress`, a loop with an accumulator, and
      `foldlM_bounded`, one whose sum has a bound. -/

namespace Fallible

variable {ε α β γ : Type}

/-- Throw `error` when `condition` holds. -/
def throwIf (condition : Prop) [Decidable condition] (error : ε) : Except ε Unit :=
  if condition then .error error else .ok ()

/-- The value of an option, or `error` when there is none. -/
def orThrow (value : Option α) (error : ε) : Except ε α :=
  match value with
  | some a => .ok a
  | none => .error error

/-! ## One step -/

@[simp] theorem pure_eq_ok {a b : α} : (pure a : Except ε α) = .ok b ↔ a = b := by
  show (Except.ok a : Except ε α) = .ok b ↔ a = b
  exact Except.ok.injEq a b ▸ Iff.rfl

variable {R : α → β → Prop} {c : Prop} {f : α → Except ε β} {e : ε} {xs : List α} {b : β}
  {ys : List β}

/-- A sequence returns exactly when both of its steps do. -/
@[simp] theorem bind_eq_ok {x : Except ε α} : (x >>= f) = .ok b ↔ ∃ a, x = .ok a ∧ f a = .ok b := by
  cases x with
  | error e =>
      constructor
      · intro h; exact nomatch h
      · rintro ⟨a, ha, _⟩; exact nomatch ha
  | ok a =>
      constructor
      · intro h; exact ⟨a, rfl, h⟩
      · rintro ⟨a', ha, h⟩
        cases ha
        exact h

@[simp] theorem map_eq_ok {x : Except ε α} {f : α → β} :
    (f <$> x) = .ok b ↔ ∃ a, x = .ok a ∧ f a = b := by
  cases x with
  | error e =>
      constructor
      · intro h; exact nomatch h
      · rintro ⟨a, ha, _⟩; exact nomatch ha
  | ok a =>
      constructor
      · intro h; exact ⟨a, rfl, Except.ok.inj h⟩
      · rintro ⟨a', ha, h⟩
        cases ha
        exact congrArg Except.ok h

@[simp] theorem throwIf_eq_ok [Decidable c] {u : Unit} : throwIf c e = .ok u ↔ ¬ c := by
  unfold throwIf
  by_cases hc : c
  · rw [if_pos hc]
    exact ⟨fun h => (nomatch h), fun h => absurd hc h⟩
  · rw [if_neg hc]
    exact ⟨fun _ => hc, fun _ => rfl⟩

theorem throwIf_of_not [Decidable c] (h : ¬ c) : throwIf c e = .ok () := throwIf_eq_ok.mpr h

theorem throwIf_of [Decidable c] (h : c) : throwIf c e = .error e := by
  unfold throwIf
  rw [if_pos h]

@[simp] theorem orThrow_eq_ok {o : Option α} {a : α} : orThrow o e = .ok a ↔ o = some a := by
  cases o with
  | none => exact ⟨fun h => (nomatch h), fun h => (nomatch h)⟩
  | some b =>
      exact ⟨fun h => congrArg some (Except.ok.inj h),
        fun h => congrArg Except.ok (Option.some.inj h)⟩

@[simp] theorem error_bind : ((Except.error e : Except ε α) >>= f) = .error e := rfl

@[simp] theorem ok_bind {a : α} : ((Except.ok a : Except ε α) >>= f) = f a := rfl

/-! ## Every element of a list -/

theorem forM_eq_ok {f : α → Except ε Unit} {u : Unit} :
    xs.forM f = .ok u ↔ ∀ x ∈ xs, f x = .ok () := by
  induction xs with
  | nil => simp
  | cons x rest ih =>
      show (f x >>= fun _ => rest.forM f) = .ok u ↔ _
      rw [bind_eq_ok]
      constructor
      · rintro ⟨_, hx, hrest⟩ y hy
        rcases List.mem_cons.mp hy with rfl | hy
        · exact hx
        · exact ih.mp hrest y hy
      · intro h
        exact ⟨(), h x List.mem_cons_self,
          ih.mpr (fun y hy => h y (List.mem_cons_of_mem x hy))⟩

/-- A conversion of a list returns exactly the list of the conversions. -/
theorem mapM_eq_ok : xs.mapM f = .ok ys ↔ List.Forall₂ (fun x y => f x = .ok y) xs ys := by
  induction xs generalizing ys with
  | nil =>
      rw [List.mapM_nil, pure_eq_ok]
      exact ⟨fun h => h ▸ List.Forall₂.nil, fun h => by cases h; rfl⟩
  | cons x rest ih =>
      rw [List.mapM_cons, bind_eq_ok]
      constructor
      · rintro ⟨y, hy, h⟩
        obtain ⟨zs, hzs, hcons⟩ := bind_eq_ok.mp h
        rw [pure_eq_ok] at hcons
        exact hcons ▸ List.Forall₂.cons hy (ih.mp hzs)
      · intro h
        cases h with
        | cons hy hzs =>
            exact ⟨_, hy, bind_eq_ok.mpr ⟨_, ih.mpr hzs, rfl⟩⟩

/-- A conversion that cannot fail on the list is a map. -/
theorem mapM_eq_ok_map {g : α → β} (h : ∀ x ∈ xs, f x = .ok (g x)) :
    xs.mapM f = .ok (xs.map g) := by
  rw [mapM_eq_ok, List.forall₂_map_right_iff, List.forall₂_same]
  exact h

/-- A conversion that returns is a map, whenever its results are known. -/
theorem mapM_map_of_ok {g : α → β} (h : xs.mapM f = .ok ys)
    (hg : ∀ x y, x ∈ xs → f x = .ok y → y = g x) : ys = xs.map g := by
  have hall := mapM_eq_ok.mp h
  clear h
  induction hall with
  | nil => rfl
  | cons hy _ ih =>
      rw [List.map_cons, hg _ _ List.mem_cons_self hy,
        ih (fun x y hx => hg x y (List.mem_cons_of_mem _ hx))]

/-- A conversion that returns on every element returns on the list. -/
theorem mapM_total (h : ∀ x ∈ xs, ∃ y, f x = .ok y) : ∃ ys, xs.mapM f = .ok ys := by
  induction xs with
  | nil => exact ⟨[], rfl⟩
  | cons x rest ih =>
      obtain ⟨y, hy⟩ := h x List.mem_cons_self
      obtain ⟨ys, hys⟩ := ih (fun z hz => h z (List.mem_cons_of_mem x hz))
      refine ⟨y :: ys, ?_⟩
      rw [List.mapM_cons, bind_eq_ok]
      exact ⟨y, hy, bind_eq_ok.mpr ⟨ys, hys, rfl⟩⟩

/-- Two conversions one behind the other are two conversions of the list. -/
theorem mapM_bind_eq_ok {g : β → Except ε γ} {zs : List γ} : xs.mapM (fun x => f x >>= g) = .ok zs ↔
      ∃ ys, xs.mapM f = .ok ys ∧ ys.mapM g = .ok zs := by
  induction xs generalizing zs with
  | nil =>
      constructor
      · exact fun h => ⟨[], rfl, h⟩
      · rintro ⟨ys, hys, hzs⟩
        obtain rfl : [] = ys := pure_eq_ok.mp hys
        exact hzs
  | cons x rest ih =>
      simp only [List.mapM_cons, bind_eq_ok, pure_eq_ok, ih]
      constructor
      · rintro ⟨z, ⟨y, hy, hz⟩, zs', ⟨ys, hys, hzs⟩, rfl⟩
        refine ⟨y :: ys, ⟨y, hy, ys, hys, rfl⟩, ?_⟩
        rw [List.mapM_cons, hz, hzs]
        rfl
      · rintro ⟨_, ⟨y, hy, ys, hys, rfl⟩, h⟩
        simp only [List.mapM_cons, bind_eq_ok, pure_eq_ok] at h
        obtain ⟨z, hz, zs', hzs, rfl⟩ := h
        exact ⟨z, ⟨y, hy, hz⟩, zs', ⟨ys, hys, hzs⟩, rfl⟩

/-- In lists related element by element, every element of the second has a
    partner in the first. -/
theorem exists_left_of_forall₂ (h : List.Forall₂ R xs ys) {y : β} (hy : y ∈ ys) :
    ∃ x ∈ xs, R x y := by
  induction h with
  | nil => exact nomatch hy
  | cons hxy _ ih =>
      rcases List.mem_cons.mp hy with rfl | hy
      · exact ⟨_, List.mem_cons_self, hxy⟩
      · obtain ⟨x, hx, hr⟩ := ih hy
        exact ⟨x, List.mem_cons_of_mem _ hx, hr⟩

theorem exists_right_of_forall₂ (h : List.Forall₂ R xs ys) {x : α} (hx : x ∈ xs) :
    ∃ y ∈ ys, R x y :=
  exists_left_of_forall₂ (R := fun y x => R x y) h.flip hx

/-- Relations between three lists compose element by element. -/
theorem forall₂_comp {S : β → γ → Prop} {T : α → γ → Prop} (hcomp : ∀ x y z, R x y → S y z → T x z)
    {zs : List γ} (hxy : List.Forall₂ R xs ys) (hyz : List.Forall₂ S ys zs) :
    List.Forall₂ T xs zs := by
  induction hxy generalizing zs with
  | nil =>
      cases hyz with
      | nil => exact List.Forall₂.nil
  | cons h _ ih =>
      cases hyz with
      | cons h' hrest => exact List.Forall₂.cons (hcomp _ _ _ h h') (ih hrest)

/-- Elements that meet in a third one, put in a list of their own. -/
theorem forall₂_split {R : α → γ → Prop} {S : β → γ → Prop}
    (h : List.Forall₂ (fun x y => ∃ z, R x z ∧ S y z) xs ys) :
    ∃ zs, List.Forall₂ R xs zs ∧ List.Forall₂ S ys zs := by
  induction h with
  | nil => exact ⟨[], List.Forall₂.nil, List.Forall₂.nil⟩
  | cons hxy _ ih =>
      obtain ⟨z, hx, hy⟩ := hxy
      obtain ⟨zs, hxs, hys⟩ := ih
      exact ⟨z :: zs, List.Forall₂.cons hx hxs, List.Forall₂.cons hy hys⟩

/-- A list related to an appended list is appended of related parts. -/
theorem forall₂_append_left {xs' : List α} (h : List.Forall₂ R (xs ++ xs') ys) :
    ∃ first second, ys = first ++ second ∧ List.Forall₂ R xs first
      ∧ List.Forall₂ R xs' second := by
  induction xs generalizing ys with
  | nil => exact ⟨[], ys, rfl, List.Forall₂.nil, h⟩
  | cons x rest ih =>
      cases h with
      | cons hxy hrest =>
          obtain ⟨first, second, rfl, hfirst, hsecond⟩ := ih hrest
          exact ⟨_ :: first, second, rfl, List.Forall₂.cons hxy hfirst, hsecond⟩

/-- Every converted element comes from an element of the list. -/
theorem exists_source_of_mapM_ok (h : xs.mapM f = .ok ys) {y : β} (hy : y ∈ ys) :
    ∃ x ∈ xs, f x = .ok y :=
  exists_left_of_forall₂ (mapM_eq_ok.mp h) hy

/-- Every element of a converted list was converted. -/
theorem exists_of_mapM_ok (h : xs.mapM f = .ok ys) {x : α} (hx : x ∈ xs) : ∃ y ∈ ys, f x = .ok y :=
  exists_right_of_forall₂ (mapM_eq_ok.mp h) hx

/-- A conversion does not depend on the order of the list. -/
theorem mapM_perm {xs' : List α} (hperm : xs.Perm xs') (h : xs.mapM f = .ok ys) :
    ∃ ys', xs'.mapM f = .ok ys' ∧ ys.Perm ys' := by
  obtain ⟨ys', hall, hys⟩ := List.perm_comp_forall₂ hperm.symm (mapM_eq_ok.mp h)
  exact ⟨ys', mapM_eq_ok.mpr hall, hys.symm⟩

/-! ## Loops -/

/-- **INVARIANT RULE**: what holds before a loop and is kept by every iteration
    that returns, holds after it. -/
theorem foldlM_invariant {f : β → α → Except ε β} {P : β → Prop} {b' : β}
    (hrun : xs.foldlM f b = .ok b') (hb : P b)
    (hstep : ∀ c x c', x ∈ xs → P c → f c x = .ok c' → P c') : P b' := by
  induction xs generalizing b with
  | nil =>
      rw [List.foldlM_nil, pure_eq_ok] at hrun
      exact hrun ▸ hb
  | cons x rest ih =>
      rw [List.foldlM_cons, bind_eq_ok] at hrun
      obtain ⟨c, hc, hrest⟩ := hrun
      exact ih hrest (hstep b x c List.mem_cons_self hb hc)
        (fun d y d' hy => hstep d y d' (List.mem_cons_of_mem x hy))

/-- **PROGRESS RULE**: a loop whose every iteration returns and keeps the
    invariant returns. -/
theorem foldlM_progress {f : β → α → Except ε β} {P : β → Prop} (hb : P b)
    (hstep : ∀ c x, x ∈ xs → P c → ∃ c', f c x = .ok c' ∧ P c') :
    ∃ b', xs.foldlM f b = .ok b' ∧ P b' := by
  induction xs generalizing b with
  | nil => exact ⟨b, rfl, hb⟩
  | cons x rest ih =>
      obtain ⟨c, hc, hPc⟩ := hstep b x List.mem_cons_self hb
      obtain ⟨b', hb', hPb'⟩ := ih hPc
        (fun d y hy => hstep d y (List.mem_cons_of_mem x hy))
      refine ⟨b', ?_, hPb'⟩
      rw [List.foldlM_cons, hc]
      exact hb'

/-- **BOUNDED SUM**: a loop that adds up weights and stops at the first sum over the
    bound stops if and only if the whole sum is over it. -/
theorem foldlM_bounded {f : Nat → α → Except ε Nat} {weight : α → Nat} {bound : Nat}
    (hstep : ∀ total x, f total x =
      if total + weight x ≤ bound then .ok (total + weight x) else .error e) {total : Nat}
    (htotal : total ≤ bound) : xs.foldlM f total = if total + (xs.map weight).sum ≤ bound
      then .ok (total + (xs.map weight).sum) else .error e := by
  induction xs generalizing total with
  | nil =>
      rw [List.map_nil, List.sum_nil, Nat.add_zero, if_pos htotal]
      rfl
  | cons x rest ih =>
      rw [List.foldlM_cons, hstep, List.map_cons, List.sum_cons, ← Nat.add_assoc]
      by_cases hfits : total + weight x ≤ bound
      · rw [if_pos hfits]
        exact ih hfits
      · rw [if_neg hfits, if_neg fun hall => hfits (Nat.le_trans (Nat.le_add_right _ _) hall)]
        rfl

end Fallible
