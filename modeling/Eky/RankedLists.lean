import Mathlib

/-! # Lists in a strict order, and making room in them

    In a list that is strictly ordered, an element's position is the number of elements in
    front of it (`mem_drop_iff`), whatever order the list was given in before it was sorted.

    `evict` takes elements from the front of a list until what remains fits a budget.  What
    it takes is a prefix, each element was taken because the budget was still exceeded, and
    if the budget is exceeded at the end then nothing is left to take (`evict_spec`). -/

namespace RankedList

section Order

variable {α : Type} {r : α → α → Prop} [DecidableRel r] {l : List α}

/-- Behind the first `n` stand the elements with at least `n` others in front of them. -/
theorem mem_drop_iff (hl : l.Pairwise r) (hasymm : ∀ a b, r a b → ¬ r b a) {n : Nat} {x : α} :
    x ∈ l.drop n ↔ x ∈ l ∧ n ≤ (l.filter fun y => r y x).length := by
  induction l generalizing n with
  | nil =>
      rw [List.drop_nil]
      exact iff_of_false List.not_mem_nil fun h => List.not_mem_nil h.1
  | cons a l ih =>
      rw [List.pairwise_cons] at hl
      have hirrefl : ¬ r a a := fun h => hasymm a a h h
      cases n with
      | zero => exact ⟨fun h => ⟨h, Nat.zero_le _⟩, And.left⟩
      | succ n =>
          rw [List.drop_succ_cons, ih hl.2, List.mem_cons]
          by_cases hmem : x ∈ l
          · -- the first element counts as one in front of every other
            have hfirst : ((a :: l).filter fun y => decide (r y x))
                = a :: l.filter fun y => decide (r y x) :=
              List.filter_cons_of_pos (decide_eq_true (hl.1 x hmem))
            rw [hfirst, List.length_cons]
            exact ⟨fun h => ⟨.inr hmem, Nat.succ_le_succ h.2⟩,
              fun h => ⟨hmem, Nat.le_of_succ_le_succ h.2⟩⟩
          · refine iff_of_false (fun h => hmem h.1) ?_
            rintro ⟨rfl | h, hcount⟩
            · have hnone : l.filter (fun y => decide (r y x)) = [] := by
                rw [List.filter_eq_nil_iff]
                intro y hy
                simp only [decide_eq_true_eq]
                exact hasymm x y (hl.1 y hy)
              have hself : ((x :: l).filter fun y => decide (r y x))
                  = l.filter fun y => decide (r y x) :=
                List.filter_cons_of_neg (by simpa using hirrefl)
              rw [hself, hnone, List.length_nil] at hcount
              omega
            · exact hmem h

omit [DecidableRel r] in
/-- The first element is the one with no other in front of it. -/
theorem head?_eq_some_iff (hl : l.Pairwise r) (hasymm : ∀ a b, r a b → ¬ r b a) {x : α}
    (hx : x ∈ l) :
    l.head? = some x ↔ ∀ y ∈ l, ¬ r y x := by
  cases l with
  | nil => exact absurd hx List.not_mem_nil
  | cons a l =>
      rw [List.pairwise_cons] at hl
      constructor
      · intro h y hy
        obtain rfl : a = x := Option.some.inj h
        rcases List.mem_cons.mp hy with rfl | hy
        · exact fun hself => hasymm y y hself hself
        · exact hasymm a y (hl.1 y hy)
      · intro h
        rcases List.mem_cons.mp hx with rfl | hx
        · rfl
        · exact absurd (hl.1 x hx) (h a List.mem_cons_self)

omit [DecidableRel r] in
/-- Two lists in the same order with the same elements are equal. -/
theorem eq_of_perm {l' : List α} (hl : l.Pairwise r) (hl' : l'.Pairwise r)
    (hasymm : ∀ a b, r a b → ¬ r b a) (hperm : l.Perm l') : l = l' :=
  hperm.eq_of_pairwise (fun a b _ _ hab hba => absurd hba (hasymm a b hab)) hl hl'

end Order

section Evict

variable {α : Type}

/-- Takes elements from the front while what is retained exceeds the budget. -/
def evict (budget : Int) (size : α → Int) : List α → Int → List α × Int
  | [], retained => ([], retained)
  | x :: rest, retained =>
      if retained ≤ budget then ([], retained)
      else
        let more := evict budget size rest (retained - size x)
        (x :: more.1, more.2)

/-- What is known of a list from whose front `taken` were taken. -/
structure Evicted (budget : Int) (size : α → Int) (list : List α) (before : Int)
    (taken : List α) (retained : Int) : Prop where
  is_front : taken <+: list
  retained_eq : retained = before - (taken.map size).sum
  needed : ∀ first x rest, taken = first ++ x :: rest → budget < before - (first.map size).sum
  exhausted : budget < retained → taken = list

theorem evict_spec (budget : Int) (size : α → Int) (list : List α) (before : Int) :
    Evicted budget size list before (evict budget size list before).1
      (evict budget size list before).2 := by
  induction list generalizing before with
  | nil =>
      refine ⟨List.prefix_refl _, by simp [evict], fun first x rest he => ?_, fun _ => rfl⟩
      exact absurd he.symm (List.append_ne_nil_of_right_ne_nil _ (List.cons_ne_nil _ _))
  | cons x list ih =>
      rw [evict]
      by_cases hfits : before ≤ budget
      · rw [if_pos hfits]
        refine ⟨List.nil_prefix, by simp, fun first y rest he => ?_, fun h => ?_⟩
        · exact absurd he.symm (List.append_ne_nil_of_right_ne_nil _ (List.cons_ne_nil _ _))
        · omega
      · rw [if_neg hfits]
        have ih := ih (before - size x)
        refine ⟨?_, ?_, fun first y rest he => ?_, fun h => ?_⟩
        · exact List.cons_prefix_cons.mpr ⟨rfl, ih.is_front⟩
        · show (evict budget size list (before - size x)).2 = _
          rw [ih.retained_eq, List.map_cons, List.sum_cons]
          omega
        · cases first with
          | nil =>
              rw [List.map_nil, List.sum_nil]
              omega
          | cons z first =>
              obtain ⟨rfl, hrest⟩ : x = z
                  ∧ (evict budget size list (before - size x)).1 = first ++ y :: rest :=
                List.cons.inj he
              have hneeded := ih.needed first y rest hrest
              rw [List.map_cons, List.sum_cons]
              omega
        · exact congrArg (x :: ·) (ih.exhausted h)

end Evict

end RankedList
