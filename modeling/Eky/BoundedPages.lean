import Eky.Fallible
import Eky.RankedLists
import Mathlib.Data.List.Nodup
import Mathlib.Order.Basic

/-! # Sorted pages of an unsorted source

    A reader that cannot hold a source goes over all of it once for every page.  A page keeps
    the elements with the smallest keys behind a cursor, by insertion, and lets the largest go
    when it is full.

    - `consider`: one element more for a page;
    - `IsPage`: what a page keeps and what it has let go (`isPage_consider`,
      `isPage_readPage`);
    - `readPage_eq_ok`: over distinct keys it is the first part of what is left, sorted;
    - `not_nodup_behind`: of two elements with one key none is lost, a page either fails or
      leaves both behind it. -/

namespace BoundedPages

open Fallible

variable {α κ ε : Type} [LinearOrder κ]

/-- Behind the cursor, if there is one. -/
def beyond (key : α → κ) (cursor : Option κ) (x : α) : Bool :=
  decide (∀ c ∈ cursor, c < key x)

/-- Inserts into a page, which drops its last element when it is full. -/
def insertAt (size index : Nat) (page : List α) (x : α) : List α :=
  (if page.length = size then page.dropLast else page).insertIdx index x

/-- One element more. -/
def consider (key : α → κ) (size : Nat) (error : ε) (cursor : Option κ) (page : List α)
    (x : α) : Except ε (List α) :=
  if ∃ c ∈ cursor, key x ≤ c then .ok page
  else
    let index := (page.takeWhile fun y => key y < key x).length
    if ∃ y ∈ page[index]?, key y = key x then .error error
    else if index ≥ size then .ok page
    else .ok (insertAt size index page x)

/-- The page after a cursor, in one pass. -/
def readPage (key : α → κ) (size : Nat) (error : ε) (cursor : Option κ) (xs : List α) :
    Except ε (List α) :=
  xs.foldlM (consider key size error cursor) []

variable {key : α → κ} {size : Nat} {error : ε} {cursor : Option κ}

/-- The elements behind the cursor are the page and what it has let go, and all of that lies
    behind a full page. -/
structure IsPage (key : α → κ) (size : Nat) (cursor : Option κ) (considered page : List α) :
    Prop where
  parts : ∃ skipped, (considered.filter (beyond key cursor)).Perm (page ++ skipped)
    ∧ (skipped ≠ [] → page.length = size) ∧ ∀ s ∈ skipped, ∀ p ∈ page, key p < key s
  sorted : page.Pairwise fun a b => key a < key b
  length : page.length ≤ size

theorem isPage_nil : IsPage key size cursor [] [] where
  parts := ⟨[], .nil, (fun h => absurd rfl h), fun _ h => nomatch h⟩
  sorted := .nil
  length := Nat.zero_le _

variable {considered xs page page' : List α} {x : α}

theorem beyond_eq_false (h : ∃ c ∈ cursor, key x ≤ c) : beyond key cursor x = false := by
  obtain ⟨c, hc, hle⟩ := h
  exact decide_eq_false fun hall => absurd (hall c hc) (not_lt.mpr hle)

theorem beyond_eq_true (h : ¬ ∃ c ∈ cursor, key x ≤ c) : beyond key cursor x = true := by
  refine decide_eq_true fun c hc => ?_
  by_contra hlt
  exact h ⟨c, hc, not_lt.mp hlt⟩

/-- The place of an element in a sorted page: what is in front is smaller, what is behind is
    not. -/
theorem page_split (page : List α) (x : α) (hsorted : page.Pairwise fun a b => key a < key b) :
    ∃ front back, page = front ++ back
      ∧ (page.takeWhile fun y => key y < key x).length = front.length
      ∧ (∀ y ∈ front, key y < key x) ∧ ∀ y ∈ back, key x ≤ key y := by
  refine ⟨page.takeWhile fun y => key y < key x, page.dropWhile fun y => key y < key x,
    List.takeWhile_append_dropWhile.symm, rfl, ?_, ?_⟩
  · intro y hy
    exact of_decide_eq_true (List.all_eq_true.mp List.all_takeWhile y hy)
  · intro y hy
    have hback : (page.dropWhile fun y => decide (key y < key x)).Pairwise
        fun a b => key a < key b := hsorted.sublist (List.dropWhile_sublist _)
    cases hdrop : page.dropWhile fun y => decide (key y < key x) with
    | nil =>
        rw [hdrop] at hy
        exact absurd hy List.not_mem_nil
    | cons first rest =>
        have hfirst : key x ≤ key first := by
          have hne : (page.dropWhile fun y => decide (key y < key x)) ≠ [] := by
            rw [hdrop]
            exact List.cons_ne_nil _ _
          have hnot := List.head_dropWhile_not (fun y => decide (key y < key x)) hne
          simp only [hdrop, List.head_cons, decide_eq_false_iff_not, not_lt] at hnot
          exact hnot
        rw [hdrop] at hy hback
        rcases List.mem_cons.mp hy with rfl | hy
        · exact hfirst
        · exact hfirst.trans (le_of_lt ((List.pairwise_cons.mp hback).1 y hy))

theorem insertIdx_front (front back : List α) (x : α) :
    (front ++ back).insertIdx front.length x = front ++ x :: back := by
  induction front with
  | nil => rfl
  | cons y front ih =>
      rw [List.cons_append, List.length_cons, List.insertIdx_succ_cons, ih]
      rfl

/-- An element enters a page in which it has its place, and the last one leaves a full page. -/
theorem insertAt_split {front back : List α} (hsize : (front ++ back).length ≤ size)
    (hfront : front.length < size) :
    (insertAt size front.length (front ++ back) x = front ++ x :: back
        ∧ (front ++ back).length < size)
      ∨ ∃ kept last, back = kept ++ [last] ∧ (front ++ back).length = size
        ∧ insertAt size front.length (front ++ back) x = front ++ x :: kept := by
  unfold insertAt
  by_cases hfull : (front ++ back).length = size
  · right
    rw [if_pos hfull]
    have hback : back ≠ [] := by
      rintro rfl
      rw [List.append_nil] at hfull
      omega
    refine ⟨back.dropLast, back.getLast hback, (List.dropLast_append_getLast hback).symm, hfull,
      ?_⟩
    rw [List.dropLast_append_of_ne_nil hback, insertIdx_front]
  · left
    rw [if_neg hfull]
    exact ⟨insertIdx_front front back x, lt_of_le_of_ne hsize hfull⟩

/-- When an element is taken, and what the page is then. -/
theorem consider_cases (hsorted : page.Pairwise fun a b => key a < key b)
    (hsize : page.length ≤ size) (h : consider key size error cursor page x = .ok page') :
    (beyond key cursor x = false ∧ page' = page)
      ∨ beyond key cursor x = true ∧
        ((page' = page ∧ page.length = size ∧ ∀ y ∈ page, key y < key x)
          ∨ ∃ front back, page = front ++ back ∧ (∀ y ∈ front, key y < key x)
            ∧ (∀ y ∈ back, key x < key y)
            ∧ ((page' = front ++ x :: back ∧ page.length < size)
              ∨ ∃ kept last, back = kept ++ [last] ∧ page.length = size
                ∧ page' = front ++ x :: kept)) := by
  unfold consider at h
  by_cases hcursor : ∃ c ∈ cursor, key x ≤ c
  · rw [if_pos hcursor] at h
    exact .inl ⟨beyond_eq_false hcursor, (Except.ok.inj h).symm⟩
  rw [if_neg hcursor] at h
  refine .inr ⟨beyond_eq_true hcursor, ?_⟩
  obtain ⟨front, back, rfl, hindex, hfront, hback⟩ := page_split page x hsorted
  simp only [hindex] at h
  split at h
  · exact nomatch h
  rename_i hfresh
  have hbehind : ∀ y ∈ back, key x < key y := by
    intro y hy
    refine lt_of_le_of_ne (hback y hy) fun heq => ?_
    -- the first one behind would have the key of the new element
    cases back with
    | nil => exact nomatch hy
    | cons first back =>
        refine hfresh ⟨first, by simp, ?_⟩
        refine le_antisymm ?_ (hback first List.mem_cons_self)
        rcases List.mem_cons.mp hy with rfl | hy
        · exact heq.ge
        · have hlt := (List.pairwise_cons.mp (List.pairwise_append.mp hsorted).2.1).1 y hy
          exact heq ▸ le_of_lt hlt
  split at h
  · rename_i hskip
    left
    rw [List.length_append] at hsize
    have hnil : back = [] := List.length_eq_zero_iff.mp (by omega)
    subst hnil
    rw [List.append_nil] at h ⊢
    exact ⟨(Except.ok.inj h).symm, by omega, hfront⟩
  · rename_i hplace
    right
    refine ⟨front, back, rfl, hfront, hbehind, ?_⟩
    rcases insertAt_split (x := x) hsize (by omega) with
      ⟨heq, hlt⟩ | ⟨kept, last, hsplit, hfull, heq⟩
    · exact .inl ⟨(Except.ok.inj h).symm.trans heq, hlt⟩
    · exact .inr ⟨kept, last, hsplit, hfull, (Except.ok.inj h).symm.trans heq⟩

/-- It fails exactly at an element whose key the page has already. -/
theorem consider_error {e : ε} (h : consider key size error cursor page x = .error e) :
    beyond key cursor x = true ∧ ∃ y ∈ page, key y = key x := by
  unfold consider at h
  by_cases hcursor : ∃ c ∈ cursor, key x ≤ c
  · rw [if_pos hcursor] at h
    exact nomatch h
  rw [if_neg hcursor] at h
  refine ⟨beyond_eq_true hcursor, ?_⟩
  dsimp only at h
  split at h
  · rename_i hfound
    obtain ⟨y, hy, hkey⟩ := hfound
    exact ⟨y, List.mem_of_getElem? hy, hkey⟩
  · split at h
    · exact nomatch h
    · exact nomatch h

/-- **STEP LEMMA**: one element more. -/
theorem isPage_consider (h : IsPage key size cursor considered page)
    (hstep : consider key size error cursor page x = .ok page') :
    IsPage key size cursor (considered ++ [x]) page' := by
  obtain ⟨⟨skipped, hperm, hfull, hbehind⟩, hsorted, hsize⟩ := h
  rcases consider_cases hsorted hsize hstep with ⟨hbeyond, rfl⟩ | ⟨hbeyond, hcases⟩
  · refine ⟨⟨skipped, ?_, hfull, hbehind⟩, hsorted, hsize⟩
    rw [List.filter_append, List.filter_cons_of_neg (by rw [hbeyond]; exact Bool.false_ne_true),
      List.filter_nil, List.append_nil]
    exact hperm
  have hmore : ((considered ++ [x]).filter (beyond key cursor)).Perm (page ++ skipped ++ [x]) := by
    rw [List.filter_append, List.filter_cons_of_pos hbeyond]
    exact hperm.append_right _
  rcases hcases with ⟨rfl, hlength, hall⟩ | ⟨front, back, rfl, hfront, hback, hplace⟩
  · refine ⟨⟨skipped ++ [x], ?_, fun _ => hlength, ?_⟩, hsorted, hsize⟩
    · rw [← List.append_assoc]
      exact hmore
    · intro s hs p hp
      rcases List.mem_append.mp hs with hs | hs
      · exact hbehind s hs p hp
      · exact List.mem_singleton.mp hs ▸ hall p hp
  obtain ⟨hfrontSorted, hbackSorted, hacross⟩ := List.pairwise_append.mp hsorted
  rcases hplace with ⟨rfl, hroom⟩ | ⟨kept, last, rfl, hlength, rfl⟩
  · -- a page with room has let nothing go
    have hnone : skipped = [] := by
      by_contra hne
      exact absurd (hfull hne) (Nat.ne_of_lt hroom)
    subst hnone
    refine ⟨⟨[], ?_, (fun hne => absurd rfl hne), fun _ hs => nomatch hs⟩, ?_, ?_⟩
    · rw [List.append_nil] at hmore ⊢
      refine hmore.trans ?_
      rw [List.append_assoc]
      exact (List.perm_append_singleton x back).append_left front
    · refine List.pairwise_append.mpr
        ⟨hfrontSorted, List.pairwise_cons.mpr ⟨hback, hbackSorted⟩, ?_⟩
      intro a ha b hb
      rcases List.mem_cons.mp hb with rfl | hb
      · exact hfront a ha
      · exact hacross a ha b hb
    · rw [List.length_append, List.length_cons]
      rw [List.length_append] at hroom
      omega
  · obtain ⟨hkeptSorted, -, hlast⟩ := List.pairwise_append.mp hbackSorted
    have hxlast : key x < key last := hback last (List.mem_append_right _ List.mem_cons_self)
    refine ⟨⟨last :: skipped, ?_, fun _ => ?_, ?_⟩, ?_, ?_⟩
    · refine hmore.trans ?_
      classical
      rw [List.perm_iff_count]
      intro y
      simp only [List.count_append, List.count_cons, List.count_nil]
      omega
    · rw [← hlength]
      simp only [List.length_append, List.length_cons, List.length_nil]
    · intro s hs p hp
      have hplast : key p < key last := by
        rcases List.mem_append.mp hp with hp | hp
        · exact hacross p hp last (List.mem_append_right _ List.mem_cons_self)
        · rcases List.mem_cons.mp hp with rfl | hp
          · exact hxlast
          · exact hlast p hp last List.mem_cons_self
      rcases List.mem_cons.mp hs with rfl | hs
      · exact hplast
      · exact hplast.trans (hbehind s hs last
          (List.mem_append_right _ (List.mem_append_right _ List.mem_cons_self)))
    · refine List.pairwise_append.mpr ⟨hfrontSorted, List.pairwise_cons.mpr ⟨?_, hkeptSorted⟩, ?_⟩
      · exact fun y hy => hback y (List.mem_append_left _ hy)
      · intro a ha b hb
        rcases List.mem_cons.mp hb with rfl | hb
        · exact hfront a ha
        · exact hacross a ha b (List.mem_append_left _ hb)
    · rw [← hlength]
      simp only [List.length_append, List.length_cons, List.length_nil]
      omega

theorem isPage_foldlM (h : IsPage key size cursor considered page)
    (hrun : xs.foldlM (consider key size error cursor) page = .ok page') :
    IsPage key size cursor (considered ++ xs) page' := by
  induction xs generalizing considered page with
  | nil =>
      obtain rfl : page = page' := Except.ok.inj hrun
      rw [List.append_nil]
      exact h
  | cons x xs ih =>
      rw [List.foldlM_cons, bind_eq_ok] at hrun
      obtain ⟨middle, hstep, hrest⟩ := hrun
      have hread := ih (isPage_consider h hstep) hrest
      rw [List.append_assoc] at hread
      exact hread

/-- **RUN LEMMA**: what a pass over the source leaves. -/
theorem isPage_readPage (h : readPage key size error cursor xs = .ok page) :
    IsPage key size cursor xs page := by
  have hread := isPage_foldlM isPage_nil h
  rw [List.nil_append] at hread
  exact hread

/-- A pass fails only over two elements with one key. -/
theorem foldlM_error {e : ε} (h : IsPage key size cursor considered page)
    (hrun : xs.foldlM (consider key size error cursor) page = .error e) :
    ¬ (((considered ++ xs).filter (beyond key cursor)).map key).Nodup := by
  induction xs generalizing considered page with
  | nil => exact nomatch hrun
  | cons x xs ih =>
      rw [List.foldlM_cons] at hrun
      cases hstep : consider key size error cursor page x with
      | ok middle =>
          rw [hstep, ok_bind] at hrun
          have hread := ih (isPage_consider h hstep) hrun
          rw [List.append_assoc] at hread
          exact hread
      | error other =>
          obtain ⟨hbeyond, y, hy, hkey⟩ := consider_error hstep
          obtain ⟨skipped, hperm, -, -⟩ := h.parts
          have hmem : y ∈ considered.filter (beyond key cursor) :=
            hperm.mem_iff.mpr (List.mem_append_left _ hy)
          rw [List.filter_append, List.filter_cons_of_pos hbeyond, List.map_append]
          intro hnodup
          exact (List.nodup_append.mp hnodup).2.2 (key y) (List.mem_map_of_mem hmem) (key x)
            (List.mem_map_of_mem List.mem_cons_self) hkey

theorem readPage_total (h : ((xs.filter (beyond key cursor)).map key).Nodup) :
    ∃ page, readPage key size error cursor xs = .ok page := by
  cases hread : readPage key size error cursor xs with
  | ok page => exact ⟨page, rfl⟩
  | error e => exact absurd h (foldlM_error isPage_nil hread)

theorem nodup_keys {rest : List α} (h : rest.Pairwise fun a b => key a < key b) :
    (rest.map key).Nodup := by
  rw [List.nodup_iff_pairwise_ne, List.pairwise_map]
  exact h.imp fun hlt => ne_of_lt hlt

/-- Elements with distinct keys have an order. -/
theorem exists_sorted {rows : List α} (h : (rows.map key).Nodup) :
    ∃ sorted : List α, sorted.Perm rows ∧ sorted.Pairwise fun a b => key a < key b := by
  let le : α → α → Bool := fun a b => key a ≤ key b
  have hperm : (rows.mergeSort le).Perm rows := List.mergeSort_perm _ _
  have hle : (rows.mergeSort le).Pairwise fun a b => le a b := by
    refine List.pairwise_mergeSort ?_ ?_ rows
    · intro a b c hab hbc
      exact decide_eq_true ((of_decide_eq_true hab).trans (of_decide_eq_true hbc))
    · intro a b
      rw [Bool.or_eq_true]
      exact (le_total (key a) (key b)).imp decide_eq_true decide_eq_true
  have hne : ((rows.mergeSort le).map key).Nodup := (hperm.map key).nodup_iff.mpr h
  rw [List.nodup_iff_pairwise_ne, List.pairwise_map] at hne
  exact ⟨rows.mergeSort le, hperm,
    hle.imp₂ (fun a b hab hne => lt_of_le_of_ne (of_decide_eq_true hab) hne) hne⟩

/-- **A PAGE** over distinct keys is the first part of the sorted elements behind the
    cursor. -/
theorem readPage_eq_ok {rest : List α} (hperm : (xs.filter (beyond key cursor)).Perm rest)
    (hrest : rest.Pairwise fun a b => key a < key b) :
    readPage key size error cursor xs = .ok (rest.take size) := by
  have hnodup : ((xs.filter (beyond key cursor)).map key).Nodup :=
    (hperm.map key).nodup_iff.mpr (nodup_keys hrest)
  obtain ⟨page, hread⟩ := @readPage_total _ _ _ _ key size error cursor xs hnodup
  obtain ⟨⟨skipped, hparts, hfull, hbehind⟩, hsorted, hsize⟩ := isPage_readPage hread
  have hkeys := (hparts.map key).nodup_iff.mp hnodup
  rw [List.map_append, List.nodup_append] at hkeys
  obtain ⟨sorted, hskipped, hbehindSorted⟩ := exists_sorted hkeys.2.1
  have heq : page ++ sorted = rest := by
    refine RankedList.eq_of_perm ?_ hrest (fun a b hab => not_lt_of_gt hab)
      (((hskipped.append_left page).trans hparts.symm).trans hperm)
    refine List.pairwise_append.mpr ⟨hsorted, hbehindSorted, ?_⟩
    intro a ha b hb
    exact hbehind b (hskipped.mem_iff.mp hb) a ha
  rw [hread, ← heq]
  by_cases hnone : skipped = []
  · have hnil : sorted = [] := List.length_eq_zero_iff.mp (by rw [hskipped.length_eq, hnone]; rfl)
    rw [hnil, List.append_nil, List.take_of_length_le hsize]
  · rw [← hfull hnone, List.take_left]

/-- Moving the cursor to the end of a page leaves what lies behind it. -/
theorem filter_behind {front back : List α} {last : α}
    (hperm : (xs.filter (beyond key cursor)).Perm (front ++ back)) (hlast : last ∈ front)
    (hfront : ∀ y ∈ front, key y ≤ key last) (hback : ∀ y ∈ back, key last < key y) :
    (xs.filter (beyond key (some (key last)))).Perm back := by
  have hmem : last ∈ xs.filter (beyond key cursor) :=
    hperm.mem_iff.mpr (List.mem_append_left _ hlast)
  have hbeyond : ∀ c ∈ cursor, c < key last := of_decide_eq_true (List.mem_filter.mp hmem).2
  have hsame : xs.filter (beyond key (some (key last)))
      = (xs.filter (beyond key cursor)).filter (beyond key (some (key last))) := by
    rw [List.filter_filter]
    refine List.filter_congr fun y _ => ?_
    by_cases hy : key last < key y
    · have hcursor : beyond key cursor y = true :=
        decide_eq_true fun c hc => (hbeyond c hc).trans hy
      rw [hcursor, Bool.and_true]
    · have hnot : beyond key (some (key last)) y = false :=
        decide_eq_false fun h => hy (h (key last) rfl)
      rw [hnot, Bool.false_and]
  rw [hsame]
  refine (hperm.filter _).trans ?_
  rw [List.filter_append]
  have hnone : front.filter (beyond key (some (key last))) = [] := by
    refine List.filter_eq_nil_iff.mpr fun y hy h => ?_
    exact absurd (of_decide_eq_true h (key last) rfl) (not_lt.mpr (hfront y hy))
  have hall : back.filter (beyond key (some (key last))) = back := by
    refine List.filter_eq_self.mpr fun y hy => decide_eq_true fun c hc => ?_
    exact Option.some.inj hc ▸ hback y hy
  rw [hnone, hall, List.nil_append]

/-- Two elements with one key: a page that does not fail is full and leaves them behind it. -/
theorem not_nodup_behind (hsize : 0 < size) (hread : readPage key size error cursor xs = .ok page)
    (h : ¬ ((xs.filter (beyond key cursor)).map key).Nodup) :
    page.length = size ∧ ∃ last ∈ page.getLast?,
      ¬ ((xs.filter (beyond key (some (key last)))).map key).Nodup
        ∧ (xs.filter (beyond key (some (key last)))).length
          < (xs.filter (beyond key cursor)).length := by
  obtain ⟨⟨skipped, hparts, hfull, hbehind⟩, hsorted, -⟩ := isPage_readPage hread
  have hskipped : ¬ (skipped.map key).Nodup := by
    intro hnodup
    refine h ((hparts.map key).nodup_iff.mpr ?_)
    rw [List.map_append]
    refine List.nodup_append.mpr ⟨nodup_keys hsorted, hnodup, ?_⟩
    intro a ha b hb heq
    obtain ⟨p, hp, rfl⟩ := List.mem_map.mp ha
    obtain ⟨s, hs, rfl⟩ := List.mem_map.mp hb
    exact absurd heq (ne_of_lt (hbehind s hs p hp))
  have hlength : page.length = size := by
    refine hfull ?_
    rintro rfl
    exact hskipped List.nodup_nil
  have hne : page ≠ [] := by
    rintro rfl
    exact absurd hlength (Nat.ne_of_lt hsize)
  have hsplit := List.dropLast_append_getLast hne
  have hle : ∀ y ∈ page, key y ≤ key (page.getLast hne) := by
    intro y hy
    rw [← hsplit] at hsorted hy
    rcases List.mem_append.mp hy with hy | hy
    · exact le_of_lt ((List.pairwise_append.mp hsorted).2.2 y hy _ List.mem_cons_self)
    · exact le_of_eq (congrArg key (List.mem_singleton.mp hy))
  have hrest := filter_behind hparts (List.getLast_mem hne) hle
    fun s hs => hbehind s hs _ (List.getLast_mem hne)
  refine ⟨hlength, page.getLast hne, List.getLast?_eq_some_getLast hne, ?_, ?_⟩
  · exact fun hnodup => hskipped ((hrest.map key).nodup_iff.mp hnodup)
  · rw [hrest.length_eq, hparts.length_eq, List.length_append]
    omega

end BoundedPages
