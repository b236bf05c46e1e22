import Eky.RecoveryPointRetention
import Mathlib

/-! # What the retention plan deletes

    Points are compared by their dates and, where these agree, by their identifiers, so
    points with distinct identifiers stand in a strict order (`sortNewestFirst_ranked`).
    In that order the plan deletes what is beyond the limits of the kinds and then the
    oldest candidates that `evict` takes (`rotate_eq`). -/

namespace RecoveryPointRetention

open Fallible RankedList

/-! ## The order -/

/-- The letters of a text first and their case where the letters agree. -/
def textKey (text : String) : List Nat ×ₗ List Nat := toLex (primaryKey text, caseKey text)

/-- The key that the order compares. -/
def rankKey (point : RecoveryPointIndexEntry) : Int ×ₗ (Int ×ₗ (List Nat ×ₗ List Nat)) :=
  toLex (point.validatedAt, toLex (point.createdAt, textKey point.artifactId))

theorem localeCompare_neg_iff (first second : String) :
    localeCompare first second < 0 ↔ textKey first < textKey second := by
  rw [textKey, textKey, Prod.Lex.toLex_lt_toLex, localeCompare]
  rcases lt_trichotomy (primaryKey first) (primaryKey second) with h | h | h
  · simp [h]
  · simp only [h, lt_self_iff_false, if_false, false_or, true_and]
    rcases lt_trichotomy (caseKey first) (caseKey second) with h' | h' | h'
    · simp [h']
    · simp [h']
    · simp [h', h'.not_gt]
  · simp [h, h.not_gt, h.ne']

theorem localeCompare_pos_iff (first second : String) :
    0 < localeCompare first second ↔ textKey second < textKey first := by
  rw [textKey, textKey, Prod.Lex.toLex_lt_toLex, localeCompare]
  rcases lt_trichotomy (primaryKey first) (primaryKey second) with h | h | h
  · simp [h, h.not_gt, h.ne']
  · simp only [h, lt_self_iff_false, if_false, false_or, true_and]
    rcases lt_trichotomy (caseKey first) (caseKey second) with h' | h' | h'
    · simp [h', h'.not_gt]
    · simp [h']
    · simp [h', h'.not_gt]
  · simp [h, h.not_gt]

/-- The point is newer than the other. -/
def Newer (first second : RecoveryPointIndexEntry) : Prop := compareNewestFirst first second < 0

instance : DecidableRel Newer := fun _ _ => inferInstanceAs (Decidable (_ < _))

variable {first second p : RecoveryPointIndexEntry}

theorem newer_iff : Newer first second ↔ rankKey second < rankKey first := by
  rw [Newer, rankKey, rankKey, Prod.Lex.toLex_lt_toLex, Prod.Lex.toLex_lt_toLex,
    compareNewestFirst, ← localeCompare_neg_iff]
  split
  · constructor
    · intro h
      exact .inl (by omega)
    · rintro (h | ⟨h, -⟩)
      · omega
      · omega
  · split
    · constructor
      · intro h
        exact .inr ⟨by omega, .inl (by omega)⟩
      · rintro (h | ⟨-, h | ⟨h, -⟩⟩)
        · omega
        · omega
        · omega
    · constructor
      · intro h
        exact .inr ⟨by omega, .inr ⟨by omega, h⟩⟩
      · rintro (h | ⟨-, h | ⟨-, h⟩⟩)
        · omega
        · omega
        · exact h

theorem compare_pos_iff : 0 < compareNewestFirst first second ↔ rankKey first < rankKey second := by
  rw [rankKey, rankKey, Prod.Lex.toLex_lt_toLex, Prod.Lex.toLex_lt_toLex,
    compareNewestFirst, ← localeCompare_pos_iff]
  split
  · constructor
    · intro h
      exact .inl (by omega)
    · rintro (h | ⟨h, -⟩)
      · omega
      · omega
  · split
    · constructor
      · intro h
        exact .inr ⟨by omega, .inl (by omega)⟩
      · rintro (h | ⟨-, h | ⟨h, -⟩⟩)
        · omega
        · omega
        · omega
    · constructor
      · intro h
        exact .inr ⟨by omega, .inr ⟨by omega, h⟩⟩
      · rintro (h | ⟨-, h | ⟨-, h⟩⟩)
        · omega
        · omega
        · exact h

theorem compare_le_iff : compareNewestFirst first second ≤ 0 ↔ rankKey second ≤ rankKey first := by
  rw [← not_lt, compare_pos_iff, not_lt]

theorem newer_asymm (first second : RecoveryPointIndexEntry) (h : Newer first second) :
    ¬ Newer second first := by
  rw [newer_iff] at h ⊢
  exact h.not_gt

/-- A character is known from its small letter and its case. -/
theorem char_eq_of_keys {c d : Char} (hlower : c.toLower.toNat = d.toLower.toNat)
    (hcase : c.isUpper = d.isUpper) : c = d := by
  have htoLower : c.toLower = d.toLower := Char.toNat_inj.mp hlower
  have hlarge : ∀ e : Char, e.isUpper = true → e.toLower.toNat = e.toNat + 32 := by
    intro e he
    simp only [Char.isUpper, decide_eq_true_eq] at he
    have hlow : 65 ≤ e.toNat := he.1
    have hhigh : e.toNat ≤ 90 := he.2
    rw [Char.toLower, dif_pos he]
    show (e.val + 32).toNat = _
    rw [UInt32.toNat_add]
    show (e.toNat + 32) % 4294967296 = _
    omega
  have hsmall : ∀ e : Char, e.isUpper = false → e.toLower = e := by
    intro e he
    simp only [Char.isUpper, decide_eq_false_iff_not] at he
    rw [Char.toLower, dif_neg he]
  cases hc : c.isUpper with
  | true =>
      have h₁ := hlarge c hc
      have h₂ := hlarge d (hcase ▸ hc)
      exact Char.toNat_inj.mp (by omega)
  | false =>
      rw [← hsmall c hc, ← hsmall d (hcase ▸ hc)]
      exact htoLower

theorem eq_of_textKey {first second : String} (h : textKey first = textKey second) :
    first = second := by
  have hkeys : primaryKey first = primaryKey second ∧ caseKey first = caseKey second :=
    Prod.mk.inj (toLex.injective h)
  refine String.toList_inj.mp ?_
  obtain ⟨hprimary, hcase⟩ := hkeys
  rw [primaryKey, primaryKey] at hprimary
  rw [caseKey, caseKey] at hcase
  generalize first.toList = xs at hprimary hcase
  generalize second.toList = ys at hprimary hcase
  induction xs generalizing ys with
  | nil =>
      rw [List.map_nil] at hprimary
      exact (List.map_eq_nil_iff.mp hprimary.symm).symm
  | cons c xs ih =>
      cases ys with
      | nil => exact nomatch hprimary
      | cons d ys =>
          rw [List.map_cons, List.map_cons, List.cons.injEq] at hprimary hcase
          rw [ih ys hprimary.2 hcase.2, char_eq_of_keys hprimary.1 ?_]
          have hdigits := hcase.1
          cases hc : c.isUpper with
          | true =>
              cases hd : d.isUpper with
              | true => rfl
              | false =>
                  rw [hc, hd] at hdigits
                  exact absurd hdigits (by decide)
          | false =>
              cases hd : d.isUpper with
              | true =>
                  rw [hc, hd] at hdigits
                  exact absurd hdigits (by decide)
              | false => rfl

theorem artifactId_of_rankKey (h : rankKey first = rankKey second) :
    first.artifactId = second.artifactId := by
  have houter := Prod.mk.inj (toLex.injective h)
  exact eq_of_textKey (Prod.mk.inj (toLex.injective houter.2)).2

/-- Points in strict order with distinct identifiers. -/
structure Ranked (points : List RecoveryPointIndexEntry) : Prop where
  order : points.Pairwise Newer
  distinct : (points.map (·.artifactId)).Nodup

theorem sortNewestFirst_perm (points : List RecoveryPointIndexEntry) :
    (sortNewestFirst points).Perm points :=
  List.perm_insertionSort _ points

theorem sortNewestFirst_ranked {points : List RecoveryPointIndexEntry}
    (h : (points.map (·.artifactId)).Nodup) : Ranked (sortNewestFirst points) := by
  have hdistinct : ((sortNewestFirst points).map (·.artifactId)).Nodup :=
    ((sortNewestFirst_perm points).map _).nodup_iff.mpr h
  refine ⟨?_, hdistinct⟩
  have : Std.Total (fun a b : RecoveryPointIndexEntry => compareNewestFirst a b ≤ 0) := by
    refine ⟨fun a b => ?_⟩
    rw [compare_le_iff, compare_le_iff]
    exact le_total _ _
  have : IsTrans RecoveryPointIndexEntry (fun a b => compareNewestFirst a b ≤ 0) := by
    refine ⟨fun a b c hab hbc => ?_⟩
    rw [compare_le_iff] at hab hbc ⊢
    exact hbc.trans hab
  have hsorted : (sortNewestFirst points).Pairwise fun a b => compareNewestFirst a b ≤ 0 :=
    List.pairwise_insertionSort _ points
  refine (hsorted.and (List.pairwise_map.mp hdistinct)).imp ?_
  rintro a b ⟨hle, hne⟩
  rw [compare_le_iff] at hle
  rw [newer_iff]
  exact lt_of_le_of_ne hle fun he => hne (artifactId_of_rankKey he).symm

/-- The order in which the points are given does not matter. -/
theorem sortNewestFirst_of_perm {points points' : List RecoveryPointIndexEntry}
    (h : (points.map (·.artifactId)).Nodup) (hperm : points'.Perm points) :
    sortNewestFirst points' = sortNewestFirst points := by
  have h' : (points'.map (·.artifactId)).Nodup := (hperm.map _).nodup_iff.mpr h
  refine eq_of_perm (sortNewestFirst_ranked h').order (sortNewestFirst_ranked h).order
    newer_asymm ?_
  exact (sortNewestFirst_perm points').trans (hperm.trans (sortNewestFirst_perm points).symm)

/-! ## What is protected and what is beyond its limit -/

/-- A point in use, the newest point, or the newest one before a restore or an update. -/
def IsProtected (points : List RecoveryPointIndexEntry) (active : List String)
    (point : RecoveryPointIndexEntry) : Prop :=
  point.artifactId ∈ active ∨ (∀ other ∈ points, ¬ Newer other point)
    ∨ (point.kind = .preRestore ∨ point.kind = .preUpdate)
      ∧ ∀ other ∈ points, other.kind = point.kind → ¬ Newer other point

/-- The number of newer points of the same kind. -/
def newerOfKind (points : List RecoveryPointIndexEntry) (point : RecoveryPointIndexEntry) : Nat :=
  (points.filter fun other => other.kind = point.kind ∧ Newer other point).length

/-- The point is one too many of its kind. -/
def BeyondLimit (points : List RecoveryPointIndexEntry) (active : List String)
    (point : RecoveryPointIndexEntry) : Prop :=
  ¬ IsProtected points active point ∧ retentionLimits point.kind ≤ newerOfKind points point

instance (points : List RecoveryPointIndexEntry) (active : List String) :
    DecidablePred (IsProtected points active) :=
  fun _ => inferInstanceAs (Decidable (_ ∨ _ ∨ _))

instance (points : List RecoveryPointIndexEntry) (active : List String) :
    DecidablePred (BeyondLimit points active) :=
  fun _ => inferInstanceAs (Decidable (_ ∧ _))

/-- Bytes of the points. -/
def totalSize (points : List RecoveryPointIndexEntry) : Int := (points.map (·.byteSize)).sum

namespace Ranked

variable {points : List RecoveryPointIndexEntry} {active : List String}

theorem eq_of_id (h : Ranked points) {q : RecoveryPointIndexEntry} (hp : p ∈ points)
    (hq : q ∈ points) (hid : p.artifactId = q.artifactId) : p = q :=
  List.inj_on_of_nodup_map h.distinct hp hq hid

theorem mem_ids (h : Ranked points) (hp : p ∈ points) {found : Option RecoveryPointIndexEntry}
    (hfound : ∀ q ∈ found, q ∈ points) :
    p.artifactId ∈ (found.map (·.artifactId)).toList ↔ found = some p := by
  cases found with
  | none => exact iff_of_false List.not_mem_nil fun he => nomatch he
  | some q =>
      rw [Option.map_some, Option.toList_some, List.mem_singleton, Option.some.injEq]
      exact ⟨fun hid => (h.eq_of_id hp (hfound q rfl) hid).symm, fun he => he ▸ rfl⟩

theorem mem_protectNewestKind (h : Ranked points) (hp : p ∈ points) (kind : RecoveryPointKind) :
    p.artifactId ∈ protectNewestKind points kind
      ↔ p.kind = kind ∧ ∀ other ∈ points, other.kind = kind → ¬ Newer other p := by
  have hfind : points.find? (fun q => decide (q.kind = kind))
      = (points.filter fun q => decide (q.kind = kind)).head? := List.head?_filter.symm
  rw [protectNewestKind, h.mem_ids hp fun q hq => List.mem_of_find?_eq_some hq, hfind]
  by_cases hkind : p.kind = kind
  · have hmem : p ∈ points.filter fun q => decide (q.kind = kind) :=
      List.mem_filter.mpr ⟨hp, decide_eq_true hkind⟩
    rw [head?_eq_some_iff (h.order.filter _) newer_asymm hmem]
    simp only [List.mem_filter, decide_eq_true_eq, and_imp, hkind, true_and]
  · refine iff_of_false (fun he => ?_) fun hboth => hkind hboth.1
    have hmem := List.mem_of_mem_head? he
    exact hkind (of_decide_eq_true (List.mem_filter.mp hmem).2)

theorem mem_protectedIds (h : Ranked points) (hp : p ∈ points) :
    p.artifactId ∈ protectedIds points active ↔ IsProtected points active p := by
  have hknown : p.artifactId ∈ points.map (·.artifactId) := List.mem_map_of_mem hp
  simp only [protectedIds, List.mem_append, List.mem_filter, decide_eq_true_eq,
    h.mem_protectNewestKind hp, h.mem_ids hp fun q hq => List.mem_of_mem_head? hq,
    head?_eq_some_iff h.order newer_asymm hp, IsProtected]
  constructor
  · rintro (((⟨hactive, -⟩ | hnewest) | ⟨hkind, hnewest⟩) | ⟨hkind, hnewest⟩)
    · exact .inl hactive
    · exact .inr (.inl hnewest)
    · rw [← hkind] at hnewest
      exact .inr (.inr ⟨.inl hkind, hnewest⟩)
    · rw [← hkind] at hnewest
      exact .inr (.inr ⟨.inr hkind, hnewest⟩)
  · rintro (hactive | hnewest | ⟨hkind | hkind, hnewest⟩)
    · exact .inl (.inl (.inl ⟨hactive, hknown⟩))
    · exact .inl (.inl (.inr hnewest))
    · rw [hkind] at hnewest
      exact .inl (.inr ⟨hkind, hnewest⟩)
    · rw [hkind] at hnewest
      exact .inr ⟨hkind, hnewest⟩

theorem mem_recoveryPointKinds (kind : RecoveryPointKind) : kind ∈ recoveryPointKinds := by
  cases kind <;> decide

theorem mem_idsBeyondLimits (h : Ranked points) (hp : p ∈ points) :
    p.artifactId ∈ idsBeyondLimits points (protectedIds points active)
      ↔ BeyondLimit points active p := by
  have hdrop : ∀ q, q ∈ (points.filter (·.kind = q.kind)).drop (retentionLimits q.kind)
      ↔ q ∈ points ∧ retentionLimits q.kind ≤ newerOfKind points q := by
    intro q
    rw [mem_drop_iff (h.order.filter _) newer_asymm, List.mem_filter, List.filter_filter,
      newerOfKind]
    simp only [decide_true, and_true, Bool.decide_and, Bool.and_comm]
  simp only [idsBeyondLimits, List.mem_flatMap, List.mem_map, List.mem_filter, decide_eq_true_eq]
  constructor
  · rintro ⟨kind, -, q, ⟨hq, hunprotected⟩, hid⟩
    have hmem := List.mem_filter.mp (List.mem_of_mem_drop hq)
    obtain rfl := h.eq_of_id hmem.1 hp hid
    obtain rfl := of_decide_eq_true hmem.2
    refine ⟨fun hprotected => hunprotected ((h.mem_protectedIds hp).mpr hprotected), ?_⟩
    exact ((hdrop q).mp hq).2
  · rintro ⟨hunprotected, hlimit⟩
    exact ⟨p.kind, mem_recoveryPointKinds _, p, ⟨(hdrop p).mpr ⟨hp, hlimit⟩,
      fun hprotected => hunprotected ((h.mem_protectedIds hp).mp hprotected)⟩, rfl⟩

end Ranked

/-! ## Exact sums -/

theorem number_of_safe {n : Int} (h : -maximumSafeInteger ≤ n ∧ n ≤ maximumSafeInteger) :
    number n = n := by
  have hsmall : n.natAbs < 2 ^ 53 := by
    have hlow := h.1
    have hhigh := h.2
    rw [maximumSafeInteger] at hlow hhigh
    have hpow : (2 : Nat) ^ 53 = 9007199254740992 := by decide
    omega
  have hlog : Nat.log2 n.natAbs - 52 = 0 := by
    by_cases hzero : n.natAbs = 0
    · rw [hzero]
      rfl
    · have hlt := (Nat.log2_lt hzero).mpr hsmall
      omega
  simp only [number, hlog, Nat.pow_zero, Nat.div_one, Nat.mod_one, Nat.mul_zero, Nat.zero_lt_one,
    true_or, if_true, Nat.mul_one]
  exact Int.sign_mul_natAbs n

theorem totalSize_nonneg (points : List RecoveryPointIndexEntry) : 0 ≤ totalSize points := by
  induction points with
  | nil => exact Int.le_refl 0
  | cons point points ih =>
      have hsize := point.byteSize_valid.1
      rw [totalSize, List.map_cons, List.sum_cons]
      rw [totalSize] at ih
      omega

theorem totalSize_cons (point : RecoveryPointIndexEntry) (points : List RecoveryPointIndexEntry) :
    totalSize (point :: points) = point.byteSize + totalSize points := by
  rw [totalSize, List.map_cons, List.sum_cons]
  rfl

theorem totalSize_perm {points points' : List RecoveryPointIndexEntry} (h : points.Perm points') :
    totalSize points = totalSize points' :=
  (h.map _).sum_eq

/-- The points with a property and those without it. -/
theorem totalSize_split (points : List RecoveryPointIndexEntry)
    (P : RecoveryPointIndexEntry → Prop) [DecidablePred P] :
    totalSize points = totalSize (points.filter fun p => P p)
      + totalSize (points.filter fun p => ¬ P p) := by
  induction points with
  | nil => rfl
  | cons point points ih =>
      by_cases h : P point
      · have hneg : ((point :: points).filter fun p => decide ¬ P p)
            = points.filter fun p => decide ¬ P p :=
          List.filter_cons_of_neg (by simpa using h)
        rw [List.filter_cons_of_pos (by simpa using h), hneg, totalSize_cons, totalSize_cons, ih]
        omega
      · rw [List.filter_cons_of_neg (by simpa using h), List.filter_cons_of_pos (by simpa using h),
          totalSize_cons, totalSize_cons, ih]
        omega

theorem totalSize_filter_le (points : List RecoveryPointIndexEntry)
    (P : RecoveryPointIndexEntry → Prop) [DecidablePred P] :
    totalSize (points.filter fun p => P p) ≤ totalSize points := by
  have hsplit := totalSize_split points P
  have hrest := totalSize_nonneg (points.filter fun p => ¬ P p)
  omega

/-- The sum is exact while all sizes together are in the safe range. -/
theorem retainedSize_eq {points : List RecoveryPointIndexEntry} {deleteIds : List String}
    (h : totalSize points ≤ maximumSafeInteger) :
    retainedSize points deleteIds = totalSize (points.filter (·.artifactId ∉ deleteIds)) := by
  have hfold : ∀ (points : List RecoveryPointIndexEntry) (sum : Int), 0 ≤ sum →
      sum + totalSize points ≤ maximumSafeInteger →
      points.foldl (fun sum point =>
        if point.artifactId ∈ deleteIds then sum else number (sum + point.byteSize)) sum
        = sum + totalSize (points.filter (·.artifactId ∉ deleteIds)) := by
    intro points
    induction points with
    | nil =>
        intro sum _ _
        exact (Int.add_zero sum).symm
    | cons point points ih =>
        intro sum hsum htotal
        have hsize := point.byteSize_valid.1
        have hrest := totalSize_nonneg points
        rw [totalSize_cons] at htotal
        rw [List.foldl_cons]
        by_cases hdeleted : point.artifactId ∈ deleteIds
        · rw [if_pos hdeleted, List.filter_cons_of_neg (by simpa using hdeleted)]
          exact ih sum hsum (by omega)
        · have hsafe : -maximumSafeInteger ≤ sum + point.byteSize
              ∧ sum + point.byteSize ≤ maximumSafeInteger := by
            rw [maximumSafeInteger] at htotal ⊢
            omega
          rw [if_neg hdeleted, List.filter_cons_of_pos (by simpa using hdeleted), totalSize_cons,
            number_of_safe hsafe, ih (sum + point.byteSize) (by omega) (by omega)]
          omega
  rw [retainedSize, hfold points 0 (Int.le_refl 0) (by omega)]
  omega

/-! ## The loop -/

theorem evict_of_le {budget retained : Int} (h : retained ≤ budget)
    (points : List RecoveryPointIndexEntry) :
    evict budget (·.byteSize) points retained = ([], retained) := by
  cases points with
  | nil => rfl
  | cons point points => rw [evict, if_pos h]

/-- The loop takes the candidates from the front until the budget is kept. -/
theorem foldl_rotateStep {budget : Int} {isProtected : List String} (hbudget : 1 ≤ budget)
    (points : List RecoveryPointIndexEntry) (state : RotationState)
    (hdistinct : (points.map (·.artifactId)).Nodup)
    (hsafe : state.retainedByteSize ≤ maximumSafeInteger) :
    let taken := evict budget (·.byteSize)
      (points.filter fun p => p.artifactId ∉ state.deleteIds ∧ p.artifactId ∉ isProtected)
      state.retainedByteSize
    points.foldl (rotateStep budget isProtected) state
      = ⟨state.deleteIds ++ taken.1.map (·.artifactId), taken.2⟩ := by
  induction points generalizing state with
  | nil =>
      show state = ⟨state.deleteIds ++ [], state.retainedByteSize⟩
      rw [List.append_nil]
  | cons point points ih =>
      rw [List.map_cons, List.nodup_cons] at hdistinct
      intro taken
      rw [List.foldl_cons]
      by_cases hfits : state.retainedByteSize ≤ budget
      · -- nothing more is deleted once the budget is kept
        have hstep : rotateStep budget isProtected state point = state := if_pos (.inl hfits)
        have htaken : taken = ([], state.retainedByteSize) := evict_of_le hfits _
        have ih := ih state hdistinct.2 hsafe
        rw [evict_of_le hfits] at ih
        rw [hstep, htaken]
        exact ih
      · by_cases hskip : point.artifactId ∈ state.deleteIds ∨ point.artifactId ∈ isProtected
        · have hstep : rotateStep budget isProtected state point = state := if_pos (.inr hskip)
          have hnot : ¬ (point.artifactId ∉ state.deleteIds ∧ point.artifactId ∉ isProtected) := by
            rintro ⟨h₁, h₂⟩
            exact hskip.elim h₁ h₂
          have hfilter : ((point :: points).filter fun p =>
              decide (p.artifactId ∉ state.deleteIds ∧ p.artifactId ∉ isProtected))
              = points.filter fun p =>
                decide (p.artifactId ∉ state.deleteIds ∧ p.artifactId ∉ isProtected) :=
            List.filter_cons_of_neg (by simpa only [decide_eq_true_eq] using hnot)
          have ih := ih state hdistinct.2 hsafe
          rw [hstep, ih]
          simp only [taken, hfilter]
        · rw [not_or] at hskip
          have hsize := point.byteSize_valid
          have hexact : number (state.retainedByteSize - point.byteSize)
              = state.retainedByteSize - point.byteSize := by
            refine number_of_safe ?_
            rw [maximumSafeInteger] at hsafe hsize ⊢
            omega
          have hstep : rotateStep budget isProtected state point
              = ⟨state.deleteIds ++ [point.artifactId],
                  state.retainedByteSize - point.byteSize⟩ := by
            rw [rotateStep, if_neg (not_or.mpr ⟨hfits, not_or.mpr hskip⟩), hexact]
          have hfilter : ((point :: points).filter fun p =>
              decide (p.artifactId ∉ state.deleteIds ∧ p.artifactId ∉ isProtected))
              = point :: points.filter fun p =>
                decide (p.artifactId ∉ state.deleteIds ∧ p.artifactId ∉ isProtected) :=
            List.filter_cons_of_pos (decide_eq_true hskip)
          -- the other points have other identifiers, so the new one excludes none of them
          have hrest : (points.filter fun p => decide
              (p.artifactId ∉ state.deleteIds ++ [point.artifactId]
                ∧ p.artifactId ∉ isProtected))
              = points.filter fun p =>
                decide (p.artifactId ∉ state.deleteIds ∧ p.artifactId ∉ isProtected) := by
            refine List.filter_congr fun p hp => ?_
            have hne : p.artifactId ≠ point.artifactId :=
              fun he => hdistinct.1 (List.mem_map.mpr ⟨p, hp, he⟩)
            simp only [List.mem_append, List.mem_singleton, hne, or_false]
          have ih := ih ⟨state.deleteIds ++ [point.artifactId],
            state.retainedByteSize - point.byteSize⟩ hdistinct.2
            (by show state.retainedByteSize - point.byteSize ≤ _; omega)
          rw [hstep, ih]
          simp only [taken, hfilter, evict, if_neg hfits, hrest, List.map_cons, List.append_assoc,
            List.singleton_append]

/-- The candidates of the loop, the oldest first. -/
def candidates (points : List RecoveryPointIndexEntry) (beyond isProtected : List String) :
    List RecoveryPointIndexEntry :=
  points.reverse.filter fun p => p.artifactId ∉ beyond ∧ p.artifactId ∉ isProtected

theorem rotate_eq {points : List RecoveryPointIndexEntry} {budget : Int}
    {beyond isProtected : List String} (h : Ranked points) (hbudget : 1 ≤ budget)
    (htotal : totalSize points ≤ maximumSafeInteger) :
    let taken := evict budget (·.byteSize) (candidates points beyond isProtected)
      (totalSize (points.filter (·.artifactId ∉ beyond)))
    rotate points budget isProtected ⟨beyond, retainedSize points beyond⟩
      = ⟨beyond ++ taken.1.map (·.artifactId), taken.2⟩ := by
  intro taken
  have hretained := @retainedSize_eq points beyond htotal
  have hle := totalSize_filter_le points fun p => p.artifactId ∉ beyond
  rw [rotate, hretained]
  by_cases hexceeded : totalSize (points.filter (·.artifactId ∉ beyond)) > budget
  · have hdistinct : (points.reverse.map (·.artifactId)).Nodup := by
      rw [List.map_reverse]
      exact List.nodup_reverse.mpr h.distinct
    rw [if_pos hexceeded]
    exact foldl_rotateStep hbudget points.reverse _ hdistinct (Int.le_trans hle htotal)
  · rw [if_neg hexceeded]
    have htaken : taken = ([], totalSize (points.filter (·.artifactId ∉ beyond))) :=
      evict_of_le (not_lt.mp hexceeded) _
    rw [htaken, List.map_nil, List.append_nil]

/-! ## The plan -/

/-- The points that are not deleted. -/
def kept (points : List RecoveryPointIndexEntry) (deleted : List String) :
    List RecoveryPointIndexEntry :=
  points.filter (·.artifactId ∉ deleted)

/-- What is promised of a plan. -/
structure RetentionPlanned (points : List RecoveryPointIndexEntry) (active : List String)
    (budget : Int) (plan : RecoveryPointRetentionPlan) : Prop where
  known : ∀ id ∈ plan.deleteArtifactIds, ∃ p ∈ points, p.artifactId = id
  protected_kept : ∀ p ∈ points, IsProtected points active p →
    p.artifactId ∉ plan.deleteArtifactIds
  protected_listed : ∀ p ∈ points,
    p.artifactId ∈ plan.protectedArtifactIds ↔ IsProtected points active p
  beyond_deleted : ∀ p ∈ points, BeyondLimit points active p →
    p.artifactId ∈ plan.deleteArtifactIds
  oldest_first : ∀ p ∈ points, p.artifactId ∈ plan.deleteArtifactIds →
    ¬ BeyondLimit points active p →
    ∀ q ∈ kept points plan.deleteArtifactIds, ¬ IsProtected points active q → Newer q p
  needed : ∀ p ∈ points, p.artifactId ∈ plan.deleteArtifactIds → ¬ BeyondLimit points active p →
    budget < totalSize (points.filter fun q => ¬ BeyondLimit points active q
      ∧ ¬ (q.artifactId ∈ plan.deleteArtifactIds ∧ Newer p q))
  retained : plan.retainedByteSize = totalSize (kept points plan.deleteArtifactIds)
  exceeded : plan.budgetExceededAfterRotation = true ↔ budget < plan.retainedByteSize
  exceeded_protected : budget < plan.retainedByteSize →
    ∀ q ∈ kept points plan.deleteArtifactIds, IsProtected points active q

/-- The identifiers that the limits of the kinds delete. -/
def beyondIds (points : List RecoveryPointIndexEntry) (active : List String) : List String :=
  idsBeyondLimits points (protectedIds points active)

/-- What the loop deletes and what it retains. -/
def loopResult (points : List RecoveryPointIndexEntry) (active : List String) (budget : Int) :
    List RecoveryPointIndexEntry × Int :=
  evict budget (·.byteSize)
    (candidates points (beyondIds points active) (protectedIds points active))
    (totalSize (points.filter (·.artifactId ∉ beyondIds points active)))

section Sorted

variable {points : List RecoveryPointIndexEntry} {active : List String} {budget : Int}

theorem loopResult_spec : Evicted budget (·.byteSize)
    (candidates points (beyondIds points active) (protectedIds points active))
    (totalSize (points.filter (·.artifactId ∉ beyondIds points active)))
    (loopResult points active budget).1 (loopResult points active budget).2 :=
  evict_spec _ _ _ _

theorem mem_candidates (h : Ranked points) :
    p ∈ candidates points (beyondIds points active) (protectedIds points active)
      ↔ p ∈ points ∧ ¬ BeyondLimit points active p ∧ ¬ IsProtected points active p := by
  rw [candidates, List.mem_filter, List.mem_reverse, decide_eq_true_eq]
  refine and_congr_right fun hp => ?_
  rw [beyondIds, h.mem_idsBeyondLimits hp, h.mem_protectedIds hp]

theorem candidates_oldest_first (h : Ranked points) :
    (candidates points (beyondIds points active) (protectedIds points active)).Pairwise
      fun p q => Newer q p :=
  (List.pairwise_reverse.mpr h.order).filter _

theorem mem_of_mem_loop (h : Ranked points) (hp : p ∈ (loopResult points active budget).1) :
    p ∈ points ∧ ¬ BeyondLimit points active p ∧ ¬ IsProtected points active p :=
  (mem_candidates h).mp (loopResult_spec.is_front.subset hp)

/-- What is deleted: the points beyond the limits and those that the loop takes. -/
theorem mem_deleteArtifactIds (h : Ranked points) (hbudget : 1 ≤ budget)
    (htotal : totalSize points ≤ maximumSafeInteger) (hp : p ∈ points) :
    p.artifactId ∈ (planSorted points active budget).deleteArtifactIds
      ↔ BeyondLimit points active p ∨ p ∈ (loopResult points active budget).1 := by
  have hstate := @rotate_eq points budget (beyondIds points active) (protectedIds points active)
    h hbudget htotal
  have hid : p.artifactId ∈ (loopResult points active budget).1.map (·.artifactId)
      ↔ p ∈ (loopResult points active budget).1 := by
    rw [List.mem_map]
    constructor
    · rintro ⟨q, hq, he⟩
      exact h.eq_of_id (mem_of_mem_loop h hq).1 hp he ▸ hq
    · exact fun hmem => ⟨p, hmem, rfl⟩
  rw [← h.mem_idsBeyondLimits hp, ← hid, ← List.mem_append]
  show p.artifactId ∈ ((points.filter (·.artifactId ∈ (rotate points budget
    (protectedIds points active) ⟨beyondIds points active,
      retainedSize points (beyondIds points active)⟩).deleteIds)).reverse).map _ ↔ _
  rw [hstate]
  simp only [List.mem_map, List.mem_reverse, List.mem_filter, decide_eq_true_eq]
  constructor
  · rintro ⟨q, ⟨-, hdeleted⟩, he⟩
    rw [← he]
    exact hdeleted
  · exact fun hdeleted => ⟨p, ⟨hp, hdeleted⟩, rfl⟩

theorem planSorted_retained (h : Ranked points) (hbudget : 1 ≤ budget)
    (htotal : totalSize points ≤ maximumSafeInteger) :
    (planSorted points active budget).retainedByteSize = (loopResult points active budget).2 := by
  have hstate := @rotate_eq points budget (beyondIds points active) (protectedIds points active)
    h hbudget htotal
  show (rotate points budget (protectedIds points active)
    ⟨beyondIds points active, retainedSize points (beyondIds points active)⟩).retainedByteSize = _
  rw [hstate]
  rfl

theorem totalSize_of_mem_iff {xs ys : List RecoveryPointIndexEntry} (hxs : xs.Nodup)
    (hys : ys.Nodup) (h : ∀ p, p ∈ xs ↔ p ∈ ys) : totalSize xs = totalSize ys :=
  totalSize_perm ((List.perm_ext_iff_of_nodup hxs hys).mpr h)

theorem Ranked.nodup (h : Ranked points) : points.Nodup :=
  List.Nodup.of_map _ h.distinct

/-- The points that the limits leave, as far as they are not in a part of the loop's. -/
theorem totalSize_without (h : Ranked points) {part : List RecoveryPointIndexEntry}
    (hpart : part.Nodup) (hloop : ∀ p ∈ part, p ∈ points ∧ ¬ BeyondLimit points active p) :
    totalSize (points.filter (·.artifactId ∉ beyondIds points active)) - totalSize part
      = totalSize (points.filter fun p => ¬ BeyondLimit points active p ∧ p ∉ part) := by
  have hleft : points.filter (·.artifactId ∉ beyondIds points active)
      = points.filter fun p => ¬ BeyondLimit points active p := by
    refine List.filter_congr fun p hp => ?_
    rw [beyondIds]
    exact decide_eq_decide.mpr (not_congr (h.mem_idsBeyondLimits hp))
  have hsplit := totalSize_split (points.filter fun p => ¬ BeyondLimit points active p) (· ∈ part)
  have htaken : totalSize ((points.filter fun p => ¬ BeyondLimit points active p).filter
      fun p => p ∈ part) = totalSize part := by
    refine totalSize_of_mem_iff ((h.nodup.filter _).filter _) hpart fun p => ?_
    simp only [List.mem_filter, decide_eq_true_eq]
    exact ⟨And.right, fun hp => ⟨hloop p hp, hp⟩⟩
  have hrest : (points.filter fun p => ¬ BeyondLimit points active p).filter (fun p => p ∉ part)
      = points.filter fun p => ¬ BeyondLimit points active p ∧ p ∉ part := by
    rw [List.filter_filter]
    refine List.filter_congr fun p _ => ?_
    rw [Bool.and_comm, ← Bool.decide_and]
  rw [hrest] at hsplit
  rw [hleft]
  omega

/-- The plan for ranked points is the one that is wanted. -/
theorem planSorted_planned (h : Ranked points) (hbudget : 1 ≤ budget)
    (htotal : totalSize points ≤ maximumSafeInteger) :
    RetentionPlanned points active budget (planSorted points active budget) := by
  have hdeleted := fun {p} hp => @mem_deleteArtifactIds p points active budget h hbudget htotal hp
  have hretained := @planSorted_retained points active budget h hbudget htotal
  have hspec := @loopResult_spec points active budget
  have hloop := fun {p} hp => @mem_of_mem_loop p points active budget h hp
  have hnodup : (loopResult points active budget).1.Nodup :=
    hspec.is_front.sublist.nodup ((List.nodup_reverse.mpr h.nodup).filter _)
  -- what is kept and not protected is a candidate that the loop has not taken
  have hkept : ∀ q ∈ kept points (planSorted points active budget).deleteArtifactIds,
      q ∈ points ∧ ¬ BeyondLimit points active q ∧ q ∉ (loopResult points active budget).1 := by
    intro q hq
    obtain ⟨hq, hnot⟩ := List.mem_filter.mp hq
    have hnot := of_decide_eq_true hnot
    rw [hdeleted hq, not_or] at hnot
    exact ⟨hq, hnot⟩
  refine ⟨?_, ?_, ?_, ?_, ?_, ?_, ?_, ?_, ?_⟩
  · intro id hid
    obtain ⟨p, hp, rfl⟩ := List.mem_map.mp hid
    exact ⟨p, (List.mem_filter.mp (List.mem_reverse.mp hp)).1, rfl⟩
  · intro p hp hprotected
    rw [hdeleted hp, not_or]
    exact ⟨fun hbeyond => hbeyond.1 hprotected, fun hmem => (hloop hmem).2.2 hprotected⟩
  · intro p hp
    rw [← h.mem_protectedIds hp]
    show p.artifactId ∈ (points.filter _).map _ ↔ _
    rw [List.mem_map]
    constructor
    · rintro ⟨q, hq, he⟩
      rw [← he]
      exact of_decide_eq_true (List.mem_filter.mp hq).2
    · exact fun hmem => ⟨p, List.mem_filter.mpr ⟨hp, decide_eq_true hmem⟩, rfl⟩
  · exact fun p hp hbeyond => (hdeleted hp).mpr (.inl hbeyond)
  · intro p hp hmem hbeyond q hq hunprotected
    have htaken := ((hdeleted hp).mp hmem).resolve_left hbeyond
    obtain ⟨hqPoints, hqBeyond, hqLoop⟩ := hkept q hq
    have hcandidate := (mem_candidates h).mpr ⟨hqPoints, hqBeyond, hunprotected⟩
    have hpairs := @candidates_oldest_first points active h
    obtain ⟨rest, hrest⟩ := hspec.is_front
    rw [← hrest] at hcandidate hpairs
    rcases List.mem_append.mp hcandidate with hcandidate | hcandidate
    · exact absurd hcandidate hqLoop
    · exact (List.pairwise_append.mp hpairs).2.2 p htaken q hcandidate
  · intro p hp hmem hbeyond
    have htaken := ((hdeleted hp).mp hmem).resolve_left hbeyond
    obtain ⟨first, rest, hsplit⟩ := List.append_of_mem htaken
    have hneeded := hspec.needed first p rest hsplit
    have hpairs : (loopResult points active budget).1.Pairwise fun p q => Newer q p :=
      (candidates_oldest_first h).sublist hspec.is_front.sublist
    have hfirst : ∀ q ∈ first, q ∈ (loopResult points active budget).1 := by
      intro q hq
      rw [hsplit]
      exact List.mem_append_left _ hq
    rw [hsplit] at hnodup hpairs
    have hwithout := @totalSize_without points active h first
      (List.nodup_append.mp hnodup).1 fun q hq => ⟨(hloop (hfirst q hq)).1, (hloop (hfirst q hq)).2.1⟩
    -- the older points that are deleted are those that the loop took before
    have hsame : points.filter (fun q => ¬ BeyondLimit points active q ∧ q ∉ first)
        = points.filter fun q => ¬ BeyondLimit points active q
          ∧ ¬ (q.artifactId ∈ (planSorted points active budget).deleteArtifactIds
            ∧ Newer p q) := by
      refine List.filter_congr fun q hq => decide_eq_decide.mpr (and_congr_right fun hqBeyond => ?_)
      refine not_congr ?_
      rw [hdeleted hq]
      constructor
      · intro hqFirst
        refine ⟨.inr (hfirst q hqFirst), ?_⟩
        exact (List.pairwise_append.mp hpairs).2.2 q hqFirst p List.mem_cons_self
      · rintro ⟨hqDeleted, hnewer⟩
        have hqLoop := hqDeleted.resolve_left hqBeyond
        rw [hsplit, List.mem_append, List.mem_cons] at hqLoop
        rcases hqLoop with hqFirst | rfl | hqRest
        · exact hqFirst
        · exact absurd hnewer (newer_asymm q q hnewer)
        · have hlater := (List.pairwise_append.mp hpairs).2.1
          rw [List.pairwise_cons] at hlater
          exact absurd hnewer (newer_asymm q p (hlater.1 q hqRest))
    rw [← hsame, ← hwithout]
    exact hneeded
  · rw [hretained, hspec.retained_eq]
    have hwithout := @totalSize_without points active h _ hnodup
      fun q hq => ⟨(hloop hq).1, (hloop hq).2.1⟩
    refine hwithout.trans ?_
    refine congrArg totalSize (List.filter_congr fun q hq => decide_eq_decide.mpr ?_)
    rw [hdeleted hq, not_or]
  · exact decide_eq_true_iff
  · intro hexceeded q hq
    rw [hretained] at hexceeded
    obtain ⟨hqPoints, hqBeyond, hqLoop⟩ := hkept q hq
    by_contra hunprotected
    have hcandidate := (mem_candidates h).mpr ⟨hqPoints, hqBeyond, hunprotected⟩
    rw [← hspec.exhausted hexceeded] at hcandidate
    exact hqLoop hcandidate

end Sorted

/-! ## Points in any order -/

section Permuted

variable {points points' : List RecoveryPointIndexEntry} {active : List String} {budget : Int}
  {plan : RecoveryPointRetentionPlan}

theorem isProtected_iff_of_perm (hperm : points'.Perm points) (p : RecoveryPointIndexEntry) :
    IsProtected points' active p ↔ IsProtected points active p := by
  simp only [IsProtected, hperm.mem_iff]

theorem beyondLimit_iff_of_perm (hperm : points'.Perm points) (p : RecoveryPointIndexEntry) :
    BeyondLimit points' active p ↔ BeyondLimit points active p := by
  rw [BeyondLimit, BeyondLimit, isProtected_iff_of_perm hperm, newerOfKind, newerOfKind,
    (hperm.filter _).length_eq]

theorem RetentionPlanned.of_perm (hperm : points'.Perm points)
    (h : RetentionPlanned points' active budget plan) :
    RetentionPlanned points active budget plan := by
  have hprotected := fun p => @isProtected_iff_of_perm points points' active hperm p
  have hbeyond := fun p => @beyondLimit_iff_of_perm points points' active hperm p
  have hkept : ∀ p, p ∈ kept points plan.deleteArtifactIds
      ↔ p ∈ kept points' plan.deleteArtifactIds :=
    fun p => (hperm.filter _).mem_iff.symm
  refine ⟨fun id hid => ?_, fun p hp hmem => ?_, fun p hp => ?_, fun p hp hmem => ?_,
    fun p hp hdeleted hnot q hq hqp => ?_, fun p hp hdeleted hnot => ?_, ?_, h.exceeded,
    fun hlt q hq => ?_⟩
  · obtain ⟨p, hp, he⟩ := h.known id hid
    exact ⟨p, hperm.mem_iff.mp hp, he⟩
  · exact h.protected_kept p (hperm.mem_iff.mpr hp) ((hprotected p).mpr hmem)
  · rw [h.protected_listed p (hperm.mem_iff.mpr hp), hprotected p]
  · exact h.beyond_deleted p (hperm.mem_iff.mpr hp) ((hbeyond p).mpr hmem)
  · exact h.oldest_first p (hperm.mem_iff.mpr hp) hdeleted (fun hb => hnot ((hbeyond p).mp hb)) q
      ((hkept q).mp hq) fun hqp' => hqp ((hprotected q).mp hqp')
  · have hneeded := h.needed p (hperm.mem_iff.mpr hp) hdeleted fun hb => hnot ((hbeyond p).mp hb)
    rw [totalSize_perm (hperm.filter _)] at hneeded
    simpa only [hbeyond] using hneeded
  · rw [h.retained]
    exact totalSize_perm (hperm.filter _)
  · exact (hprotected q).mp (h.exceeded_protected hlt q ((hkept q).mp hq))

end Permuted

/-- Planning again for what was kept deletes nothing. -/
theorem RetentionPlanned.again {points : List RecoveryPointIndexEntry} {active : List String}
    {budget : Int} {plan again : RecoveryPointRetentionPlan}
    (h : RetentionPlanned points active budget plan)
    (hagain : RetentionPlanned (kept points plan.deleteArtifactIds) active budget again) :
    again.deleteArtifactIds = [] := by
  rw [List.eq_nil_iff_forall_not_mem]
  intro id hid
  obtain ⟨p, hp, rfl⟩ := hagain.known id hid
  obtain ⟨hpPoints, hpKept⟩ := List.mem_filter.mp hp
  have hpKept := of_decide_eq_true hpKept
  have hsub : ∀ q ∈ kept points plan.deleteArtifactIds, q ∈ points :=
    fun q hq => (List.mem_filter.mp hq).1
  -- whoever is protected among all points is protected among fewer
  have hmono : IsProtected points active p →
      IsProtected (kept points plan.deleteArtifactIds) active p := by
    rintro (hactive | hnewest | ⟨hkind, hnewest⟩)
    · exact .inl hactive
    · exact .inr (.inl fun q hq => hnewest q (hsub q hq))
    · exact .inr (.inr ⟨hkind, fun q hq => hnewest q (hsub q hq)⟩)
  have hunprotected : ¬ IsProtected (kept points plan.deleteArtifactIds) active p :=
    fun hp' => hagain.protected_kept p hp hp' hid
  have hfree : ¬ IsProtected points active p := fun hp' => hunprotected (hmono hp')
  by_cases hbeyond : BeyondLimit (kept points plan.deleteArtifactIds) active p
  · have hcount : newerOfKind (kept points plan.deleteArtifactIds) p ≤ newerOfKind points p :=
      (List.filter_sublist.filter _).length_le
    exact hpKept (h.beyond_deleted p hpPoints ⟨hfree, Nat.le_trans hbeyond.2 hcount⟩)
  · have hneeded := hagain.needed p hp hid hbeyond
    have hle := totalSize_filter_le (kept points plan.deleteArtifactIds) fun q =>
      ¬ BeyondLimit (kept points plan.deleteArtifactIds) active q
        ∧ ¬ (q.artifactId ∈ again.deleteArtifactIds ∧ Newer p q)
    have hexceeded : budget < plan.retainedByteSize := by
      rw [h.retained]
      omega
    exact hfree (h.exceeded_protected hexceeded p hp)

theorem planRecoveryPointRetention_eq_ok {points : List RecoveryPointIndexEntry}
    {options : RetentionOptions}
    (hbudget : 1 ≤ options.budget ∧ options.budget ≤ maximumSafeInteger) :
    planRecoveryPointRetention points options
      = .ok (planSorted (sortNewestFirst points) options.active options.budget) := by
  have hnot : ¬ (options.budget > maximumSafeInteger ∨ options.budget < 1) := by omega
  rw [planRecoveryPointRetention, throwIf_of_not hnot]
  rfl

theorem planSorted_sort_planned {points : List RecoveryPointIndexEntry} {active : List String}
    {budget : Int} (hdistinct : (points.map (·.artifactId)).Nodup)
    (htotal : totalSize points ≤ maximumSafeInteger) (hbudget : 1 ≤ budget) :
    RetentionPlanned points active budget (planSorted (sortNewestFirst points) active budget) := by
  have hperm := sortNewestFirst_perm points
  have hsorted : totalSize (sortNewestFirst points) ≤ maximumSafeInteger := by
    rw [totalSize_perm hperm]
    exact htotal
  exact (planSorted_planned (sortNewestFirst_ranked hdistinct) hbudget hsorted).of_perm hperm

/-- The plan of points whose sizes add up to a safe integer. -/
theorem retention_planned {points : List RecoveryPointIndexEntry} {options : RetentionOptions}
    (hdistinct : (points.map (·.artifactId)).Nodup)
    (htotal : totalSize points ≤ maximumSafeInteger)
    (hbudget : 1 ≤ options.budget ∧ options.budget ≤ maximumSafeInteger) :
    ∃ plan, planRecoveryPointRetention points options = .ok plan
      ∧ RetentionPlanned points options.active options.budget plan
      ∧ (∀ points', points'.Perm points → planRecoveryPointRetention points' options = .ok plan)
      ∧ ∃ again, planRecoveryPointRetention (kept points plan.deleteArtifactIds) options = .ok again
        ∧ again.deleteArtifactIds = [] := by
  have hplanned := @planSorted_sort_planned points options.active options.budget hdistinct htotal
    hbudget.1
  refine ⟨_, planRecoveryPointRetention_eq_ok hbudget, hplanned, fun points' hperm => ?_, _,
    planRecoveryPointRetention_eq_ok hbudget, hplanned.again (planSorted_sort_planned ?_ ?_ hbudget.1)⟩
  · rw [planRecoveryPointRetention_eq_ok hbudget, sortNewestFirst_of_perm hdistinct hperm]
  · exact hdistinct.sublist (List.filter_sublist.map _)
  · exact Int.le_trans (totalSize_filter_le points _) htotal

/-! ## Three points -/

/-- A point of a kind. -/
def samplePoint (id : String) (size time : Int) (kind : RecoveryPointKind)
    (hid : isArtifactId id = true) (hsize : 1 ≤ size ∧ size ≤ maximumSafeInteger) :
    RecoveryPointIndexEntry :=
  ⟨id, size, time, kind, time, hid, hsize⟩

/-- The oldest point. -/
def smallPoint : RecoveryPointIndexEntry :=
  samplePoint "00000000-0000-4000-8000-000000000001" 1 1 .manual (by decide) (by decide)

/-- The point after it. -/
def secondPoint (size : Int) (hsize : 1 ≤ size ∧ size ≤ maximumSafeInteger) :
    RecoveryPointIndexEntry :=
  samplePoint "00000000-0000-4000-8000-000000000002" size 2 .manual (by decide) hsize

/-- The newest point. -/
def latestPoint (size : Int) (hsize : 1 ≤ size ∧ size ≤ maximumSafeInteger) :
    RecoveryPointIndexEntry :=
  samplePoint "00000000-0000-4000-8000-000000000003" size 3 .daily (by decide) hsize

theorem three_points_planned : ∃ plan,
    planRecoveryPointRetention
      [smallPoint, latestPoint 9 (by decide), secondPoint 100 (by decide)]
      { diskBudgetBytes := some 105 } = .ok plan
      ∧ RetentionPlanned [smallPoint, latestPoint 9 (by decide), secondPoint 100 (by decide)]
        [] 105 plan := by
  have h := @retention_planned
    [smallPoint, latestPoint 9 (by decide), secondPoint 100 (by decide)]
    { diskBudgetBytes := some 105 } (by decide +kernel) (by decide +kernel) (by decide)
  obtain ⟨plan, hplan, hplanned, -⟩ := h
  exact ⟨plan, hplan, hplanned⟩

/-- A small point is deleted although the budget would be kept with it, a sum beyond the safe
    range is not exact, and a budget beyond it is refused. -/
theorem retention_not_minimal :
    planRecoveryPointRetention
        [smallPoint, latestPoint 9 (by decide), secondPoint 100 (by decide)]
        { diskBudgetBytes := some 105 }
      = .ok
        { budgetExceededAfterRotation := false
          deleteArtifactIds := [smallPoint.artifactId,
            (secondPoint 100 (by decide)).artifactId]
          protectedArtifactIds := [(latestPoint 9 (by decide)).artifactId]
          retainedByteSize := 9 }
      ∧ ¬ BeyondLimit [smallPoint, latestPoint 9 (by decide), secondPoint 100 (by decide)] []
        smallPoint
      ∧ 9 + smallPoint.byteSize ≤ 105
      ∧ planRecoveryPointRetention
          [smallPoint, secondPoint 1 (by decide), latestPoint maximumSafeInteger (by decide)]
          { diskBudgetBytes := some maximumSafeInteger }
        = .ok
          { budgetExceededAfterRotation := false
            deleteArtifactIds := [smallPoint.artifactId]
            protectedArtifactIds := [(latestPoint 9 (by decide)).artifactId]
            retainedByteSize := maximumSafeInteger }
      ∧ totalSize (kept
          [smallPoint, secondPoint 1 (by decide), latestPoint maximumSafeInteger (by decide)]
          [smallPoint.artifactId]) = maximumSafeInteger + 1
      ∧ planRecoveryPointRetention [smallPoint]
          { diskBudgetBytes := some (maximumSafeInteger + 1) }
        = .error "RECOVERY_POINT_RETENTION_INVALID" := by
  decide +kernel

end RecoveryPointRetention
