import Eky.Fallible
import Mathlib.Algebra.BigOperators.Group.List.Basic
import Mathlib.Data.List.Nodup
import Mathlib.Data.List.Perm.Subperm
import Mathlib.Data.List.Sort

/-! # Ordered maps — insertion order, one entry a key

    A map that remembers the order in which its keys were first set.  The
    invariant that no key occurs twice is a field, so every map that can be
    built is well formed.

    The second half is about the loop that GROUPS a list: every element updates
    the entry of its own key.  Such a loop factors through the keys:

    - `groupM_get?`: the entry of a key after the loop is the loop over the
      elements of that key alone;
    - `groupM_total`: the loop returns when it returns at every key;
    - `groupM_keys`: the keys are those of the list, in order of appearance. -/

/-- An insertion-ordered map. -/
structure OrderedMap (κ ν : Type) where
  entries : List (κ × ν)
  nodupKeys : (entries.map Prod.fst).Nodup

namespace OrderedMap

open Fallible

variable {κ ν α β ε : Type} [DecidableEq κ]

/-! ## Entry lists -/

/-- The value beside a key in an entry list. -/
def valueAt (key : κ) : List (κ × ν) → Option ν
  | [] => none
  | (k, v) :: rest => if k = key then some v else valueAt key rest

/-- Replace the value beside a key, or append the entry. -/
def put (key : κ) (value : ν) : List (κ × ν) → List (κ × ν)
  | [] => [(key, value)]
  | (k, v) :: rest =>
      if k = key then (k, value) :: rest else (k, v) :: put key value rest

theorem put_keys (key : κ) (value : ν) (entries : List (κ × ν)) :
    (put key value entries).map Prod.fst =
      if key ∈ entries.map Prod.fst then entries.map Prod.fst
      else entries.map Prod.fst ++ [key] := by
  induction entries with
  | nil => simp [put]
  | cons e rest ih =>
      obtain ⟨k, v⟩ := e
      by_cases hk : k = key
      · simp [put, hk]
      · have hne : ¬ key = k := fun h => hk h.symm
        rw [put, if_neg hk]
        simp only [List.map_cons, ih, List.mem_cons, hne, false_or]
        split
        · rfl
        · rfl

variable {key : α → κ} {pairs entries : List (κ × ν)} {step : Option ν → α → Except ε ν}
  {seen ks : List κ} {m m' : OrderedMap κ ν} {value : ν} {x : α} {k : κ} {xs : List α}

theorem put_of_fresh {key : κ} (h : key ∉ entries.map Prod.fst) :
    put key value entries = entries ++ [(key, value)] := by
  induction entries with
  | nil => rfl
  | cons e rest ih =>
      rw [List.map_cons, List.mem_cons, not_or] at h
      rw [put, if_neg (fun hk => h.1 hk.symm), ih h.2]
      rfl

theorem valueAt_put (key other : κ) (value : ν) (entries : List (κ × ν)) :
    valueAt other (put key value entries)
      = if other = key then some value else valueAt other entries := by
  induction entries with
  | nil =>
      by_cases h : other = key
      · simp [put, valueAt, h]
      · have hne : ¬ key = other := fun h' => h h'.symm
        simp [put, valueAt, hne, h]
  | cons e rest ih =>
      obtain ⟨k, v⟩ := e
      by_cases hk : k = key
      · subst hk
        rw [put, if_pos rfl, valueAt, valueAt]
        by_cases h : other = k
        · rw [if_pos h.symm, if_pos h]
        · have hne : ¬ k = other := fun h' => h h'.symm
          rw [if_neg hne, if_neg hne, if_neg h]
      · rw [put, if_neg hk, valueAt, valueAt, ih]
        by_cases h : k = other
        · subst h
          rw [if_pos rfl, if_pos rfl, if_neg hk]
        · rw [if_neg h, if_neg h]

theorem valueAt_eq_none {key : κ} : valueAt key entries = none ↔ key ∉ entries.map Prod.fst := by
  induction entries with
  | nil => simp [valueAt]
  | cons e rest ih =>
      obtain ⟨k, v⟩ := e
      by_cases hk : k = key
      · simp [valueAt, hk]
      · have hne : ¬ key = k := fun h => hk h.symm
        rw [valueAt, if_neg hk, ih]
        simp [hne]

theorem valueAt_eq_some {key : κ} (h : (entries.map Prod.fst).Nodup) :
    valueAt key entries = some value ↔ (key, value) ∈ entries := by
  induction entries with
  | nil => simp [valueAt]
  | cons e rest ih =>
      obtain ⟨k, v⟩ := e
      rw [List.map_cons, List.nodup_cons] at h
      by_cases hk : k = key
      · subst hk
        have habsent : (k, value) ∉ rest := fun hmem =>
          h.1 (List.mem_map.mpr ⟨(k, value), hmem, rfl⟩)
        rw [valueAt, if_pos rfl, List.mem_cons]
        constructor
        · intro hv
          exact Or.inl (by rw [Option.some.inj hv])
        · rintro (heq | hmem)
          · rw [(Prod.mk.inj heq).2]
          · exact absurd hmem habsent
      · rw [valueAt, if_neg hk, ih h.2, List.mem_cons]
        constructor
        · exact Or.inr
        · rintro (heq | hmem)
          · exact absurd (Prod.mk.inj heq).1.symm hk
          · exact hmem

/-! ## The map -/

/-- The empty map. -/
def empty : OrderedMap κ ν := ⟨[], List.nodup_nil⟩

/-- The keys in their order. -/
def keys (m : OrderedMap κ ν) : List κ := m.entries.map Prod.fst

/-- The value of a key. -/
def get? (m : OrderedMap κ ν) (key : κ) : Option ν := valueAt key m.entries

/-- The map with a value set; a new key goes to the end. -/
def set (m : OrderedMap κ ν) (key : κ) (value : ν) : OrderedMap κ ν where
  entries := put key value m.entries
  nodupKeys := by
    rw [put_keys]
    split
    · exact m.nodupKeys
    · next h =>
      exact m.nodupKeys.append (List.nodup_singleton key)
        (List.disjoint_singleton.mpr h)

@[simp] theorem get?_empty (key : κ) : (empty : OrderedMap κ ν).get? key = none :=
  rfl

omit [DecidableEq κ] in
@[simp] theorem keys_empty : (empty : OrderedMap κ ν).keys = [] := rfl

theorem get?_set (m : OrderedMap κ ν) (key other : κ) (value : ν) :
    (m.set key value).get? other = if other = key then some value else m.get? other :=
  valueAt_put key other value m.entries

@[simp] theorem get?_set_self (m : OrderedMap κ ν) (key : κ) (value : ν) :
    (m.set key value).get? key = some value := by
  rw [get?_set, if_pos rfl]

theorem get?_set_ne {key other : κ} (h : other ≠ key) :
    (m.set key value).get? other = m.get? other := by
  rw [get?_set, if_neg h]

theorem keys_set (m : OrderedMap κ ν) (key : κ) (value : ν) :
    (m.set key value).keys = if key ∈ m.keys then m.keys else m.keys ++ [key] :=
  put_keys key value m.entries

theorem mem_entries {key : κ} : (key, value) ∈ m.entries ↔ m.get? key = some value :=
  (valueAt_eq_some m.nodupKeys).symm

theorem get?_eq_none {key : κ} : m.get? key = none ↔ key ∉ m.keys := valueAt_eq_none

theorem mem_keys {key : κ} : key ∈ m.keys ↔ ∃ value, m.get? key = some value := by
  cases h : m.get? key with
  | none => simpa using get?_eq_none.mp h
  | some v =>
      constructor
      · intro _; exact ⟨v, rfl⟩
      · intro _
        by_contra hk
        exact nomatch h.symm.trans (get?_eq_none.mpr hk)

/-! ## Grouping a list by key -/

/-- The loop that folds every element into the entry of its key. -/
def groupM (key : α → κ) (step : Option ν → α → Except ε ν)
    (m : OrderedMap κ ν) (xs : List α) : Except ε (OrderedMap κ ν) :=
  xs.foldlM (fun m x => do
    let value ← step (m.get? (key x)) x
    pure (m.set (key x) value)) m

/-- The same loop at a single entry. -/
def entryM (step : Option ν → α → Except ε ν) (entry : Option ν) (xs : List α) :
    Except ε (Option ν) :=
  xs.foldlM (fun entry x => some <$> step entry x) entry

/-- The elements of a list that have a given key. -/
def withKey (key : α → κ) (k : κ) (xs : List α) : List α :=
  xs.filter (fun x => key x = k)

theorem withKey_cons_self : withKey key (key x) (x :: xs) = x :: withKey key (key x) xs := by
  simp [withKey]

theorem withKey_cons_ne (h : key x ≠ k) : withKey key k (x :: xs) = withKey key k xs := by
  simp [withKey, h]

theorem mem_withKey : x ∈ withKey key k xs ↔ x ∈ xs ∧ key x = k := by
  simp [withKey]

theorem groupM_cons : groupM key step m (x :: xs) = .ok m' ↔
      ∃ value, step (m.get? (key x)) x = .ok value
        ∧ groupM key step (m.set (key x) value) xs = .ok m' := by
  unfold groupM
  rw [List.foldlM_cons, bind_eq_ok]
  constructor
  · rintro ⟨m₁, h, hrest⟩
    obtain ⟨value, hvalue, hset⟩ := bind_eq_ok.mp h
    rw [pure_eq_ok] at hset
    exact ⟨value, hvalue, hset ▸ hrest⟩
  · rintro ⟨value, hvalue, hrest⟩
    exact ⟨_, bind_eq_ok.mpr ⟨value, hvalue, rfl⟩, hrest⟩

theorem entryM_cons {entry entry' : Option ν} : entryM step entry (x :: xs) = .ok entry' ↔
      ∃ value, step entry x = .ok value ∧ entryM step (some value) xs = .ok entry' := by
  unfold entryM
  rw [List.foldlM_cons, bind_eq_ok]
  constructor
  · rintro ⟨entry₁, h, hrest⟩
    obtain ⟨value, hvalue, hsome⟩ := map_eq_ok.mp h
    exact ⟨value, hvalue, hsome ▸ hrest⟩
  · rintro ⟨value, hvalue, hrest⟩
    exact ⟨_, map_eq_ok.mpr ⟨value, hvalue, rfl⟩, hrest⟩

/-- An entry never disappears. -/
theorem entryM_some {v : ν} {entry' : Option ν} (h : entryM step (some v) xs = .ok entry') :
    ∃ w, entry' = some w := by
  induction xs generalizing v with
  | nil => exact ⟨v, (pure_eq_ok.mp h).symm⟩
  | cons x rest ih =>
      obtain ⟨w, _, hrest⟩ := entryM_cons.mp h
      exact ih hrest

/-- There is no entry only when there was none and no element came. -/
theorem entryM_none {entry : Option ν} (h : entryM step entry xs = .ok none) :
    entry = none ∧ xs = [] := by
  cases xs with
  | nil => exact ⟨pure_eq_ok.mp h, rfl⟩
  | cons x rest =>
      obtain ⟨v, _, hrest⟩ := entryM_cons.mp h
      obtain ⟨w, hw⟩ := entryM_some hrest
      exact nomatch hw

/-- **FACTORING**: what a grouping loop leaves at a key is what the loop over
    the elements of that key alone leaves there. -/
theorem groupM_get? (h : groupM key step m xs = .ok m') (k : κ) :
    entryM step (m.get? k) (withKey key k xs) = .ok (m'.get? k) := by
  induction xs generalizing m with
  | nil =>
      have hm : m = m' := pure_eq_ok.mp h
      subst hm
      rfl
  | cons x rest ih =>
      obtain ⟨value, hvalue, hrest⟩ := groupM_cons.mp h
      have hind := ih hrest
      by_cases hk : key x = k
      · subst hk
        rw [get?_set_self] at hind
        rw [withKey_cons_self]
        exact entryM_cons.mpr ⟨value, hvalue, hind⟩
      · rw [get?_set_ne (fun h' => hk h'.symm)] at hind
        rw [withKey_cons_ne hk]
        exact hind

/-- A grouping loop that returns at every key returns. -/
theorem groupM_total (h : ∀ k, ∃ entry, entryM step (m.get? k) (withKey key k xs) = .ok entry) :
    ∃ m', groupM key step m xs = .ok m' := by
  induction xs generalizing m with
  | nil => exact ⟨m, rfl⟩
  | cons x rest ih =>
      obtain ⟨entry, hentry⟩ := h (key x)
      rw [withKey_cons_self] at hentry
      obtain ⟨value, hvalue, hrest⟩ := entryM_cons.mp hentry
      obtain ⟨m', hm'⟩ := ih (m := m.set (key x) value) (by
        intro k
        by_cases hk : key x = k
        · subst hk
          rw [get?_set_self]
          exact ⟨entry, hrest⟩
        · rw [get?_set_ne (fun h' => hk h'.symm)]
          have hother := h k
          rw [withKey_cons_ne hk] at hother
          exact hother)
      exact ⟨m', groupM_cons.mpr ⟨value, hvalue, hm'⟩⟩

/-- A check in front of the step is a check of every element. -/
theorem groupM_checked {check : α → Except ε Unit} :
    groupM key (fun entry x => do check x; step entry x) m xs = .ok m' ↔
      (∀ x ∈ xs, check x = .ok ()) ∧ groupM key step m xs = .ok m' := by
  induction xs generalizing m with
  | nil =>
      constructor
      · intro h
        exact ⟨fun x hx => (nomatch hx), h⟩
      · rintro ⟨_, h⟩
        exact h
  | cons x rest ih =>
      rw [groupM_cons, groupM_cons]
      constructor
      · rintro ⟨value, hvalue, hrest⟩
        obtain ⟨_, hcheck, hstep⟩ := bind_eq_ok.mp hvalue
        obtain ⟨hall, hgroup⟩ := ih.mp hrest
        refine ⟨?_, value, hstep, hgroup⟩
        intro y hy
        rcases List.mem_cons.mp hy with rfl | hy
        · exact hcheck
        · exact hall y hy
      · rintro ⟨hall, value, hstep, hgroup⟩
        refine ⟨value, ?_, ih.mpr ⟨?_, hgroup⟩⟩
        · exact bind_eq_ok.mpr ⟨(), hall x List.mem_cons_self, hstep⟩
        · exact fun y hy => hall y (List.mem_cons_of_mem x hy)

/-- The keys of a list, in order of first appearance, after the keys already
    there. -/
def appearance (seen : List κ) : List κ → List κ
  | [] => seen
  | k :: rest => appearance (if k ∈ seen then seen else seen ++ [k]) rest

theorem groupM_keys (h : groupM key step m xs = .ok m') :
    m'.keys = appearance m.keys (xs.map key) := by
  induction xs generalizing m with
  | nil =>
      have hm : m = m' := pure_eq_ok.mp h
      subst hm
      rfl
  | cons x rest ih =>
      obtain ⟨value, _, hrest⟩ := groupM_cons.mp h
      rw [ih hrest, keys_set, List.map_cons, appearance]

theorem mem_appearance : k ∈ appearance seen ks ↔ k ∈ seen ∨ k ∈ ks := by
  induction ks generalizing seen with
  | nil => simp [appearance]
  | cons k' rest ih =>
      rw [appearance, ih]
      by_cases hk : k' ∈ seen
      · rw [if_pos hk, List.mem_cons]
        constructor
        · rintro (h | h)
          · exact Or.inl h
          · exact Or.inr (Or.inr h)
        · rintro (h | rfl | h)
          · exact Or.inl h
          · exact Or.inl hk
          · exact Or.inr h
      · rw [if_neg hk, List.mem_append, List.mem_singleton, List.mem_cons, or_assoc]

theorem nodup_appearance (h : seen.Nodup) : (appearance seen ks).Nodup := by
  induction ks generalizing seen with
  | nil => exact h
  | cons k rest ih =>
      rw [appearance]
      split
      · exact ih h
      · next hk =>
        exact ih (h.append (List.nodup_singleton k) (List.disjoint_singleton.mpr hk))

/-! ## Maps from lists -/

/-- The map of a list of pairs; a later pair replaces an earlier one. -/
def ofList (pairs : List (κ × ν)) : OrderedMap κ ν :=
  pairs.foldl (fun m pair => m.set pair.1 pair.2) empty

private theorem get?_foldl_set (h : ∀ p ∈ pairs, ∀ q ∈ pairs, p.1 = q.1 → p.2 = q.2) (key : κ)
    (value : ν) : (pairs.foldl (fun m pair => m.set pair.1 pair.2) m).get? key = some value ↔
      (key, value) ∈ pairs ∨ ((∀ p ∈ pairs, p.1 ≠ key) ∧ m.get? key = some value) := by
  induction pairs generalizing m with
  | nil => simp
  | cons p rest ih =>
      have hrest : ∀ a ∈ rest, ∀ b ∈ rest, a.1 = b.1 → a.2 = b.2 :=
        fun a ha b hb => h a (List.mem_cons_of_mem p ha) b (List.mem_cons_of_mem p hb)
      rw [List.foldl_cons, ih hrest, get?_set]
      by_cases hk : key = p.1
      · subst hk
        rw [if_pos rfl]
        constructor
        · rintro (hmem | ⟨_, hv⟩)
          · exact Or.inl (List.mem_cons_of_mem p hmem)
          · exact Or.inl (by rw [← Option.some.inj hv]; exact List.mem_cons_self)
        · rintro (hmem | ⟨hall, _⟩)
          · by_cases hlater : ∃ q ∈ rest, q.1 = p.1
            · obtain ⟨q, hq, hqk⟩ := hlater
              have hv := h q (List.mem_cons_of_mem p hq) _ hmem hqk
              refine Or.inl ?_
              have hpair : q = (p.1, value) := Prod.ext hqk hv
              exact hpair ▸ hq
            · have hv := h p List.mem_cons_self _ hmem rfl
              exact Or.inr ⟨fun q hq hqk => hlater ⟨q, hq, hqk⟩, congrArg some hv⟩
          · exact absurd rfl (hall p List.mem_cons_self)
      · rw [if_neg hk]
        constructor
        · rintro (hmem | ⟨hall, hv⟩)
          · exact Or.inl (List.mem_cons_of_mem p hmem)
          · refine Or.inr ⟨?_, hv⟩
            intro q hq
            rcases List.mem_cons.mp hq with rfl | hq
            · exact fun h' => hk h'.symm
            · exact hall q hq
        · rintro (hmem | ⟨hall, hv⟩)
          · rcases List.mem_cons.mp hmem with heq | hmem
            · exact absurd (congrArg Prod.fst heq) hk
            · exact Or.inl hmem
          · exact Or.inr ⟨fun q hq => hall q (List.mem_cons_of_mem p hq), hv⟩

private theorem mem_of_get?_foldl_set {key : κ}
    (h : (pairs.foldl (fun m pair => m.set pair.1 pair.2) m).get? key = some value) :
    (key, value) ∈ pairs ∨ m.get? key = some value := by
  induction pairs generalizing m with
  | nil => exact Or.inr h
  | cons p rest ih =>
      rcases ih h with hmem | hget
      · exact Or.inl (List.mem_cons_of_mem p hmem)
      · rw [get?_set] at hget
        by_cases hk : key = p.1
        · rw [if_pos hk] at hget
          refine Or.inl ?_
          rw [hk, ← Option.some.inj hget]
          exact List.mem_cons_self
        · rw [if_neg hk] at hget
          exact Or.inr hget

/-- What a map from a list holds is a pair of the list. -/
theorem mem_of_get?_ofList {key : κ} (h : (ofList pairs).get? key = some value) :
    (key, value) ∈ pairs := by
  rcases mem_of_get?_foldl_set h with hmem | hget
  · exact hmem
  · exact nomatch hget

private theorem get?_foldl_set_some {key : κ}
    (h : (∃ v, m.get? key = some v) ∨ key ∈ pairs.map Prod.fst) :
    ∃ v, (pairs.foldl (fun m pair => m.set pair.1 pair.2) m).get? key = some v := by
  induction pairs generalizing m with
  | nil =>
      rcases h with h | h
      · exact h
      · exact nomatch h
  | cons p rest ih =>
      refine ih ?_
      by_cases hk : key = p.1
      · exact Or.inl ⟨p.2, by rw [hk, get?_set_self]⟩
      · rw [get?_set_ne hk]
        rcases h with h | h
        · exact Or.inl h
        · exact Or.inr ((List.mem_cons.mp h).resolve_left hk)

/-- Every key of the list has a value in its map. -/
theorem exists_get?_ofList {key : κ} (h : key ∈ pairs.map Prod.fst) :
    ∃ value, (ofList pairs).get? key = some value :=
  get?_foldl_set_some (Or.inr h)

/-- A list in which a key determines its value is read back from its map. -/
theorem get?_ofList (h : ∀ p ∈ pairs, ∀ q ∈ pairs, p.1 = q.1 → p.2 = q.2) {key : κ} :
    (ofList pairs).get? key = some value ↔ (key, value) ∈ pairs := by
  rw [ofList, get?_foldl_set h]
  simp

private theorem entries_foldl_set (hnodup : (pairs.map Prod.fst).Nodup)
    (hfresh : ∀ p ∈ pairs, p.1 ∉ m.keys) :
    (pairs.foldl (fun m pair => m.set pair.1 pair.2) m).entries = m.entries ++ pairs := by
  induction pairs generalizing m with
  | nil => exact (List.append_nil _).symm
  | cons p rest ih =>
      rw [List.map_cons, List.nodup_cons] at hnodup
      have hp : p.1 ∉ m.keys := hfresh p List.mem_cons_self
      have hkeys : (m.set p.1 p.2).keys = m.keys ++ [p.1] := by rw [keys_set, if_neg hp]
      rw [List.foldl_cons, ih hnodup.2]
      · show put p.1 p.2 m.entries ++ rest = m.entries ++ p :: rest
        rw [put_of_fresh hp, List.append_assoc]
        rfl
      · intro q hq hmem
        rw [hkeys] at hmem
        rcases List.mem_append.mp hmem with hmem | hmem
        · exact hfresh q (List.mem_cons_of_mem p hq) hmem
        · exact hnodup.1 (List.mem_map.mpr ⟨q, hq, List.mem_singleton.mp hmem⟩)

/-- A list of distinct keys becomes the entry list of its map. -/
theorem entries_ofList (h : (pairs.map Prod.fst).Nodup) : (ofList pairs).entries = pairs :=
  entries_foldl_set h (fun _ _ hmem => (nomatch hmem))

/-- Convert every value; the keys and their order stay. -/
def mapValuesM {μ : Type} (f : κ → ν → Except ε μ) (m : OrderedMap κ ν) :
    Except ε (OrderedMap κ μ) := do
  let entries ← m.entries.mapM fun (key, value) => do
    let converted ← f key value
    pure (key, converted)
  pure (ofList entries)

omit [DecidableEq κ] in
private theorem keys_of_mapM {μ : Type} {f : κ → ν → Except ε μ} {converted : List (κ × μ)}
    (h : List.Forall₂ (fun (e : κ × ν) (c : κ × μ) => e.1 = c.1 ∧ f e.1 e.2 = .ok c.2)
      entries converted) : converted.map Prod.fst = entries.map Prod.fst := by
  induction h with
  | nil => rfl
  | cons hc _ ih => rw [List.map_cons, List.map_cons, ih, hc.1]

/-- A converted map, entry by entry. -/
theorem mapValuesM_spec {μ : Type} {f : κ → ν → Except ε μ} {m' : OrderedMap κ μ}
    (h : mapValuesM f m = .ok m') : m'.keys = m.keys ∧ ∀ key value, m'.get? key = some value ↔
      ∃ v, m.get? key = some v ∧ f key v = .ok value := by
  rw [mapValuesM, bind_eq_ok] at h
  obtain ⟨converted, hconverted, hm'⟩ := h
  rw [pure_eq_ok] at hm'
  subst hm'
  have hall : List.Forall₂ (fun (e : κ × ν) (c : κ × μ) => e.1 = c.1 ∧ f e.1 e.2 = .ok c.2)
      m.entries converted := by
    refine (mapM_eq_ok.mp hconverted).imp (fun e c hc => ?_)
    obtain ⟨w, hw, hpair⟩ := bind_eq_ok.mp hc
    rw [pure_eq_ok] at hpair
    subst hpair
    exact ⟨rfl, hw⟩
  have hkeys := keys_of_mapM hall
  have hentries : (ofList converted).entries = converted :=
    entries_ofList (hkeys ▸ m.nodupKeys)
  refine ⟨by rw [keys, hentries, hkeys]; rfl, fun key value => ?_⟩
  rw [← mem_entries, hentries]
  constructor
  · intro hmem
    obtain ⟨e, he, hkey, hvalue⟩ := exists_left_of_forall₂ hall hmem
    obtain ⟨k, v⟩ := e
    cases hkey
    exact ⟨v, mem_entries.mp he, hvalue⟩
  · rintro ⟨v, hv, hvalue⟩
    obtain ⟨c, hc, hkey, hconv⟩ := exists_right_of_forall₂ hall (mem_entries.mpr hv)
    obtain ⟨k, w⟩ := c
    cases hkey
    rw [hvalue] at hconv
    exact Except.ok.inj hconv ▸ hc

theorem mapValuesM_total {μ : Type} {f : κ → ν → Except ε μ}
    (h : ∀ key value, m.get? key = some value → ∃ w, f key value = .ok w) :
    ∃ m', mapValuesM f m = .ok m' := by
  obtain ⟨converted, hconverted⟩ : ∃ converted, m.entries.mapM (fun e => (do
      let converted ← f e.1 e.2
      pure (e.1, converted) : Except ε (κ × μ))) = .ok converted := by
    refine mapM_total ?_
    rintro ⟨key, value⟩ he
    obtain ⟨w, hw⟩ := h key value (mem_entries.mp he)
    exact ⟨(key, w), bind_eq_ok.mpr ⟨w, hw, rfl⟩⟩
  exact ⟨ofList converted, bind_eq_ok.mpr ⟨converted, hconverted, rfl⟩⟩

/-! ## A map seen through its values -/

section MapValues

variable {μ ε' : Type} (f : ν → μ)

/-- Every value is replaced; the keys and their order stay. -/
def mapValues (m : OrderedMap κ ν) : OrderedMap κ μ where
  entries := m.entries.map (fun e => (e.1, f e.2))
  nodupKeys := by
    rw [List.map_map]
    exact m.nodupKeys

theorem valueAt_map (key : κ) (entries : List (κ × ν)) :
    valueAt key (entries.map (fun e => (e.1, f e.2))) = (valueAt key entries).map f := by
  induction entries with
  | nil => rfl
  | cons e rest ih =>
      obtain ⟨k, v⟩ := e
      rw [List.map_cons, valueAt, valueAt]
      by_cases hk : k = key
      · rw [if_pos hk, if_pos hk]
        rfl
      · rw [if_neg hk, if_neg hk, ih]

theorem put_map (key : κ) (value : ν) (entries : List (κ × ν)) :
    put key (f value) (entries.map (fun e => (e.1, f e.2)))
      = (put key value entries).map (fun e => (e.1, f e.2)) := by
  induction entries with
  | nil => rfl
  | cons e rest ih =>
      obtain ⟨k, v⟩ := e
      rw [List.map_cons, put, put]
      by_cases hk : k = key
      · rw [if_pos hk, if_pos hk]
        rfl
      · rw [if_neg hk, if_neg hk, ih]
        rfl

theorem get?_mapValues (m : OrderedMap κ ν) (key : κ) :
    (m.mapValues f).get? key = (m.get? key).map f :=
  valueAt_map f key m.entries

theorem set_mapValues (m : OrderedMap κ ν) (key : κ) (value : ν) :
    (m.set key value).mapValues f = (m.mapValues f).set key (f value) := by
  have hentries := put_map f key value m.entries
  show OrderedMap.mk _ _ = OrderedMap.mk _ _
  rw [mk.injEq]
  exact hentries.symm

/-- A grouping loop over the values that `f` shows is the loop over the values. -/
theorem groupM_mapValues {step' : Option μ → α → Except ε' μ} {m'' : OrderedMap κ μ}
    (hstep : ∀ x ∈ xs, ∀ e w, step' (e.map f) x = .ok w ↔ ∃ v, step e x = .ok v ∧ f v = w) :
    groupM key step' (m.mapValues f) xs = .ok m'' ↔
      ∃ m', groupM key step m xs = .ok m' ∧ m'.mapValues f = m'' := by
  induction xs generalizing m with
  | nil =>
      constructor
      · intro h
        exact ⟨m, rfl, pure_eq_ok.mp h⟩
      · rintro ⟨m', hm', rfl⟩
        rw [pure_eq_ok.mp hm']
        rfl
  | cons x rest ih =>
      have hrest := fun m => @ih m (fun y hy => hstep y (List.mem_cons_of_mem x hy))
      rw [groupM_cons]
      constructor
      · rintro ⟨w, hw, hgroup⟩
        rw [get?_mapValues] at hw
        obtain ⟨v, hv, rfl⟩ := (hstep x List.mem_cons_self _ _).mp hw
        rw [← set_mapValues] at hgroup
        obtain ⟨m', hm', rfl⟩ := (hrest _).mp hgroup
        exact ⟨m', groupM_cons.mpr ⟨v, hv, hm'⟩, rfl⟩
      · rintro ⟨m', hm', rfl⟩
        obtain ⟨v, hv, hgroup⟩ := groupM_cons.mp hm'
        refine ⟨f v, ?_, ?_⟩
        · rw [get?_mapValues]
          exact (hstep x List.mem_cons_self _ _).mpr ⟨v, hv, rfl⟩
        · rw [← set_mapValues]
          exact (hrest _).mpr ⟨m', hgroup, rfl⟩

end MapValues

/-- What every step keeps holds of every entry. -/
theorem groupM_invariant {P : κ → ν → Prop} (h : groupM key step m xs = .ok m')
    (hm : ∀ k v, m.get? k = some v → P k v)
    (hstep : ∀ x ∈ xs, ∀ e v, (∀ u, e = some u → P (key x) u) → step e x = .ok v →
      P (key x) v) : ∀ k v, m'.get? k = some v → P k v := by
  induction xs generalizing m with
  | nil =>
      obtain rfl : m = m' := pure_eq_ok.mp h
      exact hm
  | cons x rest ih =>
      obtain ⟨value, hvalue, hrest⟩ := groupM_cons.mp h
      refine ih hrest ?_ (fun y hy => hstep y (List.mem_cons_of_mem x hy))
      intro k v hv
      by_cases hk : k = key x
      · subst hk
        rw [get?_set_self] at hv
        rw [← Option.some.inj hv]
        exact hstep x List.mem_cons_self _ _ (fun u hu => hm _ u hu) hvalue
      · rw [get?_set_ne hk] at hv
        exact hm k v hv

/-! ## Groups -/

/-- The groups of a list, by first appearance of their keys. -/
def groupBy (key : α → κ) (xs : List α) : List (κ × List α) :=
  (appearance [] (xs.map key)).map (fun k => (k, withKey key k xs))

theorem mem_groupBy {group : List α} :
    (k, group) ∈ groupBy key xs ↔ (∃ x ∈ xs, key x = k) ∧ group = withKey key k xs := by
  rw [groupBy, List.mem_map]
  constructor
  · rintro ⟨k', hk', heq⟩
    obtain ⟨rfl, rfl⟩ := Prod.mk.inj heq
    rw [mem_appearance, List.mem_map] at hk'
    exact ⟨hk'.resolve_left List.not_mem_nil, rfl⟩
  · rintro ⟨hx, rfl⟩
    exact ⟨k, mem_appearance.mpr (Or.inr (List.mem_map.mpr hx)), rfl⟩

private theorem flatMap_withKey_perm (hks : ks.Nodup) (xs : List α) :
    (ks.flatMap (fun k => withKey key k xs)).Perm (xs.filter (fun x => key x ∈ ks)) := by
  induction ks with
  | nil => simp
  | cons k rest ih =>
      rw [List.nodup_cons] at hks
      rw [List.flatMap_cons]
      -- the elements of `k` come first, then those of the other keys
      have hsplit := List.filter_append_perm (fun x => decide (key x = k))
        (xs.filter (fun x => key x ∈ k :: rest))
      rw [List.filter_filter, List.filter_filter] at hsplit
      have hhead : xs.filter (fun x => decide (key x = k) && decide (key x ∈ k :: rest))
          = withKey key k xs := by
        refine List.filter_congr (fun x _ => ?_)
        by_cases hx : key x = k
        · simp [hx]
        · simp [hx]
      have htail : xs.filter (fun x => !decide (key x = k) && decide (key x ∈ k :: rest))
          = xs.filter (fun x => key x ∈ rest) := by
        refine List.filter_congr (fun x _ => ?_)
        by_cases hx : key x = k
        · simp [hx, hks.1]
        · simp [hx]
      rw [hhead, htail] at hsplit
      exact ((ih hks.2).append_left _).trans hsplit

/-- A sum over a list is the sum over its groups, for any list of keys that
    covers it. -/
theorem sum_withKey {M : Type} [AddCommMonoid M] (hks : ks.Nodup) (hcover : ∀ x ∈ xs, key x ∈ ks)
    (f : α → M) : (ks.map (fun k => ((withKey key k xs).map f).sum)).sum = (xs.map f).sum := by
  have hperm : (ks.flatMap (fun k => withKey key k xs)).Perm
      (xs.filter (fun x => key x ∈ ks)) := flatMap_withKey_perm hks xs
  have hall : xs.filter (fun x => key x ∈ ks) = xs :=
    List.filter_eq_self.mpr (fun x hx => decide_eq_true (hcover x hx))
  rw [hall] at hperm
  rw [← (hperm.map f).sum_eq, List.map_flatMap, List.flatMap_def, List.sum_flatten,
    List.map_map]
  rfl

/-- The groups together hold the elements of the list. -/
theorem groupBy_flatten_perm (key : α → κ) (xs : List α) :
    ((groupBy key xs).flatMap Prod.snd).Perm xs := by
  have hnodup : (appearance [] (xs.map key)).Nodup := nodup_appearance List.nodup_nil
  have hperm : ((appearance [] (xs.map key)).flatMap (fun k => withKey key k xs)).Perm
      (xs.filter (fun x => key x ∈ appearance [] (xs.map key))) :=
    flatMap_withKey_perm hnodup xs
  have hall : xs.filter (fun x => key x ∈ appearance [] (xs.map key)) = xs := by
    refine List.filter_eq_self.mpr (fun x hx => ?_)
    exact decide_eq_true (mem_appearance.mpr (Or.inr (List.mem_map_of_mem hx)))
  rw [hall] at hperm
  rw [groupBy, List.flatMap_map]
  exact hperm

/-- Elements that were found by different keys are all there are, when there are no more. -/
theorem perm_of_keys {ι : Type} {ys zs : List β} {key : α → ι} {key' : β → ι}
    (h : List.Forall₂ (fun x z => z ∈ ys ∧ key' z = key x) xs zs) (hnodup : (xs.map key).Nodup)
    (hlength : ys.length ≤ xs.length) : zs.Perm ys := by
  have hkeys : zs.map key' = xs.map key := by
    clear hnodup hlength
    induction h with
    | nil => rfl
    | cons hxz _ ih => rw [List.map_cons, List.map_cons, hxz.2, ih]
  have hzs : zs.Nodup := List.Nodup.of_map key' (hkeys ▸ hnodup)
  have hsub : zs ⊆ ys := by
    intro z hz
    obtain ⟨_, _, hmem, _⟩ := exists_left_of_forall₂ h hz
    exact hmem
  exact (hzs.subperm hsub).perm_of_length_le (h.length_eq ▸ hlength)

/-! ## Loops that require unique ids -/

/-- Convert every element, throwing at the first id that was seen before. -/
def mapUniqueM (id : α → κ) (duplicate : ε) (f : α → Except ε β) :
    List κ → List α → Except ε (List β)
  | _, [] => pure []
  | seen, x :: rest => do
      throwIf (id x ∈ seen) duplicate
      let y ← f x
      let ys ← mapUniqueM id duplicate f (id x :: seen) rest
      pure (y :: ys)

theorem mapUniqueM_eq_ok {id : α → κ} {duplicate : ε} {f : α → Except ε β} {ys : List β} :
    mapUniqueM id duplicate f seen xs = .ok ys ↔
      (xs.map id).Nodup ∧ (∀ x ∈ xs, id x ∉ seen) ∧ xs.mapM f = .ok ys := by
  induction xs generalizing seen ys with
  | nil => simp [mapUniqueM]
  | cons x rest ih =>
      rw [mapUniqueM, List.map_cons, List.nodup_cons, List.forall_mem_cons]
      simp only [bind_eq_ok, throwIf_eq_ok, exists_const, pure_eq_ok, List.mapM_cons, ih]
      constructor
      · rintro ⟨hseen, y, hy, zs, ⟨hnodup, hfresh, hzs⟩, rfl⟩
        refine ⟨⟨?_, hnodup⟩, ⟨hseen, ?_⟩, y, hy, zs, hzs, rfl⟩
        · intro hmem
          obtain ⟨z, hz, hzx⟩ := List.mem_map.mp hmem
          exact hfresh z hz (hzx ▸ List.mem_cons_self)
        · exact fun z hz hmem => hfresh z hz (List.mem_cons_of_mem _ hmem)
      · rintro ⟨⟨hx, hnodup⟩, ⟨hseen, hrest⟩, y, hy, zs, hzs, rfl⟩
        refine ⟨hseen, y, hy, zs, ⟨hnodup, ?_, hzs⟩, rfl⟩
        intro z hz hmem
        rcases List.mem_cons.mp hmem with heq | hmem
        · exact hx (List.mem_map.mpr ⟨z, hz, heq⟩)
        · exact hrest z hz hmem

/-- A grouping loop whose elements are resolved on the way. -/
def groupResolvedM (resolve : α → Except ε β) (key : β → κ)
    (step : Option ν → β → Except ε ν) (m : OrderedMap κ ν) (xs : List α) :
    Except ε (OrderedMap κ ν) :=
  xs.foldlM (fun m x => do
    let y ← resolve x
    let value ← step (m.get? (key y)) y
    pure (m.set (key y) value)) m

theorem groupResolvedM_eq_ok {resolve : α → Except ε β} {key : β → κ}
    {step : Option ν → β → Except ε ν} : groupResolvedM resolve key step m xs = .ok m' ↔
      ∃ ys, xs.mapM resolve = .ok ys ∧ groupM key step m ys = .ok m' := by
  induction xs generalizing m with
  | nil =>
      constructor
      · intro h
        exact ⟨[], rfl, h⟩
      · rintro ⟨ys, hys, h⟩
        rw [List.mapM_nil, pure_eq_ok] at hys
        subst hys
        exact h
  | cons x rest ih =>
      rw [groupResolvedM, List.foldlM_cons, bind_eq_ok]
      simp only [List.mapM_cons, bind_eq_ok, pure_eq_ok]
      constructor
      · rintro ⟨m₁, ⟨y, hy, value, hvalue, rfl⟩, hrest⟩
        obtain ⟨ys, hys, hgroup⟩ := ih.mp hrest
        exact ⟨y :: ys, ⟨y, hy, ys, hys, rfl⟩, groupM_cons.mpr ⟨value, hvalue, hgroup⟩⟩
      · rintro ⟨_, ⟨y, hy, ys, hys, rfl⟩, hgroup⟩
        obtain ⟨value, hvalue, hrest⟩ := groupM_cons.mp hgroup
        exact ⟨_, ⟨y, hy, value, hvalue, rfl⟩, ih.mpr ⟨ys, hys, hrest⟩⟩

/-! ## Entries in key order -/

/-- The entries sorted by their integer keys. -/
def sortedEntries (m : OrderedMap Int ν) : List (Int × ν) :=
  m.entries.insertionSort (fun first second => first.1 ≤ second.1)

theorem mem_sortedEntries {m : OrderedMap Int ν} {e : Int × ν} :
    e ∈ m.sortedEntries ↔ m.get? e.1 = some e.2 := by
  rw [sortedEntries, List.mem_insertionSort]
  exact mem_entries

theorem sortedEntries_keys (m : OrderedMap Int ν) :
    m.sortedEntries.map Prod.fst = m.keys.insertionSort (· ≤ ·) := by
  rw [sortedEntries, keys]
  exact List.map_insertionSort _ _ _ _ (fun _ _ _ _ => Iff.rfl)

theorem sortedEntries_mapValues {μ : Type} (f : ν → μ) (m : OrderedMap Int ν) :
    (m.mapValues f).sortedEntries = m.sortedEntries.map (fun e => (e.1, f e.2)) := by
  rw [sortedEntries, sortedEntries, mapValues, List.map_insertionSort
    (fun (e e' : Int × ν) => e.1 ≤ e'.1) (fun (e e' : Int × μ) => e.1 ≤ e'.1)
    (fun e => (e.1, f e.2)) m.entries (fun _ _ _ _ => Iff.rfl)]

end OrderedMap
