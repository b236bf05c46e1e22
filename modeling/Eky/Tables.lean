import Eky.MapSweep

/-! # Tables — rows under a primary key

    A table is an ordered map from its primary keys to its rows, in the order in which the
    rows were inserted.  A statement that goes over all rows is about `entries`; what an
    insertion, an update and a deletion do to them is said here once.

    - `entries_insert`, `entries_update`: a new row is the last one, a changed row stays in
      its place;
    - `filterMap_update`: what a query over all rows makes of a change;
    - `Evolves`: no row is lost, and each changes in a given way only. -/

namespace OrderedMap

variable {κ ν α : Type} [DecidableEq κ] {m : OrderedMap κ ν} {key other : κ} {row row' : ν}

/-! ## Inserting and updating -/

theorem entries_insert (h : m.get? key = none) :
    (m.set key row).entries = m.entries ++ [(key, row)] :=
  put_of_fresh (get?_eq_none.mp h)

/-- A row that is there is replaced where it stands. -/
theorem put_of_mem {entries : List (κ × ν)} (hnodup : (entries.map Prod.fst).Nodup)
    (h : valueAt key entries ≠ none) :
    put key row entries = entries.map fun e => if e.1 = key then (key, row) else e := by
  induction entries with
  | nil => exact absurd rfl h
  | cons e rest ih =>
      obtain ⟨k, v⟩ := e
      rw [List.map_cons, List.nodup_cons] at hnodup
      by_cases hk : k = key
      · subst hk
        have hrest : rest.map (fun e => if e.1 = k then (k, row) else e) = rest := by
          refine (List.map_congr_left fun e he => ?_).trans (List.map_id rest)
          exact if_neg fun heq => hnodup.1 (List.mem_map.mpr ⟨e, he, heq⟩)
        rw [put, if_pos rfl, List.map_cons, hrest]
        simp
      · rw [valueAt, if_neg hk] at h
        rw [put, if_neg hk, List.map_cons, ih hnodup.2 h]
        simp [hk]

theorem entries_update (h : m.get? key = some row) :
    (m.set key row').entries = m.entries.map fun e => if e.1 = key then (key, row') else e :=
  put_of_mem m.nodupKeys fun hnone => by cases h.symm.trans hnone

/-- The rows after one has been set: that one, and the others as they were. -/
theorem mem_entries_set {e : κ × ν} :
    e ∈ (m.set key row).entries ↔ e = (key, row) ∨ e.1 ≠ key ∧ e ∈ m.entries := by
  obtain ⟨k, v⟩ := e
  rw [mem_entries, get?_set]
  by_cases hk : k = key
  · subst hk
    simp [eq_comm]
  · rw [if_neg hk, ← mem_entries]
    simp [hk]

theorem get?_of_mem {e : κ × ν} (h : e ∈ m.entries) : m.get? e.1 = some e.2 := mem_entries.mp h

theorem mem_of_get? (h : m.get? key = some row) : (key, row) ∈ m.entries := mem_entries.mpr h

/-- A row is the one that was set, or another one that was there. -/
theorem get?_set_cases {row' : ν} (h : (m.set key row).get? other = some row') :
    other = key ∧ row' = row ∨ other ≠ key ∧ m.get? other = some row' := by
  rw [get?_set] at h
  split at h
  · next hk => exact .inl ⟨hk, (Option.some.inj h).symm⟩
  · next hk => exact .inr ⟨hk, h⟩

/-! ## Queries over all rows -/

/-- A query does not notice an update of what it does not read. -/
theorem filterMap_update (f : κ × ν → Option α) (h : m.get? key = some row)
    (hsame : f (key, row') = f (key, row)) :
    (m.set key row').entries.filterMap f = m.entries.filterMap f := by
  rw [entries_update h, List.filterMap_map]
  refine List.filterMap_congr fun e he => ?_
  show f (if e.1 = key then (key, row') else e) = f e
  by_cases hk : e.1 = key
  · have hrow : e.2 = row := by
      have hget := get?_of_mem he
      rw [hk, h] at hget
      exact (Option.some.inj hget).symm
    rw [if_pos hk, hsame, ← hk, ← hrow]
  · rw [if_neg hk]

theorem map_update (f : κ × ν → α) (h : m.get? key = some row)
    (hsame : f (key, row') = f (key, row)) :
    (m.set key row').entries.map f = m.entries.map f := by
  have hfilter := filterMap_update (some ∘ f) h (congrArg some hsame)
  rwa [List.filterMap_eq_map] at hfilter

/-! ## Rows that stay -/

/-- Every row of the first table is in the second one, as `R` lets it change. -/
def Evolves (R : ν → ν → Prop) (m m' : OrderedMap κ ν) : Prop :=
  ∀ key row, m.get? key = some row → ∃ row', m'.get? key = some row' ∧ R row row'

variable {R : ν → ν → Prop} {m' m'' : OrderedMap κ ν}

theorem Evolves.refl (hrefl : ∀ row, R row row) : Evolves R m m :=
  fun _ row h => ⟨row, h, hrefl row⟩

theorem Evolves.trans (htrans : ∀ row row' row'', R row row' → R row' row'' → R row row'')
    (h : Evolves R m m') (h' : Evolves R m' m'') : Evolves R m m'' := by
  intro key row hrow
  obtain ⟨row', hrow', hchange⟩ := h key row hrow
  obtain ⟨row'', hrow'', hchange'⟩ := h' key row' hrow'
  exact ⟨row'', hrow'', htrans row row' row'' hchange hchange'⟩

theorem evolves_insert (hrefl : ∀ row, R row row) (h : m.get? key = none) :
    Evolves R m (m.set key row) := by
  intro other old hold
  have hne : other ≠ key := by
    rintro rfl
    cases h.symm.trans hold
  exact ⟨old, by rw [get?_set_ne hne, hold], hrefl old⟩

theorem evolves_update (hrefl : ∀ row, R row row) (h : m.get? key = some row) (hrow : R row row') :
    Evolves R m (m.set key row') := by
  intro other old hold
  by_cases hk : other = key
  · subst hk
    rw [← Option.some.inj (h.symm.trans hold)]
    exact ⟨row', get?_set_self m other row', hrow⟩
  · exact ⟨old, by rw [get?_set_ne hk, hold], hrefl old⟩

/-- Rows that do not change are found again. -/
theorem Evolves.get? (h : Evolves Eq m m') (hrow : m.get? key = some row) :
    m'.get? key = some row := by
  obtain ⟨row', hrow', rfl⟩ := h key row hrow
  exact hrow'

/-! ## Deleting -/

end OrderedMap
