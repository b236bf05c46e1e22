import Eky.OrderedMap

/-! # Sweeping a map — a loop that deletes or changes the entry it stands at

    A loop over the entries of a map may delete the entry it stands at or set it anew, and
    may change other things on its way.  It treats every entry on its own, so what is left
    at a key depends on the entry of that key alone (`sweep_get?`).  The state of the loop is
    any type with a view of the map; the loop may hold more than the map. -/

namespace OrderedMap

variable {κ ν σ : Type} [DecidableEq κ]

/-! ## Deleting an entry -/

/-- The map without a key. -/
def erase (m : OrderedMap κ ν) (key : κ) : OrderedMap κ ν where
  entries := m.entries.filter fun entry => entry.1 ≠ key
  nodupKeys := m.nodupKeys.sublist (List.filter_sublist.map Prod.fst)

theorem valueAt_filter_ne (key other : κ) (entries : List (κ × ν)) :
    valueAt other (entries.filter fun entry => entry.1 ≠ key)
      = if other = key then none else valueAt other entries := by
  induction entries with
  | nil => exact (ite_self none).symm
  | cons entry rest ih =>
      obtain ⟨k, v⟩ := entry
      by_cases hk : k = key
      · subst hk
        have hfirst : ((k, v) :: rest).filter (fun entry => decide (entry.1 ≠ k))
            = rest.filter fun entry => decide (entry.1 ≠ k) :=
          List.filter_cons_of_neg (by simp)
        rw [hfirst, ih]
        split
        · rfl
        next hother => rw [valueAt, if_neg (Ne.symm hother)]
      · have hfirst : ((k, v) :: rest).filter (fun entry => decide (entry.1 ≠ key))
            = (k, v) :: rest.filter fun entry => decide (entry.1 ≠ key) :=
          List.filter_cons_of_pos (by simp [hk])
        rw [hfirst, valueAt, valueAt, ih]
        split
        next hkey => rw [← hkey, if_neg hk]
        · rfl

theorem get?_erase (m : OrderedMap κ ν) (key other : κ) :
    (m.erase key).get? other = if other = key then none else m.get? other :=
  valueAt_filter_ne key other m.entries

@[simp] theorem get?_erase_self (m : OrderedMap κ ν) (key : κ) :
    (m.erase key).get? key = none := by
  rw [get?_erase, if_pos rfl]

theorem get?_erase_ne {m : OrderedMap κ ν} {key other : κ} (h : other ≠ key) :
    (m.erase key).get? other = m.get? other := by
  rw [get?_erase, if_neg h]

/-! ## The loop -/

/-- What a loop over the entries leaves at each key.  `left` is what one round makes of the
    entry it stands at, and a round touches no other key. -/
theorem sweep_entries {view : σ → κ → Option ν} {body : σ → κ × ν → σ} {left : ν → Option ν}
    (hself : ∀ s k v, view s k = some v → view (body s (k, v)) k = left v)
    (hother : ∀ s k v other, other ≠ k → view (body s (k, v)) other = view s other)
    {entries : List (κ × ν)} (hnodup : (entries.map Prod.fst).Nodup) {s : σ}
    (hentries : ∀ k v, (k, v) ∈ entries → view s k = some v) (key : κ) :
    view (entries.foldl body s) key
      = match valueAt key entries with
        | some v => left v
        | none => view s key := by
  induction entries generalizing s with
  | nil => rfl
  | cons entry rest ih =>
      obtain ⟨k, v⟩ := entry
      rw [List.map_cons, List.nodup_cons] at hnodup
      have hrest : ∀ k' v', (k', v') ∈ rest → view (body s (k, v)) k' = some v' := by
        intro k' v' hmem
        have hne : k' ≠ k := by
          rintro rfl
          have hkeys := List.mem_map_of_mem (f := Prod.fst) hmem
          exact hnodup.1 hkeys
        rw [hother s k v k' hne]
        exact hentries k' v' (List.mem_cons_of_mem _ hmem)
      rw [List.foldl_cons, ih hnodup.2 hrest, valueAt]
      by_cases hkey : k = key
      · subst hkey
        have hnone : valueAt k rest = none := valueAt_eq_none.mpr hnodup.1
        rw [hnone, if_pos rfl]
        exact hself s k v (hentries k v List.mem_cons_self)
      · rw [if_neg hkey]
        cases valueAt key rest with
        | some v' => rfl
        | none => exact hother s k v key (Ne.symm hkey)

/-- A sweep over the whole map. -/
theorem sweep_get? {view : σ → OrderedMap κ ν} {body : σ → κ × ν → σ} {left : ν → Option ν}
    (hself : ∀ s k v, (view s).get? k = some v → (view (body s (k, v))).get? k = left v)
    (hother : ∀ s k v other, other ≠ k →
      (view (body s (k, v))).get? other = (view s).get? other) (s : σ) (key : κ) :
    (view ((view s).entries.foldl body s)).get? key = ((view s).get? key).bind left := by
  rw [@sweep_entries κ ν σ _ (fun s => (view s).get?) body left hself hother _
    (view s).nodupKeys s fun k v hmem => mem_entries.mp hmem]
  show (match (view s).get? key with | some v => left v | none => (view s).get? key) = _
  cases (view s).get? key with
  | none => rfl
  | some v => rfl

end OrderedMap
