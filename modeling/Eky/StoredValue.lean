import Eky.FileSlots

/-! # What three slots say about the value they stand for

    `stores b value` says that the bytes `b` are read back as `value`; what that
    means is up to the store.  What the operations of a store answer, says what it
    may hold: an `Expectation` is computed from the outcomes alone, and slots are
    `Consistent` with it or not.

    - `Recovered`: what a recovery that returns answers and leaves;
    - `Preserves`: what a recovery that does not return leaves alone;
    - `Left`: what a replacement that does not return leaves. -/

namespace StoredValue

variable {ε T : Type} {stores : Bytes → T → Prop} {s t : Slots}

/-! ## Recovery -/

/-- The file that a recovery goes by. -/
def selected (s : Slots) : Option Bytes := s.current <|> s.backup <|> s.next

theorem selected_empty : selected Slots.empty = none := rfl

variable {b : Bytes} {answer : Option T}

theorem selected_only : selected (Slots.only b) = some b := rfl

theorem selected_current (h : s.current = some b) : selected s = some b := by
  rw [selected, h]
  rfl

theorem selected_backup (hcurrent : s.current = none) (h : s.backup = some b) :
    selected s = some b := by
  rw [selected, hcurrent, h]
  rfl

theorem selected_next (hcurrent : s.current = none) (hbackup : s.backup = none)
    (h : s.next = some b) : selected s = some b := by
  rw [selected, hcurrent, hbackup, h]
  rfl

theorem selected_of_recoverable {A : Bytes → Prop} (h : s.Recoverable A) :
    ∃ b, A b ∧ selected s = some b := by
  rcases h with ⟨b, hb, hcurrent⟩ | ⟨hcurrent, b, hb, hbackup⟩
  · exact ⟨b, hb, selected_current hcurrent⟩
  · exact ⟨b, hb, selected_backup hcurrent hbackup⟩

/-- What a recovery may answer and leave. -/
def Recovered (stores : Bytes → T → Prop) (s : Slots) : Option T → Slots → Prop
  | none, t => s = Slots.empty ∧ t = Slots.empty
  | some value, t => ∃ b, selected s = some b ∧ stores b value ∧ t = Slots.only b

/-- What a recovery leaves alone, however far it comes. -/
structure Preserves (s t : Slots) : Prop where
  recoverable : ∀ A, s.Recoverable A → t.Recoverable A
  empty : s = Slots.empty → t = Slots.empty
  only : ∀ b, s = Slots.only b → t = Slots.only b

theorem Preserves.refl (s : Slots) : Preserves s s := ⟨fun _ h => h, fun h => h, fun _ h => h⟩

theorem Preserves.of_eq (h : t = s) : Preserves s t := h ▸ .refl s

/-- Removing the leftovers beside the current file. -/
theorem preserves_current {next backup next' backup' : Option Bytes}
    (hnext : next = none → next' = none) (hbackup : backup = none → backup' = none) :
    Preserves ⟨some b, next, backup⟩ ⟨some b, next', backup'⟩ where
  recoverable A h := by
    rcases h with ⟨c, hc, hcurrent⟩ | ⟨hcurrent, _⟩
    · exact .inl ⟨c, hc, hcurrent⟩
    · cases hcurrent
  empty h := by cases h
  only c h := by
    cases h
    rw [hnext rfl, hbackup rfl]
    rfl

/-- The backup may move into place, and its neighbour does not matter. -/
theorem preserves_backup {next : Option Bytes} (ht : t.Recoverable (· = b)) :
    Preserves ⟨none, next, some b⟩ t where
  recoverable A h := by
    rcases h with ⟨c, _, hcurrent⟩ | ⟨_, c, hc, hbackup⟩
    · cases hcurrent
    · cases hbackup
      refine ht.mono ?_
      rintro c rfl
      exact hc
  empty h := by cases h
  only c h := by cases h

theorem preserves_next : Preserves ⟨none, some b, none⟩ t where
  recoverable A h := by
    rcases h with ⟨c, _, hcurrent⟩ | ⟨_, c, _, hbackup⟩
    · cases hcurrent
    · cases hbackup
  empty h := by cases h
  only c h := by cases h

/-- Only the current slot, if anything. -/
def AtMostCurrent (s : Slots) : Prop := s.next = none ∧ s.backup = none

theorem Recovered.atMostCurrent (h : Recovered stores s answer t) :
    AtMostCurrent t ∧ (answer.isSome ↔ t.current.isSome) := by
  cases answer with
  | none =>
      obtain ⟨_, rfl⟩ := h
      exact ⟨⟨rfl, rfl⟩, by simp [Slots.empty]⟩
  | some value =>
      obtain ⟨b, _, _, rfl⟩ := h
      exact ⟨⟨rfl, rfl⟩, by simp [Slots.only]⟩

/-! ## Replacement -/

/-- What a replacement leaves when it is interrupted or fails: the old value, if
    there was one, or the new one. -/
def Left (old : Option Bytes) (new : Bytes) (t : Slots) : Prop :=
  ∀ b, old = some b → t.Recoverable fun c => c = b ∨ c = new

section Left

variable {old : Option Bytes} {new : Bytes} {next backup : Option Bytes}

theorem left_old : Left old new ⟨old, next, backup⟩ := by
  rintro b rfl
  exact Slots.recoverable_current (.inl rfl)

theorem left_aside : Left old new ⟨none, next, old⟩ := by
  rintro b rfl
  exact Slots.recoverable_backup (.inl rfl)

theorem left_new : Left old new ⟨some new, next, backup⟩ :=
  fun _ _ => Slots.recoverable_current (.inr rfl)

/-- The next file is no part of what is left. -/
theorem Left.removeNext (h : Left old new t) : Left old new (t.set .next none) :=
  fun b hb => h b hb

end Left

/-! ## Expectations -/

/-- What may be read from a store.

    - `unknown`: no value was ever committed;
    - `settled held`: the last operation to return has read or left exactly this;
    - `unsettled values orNothing`: an operation that was interrupted or failed has
      left one of the values, or nothing at all if that is admitted. -/
inductive Expectation (T : Type)
  | unknown
  | settled (held : Option T)
  | unsettled (values : List T) (orNothing : Bool)

namespace Expectation

/-- The answers that are in line with an expectation. -/
def Admits : Expectation T → Option T → Prop
  | .unknown, _ => True
  | .settled held, answer => answer = held
  | .unsettled _ orNothing, none => orNothing = true
  | .unsettled values _, some value => value ∈ values

/-- What a recovery has answered, is what there is from then on. -/
def afterRecovery (e : Expectation T) : Outcome ε (Option T) → Expectation T
  | .returned answer => .settled answer
  | .threw _ => e
  | .stopped => e

/-- A replacement of what there was before by `value`. -/
def afterReplace (held : Option T) (value : T) : Outcome ε Unit → Expectation T
  | .returned () => .settled (some value)
  | .threw _ => interrupted
  | .stopped => interrupted
where
  interrupted : Expectation T :=
    match held with
    | none => .unknown
    | some old => .unsettled [old, value] false

/-- What is known after a clearing. -/
def afterClear (e : Expectation T) : Outcome ε Unit → Expectation T
  | .returned () => .settled none
  | .threw _ => interrupted
  | .stopped => interrupted
where
  interrupted : Expectation T :=
    match e with
    | .unknown => .unknown
    | .settled none => .settled none
    | .settled (some value) => .unsettled [value] true
    | .unsettled values _ => .unsettled values true

/-- A value was committed, and no clearing was begun since. -/
def HoldsValue : Expectation T → Prop
  | .settled (some _) => True
  | .unsettled _ orNothing => orNothing = false
  | _ => False

theorem Admits.isSome {e : Expectation T} (h : e.Admits answer) (hholds : e.HoldsValue) :
    answer.isSome := by
  cases answer with
  | some value => rfl
  | none =>
      match e, h, hholds with
      | .unsettled values orNothing, h, hholds => cases h.symm.trans hholds

end Expectation

/-- The slots are in line with the expectation. -/
def Consistent (stores : Bytes → T → Prop) : Expectation T → Slots → Prop
  | .unknown, _ => True
  | .settled none, s => s = Slots.empty
  | .settled (some value), s => ∃ b, stores b value ∧ s = Slots.only b
  | .unsettled values orNothing, s =>
      (s.Recoverable fun b => ∃ value ∈ values, stores b value) ∨
        (orNothing = true ∧ s = Slots.empty)

section Consistent

variable {e : Expectation T}

/-- An answer comes from the file that the recovery goes by, and that one is admitted. -/
theorem Consistent.admits (hunique : ∀ b v w, stores b v → stores b w → v = w)
    (h : Consistent stores e s) (hrecovered : Recovered stores s answer t) : e.Admits answer := by
  cases e with
  | unknown => trivial
  | settled held =>
      cases held with
      | none =>
          cases answer with
          | none => rfl
          | some value =>
              obtain ⟨b, hb, _⟩ := hrecovered
              rw [show s = Slots.empty from h, selected_empty] at hb
              cases hb
      | some value =>
          obtain ⟨b, hstores, rfl⟩ := h
          cases answer with
          | none => cases hrecovered.1
          | some other =>
              obtain ⟨c, hc, hother, _⟩ := hrecovered
              rw [selected_only] at hc
              cases hc
              exact congrArg some (hunique _ _ _ hother hstores)
  | unsettled values orNothing =>
      cases answer with
      | none =>
          rcases h with h | h
          · obtain ⟨b, _, hb⟩ := selected_of_recoverable h
            rw [hrecovered.1, selected_empty] at hb
            cases hb
          · exact h.1
      | some other =>
          obtain ⟨c, hc, hother, _⟩ := hrecovered
          rcases h with h | h
          · obtain ⟨b, ⟨value, hvalue, hstores⟩, hb⟩ := selected_of_recoverable h
            rw [hb] at hc
            cases hc
            rwa [show other = value from hunique _ _ _ hother hstores]
          · rw [h.2, selected_empty] at hc
            cases hc

/-- Once something is known, the file that a recovery goes by can be read. -/
theorem Consistent.readable (h : Consistent stores e s) (hknown : e ≠ .unknown)
    (hb : selected s = some b) : ∃ value, stores b value := by
  cases e with
  | unknown => exact absurd rfl hknown
  | settled held =>
      cases held with
      | none =>
          rw [show s = Slots.empty from h, selected_empty] at hb
          cases hb
      | some value =>
          obtain ⟨c, hstores, rfl⟩ := h
          cases hb
          exact ⟨value, hstores⟩
  | unsettled values orNothing =>
      rcases h with h | h
      · obtain ⟨c, ⟨value, _, hstores⟩, hc⟩ := selected_of_recoverable h
        rw [hc] at hb
        cases hb
        exact ⟨value, hstores⟩
      · rw [h.2, selected_empty] at hb
        cases hb

theorem Consistent.preserved (h : Consistent stores e s) (hpreserves : Preserves s t) :
    Consistent stores e t := by
  cases e with
  | unknown => trivial
  | settled held =>
      cases held with
      | none => exact hpreserves.empty h
      | some value =>
          obtain ⟨b, hstores, hs⟩ := h
          exact ⟨b, hstores, hpreserves.only b hs⟩
  | unsettled values orNothing =>
      rcases h with h | h
      · exact .inl (hpreserves.recoverable _ h)
      · exact .inr ⟨h.1, hpreserves.empty h.2⟩

theorem Recovered.consistent (h : Recovered stores s answer t) :
    Consistent stores (.settled answer) t := by
  cases answer with
  | none => exact h.2
  | some value =>
      obtain ⟨b, _, hstores, ht⟩ := h
      exact ⟨b, hstores, ht⟩

/-- The old bytes and the new ones are read back as the old value and the new one. -/
theorem Left.consistent {new : Bytes} {old value : T} (h : Left (some b) new t)
    (hold : stores b old) (hnew : stores new value) :
    Consistent stores (.unsettled [old, value] false) t := by
  refine .inl ((h b rfl).mono ?_)
  rintro c (rfl | rfl)
  · exact ⟨old, List.mem_cons_self, hold⟩
  · exact ⟨value, List.mem_cons_of_mem _ List.mem_cons_self, hnew⟩

/-- An interrupted clearing has left what was recoverable, or nothing. -/
theorem consistent_interrupted_clear {A : Bytes → Prop} (values : List T)
    (hvalues : ∀ b, A b → ∃ value ∈ values, stores b value)
    (h : t.Recoverable A ∨ t = Slots.empty) :
    Consistent stores (.unsettled values true) t := by
  rcases h with h | h
  · exact .inl (h.mono hvalues)
  · exact .inr ⟨rfl, h⟩

end Consistent

end StoredValue
