import Eky.ByteSlotProofs
import Eky.TransitionSystem
import Mathlib.Logic.Relation

/-! # What a byte slot store holds after any history

    Every history of recoveries, replacements and clearings, whatever goes wrong in
    them, leaves slots that are consistent with the expectation that its outcomes
    give rise to. -/

namespace CrashSafe

open Program StoredValue

variable {ε T : Type} {maximumBytes : Nat} {validateBytes : Bytes → Except ε T}

/-- The operations of the store. -/
inductive Operation
  | recoverAndRead
  | replace
  | clear
  deriving DecidableEq

/-- One operation.  A replacement follows an operation that has said what is there,
    and its bytes are such that the store reads them back. -/
inductive StoreStep (maximumBytes : Nat) (validateBytes : Bytes → Except ε T) :
    Operation → Slots × Expectation T → Slots × Expectation T → Prop
  | recoverAndRead {s t : Slots} {e : Expectation T} {outcome : Outcome (StoreError ε) (Option T)}
      (h : Ends (CrashSafe.recoverAndRead maximumBytes validateBytes) s outcome t) :
      StoreStep maximumBytes validateBytes .recoverAndRead (s, e) (t, e.afterRecovery outcome)
  | replace {s t : Slots} {held : Option T} {bytes : Bytes} {value : T}
      {outcome : Outcome (StoreError ε) Unit}
      (hstores : Stores maximumBytes validateBytes bytes value)
      (h : Ends (CrashSafe.replace bytes held.isSome) s outcome t) :
      StoreStep maximumBytes validateBytes .replace (s, .settled held)
        (t, Expectation.afterReplace held value outcome)
  | clear {s t : Slots} {e : Expectation T} {outcome : Outcome (StoreError ε) Unit}
      (h : Ends CrashSafe.clear s outcome t) :
      StoreStep maximumBytes validateBytes .clear (s, e) (t, e.afterClear outcome)

/-- The histories of one store, whatever its files hold at first. -/
def storeSystem (maximumBytes : Nat) (validateBytes : Bytes → Except ε T) :
    TransitionSystem (Slots × Expectation T) where
  initial := fun (_, e) => e = .unknown
  step before after := ∃ operation, StoreStep maximumBytes validateBytes operation before after

variable {s t : Slots} {e : Expectation T}

/-! ## One step -/

theorem consistent_recoverAndRead {outcome : Outcome (StoreError ε) (Option T)}
    (hconsistent : Consistent (Stores maximumBytes validateBytes) e s)
    (h : Ends (recoverAndRead maximumBytes validateBytes) s outcome t) :
    Consistent (Stores maximumBytes validateBytes) (e.afterRecovery outcome) t := by
  have hwp : wp AnyFate (recoverAndRead maximumBytes validateBytes) _ s :=
    wp_recoverAndRead trivial
  have hends := hwp.ends h
  cases outcome with
  | returned answer => exact hends.consistent
  | threw error => exact hconsistent.preserved hends
  | stopped => exact hconsistent.preserved hends

theorem consistent_replace {held : Option T} {bytes : Bytes} {value : T}
    {outcome : Outcome (StoreError ε) Unit}
    (hstores : Stores maximumBytes validateBytes bytes value)
    (hconsistent : Consistent (Stores maximumBytes validateBytes) (.settled held) s)
    (h : Ends (replace bytes held.isSome) s outcome t) :
    Consistent (Stores maximumBytes validateBytes) (Expectation.afterReplace held value outcome) t := by
  cases held with
  | none =>
      have hs : s = ⟨none, none, none⟩ := hconsistent
      rw [hs] at h
      have hwp : wp AnyFate (replace bytes (none : Option Bytes).isSome : SlotProgram ε Unit) _
        ⟨none, none, none⟩ := wp_replace trivial
      have hends := hwp.ends h
      cases outcome with
      | returned _ => exact ⟨bytes, hstores, hends⟩
      | threw _ => trivial
      | stopped => trivial
  | some old =>
      obtain ⟨b, hold, rfl⟩ := hconsistent
      have hwp : wp AnyFate (replace bytes (some b).isSome : SlotProgram ε Unit) _
        ⟨some b, none, none⟩ := wp_replace trivial
      have hends := hwp.ends h
      cases outcome with
      | returned _ => exact ⟨bytes, hstores, hends⟩
      | threw _ => exact hends.consistent hold hstores
      | stopped => exact hends.consistent hold hstores

/-- A removal fits what is expected of the slots. -/
theorem consistent_clear {outcome : Outcome (StoreError ε) Unit}
    (hconsistent : Consistent (Stores maximumBytes validateBytes) e s)
    (h : Ends clear s outcome t) :
    Consistent (Stores maximumBytes validateBytes) (e.afterClear outcome) t := by
  have hends : ∀ A : Bytes → Prop, s.Recoverable A ∨ s = Slots.empty →
      Post.Holds (⟨fun _ t => t = Slots.empty, fun _ t => t.Recoverable A ∨ t = Slots.empty,
        fun t => t.Recoverable A ∨ t = Slots.empty⟩ : Post Slots (StoreError ε) Unit) outcome t :=
    fun A hA => (wp_clear_recoverable trivial hA).ends h
  cases e with
  | unknown =>
      have hwp : wp AnyFate (clear : SlotProgram ε Unit) ⟨_, fun _ _ => True, fun _ => True⟩ s :=
        wp_clear trivial trivial trivial trivial trivial
      cases outcome with
      | returned _ => exact hwp.ends h
      | threw _ => trivial
      | stopped => trivial
  | settled held =>
      cases held with
      | none =>
          have hs : s = Slots.empty := hconsistent
          subst hs
          have hwp : wp AnyFate (clear : SlotProgram ε Unit)
              ⟨_, fun _ t => t = Slots.empty, fun t => t = Slots.empty⟩ Slots.empty :=
            wp_clear trivial rfl rfl rfl rfl
          have hempty := hwp.ends h
          cases outcome with
          | returned _ => exact hempty
          | threw _ => exact hempty
          | stopped => exact hempty
      | some value =>
          obtain ⟨b, hstores, rfl⟩ := hconsistent
          have hleft := hends (· = b) (.inl Slots.recoverable_only)
          have hvalues : ∀ c, c = b →
              ∃ v ∈ [value], Stores maximumBytes validateBytes c v := by
            rintro c rfl
            exact ⟨value, List.mem_cons_self, hstores⟩
          cases outcome with
          | returned _ => exact hleft
          | threw _ => exact consistent_interrupted_clear [value] hvalues hleft
          | stopped => exact consistent_interrupted_clear [value] hvalues hleft
  | unsettled values orNothing =>
      have hleft := hends _ (hconsistent.imp id And.right)
      cases outcome with
      | returned _ => exact hleft
      | threw _ => exact consistent_interrupted_clear values (fun _ h => h) hleft
      | stopped => exact consistent_interrupted_clear values (fun _ h => h) hleft

theorem consistent_step {operation : Operation} {before after : Slots × Expectation T}
    (hconsistent : Consistent (Stores maximumBytes validateBytes) before.2 before.1)
    (h : StoreStep maximumBytes validateBytes operation before after) :
    Consistent (Stores maximumBytes validateBytes) after.2 after.1 := by
  cases h with
  | recoverAndRead h => exact consistent_recoverAndRead hconsistent h
  | replace hstores h => exact consistent_replace hstores hconsistent h
  | clear h => exact consistent_clear hconsistent h

theorem consistent_of_reachable {state : Slots × Expectation T}
    (h : (storeSystem maximumBytes validateBytes).Reachable state) :
    Consistent (Stores maximumBytes validateBytes) state.2 state.1 := by
  induction h with
  | initial hunknown =>
      rw [show _ = Expectation.unknown from hunknown]
      trivial
  | step _ hstep ih =>
      obtain ⟨operation, hstep⟩ := hstep
      exact consistent_step ih hstep

/-! ## Whole histories -/

/-- Recoveries, one after the other, however they end. -/
def Recoveries (maximumBytes : Nat) (validateBytes : Bytes → Except ε T) : Slots → Slots → Prop :=
  Relation.ReflTransGen fun s t =>
    ∃ outcome, Ends (recoverAndRead maximumBytes validateBytes) s outcome t

/-- Recoveries do not change what is settled. -/
theorem reachable_recoveries {held : Option T} (hrecoveries : Recoveries maximumBytes validateBytes s t)
    (h : (storeSystem maximumBytes validateBytes).Reachable (s, .settled held)) :
    (storeSystem maximumBytes validateBytes).Reachable (t, .settled held) := by
  induction hrecoveries with
  | refl => exact h
  | tail _ hlast ih =>
      obtain ⟨outcome, hends⟩ := hlast
      have hstep := TransitionSystem.Reachable.step ih ⟨_, StoreStep.recoverAndRead hends⟩
      cases outcome with
      | returned answer =>
          have hrecovered := ((wp_recoverAndRead trivial :
            wp AnyFate (recoverAndRead maximumBytes validateBytes) _ _)).ends hends
          have hsame : answer = held := (consistent_of_reachable ih).admits stores_unique hrecovered
          rwa [← hsame]
      | threw _ => exact hstep
      | stopped => exact hstep

/-- Only a clearing takes the value away. -/
theorem holdsValue_of_step {operation : Operation} {before after : Slots × Expectation T}
    (hconsistent : Consistent (Stores maximumBytes validateBytes) before.2 before.1)
    (h : StoreStep maximumBytes validateBytes operation before after)
    (hoperation : operation ≠ .clear) (hholds : before.2.HoldsValue) : after.2.HoldsValue := by
  cases h with
  | @recoverAndRead s t e outcome h =>
      cases outcome with
      | returned answer =>
          have hrecovered := ((wp_recoverAndRead trivial :
            wp AnyFate (recoverAndRead maximumBytes validateBytes) _ _)).ends h
          obtain ⟨value, rfl⟩ :=
            Option.isSome_iff_exists.mp ((hconsistent.admits stores_unique hrecovered).isSome hholds)
          trivial
      | threw _ => exact hholds
      | stopped => exact hholds
  | @replace s t held bytes value outcome hstores h =>
      cases held with
      | none => exact hholds.elim
      | some old =>
          cases outcome with
          | returned _ => trivial
          | threw _ => rfl
          | stopped => rfl
  | clear h => exact absurd rfl hoperation

/-- **CRASH SAFETY**: after any history, whatever went wrong in it,

    - a recovery that returns answers in line with the expectation, not with nothing
      if a value is held, and leaves the answer in the current slot and nothing in
      the other two;
    - once something is known of the store, a recovery that nothing disturbs returns;
    - after a recovery has returned, every later one returns the same;
    - after a clearing of a settled value, however it ended, there is that value or
      nothing;
    - a value is held on to by every operation except a clearing. -/
theorem byte_slot_store_crash_safe {state : Slots × Expectation T}
    (h : (storeSystem maximumBytes validateBytes).Reachable state) :
    (∀ answer t, Ends (recoverAndRead maximumBytes validateBytes) state.1 (.returned answer) t →
      state.2.Admits answer ∧ (state.2.HoldsValue → answer.isSome) ∧
        AtMostCurrent t ∧ (answer.isSome ↔ t.current.isSome)) ∧
    (state.2 ≠ .unknown →
      wp Fate.Quiet (recoverAndRead maximumBytes validateBytes)
        ⟨fun answer _ => state.2.Admits answer, fun _ _ => False, fun _ => False⟩ state.1) ∧
    (∀ answer t u, Ends (recoverAndRead maximumBytes validateBytes) state.1 (.returned answer) t →
      Recoveries maximumBytes validateBytes t u → ∀ later v,
      Ends (recoverAndRead maximumBytes validateBytes) u (.returned later) v → later = answer) ∧
    (∀ value outcome t, state.2 = .settled (some value) →
      Ends (clear : SlotProgram ε Unit) state.1 outcome t → ∀ answer u,
      Ends (recoverAndRead maximumBytes validateBytes) t (.returned answer) u →
      answer = none ∨ answer = some value) ∧
    (∀ operation after, StoreStep maximumBytes validateBytes operation state after →
      operation ≠ .clear → state.2.HoldsValue → after.2.HoldsValue) := by
  obtain ⟨s, e⟩ := state
  have hconsistent := consistent_of_reachable h
  have hrecover : ∀ s, wp AnyFate (recoverAndRead maximumBytes validateBytes)
      ⟨Recovered (Stores maximumBytes validateBytes) s, fun _ => Preserves s, Preserves s⟩ s :=
    fun s => wp_recoverAndRead trivial
  refine ⟨?_, ?_, ?_, ?_, fun _ _ hstep => holdsValue_of_step hconsistent hstep⟩
  · intro answer t hends
    have hrecovered : Recovered (Stores maximumBytes validateBytes) s answer t := (hrecover s).ends hends
    have hadmits := hconsistent.admits stores_unique hrecovered
    exact ⟨hadmits, hadmits.isSome, hrecovered.atMostCurrent⟩
  · intro hknown
    refine Program.wp.returns ((hrecover s).mono (fun _ _ => hconsistent.admits stores_unique)
      (fun _ _ h => h) fun _ h => h) ?_
    exact recoverAndRead_returns fun b => hconsistent.readable hknown
  · intro answer t u hends hrecoveries later v hlater
    have hsettled := TransitionSystem.Reachable.step h ⟨_, StoreStep.recoverAndRead hends⟩
    have hu := reachable_recoveries hrecoveries hsettled
    exact (consistent_of_reachable hu).admits stores_unique ((hrecover u).ends hlater)
  · rintro value outcome t hvalue hclear answer u hends
    cases hvalue
    have hcleared := TransitionSystem.Reachable.step h ⟨_, StoreStep.clear hclear⟩
    have hadmits := (consistent_of_reachable hcleared).admits stores_unique ((hrecover t).ends hends)
    cases outcome with
    | returned _ => exact .inl hadmits
    | threw _ =>
        cases answer with
        | none => exact .inl rfl
        | some other => exact .inr (congrArg some (List.mem_singleton.mp hadmits))
    | stopped =>
        cases answer with
        | none => exact .inl rfl
        | some other => exact .inr (congrArg some (List.mem_singleton.mp hadmits))

/-- A value, then a replacement that the process does not survive: it stops between
    the two renames. -/
theorem crash_safe_between_renames :
    wp Fate.Quiet (recoverAndRead 8 (fun b => (.ok b : Except Unit Bytes)))
      ⟨fun answer _ => (Expectation.unsettled [[1], [2]] false).Admits answer,
        fun _ _ => False, fun _ => False⟩ ⟨none, some [2], some [1]⟩ :=
  have hstored : ∀ n : UInt8, Stores 8 (fun b => (.ok b : Except Unit Bytes)) [n] [n] :=
    fun _ => ⟨⟨Nat.le_refl 1, Nat.le_of_ble_eq_true rfl⟩, rfl⟩
  have hfresh : (storeSystem 8 (fun b => (.ok b : Except Unit Bytes))).Reachable
      (Slots.empty, .unknown) := .initial rfl
  have hread : Ends (recoverAndRead 8 (fun b => (.ok b : Except Unit Bytes))) Slots.empty
      (.returned none) Slots.empty := ⟨[], rfl, rfl⟩
  have hfirst : Ends (replace [1] false : SlotProgram Unit Unit) Slots.empty (.returned ())
      (Slots.only [1]) := ⟨[], rfl, rfl⟩
  have hsecond : Ends (replace [2] true : SlotProgram Unit Unit) (Slots.only [1]) .stopped
      ⟨none, some [2], some [1]⟩ :=
    ⟨List.replicate 6 default ++ [⟨.crashes, some 0⟩], rfl, rfl⟩
  (byte_slot_store_crash_safe (.step (.step (.step hfresh ⟨_, .recoverAndRead hread⟩)
    ⟨_, .replace (hstored 1) hfirst⟩) ⟨_, .replace (hstored 2) hsecond⟩)).2.1 nofun

end CrashSafe
