import Eky.RecordFileProofs
import Eky.TransitionSystem
import Mathlib.Logic.Relation

/-! # What a record file holds after any history

    A history is a sequence of reads, writes and clearings in which a read follows
    every operation that was interrupted or failed: a write or a clearing starts
    when it is settled what there is.  The three stores go through the same
    phases. -/

namespace RecordFiles

open Program StoredValue

variable {T : Type}

/-- The three stores of records, for one kind of record. -/
def recordStores (codec : RecordCodec T) (formatVersion : T → Nat) (correlationId : T → String)
    (revision : T → Nat) : List (RecordOperations T) :=
  [AcceptedBuildMetadataStore.operations codec formatVersion,
    DirectSetupMigrationRecoveryStore.operations codec correlationId revision,
    InvoicePdfArchiveAtomicJsonFile.operations codec]

/-- `begun record`: the first write of all was interrupted or failed. -/
inductive Phase (T : Type)
  | known (e : Expectation T)
  | begun (record : T)

namespace Phase

/-- The answers that are in line with a phase. -/
def Admits : Phase T → Option T → Prop
  | .known e, answer => e.Admits answer
  | .begun record, answer => answer = none ∨ answer = some record

/-- What is known after a read. -/
def afterRead (phase : Phase T) : Outcome RecordError (Option T) → Phase T
  | .returned answer => .known (.settled answer)
  | .threw _ => phase
  | .stopped => phase

/-- A write of `record` over what was there before. -/
def afterWrite (held : Option T) (record : T) : Outcome RecordError Unit → Phase T
  | .returned () => .known (.settled (some record))
  | .threw _ => interrupted
  | .stopped => interrupted
where
  interrupted : Phase T :=
    match held with
    | none => .begun record
    | some old => .known (.unsettled [old, record] false)

end Phase

/-- A run of `m` throws or stops, and touches nothing. -/
def Refuses (m : RecordProgram Unit) : Prop :=
  ∀ s, wp AnyFate m ⟨fun _ _ => False, fun _ t => t = s, fun t => t = s⟩ s

/-- The text of the record can be read back, or the store refuses it. -/
def Storable (codec : RecordCodec T) (operations : RecordOperations T) (record : T) : Prop :=
  (codec.serialize record).length ≤ operations.maximumBytes ∨ Refuses (operations.write record)

/-- A step of a history: a call, or a crash in it. -/
inductive RecordStep (codec : RecordCodec T) (operations : RecordOperations T) :
    Slots × Phase T → Slots × Phase T → Prop
  | read {s t : Slots} {phase : Phase T} {outcome : Outcome RecordError (Option T)}
      (h : Ends operations.read s outcome t) :
      RecordStep codec operations (s, phase) (t, phase.afterRead outcome)
  | write {s t : Slots} {held : Option T} {record : T} {outcome : Outcome RecordError Unit}
      (hstorable : Storable codec operations record)
      (h : Ends (operations.write record) s outcome t) :
      RecordStep codec operations (s, .known (.settled held))
        (t, Phase.afterWrite held record outcome)
  | clear {s t : Slots} {held : Option T} {outcome : Outcome RecordError Unit}
      (h : Ends operations.clear s outcome t) :
      RecordStep codec operations (s, .known (.settled held))
        (t, .known ((Expectation.settled held).afterClear outcome))

/-- The histories of one store that begin without any file. -/
def recordSystem (codec : RecordCodec T) (operations : RecordOperations T) :
    TransitionSystem (Slots × Phase T) where
  initial state := state = (Slots.empty, .known (.settled none))
  step := RecordStep codec operations

/-- The slots are in line with the phase. -/
def InPhase (codec : RecordCodec T) (maximumBytes : Nat) : Phase T → Slots → Prop
  | .known e, s => e ≠ .unknown ∧ Consistent (Stores codec maximumBytes) e s
  | .begun record, s =>
      s = Slots.empty ∨ (∃ b, Stores codec maximumBytes b record ∧ s = Slots.only b) ∨
        ∃ n, s = ⟨none, some ((codec.serialize record).take n), none⟩

variable {codec : RecordCodec T} {operations : RecordOperations T} {maximumBytes : Nat}
  {s t : Slots} {phase : Phase T}

variable {record : T} {held : Option T}

theorem stores_of_le (h : (codec.serialize record).length ≤ maximumBytes) :
    Stores codec maximumBytes (codec.serialize record) record :=
  ⟨⟨codec.serialize_pos record, h⟩, codec.parse_serialize record⟩

/-! ## One step -/

/-- What is read from the beginnings of a record, is that record. -/
theorem InPhase.admits {answer : Option T} (h : InPhase codec maximumBytes phase s)
    (hrecovered : Recovered (Stores codec maximumBytes) s answer t) : phase.Admits answer := by
  cases phase with
  | known e => exact h.2.admits stores_unique hrecovered
  | begun record =>
      cases answer with
      | none => exact .inl rfl
      | some other =>
          obtain ⟨b, hb, hstores, _⟩ := hrecovered
          refine .inr (congrArg some ?_)
          rcases h with rfl | ⟨c, hc, rfl⟩ | ⟨n, rfl⟩
          · cases hb
          · cases hb
            exact stores_unique _ _ _ hstores hc
          · cases hb
            exact codec.parse_prefix record n other hstores.2

/-- A promoted next file holds the record whose text it is a part of. -/
theorem begun_preserved (h : InPhase codec maximumBytes (.begun record) s)
    (hpreserves : Preserves s t)
    (hnext : ∀ b, s = ⟨none, some b, none⟩ → NextOrPromoted codec maximumBytes b t) :
    InPhase codec maximumBytes (.begun record) t := by
  rcases h with hs | ⟨b, hb, hs⟩ | ⟨n, hs⟩
  · exact .inl (hpreserves.empty hs)
  · exact .inr (.inl ⟨b, hb, hpreserves.only b hs⟩)
  · rcases hnext _ hs with rfl | ⟨rfl, other, hother⟩
    · exact .inr (.inr ⟨n, rfl⟩)
    · have hsame := codec.parse_prefix record n other hother.2
      rw [hsame] at hother
      exact .inr (.inl ⟨_, hother, rfl⟩)

theorem inPhase_read (hkeeps : KeepsRecords codec operations)
    {outcome : Outcome RecordError (Option T)}
    (h : InPhase codec operations.maximumBytes phase s) (hends : Ends operations.read s outcome t) :
    InPhase codec operations.maximumBytes (phase.afterRead outcome) t := by
  have hread := (hkeeps.read s).ends hends
  have hnext : ∀ b, s = ⟨none, some b, none⟩ →
      Post.Holds (⟨fun _ _ => True, fun _ => NextOrPromoted codec operations.maximumBytes b,
        NextOrPromoted codec operations.maximumBytes b⟩ : Post Slots RecordError (Option T))
        outcome t := by
    rintro b rfl
    exact (hkeeps.readNext b).ends hends
  cases outcome with
  | returned answer => exact ⟨nofun, hread.consistent⟩
  | threw _ =>
      cases phase with
      | known e => exact ⟨h.1, h.2.preserved hread⟩
      | begun record => exact begun_preserved h hread hnext
  | stopped =>
      cases phase with
      | known e => exact ⟨h.1, h.2.preserved hread⟩
      | begun record => exact begun_preserved h hread hnext

/-- A record that is refused leaves the old one; one that is not can be read back. -/
theorem inPhase_write (hkeeps : KeepsRecords codec operations) {outcome : Outcome RecordError Unit}
    (hstorable : Storable codec operations record)
    (h : InPhase codec operations.maximumBytes (.known (.settled held)) s)
    (hends : Ends (operations.write record) s outcome t) :
    InPhase codec operations.maximumBytes (Phase.afterWrite held record outcome) t := by
  cases held with
  | none =>
      have hs : s = ⟨none, none, none⟩ := h.2
      rw [hs] at hends
      have hwrite := (hkeeps.write none record).ends hends
      have hbegun : Interrupted none (codec.serialize record) t →
          InPhase codec operations.maximumBytes (.begun record) t := by
        intro hinterrupted
        rcases hstorable with hfits | hrefuses
        · rcases hinterrupted.2 rfl with ht | ht | ht
          · exact .inl ht
          · exact .inr (.inl ⟨_, stores_of_le hfits, ht⟩)
          · exact .inr (.inr ht)
        · have hrefused := (hrefuses _).ends hends
          cases outcome with
          | returned _ => exact hrefused.elim
          | threw _ => exact .inl hrefused
          | stopped => exact .inl hrefused
      cases outcome with
      | returned _ =>
          rcases hstorable with hfits | hrefuses
          · exact ⟨nofun, _, stores_of_le hfits, hwrite⟩
          · exact ((hrefuses _).ends hends).elim
      | threw _ => exact hbegun hwrite
      | stopped => exact hbegun hwrite
  | some old =>
      obtain ⟨_, b, hold, rfl⟩ := h
      have hwrite := (hkeeps.write (some b) record).ends hends
      have hleft : Interrupted (some b) (codec.serialize record) t →
          InPhase codec operations.maximumBytes
            (.known (.unsettled [old, record] false)) t := by
        intro hinterrupted
        refine ⟨nofun, ?_⟩
        rcases hstorable with hfits | hrefuses
        · exact hinterrupted.1.consistent hold (stores_of_le hfits)
        · have hsame : t = Slots.only b := by
            have hrefused := (hrefuses _).ends hends
            cases outcome with
            | returned _ => exact hrefused.elim
            | threw _ => exact hrefused
            | stopped => exact hrefused
          rw [hsame]
          exact .inl (Slots.recoverable_current ⟨old, List.mem_cons_self, hold⟩)
      cases outcome with
      | returned _ =>
          rcases hstorable with hfits | hrefuses
          · exact ⟨nofun, _, stores_of_le hfits, hwrite⟩
          · exact ((hrefuses _).ends hends).elim
      | threw _ => exact hleft hwrite
      | stopped => exact hleft hwrite

theorem inPhase_clear (hkeeps : KeepsRecords codec operations) {outcome : Outcome RecordError Unit}
    (h : InPhase codec operations.maximumBytes (.known (.settled held)) s)
    (hends : Ends operations.clear s outcome t) : InPhase codec operations.maximumBytes
      (.known ((Expectation.settled held).afterClear outcome)) t := by
  cases held with
  | none =>
      have hs : s = ⟨none, none, none⟩ := h.2
      rw [hs] at hends
      have hclear := (hkeeps.clear none).ends hends
      cases outcome with
      | returned _ => exact ⟨nofun, hclear⟩
      | threw _ => exact ⟨nofun, hclear.elim id id⟩
      | stopped => exact ⟨nofun, hclear.elim id id⟩
  | some old =>
      obtain ⟨_, b, hold, rfl⟩ := h
      have hclear := (hkeeps.clear (some b)).ends hends
      have hleft : t = Slots.only b ∨ t = Slots.empty →
          Consistent (Stores codec operations.maximumBytes) (.unsettled [old] true) t := by
        rintro (rfl | ht)
        · exact .inl (Slots.recoverable_current ⟨old, List.mem_cons_self, hold⟩)
        · exact .inr ⟨rfl, ht⟩
      cases outcome with
      | returned _ => exact ⟨nofun, hclear⟩
      | threw _ => exact ⟨nofun, hleft hclear⟩
      | stopped => exact ⟨nofun, hleft hclear⟩

theorem inPhase_of_reachable (hkeeps : KeepsRecords codec operations) {state : Slots × Phase T}
    (h : (recordSystem codec operations).Reachable state) :
    InPhase codec operations.maximumBytes state.2 state.1 := by
  induction h with
  | initial hinitial =>
      rw [show _ = (Slots.empty, Phase.known (.settled none)) from hinitial]
      exact ⟨nofun, rfl⟩
  | step _ hstep ih =>
      cases hstep with
      | read h => exact inPhase_read hkeeps ih h
      | write hstorable h => exact inPhase_write hkeeps hstorable ih h
      | clear h => exact inPhase_clear hkeeps ih h

/-! ## Whole histories -/

theorem keepsRecords_of_mem {formatVersion : T → Nat} {correlationId : T → String}
    {revision : T → Nat}
    (h : operations ∈ recordStores codec formatVersion correlationId revision) :
    KeepsRecords codec operations := by
  rw [recordStores, List.mem_cons, List.mem_cons, List.mem_singleton] at h
  rcases h with rfl | rfl | rfl
  · exact acceptedBuildMetadata_keepsRecords formatVersion
  · exact directSetupMigrationRecovery_keepsRecords correlationId revision
  · exact invoicePdfArchive_keepsRecords

/-- The archive file refuses what it could not read back. -/
theorem archive_storable (record : T) :
    Storable codec (InvoicePdfArchiveAtomicJsonFile.operations codec) record := by
  by_cases hfits : (codec.serialize record).length ≤
      InvoicePdfArchiveAtomicJsonFile.maximumJsonFileBytes
  · exact .inl hfits
  · refine .inr fun s => ?_
    show wp AnyFate (InvoicePdfArchiveAtomicJsonFile.write codec record) _ s
    rw [InvoicePdfArchiveAtomicJsonFile.write, if_pos (Nat.lt_of_not_le hfits)]
    exact wp_bind (wp_throw rfl)

/-- Reads, one after the other, however they end. -/
def Reads (operations : RecordOperations T) : Slots → Slots → Prop :=
  Relation.ReflTransGen fun s t => ∃ outcome, Ends operations.read s outcome t

/-- Reads do not change what is settled. -/
theorem reachable_reads (hkeeps : KeepsRecords codec operations) (hreads : Reads operations s t)
    (h : (recordSystem codec operations).Reachable (s, .known (.settled held))) :
    (recordSystem codec operations).Reachable (t, .known (.settled held)) := by
  induction hreads with
  | refl => exact h
  | tail _ hlast ih =>
      obtain ⟨outcome, hends⟩ := hlast
      have hstep := TransitionSystem.Reachable.step ih (RecordStep.read hends)
      cases outcome with
      | returned answer =>
          have hsame : answer = held :=
            (inPhase_of_reachable hkeeps ih).admits ((hkeeps.read _).ends hends)
          rwa [← hsame]
      | threw _ => exact hstep
      | stopped => exact hstep

/-- **CRASH SAFETY**: after any history,

    - a read that returns answers in line with the phase: with the last committed
      record or that of the interrupted write, never an older one;
    - a read that nothing disturbs returns, unless the first write of all was
      interrupted;
    - and if it was, such a read returns nothing or the record of that write, or it
      finds part of the text in the next file, reports that and leaves it;
    - after a read has returned, every later one returns the same until the next
      write or clearing. -/
theorem record_stores_crash_safe {formatVersion : T → Nat} {correlationId : T → String}
    {revision : T → Nat} {state : Slots × Phase T}
    (hstore : operations ∈ recordStores codec formatVersion correlationId revision)
    (h : (recordSystem codec operations).Reachable state) :
    (∀ answer t, Ends operations.read state.1 (.returned answer) t → state.2.Admits answer) ∧
    ((∀ record, state.2 ≠ .begun record) →
      wp Fate.Quiet operations.read
        ⟨fun answer _ => state.2.Admits answer, fun _ _ => False, fun _ => False⟩ state.1) ∧
    (∀ record, state.2 = .begun record →
      wp Fate.Quiet operations.read
        ⟨fun answer _ => answer = none ∨ answer = some record,
          fun error t => error = .invalid ∧ t = state.1 ∧
            ∃ n, t = ⟨none, some ((codec.serialize record).take n), none⟩,
          fun _ => False⟩ state.1) ∧
    (∀ answer t u, Ends operations.read state.1 (.returned answer) t → Reads operations t u →
      ∀ later v, Ends operations.read u (.returned later) v → later = answer) := by
  obtain ⟨s, phase⟩ := state
  have hkeeps := keepsRecords_of_mem hstore
  have hphase := inPhase_of_reachable hkeeps h
  have hquiet := (hkeeps.read s).and (hkeeps.returns s)
  refine ⟨fun answer t hends => hphase.admits ((hkeeps.read s).ends hends), ?_, ?_, ?_⟩
  · intro hknown
    cases phase with
    | begun record => exact absurd rfl (hknown record)
    | known e =>
        refine hquiet.mono (fun _ _ ht => hphase.admits ht.1) ?_ fun _ ht => ht.2
        rintro error t ⟨_, _, _, b, hb, hunreadable⟩
        exact hunreadable (hphase.2.readable hphase.1 hb)
  · rintro record rfl
    refine hquiet.mono (fun _ _ ht => hphase.admits ht.1) ?_ fun _ ht => ht.2
    rintro error t ⟨_, rfl, rfl, b, hb, hunreadable⟩
    refine ⟨rfl, rfl, ?_⟩
    rcases hphase with rfl | ⟨c, hc, rfl⟩ | hpart
    · cases hb
    · cases hb
      exact absurd ⟨record, hc⟩ hunreadable
    · exact hpart
  · intro answer t u hends hreads later v hlater
    have hsettled := TransitionSystem.Reachable.step h (RecordStep.read hends)
    have hu := reachable_reads hkeeps hreads hsettled
    exact (inPhase_of_reachable hkeeps hu).admits ((hkeeps.read u).ends hlater)

/-- A record of one byte, for runs on fixed inputs. -/
def byteCodec : RecordCodec UInt8 where
  parse
    | [n] => some n
    | [n, 10] => some n
    | _ => none
  serialize n := [n, 10]
  parse_serialize _ := rfl
  parse_prefix n k other h := by
    match k with
    | 0 => cases h
    | 1 => exact (Option.some.inj h).symm
    | k + 2 =>
        rw [List.take_of_length_le (Nat.le_add_left 2 k)] at h
        exact (Option.some.inj h).symm
  serialize_pos _ := Nat.le_add_left 1 1

/-- The process stops after the next file was created and before it was written: in
    each of the three stores the read that follows fails. -/
theorem first_write_stopped :
    (∃ state, (recordSystem byteCodec
        (AcceptedBuildMetadataStore.operations byteCodec fun _ => 2)).Reachable state ∧
      ((AcceptedBuildMetadataStore.operations byteCodec fun _ => 2).read state.1 []).1 =
        .threw .invalid) ∧
    (∃ state, (recordSystem byteCodec (DirectSetupMigrationRecoveryStore.operations byteCodec
        (fun _ => "") fun _ => 1)).Reachable state ∧
      ((DirectSetupMigrationRecoveryStore.operations byteCodec (fun _ => "") fun _ => 1).read
        state.1 []).1 = .threw .invalid) ∧
    (∃ state, (recordSystem byteCodec
        (InvoicePdfArchiveAtomicJsonFile.operations byteCodec)).Reachable state ∧
      ((InvoicePdfArchiveAtomicJsonFile.operations byteCodec).read state.1 []).1 =
        .threw .invalid) := by
  have hstopped : ∀ operations : RecordOperations UInt8, 2 ≤ operations.maximumBytes →
      Ends (operations.write 7) Slots.empty .stopped ⟨none, some [], none⟩ →
      (recordSystem byteCodec operations).Reachable (⟨none, some [], none⟩, .begun 7) := by
    intro operations hfits hwrite
    have hstorable : Storable byteCodec operations 7 := .inl hfits
    exact .step (.initial rfl) (.write hstorable hwrite)
  refine ⟨⟨_, hstopped _ (Nat.le_of_ble_eq_true rfl) ?_, rfl⟩,
    ⟨_, hstopped _ (Nat.le_of_ble_eq_true rfl) ?_, rfl⟩,
    ⟨_, hstopped _ (Nat.le_of_ble_eq_true rfl) ?_, rfl⟩⟩
  · exact ⟨List.replicate 4 default ++ [⟨.crashes, some 0⟩], rfl, rfl⟩
  · exact ⟨List.replicate 5 default ++ [⟨.crashes, some 0⟩], rfl, rfl⟩
  · exact ⟨List.replicate 4 default ++ [⟨.crashes, some 0⟩], rfl, rfl⟩

/-- Between the two renames of a second write, the read returns the first record. -/
theorem crash_safe_second_write :
    wp Fate.Quiet (AcceptedBuildMetadataStore.operations byteCodec (fun _ => 2)).read
      ⟨fun answer _ => (Phase.known (.unsettled [7, 8] false)).Admits answer,
        fun _ _ => False, fun _ => False⟩ ⟨none, some [8, 10], some [7, 10]⟩ :=
  have hfits : ∀ n, Storable byteCodec
      (AcceptedBuildMetadataStore.operations byteCodec (fun _ => 2)) n :=
    fun _ => .inl (Nat.le_of_ble_eq_true rfl)
  have hfirst : Ends ((AcceptedBuildMetadataStore.operations byteCodec (fun _ => 2)).write 7)
      Slots.empty (.returned ()) (Slots.only [7, 10]) := ⟨[], rfl, rfl⟩
  have hsecond : Ends ((AcceptedBuildMetadataStore.operations byteCodec (fun _ => 2)).write 8)
      (Slots.only [7, 10]) .stopped ⟨none, some [8, 10], some [7, 10]⟩ :=
    ⟨List.replicate 8 default ++ [⟨.crashes, some 0⟩], rfl, rfl⟩
  (@record_stores_crash_safe UInt8 byteCodec _ (fun _ => 2) (fun _ => "") (fun _ => 1) _
    List.mem_cons_self (.step (.step (.initial rfl) (.write (hfits 7) hfirst))
      (.write (hfits 8) hsecond))).2.1 nofun

end RecordFiles
