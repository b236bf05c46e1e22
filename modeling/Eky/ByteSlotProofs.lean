import Eky.ByteSlotStore
import Eky.StoredValue

/-! # What one operation of the byte slot store leaves

    For each operation of the store one rule: what it answers and leaves when it
    returns, and what it leaves when it throws or is stopped at any of its steps.
    `recoverAndRead_returns` is the other direction: a recovery that nothing
    disturbs does return. -/

namespace CrashSafe

open Program StoredValue

variable {ε T : Type} {allowed : Fate → Prop} {s t : Slots}

variable {slot : Slot} {b : Bytes}

/-! ## File operations -/

section Operations

variable {I : Slots → Prop}

theorem set_none_of_absent (h : s.get slot = none) : s.set slot none = s := by
  cases slot <;> cases s <;> simp_all

theorem wp_readSlot {maximumBytes : Nat} {Q : Option Bytes → Slots → Prop}
    (hdefault : allowed default) (hI : I s) (hnone : s.get slot = none → Q none s)
    (hsome : ∀ b, s.get slot = some b → ReadableSize maximumBytes b → Q (some b) s) :
    wp allowed (readSlot maximumBytes slot : SlotProgram ε _) ⟨Q, fun _ => I, I⟩ s := by
  refine wp_attempt hdefault hI fun a t h => ?_
  cases hslot : s.get slot with
  | none =>
      rw [hslot] at h
      cases h
      exact ⟨hI, hnone hslot⟩
  | some b =>
      simp only [hslot] at h
      split at h
      · rename_i hsize
        cases h
        exact ⟨hI, hsome b hslot hsize⟩
      · cases h

theorem wp_createNextWriter {Q : Unit → Slots → Prop} (hdefault : allowed default) (hI : I s)
    (hcreated : I (s.set .next (some []))) (hQ : Q () (s.set .next (some []))) :
    wp allowed (createNextWriter : SlotProgram ε _) ⟨Q, fun _ => I, I⟩ s := by
  refine wp_attempt hdefault hI fun a t h => ?_
  split at h
  · cases h
  · cases h
    exact ⟨hcreated, hQ⟩

theorem wp_writerWrite {bytes : Bytes} {Q : Nat → Slots → Prop} (hdefault : allowed default)
    (hI : ∀ n, I (s.set .next (some (bytes.take n))))
    (hQ : ∀ n, Q (bytes.take n).length (s.set .next (some (bytes.take n)))) :
    wp allowed (writerWrite bytes : SlotProgram ε _) ⟨Q, fun _ => I, I⟩ s :=
  wp_attemptParts hdefault (fun _ => hI _) fun _ _ => hQ _

theorem wp_moveSlot {source destination : Slot} {Q : Unit → Slots → Prop}
    (hdefault : allowed default) (hI : I s)
    (h : ∀ b, s.get source = some b → s.get destination = none →
      I ((s.set destination (some b)).set source none) ∧
        Q () ((s.set destination (some b)).set source none)) :
    wp allowed (moveSlot source destination : SlotProgram ε _) ⟨Q, fun _ => I, I⟩ s := by
  refine wp_attempt hdefault hI fun a t hmove => ?_
  split at hmove
  · cases hmove
  · rename_i hfree
    rw [Bool.or_eq_true, not_or] at hfree
    obtain ⟨b, hb⟩ := Option.ne_none_iff_exists'.mp (by simpa using hfree.1)
    rw [hb] at hmove
    cases hmove
    exact h b hb (by simpa using hfree.2)

theorem wp_removeSlot {Q : Bool → Slots → Prop} (hdefault : allowed default) (hI : I s)
    (hremoved : I (s.set slot none)) (hQ : ∀ b, Q b (s.set slot none)) :
    wp allowed (removeSlot slot : SlotProgram ε _) ⟨Q, fun _ => I, I⟩ s := by
  refine wp_attempt hdefault hI fun a t h => ?_
  split at h
  · rename_i habsent
    cases h
    refine ⟨hI, ?_⟩
    have hsame := set_none_of_absent (by simpa using habsent)
    rw [← hsame]
    exact hQ false
  · cases h
    exact ⟨hremoved, hQ true⟩

end Operations

/-! ## Recovery -/

section Recovery

variable {maximumBytes : Nat} {validateBytes : Bytes → Except ε T}

/-- `b` is read back as `value`. -/
def Stores (maximumBytes : Nat) (validateBytes : Bytes → Except ε T) (b : Bytes) (value : T) :
    Prop :=
  ReadableSize maximumBytes b ∧ validateBytes b = .ok value

theorem stores_unique (b : Bytes) (first second : T)
    (hfirst : Stores maximumBytes validateBytes b first)
    (hsecond : Stores maximumBytes validateBytes b second) : first = second := by
  have h := hfirst.2.symm.trans hsecond.2
  cases h
  rfl

/-- What the inspection answers: nothing, or the value of the first file there is. -/
def Inspected (maximumBytes : Nat) (validateBytes : Bytes → Except ε T) (s : Slots) :
    Option (Slot × T) → Prop
  | none => s = Slots.empty
  | some (.current, value) => ∃ b, s.current = some b ∧ Stores maximumBytes validateBytes b value
  | some (.backup, value) =>
      s.current = none ∧ ∃ b, s.backup = some b ∧ Stores maximumBytes validateBytes b value
  | some (.next, value) =>
      s.current = none ∧ s.backup = none ∧
        ∃ b, s.next = some b ∧ Stores maximumBytes validateBytes b value

theorem wp_validate {I : Slots → Prop} {Q : T → Slots → Prop} (hI : I s)
    (hQ : ∀ value, validateBytes b = .ok value → Q value s) :
    wp allowed (Program.ofExcept ((validateBytes b).mapError StoreError.validation) : SlotProgram ε T)
      ⟨Q, fun _ => I, I⟩ s := by
  refine wp_ofExcept (fun value h => hQ value ?_) fun _ _ => hI
  cases hvalidate : validateBytes b with
  | ok v =>
      rw [hvalidate] at h
      cases h
      rfl
  | error e =>
      rw [hvalidate] at h
      cases h

section

variable (hdefault : allowed default)
include hdefault

theorem wp_inspectSlots_cons {slots : List Slot} {I : Slots → Prop}
    {Q : Option (Slot × T) → Slots → Prop} (hI : I s) (hnone : s.get slot = none →
      wp allowed (inspectSlots maximumBytes validateBytes slots) ⟨Q, fun _ => I, I⟩ s)
    (hsome : ∀ b value, s.get slot = some b → Stores maximumBytes validateBytes b value →
      Q (some (slot, value)) s) :
    wp allowed (inspectSlots maximumBytes validateBytes (slot :: slots)) ⟨Q, fun _ => I, I⟩ s := by
  refine wp_bind (wp_readSlot hdefault hI hnone fun b hb hsize => ?_)
  exact wp_bind (wp_validate hI fun value hvalue => wp_pure (hsome b value hb ⟨hsize, hvalue⟩))

theorem wp_inspect : wp allowed (inspect maximumBytes validateBytes)
      ⟨fun found t => Inspected maximumBytes validateBytes s found ∧ t = s, fun _ t => t = s,
        fun t => t = s⟩ s := by
  refine wp_inspectSlots_cons hdefault rfl (fun hcurrent => ?_)
    (fun b value hb hstores => ⟨⟨b, hb, hstores⟩, rfl⟩)
  refine wp_inspectSlots_cons hdefault rfl (fun hbackup => ?_)
    (fun b value hb hstores => ⟨⟨hcurrent, b, hb, hstores⟩, rfl⟩)
  refine wp_inspectSlots_cons hdefault rfl (fun hnext => wp_pure ⟨?_, rfl⟩)
    (fun b value hb hstores => ⟨⟨hcurrent, hbackup, b, hb, hstores⟩, rfl⟩)
  exact congr (congr (congrArg Slots.mk hcurrent) hnext) hbackup

theorem wp_repair_current (hb : s.current = some b) :
    wp allowed (repair .current : SlotProgram ε Unit)
      ⟨fun _ t => t = Slots.only b, fun _ => Preserves s, Preserves s⟩ s := by
  obtain ⟨current, next, backup⟩ := s
  cases hb
  have hkeep : Preserves ⟨some b, next, backup⟩ ⟨some b, none, none⟩ :=
    preserves_current (fun _ => rfl) fun _ => rfl
  refine wp_bind (wp_removeSlot hdefault (.refl _)
    (preserves_current (fun _ => rfl) fun h => h) fun removedNext => ?_)
  refine wp_bind (wp_removeSlot hdefault (preserves_current (fun _ => rfl) fun h => h) hkeep
    fun removedBackup => ?_)
  split
  · exact wp_attemptNothing hdefault hkeep rfl
  · exact wp_pure rfl

theorem wp_repair_backup (hcurrent : s.current = none) (hb : s.backup = some b) :
    wp allowed (repair .backup : SlotProgram ε Unit)
      ⟨fun _ t => t = Slots.only b, fun _ => Preserves s, Preserves s⟩ s := by
  obtain ⟨current, next, backup⟩ := s
  cases hcurrent
  cases hb
  refine wp_bind (wp_removeSlot hdefault (.refl _) (preserves_backup (Slots.recoverable_backup rfl)) fun _ => ?_)
  refine wp_bind (wp_moveSlot hdefault (preserves_backup (Slots.recoverable_backup rfl)) fun c hc _ => ?_)
  cases hc
  exact ⟨preserves_backup (Slots.recoverable_current rfl),
    wp_attemptNothing hdefault (preserves_backup (Slots.recoverable_current rfl)) rfl⟩

theorem wp_repair_next (hcurrent : s.current = none) (hbackup : s.backup = none)
    (hb : s.next = some b) : wp allowed (repair .next : SlotProgram ε Unit)
      ⟨fun _ t => t = Slots.only b, fun _ => Preserves s, Preserves s⟩ s := by
  obtain ⟨current, next, backup⟩ := s
  cases hcurrent
  cases hbackup
  cases hb
  refine wp_bind (wp_moveSlot hdefault preserves_next fun c hc _ => ?_)
  cases hc
  exact ⟨preserves_next, wp_attemptNothing hdefault preserves_next rfl⟩

/-- **RECOVERY**: it answers with the file it goes by and leaves that one alone,
    and where it is interrupted, nothing recoverable is lost. -/
theorem wp_recoverAndRead : wp allowed (recoverAndRead maximumBytes validateBytes)
      ⟨Recovered (Stores maximumBytes validateBytes) s, fun _ => Preserves s, Preserves s⟩ s := by
  refine wp_bind ((wp_inspect hdefault).mono ?_ (fun _ _ => .of_eq) fun _ => .of_eq)
  rintro found t ⟨hfound, rfl⟩
  match found with
  | none => exact wp_pure ⟨hfound, hfound⟩
  | some (.current, value) =>
      obtain ⟨b, hb, hstores⟩ := hfound
      refine wp_bind ((wp_repair_current hdefault hb).mono (fun _ u hu => wp_pure ?_)
        (fun _ _ hu => hu) fun _ hu => hu)
      exact ⟨b, selected_current hb, hstores, hu⟩
  | some (.backup, value) =>
      obtain ⟨hcurrent, b, hb, hstores⟩ := hfound
      refine wp_bind ((wp_repair_backup hdefault hcurrent hb).mono (fun _ u hu => wp_pure ?_)
        (fun _ _ hu => hu) fun _ hu => hu)
      exact ⟨b, selected_backup hcurrent hb, hstores, hu⟩
  | some (.next, value) =>
      obtain ⟨hcurrent, hbackup, b, hb, hstores⟩ := hfound
      refine wp_bind ((wp_repair_next hdefault hcurrent hbackup hb).mono (fun _ u hu => wp_pure ?_)
        (fun _ _ hu => hu) fun _ hu => hu)
      exact ⟨b, selected_next hcurrent hbackup hb, hstores, hu⟩

end

end Recovery

/-! ## Replacing and clearing -/

section Replace

variable {old : Option Bytes} {new : Bytes}

section

variable (hdefault : allowed default)
include hdefault

theorem wp_writeNext : wp allowed (writeNext new : SlotProgram ε Unit)
      ⟨fun _ t => t = ⟨old, some new, none⟩, fun _ => Left old new, Left old new⟩
      ⟨old, none, none⟩ := by
  refine wp_bind (wp_createNextWriter hdefault left_old left_old ?_)
  refine wp_onError ?_
  -- Whatever the body leaves, closing the writer once more changes nothing.
  have hclose : ∀ e t, Left old new t → wp allowed (ignoreError writerClose : SlotProgram ε Unit)
      ⟨fun _ u => (fun _ : StoreError ε => Left old new) e u, fun _ => Left old new,
        Left old new⟩ t :=
    fun _ _ ht => wp_ignoreError (wp_attemptNothing hdefault ht ht)
  refine wp.mono (?_ : wp allowed _ ⟨fun _ t => t = ⟨old, some new, none⟩,
    fun _ => Left old new, Left old new⟩ _) (fun _ _ ht => ht) hclose fun _ ht => ht
  refine wp_bind (wp_writerWrite hdefault (fun _ => left_old) fun n => ?_)
  by_cases hshort : (new.take n).length ≠ new.length
  · rw [if_pos hshort]
    exact wp_bind (wp_throw left_old)
  · rw [if_neg hshort]
    have hall : new.take n = new := by
      rw [not_ne_iff, List.length_take] at hshort
      exact List.take_of_length_le (by omega)
    rw [hall]
    refine wp_bind (wp_attemptNothing hdefault left_old ?_)
    exact wp_attemptNothing hdefault left_old rfl

theorem wp_restoreBackupBestEffort {t : Slots} (ht : Left old new t)
    (hmoved : ∀ b, t.backup = some b → t.current = none → Left old new ⟨some b, t.next, none⟩) :
    wp allowed (restoreBackupBestEffort : SlotProgram ε Unit)
      ⟨fun _ => Left old new, fun _ => Left old new, Left old new⟩ t := by
  refine wp_ignoreError (wp_bind (wp_moveSlot hdefault ht fun b hb hfree => ?_))
  have hleft := hmoved b hb hfree
  exact ⟨hleft, wp_attemptNothing hdefault hleft hleft⟩

/-- The slots between the two renames, or just after them. -/
theorem wp_publishNext : wp allowed (publishNext old.isSome : SlotProgram ε Bool)
      ⟨fun moved t => moved = old.isSome ∧ t = ⟨some new, none, old⟩, fun _ => Left old new,
        Left old new⟩ ⟨old, some new, none⟩ := by
  cases old with
  | none =>
      refine wp_bind (wp_onError ?_)
      refine wp.mono (wp_moveSlot (Q := fun _ t => t = Slots.only new)
        (I := Left none new) hdefault left_old fun b hb _ => ?_)
        (fun _ _ ht => wp_pure ⟨rfl, ht⟩) (fun _ _ ht => wp_pure ht) fun _ ht => ht
      cases hb
      exact ⟨left_new, rfl⟩
  | some v =>
      refine wp_bind (wp_moveSlot hdefault left_old fun b hb _ => ?_)
      cases hb
      refine ⟨left_aside, wp_bind (wp_onError ?_)⟩
      -- A move that took place and was then reported as failed cannot be undone:
      -- the restoration finds the new value in the way.
      have hrestore : ∀ (e : StoreError ε) t,
          t = ⟨none, some new, some v⟩ ∨ t = ⟨some new, none, some v⟩ →
          wp allowed (restoreBackupBestEffort : SlotProgram ε Unit)
            ⟨fun _ => Left (some v) new, fun _ => Left (some v) new, Left (some v) new⟩ t := by
        rintro e t (rfl | rfl)
        · refine wp_restoreBackupBestEffort hdefault left_aside fun b hb _ => ?_
          cases hb
          exact left_old
        · exact wp_restoreBackupBestEffort hdefault left_new fun b _ hfree => nomatch hfree
      refine wp.mono (wp_moveSlot (Q := fun _ t => t = ⟨some new, none, some v⟩)
        (I := fun t => t = ⟨none, some new, some v⟩ ∨ t = ⟨some new, none, some v⟩) hdefault
        (.inl rfl) fun b hb _ => ?_)
        (fun _ _ ht => wp_pure ⟨rfl, ht⟩) hrestore fun t ht => ?_
      · cases hb
        exact ⟨.inr rfl, rfl⟩
      · rcases ht with rfl | rfl
        · exact left_aside
        · exact left_new

/-- **REPLACEMENT**: if it returns, only the new value is there; however it ends
    otherwise, the old value or the new one is. -/
theorem wp_replace : wp allowed (replace new old.isSome : SlotProgram ε Unit)
      ⟨fun _ t => t = Slots.only new, fun _ => Left old new, Left old new⟩
      ⟨old, none, none⟩ := by
  refine wp_bind (wp_attemptNothing hdefault left_old ?_)
  refine wp_bind (wp_onError ?_)
  have hcleanup : ∀ (e : StoreError ε) t, Left old new t →
      wp allowed (ignoreError (do let _ ← removeSlot .next) : SlotProgram ε Unit)
        ⟨fun _ => Left old new, fun _ => Left old new, Left old new⟩ t :=
    fun _ _ ht => wp_ignoreError (wp_bind (wp_removeSlot hdefault ht ht.removeNext
      fun _ => wp_pure ht.removeNext))
  refine wp.mono (?_ : wp allowed _ ⟨fun moved t => moved = old.isSome ∧
    t = ⟨some new, none, old⟩, fun _ => Left old new, Left old new⟩ _) ?_ hcleanup fun _ ht => ht
  · refine wp_bind ((wp_writeNext hdefault).mono (fun _ t ht => ?_) (fun _ _ ht => ht)
      fun _ ht => ht)
    rw [ht]
    exact wp_publishNext hdefault
  · rintro moved t ⟨rfl, rfl⟩
    refine wp_bind (wp_attemptNothing hdefault left_new ?_)
    cases old with
    | none => exact wp_pure rfl
    | some v =>
        refine wp_bind (wp_removeSlot hdefault left_new left_new fun _ => ?_)
        exact wp_attemptNothing hdefault left_new rfl

theorem wp_clear {I : Slots → Prop} (h : I s) (hnext : I ⟨s.current, none, s.backup⟩)
    (hbackup : I ⟨s.current, none, none⟩) (hcurrent : I Slots.empty) :
    wp allowed (clear : SlotProgram ε Unit) ⟨fun _ t => t = Slots.empty, fun _ => I, I⟩ s := by
  refine wp_bind (wp_removeSlot hdefault h hnext fun _ => ?_)
  refine wp_bind (wp_removeSlot hdefault hnext hbackup fun _ => ?_)
  refine wp_bind (wp_removeSlot hdefault hbackup hcurrent fun _ => ?_)
  exact wp_attemptNothing hdefault hcurrent rfl

/-- **CLEARING**: removed in the order next, backup, current, the recoverable value
    is the last to go. -/
theorem wp_clear_recoverable {A : Bytes → Prop} (h : s.Recoverable A ∨ s = Slots.empty) :
    wp allowed (clear : SlotProgram ε Unit)
      ⟨fun _ t => t = Slots.empty, fun _ t => t.Recoverable A ∨ t = Slots.empty,
        fun t => t.Recoverable A ∨ t = Slots.empty⟩ s := by
  obtain ⟨current, next, backup⟩ := s
  refine wp_clear (I := fun t => t.Recoverable A ∨ t = Slots.empty) hdefault h ?_ ?_ (.inr rfl)
  · rcases h with h | h
    · exact .inl h
    · cases h
      exact .inr rfl
  · rcases h with (⟨b, hb, hcurrent⟩ | ⟨hcurrent, _⟩) | h
    · exact .inl (.inl ⟨b, hb, hcurrent⟩)
    · cases hcurrent
      exact .inr rfl
    · cases h
      exact .inr rfl

end

end Replace

/-! ## Undisturbed recovery -/

section Undisturbed

variable {maximumBytes : Nat} {validateBytes : Bytes → Except ε T}

/-- The post-condition of a run that has to return. -/
abbrev Returns (σ ε α : Type) : Program.Post σ ε α :=
  ⟨fun _ _ => True, fun _ _ => False, fun _ => False⟩

theorem wp_removeSlot_quiet {post : Post Slots (StoreError ε) Bool}
    (h : ∀ b, post.returned b (s.set slot none)) : wp Fate.Quiet (removeSlot slot) post s := by
  cases hslot : s.get slot with
  | none =>
      refine wp_attempt_quiet (a := false) (t := s) ?_ ?_
      · rw [hslot]
        rfl
      · have hremoved := h false
        rwa [set_none_of_absent hslot] at hremoved
  | some b =>
      refine wp_attempt_quiet (a := true) (t := s.set slot none) ?_ (h true)
      rw [hslot]
      rfl

theorem wp_moveSlot_quiet {source destination : Slot} {post : Post Slots (StoreError ε) Unit}
    (hsource : s.get source = some b) (hfree : s.get destination = none)
    (h : post.returned () ((s.set destination (some b)).set source none)) :
    wp Fate.Quiet (moveSlot source destination) post s := by
  refine wp_attempt_quiet ?_ h
  rw [hsource, hfree]
  rfl

theorem wp_inspectSlots_quiet {slots : List Slot}
    {post : Post Slots (StoreError ε) (Option (Slot × T))}
    (hstores : ∀ b, s.get slot = some b → ∃ value, Stores maximumBytes validateBytes b value)
    (hnone : s.get slot = none →
      wp Fate.Quiet (inspectSlots maximumBytes validateBytes slots) post s)
    (hsome : ∀ b value, s.get slot = some b → post.returned (some (slot, value)) s) :
    wp Fate.Quiet (inspectSlots maximumBytes validateBytes (slot :: slots)) post s := by
  cases hslot : s.get slot with
  | none =>
      refine wp_bind (wp_attempt_quiet (a := none) (t := s) ?_ (hnone hslot))
      rw [hslot]
  | some b =>
      obtain ⟨value, hsize, hvalue⟩ := hstores b hslot
      refine wp_bind (wp_attempt_quiet (a := some b) (t := s) ?_ ?_)
      · simp only [hslot, if_pos hsize]
      · refine wp_bind (wp_ofExcept (fun a ha => wp_pure (hsome b a hslot)) fun e he => ?_)
        rw [hvalue] at he
        cases he

/-- The inspection sees the first file there is. -/
theorem wp_inspect_quiet {post : Post Slots (StoreError ε) (Option (Slot × T))}
    (hstores : ∀ b, selected s = some b → ∃ value, Stores maximumBytes validateBytes b value)
    (hnone : post.returned none s)
    (hcurrent : ∀ b value, s.current = some b → post.returned (some (.current, value)) s)
    (hbackup : ∀ b value, s.current = none → s.backup = some b →
      post.returned (some (.backup, value)) s)
    (hnext : ∀ b value, s.current = none → s.backup = none → s.next = some b →
      post.returned (some (.next, value)) s) :
    wp Fate.Quiet (inspect maximumBytes validateBytes) post s := by
  refine wp_inspectSlots_quiet (fun b hb => hstores b (selected_current hb)) (fun habsent => ?_)
    hcurrent
  refine wp_inspectSlots_quiet (fun b hb => hstores b (selected_backup habsent hb))
    (fun habsent' => ?_) (fun b value => hbackup b value habsent)
  exact wp_inspectSlots_quiet (fun b hb => hstores b (selected_next habsent habsent' hb))
    (fun _ => wp_pure hnone) (fun b value => hnext b value habsent habsent')

/-- **PROGRESS**: where the file that a recovery goes by can be read, nothing but a
    new failure keeps the recovery from returning. -/
theorem recoverAndRead_returns
    (hstores : ∀ b, selected s = some b → ∃ value, Stores maximumBytes validateBytes b value) :
    wp Fate.Quiet (recoverAndRead maximumBytes validateBytes)
      (Returns Slots (StoreError ε) (Option T)) s := by
  obtain ⟨current, next, backup⟩ := s
  refine wp_bind (wp_inspect_quiet hstores (wp_pure trivial) ?_ ?_ ?_)
  · rintro b value rfl
    refine wp_bind (wp_bind (wp_removeSlot_quiet fun removedNext => ?_))
    refine wp_bind (wp_removeSlot_quiet fun removedBackup => ?_)
    dsimp only
    split
    · exact wp_attemptNothing_quiet (wp_pure trivial)
    · exact wp_pure (wp_pure trivial)
  · rintro b value rfl rfl
    refine wp_bind (wp_bind (wp_removeSlot_quiet fun _ => ?_))
    refine wp_bind (wp_moveSlot_quiet (b := b) rfl rfl ?_)
    exact wp_attemptNothing_quiet (wp_pure trivial)
  · rintro b value rfl rfl rfl
    refine wp_bind (wp_bind (wp_moveSlot_quiet (b := b) rfl rfl ?_))
    exact wp_attemptNothing_quiet (wp_pure trivial)

end Undisturbed

end CrashSafe
