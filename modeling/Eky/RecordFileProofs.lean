import Eky.RecordFiles

/-! # What one operation on a record file leaves

    For each operation one rule, as for the byte slot store: what it answers and
    leaves when it returns, and what it leaves when it throws or is stopped.  The
    four stores differ in the order of their steps, not in these rules. -/

namespace RecordFiles

open Program StoredValue

variable {T : Type} {allowed : Fate → Prop} {s t : Slots}

variable {b : Bytes} {slot : Slot} {Q : Unit → Slots → Prop}

/-! ## File operations -/

section Operations

variable {I : Slots → Prop}

/-- `b` is read back as `record`. -/
def Stores (codec : RecordCodec T) (maximumBytes : Nat) (b : Bytes) (record : T) : Prop :=
  ReadableSize maximumBytes b ∧ codec.parse b = some record

theorem stores_unique {codec : RecordCodec T} {maximumBytes : Nat} (b : Bytes) (first second : T)
    (hfirst : Stores codec maximumBytes b first) (hsecond : Stores codec maximumBytes b second) :
    first = second :=
  Option.some.inj (hfirst.2.symm.trans hsecond.2)

section

variable (hdefault : allowed default)
include hdefault

theorem wp_readRecord {codec : RecordCodec T} {maximumBytes : Nat} {Q : Option T → Slots → Prop}
    (hI : I s) (hnone : s.get slot = none → Q none s)
    (hsome : ∀ b record, s.get slot = some b → Stores codec maximumBytes b record →
      Q (some record) s) :
    wp allowed (readRecord codec maximumBytes slot) ⟨Q, fun _ => I, I⟩ s := by
  refine wp_attempt hdefault hI fun a t h => ?_
  cases hslot : s.get slot with
  | none =>
      rw [hslot] at h
      cases h
      exact ⟨hI, hnone hslot⟩
  | some b =>
      simp only [hslot] at h
      split at h
      · rename_i hsize
        cases hparse : codec.parse b with
        | none =>
            rw [hparse] at h
            cases h
        | some record =>
            rw [hparse] at h
            cases h
            exact ⟨hI, hsome b record hslot ⟨hsize, hparse⟩⟩
      · cases h

theorem wp_housekeeping (hI : I s) (hQ : Q () s) : wp allowed housekeeping ⟨Q, fun _ => I, I⟩ s :=
  wp_attemptNothing hdefault hI hQ

theorem wp_rename {source destination : Slot} (hI : I s)
    (h : ∀ b, s.get source = some b → I ((s.set destination (some b)).set source none) ∧
      Q () ((s.set destination (some b)).set source none)) :
    wp allowed (rename source destination) ⟨Q, fun _ => I, I⟩ s := by
  refine wp_attempt hdefault hI fun a t hrename => ?_
  cases hsource : s.get source with
  | none =>
      rw [hsource] at hrename
      cases hrename
  | some b =>
      rw [hsource] at hrename
      cases hrename
      exact h b hsource

theorem wp_rm (hI : I s) (hremoved : I (s.set slot none)) (hQ : Q () (s.set slot none)) :
    wp allowed (rm slot) ⟨Q, fun _ => I, I⟩ s :=
  wp_attempt hdefault hI fun _ _ h => by
    cases h
    exact ⟨hremoved, hQ⟩

theorem wp_openNext (hI : I s) (hcreated : I (s.set .next (some [])))
    (hQ : Q () (s.set .next (some []))) : wp allowed openNext ⟨Q, fun _ => I, I⟩ s := by
  refine wp_attempt hdefault hI fun a t h => ?_
  split at h
  · cases h
  · cases h
    exact ⟨hcreated, hQ⟩

theorem wp_writeFile {content : Bytes} (hI : ∀ n, I (s.set .next (some (content.take n))))
    (hQ : Q () (s.set .next (some content))) :
    wp allowed (writeFile content) ⟨Q, fun _ => I, I⟩ s := by
  refine wp_attemptParts hdefault (fun fate => ?_) fun fate hcompletes => ?_
  · cases hending : fate.ending with
    | completes =>
        have hall := hI content.length
        rwa [List.take_length] at hall
    | fails => exact hI _
    | crashes => exact hI _
  · rw [hcompletes]
    exact hQ

/-- Setting the current file aside fails only for a reason other than its absence. -/
theorem wp_setAside {Q : Bool → Slots → Prop} (hI : I s) (hnone : s.current = none → Q false s)
    (hsome : ∀ b, s.current = some b →
      I ⟨none, s.next, some b⟩ ∧ Q true ⟨none, s.next, some b⟩) :
    wp allowed setAside ⟨Q, fun _ => I, I⟩ s := by
  refine wp_tryCatch (wp_bind (wp_attempt_errors hdefault hI (fun refusal h => ?_)
    fun a t h => ?_))
  · cases hcurrent : s.current with
    | none =>
        rw [show s.get .current = none from hcurrent] at h
        cases h
        exact wp_pure (hnone hcurrent)
    | some b =>
        rw [show s.get .current = some b from hcurrent] at h
        cases h
  · cases hcurrent : s.current with
    | none =>
        rw [show s.get .current = none from hcurrent] at h
        cases h
    | some b =>
        rw [show s.get .current = some b from hcurrent] at h
        cases h
        obtain ⟨hkept, hmoved⟩ := hsome b hcurrent
        exact ⟨wp_throw hI, wp_throw hkept, hkept, wp_pure hmoved⟩

end

/-- All removals are carried out, in part if some fail or the process stops. -/
theorem wp_allSettled_rm (slots : List Slot) {Q : Bool → Slots → Prop}
    (hdefault : allowed default) (hI : I s)
    (hkeep : ∀ t slot, slot ∈ slots → I t → I (t.set slot none))
    (hQ : Q true (slots.foldl (fun t slot => t.set slot none) s))
    (hfalse : ∀ t, I t → Q false t) :
    wp allowed (allSettled (slots.map rm)) ⟨Q, fun _ => I, I⟩ s := by
  induction slots generalizing s Q with
  | nil => exact wp_pure hQ
  | cons slot slots ih =>
      have hkept : ∀ t other, other ∈ slots → I t → I (t.set other none) :=
        fun t other hmem => hkeep t other (List.mem_cons_of_mem _ hmem)
      have hrest : ∀ (Q' : Bool → Slots → Prop) t, I t → (∀ b u, I u → Q' b u) →
          wp allowed (allSettled (slots.map rm)) ⟨Q', fun _ => I, I⟩ t :=
        fun Q' t ht hQ' => wp.mono (ih (Q := fun _ u => I u) ht hkept
          (List.foldlRecOn slots _ ht fun u hu other hmem => hkept u other hmem hu)
          fun _ hu => hu) (fun b u => hQ' b u) (fun _ _ hu => hu) fun _ hu => hu
      have hremoved := hkeep s slot List.mem_cons_self hI
      refine wp_settledWith (wp_attempt_errors hdefault ?_ ?_ ?_)
      · exact wp.mono (hrest (fun _ => I) s hI fun _ _ hu => hu) (fun _ _ hu => hu)
          (fun _ _ hu => hu) fun _ hu => hu
      · intro refusal h
        cases h
      · rintro a t h
        cases h
        refine ⟨hrest _ s hI fun _ => hfalse, hrest _ _ hremoved fun _ => hfalse, ?_, ?_⟩
        · exact wp.mono (hrest (fun _ => I) _ hremoved fun _ _ hu => hu) (fun _ _ hu => hu)
            (fun _ _ hu => hu) fun _ hu => hu
        · exact ih hremoved hkept hQ hfalse

end Operations

/-! ## Reading -/

section Reading

variable {codec : RecordCodec T} {maximumBytes : Nat}

/-- Whatever is kept by removing leftovers, is kept by removing some of them. -/
theorem wp_removeRecoverySlots_keep {I : Slots → Prop} (hdefault : allowed default) (hI : I s)
    (hkeep : ∀ t slot, slot ≠ .current → I t → I (t.set slot none)) :
    wp allowed removeRecoverySlots
      ⟨fun _ t => t = ⟨s.current, none, none⟩, fun _ => I, I⟩ s := by
  have hsettled : wp allowed (allSettled [rm .next, rm .backup])
      ⟨fun settled t => (settled = true → t = ⟨s.current, none, none⟩) ∧ I t,
        fun _ => I, I⟩ s := by
    have hboth := hkeep _ .backup nofun (hkeep s .next nofun hI)
    refine wp_allSettled_rm [.next, .backup] hdefault hI (fun t slot hslot => hkeep t slot ?_)
      ⟨fun _ => rfl, hboth⟩ fun t ht => ⟨nofun, ht⟩
    rcases List.mem_cons.mp hslot with rfl | hslot
    · nofun
    · cases List.mem_singleton.mp hslot
      nofun
  refine wp_bind (hsettled.mono ?_ (fun _ _ ht => ht) fun _ ht => ht)
  rintro settled t ⟨honly, hkept⟩
  cases settled with
  | true => exact wp_pure (honly rfl)
  | false => exact wp_throw hkept

theorem wp_removeRecoverySlots (hdefault : allowed default) (hb : s.current = some b) :
    wp allowed removeRecoverySlots
      ⟨fun _ t => t = Slots.only b, fun _ => Preserves s, Preserves s⟩ s := by
  obtain ⟨current, next, backup⟩ := s
  cases hb
  -- Whatever was removed so far, the current file is still there.
  refine (wp_removeRecoverySlots_keep (I := fun t => t.current = some b ∧
    (next = none → t.next = none) ∧ (backup = none → t.backup = none))
    hdefault ⟨rfl, id, id⟩ ?_).mono (fun _ _ ht => ht) ?_ ?_
  · rintro t slot hslot ⟨hcurrent, hnext, hbackup⟩
    cases slot with
    | current => exact absurd rfl hslot
    | next => exact ⟨hcurrent, fun _ => rfl, hbackup⟩
    | backup => exact ⟨hcurrent, hnext, fun _ => rfl⟩
  · rintro _ ⟨_, next', backup'⟩ ⟨rfl, hnext, hbackup⟩
    exact preserves_current hnext hbackup
  · rintro ⟨_, next', backup'⟩ ⟨rfl, hnext, hbackup⟩
    exact preserves_current hnext hbackup

theorem wp_readStored (hdefault : allowed default) :
    wp allowed (readStored codec maximumBytes)
      ⟨Recovered (Stores codec maximumBytes) s, fun _ => Preserves s, Preserves s⟩ s := by
  obtain ⟨current, next, backup⟩ := s
  refine wp_bind (wp_readRecord hdefault (.refl _) (fun hcurrent => ?_) fun b record hb hstores => ?_)
  · cases hcurrent
    refine wp_bind (wp_readRecord hdefault (.refl _) (fun hbackup => ?_)
      fun b record hb hstores => ?_)
    · cases hbackup
      refine wp_bind (wp_readRecord hdefault (.refl _) (fun hnext => ?_)
        fun b record hb hstores => ?_)
      · cases hnext
        exact wp_pure ⟨rfl, rfl⟩
      · cases hb
        refine wp_bind (wp_rename hdefault (.refl _) fun c hc => ?_)
        cases hc
        refine ⟨preserves_next, wp_bind (wp_housekeeping hdefault preserves_next (wp_pure ?_))⟩
        exact ⟨b, rfl, hstores, rfl⟩
    · cases hb
      have hinPlace : ∀ next', (⟨some b, next', none⟩ : Slots).Recoverable (· = b) :=
        fun _ => Slots.recoverable_current rfl
      refine wp_bind (wp_rename hdefault (.refl _) fun c hc => ?_)
      cases hc
      refine ⟨preserves_backup (hinPlace _), wp_bind (wp_rm hdefault
        (preserves_backup (hinPlace _)) (preserves_backup (hinPlace _)) ?_)⟩
      refine wp_bind (wp_housekeeping hdefault (preserves_backup (hinPlace _)) (wp_pure ?_))
      exact ⟨b, rfl, hstores, rfl⟩
  · cases hb
    refine wp_bind ((wp_removeRecoverySlots hdefault rfl).mono (fun _ t ht => wp_pure ?_)
      (fun _ _ ht => ht) fun _ ht => ht)
    exact ⟨b, rfl, hstores, ht⟩

/-- The archive removes and restores in a different order. -/
theorem wp_archive_read (hdefault : allowed default) :
    wp allowed (InvoicePdfArchiveAtomicJsonFile.read codec)
      ⟨Recovered (Stores codec InvoicePdfArchiveAtomicJsonFile.maximumJsonFileBytes) s,
        fun _ => Preserves s, Preserves s⟩ s := by
  obtain ⟨current, next, backup⟩ := s
  refine wp_bind (wp_readRecord hdefault (.refl _) (fun hcurrent => ?_) fun b record hb hstores => ?_)
  · cases hcurrent
    refine wp_bind (wp_readRecord hdefault (.refl _) (fun hbackup => ?_)
      fun b record hb hstores => ?_)
    · cases hbackup
      refine wp_bind (wp_readRecord hdefault (.refl _) (fun hnext => ?_)
        fun b record hb hstores => ?_)
      · cases hnext
        exact wp_pure ⟨rfl, rfl⟩
      · cases hb
        refine wp_bind (wp_mapError (wp_rename hdefault (.refl _) fun c hc => ?_))
        cases hc
        exact ⟨preserves_next, wp_pure ⟨b, rfl, hstores, rfl⟩⟩
    · cases hb
      have hinPlace : ∀ next', (⟨some b, next', none⟩ : Slots).Recoverable (· = b) :=
        fun _ => Slots.recoverable_current rfl
      refine wp_bind (wp_mapError (wp_rename hdefault (.refl _) fun c hc => ?_))
      cases hc
      refine ⟨preserves_backup (hinPlace _), wp_bind (wp_mapError (wp_rm hdefault
        (preserves_backup (hinPlace _)) (preserves_backup (hinPlace _)) (wp_pure ?_)))⟩
      exact ⟨b, rfl, hstores, rfl⟩
  · cases hb
    refine wp_bind (wp_mapError (wp_rm hdefault (.refl _)
      (preserves_current (fun _ => rfl) fun h => h) ?_))
    refine wp_bind (wp_mapError (wp_rm hdefault (preserves_current (fun _ => rfl) fun h => h)
      (preserves_current (fun _ => rfl) fun _ => rfl) (wp_pure ?_)))
    exact ⟨b, rfl, hstores, rfl⟩

/-- With nothing but a next file, a read that does not return has promoted it only if
    it can be read. -/
def NextOrPromoted (codec : RecordCodec T) (maximumBytes : Nat) (b : Bytes) (t : Slots) : Prop :=
  t = ⟨none, some b, none⟩ ∨ (t = Slots.only b ∧ ∃ record, Stores codec maximumBytes b record)

theorem wp_readStored_next (hdefault : allowed default) : wp allowed (readStored codec maximumBytes)
      ⟨fun _ _ => True, fun _ => NextOrPromoted codec maximumBytes b,
        NextOrPromoted codec maximumBytes b⟩ ⟨none, some b, none⟩ := by
  refine wp_bind (wp_readRecord hdefault (.inl rfl) (fun _ => ?_) fun _ _ hb => nomatch hb)
  refine wp_bind (wp_readRecord hdefault (.inl rfl) (fun _ => ?_) fun _ _ hb => nomatch hb)
  refine wp_bind (wp_readRecord hdefault (.inl rfl) (fun _ => wp_pure trivial)
    fun c record hc hstores => ?_)
  cases hc
  refine wp_bind (wp_rename hdefault (.inl rfl) fun c hc => ?_)
  cases hc
  exact ⟨.inr ⟨rfl, record, hstores⟩,
    wp_bind (wp_housekeeping hdefault (.inr ⟨rfl, record, hstores⟩) (wp_pure trivial))⟩

theorem wp_archive_read_next (hdefault : allowed default) :
    wp allowed (InvoicePdfArchiveAtomicJsonFile.read codec)
      ⟨fun _ _ => True,
        fun _ => NextOrPromoted codec InvoicePdfArchiveAtomicJsonFile.maximumJsonFileBytes b,
        NextOrPromoted codec InvoicePdfArchiveAtomicJsonFile.maximumJsonFileBytes b⟩
      ⟨none, some b, none⟩ := by
  refine wp_bind (wp_readRecord hdefault (.inl rfl) (fun _ => ?_) fun _ _ hb => nomatch hb)
  refine wp_bind (wp_readRecord hdefault (.inl rfl) (fun _ => ?_) fun _ _ hb => nomatch hb)
  refine wp_bind (wp_readRecord hdefault (.inl rfl) (fun _ => wp_pure trivial)
    fun c record hc hstores => ?_)
  cases hc
  refine wp_bind (wp_mapError (wp_rename hdefault (.inl rfl) fun c hc => ?_))
  cases hc
  exact ⟨.inr ⟨rfl, record, hstores⟩, wp_pure trivial⟩

/-- Whatever is kept by every removal, is kept by removing everything in part. -/
theorem wp_removeAll_keep {I : Slots → Prop} (hdefault : allowed default) (hI : I s)
    (hkeep : ∀ t slot, I t → I (t.set slot none)) :
    wp allowed removeAll ⟨fun _ t => t = Slots.empty, fun _ => I, I⟩ s := by
  have hempty : I Slots.empty := hkeep _ .backup (hkeep _ .next (hkeep s .current hI))
  have hsettled : wp allowed (allSettled [rm .current, rm .next, rm .backup])
      ⟨fun settled t => (settled = true → t = Slots.empty) ∧ I t, fun _ => I, I⟩ s :=
    wp_allSettled_rm [.current, .next, .backup] hdefault hI (fun t slot _ => hkeep t slot)
      ⟨fun _ => rfl, hempty⟩ fun t ht => ⟨nofun, ht⟩
  refine wp_bind (hsettled.mono ?_ (fun _ _ ht => ht) fun _ ht => ht)
  rintro settled t ⟨hall, hkept⟩
  cases settled with
  | true => exact wp_pure (hall rfl)
  | false => exact wp_throw hkept

theorem wp_clearStored_keep {I : Slots → Prop} (hdefault : allowed default) (hI : I s)
    (hkeep : ∀ t slot, I t → I (t.set slot none)) :
    wp allowed clearStored ⟨fun _ t => t = Slots.empty, fun _ => I, I⟩ s := by
  have hempty : I Slots.empty := hkeep _ .backup (hkeep _ .next (hkeep s .current hI))
  refine wp_bind ((wp_removeAll_keep hdefault hI hkeep).mono ?_ (fun _ _ ht => ht) fun _ ht => ht)
  rintro _ t rfl
  exact wp_housekeeping hdefault hempty rfl

/-- With one file at most, removing it leaves it or nothing. -/
theorem onlyOrEmpty_remove {old : Option Bytes} (t : Slots) (slot : Slot)
    (h : t = ⟨old, none, none⟩ ∨ t = Slots.empty) :
    t.set slot none = ⟨old, none, none⟩ ∨ t.set slot none = Slots.empty := by
  rcases h with rfl | rfl
  · cases slot with
    | current => exact .inr rfl
    | next => exact .inl rfl
    | backup => exact .inl rfl
  · cases slot <;> exact .inr rfl

theorem wp_removeAll {old : Option Bytes} (hdefault : allowed default) :
    wp allowed removeAll
      ⟨fun _ t => t = Slots.empty, fun _ t => t = ⟨old, none, none⟩ ∨ t = Slots.empty,
        fun t => t = ⟨old, none, none⟩ ∨ t = Slots.empty⟩ ⟨old, none, none⟩ :=
  wp_removeAll_keep hdefault (.inl rfl) onlyOrEmpty_remove

theorem wp_clearStored {old : Option Bytes} (hdefault : allowed default) :
    wp allowed clearStored
      ⟨fun _ t => t = Slots.empty, fun _ t => t = ⟨old, none, none⟩ ∨ t = Slots.empty,
        fun t => t = ⟨old, none, none⟩ ∨ t = Slots.empty⟩ ⟨old, none, none⟩ :=
  wp_clearStored_keep hdefault (.inl rfl) onlyOrEmpty_remove

end Reading

/-! ### Undisturbed reading -/

section Undisturbed

variable {codec : RecordCodec T} {maximumBytes : Nat}

theorem wp_readRecord_quiet {post : Post Slots RecordError (Option T)}
    (hnone : s.get slot = none → post.returned none s)
    (hsome : ∀ b record, s.get slot = some b → post.returned (some record) s)
    (hinvalid : ∀ b, s.get slot = some b → (¬ ∃ record, Stores codec maximumBytes b record) →
      post.threw .invalid s) : wp Fate.Quiet (readRecord codec maximumBytes slot) post s := by
  cases hslot : s.get slot with
  | none =>
      refine wp_attempt_quiet (a := none) (t := s) ?_ (hnone hslot)
      rw [hslot]
  | some b =>
      by_cases hstores : ∃ record, Stores codec maximumBytes b record
      · obtain ⟨record, hsize, hparse⟩ := hstores
        refine wp_attempt_quiet (a := some record) (t := s) ?_ (hsome b record hslot)
        simp only [hslot, if_pos hsize, hparse]
      · refine wp_attempt_quiet_error ?_ (hinvalid b hslot hstores)
        simp only [hslot]
        split
        · rename_i hsize
          cases hparse : codec.parse b with
          | none => rfl
          | some record => exact absurd ⟨record, hsize, hparse⟩ hstores
        · rfl

theorem wp_rm_quiet {post : Post Slots RecordError Unit} (h : post.returned () (s.set slot none)) :
    wp Fate.Quiet (rm slot) post s :=
  wp_attempt_quiet rfl h

theorem wp_rename_quiet {source destination : Slot} {post : Post Slots RecordError Unit}
    (hsource : s.get source = some b)
    (h : post.returned () ((s.set destination (some b)).set source none)) :
    wp Fate.Quiet (rename source destination) post s := by
  refine wp_attempt_quiet ?_ h
  rw [hsource]

/-- A read that nothing disturbs returns, or the file that it goes by is invalid. -/
def ReturnsOrInvalid (codec : RecordCodec T) (maximumBytes : Nat) (s : Slots) :
    Post Slots RecordError (Option T) :=
  ⟨fun _ _ => True, fun error t => error = .invalid ∧ t = s ∧
    ∃ b, selected s = some b ∧ ¬ ∃ record, Stores codec maximumBytes b record, fun _ => False⟩

theorem readStored_returns :
    wp Fate.Quiet (readStored codec maximumBytes) (ReturnsOrInvalid codec maximumBytes s) s := by
  refine wp_bind (wp_readRecord_quiet (fun hcurrent => ?_) (fun b record _ => ?_)
    fun b hb hinvalid => ⟨rfl, rfl, b, selected_current hb, hinvalid⟩)
  · refine wp_bind (wp_readRecord_quiet (fun hbackup => ?_) (fun b record hb => ?_)
      fun b hb hinvalid => ⟨rfl, rfl, b, selected_backup hcurrent hb, hinvalid⟩)
    · refine wp_bind (wp_readRecord_quiet (fun _ => wp_pure trivial) (fun b record hb => ?_)
        fun b hb hinvalid => ⟨rfl, rfl, b, selected_next hcurrent hbackup hb, hinvalid⟩)
      exact wp_bind (wp_rename_quiet hb (wp_bind (wp_attemptNothing_quiet (wp_pure trivial))))
    · exact wp_bind (wp_rename_quiet hb (wp_bind (wp_rm_quiet
        (wp_bind (wp_attemptNothing_quiet (wp_pure trivial))))))
  · refine wp_bind (wp_bind (wp_settledWith (wp_rm_quiet ?_)))
    exact wp_settledWith (wp_rm_quiet (wp_pure (wp_pure (wp_pure trivial))))

theorem archive_read_returns :
    wp Fate.Quiet (InvoicePdfArchiveAtomicJsonFile.read codec)
      (ReturnsOrInvalid codec InvoicePdfArchiveAtomicJsonFile.maximumJsonFileBytes s) s := by
  refine wp_bind (wp_readRecord_quiet (fun hcurrent => ?_) (fun b record _ => ?_)
    fun b hb hinvalid => ⟨rfl, rfl, b, selected_current hb, hinvalid⟩)
  · refine wp_bind (wp_readRecord_quiet (fun hbackup => ?_) (fun b record hb => ?_)
      fun b hb hinvalid => ⟨rfl, rfl, b, selected_backup hcurrent hb, hinvalid⟩)
    · refine wp_bind (wp_readRecord_quiet (fun _ => wp_pure trivial) (fun b record hb => ?_)
        fun b hb hinvalid => ⟨rfl, rfl, b, selected_next hcurrent hbackup hb, hinvalid⟩)
      exact wp_bind (wp_mapError (wp_rename_quiet hb (wp_pure trivial)))
    · exact wp_bind (wp_mapError (wp_rename_quiet hb
        (wp_bind (wp_mapError (wp_rm_quiet (wp_pure trivial))))))
  · refine wp_bind (wp_mapError (wp_rm_quiet ?_))
    exact wp_bind (wp_mapError (wp_rm_quiet (wp_pure trivial)))

end Undisturbed

/-! ## Writing -/

section Writing

variable {old : Option Bytes} {new : Bytes}

/-- What the first write of all may leave: nothing, the value, or part of its text
    in the next file. -/
def Begun (new : Bytes) (t : Slots) : Prop :=
  t = Slots.empty ∨ t = Slots.only new ∨ ∃ n, t = ⟨none, some (new.take n), none⟩

/-- What a write leaves when it is interrupted or fails. -/
def Interrupted (old : Option Bytes) (new : Bytes) (t : Slots) : Prop :=
  Left old new t ∧ (old = none → Begun new t)

theorem interrupted_start : Interrupted old new ⟨old, none, none⟩ :=
  ⟨left_old, fun h => .inl (by rw [h]; rfl)⟩

theorem interrupted_part (n : Nat) : Interrupted old new ⟨old, some (new.take n), none⟩ :=
  ⟨left_old, fun h => .inr (.inr ⟨n, by rw [h]⟩)⟩

theorem interrupted_written : Interrupted old new ⟨old, some new, none⟩ := by
  have hall : Interrupted old new ⟨old, some (new.take new.length), none⟩ := interrupted_part _
  rwa [List.take_length] at hall

theorem interrupted_aside {next : Option Bytes} : Interrupted (some b) new ⟨none, next, some b⟩ :=
  ⟨left_aside, nofun⟩

theorem interrupted_replaced {next backup : Option Bytes} :
    Interrupted (some b) new ⟨some new, next, backup⟩ :=
  ⟨left_new, nofun⟩

theorem interrupted_restored {next backup : Option Bytes} :
    Interrupted (some b) new ⟨some b, next, backup⟩ :=
  ⟨left_old, nofun⟩

theorem interrupted_only : Interrupted old new (Slots.only new) :=
  ⟨left_new, fun _ => .inr (.inl rfl)⟩

/-- The cleanup that ends every write. -/
theorem Interrupted.removeNext (h : Interrupted old new t) :
    Interrupted old new (t.set .next none) := by
  refine ⟨h.1.removeNext, fun hold => ?_⟩
  rcases h.2 hold with rfl | rfl | ⟨n, rfl⟩
  · exact .inl rfl
  · exact .inr (.inl rfl)
  · exact .inl rfl

/-- Before the next file is renamed, and after: the old one is set aside, if there is one. -/
theorem interrupted_place :
    Interrupted old new ⟨none, some new, old⟩ ∧ Interrupted old new ⟨some new, none, old⟩ := by
  cases old with
  | none => exact ⟨interrupted_written, interrupted_only⟩
  | some v => exact ⟨interrupted_aside, interrupted_replaced⟩

/-- The next file is written, with whatever closes it. -/
theorem wp_createNextBy {close : RecordProgram Unit} (hdefault : allowed default)
    (hclose : ∀ {Q : Slots → Prop} {t}, Interrupted old new t → Q t →
      wp allowed close ⟨fun _ => Q, fun _ => Interrupted old new, Interrupted old new⟩ t) :
    wp allowed (do openNext; Program.andFinally (do writeFile new; housekeeping) close)
      ⟨fun _ t => t = ⟨old, some new, none⟩, fun _ => Interrupted old new, Interrupted old new⟩
      ⟨old, none, none⟩ := by
  have hempty : Interrupted old new ⟨old, some [], none⟩ := interrupted_part 0
  refine wp_bind (wp_openNext hdefault interrupted_start hempty ?_)
  refine wp_andFinally (wp.mono (?_ : wp allowed _ ⟨fun _ t => t = ⟨old, some new, none⟩,
    fun _ => Interrupted old new, Interrupted old new⟩ _) ?_ ?_ fun _ ht => ht)
  · exact wp_bind (wp_writeFile hdefault interrupted_part
      (wp_housekeeping hdefault interrupted_written rfl))
  · rintro _ t rfl
    exact hclose interrupted_written rfl
  · rintro _ t ht
    exact hclose ht ht

theorem wp_createNext (hdefault : allowed default) :
    wp allowed (createNext new)
      ⟨fun _ t => t = ⟨old, some new, none⟩, fun _ => Interrupted old new, Interrupted old new⟩
      ⟨old, none, none⟩ :=
  wp_createNextBy hdefault fun ht hQ => wp_housekeeping hdefault ht hQ

/-- The next file is renamed by `place`, and `finish` removes the one set aside. -/
theorem wp_publishBy {place finish : RecordProgram Unit} (hdefault : allowed default)
    (hplace : wp allowed place ⟨fun _ t => t = ⟨some new, none, old⟩,
      fun _ t => t = ⟨none, some new, old⟩ ∨ t = ⟨some new, none, old⟩,
      Interrupted old new⟩ ⟨none, some new, old⟩)
    (hfinish : ∀ v, old = some v → wp allowed finish
      ⟨fun _ t => t = Slots.only new, fun _ => Interrupted old new, Interrupted old new⟩
      ⟨some new, none, some v⟩) :
    wp allowed (do
        let moved ← setAside
        Program.onError place
          (if moved then Program.ignoreError (rename .backup .current) else pure ())
        if moved then finish)
      ⟨fun _ t => t = Slots.only new, fun _ => Interrupted old new, Interrupted old new⟩
      ⟨old, some new, none⟩ := by
  cases old with
  | none =>
      refine wp_bind (wp_setAside hdefault interrupted_written (fun _ => ?_) (fun _ h => nomatch h))
      refine wp_bind (wp_onError (hplace.mono ?_ ?_ fun _ ht => ht))
      · rintro _ t rfl
        exact wp_pure rfl
      · rintro _ t (rfl | rfl)
        · exact wp_pure interrupted_written
        · exact wp_pure interrupted_only
  | some v =>
      refine wp_bind (wp_setAside hdefault interrupted_written (fun h => nomatch h) fun b hb => ?_)
      cases hb
      refine ⟨interrupted_aside, wp_bind (wp_onError (hplace.mono ?_ ?_ fun _ ht => ht))⟩
      · rintro _ t rfl
        exact hfinish v rfl
      -- Whether or not the new file got into place, the old one is put back over it.
      · rintro _ t (rfl | rfl)
        · refine wp_ignoreError (wp_rename hdefault interrupted_aside fun b hb => ?_)
          cases hb
          exact ⟨interrupted_restored, interrupted_restored⟩
        · refine wp_ignoreError (wp_rename hdefault interrupted_replaced fun b hb => ?_)
          cases hb
          exact ⟨interrupted_restored, interrupted_restored⟩

theorem wp_publish (hdefault : allowed default) :
    wp allowed publish
      ⟨fun _ t => t = Slots.only new, fun _ => Interrupted old new, Interrupted old new⟩
      ⟨old, some new, none⟩ := by
  refine wp_publishBy hdefault ?_ fun v hold => ?_
  · refine wp_bind (wp_attempt_errors hdefault interrupted_place.1 (fun _ _ => .inl rfl) ?_)
    rintro _ t ⟨⟩
    refine ⟨.inl rfl, .inr rfl, interrupted_place.2, ?_⟩
    refine wp_attempt_errors hdefault interrupted_place.2 (fun _ _ => .inr rfl) ?_
    rintro _ t ⟨⟩
    exact ⟨.inr rfl, .inr rfl, interrupted_place.2, rfl⟩
  · subst hold
    refine wp_bind (wp_rm hdefault interrupted_replaced interrupted_replaced ?_)
    exact wp_housekeeping hdefault interrupted_replaced rfl

/-- **WRITING**: if it returns, only the new text is there; however it ends otherwise,
    the old text or the new one is, and the first write of all may have left part of
    a next file. -/
theorem wp_writeCrashSafe {narrowsNext : Bool} (hdefault : allowed default) :
    wp allowed (writeCrashSafe narrowsNext new)
      ⟨fun _ t => t = Slots.only new, fun _ => Interrupted old new, Interrupted old new⟩
      ⟨old, none, none⟩ := by
  refine wp_andFinally (wp_mapError (wp.mono (?_ : wp allowed _
    ⟨fun _ t => t = Slots.only new, fun _ => Interrupted old new, Interrupted old new⟩ _)
    ?_ ?_ fun _ ht => ht))
  · refine wp_bind (wp_housekeeping hdefault interrupted_start ?_)
    refine wp_bind (wp_rm hdefault interrupted_start interrupted_start ?_)
    refine wp_bind (wp_rm hdefault interrupted_start interrupted_start ?_)
    refine wp_bind ((wp_createNext hdefault).mono ?_ (fun _ _ ht => ht) fun _ ht => ht)
    rintro _ t rfl
    cases narrowsNext with
    | false => exact wp_publish hdefault
    | true => exact wp_bind (wp_housekeeping hdefault interrupted_written (wp_publish hdefault))
  · rintro _ t rfl
    refine wp_ignoreError ((wp_rm (I := (· = Slots.only new)) hdefault rfl rfl rfl).mono
      (fun _ _ hu => hu) (fun _ _ hu => hu) ?_)
    rintro u rfl
    exact interrupted_only
  · rintro _ t ht
    exact wp_ignoreError (wp_rm hdefault ht ht.removeNext ht.removeNext)

end Writing

/-! ## The stores -/

/-- What a store promises about one operation on a settled record. -/
structure KeepsRecords (codec : RecordCodec T) (operations : RecordOperations T) : Prop where
  returns : ∀ s, wp Fate.Quiet operations.read
    (ReturnsOrInvalid codec operations.maximumBytes s) s
  read : ∀ s, wp AnyFate operations.read
    ⟨Recovered (Stores codec operations.maximumBytes) s, fun _ => Preserves s, Preserves s⟩ s
  readNext : ∀ b, wp AnyFate operations.read
    ⟨fun _ _ => True, fun _ => NextOrPromoted codec operations.maximumBytes b,
      NextOrPromoted codec operations.maximumBytes b⟩ ⟨none, some b, none⟩
  write : ∀ old record, wp AnyFate (operations.write record)
    ⟨fun _ t => t = Slots.only (codec.serialize record),
      fun _ => Interrupted old (codec.serialize record),
      Interrupted old (codec.serialize record)⟩ ⟨old, none, none⟩
  clear : ∀ old, wp AnyFate operations.clear
    ⟨fun _ t => t = Slots.empty, fun _ t => t = ⟨old, none, none⟩ ∨ t = Slots.empty,
      fun t => t = ⟨old, none, none⟩ ∨ t = Slots.empty⟩ ⟨old, none, none⟩

section Stores

variable {codec : RecordCodec T} {I : Slots → Prop}

theorem wp_refuseDowngrade {formatVersion : T → Nat} (hdefault : allowed default) (hI : I s)
    (hQ : Q () s) : wp allowed (AcceptedBuildMetadataStore.refuseDowngrade codec formatVersion slot)
      ⟨Q, fun _ => I, I⟩ s := by
  have hchecked : ∀ stored : Option T, wp allowed
      (if stored.map formatVersion = some 2 then throw .invalid else pure () : RecordProgram Unit)
      ⟨Q, fun _ => I, I⟩ s := by
    intro stored
    split
    · exact wp_throw hI
    · exact wp_pure hQ
  exact wp_bind (wp_readRecord hdefault hI (fun _ => hchecked none)
    fun _ record _ _ => hchecked (some record))

theorem acceptedBuildMetadata_keepsRecords (formatVersion : T → Nat) :
    KeepsRecords codec (AcceptedBuildMetadataStore.operations codec formatVersion) where
  returns _ := readStored_returns
  read _ := wp_readStored trivial
  readNext _ := wp_readStored_next trivial
  clear _ := wp_clearStored trivial
  write old record := by
    show wp AnyFate (AcceptedBuildMetadataStore.writeStored codec formatVersion record) _ _
    rw [AcceptedBuildMetadataStore.writeStored]
    split
    · refine wp_bind (wp_refuseDowngrade trivial interrupted_start ?_)
      refine wp_bind (wp_refuseDowngrade trivial interrupted_start ?_)
      exact wp_bind (wp_refuseDowngrade trivial interrupted_start (wp_writeCrashSafe trivial))
    · exact wp_writeCrashSafe trivial

theorem directSetupMigrationRecovery_keepsRecords (correlationId : T → String)
    (revision : T → Nat) :
    KeepsRecords codec
      (DirectSetupMigrationRecoveryStore.operations codec correlationId revision) where
  returns _ := readStored_returns
  read _ := wp_readStored trivial
  readNext _ := wp_readStored_next trivial
  clear _ := wp_clearStored trivial
  write old record := by
    refine wp_bind (wp_readRecord trivial interrupted_start (fun _ => ?_) fun _ current _ _ => ?_)
    · exact wp_bind (wp_pure (wp_writeCrashSafe trivial))
    · rw [refuseConflict]
      split
      · exact wp_bind (wp_throw interrupted_start)
      · exact wp_bind (wp_pure (wp_writeCrashSafe trivial))

/-- The archive creates and publishes in its own way. -/
theorem wp_archive_createNext {old : Option Bytes} {new : Bytes} (hdefault : allowed default) :
    wp allowed (InvoicePdfArchiveAtomicJsonFile.createNext new)
      ⟨fun _ t => t = ⟨old, some new, none⟩, fun _ => Interrupted old new, Interrupted old new⟩
      ⟨old, none, none⟩ :=
  wp_createNextBy hdefault fun ht hQ => wp_mapError (wp_housekeeping hdefault ht hQ)

theorem wp_archive_publish {old : Option Bytes} {new : Bytes} (hdefault : allowed default) :
    wp allowed InvoicePdfArchiveAtomicJsonFile.publish
      ⟨fun _ t => t = Slots.only new, fun _ => Interrupted old new, Interrupted old new⟩
      ⟨old, some new, none⟩ := by
  refine wp_publishBy hdefault ?_ fun v hold => ?_
  · refine wp_attempt_errors hdefault interrupted_place.1 (fun _ _ => .inl rfl) ?_
    rintro _ t ⟨⟩
    exact ⟨.inl rfl, .inr rfl, interrupted_place.2, rfl⟩
  · subst hold
    exact wp_mapError (wp_rm hdefault interrupted_replaced interrupted_replaced rfl)

theorem wp_archive_write {old : Option Bytes} {record : T} :
    wp AnyFate (InvoicePdfArchiveAtomicJsonFile.write codec record)
      ⟨fun _ t => t = Slots.only (codec.serialize record),
        fun _ => Interrupted old (codec.serialize record),
        Interrupted old (codec.serialize record)⟩ ⟨old, none, none⟩ := by
  rw [InvoicePdfArchiveAtomicJsonFile.write]
  split
  · exact wp_bind (wp_throw interrupted_start)
  refine wp_bind (wp_tryCatch (wp.mono (?_ : wp AnyFate _
    ⟨fun _ t => t = Slots.only (codec.serialize record),
      fun _ => Interrupted old (codec.serialize record),
      Interrupted old (codec.serialize record)⟩ _) ?_ ?_ fun _ ht => ht))
  · refine wp_bind (wp_housekeeping trivial interrupted_start ?_)
    refine wp_bind (wp_mapError (wp_rm trivial interrupted_start interrupted_start ?_))
    refine wp_bind (wp_mapError (wp_rm trivial interrupted_start interrupted_start ?_))
    refine wp_bind ((wp_archive_createNext trivial).mono ?_ (fun _ _ ht => ht) fun _ ht => ht)
    rintro _ t rfl
    exact wp_bind (wp_housekeeping trivial interrupted_written (wp_archive_publish trivial))
  · rintro _ t rfl
    refine wp_ignoreError ((wp_rm (I := (· = Slots.only (codec.serialize record))) trivial
      rfl rfl rfl).mono (fun _ _ hu => hu) (fun _ _ hu => hu) ?_)
    rintro u rfl
    exact interrupted_only
  · -- A handle that may still be open keeps its file.
    rintro error t ht
    dsimp only
    split
    · exact wp_throw ht
    · exact wp_bind (wp_ignoreError ((wp_rm (Q := fun _ => Interrupted old _) trivial ht
        ht.removeNext ht.removeNext).mono (fun _ _ hu => wp_throw hu) (fun _ _ hu => wp_throw hu)
        fun _ hu => hu))

theorem invoicePdfArchive_keepsRecords :
    KeepsRecords codec (InvoicePdfArchiveAtomicJsonFile.operations codec) where
  returns _ := archive_read_returns
  read _ := wp_archive_read trivial
  readNext _ := wp_archive_read_next trivial
  clear _ := wp_removeAll trivial
  write _ _ := wp_archive_write

end Stores

end RecordFiles
