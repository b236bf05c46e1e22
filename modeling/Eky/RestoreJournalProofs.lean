import Eky.RecordFileProofs
import Eky.RestoreJournalStore

/-! # The store of the restoration's journal — one operation

    What one call of the store leaves, however it ends.  `Selects` says which journal a
    reader would be given; the checks of a write change nothing, so that only its five
    changes of the files have to be followed. -/

namespace ProfileRestoreActivationJournalStore

open Program RecordFiles

variable {codec : RecordCodec ProfileRestoreActivationJournal}
  {authority : WriteAuthority} {journal previous expected : ProfileRestoreActivationJournal}
  {progress : WriteProgress} {s t : Slots} {I : Slots → Prop} {α : Type}

/-- `b` is read back as the journal. -/
abbrev StoresJournal (codec : RecordCodec ProfileRestoreActivationJournal) (b : Bytes)
    (journal : ProfileRestoreActivationJournal) : Prop :=
  Stores codec maximumJournalBytes b journal

/-- The first slot that there is holds the journal. -/
def Selects (codec : RecordCodec ProfileRestoreActivationJournal) (s : Slots)
    (journal : ProfileRestoreActivationJournal) : Prop :=
  ∃ b, StoredValue.selected s = some b ∧ StoresJournal codec b journal

variable {slot : Slot} {b : Bytes} {withAuthority previousMoved mutation : Bool}
  {backup : Option Bytes} {Q : Unit → Slots → Prop}

theorem selects_current {next : Option Bytes} (h : StoresJournal codec b journal) :
    Selects codec ⟨some b, next, backup⟩ journal :=
  ⟨b, rfl, h⟩

theorem selects_backup {next : Option Bytes} (h : StoresJournal codec b journal) :
    Selects codec ⟨none, next, some b⟩ journal :=
  ⟨b, rfl, h⟩

theorem selects_unique (h : Selects codec s journal) (h' : Selects codec s previous) :
    journal = previous := by
  obtain ⟨b, hb, hjournal⟩ := h
  obtain ⟨c, hc, hprevious⟩ := h'
  rw [hb] at hc
  cases hc
  exact stores_unique b _ _ hjournal hprevious

/-! ## What changes nothing -/

theorem wp_file {m : RecordProgram α} {Q : α → Slots → Prop}
    (h : wp AnyFate m ⟨Q, fun _ => I, I⟩ s) : wp AnyFate (file m) ⟨Q, fun _ => I, I⟩ s :=
  wp_mapError h

theorem maintains_callAuthority : Maintains AnyFate I callAuthority :=
  fun _ hs => wp_attemptNothing trivial hs hs

theorem maintains_onlyIf {condition : Bool} {m : JournalProgram Unit}
    (h : Maintains AnyFate I m) : Maintains AnyFate I (onlyIf condition m) :=
  maintains_ite (fun _ => h) fun _ => maintains_pure

theorem maintains_callWhen {supplied : Bool} : Maintains AnyFate I (callWhen supplied) :=
  maintains_onlyIf maintains_callAuthority

theorem maintains_housekeeping : Maintains AnyFate I (file housekeeping) :=
  fun _ hs => wp_file (wp_housekeeping trivial hs hs)

theorem maintains_assertMatches {value : Option ProfileRestoreActivationJournal} :
    Maintains AnyFate I (assertMatches expected value) :=
  maintains_ite (fun _ => maintains_pure) fun _ => maintains_throw

theorem wp_readJournal {Q : Option ProfileRestoreActivationJournal → Slots → Prop} (hI : I s)
    (hnone : s.get slot = none → Q none s)
    (hsome : ∀ b journal, s.get slot = some b → StoresJournal codec b journal →
      Q (some journal) s) : wp AnyFate (readJournal codec slot) ⟨Q, fun _ => I, I⟩ s :=
  wp_file (wp_readRecord trivial hI hnone hsome)

theorem maintains_readJournal : Maintains AnyFate I (readJournal codec slot) :=
  fun _ hs => wp_readJournal hs (fun _ => hs) fun _ _ _ _ => hs

theorem wp_assertMatches {value : Option ProfileRestoreActivationJournal} (hI : I s)
    (hQ : value = some expected → Q () s) :
    wp AnyFate (assertMatches expected value) ⟨Q, fun _ => I, I⟩ s := by
  rw [assertMatches]
  split
  · exact wp_pure (hQ ‹_›)
  · exact wp_throw hI

theorem wp_assertSlotAbsent (hI : I s) (hQ : s.get slot = none → Q () s) :
    wp AnyFate (assertSlotAbsent slot) ⟨Q, fun _ => I, I⟩ s := by
  refine (wp_attempt_errors trivial hI (fun _ _ => hI) fun a t h => ?_)
  split at h
  · cases h
  · rename_i hnone
    cases h
    exact ⟨hI, hI, hI, hQ (Option.not_isSome_iff_eq_none.mp hnone)⟩

theorem maintains_assertSlotAbsent : Maintains AnyFate I (assertSlotAbsent slot) :=
  fun _ hs => wp_assertSlotAbsent hs fun _ => hs

theorem maintains_assertPrevious :
    Maintains AnyFate I (assertPrevious codec authority previousMoved) := by
  rw [assertPrevious]
  split
  · exact maintains_ite
      (fun _ => maintains_bind maintains_readJournal fun _ =>
        maintains_bind maintains_assertMatches fun _ => maintains_assertSlotAbsent)
      fun _ => maintains_bind maintains_readJournal fun _ =>
        maintains_bind maintains_assertMatches fun _ => maintains_assertSlotAbsent
  · exact maintains_bind maintains_assertSlotAbsent fun _ => maintains_assertSlotAbsent

theorem maintains_assertSelected :
    Maintains AnyFate I (assertSelected codec authority progress) :=
  maintains_bind maintains_callAuthority fun _ => maintains_bind maintains_assertPrevious
    fun _ => maintains_bind (maintains_onlyIf maintains_assertSlotAbsent)
      fun _ => maintains_callAuthority

theorem maintains_assertOpenedNext : Maintains AnyFate I assertOpenedNext := by
  intro s hs
  refine wp_attempt trivial hs fun a t h => ?_
  split at h
  · cases h
    exact ⟨hs, hs⟩
  · cases h

theorem maintains_assertNext : Maintains AnyFate I (assertNext codec journal) :=
  maintains_bind maintains_readJournal fun _ => maintains_assertMatches

theorem maintains_assertPublished :
    Maintains AnyFate I (assertPublished codec authority journal) := by
  refine maintains_bind maintains_readJournal fun _ =>
    maintains_bind maintains_assertMatches fun _ => ?_
  cases authority.previous with
  | none => exact maintains_pure
  | some previous =>
      exact maintains_bind maintains_readJournal fun _ => maintains_assertMatches

theorem maintains_beforeMutation :
    Maintains AnyFate I (beforeMutation codec authority journal progress) := by
  have hnext : Maintains AnyFate I (assertNextSoFar codec journal progress) :=
    maintains_ite (fun _ => maintains_assertNext) fun _ =>
      maintains_onlyIf maintains_assertOpenedNext
  have hmutation : Maintains AnyFate I (assertMutation codec authority journal progress) :=
    maintains_onlyIf (maintains_bind maintains_callAuthority fun _ => maintains_ite
      (fun _ => maintains_bind maintains_assertPublished fun _ => maintains_assertSlotAbsent)
      fun _ => maintains_bind maintains_assertSelected fun _ => hnext)
  exact maintains_bind hmutation fun _ => maintains_bind maintains_callWhen
    fun _ => maintains_callWhen

theorem maintains_assertContent : Maintains AnyFate I (assertContent authority) :=
  maintains_onlyIf (maintains_bind maintains_callAuthority fun _ =>
    maintains_bind maintains_callAuthority fun _ => maintains_callAuthority)

/-- What changes nothing, leads on from where it started. -/
theorem wp_skip {β : Type} {m : JournalProgram α} {k : α → JournalProgram β}
    {Q : β → Slots → Prop} (hm : ∀ J : Slots → Prop, Maintains AnyFate J m) (hI : I s)
    (hk : ∀ a, wp AnyFate (k a) ⟨Q, fun _ => I, I⟩ s) :
    wp AnyFate (m >>= k) ⟨Q, fun _ => I, I⟩ s := by
  refine wp_bind ((hm (· = s) s rfl).mono ?_ ?_ ?_)
  · rintro a _ rfl
    exact hk a
  · rintro _ _ rfl
    exact hI
  · rintro _ rfl
    exact hI

/-- The same for a last part. -/
theorem wp_skipLast {m : JournalProgram Unit} (hm : ∀ J : Slots → Prop, Maintains AnyFate J m)
    (hI : I s) (hQ : Q () s) : wp AnyFate m ⟨Q, fun _ => I, I⟩ s := by
  refine (hm (· = s) s rfl).mono ?_ ?_ ?_
  · rintro _ _ rfl
    exact hQ
  · rintro _ _ rfl
    exact hI
  · rintro _ rfl
    exact hI

theorem wp_assertNext (hI : I s)
    (hQ : ∀ b, s.next = some b → StoresJournal codec b journal → Q () s) :
    wp AnyFate (assertNext codec journal) ⟨Q, fun _ => I, I⟩ s := by
  refine wp_bind (wp_readJournal hI (fun _ => ?_) fun b stored hb hstores => ?_)
  · exact wp_assertMatches hI nofun
  · exact wp_assertMatches hI fun hsame => by
      cases hsame
      exact hQ b hb hstores

/-! ## Writing -/

/-- What a write with an authority starts from: the previous journal, or nothing. -/
def Starts (codec : RecordCodec ProfileRestoreActivationJournal) (authority : WriteAuthority)
    (s : Slots) : Prop :=
  match authority.previous with
  | none => s = Slots.empty
  | some previous => ∃ b, s = Slots.only b ∧ StoresJournal codec b previous

theorem wp_startsSelected (hI : I s) (hQ : Starts codec authority s → Q () s) :
    wp AnyFate (assertSelected codec authority .start) ⟨Q, fun _ => I, I⟩ s := by
  refine wp_skip (fun _ => maintains_callAuthority) hI fun _ => ?_
  -- The slots besides the current one are absent, whatever is previous.
  have hrest : (s.next = none → Starts codec authority s) →
      wp AnyFate (do
        onlyIf (!WriteProgress.start.nextCreated) (assertSlotAbsent .next)
        callAuthority) ⟨Q, fun _ => I, I⟩ s := by
    intro hstarts
    refine wp_bind (wp_assertSlotAbsent hI fun hnext => ?_)
    exact wp_skipLast (fun _ => maintains_callAuthority) hI (hQ (hstarts hnext))
  suffices hprevious : wp AnyFate (assertPrevious codec authority false)
      ⟨fun _ t => t = s ∧ (s.next = none → Starts codec authority s), fun _ => I, I⟩ s by
    refine wp_bind (hprevious.mono ?_ (fun _ _ ht => ht) fun _ ht => ht)
    rintro _ _ ⟨rfl, hstarts⟩
    exact hrest hstarts
  obtain ⟨current, next, backup⟩ := s
  rw [assertPrevious]
  cases hprevious : authority.previous with
  | none =>
      refine wp_bind (wp_assertSlotAbsent hI fun hcurrent => ?_)
      refine wp_assertSlotAbsent hI fun hbackup => ⟨rfl, fun hnext => ?_⟩
      rw [Starts, hprevious]
      cases hcurrent
      cases hbackup
      cases hnext
      rfl
  | some previous =>
      refine wp_bind (wp_readJournal hI (fun _ => ?_) fun b stored hb hstores => ?_)
      · exact wp_bind (wp_assertMatches hI nofun)
      refine wp_bind (wp_assertMatches hI fun hsame => ?_)
      cases hsame
      refine wp_assertSlotAbsent hI fun hbackup => ⟨rfl, fun hnext => ?_⟩
      rw [Starts, hprevious]
      cases hb
      cases hbackup
      cases hnext
      exact ⟨b, rfl, hstores⟩

theorem wp_prepareDirectory (hI : I s) (hQ : Starts codec authority s → Q () s) :
    wp AnyFate (prepareDirectory codec authority journal) ⟨Q, fun _ => I, I⟩ s := by
  refine wp_bind (wp_startsSelected hI fun hstarts => ?_)
  refine wp_skip (fun _ => maintains_beforeMutation) hI fun _ => ?_
  refine wp_skip (fun _ => maintains_housekeeping) hI fun _ => ?_
  refine wp_skip (fun _ => maintains_callAuthority) hI fun _ => ?_
  refine wp_skip (fun _ => maintains_beforeMutation) hI fun _ => ?_
  refine wp_skip (fun _ => maintains_housekeeping) hI fun _ => ?_
  refine wp_skip (fun _ => maintains_housekeeping) hI fun _ => ?_
  refine wp_skip (fun _ => maintains_assertSelected) hI fun _ => ?_
  refine wp_skip (fun _ => maintains_assertSelected) hI fun _ => ?_
  refine wp_skip (fun _ => maintains_onlyIf maintains_assertSelected) hI fun _ => ?_
  exact wp_skipLast (fun _ => maintains_beforeMutation) hI (hQ hstarts)

/-- The next file is written; only a complete one is read back as the journal. -/
theorem wp_createNext {current : Option Bytes} (hI : I ⟨current, none, backup⟩)
    (hpart : ∀ part, I ⟨current, some part, backup⟩)
    (hQ : StoresJournal codec (codec.serialize journal) journal →
      Q () ⟨current, some (codec.serialize journal), backup⟩) :
    wp AnyFate (createNext codec authority journal) ⟨Q, fun _ => I, I⟩
      ⟨current, none, backup⟩ := by
  refine wp_bind (wp_file (wp_openNext trivial hI (hpart []) ?_))
  have hfill : wp AnyFate (fillNext codec authority journal)
      ⟨fun _ t => t = ⟨current, some (codec.serialize journal), backup⟩,
        fun _ t => ∃ part, t = ⟨current, some part, backup⟩, I⟩ ⟨current, some [], backup⟩ := by
    suffices h : wp AnyFate (fillNext codec authority journal)
        ⟨fun _ t => t = ⟨current, some (codec.serialize journal), backup⟩,
          fun _ t => ∃ part, t = ⟨current, some part, backup⟩,
          fun t => ∃ part, t = ⟨current, some part, backup⟩⟩ ⟨current, some [], backup⟩ by
      refine h.mono (fun _ _ ht => ht) (fun _ _ ht => ht) ?_
      rintro _ ⟨part, rfl⟩
      exact hpart part
    have hempty : ∃ part, (⟨current, some [], backup⟩ : Slots) = ⟨current, some part, backup⟩ :=
      ⟨[], rfl⟩
    refine wp_skip (fun _ => maintains_onlyIf maintains_housekeeping) hempty fun _ => ?_
    refine wp_skip (fun _ => maintains_callAuthority) hempty fun _ => ?_
    refine wp_skip (fun _ => maintains_callWhen) hempty fun _ => ?_
    refine wp_skip (fun _ => maintains_onlyIf maintains_assertOpenedNext) hempty fun _ => ?_
    refine wp_skip (fun _ => maintains_callWhen) hempty fun _ => ?_
    refine wp_skip (fun _ => maintains_beforeMutation) hempty fun _ => ?_
    refine wp_bind (wp_file (wp_writeFile trivial (fun n => ⟨_, rfl⟩) ?_))
    exact wp_skipLast (fun _ => maintains_housekeeping) ⟨_, rfl⟩ rfl
  have hwritten : I ⟨current, some (codec.serialize journal), backup⟩ := hpart _
  refine wp_bind (wp_andFinally (hfill.mono ?_ ?_ fun _ ht => ht))
  · rintro _ _ rfl
    refine wp_skipLast (fun _ => maintains_housekeeping) hwritten ?_
    refine wp_skip (fun _ => maintains_callAuthority) hwritten fun _ => ?_
    refine wp_skip (fun _ => maintains_beforeMutation) hwritten fun _ => ?_
    refine wp_skip (fun _ => maintains_housekeeping) hwritten fun _ => ?_
    refine wp_skip (fun _ => maintains_assertSelected) hwritten fun _ => ?_
    refine wp_bind (wp_assertNext hwritten fun b hb hstores => ?_)
    cases hb
    exact wp_skipLast (fun _ => maintains_assertSelected) hwritten (hQ hstores)
  · rintro _ _ ⟨part, rfl⟩
    exact wp_skipLast (fun _ => maintains_housekeeping) (hpart part) (hpart part)

theorem wp_setPreviousAside {Q : Bool → Slots → Prop} (hI : I s)
    (hnone : authority.previous = none → Q false s)
    (hsome : ∀ previous b, authority.previous = some previous → s.current = some b →
      I ⟨none, s.next, some b⟩ ∧ Q true ⟨none, s.next, some b⟩) :
    wp AnyFate (setPreviousAside codec authority journal) ⟨Q, fun _ => I, I⟩ s := by
  rw [setPreviousAside]
  cases hprevious : authority.previous with
  | none => exact wp_pure (hnone hprevious)
  | some previous =>
      refine wp_skip (fun _ => maintains_callAuthority) hI fun _ => ?_
      refine wp_skip (fun _ => maintains_onlyIf maintains_assertSelected) hI fun _ => ?_
      refine wp_skip (fun _ => maintains_beforeMutation) hI fun _ => ?_
      refine wp_bind (wp_file (wp_rename trivial hI fun b hb => ?_))
      obtain ⟨hmoved, hQ⟩ := hsome previous b hprevious hb
      exact ⟨hmoved, wp_pure hQ⟩

theorem wp_publish {content : Bytes} (hI : I ⟨none, some content, backup⟩)
    (hpublished : I ⟨some content, none, backup⟩) (hQ : Q () ⟨some content, none, backup⟩) :
    wp AnyFate (publish codec authority journal previousMoved) ⟨Q, fun _ => I, I⟩
      ⟨none, some content, backup⟩ := by
  have hcontent : ∀ J : Slots → Prop, Maintains AnyFate J
      (assertContentBeforePublication codec authority journal previousMoved) := fun _ =>
    maintains_onlyIf (maintains_bind maintains_assertContent fun _ =>
      maintains_bind maintains_assertSelected fun _ =>
        maintains_bind maintains_assertNext fun _ => maintains_callAuthority)
  refine wp_skip (fun _ => maintains_assertSelected) hI fun _ => ?_
  refine wp_skip (fun _ => maintains_assertNext) hI fun _ => ?_
  refine wp_skip (fun _ => maintains_assertSelected) hI fun _ => ?_
  refine wp_skip hcontent hI fun _ => ?_
  refine wp_skip (fun _ => maintains_beforeMutation) hI fun _ => ?_
  refine wp_bind (wp_file (wp_rename trivial hI fun b hb => ?_))
  cases hb
  exact ⟨hpublished, wp_skipLast (fun _ => maintains_housekeeping) hpublished hQ⟩

theorem wp_acknowledge {content : Bytes} (hI : ∀ backup, I ⟨some content, none, backup⟩)
    (hQ : ∀ backup, Q () ⟨some content, none, backup⟩) :
    wp AnyFate (acknowledge codec authority journal previousMoved) ⟨Q, fun _ => I, I⟩
      ⟨some content, none, backup⟩ := by
  refine wp_skip (fun _ => maintains_callAuthority) (hI _) fun _ => ?_
  refine wp_skip (fun _ => maintains_assertPublished) (hI _) fun _ => ?_
  refine wp_skip (fun _ => maintains_callAuthority) (hI _) fun _ => ?_
  cases previousMoved with
  | false => exact wp_pure (hQ _)
  | true =>
      refine wp_skip (fun _ => maintains_assertContent) (hI _) fun _ => ?_
      refine wp_skip (fun _ => maintains_assertPublished) (hI _) fun _ => ?_
      refine wp_skip (fun _ => maintains_callAuthority) (hI _) fun _ => ?_
      refine wp_skip (fun _ => maintains_assertSlotAbsent) (hI _) fun _ => ?_
      refine wp_skip (fun _ => maintains_callAuthority) (hI _) fun _ => ?_
      refine wp_skip (fun _ => maintains_beforeMutation) (hI _) fun _ => ?_
      refine wp_bind (wp_file (wp_rm trivial (hI _) (hI _) ?_))
      exact wp_skipLast (fun _ => maintains_housekeeping) (hI _) (hQ _)

/-- The previous journal is still selected, or the new one is. -/
def EitherSelected (codec : RecordCodec ProfileRestoreActivationJournal)
    (authority : WriteAuthority) (journal : ProfileRestoreActivationJournal) (t : Slots) : Prop :=
  ∀ previous, authority.previous = some previous →
    Selects codec t previous ∨ Selects codec t journal

/-- A write that is cut off leaves the old journal or the new one. -/
theorem wp_write (hselects : ∀ previous, authority.previous = some previous →
      Selects codec s previous) :
    wp AnyFate (write codec authority journal)
      ⟨fun _ t => Selects codec t journal, fun _ => EitherSelected codec authority journal,
        EitherSelected codec authority journal⟩ s := by
  have hI : EitherSelected codec authority journal s := fun previous h => .inl (hselects previous h)
  rw [write]
  split
  · exact wp_throw hI
  split
  · exact wp_throw hI
  refine wp_mapError (wp_bind (wp_prepareDirectory hI fun hstarts => ?_))
  cases hprevious : authority.previous with
  | none =>
      have hnever : ∀ t, EitherSelected codec authority journal t := fun t previous h => by
        rw [hprevious] at h
        cases h
      rw [Starts, hprevious] at hstarts
      obtain rfl := hstarts
      refine wp_bind (wp_createNext (hnever _) (fun _ => hnever _) fun hstores => ?_)
      refine wp_bind (wp_setPreviousAside (hnever _) (fun _ => ?_) fun previous b h => ?_)
      · refine wp_bind (wp_publish (hnever _) (hnever _) ?_)
        exact wp_acknowledge (fun _ => hnever _) fun _ => selects_current hstores
      · rw [hprevious] at h
        cases h
  | some previous =>
      rw [Starts, hprevious] at hstarts
      obtain ⟨b, rfl, hbefore⟩ := hstarts
      have hold : ∀ t, Selects codec t previous → EitherSelected codec authority journal t := by
        intro t ht other hother
        rw [hprevious] at hother
        cases hother
        exact .inl ht
      have hnew : ∀ t, Selects codec t journal → EitherSelected codec authority journal t :=
        fun t ht _ _ => .inr ht
      refine wp_bind (wp_createNext hI (fun _ => hold _ (selects_current hbefore))
        fun hstores => ?_)
      refine wp_bind (wp_setPreviousAside (hold _ (selects_current hbefore)) (fun h => ?_)
        fun _ b' _ hb' => ?_)
      · rw [hprevious] at h
        cases h
      -- Until the next file is in place, the backup is what a reader is given.
      cases hb'
      have haside : EitherSelected codec authority journal
          ⟨none, some (codec.serialize journal), some b⟩ := hold _ (selects_backup hbefore)
      have hpublished : ∀ backup, Selects codec ⟨some (codec.serialize journal), none, backup⟩
          journal := fun _ => selects_current hstores
      refine ⟨haside, wp_bind (wp_publish haside (hnew _ (hpublished _)) ?_)⟩
      exact wp_acknowledge (fun _ => hnew _ (hpublished _)) hpublished

/-! ## Reading -/

theorem wp_selectJournal
    {Q : Option (ProfileRestoreActivationJournal × Slot) → Slots → Prop} (hI : I s)
    (hnone : s = Slots.empty → Q none s)
    (hsome : ∀ slot b journal, s.get slot = some b → StoredValue.selected s = some b →
      StoresJournal codec b journal → (slot ≠ .current → s.current = none) →
      (slot = .next → s.backup = none) → Q (some (journal, slot)) s) :
    wp AnyFate (selectJournal codec) ⟨Q, fun _ => I, I⟩ s := by
  refine wp_bind (wp_readJournal hI (fun hcurrent => ?_) fun b journal hb hstores => ?_)
  swap
  · exact wp_pure (hsome .current b journal hb (StoredValue.selected_current hb) hstores
      (fun h => absurd rfl h) nofun)
  refine wp_bind (wp_readJournal hI (fun hbackup => ?_) fun b journal hb hstores => ?_)
  swap
  · exact wp_pure (hsome .backup b journal hb (StoredValue.selected_backup hcurrent hb) hstores
      (fun _ => hcurrent) nofun)
  refine wp_bind (wp_readJournal hI (fun hnext => ?_) fun b journal hb hstores => ?_)
  · obtain ⟨current, next, backup⟩ := s
    cases hcurrent
    cases hbackup
    cases hnext
    exact wp_pure (hnone rfl)
  · exact wp_pure (hsome .next b journal hb (StoredValue.selected_next hcurrent hbackup hb) hstores
      (fun _ => hcurrent) fun _ => hbackup)

theorem wp_peek {Q : Option ProfileRestoreActivationJournal → Slots → Prop} (hI : I s)
    (hnone : s = Slots.empty → Q none s)
    (hsome : ∀ journal, Selects codec s journal → Q (some journal) s) :
    wp AnyFate (peek codec) ⟨Q, fun _ => I, I⟩ s :=
  wp_bind (wp_selectJournal hI (fun hempty => wp_pure (hnone hempty))
    fun _ b journal _ hselected hstores _ _ => wp_pure (hsome journal ⟨b, hselected, hstores⟩))

theorem wp_removePresentRecoverySlot (hI : I s) (hremoved : I (s.set slot none))
    (hQ : ∀ t, I t → Q () t) :
    wp AnyFate (removePresentRecoverySlot slot withAuthority mutation) ⟨Q, fun _ => I, I⟩ s := by
  have hneeds : ∀ J : Slots → Prop, Maintains AnyFate J (needsRemoval slot withAuthority) := by
    refine fun J => maintains_ite (fun _ t ht => wp_attempt trivial ht fun a u h => ?_)
      fun _ => maintains_pure
    cases h
    exact ⟨ht, ht⟩
  refine wp_skip hneeds hI fun needed => ?_
  split
  · refine wp_skip (fun _ => maintains_callWhen) hI fun _ => ?_
    refine wp_skip (fun _ => maintains_callWhen) hI fun _ => ?_
    exact wp_file (wp_rm trivial hI hremoved (hQ _ hremoved))
  · exact wp_pure (hQ _ hI)

/-- Beside a current file, the others go. -/
theorem wp_removeRecoverySlots_current (hcurrent : s.current = some b) :
    wp AnyFate (removeRecoverySlots withAuthority mutation)
      ⟨fun _ t => t.current = some b, fun _ t => t.current = some b,
        fun t => t.current = some b⟩ s := by
  rw [removeRecoverySlots]
  split
  · have hnext : wp AnyFate (removePresentRecoverySlot .next withAuthority mutation)
        ⟨fun _ t => t.current = some b, fun _ t => t.current = some b,
          fun t => t.current = some b⟩ s :=
      wp_removePresentRecoverySlot hcurrent hcurrent fun _ ht => ht
    refine wp_bind (hnext.mono (fun _ t ht => ?_) (fun _ _ ht => ht) fun _ ht => ht)
    exact wp_removePresentRecoverySlot ht ht fun _ hu => hu
  · refine wp_file ((wp_removeRecoverySlots_keep (I := fun t => t.current = some b) trivial
      hcurrent fun t slot hslot ht => ?_).mono (fun _ t ht => ?_) (fun _ _ ht => ht)
      fun _ ht => ht)
    · cases slot with
      | current => exact absurd rfl hslot
      | next => exact ht
      | backup => exact ht
    · rw [ht]
      exact hcurrent

/-- Reading keeps what is selected, and answers it. -/
def Answers (codec : RecordCodec ProfileRestoreActivationJournal) (s : Slots)
    (answer : Option ProfileRestoreActivationJournal) (t : Slots) : Prop :=
  (answer = none ∧ s = Slots.empty ∧ t = Slots.empty) ∨
    ∃ journal, answer = some journal ∧ Selects codec s journal ∧ Selects codec t journal

/-- Whatever is selected stays selected. -/
def Keeps (codec : RecordCodec ProfileRestoreActivationJournal) (s t : Slots) : Prop :=
  ∀ journal, Selects codec s journal → Selects codec t journal

/-- A read answers what is stored and keeps it. -/
theorem wp_read {expected : Option ProfileRestoreActivationJournal} :
    wp AnyFate (read codec expected withAuthority mutation)
      ⟨Answers codec s, fun _ => Keeps codec s, Keeps codec s⟩ s := by
  have hkeeps : Keeps codec s s := fun _ h => h
  rw [read]
  split
  · exact wp_throw hkeeps
  have hexpected : ∀ selected, ∀ J : Slots → Prop,
      Maintains AnyFate J (assertExpected expected selected) := by
    intro selected J
    cases expected with
    | none => exact maintains_pure
    | some _ =>
        cases selected with
        | none => exact maintains_throw
        | some _ => exact maintains_assertMatches
  refine wp_bind (wp_selectJournal hkeeps (fun hempty => ?_)
    fun slot b journal hb hselected hstores hcurrent hbackup => ?_)
  · refine wp_skip (hexpected _) hkeeps fun _ => ?_
    refine wp_skip (fun _ => maintains_callWhen) hkeeps fun _ => ?_
    exact wp_pure (.inl ⟨rfl, hempty, hempty⟩)
  refine wp_skip (hexpected _) hkeeps fun _ => ?_
  refine wp_skip (fun _ => maintains_callWhen) hkeeps fun _ => ?_
  have hselects : Selects codec s journal := ⟨b, hselected, hstores⟩
  suffices hrepair : wp AnyFate (repair withAuthority mutation (some (journal, slot)))
      ⟨fun answer t => answer = some journal ∧ Selects codec t journal,
        fun _ t => Selects codec t journal, fun t => Selects codec t journal⟩ s by
    have hkept : ∀ t, Selects codec t journal → Keeps codec s t := by
      intro t ht other hother
      rw [selects_unique hother hselects]
      exact ht
    exact hrepair.mono (fun _ _ ht => .inr ⟨journal, ht.1, hselects, ht.2⟩)
      (fun _ t ht => hkept t ht) hkept
  obtain ⟨current, next, backup⟩ := s
  have hplace : ∀ t : Slots, t.current = some b → Selects codec t journal := fun t ht =>
    ⟨b, StoredValue.selected_current ht, hstores⟩
  cases slot with
  | current =>
      refine wp_bind ((wp_removeRecoverySlots_current hb).mono (fun _ t ht => ?_)
        (fun _ t ht => hplace t ht) fun t ht => hplace t ht)
      exact wp_pure ⟨rfl, hplace t ht⟩
  | backup =>
      cases hb
      refine wp_skip (fun _ => maintains_callWhen) hselects fun _ => ?_
      refine wp_bind (wp_file (wp_rename trivial hselects fun c hc => ?_))
      cases hc
      refine ⟨hplace _ rfl, wp_bind ((wp_removePresentRecoverySlot
        (I := fun t => t.current = some b) (Q := fun _ t => t.current = some b) rfl rfl
        fun _ ht => ht).mono (fun _ t ht => ?_) (fun _ t ht => hplace t ht)
        fun t ht => hplace t ht)⟩
      refine wp_skip (fun _ => maintains_housekeeping) (hplace t ht) fun _ => ?_
      exact wp_pure ⟨rfl, hplace t ht⟩
  | next =>
      cases hb
      refine wp_skip (fun _ => maintains_callWhen) hselects fun _ => ?_
      refine wp_bind (wp_file (wp_rename trivial hselects fun c hc => ?_))
      cases hc
      refine ⟨hplace _ rfl, ?_⟩
      refine wp_skip (fun _ => maintains_pure) (hplace _ rfl) fun _ => ?_
      refine wp_skip (fun _ => maintains_housekeeping) (hplace _ rfl) fun _ => ?_
      exact wp_pure ⟨rfl, hplace _ rfl⟩

/-! ## Removing -/

/-- The expected journal, or no file at all. -/
def SelectedOrEmpty (codec : RecordCodec ProfileRestoreActivationJournal)
    (expected : ProfileRestoreActivationJournal) (t : Slots) : Prop :=
  Selects codec t expected ∨ t = Slots.empty

/-- What an interrupted clearing leaves of what was selected before it. -/
def LeftOf (codec : RecordCodec ProfileRestoreActivationJournal) (s : Slots)
    (expected : ProfileRestoreActivationJournal) (t : Slots) : Prop :=
  ∀ journal, Selects codec s journal →
    Selects codec t journal ∨ (journal = expected ∧ t = Slots.empty)

/-- One round removes its slot from what still holds the expected journal. -/
theorem wp_clearSlot (hI : I s) (hselected : Selects codec s expected →
      I (s.set slot none) ∧ Q () (s.set slot none)) :
    wp AnyFate (clearSlot codec expected withAuthority mutation slot) ⟨Q, fun _ => I, I⟩ s := by
  refine wp_skip (fun _ => maintains_callWhen) hI fun _ => ?_
  refine wp_bind (wp_peek hI (fun _ => ?_) fun journal hjournal => ?_)
  · exact wp_bind (wp_assertMatches hI nofun)
  refine wp_bind (wp_assertMatches hI fun hsame => ?_)
  cases hsame
  obtain ⟨hremoved, hQ⟩ := hselected hjournal
  refine wp_skip (fun _ => maintains_callWhen) hI fun _ => ?_
  refine wp_skip (fun _ => maintains_callWhen) hI fun _ => ?_
  exact wp_file (wp_rm trivial hI hremoved hQ)

/-- A removal that is cut off leaves the journal or nothing. -/
theorem wp_clear : wp AnyFate (clear codec (some expected) withAuthority mutation)
      ⟨fun _ t => t = Slots.empty ∧ LeftOf codec s expected t, fun _ => LeftOf codec s expected,
        LeftOf codec s expected⟩ s := by
  have hunchanged : LeftOf codec s expected s := fun _ h => .inl h
  have hleft : Selects codec s expected → ∀ t, SelectedOrEmpty codec expected t →
      LeftOf codec s expected t := by
    intro hs t ht other hother
    rw [selects_unique hother hs]
    exact ht.imp_right fun hempty => ⟨rfl, hempty⟩
  rw [clear]
  split
  · exact wp_throw hunchanged
  obtain ⟨current, next, backup⟩ := s
  refine wp_bind (wp_clearSlot hunchanged fun hs => ?_)
  have hnext : SelectedOrEmpty codec expected ⟨current, none, backup⟩ := by
    obtain ⟨b, hb, hstores⟩ := hs
    cases current with
    | some _ => exact .inl ⟨b, hb, hstores⟩
    | none =>
        cases backup with
        | some _ => exact .inl ⟨b, hb, hstores⟩
        | none => exact .inr rfl
  refine ⟨hleft hs _ hnext, wp_bind (wp_clearSlot (hleft hs _ hnext) fun hs' => ?_)⟩
  have hbackup : SelectedOrEmpty codec expected ⟨current, none, none⟩ := by
    obtain ⟨b, hb, hstores⟩ := hs'
    cases current with
    | some _ => exact .inl ⟨b, hb, hstores⟩
    | none => exact .inr rfl
  refine ⟨hleft hs _ hbackup, wp_bind (wp_clearSlot (hleft hs _ hbackup) fun _ => ?_)⟩
  have hempty : LeftOf codec ⟨current, next, backup⟩ expected Slots.empty :=
    hleft hs _ (.inr rfl)
  exact ⟨hempty, wp_skipLast (fun _ => maintains_housekeeping) hempty ⟨rfl, hempty⟩⟩

end ProfileRestoreActivationJournalStore
