import Eky.RecordHistory
import Eky.UpdateJournalStore
import Eky.TransitionSystem

/-! # Whether the update journal goes back

    From a write that has succeeded until a clearing that has, the journal should
    only go on: the same correlation, no lower revision, in every slot that a read
    may go by.  `write` looks for a conflict in the current slot alone, and `clear`
    removes the three slots in any order; so this holds of the histories in which no
    write without selection starts while the current slot is missing, and no
    clearing while the next slot holds an incomplete file. -/

namespace UpdateJournalStore

open Program StoredValue RecordFiles

variable {T : Type}

/-- `later` goes on with `earlier`. -/
def Continues (correlationId : T → String) (revision : T → Nat) (earlier later : T) : Prop :=
  correlationId later = correlationId earlier ∧ revision earlier ≤ revision later

variable {expected : T} {b : Bytes} {selection : Option T} {selected : Bool}
  {outcome : Outcome RecordError Unit} {Q : Unit → Slots → Prop}

section Journal

variable {codec : RecordCodec T} {correlationId : T → String} {revision : T → Nat}
  {committed journal : T} {s t : Slots}

theorem continues_refl : Continues correlationId revision committed committed :=
  ⟨rfl, Nat.le_refl _⟩

theorem Continues.trans {first second third : T}
    (h : Continues correlationId revision first second)
    (h' : Continues correlationId revision second third) :
    Continues correlationId revision first third :=
  ⟨h'.1.trans h.1, Nat.le_trans h.2 h'.2⟩

/-- The file is a complete journal that goes on with the committed one. -/
def Later (codec : RecordCodec T) (correlationId : T → String) (revision : T → Nat)
    (committed : T) (b : Bytes) : Prop :=
  ∃ journal, codec.parse b = some journal ∧ Continues correlationId revision committed journal

theorem later_serialize (h : Continues correlationId revision committed journal) :
    Later codec correlationId revision committed (codec.serialize journal) :=
  ⟨journal, codec.parse_serialize journal, h⟩

/-- A committed journal, or one that goes on with it, is recoverable, and no slot holds
    one that goes back.  The next file may be part of a text. -/
structure Kept (codec : RecordCodec T) (correlationId : T → String) (revision : T → Nat)
    (committed : T) (s : Slots) : Prop where
  recoverable : s.Recoverable (Later codec correlationId revision committed)
  backup : ∀ b, s.backup = some b → Later codec correlationId revision committed b
  next : ∀ b journal, s.next = some b → codec.parse b = some journal →
    Continues correlationId revision committed journal

/-- A clearing may leave the next file alone behind; then that one is complete. -/
def OnlyLater (codec : RecordCodec T) (correlationId : T → String) (revision : T → Nat)
    (committed : T) (s : Slots) : Prop :=
  Kept codec correlationId revision committed s ∨
    ∃ b, s = ⟨none, some b, none⟩ ∧ Later codec correlationId revision committed b

theorem kept_current (hb : Later codec correlationId revision committed b) :
    Kept codec correlationId revision committed ⟨some b, none, none⟩ where
  recoverable := Slots.recoverable_current hb
  backup := nofun
  next := nofun

theorem kept_backup {next : Option Bytes} (hb : Later codec correlationId revision committed b)
    (hnext : ∀ c journal, next = some c → codec.parse c = some journal →
      Continues correlationId revision committed journal) :
    Kept codec correlationId revision committed ⟨none, next, some b⟩ where
  recoverable := Slots.recoverable_backup hb
  backup c hc := by
    cases hc
    exact hb
  next := hnext

/-- Leftovers beside the current file that do not go back. -/
theorem kept_beside {next backup : Option Bytes}
    (hb : Later codec correlationId revision committed b)
    (hbackup : ∀ c, backup = some c → Later codec correlationId revision committed c)
    (hnext : ∀ c journal, next = some c → codec.parse c = some journal →
      Continues correlationId revision committed journal) :
    Kept codec correlationId revision committed ⟨some b, next, backup⟩ where
  recoverable := Slots.recoverable_current hb
  backup := hbackup
  next := hnext

/-- What is written to the next file, is part of a journal that goes on. -/
theorem next_of_part (h : Continues correlationId revision committed journal) (n : Nat)
    (c : Bytes) (other : T) (hc : some ((codec.serialize journal).take n) = some c)
    (hparse : codec.parse c = some other) : Continues correlationId revision committed other := by
  cases hc
  rwa [codec.parse_prefix journal n other hparse]

theorem Kept.removeNext (h : Kept codec correlationId revision committed s) :
    Kept codec correlationId revision committed (s.set .next none) where
  recoverable := h.recoverable
  backup := h.backup
  next := nofun

/-- A current file is later, whatever is beside it. -/
theorem Kept.current (h : Kept codec correlationId revision committed s)
    (hcurrent : s.current = some b) : Later codec correlationId revision committed b := by
  rcases h.recoverable with ⟨c, hc, hsome⟩ | ⟨hnone, _⟩
  · rw [hcurrent] at hsome
    cases hsome
    exact hc
  · rw [hcurrent] at hnone
    cases hnone

theorem OnlyLater.kept (h : OnlyLater codec correlationId revision committed s)
    (hcurrent : s.current.isSome) : Kept codec correlationId revision committed s := by
  rcases h with hkept | ⟨b, rfl, _⟩
  · exact hkept
  · cases hcurrent

/-- Some file is a complete journal that goes on with the committed one. -/
theorem OnlyLater.exists_slot (h : OnlyLater codec correlationId revision committed s) :
    ∃ slot b, s.get slot = some b ∧ Later codec correlationId revision committed b := by
  rcases h with hkept | ⟨b, rfl, hb⟩
  · rcases hkept.recoverable with ⟨b, hb, hcurrent⟩ | ⟨_, b, hb, hbackup⟩
    · exact ⟨.current, b, hcurrent, hb⟩
    · exact ⟨.backup, b, hbackup, hb⟩
  · exact ⟨.next, b, rfl, hb⟩

/-! ## Writing -/

/-- What a write of `journal` from `s` leaves when it does not return: for every
    journal that was kept before and that `journal` goes on with, one that does. -/
def Holding (codec : RecordCodec T) (correlationId : T → String) (revision : T → Nat)
    (s : Slots) (journal : T) (t : Slots) : Prop :=
  ∀ committed, Kept codec correlationId revision committed s → s.current.isSome →
    Continues correlationId revision committed journal →
    Kept codec correlationId revision committed t

theorem holding_refl : Holding codec correlationId revision s journal s := fun _ h _ _ => h

theorem Holding.removeNext (h : Holding codec correlationId revision s journal t) :
    Holding codec correlationId revision s journal (t.set .next none) :=
  fun committed hs hcurrent hjournal => (h committed hs hcurrent hjournal).removeNext

/-- The slots of a write that start with the current file: what that file may become. -/
theorem holding_of_current {current next backup : Option Bytes}
    (h : ∀ committed b, current = some b → Later codec correlationId revision committed b →
      Kept codec correlationId revision committed ⟨some b, next, backup⟩ →
      Continues correlationId revision committed journal →
      Kept codec correlationId revision committed t) :
    Holding codec correlationId revision ⟨current, next, backup⟩ journal t := by
  intro committed hs hcurrent hjournal
  obtain ⟨b, rfl⟩ := Option.isSome_iff_exists.mp hcurrent
  refine h committed b rfl ?_ hs hjournal
  exact hs.current rfl

section Shapes

variable {current next backup : Option Bytes}

theorem holding_withoutNext :
    Holding codec correlationId revision ⟨current, next, backup⟩ journal
      ⟨current, none, backup⟩ :=
  Holding.removeNext holding_refl

theorem holding_alone :
    Holding codec correlationId revision ⟨current, next, backup⟩ journal ⟨current, none, none⟩ :=
  holding_of_current fun _ _ hb hlater _ _ => hb ▸ kept_current hlater

theorem holding_part (n : Nat) :
    Holding codec correlationId revision ⟨current, next, backup⟩ journal
      ⟨current, some ((codec.serialize journal).take n), none⟩ :=
  holding_of_current fun _ _ hb hlater _ hjournal =>
    hb ▸ kept_beside hlater nofun (next_of_part hjournal n)

theorem holding_written :
    Holding codec correlationId revision ⟨current, next, backup⟩ journal
      ⟨current, some (codec.serialize journal), none⟩ := by
  have hall : Holding codec correlationId revision ⟨current, next, backup⟩ journal
      ⟨current, some ((codec.serialize journal).take (codec.serialize journal).length), none⟩ :=
    holding_part _
  rwa [List.take_length] at hall

theorem holding_aside :
    Holding codec correlationId revision ⟨current, next, backup⟩ journal
      ⟨none, some (codec.serialize journal), current⟩ :=
  holding_of_current fun committed _ hb hlater _ hjournal => by
    have hwritten : ∀ c other, some (codec.serialize journal) = some c →
        codec.parse c = some other → Continues correlationId revision committed other := by
      have hpart := @next_of_part _ codec _ _ _ _ hjournal (codec.serialize journal).length
      rwa [List.take_length] at hpart
    exact hb ▸ kept_backup hlater hwritten

theorem holding_published :
    Holding codec correlationId revision ⟨current, next, backup⟩ journal
      ⟨some (codec.serialize journal), none, current⟩ :=
  holding_of_current fun _ _ hb hlater _ hjournal => by
    refine kept_beside (later_serialize hjournal) (fun c hc => ?_) nofun
    rw [hb] at hc
    cases hc
    exact hlater

theorem holding_only :
    Holding codec correlationId revision ⟨current, next, backup⟩ journal
      (Slots.only (codec.serialize journal)) :=
  holding_of_current fun _ _ _ _ _ hjournal => kept_current (later_serialize hjournal)

end Shapes

section Programs

variable {allowed : Fate → Prop} {I : Slots → Prop}

theorem wp_assertAuthority {R : RecordError → Slots → Prop} (hdefault : allowed default) (hI : I s)
    (hR : R .conflict s) (hQ : Q () s) : wp allowed (assertAuthority selected) ⟨Q, R, I⟩ s := by
  cases selected with
  | false => exact wp_pure hQ
  | true =>
      show wp allowed (attemptNothing .conflict) ⟨Q, R, I⟩ s
      refine wp_attempt_errors hdefault hI (fun _ h => by cases h) ?_
      rintro _ t ⟨⟩
      exact ⟨hR, hR, hI, hQ⟩

theorem wp_assertSlotAbsent {slot : Slot} (hdefault : allowed default) (hI : I s)
    (hQ : s.get slot = none → Q () s) :
    wp allowed (assertSlotAbsent slot) ⟨Q, fun _ => I, I⟩ s := by
  refine wp_attempt hdefault hI fun _ t h => ?_
  split at h
  · cases h
  · rename_i habsent
    cases h
    exact ⟨hI, hQ (by simpa using habsent)⟩

/-- A write with selection goes on only from the expected journal and nothing else. -/
theorem wp_assertSelected [DecidableEq T] {ownedNext : Bool} (hdefault : allowed default) (hI : I s)
    (hQ : s.backup = none → (ownedNext = false → s.next = none) → s.current.isSome → Q () s) :
    wp allowed (assertSelected codec expected ownedNext) ⟨Q, fun _ => I, I⟩ s := by
  have hexpected : ∀ selected : Option T, (selected.isSome → Q () s) →
      wp allowed (do
        if selected ≠ some expected then throw .conflict
        assertAuthority true) ⟨Q, fun _ => I, I⟩ s := by
    intro selected hsome
    split
    · exact wp_bind (wp_throw hI)
    · rename_i hsame
      rw [not_ne_iff] at hsame
      exact wp_assertAuthority hdefault hI hI (hsome (by rw [hsame]; rfl))
  refine wp_bind (wp_assertAuthority hdefault hI hI ?_)
  refine wp_bind (wp_assertSlotAbsent hdefault hI fun hbackup => ?_)
  have hcurrent : (ownedNext = false → s.next = none) → wp allowed
      (do
        let selected ← readRecord codec maximumUpdateJournalBytes .current
        if selected ≠ some expected then throw .conflict
        assertAuthority true) ⟨Q, fun _ => I, I⟩ s :=
    fun hnext => wp_bind (wp_readRecord hdefault hI (fun _ => hexpected none nofun)
      fun b record hb _ => hexpected (some record) fun _ => hQ hbackup hnext
        (by rw [show s.current = some b from hb]; rfl))
  cases ownedNext with
  | true => exact hcurrent nofun
  | false => exact wp_bind (wp_assertSlotAbsent hdefault hI fun hnext => hcurrent fun _ => hnext)

theorem wp_setAside {Q : Bool → Slots → Prop} (hdefault : allowed default) (hI : I s)
    (hnone : s.current = none → Q false s) (hsome : ∀ b, s.current = some b →
      I ⟨none, s.next, some b⟩ ∧ Q true ⟨none, s.next, some b⟩) :
    wp allowed (setAside selected) ⟨Q, fun _ => I, I⟩ s := by
  have hother : ∀ (error : RecordError) u, error ≠ .io .noEntry → I u →
      wp allowed
        (if error ≠ .io .noEntry then throw error
          else if selected then throw .conflict else pure false : RecordProgram Bool)
        ⟨Q, fun _ => I, I⟩ u := by
    intro error u herror hu
    rw [if_pos herror]
    exact wp_throw hu
  refine wp_tryCatch (wp_bind (wp_assertAuthority hdefault hI (hother _ _ nofun hI) ?_))
  refine wp_bind (wp_attempt_errors hdefault hI (fun refusal h => ?_) fun a t h => ?_)
  · cases hcurrent : s.current with
    | none =>
        rw [show s.get .current = none from hcurrent] at h
        cases h
        dsimp only
        rw [if_neg (fun h => h rfl)]
        cases selected with
        | true => exact wp_throw hI
        | false => exact wp_pure (hnone hcurrent)
    | some b =>
        rw [show s.get .current = some b from hcurrent] at h
        cases h
  · cases hcurrent : s.current with
    | none =>
        rw [show s.get .current = none from hcurrent] at h
        cases h
    | some b =>
        rw [show s.get .current = some b from hcurrent] at h
        cases h
        obtain ⟨hkept, hmoved⟩ := hsome b hcurrent
        exact ⟨hother _ _ nofun hI, hother _ _ nofun hkept, hkept, wp_pure hmoved⟩

variable {current next backup : Option Bytes}

section

variable (hdefault : allowed default)
include hdefault

theorem wp_fillNext : wp allowed (fillNext (codec.serialize journal))
      ⟨fun _ t => t = ⟨current, some (codec.serialize journal), none⟩,
        fun _ => Holding codec correlationId revision ⟨current, next, backup⟩ journal,
        Holding codec correlationId revision ⟨current, next, backup⟩ journal⟩
      ⟨current, some [], none⟩ := by
  refine wp_andFinally (wp.mono (?_ : wp allowed _
    ⟨fun _ t => t = ⟨current, some (codec.serialize journal), none⟩,
      fun _ => Holding codec correlationId revision ⟨current, next, backup⟩ journal,
      Holding codec correlationId revision ⟨current, next, backup⟩ journal⟩ _)
    ?_ ?_ fun _ ht => ht)
  · exact wp_bind (wp_writeFile hdefault holding_part
      (wp_housekeeping hdefault holding_written rfl))
  · rintro _ t rfl
    exact wp_housekeeping hdefault holding_written rfl
  · rintro _ t ht
    exact wp_housekeeping hdefault ht ht

theorem wp_publish : wp allowed (publish selected)
      ⟨fun _ t => t = Slots.only (codec.serialize journal),
        fun _ => Holding codec correlationId revision ⟨current, next, backup⟩ journal,
        Holding codec correlationId revision ⟨current, next, backup⟩ journal⟩
      ⟨current, some (codec.serialize journal), none⟩ := by
  refine wp_bind (wp_setAside hdefault holding_written (fun hcurrent => ?_) fun b hb => ?_)
  · -- Without a current file there is nothing to restore and nothing to keep.
    cases hcurrent
    have hnothing : ∀ t, Holding codec correlationId revision ⟨none, next, backup⟩ journal t :=
      fun t => holding_of_current nofun
    refine wp_bind (wp_onError (wp.mono (?_ : wp allowed _
      ⟨fun _ t => t = Slots.only (codec.serialize journal), fun _ _ => True, fun _ => True⟩ _)
      (fun _ _ ht => wp_pure ht) (fun _ t _ => wp_pure (hnothing t)) fun t _ => hnothing t))
    refine wp_bind (wp_assertAuthority hdefault trivial trivial ?_)
    refine wp_bind (wp_rename (I := fun _ => True) hdefault trivial fun c hc => ?_)
    cases hc
    exact ⟨trivial, wp_attemptNothing (I := fun _ => True) hdefault trivial rfl⟩
  · cases hb
    refine ⟨holding_aside, wp_bind (wp_onError (wp.mono (?_ : wp allowed _
      ⟨fun _ t => t = ⟨some (codec.serialize journal), none, some b⟩,
        fun _ t => t = ⟨none, some (codec.serialize journal), some b⟩ ∨
          t = ⟨some (codec.serialize journal), none, some b⟩,
        Holding codec correlationId revision ⟨some b, next, backup⟩ journal⟩ _)
      ?_ ?_ fun _ ht => ht))⟩
    · refine wp_bind (wp_assertAuthority hdefault holding_aside (.inl rfl) ?_)
      refine wp_bind (wp_attempt_errors hdefault holding_aside (fun _ _ => .inl rfl) ?_)
      rintro _ t ⟨⟩
      refine ⟨.inl rfl, .inr rfl, holding_published, ?_⟩
      refine wp_attempt_errors hdefault holding_published (fun _ _ => .inr rfl) ?_
      rintro _ t ⟨⟩
      exact ⟨.inr rfl, .inr rfl, holding_published, rfl⟩
    · rintro _ t rfl
      refine wp_bind (wp_assertAuthority hdefault holding_published holding_published ?_)
      refine wp_bind (wp_rm hdefault holding_published holding_only ?_)
      exact wp_housekeeping hdefault holding_only rfl
    · -- The old journal goes back over whichever file is in place.
      rintro _ t (rfl | rfl)
      · refine wp_mapError (wp_rename hdefault holding_aside fun c hc => ?_)
        cases hc
        exact ⟨holding_written, holding_written⟩
      · refine wp_mapError (wp_rename hdefault holding_published fun c hc => ?_)
        cases hc
        exact ⟨holding_alone, holding_alone⟩

/-- The cleanup at the end of a write. -/
theorem wp_finallyRemoveNext {m : RecordProgram Unit} (h : wp allowed m
      ⟨fun _ t => t = Slots.only (codec.serialize journal),
        fun _ => Holding codec correlationId revision ⟨current, next, backup⟩ journal,
        Holding codec correlationId revision ⟨current, next, backup⟩ journal⟩ s) :
    wp allowed (andFinally (mapError conflictOr m) (ignoreError (rm .next)))
      ⟨fun _ t => t = Slots.only (codec.serialize journal),
        fun _ => Holding codec correlationId revision ⟨current, next, backup⟩ journal,
        Holding codec correlationId revision ⟨current, next, backup⟩ journal⟩ s := by
  refine wp_andFinally (wp_mapError (h.mono ?_ ?_ fun _ ht => ht))
  · rintro _ t rfl
    refine wp_ignoreError ((wp_rm (I := (· = Slots.only (codec.serialize journal))) hdefault
      rfl rfl rfl).mono (fun _ _ hu => hu) (fun _ _ hu => hu) ?_)
    rintro u rfl
    exact holding_only
  · rintro _ t ht
    exact wp_ignoreError (wp_rm hdefault ht ht.removeNext ht.removeNext)

theorem wp_writeUnselected : wp allowed (writeUnselected (codec.serialize journal))
      ⟨fun _ t => t = Slots.only (codec.serialize journal),
        fun _ => Holding codec correlationId revision ⟨current, next, backup⟩ journal,
        Holding codec correlationId revision ⟨current, next, backup⟩ journal⟩
      ⟨current, next, backup⟩ := by
  refine wp_finallyRemoveNext hdefault (wp_bind (wp_housekeeping hdefault holding_refl ?_))
  refine wp_bind (wp_rm hdefault holding_refl holding_withoutNext ?_)
  refine wp_bind (wp_rm hdefault holding_withoutNext holding_alone ?_)
  have hempty : Holding codec correlationId revision ⟨current, next, backup⟩ journal
      ⟨current, some [], none⟩ := holding_part 0
  refine wp_bind (wp_bind (wp_openNext hdefault holding_alone hempty ?_))
  refine (wp_fillNext hdefault).mono ?_ (fun _ _ ht => ht) fun _ ht => ht
  rintro _ t rfl
  exact wp_bind (wp_housekeeping hdefault holding_written (wp_publish hdefault))

theorem wp_writeSelected [DecidableEq T] :
    wp allowed (writeSelected codec expected (codec.serialize journal))
      ⟨fun _ t => t = Slots.only (codec.serialize journal) ∧ current.isSome,
        fun _ => Holding codec correlationId revision ⟨current, next, backup⟩ journal,
        Holding codec correlationId revision ⟨current, next, backup⟩ journal⟩
      ⟨current, next, backup⟩ := by
  have hempty : Holding codec correlationId revision ⟨current, next, backup⟩ journal
      ⟨current, some [], none⟩ := holding_part 0
  refine wp_bind (wp_mapError (wp_bind (wp_assertSelected hdefault holding_refl
    fun hbackup hnext hcurrent => ?_)))
  cases hbackup
  cases hnext rfl
  refine wp_bind (wp_housekeeping hdefault holding_refl ?_)
  refine wp_openNext hdefault holding_refl hempty ?_
  refine (wp_finallyRemoveNext hdefault ?_).mono (fun _ _ ht => ⟨ht, hcurrent⟩)
    (fun _ _ ht => ht) fun _ ht => ht
  refine wp_bind ((wp_fillNext hdefault).mono ?_ (fun _ _ ht => ht) fun _ ht => ht)
  rintro _ t rfl
  refine wp_bind (wp_housekeeping hdefault holding_written ?_)
  exact wp_bind (wp_assertSelected hdefault holding_written fun _ _ _ => wp_publish hdefault)

/-- Without a current file there is nothing that was selected. -/
theorem wp_writeSelected_missing [DecidableEq T] {content : Bytes} (hs : s.current = none) :
    wp allowed (writeSelected codec expected content)
      ⟨fun _ _ => False, fun _ t => t = s, fun t => t = s⟩ s := by
  refine wp_bind (wp_mapError (wp_bind (wp_assertSelected hdefault rfl fun _ _ hcurrent => ?_)))
  rw [hs] at hcurrent
  cases hcurrent

end

/-- The new journal goes on with the one in place, which a selection requires. -/
structure Accepts (codec : RecordCodec T) (correlationId : T → String) (revision : T → Nat)
    (s : Slots) (selection : Option T) (journal : T) : Prop where
  continues : ∀ b current, s.current = some b → codec.parse b = some current →
    Continues correlationId revision current journal
  selected : selection.isSome → s.current.isSome

theorem Accepts.continues_committed
    (haccepts : Accepts codec correlationId revision s selection journal)
    (h : OnlyLater codec correlationId revision committed s) (hcurrent : s.current.isSome) :
    Continues correlationId revision committed journal := by
  obtain ⟨b, hb⟩ := Option.isSome_iff_exists.mp hcurrent
  obtain ⟨current, hparse, hlater⟩ := (h.kept hcurrent).current hb
  exact hlater.trans (haccepts.continues b current hb hparse)

/-- What a write leaves that does not return: it was refused, or it holds on to what
    was there. -/
def Abandoned (codec : RecordCodec T) (correlationId : T → String) (revision : T → Nat)
    (s : Slots) (selection : Option T) (journal : T) (t : Slots) : Prop :=
  t = s ∨ (Accepts codec correlationId revision s selection journal ∧
    Holding codec correlationId revision s journal t)

/-- A write is accepted only after its predecessor. -/
theorem wp_write [DecidableEq T] (hdefault : allowed default) :
    wp allowed (write codec correlationId revision journal selection)
      ⟨fun _ t => t = Slots.only (codec.serialize journal) ∧
          Accepts codec correlationId revision s selection journal,
        fun _ => Abandoned codec correlationId revision s selection journal,
        Abandoned codec correlationId revision s selection journal⟩ s := by
  have hchosen : (∀ b current, s.current = some b → codec.parse b = some current →
        Continues correlationId revision current journal) →
      wp allowed
        (selection.elim (writeUnselected (codec.serialize journal))
          fun expected => writeSelected codec expected (codec.serialize journal))
        ⟨fun _ t => t = Slots.only (codec.serialize journal) ∧
            Accepts codec correlationId revision s selection journal,
          fun _ => Abandoned codec correlationId revision s selection journal,
          Abandoned codec correlationId revision s selection journal⟩ s := by
    intro hcontinues
    cases selection with
    | none =>
        have haccepts : Accepts codec correlationId revision s none journal :=
          ⟨hcontinues, fun h => by cases h⟩
        exact (wp_writeUnselected hdefault).mono (fun _ _ ht => ⟨ht, haccepts⟩)
          (fun _ _ ht => .inr ⟨haccepts, ht⟩) fun _ ht => .inr ⟨haccepts, ht⟩
    | some expected =>
        by_cases hcurrent : s.current.isSome
        · have haccepts : Accepts codec correlationId revision s (some expected) journal :=
            ⟨hcontinues, fun _ => hcurrent⟩
          exact (wp_writeSelected hdefault).mono (fun _ _ ht => ⟨ht.1, haccepts⟩)
            (fun _ _ ht => .inr ⟨haccepts, ht⟩) fun _ ht => .inr ⟨haccepts, ht⟩
        · rw [Option.not_isSome_iff_eq_none] at hcurrent
          exact (wp_writeSelected_missing hdefault hcurrent).mono (fun _ _ ht => ht.elim)
            (fun _ _ ht => .inl ht) fun _ ht => .inl ht
  refine wp_bind (wp_readRecord hdefault (.inl rfl) (fun hmissing => ?_)
    fun b current hb hstores => ?_)
  · have hwrites := hchosen fun b current hb _ => by
      rw [show s.current = none from hmissing] at hb
      cases hb
    refine wp_bind (wp_pure ?_)
    cases selection <;> exact hwrites
  · refine wp_bind ?_
    rw [refuseConflict]
    split
    · exact wp_throw (.inl rfl)
    · rename_i hgoesOn
      rw [not_or, not_ne_iff, Nat.not_lt] at hgoesOn
      have hwrites := hchosen fun c record hc hparse => by
        rw [show s.current = some b from hb] at hc
        cases hc
        rw [hstores.2] at hparse
        cases hparse
        exact ⟨hgoesOn.1.symm, hgoesOn.2⟩
      refine wp_pure ?_
      cases selection <;> exact hwrites

/-! ## Reading and clearing -/

/-- An answer that does not go back. -/
def Answers (correlationId : T → String) (revision : T → Nat) (committed : T)
    (answer : Option T) : Prop :=
  ∃ journal, answer = some journal ∧ Continues correlationId revision committed journal

theorem answers_of_stores {record : T} (hb : Later codec correlationId revision committed b)
    (hstores : Stores codec maximumUpdateJournalBytes b record) :
    Answers correlationId revision committed (some record) := by
  obtain ⟨journal, hparse, hcontinues⟩ := hb
  rw [hstores.2] at hparse
  cases hparse
  exact ⟨record, rfl, hcontinues⟩

/-- No read goes back behind what was committed. -/
theorem wp_read (hdefault : allowed default)
    (h : OnlyLater codec correlationId revision committed s) :
    wp allowed (read codec)
      ⟨fun answer t => Answers correlationId revision committed answer ∧
          OnlyLater codec correlationId revision committed t,
        fun _ => OnlyLater codec correlationId revision committed,
        OnlyLater codec correlationId revision committed⟩ s := by
  obtain ⟨current, next, backup⟩ := s
  refine wp_bind (wp_readRecord hdefault h (fun hcurrent => ?_) fun b record hb hstores => ?_)
  · cases hcurrent
    refine wp_bind (wp_readRecord hdefault h (fun hbackup => ?_) fun b record hb hstores => ?_)
    · cases hbackup
      refine wp_bind (wp_readRecord hdefault h (fun hnext => ?_) fun b record hb hstores => ?_)
      · cases hnext
        obtain ⟨slot, b, hb, _⟩ := h.exists_slot
        cases slot <;> cases hb
      · cases hb
        have hb : Later codec correlationId revision committed b := by
          obtain ⟨slot, c, hc, hlater⟩ := h.exists_slot
          cases slot <;> cases hc
          exact hlater
        have hpromoted : OnlyLater codec correlationId revision committed ⟨some b, none, none⟩ :=
          .inl (kept_current hb)
        refine wp_bind (wp_rename hdefault h fun c hc => ?_)
        cases hc
        exact ⟨hpromoted, wp_bind (wp_housekeeping hdefault hpromoted
          (wp_pure ⟨answers_of_stores hb hstores, hpromoted⟩))⟩
    · cases hb
      have hkept : Kept codec correlationId revision committed ⟨none, next, some b⟩ := by
        rcases h with hkept | ⟨c, hc, _⟩
        · exact hkept
        · cases hc
      have hb := hkept.backup b rfl
      have hrestored : OnlyLater codec correlationId revision committed ⟨some b, next, none⟩ :=
        .inl (kept_beside hb nofun hkept.next)
      have honly : OnlyLater codec correlationId revision committed ⟨some b, none, none⟩ :=
        .inl (kept_current hb)
      refine wp_bind (wp_rename hdefault h fun c hc => ?_)
      cases hc
      refine ⟨hrestored, wp_bind (wp_rm hdefault hrestored honly ?_)⟩
      exact wp_bind (wp_housekeeping hdefault honly
        (wp_pure ⟨answers_of_stores hb hstores, honly⟩))
  · cases hb
    have hkept := h.kept rfl
    have hb := hkept.current rfl
    refine wp_bind ((wp_removeRecoverySlots_keep
      (I := fun t => t.current = some b ∧ Kept codec correlationId revision committed t)
      hdefault ⟨rfl, hkept⟩ ?_).mono ?_ (fun _ _ ht => .inl ht.2) fun _ ht => .inl ht.2)
    · rintro ⟨_, next', backup'⟩ slot hslot ⟨rfl, ht⟩
      cases slot with
      | current => exact absurd rfl hslot
      | next => exact ⟨rfl, ht.removeNext⟩
      | backup => exact ⟨rfl, kept_beside hb nofun ht.next⟩
    · rintro _ t rfl
      exact wp_pure ⟨answers_of_stores hb hstores, .inl (kept_current hb)⟩

/-- Every file is a complete journal that goes on with the committed one. -/
def AllLater (codec : RecordCodec T) (correlationId : T → String) (revision : T → Nat)
    (committed : T) (s : Slots) : Prop :=
  ∀ slot b, s.get slot = some b → Later codec correlationId revision committed b

theorem AllLater.remove (h : AllLater codec correlationId revision committed s) (slot : Slot) :
    AllLater codec correlationId revision committed (s.set slot none) := by
  intro other b hb
  refine h other b ?_
  cases slot <;> cases other <;> first | exact hb | cases hb

/-- Whichever files are left, no one goes back. -/
theorem AllLater.onlyLater (h : AllLater codec correlationId revision committed s) :
    s = Slots.empty ∨ OnlyLater codec correlationId revision committed s := by
  obtain ⟨current, next, backup⟩ := s
  have hnext : ∀ b journal, next = some b → codec.parse b = some journal →
      Continues correlationId revision committed journal := by
    intro b journal hb hparse
    obtain ⟨later, hlater, hcontinues⟩ := h .next b hb
    rw [hlater] at hparse
    cases hparse
    exact hcontinues
  cases current with
  | some b => exact .inr (.inl (kept_beside (h .current b rfl) (h .backup) hnext))
  | none =>
      cases backup with
      | some b => exact .inr (.inl (kept_backup (h .backup b rfl) hnext))
      | none =>
          cases next with
          | some b => exact .inr (.inr ⟨b, rfl, h .next b rfl⟩)
          | none => exact .inl rfl

/-- The next file, if there is one, holds a complete text. -/
def NextComplete (codec : RecordCodec T) (s : Slots) : Prop :=
  ∀ b, s.next = some b → ∃ journal, codec.parse b = some journal

theorem OnlyLater.allLater (h : OnlyLater codec correlationId revision committed s)
    (hnext : NextComplete codec s) : AllLater codec correlationId revision committed s := by
  rcases h with hkept | ⟨b, rfl, hb⟩
  · intro slot b hb
    cases slot with
    | current => exact hkept.current hb
    | next =>
        obtain ⟨journal, hparse⟩ := hnext b hb
        exact ⟨journal, hparse, hkept.next b journal hb hparse⟩
    | backup => exact hkept.backup b hb
  · intro slot c hc
    cases slot <;> cases hc
    exact hb

theorem wp_clear (hdefault : allowed default)
    (h : AllLater codec correlationId revision committed s) :
    wp allowed clear
      ⟨fun _ t => t = Slots.empty, fun _ => AllLater codec correlationId revision committed,
        AllLater codec correlationId revision committed⟩ s :=
  wp_clearStored_keep hdefault h fun _ slot ht => ht.remove slot

end Programs

/-! ## Histories -/

/-- The journals of the writes that have returned since the last clearing. -/
def afterWrite (committed : List T) (journal : T) : Outcome RecordError Unit → List T
  | .returned () => journal :: committed
  | .threw _ => committed
  | .stopped => committed

/-- A clearing that has removed everything has ended the obligation, too, although it
    did not return. -/
def afterClear (committed : List T) (t : Slots) : Outcome RecordError Unit → List T
  | .returned () => []
  | .threw _ => interrupted
  | .stopped => interrupted
where
  interrupted : List T := if t = Slots.empty then [] else committed

/-- While a committed journal is stored, a write without selection finds it in place. -/
def WriteStarts (s : Slots) (committed : List T) (selection : Option T) : Prop :=
  committed ≠ [] → selection = none → s.current.isSome

/-- While a committed journal is stored, a clearing finds no part of a text. -/
def ClearStarts (codec : RecordCodec T) (s : Slots) (committed : List T) : Prop :=
  committed ≠ [] → NextComplete codec s

/-- An operation may be stopped between any two of its steps, so that every instant
    of a history is the end of a step.  If the history is `orderly`, writes and
    clearings start as they should. -/
inductive JournalStep (codec : RecordCodec T) (correlationId : T → String) (revision : T → Nat)
    [DecidableEq T] (orderly : Prop) : Slots × List T → Slots × List T → Prop
  | read {s t : Slots} {committed : List T} {outcome : Outcome RecordError (Option T)}
      (h : Ends (read codec) s outcome t) :
      JournalStep codec correlationId revision orderly (s, committed) (t, committed)
  | write {s t : Slots} {committed : List T} {journal : T} {selection : Option T}
      {outcome : Outcome RecordError Unit}
      (hstarts : orderly → WriteStarts s committed selection)
      (h : Ends (write codec correlationId revision journal selection) s outcome t) :
      JournalStep codec correlationId revision orderly (s, committed)
        (t, afterWrite committed journal outcome)
  | clear {s t : Slots} {committed : List T} {outcome : Outcome RecordError Unit}
      (hstarts : orderly → ClearStarts codec s committed) (h : Ends clear s outcome t) :
      JournalStep codec correlationId revision orderly (s, committed)
        (t, afterClear committed t outcome)

/-- The histories of the update journal that begin without any file. -/
def journalSystem (codec : RecordCodec T) (correlationId : T → String) (revision : T → Nat)
    [DecidableEq T] (orderly : Prop) : TransitionSystem (Slots × List T) where
  initial state := state = (Slots.empty, [])
  step := JournalStep codec correlationId revision orderly

/-- Nothing has gone back behind any of the committed journals. -/
def OnlyForward (codec : RecordCodec T) (correlationId : T → String) (revision : T → Nat)
    (state : Slots × List T) : Prop :=
  ∀ committed ∈ state.2, OnlyLater codec correlationId revision committed state.1

variable {all : List T}

theorem onlyForward_read {outcome : Outcome RecordError (Option T)}
    (h : OnlyForward codec correlationId revision (s, all)) (hends : Ends (read codec) s outcome t) :
    OnlyForward codec correlationId revision (t, all) := by
  intro committed hmem
  have hread := (wp_read trivial (h committed hmem)).ends hends
  cases outcome with
  | returned _ => exact hread.2
  | threw _ => exact hread
  | stopped => exact hread

/-- A write that goes on with the journal in place, goes on with all that were
    committed; one that is refused leaves them. -/
theorem onlyLater_write [DecidableEq T] (h : OnlyLater codec correlationId revision committed s)
    (hcurrent : selection = none → s.current.isSome)
    (hends : Ends (write codec correlationId revision journal selection) s outcome t) :
    OnlyLater codec correlationId revision committed t ∧
      (outcome = .returned () → Continues correlationId revision committed journal) := by
  have hwrite := (wp_write trivial).ends hends
  have hinPlace : Accepts codec correlationId revision s selection journal → s.current.isSome := by
    intro haccepts
    cases selection with
    | none => exact hcurrent rfl
    | some _ => exact haccepts.selected rfl
  have habandoned : Abandoned codec correlationId revision s selection journal t →
      OnlyLater codec correlationId revision committed t := by
    rintro (rfl | ⟨haccepts, hholding⟩)
    · exact h
    · have hsome := hinPlace haccepts
      exact .inl (hholding committed (h.kept hsome) hsome
        (haccepts.continues_committed h hsome))
  cases outcome with
  | returned _ =>
      obtain ⟨rfl, haccepts⟩ := hwrite
      have hcontinues := haccepts.continues_committed h (hinPlace haccepts)
      exact ⟨.inl (kept_current (later_serialize hcontinues)), fun _ => hcontinues⟩
  | threw _ => exact ⟨habandoned hwrite, nofun⟩
  | stopped => exact ⟨habandoned hwrite, nofun⟩

theorem onlyForward_write [DecidableEq T] (h : OnlyForward codec correlationId revision (s, all))
    (hstarts : WriteStarts s all selection)
    (hends : Ends (write codec correlationId revision journal selection) s outcome t) :
    OnlyForward codec correlationId revision (t, afterWrite all journal outcome) := by
  have hold : ∀ committed ∈ all, OnlyLater codec correlationId revision committed t := by
    intro committed hmem
    exact (onlyLater_write (h committed hmem) (hstarts (List.ne_nil_of_mem hmem)) hends).1
  cases outcome with
  | returned _ =>
      intro committed hmem
      rcases List.mem_cons.mp hmem with rfl | hmem
      · obtain ⟨rfl, _⟩ := (wp_write trivial).ends hends
        exact .inl (kept_current (later_serialize continues_refl))
      · exact hold committed hmem
  | threw _ => exact hold
  | stopped => exact hold

/-- A clearing that does not return, leaves nothing or what goes on. -/
theorem onlyLater_clear (h : OnlyLater codec correlationId revision committed s)
    (hnext : NextComplete codec s) (hends : Ends clear s outcome t) :
    t = Slots.empty ∨ OnlyLater codec correlationId revision committed t := by
  have hclear := (wp_clear trivial (h.allLater hnext)).ends hends
  cases outcome with
  | returned _ => exact .inl hclear
  | threw _ => exact AllLater.onlyLater hclear
  | stopped => exact AllLater.onlyLater hclear

theorem onlyForward_clear (h : OnlyForward codec correlationId revision (s, all))
    (hstarts : ClearStarts codec s all) (hends : Ends clear s outcome t) :
    OnlyForward codec correlationId revision (t, afterClear all t outcome) := by
  have hinterrupted : OnlyForward codec correlationId revision
      (t, afterClear.interrupted all t) := by
    intro committed hmem
    simp only [afterClear.interrupted] at hmem
    split at hmem
    · cases hmem
    · rename_i hleft
      have hnext := hstarts (List.ne_nil_of_mem hmem)
      exact (onlyLater_clear (h committed hmem) hnext hends).resolve_left hleft
  cases outcome with
  | returned _ => exact nofun
  | threw _ => exact hinterrupted
  | stopped => exact hinterrupted

theorem onlyForward_of_reachable [DecidableEq T] {state : Slots × List T}
    (h : (journalSystem codec correlationId revision True).Reachable state) :
    OnlyForward codec correlationId revision state := by
  induction h with
  | initial hinitial =>
      rw [show _ = (Slots.empty, []) from hinitial]
      exact nofun
  | step _ hstep ih =>
      cases hstep with
      | read h => exact onlyForward_read ih h
      | write hstarts h => exact onlyForward_write ih (hstarts trivial) h
      | clear hstarts h => exact onlyForward_clear ih (hstarts trivial) h

/-- **THE JOURNAL NEVER GOES BACK**: in every state of an orderly history, for each
    journal that was committed since the last clearing,

    - some file is a complete journal that goes on with it;
    - a read that returns answers such a journal;
    - a write that returns has written such a journal;
    - a clearing, returned or not, leaves nothing or such a journal. -/
theorem update_journal_never_goes_back [DecidableEq T] {state : Slots × List T}
    (h : (journalSystem codec correlationId revision True).Reachable state) :
    ∀ committed ∈ state.2,
      (∃ slot b, state.1.get slot = some b ∧ Later codec correlationId revision committed b) ∧
      (∀ answer t, Ends (read codec) state.1 (.returned answer) t →
        Answers correlationId revision committed answer) ∧
      (∀ journal selection t, WriteStarts state.1 state.2 selection →
        Ends (write codec correlationId revision journal selection) state.1 (.returned ()) t →
        Continues correlationId revision committed journal) ∧
      (∀ outcome t, ClearStarts codec state.1 state.2 → Ends clear state.1 outcome t →
        t = Slots.empty ∨
          ∃ slot b, t.get slot = some b ∧ Later codec correlationId revision committed b) := by
  intro committed hmem
  have hlater := onlyForward_of_reachable h committed hmem
  have hnonempty := List.ne_nil_of_mem hmem
  refine ⟨hlater.exists_slot, fun answer t hends => ?_, fun journal selection t hstarts hends => ?_,
    fun outcome t hstarts hends => ?_⟩
  · exact ((wp_read trivial hlater).ends hends).1
  · exact (onlyLater_write hlater (hstarts hnonempty) hends).2 rfl
  · exact (onlyLater_clear hlater (hstarts hnonempty) hends).imp_right OnlyLater.exists_slot

/-- A write without selection that starts without a current file, may be stopped
    after its cleaning up: then nothing is left of what was set aside. -/
theorem writeUnselected_loses [DecidableEq T] {next backup : Option Bytes} :
    Ends (write codec correlationId revision journal none) ⟨none, next, backup⟩ .stopped
      Slots.empty :=
  ⟨[default, default, default, ⟨.crashes, none⟩], rfl, rfl⟩

/-- A clearing that starts with part of a text in the next file, may leave just that. -/
theorem clear_leaves_part {current next backup : Option Bytes} :
    Ends clear ⟨current, next, backup⟩ .stopped ⟨none, next, none⟩ :=
  ⟨[⟨.crashes, none⟩, ⟨.fails, some 0⟩], rfl, rfl⟩

end Journal

/-! ### Fixed inputs -/

/-- Two correlations of journals that are bytes. -/
def byteCorrelation (journal : UInt8) : String := if journal = 9 then "second" else "first"

/-- A write that stops between its renames leaves the committed journal set aside: a
    further write accepts another correlation, and may lose every file.  One that
    stops in the middle of the next file leaves a clearing that stops, too, with part
    of a text. -/
theorem journal_goes_back :
    (∃ state t, (journalSystem byteCodec byteCorrelation UInt8.toNat False).Reachable state ∧
      7 ∈ state.2 ∧
      Ends (write byteCodec byteCorrelation UInt8.toNat 9 none) state.1 (.returned ()) t ∧
      ¬ Continues byteCorrelation UInt8.toNat 7 9) ∧
    (∃ committed, (journalSystem byteCodec byteCorrelation UInt8.toNat False).Reachable
      (Slots.empty, committed) ∧ 7 ∈ committed) ∧
    ∃ state t, (journalSystem byteCodec byteCorrelation UInt8.toNat False).Reachable state ∧
      7 ∈ state.2 ∧ Ends clear state.1 .stopped t ∧ t ≠ Slots.empty ∧
      ∀ slot b, t.get slot = some b → byteCodec.parse b = none := by
  have hwritten : Ends (write byteCodec byteCorrelation UInt8.toNat 7 none) Slots.empty
      (.returned ()) (Slots.only [7, 10]) := ⟨[], rfl, rfl⟩
  have hstopped : Ends (write byteCodec byteCorrelation UInt8.toNat 8 none)
      (Slots.only [7, 10]) .stopped ⟨none, some [8, 10], some [7, 10]⟩ :=
    ⟨List.replicate 10 default ++ [⟨.crashes, some 0⟩], rfl, rfl⟩
  have hlost : Ends (write byteCodec byteCorrelation UInt8.toNat 8 none)
      ⟨none, some [8, 10], some [7, 10]⟩ .stopped Slots.empty := writeUnselected_loses
  have hcut : Ends (write byteCodec byteCorrelation UInt8.toNat 8 none) (Slots.only [7, 10])
      .stopped ⟨some [7, 10], some [], none⟩ :=
    ⟨List.replicate 5 default ++ [⟨.crashes, some 0⟩], rfl, rfl⟩
  have hfirst : (journalSystem byteCodec byteCorrelation UInt8.toNat False).Reachable
      (Slots.only [7, 10], [7]) := .step (.initial rfl) (.write nofun hwritten)
  have haside : (journalSystem byteCodec byteCorrelation UInt8.toNat False).Reachable
      (⟨none, some [8, 10], some [7, 10]⟩, [7]) := .step hfirst (.write nofun hstopped)
  have hpart : (journalSystem byteCodec byteCorrelation UInt8.toNat False).Reachable
      (⟨some [7, 10], some [], none⟩, [7]) := .step hfirst (.write nofun hcut)
  refine ⟨⟨_, _, haside, List.mem_cons_self, ⟨[], rfl, rfl⟩, ?_⟩,
    ⟨[7], .step haside (.write nofun hlost), List.mem_cons_self⟩,
    _, _, hpart, List.mem_cons_self, clear_leaves_part, nofun, ?_⟩
  · intro hcontinues
    exact absurd hcontinues.1 (by decide)
  · intro slot b hb
    cases slot <;> cases hb
    rfl

/-- After a write that stopped between its renames, the committed journal is read. -/
theorem never_goes_back_between_renames :
    ∃ answer t, Ends (read byteCodec) ⟨none, some [8, 10], some [7, 10]⟩ (.returned answer) t ∧
      Answers byteCorrelation UInt8.toNat 7 answer := by
  have hfirst : Ends (write byteCodec byteCorrelation UInt8.toNat 7 none) Slots.empty
      (.returned ()) (Slots.only [7, 10]) := ⟨[], rfl, rfl⟩
  have hsecond : Ends (write byteCodec byteCorrelation UInt8.toNat 8 none)
      (Slots.only [7, 10]) .stopped ⟨none, some [8, 10], some [7, 10]⟩ :=
    ⟨List.replicate 10 default ++ [⟨.crashes, some 0⟩], rfl, rfl⟩
  have hread : Ends (read byteCodec) ⟨none, some [8, 10], some [7, 10]⟩ (.returned (some 7))
      (Slots.only [7, 10]) := ⟨[], rfl, rfl⟩
  exact ⟨some 7, _, hread, (update_journal_never_goes_back
    (.step (.step (.initial rfl) (.write (fun _ h => absurd rfl h) hfirst))
      (.write (fun _ _ _ => rfl) hsecond)) 7 List.mem_cons_self).2.1 _ _ hread⟩

end UpdateJournalStore
