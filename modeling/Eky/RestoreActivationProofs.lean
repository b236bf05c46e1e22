import Eky.RestoreActivation

/-! # The activation of a restored profile — one operation

    Each slot has its original and the staged one, and `Whereabouts` says where the two
    are.  What a phase allows is decided by it alone, and every move of a file is a step
    from one of its values to the next. -/

namespace ProfileRestoreActivation

open Fallible Program RestoreProfile

variable {Content : Type} {s t : RestoreProfile Content} {operationId : String}
  {path source destination : SlotPath} {slot other : ProfileSlot} {content : Option Content}

variable {f : OperationRoots Content → OperationRoots Content} {move : Move Content}
  {w' : Whereabouts} {next : ProfileRestoreActivationPhase}

/-! ## What is on the disk -/

section Files

@[simp] theorem mapRoots_self :
    (s.mapRoots operationId f).operations operationId = f (s.operations operationId) :=
  Function.update_self ..

theorem mapRoots_other {other : String} (h : other ≠ operationId) :
    (s.mapRoots operationId f).operations other = s.operations other :=
  Function.update_of_ne h ..

@[simp] theorem mapRoots_journal : (s.mapRoots operationId f).journal = s.journal := rfl

@[simp] theorem mapRoots_active : (s.mapRoots operationId f).active = s.active := rfl

@[simp] theorem put_journal : (s.put operationId path slot content).journal = s.journal := by
  cases path <;> rfl

@[simp] theorem makeParent_journal : (s.makeParent operationId path).journal = s.journal := by
  cases path <;> rfl

theorem parent_put : (s.put operationId path slot content).parent operationId source =
    if source = path then
      (s.parent operationId path).map fun directory => Function.update directory slot content
    else s.parent operationId source := by
  cases path <;> cases source <;> simp [put, parent] <;>
    cases (s.operations operationId).failed <;> rfl

theorem contents_put : (s.put operationId path slot content).contents operationId source other =
    if source = path ∧ other = slot then (s.parent operationId path).bind fun _ => content
    else s.contents operationId source other := by
  rw [contents, parent_put]
  by_cases hpath : source = path
  · subst hpath
    rw [if_pos rfl, contents]
    cases hparent : s.parent operationId source with
    | none => simp
    | some directory => by_cases hslot : other = slot <;> simp [hslot]
  · rw [if_neg hpath, if_neg fun h => hpath h.1, contents]

@[simp] theorem contents_makeRollbackRoot :
    (s.makeRollbackRoot operationId).contents operationId path slot =
      s.contents operationId path slot := by
  cases path <;> simp [makeRollbackRoot, contents, parent]
  cases (s.operations operationId).rollback <;> rfl

@[simp] theorem contents_makeFailedRoot :
    (s.makeFailedRoot operationId).contents operationId path slot =
      s.contents operationId path slot := by
  cases path <;> simp [makeFailedRoot, contents, parent] <;>
    cases (s.operations operationId).failed <;> rfl

@[simp] theorem contents_makeParent :
    (s.makeParent operationId destination).contents operationId path slot =
      s.contents operationId path slot := by
  cases destination
  case rollback => exact contents_makeRollbackRoot
  case failedActive =>
    cases path <;> simp [makeParent, makeFailedActive, contents, parent] <;>
      cases hfailed : (s.operations operationId).failed with
      | none => rfl
      | some failed => cases hactive : failed.active <;> simp [hactive, noContents]
  all_goals rfl

@[simp] theorem put_parentPresent :
    (s.put operationId path slot content).parentPresent operationId source =
      s.parentPresent operationId source := by
  rw [parentPresent, parent_put]
  split
  · rename_i hpath
    rw [hpath, Option.isSome_map, parentPresent]
  · rfl

theorem put_failed : ((s.put operationId path slot content).operations operationId).failed.isSome =
    (s.operations operationId).failed.isSome := by
  cases path <;> simp [put]

theorem renameSlot_ok {c : Content} (hsource : s.contents operationId source slot = some c)
    (hdestination : s.parentPresent operationId destination = true) :
    s.renameSlot operationId slot source destination = .ok
      ((s.put operationId source slot none).put operationId destination slot (some c)) := by
  obtain ⟨directory, hdirectory⟩ := Option.isSome_iff_exists.mp hdestination
  rw [renameSlot, hsource, hdirectory]

/-- What a move leaves in the slots. -/
theorem contents_rename {c : Content} (hsource : s.contents operationId source slot = some c)
    (hdestination : s.parentPresent operationId destination = true) (hne : source ≠ destination) :
    ((s.put operationId source slot none).put operationId destination slot (some c)).contents
        operationId path other =
      if other = slot then
        if path = source then none
        else if path = destination then some c else s.contents operationId path other
      else s.contents operationId path other := by
  have hparent : ∀ (u : RestoreProfile Content) (path : SlotPath) (content : Option Content),
      u.parentPresent operationId path = true →
        ((u.parent operationId path).bind fun _ => content) = content := by
    intro u path content h
    obtain ⟨directory, hdirectory⟩ := Option.isSome_iff_exists.mp h
    rw [hdirectory, Option.bind_some]
  have hfrom : s.parentPresent operationId source = true := by
    cases h : s.parent operationId source with
    | none =>
        rw [contents, h] at hsource
        cases hsource
    | some _ => rw [parentPresent, h, Option.isSome_some]
  rw [contents_put, contents_put, hparent _ _ _ (put_parentPresent.trans hdestination),
    hparent _ _ _ hfrom]
  by_cases hother : other = slot
  · by_cases hpath : path = source
    · simp [hother, hpath, hne]
    · simp [hother, hpath]
  · simp [hother]

end Files

/-! ## Where a slot is -/

/-- Where the original and the staged one of a slot are. -/
inductive Whereabouts
  | untouched
  | moved
  | activated
  | setAside
  | restored
  | returned
  deriving DecidableEq

namespace Whereabouts

/-- Where the original part is. -/
def original : Whereabouts → SlotPath
  | .untouched | .restored | .returned => .active
  | .moved | .activated | .setAside => .rollback

/-- Where the staged part is. -/
def staged : Whereabouts → SlotPath
  | .untouched | .moved => .staged
  | .activated => .active
  | .setAside | .restored => .failedActive
  | .returned => .failedStaged

/-- What there is at a path. -/
def contents (w : Whereabouts) (original staged : Option Content) (path : SlotPath) :
    Option Content :=
  if path = w.staged then staged else if path = w.original then original else none

/-- Something stands in a place. -/
def present (w : Whereabouts) (hadActive : Bool) (path : SlotPath) : Bool :=
  path = w.staged || (path = w.original && hadActive)

theorem isSome_contents {w : Whereabouts} {original staged : Option Content}
    (hstaged : staged.isSome) :
    (w.contents original staged path).isSome = w.present original.isSome path := by
  rw [contents, present]
  by_cases hpath : path = w.staged
  · simp [hpath, hstaged]
  · rw [if_neg hpath]
    by_cases hpath' : path = w.original
    · rw [if_pos hpath', decide_eq_false hpath, decide_eq_true hpath']
      rfl
    · rw [if_neg hpath', decide_eq_false hpath, decide_eq_false hpath']
      rfl

/-- The slot that a forward recovery goes on from. -/
def forwardSource (w : Whereabouts) : ForwardSlot :=
  if w = .activated then .active else .staged

/-- The slot that a rollback takes the original from. -/
def originalSource (w : Whereabouts) (hadActive : Bool) : OriginalSlot :=
  if !hadActive then .absent else if w.original = .active then .active else .rollback

/-- Whether a phase allows it. -/
def allowed (failedStaging : Bool) (phase : ProfileRestoreActivationPhase) (slot : ProfileSlot)
    (w : Whereabouts) : Bool :=
  match phase.forwardIndex, (movingCurrent slot).forwardIndex,
    (activatingStaged slot).forwardIndex with
  | some current, some moving, some activating =>
    if current < moving then w = .untouched
    else if current = moving then w = .untouched || w = .moved
    else if current < activating then w = .moved
    else if current = activating then w = .moved || w = .activated
    else w = .activated
  | _, _, _ =>
    match phase with
    | .accepted => w = .activated
    | .rollbackStarting =>
      if failedStaging then w = .restored || w = .returned else w ≠ .returned
    | .rolledBack => w = .restored || w = .returned
    | _ => false

theorem forward_accepts {failedStaging hadActive : Bool} {phase : ProfileRestoreActivationPhase}
    {w : Whereabouts} (hforward : phase.forwardIndex.isSome)
    (h : w.allowed failedStaging phase slot = true) :
    readForwardRecoverySlot phase slot hadActive (w.present hadActive) =
      .ok w.forwardSource := by
  cases phase <;> cases slot <;> cases failedStaging <;> cases hadActive <;> cases w <;>
    first | rfl | (exact absurd h (by decide)) | (exact absurd hforward (by decide))

theorem rollback_accepts {failedStaging hadActive : Bool} {phase : ProfileRestoreActivationPhase}
    {w : Whereabouts} (hphase : phase = .rollbackStarting ∨ phase = .rolledBack)
    (h : w.allowed failedStaging phase slot = true) :
    readRollbackRecoverySlot (failedStaging || phase = .rolledBack) hadActive
        (w.present hadActive .active) (w.present hadActive .rollback)
        (w.present hadActive .staged || w.present hadActive .failedStaged)
        (w.present hadActive .failedActive) =
      .ok (w.originalSource hadActive) := by
  rcases hphase with rfl | rfl <;> cases slot <;> cases failedStaging <;> cases hadActive <;>
    cases w <;> first | rfl | (exact absurd h (by decide))

end Whereabouts

/-! ## What the journal says of the files -/

/-- A slot is where `w` says. -/
def Located (s : RestoreProfile Content) (operationId : String) (slot : ProfileSlot)
    (original staged : Option Content) (w : Whereabouts) : Prop :=
  ∀ path, s.contents operationId path slot = w.contents original staged path

/-- The phases in which nothing has failed yet. -/
def ahead (phase : ProfileRestoreActivationPhase) : Prop :=
  phase.forwardIndex.isSome ∨ phase = .accepted

/-- The directories that there are in a phase. -/
def RootsOf (s : RestoreProfile Content) (operationId : String)
    (phase : ProfileRestoreActivationPhase) : Prop :=
  s.parentPresent operationId .rollback = true ∧
    s.parentPresent operationId .staged = !s.parentPresent operationId .failedStaged ∧
    (ahead phase → (s.operations operationId).failed = none) ∧
    (phase = .rolledBack → s.parentPresent operationId .failedStaged = true)

/-- No phase is reached with more writes. -/
def revisionBound (phase : ProfileRestoreActivationPhase) : Nat :=
  match phase.forwardIndex with
  | some index => index
  | none => if phase = .rolledBack ∨ phase = .failedSafe then 11 else 10

/-- The files are as `phase` allows, as seen from the beginning of the operation, `start`. -/
structure Consistent (start s : RestoreProfile Content)
    (journal : ProfileRestoreActivationJournal) (phase : ProfileRestoreActivationPhase) :
    Prop where
  selected : s.journal = some journal
  revision : journal.revision ≤ revisionBound journal.phase
  hadActive : ∀ slot, journal.hadActive slot = (start.active slot).isSome
  staged : ∀ slot, (start.contents journal.operationId .staged slot).isSome
  roots : RootsOf s journal.operationId phase
  located : ∀ slot, ∃ w : Whereabouts,
    w.allowed (s.parentPresent journal.operationId .failedStaged) phase slot = true ∧
      Located s journal.operationId slot (start.active slot)
        (start.contents journal.operationId .staged slot) w

variable {start : RestoreProfile Content} {journal : ProfileRestoreActivationJournal}
  {phase : ProfileRestoreActivationPhase} {w : Whereabouts}

theorem revisionBound_of_follows {previous : ProfileRestoreActivationPhase}
    (h : previous.follows next = true) : revisionBound previous + 1 ≤ revisionBound next := by
  revert h
  cases previous <;> cases next <;> decide

theorem revisionBound_le : revisionBound phase + 1 ≤ maximumSafeInteger := by
  cases phase <;> decide

namespace Consistent

theorem present (h : Consistent start s journal phase)
    (hw : Located s journal.operationId slot (start.active slot)
      (start.contents journal.operationId .staged slot) w) :
    s.present journal.operationId path slot = w.present (journal.hadActive slot) path := by
  rw [RestoreProfile.present, hw path, Whereabouts.isSome_contents (h.staged slot),
    h.hadActive slot]

/-- Another phase may allow the same. -/
theorem weaken {other : ProfileRestoreActivationPhase} (h : Consistent start s journal phase)
    (hroots : RootsOf s journal.operationId phase → RootsOf s journal.operationId other)
    (hallowed : ∀ slot (w : Whereabouts),
      w.allowed (s.parentPresent journal.operationId .failedStaged) phase slot = true →
        w.allowed (s.parentPresent journal.operationId .failedStaged) other slot = true) :
    Consistent start s journal other where
  selected := h.selected
  revision := h.revision
  hadActive := h.hadActive
  staged := h.staged
  roots := hroots h.roots
  located slot := by
    obtain ⟨w, hw, hlocated⟩ := h.located slot
    exact ⟨w, hallowed slot w hw, hlocated⟩

/-- The journal of the next phase is written. -/
theorem advance (h : Consistent start s journal phase)
    (hfollows : journal.phase.follows phase = true)
    (hrevision : journal.revision + 1 ≤ maximumSafeInteger) :
    Consistent start { s with journal := some (advanced journal phase hrevision) }
      (advanced journal phase hrevision) phase where
  selected := rfl
  revision := Nat.le_trans (Nat.succ_le_succ h.revision) (revisionBound_of_follows hfollows)
  hadActive := h.hadActive
  staged := h.staged
  roots := h.roots
  located := h.located

theorem assertJournalMutation (h : Consistent start s journal phase) :
    ProfileRestoreActivation.assertJournalMutation journal s = .ok () := by
  rw [ProfileRestoreActivation.assertJournalMutation, throwIf, if_neg (not_not_intro h.selected)]

/-- **FORWARD RECOVERY**: the forward phases are accepted. -/
theorem readForwardRecoverySources (h : Consistent start s journal journal.phase)
    (hforward : journal.phase.forwardIndex.isSome) :
    ∃ sources, ProfileRestoreActivation.readForwardRecoverySources journal s = .ok sources := by
  have hslot : ∀ slot, ∃ source, readForwardRecoverySlot journal.phase slot
      (journal.hadActive slot) (fun path => s.present journal.operationId path slot) =
        .ok source := by
    intro slot
    obtain ⟨w, hw, hlocated⟩ := h.located slot
    refine ⟨w.forwardSource, ?_⟩
    rw [show (fun path => s.present journal.operationId path slot) =
      w.present (journal.hadActive slot) from funext fun path => h.present hlocated]
    exact Whereabouts.forward_accepts hforward hw
  obtain ⟨database, hdatabase⟩ := hslot .database
  obtain ⟨documents, hdocuments⟩ := hslot .documents
  obtain ⟨hrollback, hstaging, hfailed, _⟩ := h.roots
  have hfailed := hfailed (.inl hforward)
  have hfailedStaging : s.parentPresent journal.operationId .failedStaged = false := by
    rw [parentPresent, parent, hfailed]
    rfl
  have hroots : ¬ (s.parentPresent journal.operationId .staged = false ∨
      s.parentPresent journal.operationId .rollback = false ∨
        (s.operations journal.operationId).failed.isSome) := by
    simp [hstaging, hfailedStaging, hrollback, hfailed]
  refine ⟨(database, documents), ?_⟩
  rw [ProfileRestoreActivation.readForwardRecoverySources]
  simp only [h.assertJournalMutation, throwIf, if_neg hroots, hdatabase, hdocuments]
  rfl

/-- What is selected for a slot is not in the rollback directory once the staging
    directory has been moved. -/
theorem readOriginalSlot (h : Consistent start s journal journal.phase)
    (hphase : journal.phase = .rollbackStarting ∨ journal.phase = .rolledBack)
    (slot : ProfileSlot) :
    ∃ source, ProfileRestoreActivation.readOriginalSlot journal
        (s.parentPresent journal.operationId .failedStaged) slot s = .ok source ∧
      (s.parentPresent journal.operationId .failedStaged = true → source ≠ .rollback) := by
  obtain ⟨w, hw, hlocated⟩ := h.located slot
  refine ⟨w.originalSource (journal.hadActive slot), ?_, fun hfailed => ?_⟩
  · have hboth : ¬ (w.present (journal.hadActive slot) .staged = true ∧
        w.present (journal.hadActive slot) .failedStaged = true) := by
      cases w <;> cases journal.hadActive slot <;> decide
    have hvalidating : ∀ rest : Prop, ¬ (journal.phase = .validationStarting ∧ rest) := by
      rintro rest ⟨hvalidating, _⟩
      rcases hphase with hphase | hphase <;> rw [hphase] at hvalidating <;> cases hvalidating
    simp only [ProfileRestoreActivation.readOriginalSlot, h.present hlocated, throwIf,
      if_neg hboth, if_neg (hvalidating _)]
    exact Whereabouts.rollback_accepts hphase hw
  · rw [hfailed] at hw
    rcases hphase with hphase | hphase <;> rw [hphase] at hw <;> revert hw <;>
      cases w <;> cases journal.hadActive slot <;> cases slot <;> decide

/-- **ROLLBACK RECOVERY**: the phases of a rollback are accepted. -/
theorem readRollbackRecoverySources (h : Consistent start s journal journal.phase)
    (hphase : journal.phase = .rollbackStarting ∨ journal.phase = .rolledBack) :
    ∃ sources, ProfileRestoreActivation.readRollbackRecoverySources journal s = .ok sources := by
  obtain ⟨database, hdatabase, hdatabaseBack⟩ := h.readOriginalSlot hphase .database
  obtain ⟨documents, hdocuments, hdocumentsBack⟩ := h.readOriginalSlot hphase .documents
  obtain ⟨hrollback, hstaging, _, hrolledBack⟩ := h.roots
  have hroots : ¬ (s.parentPresent journal.operationId .staged =
        s.parentPresent journal.operationId .failedStaged ∨
      (journal.phase ≠ .rolledBack ∧ s.parentPresent journal.operationId .rollback = false) ∨
      (journal.phase = .rolledBack ∧ s.parentPresent journal.operationId .staged = true)) := by
    rw [hstaging, hrollback]
    rintro (hsame | ⟨_, hnone⟩ | ⟨hback, hleft⟩)
    · exact Bool.not_not_eq.mpr rfl hsame
    · cases hnone
    · rw [hrolledBack hback] at hleft
      cases hleft
  have hvalidating : ∀ rest : Prop, ¬ (journal.phase = .validationStarting ∧ rest) := by
    rintro rest ⟨hvalidating, _⟩
    rcases hphase with hphase | hphase <;> rw [hphase] at hvalidating <;> cases hvalidating
  have hsources : ¬ (s.parentPresent journal.operationId .failedStaged = true ∧
      (database = .rollback ∨ documents = .rollback)) := by
    rintro ⟨hfailed, hback | hback⟩
    · exact hdatabaseBack hfailed hback
    · exact hdocumentsBack hfailed hback
  have hmember : ¬ journal.phase ∉ rollbackPhases := by
    rcases hphase with hphase | hphase <;> rw [hphase] <;> decide
  refine ⟨(database, documents), ?_⟩
  rw [ProfileRestoreActivation.readRollbackRecoverySources]
  simp only [h.assertJournalMutation, throwIf, if_neg hmember, if_neg hroots,
    if_neg (hvalidating _), hdatabase, hdocuments, ok_bind, if_neg hsources]
  rfl

end Consistent

/-! ## Moves -/

theorem makeParent_parentPresent (hne : path ≠ destination) :
    (s.makeParent operationId destination).parentPresent operationId path =
      s.parentPresent operationId path := by
  cases destination
  case rollback =>
    cases path <;> first | rfl | (exact absurd rfl hne) |
      simp [makeParent, makeRollbackRoot, parentPresent, parent]
  case failedActive =>
    cases path <;> first | rfl | (exact absurd rfl hne) |
      simp [makeParent, makeFailedActive, parentPresent, parent]
    cases (s.operations operationId).failed <;> rfl
  all_goals rfl

theorem makeParent_parentPresent_self
    (hkind : destination ≠ .staged ∧ destination ≠ .failedStaged) :
    (s.makeParent operationId destination).parentPresent operationId destination = true := by
  cases destination
  case active => rfl
  case rollback => simp [makeParent, makeRollbackRoot, parentPresent, parent]
  case failedActive => simp [makeParent, makeFailedActive, parentPresent, parent]
  case staged => exact absurd rfl hkind.1
  case failedStaged => exact absurd rfl hkind.2

theorem makeParent_failed (hne : destination ≠ .failedActive) :
    ((s.makeParent operationId destination).operations operationId).failed =
      (s.operations operationId).failed := by
  cases destination
  case rollback => simp [makeParent, makeRollbackRoot]
  case failedActive => exact absurd rfl hne
  all_goals rfl

/-- What is the same of two states, is the same of what the journal says. -/
theorem Consistent.congr (h : Consistent start s journal phase) (hjournal : t.journal = s.journal)
    (hcontents : ∀ path slot, t.contents journal.operationId path slot =
      s.contents journal.operationId path slot)
    (hparents : ∀ path, path ≠ .failedActive →
      t.parentPresent journal.operationId path = s.parentPresent journal.operationId path)
    (hfailed : ahead phase → (t.operations journal.operationId).failed =
      (s.operations journal.operationId).failed) :
    Consistent start t journal phase where
  selected := hjournal.trans h.selected
  revision := h.revision
  hadActive := h.hadActive
  staged := h.staged
  roots := by
    obtain ⟨hrollback, hstaging, hnone, hback⟩ := h.roots
    refine ⟨?_, ?_, fun hahead => (hfailed hahead).trans (hnone hahead), fun hphase => ?_⟩
    · rw [hparents .rollback nofun, hrollback]
    · rw [hparents .staged nofun, hparents .failedStaged nofun, hstaging]
    · rw [hparents .failedStaged nofun, hback hphase]
  located slot := by
    obtain ⟨w, hw, hlocated⟩ := h.located slot
    refine ⟨w, ?_, fun path => (hcontents path slot).trans (hlocated path)⟩
    rw [hparents .failedStaged nofun]
    exact hw

theorem Consistent.makeParent (h : Consistent start s journal phase)
    (hkind : destination = .active ∨ destination = .rollback ∨
      (destination = .failedActive ∧ ¬ ahead phase)) :
    Consistent start (s.makeParent journal.operationId destination) journal phase := by
  refine h.congr makeParent_journal (fun _ _ => contents_makeParent) (fun path hpath => ?_)
    fun hahead => makeParent_failed ?_
  · by_cases hsame : path = destination
    · subst hsame
      rw [makeParent_parentPresent_self ?_]
      · rcases hkind with rfl | rfl | ⟨rfl, _⟩
        · rfl
        · exact h.roots.1.symm
        · exact absurd rfl hpath
      · rcases hkind with rfl | rfl | ⟨rfl, _⟩ <;> decide
    · exact makeParent_parentPresent hsame
  · rintro rfl
    rcases hkind with hkind | hkind | ⟨_, hnot⟩
    · cases hkind
    · cases hkind
    · exact hnot hahead

/-- `w'` is `w` after a move. -/
def Whereabouts.Moves (w : Whereabouts) (source destination : SlotPath) (w' : Whereabouts) :
    Prop :=
  ∀ (original staged : Option Content) (path : SlotPath),
    w'.contents original staged path =
      if path = source then none
      else if path = destination then w.contents original staged source
      else w.contents original staged path

theorem Located.rename {original staged : Option Content}
    (hw : Located s operationId slot original staged w)
    (hmoves : @Whereabouts.Moves Content w source destination w')
    (hsource : s.present operationId source slot = true)
    (hdestination : s.parentPresent operationId destination = true) (hne : source ≠ destination) :
    ∃ t, s.renameSlot operationId slot source destination = .ok t ∧
      t.journal = s.journal ∧ Located t operationId slot original staged w' ∧
      (∀ other, other ≠ slot → ∀ path,
        t.contents operationId path other = s.contents operationId path other) ∧
      (∀ path, t.parentPresent operationId path = s.parentPresent operationId path) ∧
      (t.operations operationId).failed.isSome = (s.operations operationId).failed.isSome := by
  obtain ⟨c, hc⟩ := Option.isSome_iff_exists.mp hsource
  refine ⟨_, renameSlot_ok hc hdestination, ?_, fun path => ?_, fun other hother path => ?_,
    fun path => ?_, ?_⟩
  · rw [put_journal, put_journal]
  · rw [contents_rename hc hdestination hne, if_pos rfl, hmoves, ← hw source, hc, ← hw path]
  · rw [contents_rename hc hdestination hne, if_neg hother]
  · rw [put_parentPresent, put_parentPresent]
  · rw [put_failed, put_failed]

/-- Nothing has happened to a slot. -/
def Unmoved (s t : RestoreProfile Content) (operationId : String) (slot : ProfileSlot) : Prop :=
  ∀ path, t.contents operationId path slot = s.contents operationId path slot

/-- A slot has moved, as the phase allows. -/
theorem Consistent.rename (h : Consistent start s journal phase)
    (hw : Located s journal.operationId slot (start.active slot)
      (start.contents journal.operationId .staged slot) w)
    (hmoves : @Whereabouts.Moves Content w source destination w')
    (hsource : s.present journal.operationId source slot = true)
    (hdestination : s.parentPresent journal.operationId destination = true)
    (hne : source ≠ destination)
    (hallowed : w'.allowed (s.parentPresent journal.operationId .failedStaged) phase slot = true) :
    ∃ t, s.renameSlot journal.operationId slot source destination = .ok t ∧
      Consistent start t journal phase ∧
      Located t journal.operationId slot (start.active slot)
        (start.contents journal.operationId .staged slot) w' ∧
      ∀ other, other ≠ slot → Unmoved s t journal.operationId other := by
  obtain ⟨t, hrename, hjournal, hlocated, hothers, hparents, hfailed⟩ :=
    hw.rename hmoves hsource hdestination hne
  refine ⟨t, hrename, ?_, hlocated, hothers⟩
  obtain ⟨hrollback, hstaging, hnone, hback⟩ := h.roots
  exact {
    selected := hjournal.trans h.selected
    revision := h.revision
    hadActive := h.hadActive
    staged := h.staged
    roots := by
      refine ⟨(hparents _).trans hrollback, ?_, fun hahead => ?_, fun hphase => ?_⟩
      · rw [hparents, hparents, hstaging]
      · rw [hnone hahead] at hfailed
        exact Option.not_isSome_iff_eq_none.mp (by rw [hfailed]; nofun)
      · exact (hparents _).trans (hback hphase)
    located := by
      intro other
      rw [hparents]
      by_cases hother : other = slot
      · subst hother
        exact ⟨w', hallowed, hlocated⟩
      · obtain ⟨u, hu, hulocated⟩ := h.located other
        exact ⟨u, hu, fun path => (hothers other hother path).trans (hulocated path)⟩ }

/-- Where a slot is now, is where the next phase has it. -/
theorem Consistent.settle (h : Consistent start s journal phase)
    (hw : Located s journal.operationId slot (start.active slot)
      (start.contents journal.operationId .staged slot) w)
    (hallowed : w.allowed (s.parentPresent journal.operationId .failedStaged) next slot = true)
    (hroots : RootsOf s journal.operationId phase → RootsOf s journal.operationId next)
    (hothers : ∀ other, other ≠ slot → ∀ u : Whereabouts,
      u.allowed (s.parentPresent journal.operationId .failedStaged) phase other = true →
        u.allowed (s.parentPresent journal.operationId .failedStaged) next other = true) :
    Consistent start s journal next where
  selected := h.selected
  revision := h.revision
  hadActive := h.hadActive
  staged := h.staged
  roots := hroots h.roots
  located other := by
    by_cases hother : other = slot
    · subst hother
      exact ⟨w, hallowed, hw⟩
    · obtain ⟨u, hu, hulocated⟩ := h.located other
      exact ⟨u, hothers other hother u hu, hulocated⟩

theorem RootsOf.ahead (h : RootsOf s operationId phase)
    (hphase : ProfileRestoreActivation.ahead phase) (hnext : ProfileRestoreActivation.ahead next) :
    RootsOf s operationId next := by
  refine ⟨h.1, h.2.1, fun _ => h.2.2.1 hphase, ?_⟩
  rintro rfl
  rcases hnext with hnext | hnext <;> cases hnext

theorem moves_aside : @Whereabouts.Moves Content .untouched .active .rollback .moved :=
  fun _ _ path => by cases path <;> rfl

theorem moves_in : @Whereabouts.Moves Content .moved .staged .active .activated :=
  fun _ _ path => by cases path <;> rfl

theorem moves_out :
    @Whereabouts.Moves Content .activated .active .failedActive .setAside :=
  fun _ _ path => by cases path <;> rfl

theorem moves_back_moved :
    @Whereabouts.Moves Content .moved .rollback .active .untouched :=
  fun _ _ path => by cases path <;> rfl

theorem moves_back_setAside :
    @Whereabouts.Moves Content .setAside .rollback .active .restored :=
  fun _ _ path => by cases path <;> rfl

/-- Where there was no original, it is wherever it is said to be. -/
theorem Located.of_none {staged : Option Content} (h : Located s operationId slot none staged w)
    (hstaged : w'.staged = w.staged) : Located s operationId slot none staged w' := by
  intro path
  rw [h path, Whereabouts.contents, Whereabouts.contents, hstaged]
  simp only [ite_self]

/-! ## Runs that are cut off -/

section Steady

variable {crashes : Prop} {I : RestoreProfile Content → Prop}
  {R : ActivationError → RestoreProfile Content → Prop} {Q : Unit → RestoreProfile Content → Prop}
  {assertAuthority : Check Content Unit}

theorem steady_inspect {α : Type} {check : Check Content α} {a : α}
    {post : Post (RestoreProfile Content) ActivationError α} (h : check s = .ok a)
    (hpost : post.returned a s) : wp (Fate.Steady crashes) (inspect check) post s := by
  refine wp_bind (wp_get (wp_ofExcept (fun b hb => ?_) fun e he => ?_))
  · rw [h] at hb
    cases hb
    exact hpost
  · rw [h] at he
    cases he

theorem steady_nothing (hI : I s) (hQ : Q () s) :
    wp (Fate.Steady crashes) (attemptNothing .io) ⟨Q, R, Midway crashes I⟩ s :=
  wp_attempt_steady hI nofun fun _ _ h => by
    cases h
    exact ⟨hI, hQ⟩

theorem steady_createPrivateDirectory
    {make : RestoreProfile Content → RestoreProfile Content} (hI : I s)
    (hbefore : assertAuthority s = .ok ()) (hmade : I (make s))
    (hafter : assertAuthority (make s) = .ok ()) (hQ : Q () (make s)) :
    wp (Fate.Steady crashes) (createPrivateDirectory assertAuthority make)
      ⟨Q, R, Midway crashes I⟩ s := by
  refine wp_bind (steady_inspect hbefore (wp_bind (wp_attempt_steady hI nofun fun _ _ h => ?_)))
  cases h
  refine ⟨hmade, wp_bind (steady_inspect hafter (wp_bind (steady_nothing hmade ?_)))⟩
  exact steady_inspect hafter hQ

theorem steady_renamePath
    {rename : RestoreProfile Content → Except ActivationError (RestoreProfile Content)}
    (hI : I s) (hbefore : assertAuthority s = .ok ()) (hrename : rename s = .ok t) (ht : I t)
    (hQ : Q () t) :
    wp (Fate.Steady crashes) (renamePath assertAuthority rename) ⟨Q, R, Midway crashes I⟩ s := by
  refine wp_bind (steady_inspect hbefore (wp_bind (wp_attempt_steady hI (fun _ h => ?_)
    fun _ _ h => ?_)))
  · rw [hrename] at h
    cases h
  · rw [hrename] at h
    cases h
    exact ⟨ht, steady_nothing ht hQ⟩

theorem steady_carryOut (hI : I s) (hbefore : assertAuthority s = .ok ())
    (hmade : I (move.makeParent s)) (hafter : assertAuthority (move.makeParent s) = .ok ())
    (hrename : move.rename (move.makeParent s) = .ok t) (ht : I t) (hQ : Q () t) :
    wp (Fate.Steady crashes) (carryOut assertAuthority move) ⟨Q, R, Midway crashes I⟩ s :=
  wp_bind (steady_createPrivateDirectory hI hbefore hmade hafter
    (steady_renamePath hmade hafter hrename ht hQ))

theorem steady_moveRequiredSlot (hsource : move.sourceExists s = true)
    (hdestination : move.destinationExists s = false) (hI : I s)
    (hbefore : assertAuthority s = .ok ()) (hmade : I (move.makeParent s))
    (hafter : assertAuthority (move.makeParent s) = .ok ())
    (hrename : move.rename (move.makeParent s) = .ok t) (ht : I t) (hQ : Q () t) :
    wp (Fate.Steady crashes) (moveRequiredSlot assertAuthority move)
      ⟨Q, R, Midway crashes I⟩ s := by
  refine wp_bind (wp_get ?_)
  dsimp only
  rw [hsource, hdestination]
  exact steady_carryOut hI hbefore hmade hafter hrename ht hQ

/-- It was moved before. -/
theorem steady_moveRequiredSlot_done (hsource : move.sourceExists s = false)
    (hdestination : move.destinationExists s = true) (hQ : Q () s) :
    wp (Fate.Steady crashes) (moveRequiredSlot assertAuthority move)
      ⟨Q, R, Midway crashes I⟩ s := by
  refine wp_bind (wp_get ?_)
  dsimp only
  rw [hsource, hdestination]
  exact wp_pure hQ

/-- There was nothing to move. -/
theorem steady_moveOptionalSlot_nothing (hsource : move.sourceExists s = false)
    (hdestination : move.destinationExists s = false) (hQ : Q () s) :
    wp (Fate.Steady crashes) (moveOptionalSlot assertAuthority false move)
      ⟨Q, R, Midway crashes I⟩ s := by
  refine wp_bind (wp_get ?_)
  dsimp only
  rw [hsource, hdestination]
  exact wp_pure hQ

theorem steady_moveOptionalSlot
    (h : wp (Fate.Steady crashes) (moveRequiredSlot assertAuthority move)
      ⟨Q, R, Midway crashes I⟩ s) :
    wp (Fate.Steady crashes) (moveOptionalSlot assertAuthority true move)
      ⟨Q, R, Midway crashes I⟩ s :=
  wp_bind (wp_get h)

/-- **MOVE RULE**: a slot that is where the move begins gets where it leads. -/
theorem Consistent.steady_move {source destination : SlotPath}
    (h : Consistent start s journal phase)
    (hw : Located s journal.operationId slot (start.active slot)
      (start.contents journal.operationId .staged slot) w)
    (hmoves : @Whereabouts.Moves Content w source destination w')
    (hsource : w.present (journal.hadActive slot) source = true)
    (hdestination : w.present (journal.hadActive slot) destination = false)
    (hkind : destination = .active ∨ destination = .rollback ∨
      (destination = .failedActive ∧ ¬ ahead phase))
    (hallowed : ∀ failedStaging, w.allowed failedStaging phase slot = true →
      w'.allowed failedStaging phase slot = true)
    (hbefore : w.allowed (s.parentPresent journal.operationId .failedStaged) phase slot = true)
    (hauthority : ∀ t, Consistent start t journal phase → assertAuthority t = .ok ())
    (hQ : ∀ t, Consistent start t journal phase →
      Located t journal.operationId slot (start.active slot)
        (start.contents journal.operationId .staged slot) w' →
      (∀ other, other ≠ slot → Unmoved s t journal.operationId other) → Q () t) :
    wp (Fate.Steady crashes)
      (moveRequiredSlot assertAuthority (slotMove journal.operationId slot source destination))
      ⟨Q, R, Midway crashes fun t => Consistent start t journal phase⟩ s := by
  have hne : source ≠ destination := by
    rintro rfl
    rw [hsource] at hdestination
    cases hdestination
  have hmade := h.makeParent hkind
  have hmadeLocated : Located (s.makeParent journal.operationId destination) journal.operationId
      slot (start.active slot) (start.contents journal.operationId .staged slot) w :=
    fun path => contents_makeParent.trans (hw path)
  have hparent : (s.makeParent journal.operationId destination).parentPresent
      journal.operationId destination = true := by
    refine makeParent_parentPresent_self ?_
    rcases hkind with rfl | rfl | ⟨rfl, _⟩ <;> decide
  have hfailedStaged : (s.makeParent journal.operationId destination).parentPresent
      journal.operationId .failedStaged = s.parentPresent journal.operationId .failedStaged := by
    refine makeParent_parentPresent ?_
    rcases hkind with rfl | rfl | ⟨rfl, _⟩ <;> decide
  obtain ⟨t, hrename, ht, htlocated, hothers⟩ := hmade.rename hmadeLocated hmoves
    ((hmade.present hmadeLocated).trans hsource) hparent hne
    (hallowed _ (by rw [hfailedStaged]; exact hbefore))
  refine steady_moveRequiredSlot ((h.present hw).trans hsource) ((h.present hw).trans hdestination)
    h (hauthority s h) hmade (hauthority _ hmade) hrename ht (hQ t ht htlocated ?_)
  intro other hother path
  exact (hothers other hother path).trans contents_makeParent

theorem steady_writeJournal {previous : Option ProfileRestoreActivationJournal}
    {assertCurrent : ProfileRestoreActivationJournal → Check Content Unit} (hI : I s)
    (hselected : s.journal = previous)
    (hbefore : ∀ journal, previous = some journal → assertCurrent journal s = .ok ())
    (hwritten : I { s with journal := some journal })
    (hafter : assertCurrent journal { s with journal := some journal } = .ok ())
    (hQ : Q () { s with journal := some journal }) :
    wp (Fate.Steady crashes) (writeJournal previous assertCurrent journal)
      ⟨Q, R, Midway crashes I⟩ s := by
  have hprevious : previous.elim (.ok ()) (fun journal => assertCurrent journal s) = .ok () := by
    cases previous with
    | none => rfl
    | some journal => exact hbefore journal rfl
  refine wp_mapError (wp_bind (steady_inspect hprevious (wp_bind (wp_attempt_steady hI
    (fun _ h => ?_) fun _ _ h => ?_))))
  · rw [if_pos hselected] at h
    cases h
  · rw [if_pos hselected] at h
    cases h
    exact ⟨hwritten, steady_inspect hafter hQ⟩

theorem steady_advanceJournal
    {assertCurrent : ProfileRestoreActivationJournal → Check Content Unit}
    {Q : ProfileRestoreActivationJournal → RestoreProfile Content → Prop}
    (h : Consistent start s journal phase) (hfollows : journal.phase.follows phase = true)
    (hI : I s) (hbefore : assertCurrent journal s = .ok ())
    (hafter : ∀ t next, next.phase = phase → Consistent start t next phase →
      assertCurrent next t = .ok ())
    (hnext : ∀ t next, next.phase = phase → next.operationId = journal.operationId →
      Consistent start t next phase → I t ∧ Q next t) :
    wp (Fate.Steady crashes) (advanceJournal journal phase assertCurrent)
      ⟨Q, R, Midway crashes I⟩ s := by
  have hrevision : journal.revision + 1 ≤ maximumSafeInteger :=
    Nat.le_trans (Nat.succ_le_succ h.revision) revisionBound_le
  rw [advanceJournal, dif_pos hrevision]
  have hadvanced := h.advance hfollows hrevision
  obtain ⟨hwritten, hQ⟩ := hnext _ (advanced journal phase hrevision) rfl rfl hadvanced
  refine wp_bind (steady_writeJournal hI h.selected (fun other hother => ?_) hwritten
    (hafter _ _ rfl hadvanced) (wp_pure hQ))
  cases hother
  exact hbefore

end Steady

end ProfileRestoreActivation
