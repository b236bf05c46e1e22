import Eky.RestoreActivationProofs

/-! # The activation of a restored profile — forward

    `prepare`, `advanceToValidation` and `commitAcceptance`, cut off anywhere.  Every step
    of the loop takes its slot where the phase that completes the step has it. -/

namespace ProfileRestoreActivation

open Fallible Program RestoreProfile

variable {Content : Type} {start s t : RestoreProfile Content} {crashes : Prop}
  {journal : ProfileRestoreActivationJournal} {slot : ProfileSlot}
  {expected : Option ProfileRestoreActivationJournal}

/-- What is on the disk before there is a journal, and what the journal says after. -/
inductive Activation (start s : RestoreProfile Content) : Prop
  | unprepared (hjournal : s.journal = none) (hactive : s.active = start.active)
      (hstaged : ∀ operationId slot,
        s.contents operationId .staged slot = start.contents operationId .staged slot)
  | selected (journal : ProfileRestoreActivationJournal)
      (h : Consistent start s journal journal.phase)

theorem Activation.consistent (h : Activation start s) (hjournal : s.journal = some journal) :
    Consistent start s journal journal.phase := by
  cases h with
  | unprepared hnone _ _ =>
      rw [hnone] at hjournal
      cases hjournal
  | selected other h =>
      have hsame := h.selected
      rw [hjournal] at hsame
      cases hsame
      exact h

/-- The phase of a selected journal, by what may be done in it. -/
theorem Consistent.phase_cases (h : Consistent start s journal journal.phase) :
    journal.phase.forwardIndex.isSome ∨ journal.phase = .accepted ∨
      journal.phase = .rollbackStarting ∨ journal.phase = .rolledBack := by
  obtain ⟨w, hw, _⟩ := h.located .database
  revert hw
  cases journal.phase <;> cases s.parentPresent journal.operationId .failedStaged <;> cases w <;>
    decide

/-! ## Checks of the journal -/

theorem readJournal_ok (h : readJournal expected s = .ok journal) : s.journal = some journal := by
  rw [readJournal] at h
  split at h
  · cases h
  · split at h
    · cases h
      assumption
    · cases h

theorem requireForwardJournal_ok (h : requireForwardJournal expected s = .ok journal) :
    s.journal = some journal := by
  cases expected with
  | none => exact readJournal_ok h
  | some expected => exact readJournal_ok (ok_of_mapError h)

theorem requireTerminalJournal_ok (h : requireTerminalJournal expected s = .ok journal) :
    s.journal = some journal := by
  rw [requireTerminalJournal] at h
  split at h
  · cases h
  · exact readJournal_ok h

/-- What the caller expects is nothing, or what is selected. -/
def Expects (expected : Option ProfileRestoreActivationJournal) (s : RestoreProfile Content) :
    Prop :=
  expected = none ∨ expected = s.journal

theorem readJournal_expected (hjournal : s.journal = some journal) (h : Expects expected s) :
    readJournal expected s = .ok journal := by
  rw [readJournal, hjournal]
  rw [Expects, hjournal] at h
  exact if_pos h

theorem requireForwardJournal_expected (hjournal : s.journal = some journal)
    (h : Expects expected s) : requireForwardJournal expected s = .ok journal := by
  have hread := readJournal_expected hjournal h
  cases expected with
  | none => exact hread
  | some expected =>
      rw [requireForwardJournal, hread]
      rfl

theorem requireTerminalJournal_expected (hjournal : s.journal = some journal)
    (h : Expects expected s) : requireTerminalJournal expected s = .ok journal := by
  have hcaptured : (expected <|> s.journal) = some journal := by
    rcases h with rfl | rfl
    · exact hjournal
    · rw [hjournal]
      rfl
  rw [requireTerminalJournal, hcaptured]
  exact readJournal_expected hjournal (.inr hjournal.symm)

theorem wp_inspect {α : Type} {allowed : Fate → Prop} {check : Check Content α}
    {post : Post (RestoreProfile Content) ActivationError α}
    (hok : ∀ a, check s = .ok a → post.returned a s)
    (herror : ∀ e, check s = .error e → post.threw e s) : wp allowed (inspect check) post s :=
  wp_bind (wp_get (wp_ofExcept hok herror))

/-! ## The moves -/

/-- The phase after a slot has been set aside, and the one after it was activated. -/
def currentMoved : ProfileSlot → ProfileRestoreActivationPhase
  | .database => .currentDatabaseMoved
  | .documents => .currentDocumentsMoved

/-- The phase in which a staged part is active. -/
def stagedActivated : ProfileSlot → ProfileRestoreActivationPhase
  | .database => .stagedDatabaseActivated
  | .documents => .stagedDocumentsActivated

/-- The original part is moved away, if it still stands in its place. -/
theorem steady_moveCurrent (h : Consistent start s journal (movingCurrent slot)) :
    wp (Fate.Steady crashes) (moveCurrent slot journal)
      ⟨fun _ t => Consistent start t journal (currentMoved slot), fun _ _ => False,
        Midway crashes fun t => Consistent start t journal (movingCurrent slot)⟩ s := by
  have hroots : ∀ t : RestoreProfile Content, RootsOf t journal.operationId (movingCurrent slot) →
      RootsOf t journal.operationId (currentMoved slot) := by
    intro t ht
    exact ht.ahead (.inl (by cases slot <;> decide)) (.inl (by cases slot <;> decide))
  have hothers : ∀ failed other, other ≠ slot → ∀ u : Whereabouts,
      u.allowed failed (movingCurrent slot) other = true →
        u.allowed failed (currentMoved slot) other = true := by
    intro failed other hother u
    cases failed <;> cases slot <;> cases other <;> cases u <;>
      first | decide | (exact absurd rfl hother)
  have hmoved : ∀ failed, Whereabouts.moved.allowed failed (currentMoved slot) slot = true := by
    intro failed
    cases failed <;> cases slot <;> decide
  obtain ⟨w, hw, hlocated⟩ := h.located slot
  have hwAllowed := hw
  have hw : w = .untouched ∨ w = .moved := by
    revert hw
    cases s.parentPresent journal.operationId .failedStaged <;> cases slot <;> cases w <;> decide
  have hpresent : ∀ path, s.present journal.operationId path slot =
      w.present (journal.hadActive slot) path := fun path => h.present hlocated
  rw [moveCurrent]
  cases hhad : journal.hadActive slot with
  | false =>
      -- There is nothing to set aside.
      have hnone : start.active slot = none := by
        have hactive := h.hadActive slot
        rw [hhad] at hactive
        exact Option.not_isSome_iff_eq_none.mp (by rw [← hactive]; nofun)
      rw [hhad] at hpresent
      rw [hnone] at hlocated
      have hmovedLocated : Located s journal.operationId slot (start.active slot)
          (start.contents journal.operationId .staged slot) .moved := by
        rw [hnone]
        rcases hw with rfl | rfl
        · exact hlocated.of_none rfl
        · exact hlocated
      refine steady_moveOptionalSlot_nothing ((hpresent _).trans ?_) ((hpresent _).trans ?_)
        (h.settle hmovedLocated (hmoved _) (hroots s) (hothers _))
      · rcases hw with rfl | rfl <;> rfl
      · rcases hw with rfl | rfl <;> rfl
  | true =>
      rw [hhad] at hpresent
      refine steady_moveOptionalSlot ?_
      rcases hw with rfl | rfl
      · refine h.steady_move hlocated moves_aside (by rw [hhad]; rfl) (by rw [hhad]; rfl)
          (.inr (.inl rfl)) (fun failed _ => by cases slot <;> cases failed <;> rfl) hwAllowed
          (fun t ht => ht.assertJournalMutation) fun t ht htlocated _ => ?_
        exact ht.settle htlocated (hmoved _) (hroots t) (hothers _)
      · exact steady_moveRequiredSlot_done (hpresent .active) (hpresent .rollback)
          (h.settle hlocated (hmoved _) (hroots s) (hothers _))

theorem steady_activateStaged (h : Consistent start s journal (activatingStaged slot)) :
    wp (Fate.Steady crashes) (activateStaged slot journal)
      ⟨fun _ t => Consistent start t journal (stagedActivated slot), fun _ _ => False,
        Midway crashes fun t => Consistent start t journal (activatingStaged slot)⟩ s := by
  have hfinish : ∀ t, Consistent start t journal (activatingStaged slot) →
      Located t journal.operationId slot (start.active slot)
        (start.contents journal.operationId .staged slot) .activated →
      wp (Fate.Steady crashes) (do
          inspect (assertJournalMutation journal)
          attemptNothing .io)
        ⟨fun _ t => Consistent start t journal (stagedActivated slot), fun _ _ => False,
          Midway crashes fun t => Consistent start t journal (activatingStaged slot)⟩ t := by
    intro t ht htlocated
    refine wp_bind (steady_inspect ht.assertJournalMutation (steady_nothing ht ?_))
    refine ht.settle htlocated ?_ (fun hroots => ?_) fun other hother u => ?_
    · cases t.parentPresent journal.operationId .failedStaged <;> cases slot <;> rfl
    · exact hroots.ahead (.inl (by cases slot <;> decide)) (.inl (by cases slot <;> decide))
    · cases t.parentPresent journal.operationId .failedStaged <;> cases slot <;> cases other <;>
        cases u <;> first | decide | (exact absurd rfl hother)
  obtain ⟨w, hw, hlocated⟩ := h.located slot
  have hwhich : w = .moved ∨ w = .activated := by
    revert hw
    cases s.parentPresent journal.operationId .failedStaged <;> cases slot <;> cases w <;> decide
  refine wp_bind ?_
  rcases hwhich with rfl | rfl
  · refine h.steady_move hlocated moves_in ?_ ?_ (.inl rfl)
      (fun failed _ => by cases slot <;> cases failed <;> rfl) hw
      (fun t ht => ht.assertJournalMutation) fun t ht htlocated _ => hfinish t ht htlocated
    · cases journal.hadActive slot <;> rfl
    · cases journal.hadActive slot <;> rfl
  · refine steady_moveRequiredSlot_done ((h.present hlocated).trans ?_)
      ((h.present hlocated).trans ?_) (hfinish s h hlocated)
    · cases journal.hadActive slot <;> rfl
    · cases journal.hadActive slot <;> rfl

/-! ## The loop -/

/-- The journal of the operation has come as far as `phase`. -/
def Reached (start : RestoreProfile Content) (operationId : String)
    (phase : ProfileRestoreActivationPhase) (journal : ProfileRestoreActivationJournal)
    (s : RestoreProfile Content) : Prop :=
  Consistent start s journal journal.phase ∧ isAtOrAfter journal.phase phase = true ∧
    journal.operationId = operationId

variable {operationId : String} {phase : ProfileRestoreActivationPhase}

theorem Reached.activation (h : Reached start operationId phase journal s) : Activation start s :=
  .selected journal h.1

/-- Three phases in a row: `intent` of a step, `first` before it and `completed` after. -/
structure Adjacent (first intent completed : ProfileRestoreActivationPhase) : Prop where
  between : ∀ phase, isAtOrAfter phase first = true →
    isAtOrAfter phase completed = true ∨ phase = intent ∨ phase = first
  begins : first.follows intent = true
  completes : intent.follows completed = true
  forward : completed.forwardIndex.isSome = true
  allows : ∀ failedStaging slot (w : Whereabouts),
    w.allowed failedStaging first slot = true ∨ w.allowed failedStaging completed slot = true →
      w.allowed failedStaging intent slot = true

/-- A step of the loop, from the phase that the one before it completes. -/
structure StepFrom (first : ProfileRestoreActivationPhase) (step : ActivationStep Content) :
    Prop where
  adjacent : Adjacent first step.intentPhase step.completedPhase
  move : ∀ {crashes : Prop} {start s : RestoreProfile Content}
    {journal : ProfileRestoreActivationJournal}, Consistent start s journal step.intentPhase →
    wp (Fate.Steady crashes) (step.move journal)
      ⟨fun _ t => Consistent start t journal step.completedPhase, fun _ _ => False,
        Midway crashes fun t => Consistent start t journal step.intentPhase⟩ s

theorem isAtOrAfter_self (h : phase.forwardIndex.isSome = true) :
    isAtOrAfter phase phase = true := by
  revert h
  cases phase <;> decide

theorem forward_of_follows {next : ProfileRestoreActivationPhase} (h : phase.follows next = true)
    (hnext : next.forwardIndex.isSome = true) : phase.forwardIndex.isSome = true := by
  revert h hnext
  cases phase <;> cases next <;> decide

/-- The phase that the files are ready for is written. -/
theorem steady_advance {I : RestoreProfile Content → Prop} (h : Consistent start s journal phase)
    (hfollows : journal.phase.follows phase = true) (hI : I s)
    (hactivation : ∀ t, Activation start t → I t) :
    wp (Fate.Steady crashes) (advanceJournal journal phase assertJournalMutation)
      ⟨fun next t => next.phase = phase ∧ next.operationId = journal.operationId ∧
          Consistent start t next phase,
        fun _ _ => False, Midway crashes I⟩ s := by
  refine steady_advanceJournal h hfollows hI h.assertJournalMutation
    (fun _ _ _ hnext => hnext.assertJournalMutation) fun t next hphase hsame hnext => ?_
  refine ⟨hactivation t (.selected next ?_), hphase, hsame, hnext⟩
  rw [hphase]
  exact hnext

/-- **STEP LEMMA**: one round of the loop completes its step. -/
theorem steady_takeStep {first : ProfileRestoreActivationPhase} {step : ActivationStep Content}
    (hstep : StepFrom first step) (h : Reached start operationId first journal s) :
    wp (Fate.Steady crashes) (takeStep journal step)
      ⟨Reached start operationId step.completedPhase, fun _ _ => False,
        Midway crashes (Activation start)⟩ s := by
  rw [takeStep]
  by_cases hpast : isAtOrAfter journal.phase step.completedPhase = true
  · rw [if_pos hpast]
    exact wp_pure ⟨h.1, hpast, h.2.2⟩
  rw [if_neg hpast]
  have hintentForward := forward_of_follows hstep.adjacent.completes hstep.adjacent.forward
  have hfirstForward := forward_of_follows hstep.adjacent.begins hintentForward
  -- Once the intent is written, the move is made and its completion is written.
  have hfrom : ∀ next t, next.phase = step.intentPhase → next.operationId = operationId →
      Consistent start t next step.intentPhase →
      wp (Fate.Steady crashes) (do
          step.move next
          advanceJournal next step.completedPhase assertJournalMutation)
        ⟨Reached start operationId step.completedPhase, fun _ _ => False,
          Midway crashes (Activation start)⟩ t := by
    intro next t hphase hsame ht
    have hactivation : ∀ u, Consistent start u next step.intentPhase → Activation start u := by
      intro u hu
      rw [← hphase] at hu
      exact .selected next hu
    refine wp_bind ((hstep.move ht).mono (fun _ u hu => ?_) (fun _ _ hfalse => hfalse)
      fun u hu => ⟨hu.1, hactivation u hu.2⟩)
    have huActivation : Activation start u := by
      refine hactivation u (hu.weaken (fun hroots => ?_) fun slot w hw => ?_)
      · exact hroots.ahead (.inl hstep.adjacent.forward) (.inl hintentForward)
      · exact hstep.adjacent.allows _ slot w (.inr hw)
    refine (steady_advance hu (by rw [hphase]; exact hstep.adjacent.completes) huActivation
      fun _ hactive => hactive).mono (fun last v hv => ?_) (fun _ _ hfalse => hfalse)
      fun _ hv => hv
    obtain ⟨hlast, hsameLast, hconsistent⟩ := hv
    rw [← hlast] at hconsistent
    refine ⟨hconsistent, ?_, hsameLast.trans hsame⟩
    rw [hlast]
    exact isAtOrAfter_self hstep.adjacent.forward
  refine wp_bind ?_
  rw [reachPhase]
  rcases (hstep.adjacent.between journal.phase h.2.1).resolve_left hpast with hintent | hfirst
  · rw [if_neg (not_not_intro hintent)]
    refine wp_pure (hfrom journal s hintent h.2.2 ?_)
    rw [← hintent]
    exact h.1
  · have hne : journal.phase ≠ step.intentPhase := by
      rw [hfirst]
      intro hsame
      have hbegins := hstep.adjacent.begins
      rw [← hsame] at hbegins
      revert hbegins
      cases first <;> decide
    rw [if_pos hne]
    have hready : Consistent start s journal step.intentPhase := by
      refine h.1.weaken (fun hroots => ?_) fun slot w hw => ?_
      · exact hroots.ahead (.inl (by rw [hfirst]; exact hfirstForward)) (.inl hintentForward)
      · rw [hfirst] at hw
        exact hstep.adjacent.allows _ slot w (.inl hw)
    refine (steady_advance hready (by rw [hfirst]; exact hstep.adjacent.begins) h.activation
      fun _ hactive => hactive).mono (fun next t ht => hfrom next t ht.1 (ht.2.1.trans h.2.2) ht.2.2)
      (fun _ _ hfalse => hfalse) fun _ ht => ht

/-- The steps, each from the phase that the one before it completes. -/
def StepsFrom : ProfileRestoreActivationPhase → List (ActivationStep Content) →
    ProfileRestoreActivationPhase → Prop
  | first, [], last => first = last
  | first, step :: rest, last => StepFrom first step ∧ StepsFrom step.completedPhase rest last

/-- **RUN LEMMA**: the loop completes all of its steps. -/
theorem steady_takeSteps {list : List (ActivationStep Content)}
    {first last : ProfileRestoreActivationPhase} (hsteps : StepsFrom first list last)
    (h : Reached start operationId first journal s) :
    wp (Fate.Steady crashes) (list.foldlM takeStep journal)
      ⟨Reached start operationId last, fun _ _ => False, Midway crashes (Activation start)⟩ s := by
  induction list generalizing first journal s with
  | nil =>
      cases hsteps
      exact wp_pure h
  | cons step rest ih =>
      rw [List.foldlM_cons]
      refine wp_bind ((steady_takeStep hsteps.1 h).mono (fun next t ht => ?_)
        (fun _ _ hfalse => hfalse) fun _ ht => ht)
      exact ih hsteps.2 ht

theorem adjacent_moveCurrent (slot : ProfileSlot) :
    Adjacent (if slot = .database then .prepared else .currentDatabaseMoved)
      (movingCurrent slot) (currentMoved slot) := by
  constructor
  case between => intro phase; cases slot <;> cases phase <;> decide
  case allows =>
    intro failed other w
    cases slot <;> cases failed <;> cases other <;> cases w <;> decide
  all_goals cases slot <;> rfl

theorem adjacent_activateStaged (slot : ProfileSlot) :
    Adjacent (if slot = .database then .currentDocumentsMoved else .stagedDatabaseActivated)
      (activatingStaged slot) (stagedActivated slot) := by
  constructor
  case between => intro phase; cases slot <;> cases phase <;> decide
  case allows =>
    intro failed other w
    cases slot <;> cases failed <;> cases other <;> cases w <;> decide
  all_goals cases slot <;> rfl

theorem stepsFrom_steps :
    @StepsFrom Content .prepared steps .stagedDocumentsActivated :=
  ⟨⟨adjacent_moveCurrent .database, fun h => @steady_moveCurrent Content _ _ _ _ .database h⟩,
    ⟨adjacent_moveCurrent .documents, fun h => @steady_moveCurrent Content _ _ _ _ .documents h⟩,
    ⟨adjacent_activateStaged .database,
      fun h => @steady_activateStaged Content _ _ _ _ .database h⟩,
    ⟨adjacent_activateStaged .documents,
      fun h => @steady_activateStaged Content _ _ _ _ .documents h⟩, rfl⟩

/-! ## The operations -/

/-- The journal of the operation has come to `phase`. -/
def Arrived (start : RestoreProfile Content) (operationId : String)
    (phase : ProfileRestoreActivationPhase) (journal : ProfileRestoreActivationJournal)
    (s : RestoreProfile Content) : Prop :=
  journal.phase = phase ∧ journal.operationId = operationId ∧
    Consistent start s journal journal.phase

/-- **FORWARD**: from a forward phase, the loop reaches the validation. -/
theorem steady_advanceToValidation (h : Consistent start s journal journal.phase)
    (hforward : journal.phase.forwardIndex.isSome) :
    wp (Fate.Steady crashes) (do
        let journal ← steps.foldlM takeStep journal
        reachPhase journal .validationStarting)
      ⟨Arrived start journal.operationId .validationStarting, fun _ _ => False,
        Midway crashes (Activation start)⟩ s := by
  have hreached : Reached start journal.operationId .prepared journal s := by
    refine ⟨h, ?_, rfl⟩
    revert hforward
    cases journal.phase <;> decide
  refine wp_bind ((steady_takeSteps stepsFrom_steps hreached).mono (fun next t ht => ?_)
    (fun _ _ hfalse => hfalse) fun _ ht => ht)
  dsimp only [reachPhase]
  by_cases hphase : next.phase = .validationStarting
  · rw [if_neg (not_not_intro hphase)]
    exact wp_pure ⟨hphase, ht.2.2, ht.1⟩
  · rw [if_pos hphase]
    have hlast : next.phase = .stagedDocumentsActivated := by
      have hafter := ht.2.1
      revert hafter hphase
      cases next.phase <;> decide
    have hready : Consistent start t next .validationStarting := by
      refine ht.1.weaken (fun hroots => ?_) fun slot w hw => ?_
      · exact hroots.ahead (.inl (by rw [hlast]; rfl)) (.inl rfl)
      · rw [hlast] at hw
        revert hw
        cases t.parentPresent next.operationId .failedStaged <;> cases slot <;> cases w <;> decide
    refine (steady_advance hready (by rw [hlast]; rfl) ht.activation fun _ hactive => hactive).mono
      (fun last u hu => ?_) (fun _ _ hfalse => hfalse) fun _ hu => hu
    obtain ⟨hvalidating, hsame, hconsistent⟩ := hu
    rw [← hvalidating] at hconsistent
    exact ⟨hvalidating, hsame.trans ht.2.2, hconsistent⟩

/-- What an operation leaves, if it is not refused. -/
abbrev KeepsActivation (start : RestoreProfile Content) {α : Type} (m : ActivationProgram Content α)
    (s : RestoreProfile Content) : Prop :=
  wp (Fate.Steady True) m ⟨fun _ => Activation start, fun _ => Activation start,
    Midway True (Activation start)⟩ s

theorem keeps_advanceToValidation (h : Activation start s) :
    KeepsActivation start (advanceToValidation expected) s := by
  refine wp_bind (wp_inspect (fun journal hjournal => ?_) fun _ _ => h)
  have hconsistent := h.consistent (requireForwardJournal_ok hjournal)
  dsimp only
  by_cases hended : journal.phase ∈
      [ProfileRestoreActivationPhase.accepted, .rolledBack, .failedSafe]
  · rw [if_pos hended]
    exact wp_pure h
  rw [if_neg hended]
  by_cases hback : journal.phase = .rollbackStarting
  · rw [if_pos hback]
    exact wp_throw h
  rw [if_neg hback]
  have hforward : journal.phase.forwardIndex.isSome := by
    rcases hconsistent.phase_cases with hphase | hphase | hphase | hphase
    · exact hphase
    · exact absurd (by rw [hphase]; decide) hended
    · exact absurd hphase hback
    · exact absurd (by rw [hphase]; decide) hended
  exact (steady_advanceToValidation hconsistent hforward).mono
    (fun next t ht => .selected next ht.2.2) (fun _ _ hfalse => hfalse.elim) fun _ ht => ht

/-- Resumed in a forward phase, the activation reaches the validation. -/
theorem advance_resumed (h : Consistent start s journal journal.phase)
    (hforward : journal.phase.forwardIndex.isSome) (hexpected : Expects expected s) :
    wp (Fate.Steady crashes) (advanceToValidation expected)
      ⟨Arrived start journal.operationId .validationStarting, fun _ _ => False,
        Midway crashes (Activation start)⟩ s := by
  refine wp_bind (steady_inspect (requireForwardJournal_expected h.selected hexpected) ?_)
  have hended : journal.phase ∉
      [ProfileRestoreActivationPhase.accepted, .rolledBack, .failedSafe] := by
    revert hforward
    cases journal.phase <;> decide
  have hback : journal.phase ≠ .rollbackStarting := by
    revert hforward
    cases journal.phase <;> decide
  dsimp only
  rw [if_neg hended, if_neg hback]
  exact steady_advanceToValidation h hforward

theorem keeps_commitAcceptance (h : Activation start s) :
    KeepsActivation start (commitAcceptance expected) s := by
  refine wp_bind (wp_inspect (fun journal hjournal => ?_) fun _ _ => h)
  have hconsistent := h.consistent (requireTerminalJournal_ok hjournal)
  dsimp only
  by_cases haccepted : journal.phase = .accepted
  · rw [if_pos haccepted]
    exact wp_pure h
  rw [if_neg haccepted]
  by_cases hvalidating : journal.phase ≠ .validationStarting
  · rw [if_pos hvalidating]
    exact wp_throw h
  rw [if_neg hvalidating]
  have hvalidating := not_not.mp hvalidating
  refine wp_bind (wp_inspect (fun _ _ => ?_) fun _ _ => h)
  have hready : Consistent start s journal .accepted := by
    refine hconsistent.weaken (fun hroots => ?_) fun slot w hw => ?_
    · exact hroots.ahead (.inl (by rw [hvalidating]; rfl)) (.inr rfl)
    · rw [hvalidating] at hw
      revert hw
      cases s.parentPresent journal.operationId .failedStaged <;> cases slot <;> cases w <;> decide
  refine (steady_advance hready (by rw [hvalidating]; rfl) h fun _ hactive => hactive).mono
    (fun next t ht => ?_) (fun _ _ hfalse => hfalse.elim) fun _ ht => ht
  obtain ⟨hphase, _, ht⟩ := ht
  rw [← hphase] at ht
  exact .selected next ht

/-! ## Preparation -/

theorem throwIf_false {condition : Prop} [Decidable condition] {error : ActivationError}
    {u : Unit} (h : throwIf condition error = .ok u) : ¬ condition := by
  intro hcondition
  rw [throwIf, if_pos hcondition] at h
  cases h

/-- Before there is a journal, the rollback directory of an operation may be made. -/
theorem Activation.makeRollbackRoot (h : Activation start s) (hjournal : s.journal = none) :
    Activation start (s.makeRollbackRoot operationId) := by
  cases h with
  | selected journal h =>
      have hsome := h.selected
      rw [hjournal] at hsome
      cases hsome
  | unprepared _ hactive hstaged =>
      refine .unprepared hjournal hactive fun other slot => ?_
      by_cases hother : other = operationId
      · rw [hother, contents_makeRollbackRoot]
        exact hstaged operationId slot
      · rw [← hstaged other slot]
        simp [contents, parent, RestoreProfile.makeRollbackRoot, mapRoots_other hother]

/-- The directories of a new operation are empty, besides the staged profile. -/
theorem consistent_prepared (hactivation : Activation start s)
    (hvalid : isOperationId operationId = true) (hjournal : s.journal = none)
    (hpreparable : assertPreparable operationId s = .ok ()) : Consistent start
      { s.makeRollbackRoot operationId with
        journal := some (preparedJournal operationId hvalid fun slot => (s.active slot).isSome) }
      (preparedJournal operationId hvalid fun slot => (s.active slot).isSome) .prepared := by
  cases hactivation with
  | selected journal h =>
      have hsome := h.selected
      rw [hjournal] at hsome
      cases hsome
  | unprepared _ hactive hstaged =>
      have hconditions := throwIf_false hpreparable
      simp only [not_or, Bool.not_eq_false, Bool.not_eq_true] at hconditions
      obtain ⟨hdatabase, hdocuments, hrollback, hfailed⟩ := hconditions
      have hrollback : (s.operations operationId).rollback = none :=
        Option.not_isSome_iff_eq_none.mp (by rw [← Bool.not_eq_true] at hrollback; exact hrollback)
      have hfailed : (s.operations operationId).failed = none :=
        Option.not_isSome_iff_eq_none.mp (by rw [← Bool.not_eq_true] at hfailed; exact hfailed)
      have hpresent : ∀ slot, (s.contents operationId .staged slot).isSome := by
        intro slot
        cases slot with
        | database => exact hdatabase
        | documents => exact hdocuments
      have hstaging : s.parentPresent operationId .staged = true := by
        have hdatabase := hpresent .database
        rw [contents] at hdatabase
        cases h : s.parent operationId .staged with
        | none =>
            rw [h] at hdatabase
            cases hdatabase
        | some _ => rw [parentPresent, h, Option.isSome_some]
      have hroots : RootsOf (s.makeParent operationId .rollback) operationId .prepared := by
        have hnoStaging : (s.makeParent operationId .rollback).parentPresent operationId
            .failedStaged = false := by
          rw [makeParent_parentPresent (by decide), parentPresent, parent, hfailed]
          rfl
        refine ⟨makeParent_parentPresent_self (by decide), ?_, fun _ => ?_, (fun h => by cases h)⟩
        · rw [makeParent_parentPresent (by decide), hstaging, hnoStaging]
          rfl
        · exact (makeParent_failed (by decide)).trans hfailed
      have hlocated : ∀ slot, Located (s.makeParent operationId .rollback) operationId slot
          (start.active slot) (start.contents operationId .staged slot) .untouched := by
        intro slot path
        rw [contents_makeParent]
        cases path with
        | active => exact congrFun hactive slot
        | staged => exact hstaged operationId slot
        | rollback => simp [contents, parent, hrollback, Whereabouts.contents, Whereabouts.staged,
            Whereabouts.original]
        | failedActive => simp [contents, parent, hfailed, Whereabouts.contents, Whereabouts.staged,
            Whereabouts.original]
        | failedStaged => simp [contents, parent, hfailed, Whereabouts.contents, Whereabouts.staged,
            Whereabouts.original]
      refine ⟨rfl, Nat.zero_le _, fun slot => ?_, fun slot => ?_, hroots, fun slot =>
        ⟨.untouched, ?_, hlocated slot⟩⟩
      · rw [← hactive]
        cases slot <;> rfl
      · exact (congrArg Option.isSome (hstaged operationId slot)).symm.trans (hpresent slot)
      · cases RestoreProfile.parentPresent _ _ _ <;> cases slot <;> rfl

theorem keeps_prepare (h : Activation start s) : KeepsActivation start (prepare operationId) s := by
  rw [prepare]
  split
  swap
  · exact wp_throw h
  rename_i hvalid
  refine wp_bind (wp_inspect (fun _ habsent => ?_) fun _ _ => h)
  refine wp_bind (wp_inspect (fun _ hpreparable => ?_) fun _ _ => h)
  refine wp_bind (steady_inspect rfl ?_)
  have hjournal : s.journal = none :=
    Option.not_isSome_iff_eq_none.mp (throwIf_false habsent)
  refine wp_bind (steady_inspect habsent ?_)
  have hmade : Activation start (s.makeRollbackRoot operationId) := h.makeRollbackRoot hjournal
  refine wp_bind (steady_createPrivateDirectory h rfl hmade rfl ?_)
  refine wp_bind (steady_inspect habsent ?_)
  have hprepared := consistent_prepared h hvalid hjournal hpreparable
  have hactivation : Activation start _ := .selected _ hprepared
  exact steady_writeJournal hmade hjournal nofun hactivation hprepared.assertJournalMutation
    hactivation

end ProfileRestoreActivation
