import Mathlib.Logic.Relation
import Eky.RestoreJournalProofs
import Eky.TransitionSystem

/-! # The store of the restoration's journal — whole histories

    Writes, reads and clearings in any order, each of which may fail or stop between
    any two of its file operations.  What a reader is given only goes forward, one step
    of the journal at a time. -/

namespace ProfileRestoreActivationJournalStore

open Program RecordFiles ProfileRestoreActivationJournal

variable {codec : RecordCodec ProfileRestoreActivationJournal}
  {journal : ProfileRestoreActivationJournal} {s t : Slots}

/-! ## What a reader is given -/

/-- A `peek` that nothing disturbs answers this. -/
def Peeks (codec : RecordCodec ProfileRestoreActivationJournal) (s : Slots)
    (answer : Option ProfileRestoreActivationJournal) : Prop :=
  (peek codec s []).1 = .returned answer

instance {answer : Option ProfileRestoreActivationJournal} : Decidable (Peeks codec s answer) :=
  inferInstanceAs (Decidable (_ = _))

theorem Peeks.unique {answer answer' : Option ProfileRestoreActivationJournal}
    (h : Peeks codec s answer) (h' : Peeks codec s answer') : answer = answer' := by
  rw [Peeks] at h h'
  rw [h] at h'
  exact Outcome.returned.inj h'

theorem quietly_readJournal_none {slot : Slot} (h : s.get slot = none) :
    Quietly (readJournal codec slot) s (.returned none) s := by
  refine quietly_mapError (quietly_attempt ?_)
  rw [h]

theorem quietly_readJournal {slot : Slot} {b : Bytes} (h : s.get slot = some b)
    (hstores : StoresJournal codec b journal) :
    Quietly (readJournal codec slot) s (.returned (some journal)) s := by
  refine quietly_mapError (quietly_attempt ?_)
  simp only [h, if_pos hstores.1, hstores.2]

theorem peeks_of_selects (h : Selects codec s journal) : Peeks codec s (some journal) := by
  obtain ⟨b, hb, hstores⟩ := h
  obtain ⟨current, next, backup⟩ := s
  -- The slots are tried in their order, up to the one that decides.
  have hselect : ∃ slot, Quietly (selectJournal codec) ⟨current, next, backup⟩
      (.returned (some (journal, slot))) ⟨current, next, backup⟩ := by
    cases current with
    | some c =>
        cases hb
        exact ⟨.current, quietly_bind (quietly_readJournal rfl hstores) quietly_pure⟩
    | none =>
        cases backup with
        | some c =>
            cases hb
            exact ⟨.backup, quietly_bind (quietly_readJournal_none rfl)
              (quietly_bind (quietly_readJournal rfl hstores) quietly_pure)⟩
        | none =>
            refine ⟨.next, quietly_bind (quietly_readJournal_none rfl)
              (quietly_bind (quietly_readJournal_none rfl)
                (quietly_bind (quietly_readJournal hb hstores) quietly_pure))⟩
  obtain ⟨slot, hselect⟩ := hselect
  have hpeek : Quietly (peek codec) ⟨current, next, backup⟩ (.returned (some journal))
      ⟨current, next, backup⟩ := quietly_bind hselect quietly_pure
  rw [Peeks, hpeek]

theorem peeks_empty : Peeks codec Slots.empty none := by
  have hpeek : Quietly (peek codec) Slots.empty (.returned none) Slots.empty :=
    quietly_bind (quietly_bind (quietly_readJournal_none rfl)
      (quietly_bind (quietly_readJournal_none rfl)
        (quietly_bind (quietly_readJournal_none rfl) quietly_pure))) quietly_pure
  rw [Peeks, hpeek]

theorem peeks_some_iff : Peeks codec s (some journal) ↔ Selects codec s journal := by
  refine ⟨fun h => ?_, peeks_of_selects⟩
  have hpeek : wp AnyFate (peek codec)
      ⟨fun answer _ => ∀ journal, answer = some journal → Selects codec s journal,
        fun _ _ => True, fun _ => True⟩ s := by
    refine wp_peek trivial (fun _ => nofun) fun journal hjournal => ?_
    rintro _ ⟨⟩
    exact hjournal
  exact hpeek.ends ⟨[], h, rfl⟩ journal rfl

/-! ## Histories -/

/-- The slots, the journal that was committed last or was the last one to be read, and
    the one of a write that was interrupted since. -/
structure JournalRun where
  slots : Slots
  committed : Option ProfileRestoreActivationJournal
  publishing : Option ProfileRestoreActivationJournal

/-- What is known after a write. -/
def afterWrite (previous : Option ProfileRestoreActivationJournal)
    (journal : ProfileRestoreActivationJournal) (t : Slots) :
    Outcome RestoreJournalError Unit → JournalRun
  | .returned _ => ⟨t, some journal, none⟩
  | .threw _ | .stopped => ⟨t, previous, some journal⟩

/-- What is known after a read. -/
def afterRead (run : JournalRun) (t : Slots) :
    Outcome RestoreJournalError (Option ProfileRestoreActivationJournal) → JournalRun
  | .returned answer => ⟨t, answer, none⟩
  | .threw _ | .stopped => { run with slots := t }

/-- An interrupted clearing that has removed everything has cleared the journal. -/
def afterClear (run : JournalRun) (t : Slots) : Outcome RestoreJournalError Unit → JournalRun
  | .returned _ => ⟨t, none, none⟩
  | .threw _ | .stopped => if t = Slots.empty then ⟨t, none, none⟩ else { run with slots := t }

/-- The calls of the store's owner.  A write comes with the journal that is selected, and
    its own is a step from that one. -/
inductive StoreStep (codec : RecordCodec ProfileRestoreActivationJournal) :
    JournalRun → JournalRun → Prop
  | write {run : JournalRun} {authority : WriteAuthority}
      {journal : ProfileRestoreActivationJournal} {outcome : Outcome RestoreJournalError Unit}
      {t : Slots} (hprevious : Peeks codec run.slots authority.previous)
      (hstep : ∀ previous, authority.previous = some previous →
        journalStep previous journal = true)
      (hends : Ends (write codec authority journal) run.slots outcome t) :
      StoreStep codec run (afterWrite authority.previous journal t outcome)
  | peek {run : JournalRun}
      {outcome : Outcome RestoreJournalError (Option ProfileRestoreActivationJournal)} {t : Slots}
      (hends : Ends (peek codec) run.slots outcome t) :
      StoreStep codec run (afterRead run t outcome)
  | read {run : JournalRun} {expected : Option ProfileRestoreActivationJournal}
      {withAuthority mutation : Bool}
      {outcome : Outcome RestoreJournalError (Option ProfileRestoreActivationJournal)} {t : Slots}
      (hends : Ends (read codec expected withAuthority mutation) run.slots outcome t) :
      StoreStep codec run (afterRead run t outcome)
  | clear {run : JournalRun} {expected : ProfileRestoreActivationJournal}
      {withAuthority mutation : Bool} {outcome : Outcome RestoreJournalError Unit} {t : Slots}
      (hends : Ends (clear codec (some expected) withAuthority mutation) run.slots outcome t) :
      StoreStep codec run (afterClear run t outcome)

/-- Histories that begin without any file. -/
def journalRuns (codec : RecordCodec ProfileRestoreActivationJournal) :
    TransitionSystem JournalRun where
  initial run := run = ⟨Slots.empty, none, none⟩
  step := StoreStep codec

/-! ### Single calls -/

variable {authority : WriteAuthority} {expected : ProfileRestoreActivationJournal}
  {run next : JournalRun}

variable {before : ProfileRestoreActivationJournal} {withAuthority mutation : Bool}
  {outcome : Outcome RestoreJournalError Unit}

theorem write_selects (hprevious : Peeks codec s authority.previous)
    (hends : Ends (write codec authority journal) s outcome t) :
    (∀ answer, outcome = .returned answer → Selects codec t journal) ∧
      EitherSelected codec authority journal t := by
  have hwrite := (@wp_write codec authority journal s fun previous h => by
    rw [h] at hprevious
    exact peeks_some_iff.mp hprevious).ends hends
  cases outcome with
  | returned _ => exact ⟨fun _ _ => hwrite, fun _ _ => .inr hwrite⟩
  | threw _ => exact ⟨nofun, hwrite⟩
  | stopped => exact ⟨nofun, hwrite⟩

theorem peek_answers
    {outcome : Outcome RestoreJournalError (Option ProfileRestoreActivationJournal)}
    (hends : Ends (peek codec) s outcome t) :
    Keeps codec s t ∧ ∀ answer, outcome = .returned answer → Answers codec s answer t := by
  have hpeek : wp AnyFate (peek codec)
      ⟨fun answer t => t = s ∧ Answers codec s answer s, fun _ t => t = s, fun t => t = s⟩ s :=
    wp_peek rfl (fun hempty => ⟨rfl, .inl ⟨rfl, hempty, hempty⟩⟩)
      fun journal hjournal => ⟨rfl, .inr ⟨journal, rfl, hjournal, hjournal⟩⟩
  have hpost := hpeek.ends hends
  cases outcome with
  | returned answer =>
      obtain ⟨rfl, hanswers⟩ := hpost
      refine ⟨fun _ h => h, ?_⟩
      rintro _ ⟨⟩
      exact hanswers
  | threw _ =>
      cases hpost
      exact ⟨fun _ h => h, nofun⟩
  | stopped =>
      cases hpost
      exact ⟨fun _ h => h, nofun⟩

theorem Answers.keeps {answer : Option ProfileRestoreActivationJournal}
    (h : Answers codec s answer t) : Keeps codec s t := by
  intro journal hjournal
  rcases h with ⟨_, rfl, _⟩ | ⟨other, _, hs, ht⟩
  · obtain ⟨b, hb, _⟩ := hjournal
    cases hb
  · rw [selects_unique hjournal hs]
    exact ht

theorem read_answers {expected : Option ProfileRestoreActivationJournal}
    {outcome : Outcome RestoreJournalError (Option ProfileRestoreActivationJournal)}
    (hends : Ends (read codec expected withAuthority mutation) s outcome t) :
    Keeps codec s t ∧ ∀ answer, outcome = .returned answer → Answers codec s answer t := by
  have hread := wp_read.ends hends
  cases outcome with
  | returned answer =>
      refine ⟨Answers.keeps hread, ?_⟩
      rintro _ ⟨⟩
      exact hread
  | threw _ => exact ⟨hread, nofun⟩
  | stopped => exact ⟨hread, nofun⟩

theorem clear_leaves
    (hends : Ends (clear codec (some expected) withAuthority mutation) s outcome t) :
    LeftOf codec s expected t := by
  have hclear := wp_clear.ends hends
  cases outcome with
  | returned _ => exact hclear.2
  | threw _ => exact hclear
  | stopped => exact hclear

/-! ### Whole histories -/

/-- A committed journal is selected, or the one that was being published over it. -/
def Held (codec : RecordCodec ProfileRestoreActivationJournal) (run : JournalRun) : Prop :=
  ∀ committed, run.committed = some committed →
    ∃ journal, Selects codec run.slots journal ∧
      (journal = committed ∨ run.publishing = some journal)

theorem Held.keeps (h : Held codec run) (hkeeps : Keeps codec run.slots t) :
    Held codec { run with slots := t } := by
  intro committed hcommitted
  obtain ⟨journal, hjournal, hwhich⟩ := h committed hcommitted
  exact ⟨journal, hkeeps journal hjournal, hwhich⟩

theorem held_afterRead
    {outcome : Outcome RestoreJournalError (Option ProfileRestoreActivationJournal)}
    (h : Held codec run) (hread : Keeps codec run.slots t ∧
      ∀ answer, outcome = .returned answer → Answers codec run.slots answer t) :
    Held codec (afterRead run t outcome) := by
  cases outcome with
  | threw _ => exact h.keeps hread.1
  | stopped => exact h.keeps hread.1
  | returned answer =>
      rintro committed hcommitted
      obtain rfl : answer = some committed := hcommitted
      rcases hread.2 _ rfl with ⟨hnone, _⟩ | ⟨journal, hsome, _, ht⟩
      · cases hnone
      · cases hsome
        exact ⟨committed, ht, .inl rfl⟩

theorem held_afterWrite (hprevious : Peeks codec s authority.previous)
    (hends : Ends (write codec authority journal) s outcome t) :
    Held codec (afterWrite authority.previous journal t outcome) := by
  obtain ⟨hreturned, heither⟩ := write_selects hprevious hends
  have hinterrupted : Held codec ⟨t, authority.previous, some journal⟩ := by
    intro committed hcommitted
    rcases heither committed hcommitted with ht | ht
    · exact ⟨committed, ht, .inl rfl⟩
    · exact ⟨journal, ht, .inr rfl⟩
  cases outcome with
  | threw _ => exact hinterrupted
  | stopped => exact hinterrupted
  | returned _ =>
      rintro _ ⟨⟩
      exact ⟨journal, hreturned () rfl, .inl rfl⟩

theorem held_afterClear (h : Held codec run)
    (hends : Ends (clear codec (some expected) withAuthority mutation) run.slots outcome t) :
    Held codec (afterClear run t outcome) := by
  have hinterrupted :
      Held codec (if t = Slots.empty then ⟨t, none, none⟩ else { run with slots := t }) := by
    by_cases hempty : t = Slots.empty
    · rw [if_pos hempty]
      exact nofun
    · rw [if_neg hempty]
      refine h.keeps fun journal hjournal => ?_
      rcases clear_leaves hends journal hjournal with ht | ⟨_, ht⟩
      · exact ht
      · exact absurd ht hempty
  cases outcome with
  | returned _ => exact nofun
  | threw _ => exact hinterrupted
  | stopped => exact hinterrupted

theorem held_of_reachable (h : (journalRuns codec).Reachable run) : Held codec run := by
  refine h.invariant (fun run hinitial => ?_) fun run next _ hheld hstep => ?_
  · rw [show run = _ from hinitial]
    exact nofun
  · cases hstep with
    | write hprevious _ hends => exact held_afterWrite hprevious hends
    | peek hends => exact held_afterRead hheld (peek_answers hends)
    | read hends => exact held_afterRead hheld (read_answers hends)
    | clear hends => exact held_afterClear hheld hends

@[simp] theorem afterWrite_slots {previous : Option ProfileRestoreActivationJournal} :
    (afterWrite previous journal t outcome).slots = t := by
  cases outcome <;> rfl

@[simp] theorem afterRead_slots
    {outcome : Outcome RestoreJournalError (Option ProfileRestoreActivationJournal)} :
    (afterRead run t outcome).slots = t := by
  cases outcome <;> rfl

@[simp] theorem afterClear_slots : (afterClear run t outcome).slots = t := by
  have hif : (if t = Slots.empty then ⟨t, none, none⟩
      else ({ run with slots := t } : JournalRun)).slots = t := by
    split <;> rfl
  cases outcome with
  | returned _ => rfl
  | threw _ => exact hif
  | stopped => exact hif

/-- The same journal, or one that may follow it. -/
def Forward (before after : ProfileRestoreActivationJournal) : Prop :=
  after = before ∨ journalStep before after = true

instance {before after : ProfileRestoreActivationJournal} : Decidable (Forward before after) :=
  inferInstanceAs (Decidable (_ ∨ _))

theorem Forward.revision {after : ProfileRestoreActivationJournal} (h : Forward before after) :
    before.revision ≤ after.revision := by
  rcases h with rfl | h
  · exact Nat.le_refl _
  · exact revision_of_journalStep h

/-- What a reader is given after a call is what it would have been given before it, or
    the journal of the write, unless the files have been cleared. -/
theorem forward_of_storeStep (h : StoreStep codec run next)
    (hbefore : Selects codec run.slots before) :
    (∃ after, Selects codec next.slots after ∧ Forward before after) ∨
      next.slots = Slots.empty := by
  cases h with
  | @write authority journal outcome t hprevious hstep hends =>
      have hselected : authority.previous = some before :=
        hprevious.unique (peeks_of_selects hbefore)
      rw [afterWrite_slots]
      rcases (write_selects hprevious hends).2 before hselected with ht | ht
      · exact .inl ⟨before, ht, .inl rfl⟩
      · exact .inl ⟨journal, ht, .inr (hstep before hselected)⟩
  | @peek outcome t hends =>
      rw [afterRead_slots]
      exact .inl ⟨before, (peek_answers hends).1 before hbefore, .inl rfl⟩
  | @read _ _ _ outcome t hends =>
      rw [afterRead_slots]
      exact .inl ⟨before, (read_answers hends).1 before hbefore, .inl rfl⟩
  | @clear expected _ _ outcome t hends =>
      rw [afterClear_slots]
      rcases clear_leaves hends before hbefore with ht | ⟨_, ht⟩
      · exact .inl ⟨before, ht, .inl rfl⟩
      · exact .inr ht

/-- A stretch of a history in which nothing is cleared. -/
def Uncleared (codec : RecordCodec ProfileRestoreActivationJournal) :
    JournalRun → JournalRun → Prop :=
  Relation.ReflTransGen fun run next => StoreStep codec run next ∧ next.slots ≠ Slots.empty

theorem forward_of_uncleared (h : Uncleared codec run next)
    (hbefore : Selects codec run.slots before) :
    ∃ after, Selects codec next.slots after ∧ Relation.ReflTransGen Forward before after := by
  induction h with
  | refl => exact ⟨before, hbefore, .refl⟩
  | tail _ hlast ih =>
      obtain ⟨between, hbetween, hsteps⟩ := ih
      rcases forward_of_storeStep hlast.1 hbetween with ⟨after, hafter, hstep⟩ | hempty
      · exact ⟨after, hafter, hsteps.tail hstep⟩
      · exact absurd hempty hlast.2

theorem revision_of_forward {after : ProfileRestoreActivationJournal}
    (h : Relation.ReflTransGen Forward before after) : before.revision ≤ after.revision := by
  induction h with
  | refl => exact Nat.le_refl _
  | tail _ hlast ih => exact Nat.le_trans ih hlast.revision

/-- **ONLY FORWARD**, in every history:

    - once a journal is committed and not cleared, a reader is given that journal, or
      the one that was being published over it;
    - what a reader is given after any one call is what it was given before, or a step of
      the journal from there, or the files have been cleared;
    - until they are cleared it goes on by such steps, and the revision does not decrease;
    - a clearing of a journal, returned or not, leaves what was selected, or it was that
      journal and nothing is left. -/
theorem restore_journal_only_forward (h : (journalRuns codec).Reachable run) :
    (∀ committed, run.committed = some committed →
      ∃ journal, Peeks codec run.slots (some journal) ∧
        (journal = committed ∨ run.publishing = some journal)) ∧
    (∀ next, StoreStep codec run next → ∀ before, Peeks codec run.slots (some before) →
      (∃ after, Peeks codec next.slots (some after) ∧
        (after = before ∨ journalStep before after = true)) ∨ next.slots = Slots.empty) ∧
    (∀ next, Uncleared codec run next → ∀ before, Peeks codec run.slots (some before) →
      ∃ after, Peeks codec next.slots (some after) ∧
        Relation.ReflTransGen Forward before after ∧ before.revision ≤ after.revision) ∧
    ∀ expected withAuthority mutation outcome t journal,
      Ends (clear codec (some expected) withAuthority mutation) run.slots outcome t →
      Peeks codec run.slots (some journal) →
      Peeks codec t (some journal) ∨ (journal = expected ∧ Peeks codec t none) := by
  refine ⟨fun committed hcommitted => ?_, fun next hnext before hbefore => ?_,
    fun next hnext before hbefore => ?_,
    fun expected withAuthority mutation outcome t journal hends hjournal => ?_⟩
  · obtain ⟨journal, hjournal, hwhich⟩ := held_of_reachable h committed hcommitted
    exact ⟨journal, peeks_of_selects hjournal, hwhich⟩
  · rcases forward_of_storeStep hnext (peeks_some_iff.mp hbefore) with ⟨after, hafter, hstep⟩ | ht
    · exact .inl ⟨after, peeks_of_selects hafter, hstep⟩
    · exact .inr ht
  · obtain ⟨after, hafter, hsteps⟩ := forward_of_uncleared hnext (peeks_some_iff.mp hbefore)
    exact ⟨after, peeks_of_selects hafter, hsteps, revision_of_forward hsteps⟩
  · rcases clear_leaves hends journal (peeks_some_iff.mp hjournal) with ht | ⟨hsame, ht⟩
    · exact .inl (peeks_of_selects ht)
    · rw [ht]
      exact .inr ⟨hsame, peeks_empty⟩

/-! ## Runs on fixed inputs

    A codec whose texts are numbers in the unary system. -/

namespace UnaryText

/-- A number as so many ones. -/
def unary (n : Nat) : Bytes := List.replicate n 49 ++ [44]

/-- The text of numbers. -/
def encode (numbers : List Nat) : Bytes := numbers.flatMap unary ++ [10]

/-- `count` digits of the next number have been read. -/
def decodeFrom (count : Nat) : Bytes → Option (List Nat)
  | [] => none
  | b :: rest =>
    if b = 49 then decodeFrom (count + 1) rest
    else if b = 44 then (decodeFrom 0 rest).map (count :: ·)
    else if b = 10 ∧ rest = [] then some []
    else none

theorem decodeFrom_unary {n count : Nat} {rest : Bytes} :
    decodeFrom count (unary n ++ rest) = (decodeFrom 0 rest).map ((count + n) :: ·) := by
  induction n generalizing count with
  | zero => rfl
  | succ n ih =>
      have hdigit : decodeFrom count (unary (n + 1) ++ rest) =
          decodeFrom (count + 1) (unary n ++ rest) := rfl
      rw [hdigit, ih, Nat.add_right_comm, Nat.add_assoc]

theorem decode_encode (numbers : List Nat) : decodeFrom 0 (encode numbers) = some numbers := by
  induction numbers with
  | nil => rfl
  | cons n numbers ih =>
      rw [encode] at ih ⊢
      rw [List.flatMap_cons, List.append_assoc, decodeFrom_unary, ih]
      simp

/-- A text has to end. -/
theorem mem_of_decodeFrom {b : Bytes} {count : Nat} {numbers : List Nat}
    (h : decodeFrom count b = some numbers) : (10 : UInt8) ∈ b := by
  induction b generalizing count numbers with
  | nil => cases h
  | cons c b ih =>
      rw [decodeFrom] at h
      split at h
      · exact List.mem_cons_of_mem c (ih h)
      split at h
      · obtain ⟨_, hrest, _⟩ := Option.map_eq_some_iff.mp h
        exact List.mem_cons_of_mem c (ih hrest)
      split at h
      · rename_i hend
        rw [hend.1]
        exact List.mem_cons_self
      · cases h

theorem prefix_of_decode {numbers others : List Nat} {n : Nat}
    (h : decodeFrom 0 ((encode numbers).take n) = some others) : others = numbers := by
  by_cases hn : n ≤ (numbers.flatMap unary).length
  · rw [encode, List.take_append_of_le_length hn] at h
    have hend := List.mem_of_mem_take (mem_of_decodeFrom h)
    simp [unary] at hend
  · rw [List.take_of_length_le (by rw [encode, List.length_append]; exact Nat.lt_of_not_le hn),
      decode_encode] at h
    exact (Option.some.inj h).symm

end UnaryText

namespace Sample

/-- The phases, numbered. -/
def phases : List ProfileRestoreActivationPhase :=
  ProfileRestoreActivationPhase.forwardActivationPhases ++
    [.accepted, .rollbackStarting, .rolledBack, .failedSafe]

/-- A journal as numbers. -/
def fields (journal : ProfileRestoreActivationJournal) : List Nat :=
  journal.hadActiveDatabase.toNat :: journal.hadActiveDocuments.toNat ::
    phases.idxOf journal.phase :: journal.revision :: journal.operationId.toList.map Char.toNat

/-- The journal of numbers. -/
def ofFields : List Nat → Option ProfileRestoreActivationJournal
  | database :: documents :: phase :: revision :: characters =>
    let operationId := String.ofList (characters.map Char.ofNat)
    match phases[phase]? with
    | none => none
    | some phase =>
      if h : isOperationId operationId = true ∧ revision ≤ maximumSafeInteger then
        some ⟨database = 1, documents = 1, operationId, phase, revision, h.1, h.2⟩
      else none
  | _ => none

theorem ofFields_fields (journal : ProfileRestoreActivationJournal) :
    ofFields (fields journal) = some journal := by
  obtain ⟨database, documents, operationId, phase, revision, hvalid, hsafe⟩ := journal
  have hcharacters :
      String.ofList ((operationId.toList.map Char.toNat).map Char.ofNat) = operationId := by
    rw [List.map_map, show Char.ofNat ∘ Char.toNat = id from funext Char.ofNat_toNat, List.map_id,
      String.ofList_toList]
  have hphase : phases[phases.idxOf phase]? = some phase := by cases phase <;> rfl
  simp only [fields, ofFields, hcharacters, hphase, hvalid, hsafe, and_self, dif_pos]
  cases database <;> cases documents <;> rfl

/-- A codec of journals. -/
def sampleCodec : RecordCodec ProfileRestoreActivationJournal where
  parse b := (UnaryText.decodeFrom 0 b).bind ofFields
  serialize journal := UnaryText.encode (fields journal)
  parse_serialize journal := by
    rw [UnaryText.decode_encode]
    exact ofFields_fields journal
  parse_prefix journal n other h := by
    obtain ⟨numbers, hnumbers, hother⟩ := Option.bind_eq_some_iff.mp h
    rw [UnaryText.prefix_of_decode hnumbers, ofFields_fields] at hother
    exact (Option.some.inj hother).symm
  serialize_pos _ := by
    rw [UnaryText.encode, List.length_append]
    exact Nat.le_add_left 1 _

/-- A journal of revision `revision` of the one restoration of these runs. -/
def journalAt (phase : ProfileRestoreActivationPhase) (revision : Nat)
    (h : revision ≤ maximumSafeInteger) : ProfileRestoreActivationJournal :=
  ⟨true, false, "11111111-1111-5111-8111-111111111111", phase, revision, by decide +kernel, h⟩

theorem zero_le_maximumSafeInteger : 0 ≤ (maximumSafeInteger : Nat) := Nat.zero_le _

/-- The first journal. -/
def prepared : ProfileRestoreActivationJournal :=
  journalAt .prepared 0 zero_le_maximumSafeInteger

/-- The second journal. -/
def movingDatabase : ProfileRestoreActivationJournal :=
  journalAt .movingCurrentDatabase 1 (by decide)

/-- The third journal. -/
def databaseMoved : ProfileRestoreActivationJournal :=
  journalAt .currentDatabaseMoved 2 (by decide)

/-- The authority of a write. -/
def writing (previous : Option ProfileRestoreActivationJournal) : WriteAuthority :=
  ⟨previous, .unspecified, false, true⟩

/-- The files of a journal. -/
def slotsOf (journal : ProfileRestoreActivationJournal) : Slots :=
  Slots.only (sampleCodec.serialize journal)

theorem created :
    Ends (write sampleCodec (writing none) prepared) Slots.empty (.returned ())
      (slotsOf prepared) :=
  ⟨[], by decide +kernel⟩

theorem reachable_created :
    (journalRuns sampleCodec).Reachable ⟨slotsOf prepared, some prepared, none⟩ := by
  have hnever : ∀ previous, (writing none).previous = some previous →
      journalStep previous prepared = true := fun _ h => by cases h
  have hwrite : StoreStep sampleCodec ⟨Slots.empty, none, none⟩
      (afterWrite (writing none).previous prepared (slotsOf prepared) (.returned ())) :=
    .write peeks_empty hnever created
  exact .step (.initial rfl) hwrite

/-- After the first write a reader is given its journal, or one that is being published
    over it. -/
theorem only_forward_created : ∃ journal, Peeks sampleCodec (slotsOf prepared) (some journal) ∧
    (journal = prepared ∨ none = some journal) :=
  (restore_journal_only_forward reachable_created).1 prepared rfl

/-- The store does not compare the journal of a write with the one that it replaces: a
    phase can be left out, and an older journal put in the place of a newer one.  And where
    every write is one step, two results between which there were two writes are not. -/
theorem older_journal_written :
    (Ends (write sampleCodec (writing (some prepared)) databaseMoved) (slotsOf prepared)
        (.returned ()) (slotsOf databaseMoved) ∧
      Ends (write sampleCodec (writing (some databaseMoved)) movingDatabase)
        (slotsOf databaseMoved) (.returned ()) (slotsOf movingDatabase) ∧
      Peeks sampleCodec (slotsOf prepared) (some prepared) ∧
      Peeks sampleCodec (slotsOf databaseMoved) (some databaseMoved) ∧
      Peeks sampleCodec (slotsOf movingDatabase) (some movingDatabase) ∧
      ¬ Forward prepared databaseMoved ∧ ¬ Forward databaseMoved movingDatabase ∧
      movingDatabase.revision < databaseMoved.revision) ∧
    Ends (write sampleCodec (writing (some prepared)) movingDatabase) (slotsOf prepared)
        (.returned ()) (slotsOf movingDatabase) ∧
      Ends (write sampleCodec (writing (some movingDatabase)) databaseMoved)
        (slotsOf movingDatabase) (.returned ()) (slotsOf databaseMoved) ∧
      Forward prepared movingDatabase ∧ Forward movingDatabase databaseMoved := by
  refine ⟨⟨⟨[], ?_⟩, ⟨[], ?_⟩, ?_, ?_, ?_, ?_, ?_, ?_⟩, ⟨[], ?_⟩, ⟨[], ?_⟩, ?_, ?_⟩
  all_goals decide +kernel

end Sample

end ProfileRestoreActivationJournalStore
