import Eky.FaultProgram

/-! # Three files that stand for one value

    A value is kept in `current`; a new one is written to `next`, the old one is
    set aside in `backup`, and renames and removals put them in place.  This file
    has the slots, what can go wrong with one file operation, and the rules for
    operations that are carried out at once or in part.  How a particular store
    uses its slots is not decided here. -/

/-- Contents of a file. -/
abbrev Bytes := List UInt8

/-- The bound on what is read back from a slot. -/
def ReadableSize (maximumBytes : Nat) (bytes : Bytes) : Prop :=
  1 ≤ bytes.length ∧ bytes.length ≤ maximumBytes

instance (maximumBytes : Nat) (bytes : Bytes) : Decidable (ReadableSize maximumBytes bytes) :=
  inferInstanceAs (Decidable (_ ∧ _))

/-- The three files of a store. -/
inductive Slot
  | current
  | next
  | backup
  deriving DecidableEq

/-- The contents of the three files. -/
structure Slots where
  current : Option Bytes
  next : Option Bytes
  backup : Option Bytes
  deriving DecidableEq

namespace Slots

/-- What a slot holds. -/
def get (s : Slots) : Slot → Option Bytes
  | .current => s.current
  | .next => s.next
  | .backup => s.backup

/-- The slots with another content in one. -/
def set (s : Slots) (slot : Slot) (content : Option Bytes) : Slots :=
  match slot with
  | .current => { s with current := content }
  | .next => { s with next := content }
  | .backup => { s with backup := content }

/-- No file at all. -/
def empty : Slots := ⟨none, none, none⟩

/-- The value in place, and no other file. -/
def only (b : Bytes) : Slots := ⟨some b, none, none⟩

@[simp] theorem set_current (s : Slots) (content : Option Bytes) :
    s.set .current content = ⟨content, s.next, s.backup⟩ := rfl
@[simp] theorem set_next (s : Slots) (content : Option Bytes) :
    s.set .next content = ⟨s.current, content, s.backup⟩ := rfl
@[simp] theorem set_backup (s : Slots) (content : Option Bytes) :
    s.set .backup content = ⟨s.current, s.next, content⟩ := rfl
@[simp] theorem get_current (s : Slots) : s.get .current = s.current := rfl
@[simp] theorem get_next (s : Slots) : s.get .next = s.next := rfl
@[simp] theorem get_backup (s : Slots) : s.get .backup = s.backup := rfl

/-- A value of `A` is in place, or it is set aside and nothing is in place. -/
def Recoverable (A : Bytes → Prop) (s : Slots) : Prop :=
  (∃ b, A b ∧ s.current = some b) ∨ (s.current = none ∧ ∃ b, A b ∧ s.backup = some b)

variable {A : Bytes → Prop} {b : Bytes}

theorem Recoverable.mono {B : Bytes → Prop} {s : Slots} (h : Recoverable A s)
    (hAB : ∀ b, A b → B b) :
    Recoverable B s := by
  rcases h with ⟨b, hb, hcurrent⟩ | ⟨hcurrent, b, hb, hbackup⟩
  · exact .inl ⟨b, hAB b hb, hcurrent⟩
  · exact .inr ⟨hcurrent, b, hAB b hb, hbackup⟩

theorem recoverable_current {next backup : Option Bytes} (hb : A b) :
    Recoverable A ⟨some b, next, backup⟩ :=
  .inl ⟨b, hb, rfl⟩

theorem recoverable_backup {next : Option Bytes} (hb : A b) : Recoverable A ⟨none, next, some b⟩ :=
  .inr ⟨rfl, b, hb, rfl⟩

theorem recoverable_only : Recoverable (· = b) (only b) := recoverable_current rfl

end Slots

/-! ## What becomes of one file operation -/

/-- How an effect ends. -/
inductive Ending
  | completes
  | fails
  | crashes
  deriving DecidableEq

/-- How an operation ends and how many of its parts took place by then; `none` is
    all of them. -/
structure Fate where
  ending : Ending
  progress : Option Nat
  deriving DecidableEq

namespace Fate

instance : Inhabited Fate := ⟨⟨.completes, none⟩⟩

/-- An operation in one part took place if it completed, or got past its start. -/
def takesEffect (fate : Fate) : Bool := fate.ending = .completes || fate.progress ≠ some 0

/-- Nothing goes wrong. -/
def Quiet (fate : Fate) : Prop := fate = default

/-- Nothing fails; the process may end at any point, if there are crashes at all. -/
def Steady (crashes : Prop) (fate : Fate) : Prop :=
  fate.ending ≠ .fails ∧ (fate.ending = .crashes → crashes)

theorem steady_default {crashes : Prop} : Steady crashes default := ⟨nofun, nofun⟩

/-- Anything may go wrong if there are disturbances at all, and nothing otherwise. -/
def Disturbed (disturbed : Prop) (fate : Fate) : Prop := disturbed ∨ fate.Quiet

/-- The outcome of an effect with this fate. -/
def outcome {ε α : Type} (fate : Fate) (failure : ε) (answer : α) : Outcome ε α :=
  match fate.ending with
  | .completes => .returned answer
  | .fails => .threw failure
  | .crashes => .stopped

end Fate

section Operations

variable {σ ε α : Type}

/-- An operation in one part: it is refused, or it changes the state at once. -/
def attempt (failure : ε) (perform : σ → Except ε (α × σ)) : Program σ Fate ε α :=
  Program.effect fun fate s =>
    match perform s with
    | .ok (answer, t) => (fate.outcome failure answer, if fate.takesEffect then t else s)
    | .error refusal => (if fate.ending = .crashes then .stopped else .threw refusal, s)

/-- An operation of many parts, such as writing a file. -/
def attemptParts (failure : ε) (perform : Fate → σ → α × σ) : Program σ Fate ε α :=
  Program.effect fun fate s => (fate.outcome failure (perform fate s).1, (perform fate s).2)

/-- An operation that changes nothing, such as a flush. -/
def attemptNothing (failure : ε) : Program σ Fate ε Unit := attempt failure fun s => .ok ((), s)

variable {allowed : Fate → Prop} {failure : ε} {perform : σ → Except ε (α × σ)} {s : σ}

variable {post : Program.Post σ ε α} {a : α} {R : ε → σ → Prop} {t : σ}

/-- What an operation in one part leads to: a refusal leaves the state, a failure
    or a crash leaves it as it was or as it was to become. -/
theorem wp_attempt_errors {I : σ → Prop} {Q : α → σ → Prop} (hdefault : allowed default) (hI : I s)
    (hrefused : ∀ refusal, perform s = .error refusal → R refusal s)
    (h : ∀ a t, perform s = .ok (a, t) → R failure s ∧ R failure t ∧ I t ∧ Q a t) :
    Program.wp allowed (attempt failure perform) ⟨Q, R, I⟩ s := by
  refine Program.wp_effect hdefault fun fate _ => ?_
  cases hperform : perform s with
  | error refusal =>
      dsimp only
      split
      · exact hI
      · exact hrefused refusal hperform
  | ok answered =>
      obtain ⟨a, t⟩ := answered
      obtain ⟨hRs, hRt, ht, hQ⟩ := h a t hperform
      cases hending : fate.ending with
      | completes =>
          have heffect : fate.takesEffect = true := by rw [Fate.takesEffect, hending]; rfl
          simp only [Fate.outcome, hending, heffect, if_true]
          exact hQ
      | fails =>
          simp only [Fate.outcome, hending]
          split
          · exact hRt
          · exact hRs
      | crashes =>
          simp only [Fate.outcome, hending]
          split
          · exact ht
          · exact hI

/-- **KEEP RULE**: if what holds before and after the change is all that an
    interrupted run has to leave, only the completed change remains. -/
theorem wp_attempt {I : σ → Prop} {Q : α → σ → Prop} (hdefault : allowed default) (hI : I s)
    (h : ∀ a t, perform s = .ok (a, t) → I t ∧ Q a t) :
    Program.wp allowed (attempt failure perform) ⟨Q, fun _ => I, I⟩ s :=
  wp_attempt_errors hdefault hI (fun _ _ => hI) fun a t hperform =>
    ⟨hI, (h a t hperform).1, h a t hperform⟩

theorem wp_attempt_partially {Q : α → σ → Prop} (h : ∀ a t, perform s = .ok (a, t) → Q a t) :
    Program.wp Program.AnyFate (attempt failure perform) (.partially Q) s :=
  wp_attempt trivial trivial fun a t hperform => ⟨trivial, h a t hperform⟩

theorem wp_attemptNothing {I : σ → Prop} {Q : Unit → σ → Prop} (hdefault : allowed default)
    (hI : I s) (hQ : Q () s) :
    Program.wp allowed (attemptNothing failure) ⟨Q, fun _ => I, I⟩ s :=
  wp_attempt hdefault hI fun _ _ h => by
    cases h
    exact ⟨hI, hQ⟩

theorem wp_attemptParts {I : σ → Prop} {Q : α → σ → Prop} {perform : Fate → σ → α × σ}
    (hdefault : allowed default) (hI : ∀ fate, I (perform fate s).2)
    (hQ : ∀ fate, fate.ending = .completes → Q (perform fate s).1 (perform fate s).2) :
    Program.wp allowed (attemptParts failure perform) ⟨Q, fun _ => I, I⟩ s := by
  refine Program.wp_effect hdefault fun fate _ => ?_
  cases hending : fate.ending with
  | completes => simp only [Fate.outcome, hending]; exact hQ fate hending
  | fails => simp only [Fate.outcome, hending]; exact hI fate
  | crashes => simp only [Fate.outcome, hending]; exact hI fate

/-! ### Runs that are cut off -/

/-- What a crash leaves, if there are crashes at all. -/
def Midway (crashes : Prop) (I : σ → Prop) (s : σ) : Prop := crashes ∧ I s

variable {crashes : Prop}

/-- Without failures an operation throws only if it is refused. -/
theorem wp_attempt_steady {I : σ → Prop} {Q : α → σ → Prop} (hI : I s)
    (hrefused : ∀ refusal, perform s = .error refusal → R refusal s)
    (h : ∀ a t, perform s = .ok (a, t) → I t ∧ Q a t) :
    Program.wp (Fate.Steady crashes) (attempt failure perform) ⟨Q, R, Midway crashes I⟩ s := by
  refine Program.wp_effect Fate.steady_default fun fate hsteady => ?_
  cases hperform : perform s with
  | error refusal =>
      dsimp only
      split
      · rename_i hcrashes
        exact ⟨hsteady.2 hcrashes, hI⟩
      · exact hrefused refusal hperform
  | ok answered =>
      obtain ⟨a, t⟩ := answered
      obtain ⟨ht, hQ⟩ := h a t hperform
      cases hending : fate.ending with
      | completes =>
          have heffect : fate.takesEffect = true := by rw [Fate.takesEffect, hending]; rfl
          simp only [Fate.outcome, hending, heffect, if_true]
          exact hQ
      | fails => exact absurd hending hsteady.1
      | crashes =>
          simp only [Fate.outcome, hending]
          split
          · exact ⟨hsteady.2 hending, ht⟩
          · exact ⟨hsteady.2 hending, hI⟩

theorem wp_attemptParts_steady {I : σ → Prop} {Q : α → σ → Prop} {perform : Fate → σ → α × σ}
    (hI : ∀ fate, I (perform fate s).2)
    (hQ : ∀ fate, fate.ending = .completes → Q (perform fate s).1 (perform fate s).2) :
    Program.wp (Fate.Steady crashes) (attemptParts failure perform)
      ⟨Q, R, Midway crashes I⟩ s := by
  refine Program.wp_effect Fate.steady_default fun fate hsteady => ?_
  cases hending : fate.ending with
  | completes => simp only [Fate.outcome, hending]; exact hQ fate hending
  | fails => exact absurd hending hsteady.1
  | crashes => simp only [Fate.outcome, hending]; exact ⟨hsteady.2 hending, hI fate⟩

/-- How a run without failures ends. -/
theorem ended_steady {m : Program σ Fate ε α} {I : σ → Prop} {Q : α → σ → Prop}
    (h : Program.wp (Fate.Steady True) m ⟨Q, R, Midway True I⟩ s) {fates : List Fate}
    (hfates : ∀ fate ∈ fates, fate.ending ≠ .fails) :
    (∃ a, Q a (m s fates).2.1) ∨ (∃ e, R e (m s fates).2.1) ∨ I (m s fates).2.1 := by
  have hpost := (h fates fun fate hfate => ⟨hfates fate hfate, fun _ => trivial⟩).1
  cases houtcome : (m s fates).1 with
  | returned a => exact .inl ⟨a, by rwa [houtcome] at hpost⟩
  | threw e => exact .inr (.inl ⟨e, by rwa [houtcome] at hpost⟩)
  | stopped => exact .inr (.inr (by rw [houtcome] at hpost; exact hpost.2))

/-- A run that nothing cuts off does not stop. -/
theorem undisturbed_steady {m : Program σ Fate ε α} {I : σ → Prop} {Q : α → σ → Prop}
    (h : Program.wp (Fate.Steady False) m ⟨Q, R, Midway False I⟩ s) :
    (∃ a, (m s []).1 = .returned a ∧ Q a (m s []).2.1) ∨
      ∃ e, (m s []).1 = .threw e ∧ R e (m s []).2.1 := by
  have hpost := (h [] nofun).1
  cases houtcome : (m s []).1 with
  | returned a => exact .inl ⟨a, rfl, by rwa [houtcome] at hpost⟩
  | threw e => exact .inr ⟨e, rfl, by rwa [houtcome] at hpost⟩
  | stopped =>
      rw [houtcome] at hpost
      exact hpost.1.elim

/-! ### Runs that are disturbed, or not -/

section Disturbed

variable {disturbed : Prop} {m : Program σ Fate ε α}

/-- An operation that is not refused leaves what was or what was to be, and it throws
    only when it is disturbed. -/
theorem wp_attempt_disturbed {I : σ → Prop} {Q : α → σ → Prop} (hperform : perform s = .ok (a, t))
    (hs : I s) (ht : I t) (hQ : Q a t) :
    Program.wp (Fate.Disturbed disturbed) (attempt failure perform)
      ⟨Q, fun _ => Midway disturbed I, Midway disturbed I⟩ s := by
  refine Program.wp_effect (.inr rfl) fun fate hfate => ?_
  rw [hperform]
  rcases hfate with hdisturbed | hquiet
  · cases hending : fate.ending with
    | completes =>
        have heffect : fate.takesEffect = true := by rw [Fate.takesEffect, hending]; rfl
        simp only [Fate.outcome, hending, heffect, if_true]
        exact hQ
    | fails =>
        simp only [Fate.outcome, hending]
        split
        · exact ⟨hdisturbed, ht⟩
        · exact ⟨hdisturbed, hs⟩
    | crashes =>
        simp only [Fate.outcome, hending]
        split
        · exact ⟨hdisturbed, ht⟩
        · exact ⟨hdisturbed, hs⟩
  · rw [show fate = default from hquiet]
    exact hQ

theorem wp_disturbed (hdisturbed : disturbed) (h : Program.wp Program.AnyFate m post s) :
    Program.wp (Fate.Disturbed disturbed) m post s :=
  fun fates _ => ⟨(h fates fun _ _ => trivial).1, fun _ _ => .inl hdisturbed⟩

theorem wp_of_disturbed {I : σ → Prop} {Q : α → σ → Prop}
    (h : Program.wp (Fate.Disturbed True) m ⟨Q, fun _ => Midway True I, Midway True I⟩ s) :
    Program.wp Program.AnyFate m ⟨Q, fun _ => I, I⟩ s := by
  refine Program.wp.mono (fun fates _ => ⟨(h fates fun _ _ => .inl trivial).1,
    fun _ _ => trivial⟩) (fun _ _ ht => ht) (fun _ _ ht => ht.2) fun _ ht => ht.2

/-- A run that nothing disturbs returns. -/
theorem undisturbed {I : σ → Prop} {Q : α → σ → Prop}
    (h : Program.wp (Fate.Disturbed False) m
      ⟨Q, fun _ => Midway False I, Midway False I⟩ s) :
    ∃ a, (m s []).1 = .returned a ∧ Q a (m s []).2.1 := by
  have hpost := (h [] nofun).1
  cases houtcome : (m s []).1 with
  | returned a => exact ⟨a, rfl, by rwa [houtcome] at hpost⟩
  | threw e =>
      rw [houtcome] at hpost
      exact hpost.1.elim
  | stopped =>
      rw [houtcome] at hpost
      exact hpost.1.elim

end Disturbed

/-! ### Runs that may be refused -/

section Excused

variable {disturbed excuse : Prop} {m : Program σ Fate ε α}

/-- `I` is never broken, and nothing is thrown unless the run is disturbed, or there is an
    excuse for it. -/
def careful (disturbed excuse : Prop) (I : σ → Prop) (Q : α → σ → Prop) : Program.Post σ ε α :=
  ⟨Q, fun _ t => I t ∧ (disturbed ∨ excuse), Midway disturbed I⟩

variable {I : σ → Prop} {Q : α → σ → Prop}

theorem wp_attempt_careful (hI : I s)
    (hrefused : ∀ refusal, perform s = .error refusal → excuse)
    (h : ∀ a t, perform s = .ok (a, t) → I t ∧ Q a t) :
    Program.wp (Fate.Disturbed disturbed) (attempt failure perform)
      (careful disturbed excuse I Q) s := by
  refine Program.wp_effect (.inr rfl) fun fate hfate => ?_
  cases hperform : perform s with
  | error refusal =>
      dsimp only
      split
      · rename_i hcrashes
        rcases hfate with hdisturbed | hquiet
        · exact ⟨hdisturbed, hI⟩
        · rw [show fate = default from hquiet] at hcrashes
          cases hcrashes
      · exact ⟨hI, .inr (hrefused refusal hperform)⟩
  | ok answered =>
      obtain ⟨a, t⟩ := answered
      obtain ⟨ht, hQ⟩ := h a t hperform
      have hrun : Program.wp (Fate.Disturbed disturbed) (attempt failure perform)
          (careful disturbed excuse I Q) s :=
        (wp_attempt_disturbed hperform hI ht hQ).mono (fun _ _ hu => hu)
          (fun _ _ hu => ⟨hu.2, .inl hu.1⟩) fun _ hu => hu
      have hfates := hrun [fate] fun other hother => by
        rw [List.mem_singleton.mp hother]
        exact hfate
      have hpost := hfates.1
      simp only [attempt, Program.effect, hperform] at hpost
      exact hpost

theorem wp_attemptParts_careful {perform : Fate → σ → α × σ} (hI : ∀ fate, I (perform fate s).2)
    (hQ : ∀ fate, fate.ending = .completes → Q (perform fate s).1 (perform fate s).2) :
    Program.wp (Fate.Disturbed disturbed) (attemptParts failure perform)
      (careful disturbed excuse I Q) s := by
  refine Program.wp_effect (.inr rfl) fun fate hfate => ?_
  rcases hfate with hdisturbed | hquiet
  · cases hending : fate.ending with
    | completes => simp only [Fate.outcome, hending]; exact hQ fate hending
    | fails => simp only [Fate.outcome, hending]; exact ⟨hI fate, .inl hdisturbed⟩
    | crashes => simp only [Fate.outcome, hending]; exact ⟨hdisturbed, hI fate⟩
  · rw [show fate = default from hquiet]
    exact hQ default rfl

theorem wp_attemptNothing_careful {Q : Unit → σ → Prop} (hI : I s) (hQ : Q () s) :
    Program.wp (Fate.Disturbed disturbed) (attemptNothing failure)
      (careful disturbed excuse I Q) s :=
  wp_attempt_careful hI nofun fun _ _ h => by
    cases h
    exact ⟨hI, hQ⟩

theorem wp_mapError_careful {ε' : Type} {f : ε → ε'}
    (h : Program.wp (Fate.Disturbed disturbed) m (careful disturbed excuse I Q) s) :
    Program.wp (Fate.Disturbed disturbed) (Program.mapError f m)
      (careful disturbed excuse I Q) s :=
  Program.wp_mapError h

theorem wp_ofExcept_careful {r : Except ε α} (hI : I s) (hrefused : ∀ e, r = .error e → excuse)
    (h : ∀ a, r = .ok a → Q a s) :
    Program.wp (Fate.Disturbed disturbed) (Program.ofExcept r)
      (careful disturbed excuse I Q) s :=
  Program.wp_ofExcept h fun e he => ⟨hI, .inr (hrefused e he)⟩

/-- A cleanup in which nothing is refused. -/
theorem wp_andFinally_careful {cleanup : Program σ Fate ε Unit}
    (h : Program.wp (Fate.Disturbed disturbed) m (careful disturbed excuse I Q) s)
    (hcleanup : ∀ t, I t → Program.wp (Fate.Disturbed disturbed) cleanup
      (careful disturbed excuse I fun _ u => u = t) t)
    (hQ : ∀ a t, Q a t → I t) :
    Program.wp (Fate.Disturbed disturbed) (Program.andFinally m cleanup)
      (careful disturbed excuse I Q) s := by
  refine Program.wp_andFinally (h.mono (fun a t ht => ?_) (fun _ t ht => ?_) fun _ ht => ht)
  · refine (hcleanup t (hQ a t ht)).mono (fun _ u hu => ?_) (fun _ _ hu => hu) fun _ hu => hu
    rw [hu]
    exact ht
  · refine (hcleanup t ht.1).mono (fun _ u hu => ?_) (fun _ _ hu => hu) fun _ hu => hu
    rw [hu]
    exact ht

/-- However a run ends that is disturbed, `I` holds of what it leaves. -/
theorem ended_careful (h : Program.wp (Fate.Disturbed True) m (careful True excuse I Q) s)
    (hQ : ∀ a t, Q a t → I t) (fates : List Fate) : I (m s fates).2.1 := by
  have hpost := (h fates fun _ _ => .inl trivial).1
  cases houtcome : (m s fates).1 with
  | returned a => exact hQ a _ (by rwa [houtcome] at hpost)
  | threw e =>
      rw [houtcome] at hpost
      exact hpost.1
  | stopped =>
      rw [houtcome] at hpost
      exact hpost.2

/-- Left to itself, a run returns, or there is an excuse for what it throws. -/
theorem undisturbed_careful
    (h : Program.wp (Fate.Disturbed False) m (careful False excuse I Q) s) :
    (∃ a, (m s []).1 = .returned a ∧ Q a (m s []).2.1) ∨
      (excuse ∧ ∃ e, (m s []).1 = .threw e) := by
  have hpost := (h [] nofun).1
  cases houtcome : (m s []).1 with
  | returned a => exact .inl ⟨a, rfl, by rwa [houtcome] at hpost⟩
  | threw e =>
      rw [houtcome] at hpost
      exact .inr ⟨hpost.2.resolve_left id, e, rfl⟩
  | stopped =>
      rw [houtcome] at hpost
      exact hpost.1.elim

end Excused

/-! ### Undisturbed runs -/

theorem wp_attempt_quiet (h : perform s = .ok (a, t)) (hpost : post.returned a t) :
    Program.wp Fate.Quiet (attempt failure perform) post s := by
  refine Program.wp_effect rfl fun fate hfate => ?_
  rw [show fate = default from hfate, h]
  exact hpost

theorem wp_attempt_quiet_error {refusal : ε} (h : perform s = .error refusal)
    (hpost : post.threw refusal s) : Program.wp Fate.Quiet (attempt failure perform) post s := by
  refine Program.wp_effect rfl fun fate hfate => ?_
  rw [show fate = default from hfate, h]
  exact hpost

theorem wp_attemptNothing_quiet {post : Program.Post σ ε Unit} (hpost : post.returned () s) :
    Program.wp Fate.Quiet (attemptNothing failure) post s :=
  wp_attempt_quiet rfl hpost

theorem quietly_attempt (h : perform s = .ok (a, t)) :
    Program.Quietly (attempt failure perform) s (.returned a) t := by
  rw [Program.Quietly, attempt, Program.effect]
  simp only [h]
  rfl

theorem quietly_attempt_refused {refusal : ε} (h : perform s = .error refusal) :
    Program.Quietly (attempt failure perform) s (.threw refusal) s := by
  rw [Program.Quietly, attempt, Program.effect]
  simp only [h]
  rfl

theorem quietly_attemptParts {perform : Fate → σ → α × σ} :
    Program.Quietly (attemptParts failure perform) s (.returned (perform default s).1)
      (perform default s).2 :=
  rfl

theorem quietly_attemptNothing :
    Program.Quietly (attemptNothing failure : Program σ Fate ε Unit) s (.returned ()) s :=
  quietly_attempt rfl

end Operations
