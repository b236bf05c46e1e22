import Mathlib.Logic.Basic

/-! # Programs whose effects may fail or be cut off

    A program runs over a state `σ` and meets one fate for each of its effects:
    the fate says whether the effect completes, throws, or stops the process, and
    how much of it took place.  The fates come from a list; when it is used up,
    every further effect meets the default fate, in which nothing goes wrong.  So
    a run is a computation, and "whatever goes wrong" is a quantifier over lists.

    - `Program`: programs with `throw`, `catch` and `finally`;
    - `wp allowed m post s`: every run of `m` from `s` whose fates are `allowed`
      ends in `post`;
    - `Ends`: the runs themselves, for the steps of a system. -/

/-- How a program ends.  A stopped program runs no handler and no cleanup. -/
inductive Outcome (ε α : Type)
  | returned (value : α)
  | threw (error : ε)
  | stopped
  deriving DecidableEq

/-- A program over a state `σ`, in which each effect takes its fate from a list. -/
def Program (σ φ ε α : Type) : Type := σ → List φ → Outcome ε α × σ × List φ

namespace Program

variable {σ φ ε α β : Type}

/-! ## Control -/

/-- Answers without an effect. -/
protected def pure (a : α) : Program σ φ ε α := fun s fates => (.returned a, s, fates)

/-- One program after the other; an error or a crash ends both. -/
protected def bind (m : Program σ φ ε α) (k : α → Program σ φ ε β) : Program σ φ ε β :=
  fun s fates =>
    match m s fates with
    | (.returned a, t, rest) => k a t rest
    | (.threw e, t, rest) => (.threw e, t, rest)
    | (.stopped, t, rest) => (.stopped, t, rest)

instance : Monad (Program σ φ ε) where
  pure := Program.pure
  bind := Program.bind

/-- An error without an effect. -/
protected def throw (e : ε) : Program σ φ ε α := fun s fates => (.threw e, s, fates)

/-- An error is handled; a crash is not. -/
protected def tryCatch (m : Program σ φ ε α) (handler : ε → Program σ φ ε α) :
    Program σ φ ε α :=
  fun s fates =>
    match m s fates with
    | (.threw e, t, rest) => handler e t rest
    | ended => ended

instance : MonadExceptOf ε (Program σ φ ε) where
  throw := Program.throw
  tryCatch := Program.tryCatch

/-- `m` with every error replaced. -/
def mapError {ε' : Type} (f : ε → ε') (m : Program σ φ ε α) : Program σ φ ε' α := fun s fates =>
  match m s fates with
  | (.returned a, t, rest) => (.returned a, t, rest)
  | (.threw e, t, rest) => (.threw (f e), t, rest)
  | (.stopped, t, rest) => (.stopped, t, rest)

/-- `cleanup` after an error of `m`, which is thrown on unless `cleanup` throws. -/
def onError (m : Program σ φ ε α) (cleanup : Program σ φ ε Unit) : Program σ φ ε α :=
  m.tryCatch fun e => cleanup >>= fun _ => .throw e

/-- `try m finally cleanup`. -/
def andFinally (m : Program σ φ ε α) (cleanup : Program σ φ ε Unit) : Program σ φ ε α :=
  m.onError cleanup >>= fun a => cleanup >>= fun _ => pure a

/-- `m.catch(() => undefined)`. -/
def ignoreError (m : Program σ φ ε Unit) : Program σ φ ε Unit := m.tryCatch fun _ => pure ()

/-- What `m` makes of the state, seen by a program that returns or throws. -/
def ofExcept (r : Except ε α) : Program σ φ ε α :=
  match r with
  | .ok a => .pure a
  | .error e => .throw e

/-- `m` on the part of the state that `get` reads and `put` replaces. -/
def zoom {τ : Type} (get : σ → τ) (put : τ → σ → σ) (m : Program τ φ ε α) : Program σ φ ε α :=
  fun s fates => ((m (get s) fates).1, put (m (get s) fates).2.1 s, (m (get s) fates).2.2)

/-- The state is there to be read, and nothing happens meanwhile. -/
def get : Program σ φ ε σ := fun s fates => (.returned s, s, fates)

/-- A change of the state that cannot go wrong. -/
def modify (f : σ → σ) : Program σ φ ε Unit := fun s fates => (.returned (), f s, fates)

variable {c : Prop} {handler : ε → Program σ φ ε α} {k : α → Program σ φ ε β} {ε' : Type}
  {r : Except ε α} {cleanup : Program σ φ ε Unit} {Q : α → σ → Prop} {e : ε} {a : α}
  {f : ε → ε'}

theorem ok_of_mapError (h : r.mapError f = .ok a) : r = .ok a := by
  cases r with
  | error e => cases h
  | ok b =>
      cases h
      rfl

/-! ## Effects -/

/-- One effect: `act` says what the fate that it meets makes of it. -/
def effect [Inhabited φ] (act : φ → σ → Outcome ε α × σ) : Program σ φ ε α := fun s fates =>
  match fates with
  | [] => ((act default s).1, (act default s).2, [])
  | fate :: rest => ((act fate s).1, (act fate s).2, rest)

/-- `m` and then `others`, whether or not `m` throws.  The process stops in the
    course of either of them, with an arbitrary part of the other carried out. -/
def settledWith (m : Program σ φ ε Unit) (others : Program σ φ ε Bool) : Program σ φ ε Bool :=
  fun s fates =>
    match m s fates with
    | (.returned _, t, rest) => others t rest
    | (.threw _, t, rest) => (others >>= fun _ => pure false) t rest
    | (.stopped, t, rest) => (.stopped, (others t rest).2.1, (others t rest).2.2)

/-- `Promise.allSettled`: the answer says whether every program has returned. -/
def allSettled : List (Program σ φ ε Unit) → Program σ φ ε Bool
  | [] => pure true
  | m :: ms => settledWith m (allSettled ms)

/-! ## Runs -/

/-- What has to hold at the end of a run. -/
structure Post (σ ε α : Type) where
  returned : α → σ → Prop
  threw : ε → σ → Prop
  stopped : σ → Prop

/-- The part of a postcondition that an outcome is held to. -/
def Post.Holds (post : Post σ ε α) : Outcome ε α → σ → Prop
  | .returned a, s => post.returned a s
  | .threw e, s => post.threw e s
  | .stopped, s => post.stopped s

/-- Every run of `m` from `s` that meets allowed fates only ends in `post`. -/
def wp (allowed : φ → Prop) (m : Program σ φ ε α) (post : Post σ ε α) (s : σ) : Prop :=
  ∀ fates, (∀ fate ∈ fates, allowed fate) →
    post.Holds (m s fates).1 (m s fates).2.1 ∧ ∀ fate ∈ (m s fates).2.2, allowed fate

/-- Whatever the fates. -/
def AnyFate : φ → Prop := fun _ => True

/-- Partial correctness: only what is returned matters. -/
def Post.partially (Q : α → σ → Prop) : Post σ ε α := ⟨Q, fun _ _ => True, fun _ => True⟩

/-- Some run of `m` from `s` ends so. -/
def Ends (m : Program σ φ ε α) (s : σ) (outcome : Outcome ε α) (t : σ) : Prop :=
  ∃ fates, (m s fates).1 = outcome ∧ (m s fates).2.1 = t

variable {allowed : φ → Prop} {m : Program σ φ ε α} {post : Post σ ε α} {s t : σ}

theorem wp.ends {outcome : Outcome ε α} (h : wp AnyFate m post s)
    (hends : Ends m s outcome t) : post.Holds outcome t := by
  obtain ⟨fates, rfl, rfl⟩ := hends
  exact (h fates fun _ _ => trivial).1

theorem ends_mapError {outcome : Outcome ε' α} (h : Ends (mapError f m) s outcome t) :
    (∃ a, Ends m s (.returned a) t ∧ outcome = .returned a) ∨
      (∃ e, Ends m s (.threw e) t ∧ outcome = .threw (f e)) ∨
      (Ends m s .stopped t ∧ outcome = .stopped) := by
  obtain ⟨fates, rfl, rfl⟩ := h
  rw [mapError]
  rcases hrun : m s fates with ⟨a | e | _, t, rest⟩
  · exact .inl ⟨a, ⟨fates, by rw [hrun], by rw [hrun]⟩, rfl⟩
  · exact .inr (.inl ⟨e, ⟨fates, by rw [hrun], by rw [hrun]⟩, rfl⟩)
  · exact .inr (.inr ⟨⟨fates, by rw [hrun], by rw [hrun]⟩, rfl⟩)

theorem wp.mono {post' : Post σ ε α} (h : wp allowed m post s)
    (hreturned : ∀ a t, post.returned a t → post'.returned a t)
    (hthrew : ∀ e t, post.threw e t → post'.threw e t)
    (hstopped : ∀ t, post.stopped t → post'.stopped t) : wp allowed m post' s := by
  intro fates hfates
  obtain ⟨hpost, hrest⟩ := h fates hfates
  refine ⟨?_, hrest⟩
  cases houtcome : (m s fates).1 with
  | returned a => exact hreturned a _ (by rwa [houtcome] at hpost)
  | threw e => exact hthrew e _ (by rwa [houtcome] at hpost)
  | stopped => exact hstopped _ (by rwa [houtcome] at hpost)

/-- What holds of any run, holds of a run with allowed fates besides what holds of
    those. -/
theorem wp.and {post' : Post σ ε α} (h : wp AnyFate m post s) (h' : wp allowed m post' s) :
    wp allowed m ⟨fun a t => post.returned a t ∧ post'.returned a t,
      fun e t => post.threw e t ∧ post'.threw e t,
      fun t => post.stopped t ∧ post'.stopped t⟩ s := by
  intro fates hfates
  have hany := (h fates fun _ _ => trivial).1
  obtain ⟨hallowed, hrest⟩ := h' fates hfates
  refine ⟨?_, hrest⟩
  cases houtcome : (m s fates).1 <;> rw [houtcome] at hany hallowed <;> exact ⟨hany, hallowed⟩

/-- What returns in every way, returns what it returns in any way. -/
theorem wp.returns {threw : ε → σ → Prop} {stopped : σ → Prop}
    (h : wp AnyFate m ⟨Q, threw, stopped⟩ s)
    (hreturns : wp allowed m ⟨fun _ _ => True, fun _ _ => False, fun _ => False⟩ s) :
    wp allowed m ⟨Q, fun _ _ => False, fun _ => False⟩ s :=
  (h.and hreturns).mono (fun _ _ ht => ht.1) (fun _ _ ht => ht.2) fun _ ht => ht.2

theorem wp_anything : wp AnyFate m (.partially fun _ _ => True) s := by
  intro fates _
  refine ⟨?_, fun _ _ => trivial⟩
  cases (m s fates).1 <;> trivial

theorem wp_pure (h : post.returned a s) : wp allowed (pure a) post s :=
  fun _ hfates => ⟨h, hfates⟩

theorem wp_get {post : Post σ ε σ} (h : post.returned s s) : wp allowed get post s :=
  fun _ hfates => ⟨h, hfates⟩

theorem wp_modify {f : σ → σ} {post : Post σ ε Unit} (h : post.returned () (f s)) :
    wp allowed (modify f) post s :=
  fun _ hfates => ⟨h, hfates⟩

theorem wp_throw (h : post.threw e s) : wp allowed (throw e) post s :=
  fun _ hfates => ⟨h, hfates⟩

theorem wp_ofExcept (hok : ∀ a, r = .ok a → post.returned a s)
    (herror : ∀ e, r = .error e → post.threw e s) : wp allowed (ofExcept r) post s := by
  cases r with
  | ok a => exact wp_pure (hok a rfl)
  | error e => exact wp_throw (herror e rfl)

theorem wp_bind {post : Post σ ε β}
    (h : wp allowed m ⟨fun a t => wp allowed (k a) post t, post.threw, post.stopped⟩ s) :
    wp allowed (m >>= k) post s := by
  intro fates hfates
  obtain ⟨hpost, hrest⟩ := h fates hfates
  show Post.Holds post (Program.bind m k s fates).1 (Program.bind m k s fates).2.1 ∧ _
  rw [show (m >>= k) s fates = Program.bind m k s fates from rfl, Program.bind]
  rcases hrun : m s fates with ⟨a | e | _, t, rest⟩
  · rw [hrun] at hpost hrest
    exact hpost rest hrest
  · rw [hrun] at hpost hrest
    exact ⟨hpost, hrest⟩
  · rw [hrun] at hpost hrest
    exact ⟨hpost, hrest⟩

/-- Of a sequence only what both parts return matters. -/
theorem wp_bind_partially {R : β → σ → Prop} (h : wp AnyFate m (.partially Q) s)
    (hk : ∀ a t, Q a t → wp AnyFate (k a) (.partially R) t) :
    wp AnyFate (m >>= k) (.partially R) s :=
  wp_bind (h.mono hk (fun _ _ _ => trivial) fun _ _ => trivial)

theorem wp.partially_mono {R : α → σ → Prop} (h : wp AnyFate m (.partially Q) s)
    (hQ : ∀ a t, Q a t → R a t) : wp AnyFate m (.partially R) s :=
  h.mono hQ (fun _ _ _ => trivial) fun _ _ => trivial

/-- A check that throws unless it is passed. -/
theorem wp_check [Decidable c] {k : Program σ φ ε α} (hthrow : c → post.threw e s)
    (h : ¬ c → wp allowed k post s) : wp allowed (do
      if c then throw e
      k) post s := by
  split
  · rename_i hc
    exact wp_bind (wp_throw (hthrow hc))
  · rename_i hc
    exact h hc

theorem wp_tryCatch
    (h : wp allowed m ⟨post.returned, fun e t => wp allowed (handler e) post t, post.stopped⟩ s) :
    wp allowed (tryCatch m handler) post s := by
  intro fates hfates
  obtain ⟨hpost, hrest⟩ := h fates hfates
  rw [show (tryCatch m handler) s fates = Program.tryCatch m handler s fates from rfl,
    Program.tryCatch]
  rcases hrun : m s fates with ⟨a | e | _, t, rest⟩
  · rw [hrun] at hpost hrest
    exact ⟨hpost, hrest⟩
  · rw [hrun] at hpost hrest
    exact hpost rest hrest
  · rw [hrun] at hpost hrest
    exact ⟨hpost, hrest⟩

/-- A handler that does not return adds nothing to what is returned. -/
theorem wp_rethrow (h : wp AnyFate m (.partially Q) s) :
    wp AnyFate (tryCatch m fun _ => cleanup >>= fun _ => throw e) (.partially Q) s :=
  wp_tryCatch (h.mono (fun _ _ ht => ht)
    (fun _ _ _ => wp_bind (wp_anything.mono (fun _ _ _ => wp_throw trivial) (fun _ _ ht => ht)
      fun _ ht => ht)) fun _ ht => ht)

theorem wp_mapError {post : Post σ ε' α}
    (h : wp allowed m ⟨post.returned, fun e t => post.threw (f e) t, post.stopped⟩ s) :
    wp allowed (mapError f m) post s := by
  intro fates hfates
  obtain ⟨hpost, hrest⟩ := h fates hfates
  rw [mapError]
  rcases hrun : m s fates with ⟨a | e | _, t, rest⟩ <;> rw [hrun] at hpost hrest <;>
    exact ⟨hpost, hrest⟩

theorem wp_onError (h : wp allowed m
      ⟨post.returned,
        fun e t => wp allowed cleanup ⟨fun _ u => post.threw e u, post.threw, post.stopped⟩ t,
        post.stopped⟩ s) : wp allowed (onError m cleanup) post s := by
  refine wp_tryCatch (h.mono (fun _ _ ha => ha) ?_ (fun _ hstop => hstop))
  intro e t ht
  exact wp_bind (ht.mono (fun _ _ hu => wp_throw hu) (fun _ _ hu => hu) (fun _ hu => hu))

theorem wp_andFinally (h : wp allowed m
      ⟨fun a t => wp allowed cleanup ⟨fun _ u => post.returned a u, post.threw, post.stopped⟩ t,
        fun e t => wp allowed cleanup ⟨fun _ u => post.threw e u, post.threw, post.stopped⟩ t,
        post.stopped⟩ s) : wp allowed (andFinally m cleanup) post s := by
  refine wp_bind (wp_onError (h.mono ?_ (fun _ _ ht => ht) (fun _ ht => ht)))
  intro a t ht
  exact wp_bind (ht.mono (fun _ _ hu => wp_pure hu) (fun _ _ hu => hu) (fun _ hu => hu))

theorem wp_ignoreError {m : Program σ φ ε Unit} {post : Post σ ε Unit}
    (h : wp allowed m ⟨post.returned, fun _ t => post.returned () t, post.stopped⟩ s) :
    wp allowed (ignoreError m) post s :=
  wp_tryCatch (h.mono (fun _ _ ha => ha) (fun _ _ ht => wp_pure ht) (fun _ ht => ht))

theorem wp_zoom {τ : Type} {get : σ → τ} {put : τ → σ → σ} {m : Program τ φ ε α}
    (h : wp allowed m ⟨fun a t => post.returned a (put t s), fun e t => post.threw e (put t s),
      fun t => post.stopped (put t s)⟩ (get s)) :
    wp allowed (zoom get put m) post s := by
  intro fates hfates
  obtain ⟨hpost, hrest⟩ := h fates hfates
  refine ⟨?_, hrest⟩
  rw [zoom]
  cases houtcome : (m (get s) fates).1 <;> rw [houtcome] at hpost <;> exact hpost

/-- An effect meets one of the allowed fates, or the default one. -/
theorem wp_effect [Inhabited φ] {act : φ → σ → Outcome ε α × σ} (hdefault : allowed default)
    (h : ∀ fate, allowed fate → post.Holds (act fate s).1 (act fate s).2) :
    wp allowed (effect act) post s := by
  intro fates hfates
  cases fates with
  | nil => exact ⟨h default hdefault, hfates⟩
  | cons fate rest =>
      exact ⟨h fate (hfates fate List.mem_cons_self),
        fun other hother => hfates other (List.mem_cons_of_mem _ hother)⟩

theorem wp_settledWith {m : Program σ φ ε Unit} {others : Program σ φ ε Bool}
    {post : Post σ ε Bool}
    (h : wp allowed m
      ⟨fun _ t => wp allowed others post t,
        fun _ t => wp allowed others
          ⟨fun _ u => post.returned false u, post.threw, post.stopped⟩ t,
        fun t => wp allowed others
          ⟨fun _ u => post.stopped u, fun _ u => post.stopped u, post.stopped⟩ t⟩ s) :
    wp allowed (settledWith m others) post s := by
  intro fates hfates
  obtain ⟨hpost, hrest⟩ := h fates hfates
  rw [settledWith]
  rcases hrun : m s fates with ⟨a | e | _, t, rest⟩
  · rw [hrun] at hpost hrest
    exact hpost rest hrest
  · rw [hrun] at hpost hrest
    have hwp : wp allowed (others >>= fun _ => (pure false : Program σ φ ε Bool)) post t :=
      wp_bind (Program.wp.mono hpost (fun _ _ hu => wp_pure hu) (fun _ _ hu => hu)
        (fun _ hu => hu))
    exact hwp rest hrest
  · rw [hrun] at hpost hrest
    obtain ⟨hothers, hremaining⟩ := hpost rest hrest
    refine ⟨?_, hremaining⟩
    cases houtcome : (others t rest).1 <;> rw [houtcome] at hothers <;> exact hothers

/-! ## What programs maintain -/

/-- However it ends, `m` does not break `I`. -/
def Maintains (allowed : φ → Prop) (I : σ → Prop) (m : Program σ φ ε α) : Prop :=
  ∀ s, I s → wp allowed m ⟨fun _ => I, fun _ => I, I⟩ s

section Maintaining

variable {I : σ → Prop}

theorem maintains_pure : Maintains allowed I (pure a : Program σ φ ε α) :=
  fun _ hs => wp_pure hs

theorem maintains_throw : Maintains allowed I (throw e : Program σ φ ε α) :=
  fun _ hs => wp_throw hs

theorem maintains_bind (h : Maintains allowed I m) (hk : ∀ a, Maintains allowed I (k a)) :
    Maintains allowed I (m >>= k) :=
  fun s hs => wp_bind ((h s hs).mono (fun a t ht => hk a t ht) (fun _ _ ht => ht) fun _ ht => ht)

theorem maintains_tryCatch (h : Maintains allowed I m)
    (hhandler : ∀ e, Maintains allowed I (handler e)) : Maintains allowed I (tryCatch m handler) :=
  fun s hs => wp_tryCatch ((h s hs).mono (fun _ _ ht => ht) (fun e t ht => hhandler e t ht)
    fun _ ht => ht)

theorem maintains_ignoreError {m : Program σ φ ε Unit} (h : Maintains allowed I m) :
    Maintains allowed I (ignoreError m) :=
  maintains_tryCatch h fun _ => maintains_pure

theorem maintains_ite [Decidable c] {m' : Program σ φ ε α} (h : c → Maintains allowed I m)
    (h' : ¬ c → Maintains allowed I m') : Maintains allowed I (if c then m else m') := by
  split
  · rename_i hc
    exact h hc
  · rename_i hc
    exact h' hc

/-- An error is handled where `I` still holds. -/
theorem wp_tryCatch_maintained {R : ε → σ → Prop} (h : wp allowed m ⟨Q, fun _ => I, I⟩ s)
    (hhandler : ∀ e t, I t → wp allowed (handler e) ⟨Q, R, I⟩ t) :
    wp allowed (tryCatch m handler) ⟨Q, R, I⟩ s :=
  wp_tryCatch (h.mono (fun _ _ ht => ht) (fun e t ht => hhandler e t ht) fun _ ht => ht)

end Maintaining

/-! ## Undisturbed runs -/

section Undisturbed

variable {u : σ} {outcome : Outcome ε α}

/-- With the default fates throughout, `m` ends so. -/
def Quietly (m : Program σ φ ε α) (s : σ) (outcome : Outcome ε α) (t : σ) : Prop :=
  m s [] = (outcome, t, [])

theorem Quietly.ends (h : Quietly m s outcome t) : Ends m s outcome t :=
  ⟨[], congrArg Prod.fst h, congrArg (fun ended => ended.2.1) h⟩

theorem quietly_pure : Quietly (pure a : Program σ φ ε α) s (.returned a) s := rfl

theorem quietly_throw : Quietly (throw e : Program σ φ ε α) s (.threw e) s := rfl

theorem quietly_ofExcept (h : r = .ok a) :
    Quietly (ofExcept r : Program σ φ ε α) s (.returned a) s := by
  rw [h]
  rfl

theorem quietly_bind {result : Outcome ε β} (h : Quietly m s (.returned a) t)
    (hk : Quietly (k a) t result u) : Quietly (m >>= k) s result u := by
  show Program.bind m k s [] = _
  rw [Program.bind, h]
  exact hk

theorem quietly_bind_threw (h : Quietly m s (.threw e) t) : Quietly (m >>= k) s (.threw e) t := by
  show Program.bind m k s [] = _
  rw [Program.bind, h]

theorem quietly_tryCatch (h : Quietly m s (.returned a) t) :
    Quietly (tryCatch m handler) s (.returned a) t := by
  show Program.tryCatch m handler s [] = _
  rw [Program.tryCatch, h]

theorem quietly_catch (h : Quietly m s (.threw e) t) (hhandler : Quietly (handler e) t outcome u) :
    Quietly (tryCatch m handler) s outcome u := by
  show Program.tryCatch m handler s [] = _
  rw [Program.tryCatch, h]
  exact hhandler

theorem quietly_mapError (h : Quietly m s (.returned a) t) :
    Quietly (mapError f m) s (.returned a) t := by
  rw [Quietly, mapError, h]

theorem quietly_zoom {τ : Type} {get : σ → τ} {put : τ → σ → σ} {m : Program τ φ ε α} {v : τ}
    (h : Quietly m (get s) outcome v) : Quietly (zoom get put m) s outcome (put v s) := by
  rw [Quietly, zoom, h]

theorem quietly_check [Decidable c] {k : Program σ φ ε α} (hc : ¬ c) (h : Quietly k s outcome t) :
    Quietly (do
      if c then throw e
      k) s outcome t := by
  rw [if_neg hc]
  exact h

end Undisturbed

end Program
