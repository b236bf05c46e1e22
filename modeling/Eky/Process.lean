import Eky.FaultProgram

/-! # Programs, one operation after the other

    A program asks for an operation and goes on with the answer, or with the error.  What may go
    wrong with an operation is not laid down before the run, as the fates of a `Program` are, but
    by a guard that looks at the state of the moment.

    - `Process`: programs as the trees of their operations;
    - `Ends`: the runs, in which the operations that the guard allows to fail may fail, and that
      a crash may end in every state in which the guard allows it;
    - `wp`: what holds at the end of every run, with the rules that `wp_sound` makes good. -/

/-- `resume` is what is left to do, for each answer. -/
inductive Process (Op : Type) (Answer : Op → Type) (ρ ε α : Type)
  | returned (value : α)
  | threw (error : ε)
  | request (op : Op) (resume : Except ρ (Answer op) → Process Op Answer ρ ε α)

namespace Process

variable {Op : Type} {Answer : Op → Type} {ρ ε α β σ : Type}

/-! ## Control -/

/-- One process after the other. -/
protected def bind : Process Op Answer ρ ε α → (α → Process Op Answer ρ ε β) →
    Process Op Answer ρ ε β
  | .returned a, k => k a
  | .threw e, _ => .threw e
  | .request op resume, k => .request op fun answer => (resume answer).bind k

instance : Monad (Process Op Answer ρ ε) where
  pure := .returned
  bind := Process.bind

/-- A process whose error is handled. -/
protected def tryCatch : Process Op Answer ρ ε α → (ε → Process Op Answer ρ ε α) →
    Process Op Answer ρ ε α
  | .returned a, _ => .returned a
  | .threw e, handler => handler e
  | .request op resume, handler => .request op fun answer => (resume answer).tryCatch handler

instance : MonadExceptOf ε (Process Op Answer ρ ε) where
  throw := .threw
  tryCatch := Process.tryCatch

/-- `try m finally cleanup`. -/
def andFinally (m : Process Op Answer ρ ε α) (cleanup : Process Op Answer ρ ε Unit) :
    Process Op Answer ρ ε α :=
  (m.tryCatch fun e => cleanup >>= fun _ => .threw e) >>= fun a => cleanup >>= fun _ => pure a

/-- `m.catch(() => undefined)`. -/
def ignoreError (m : Process Op Answer ρ ε Unit) : Process Op Answer ρ ε Unit :=
  m.tryCatch fun _ => pure ()

/-- One operation; its error is thrown. -/
def ask (asError : ρ → ε) (op : Op) : Process Op Answer ρ ε (Answer op) :=
  .request op fun
    | .ok answer => .returned answer
    | .error e => .threw (asError e)

/-- The value, or an error. -/
def ofOption (e : ε) : Option α → Process Op Answer ρ ε α
  | some a => .returned a
  | none => .threw e

/-! ## Runs -/

/-- What an operation answers and leaves if it completes, what it answers and leaves if it
    fails, and what is left by a crash just before it, in the course of it or just after it. -/
structure Environment (Op : Type) (Answer : Op → Type) (ρ σ : Type) where
  completes : (op : Op) → σ → Except ρ (Answer op) → σ → Prop
  fails : (op : Op) → σ → Except ρ (Answer op) → σ → Prop
  tears : Op → σ → σ → Prop

/-- What may go wrong: the operation may fail in the state it meets, and the crash may leave
    the state. -/
structure Guard (Op σ : Type) where
  mayFail : Op → σ → Prop
  mayCrash : σ → Prop

/-- Anything may go wrong. -/
def Guard.anything : Guard Op σ := ⟨fun _ _ => True, fun _ => True⟩

/-- Nothing goes wrong. -/
def Guard.nothing : Guard Op σ := ⟨fun _ _ => False, fun _ => False⟩

/-- Something may fail. -/
def Guard.Fails (guard : Guard Op σ) : Prop := ∃ op s, guard.mayFail op s

/-- How a process may end. -/
inductive Ends (env : Environment Op Answer ρ σ) (guard : Guard Op σ) :
    Process Op Answer ρ ε α → σ → Outcome ε α → σ → Prop
  | returned {a : α} {s : σ} : Ends env guard (.returned a) s (.returned a) s
  | threw {e : ε} {s : σ} : Ends env guard (.threw e) s (.threw e) s
  | completed {op : Op} {resume : Except ρ (Answer op) → Process Op Answer ρ ε α} {s t u : σ}
      {answer : Except ρ (Answer op)} {outcome : Outcome ε α}
      (h : env.completes op s answer t) (hrest : Ends env guard (resume answer) t outcome u) :
      Ends env guard (.request op resume) s outcome u
  | failed {op : Op} {resume : Except ρ (Answer op) → Process Op Answer ρ ε α} {s t u : σ}
      {answer : Except ρ (Answer op)} {outcome : Outcome ε α} (hmay : guard.mayFail op s)
      (h : env.fails op s answer t) (hrest : Ends env guard (resume answer) t outcome u) :
      Ends env guard (.request op resume) s outcome u
  | crashed {op : Op} {resume : Except ρ (Answer op) → Process Op Answer ρ ε α} {s t : σ}
      (hmay : guard.mayCrash t) (h : env.tears op s t) :
      Ends env guard (.request op resume) s .stopped t

variable {env : Environment Op Answer ρ σ} {guard : Guard Op σ} {s : σ}

variable {handler : ε → Process Op Answer ρ ε α} {cleanup : Process Op Answer ρ ε Unit}
  {k : α → Process Op Answer ρ ε β} {a : α} {outcome : Outcome ε α} {e : ε}

/-! ### Putting runs together -/

theorem ends_bind {m : Process Op Answer ρ ε α} {outcome : Outcome ε β} {t u : σ}
    (h : Ends env guard m s (.returned a) t) (hk : Ends env guard (k a) t outcome u) :
    Ends env guard (m >>= k) s outcome u := by
  show Ends env guard (m.bind k) s outcome u
  generalize hreturned : (Outcome.returned a : Outcome ε α) = ending at h
  induction h with
  | returned =>
      obtain rfl := Outcome.returned.inj hreturned
      exact hk
  | threw => exact nomatch hreturned
  | completed h _ ih => exact .completed h (ih hk hreturned)
  | failed hmay h _ ih => exact .failed hmay h (ih hk hreturned)
  | crashed => exact nomatch hreturned

open Program (Post)

/-- Every run of the program from the state ends in `post`. -/
def wp (env : Environment Op Answer ρ σ) (guard : Guard Op σ) :
    Process Op Answer ρ ε α → Post σ ε α → σ → Prop
  | .returned a, post, s => post.returned a s
  | .threw e, post, s => post.threw e s
  | .request op resume, post, s =>
      (∀ answer t, env.completes op s answer t → wp env guard (resume answer) post t)
      ∧ (guard.mayFail op s → ∀ answer t, env.fails op s answer t →
          wp env guard (resume answer) post t)
      ∧ ∀ t, env.tears op s t → guard.mayCrash t → post.stopped t

variable {m : Process Op Answer ρ ε α} {post : Post σ ε α}

theorem wp.mono {post' : Post σ ε α} (h : wp env guard m post s)
    (hreturned : ∀ a t, post.returned a t → post'.returned a t)
    (hthrew : ∀ e t, post.threw e t → post'.threw e t)
    (hstopped : ∀ t, post.stopped t → post'.stopped t) : wp env guard m post' s := by
  induction m generalizing s with
  | returned a => exact hreturned a s h
  | threw e => exact hthrew e s h
  | request op resume ih =>
      obtain ⟨hcompletes, hfails, htears⟩ := h
      refine ⟨?_, ?_, ?_⟩
      · intro answer t ht
        exact ih answer (hcompletes answer t ht)
      · intro hmay answer t ht
        exact ih answer (hfails hmay answer t ht)
      · intro t ht hmay
        exact hstopped t (htears t ht hmay)

theorem wp_pure (h : post.returned a s) :
    wp env guard (pure a : Process Op Answer ρ ε α) post s := h

theorem wp_bind {post : Post σ ε β}
    (h : wp env guard m ⟨fun a t => wp env guard (k a) post t, post.threw, post.stopped⟩ s) :
    wp env guard (m >>= k) post s := by
  show wp env guard (m.bind k) post s
  induction m generalizing s with
  | returned a => exact h
  | threw e => exact h
  | request op resume ih =>
      obtain ⟨hcompletes, hfails, htears⟩ := h
      exact ⟨fun answer t ht => ih answer (hcompletes answer t ht),
        fun hmay answer t ht => ih answer (hfails hmay answer t ht), htears⟩

theorem wp_tryCatch (h : wp env guard m
      ⟨post.returned, fun e t => wp env guard (handler e) post t, post.stopped⟩ s) :
    wp env guard (tryCatch m handler) post s := by
  show wp env guard (m.tryCatch handler) post s
  induction m generalizing s with
  | returned a => exact h
  | threw e => exact h
  | request op resume ih =>
      obtain ⟨hcompletes, hfails, htears⟩ := h
      exact ⟨fun answer t ht => ih answer (hcompletes answer t ht),
        fun hmay answer t ht => ih answer (hfails hmay answer t ht), htears⟩

theorem wp_andFinally (h : wp env guard m
      ⟨fun a t => wp env guard cleanup
          ⟨fun _ u => post.returned a u, post.threw, post.stopped⟩ t,
        fun e t => wp env guard cleanup ⟨fun _ u => post.threw e u, post.threw, post.stopped⟩ t,
        post.stopped⟩ s) : wp env guard (andFinally m cleanup) post s := by
  refine wp_bind (wp_tryCatch (h.mono ?_ ?_ fun _ ht => ht))
  · intro a t ht
    exact wp_bind (ht.mono (fun _ _ hu => hu) (fun _ _ hu => hu) fun _ hu => hu)
  · intro e t ht
    exact wp_bind (ht.mono (fun _ _ hu => hu) (fun _ _ hu => hu) fun _ hu => hu)

theorem wp_ignoreError {m : Process Op Answer ρ ε Unit} {post : Post σ ε Unit}
    (h : wp env guard m ⟨post.returned, fun _ t => post.returned () t, post.stopped⟩ s) :
    wp env guard (ignoreError m) post s :=
  wp_tryCatch (h.mono (fun _ _ ht => ht) (fun _ _ ht => ht) fun _ ht => ht)

/-- The operation can complete in one way only, and before it takes effect it fails with one
    error; a crash leaves what was or what was to become. -/
structure Simple (env : Environment Op Answer ρ σ) (failure : ρ) (op : Op) (s : σ)
    (answer : Except ρ (Answer op)) (t : σ) : Prop where
  completes : ∀ {answer' t'}, env.completes op s answer' t' → answer' = answer ∧ t' = t
  fails : ∀ {answer' t'}, env.fails op s answer' t' → answer' = .error failure ∧ t' = s
  tears : ∀ {t'}, env.tears op s t' → t' = s ∨ t' = t

variable {failure : ρ} {asError : ρ → ε} {op : Op} {t : σ}

theorem wp_ask {post : Post σ ε (Answer op)} {answer : Answer op}
    (hsimple : Simple env failure op s (.ok answer) t) (hreturned : post.returned answer t)
    (hthrew : guard.mayFail op s → post.threw (asError failure) s)
    (hbefore : guard.mayCrash s → post.stopped s) (hafter : guard.mayCrash t → post.stopped t) :
    wp env guard (ask asError op) post s := by
  refine ⟨?_, ?_, ?_⟩
  · intro answer' t' h
    obtain ⟨rfl, rfl⟩ := hsimple.completes h
    exact hreturned
  · intro hmay answer' t' h
    obtain ⟨rfl, rfl⟩ := hsimple.fails h
    exact hthrew hmay
  · intro t' h hmay
    rcases hsimple.tears h with rfl | rfl
    · exact hbefore hmay
    · exact hafter hmay

end Process
