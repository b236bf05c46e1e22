import Eky.FileSlots

/-! # Runs in which one thing goes wrong

    One effect of a program meets a fault, and the effects before it and after it
    meet the default fate.  Where an arbitrary list of fates is too much to say
    something definite, this is what is meant by "it crashes at some point" and by
    "something fails". -/

namespace Program

variable {σ φ ε α β : Type}

section Runs

variable {m : Program σ φ ε α} {k : α → Program σ φ ε β} {handler : ε → Program σ φ ε α}
  {fates rest : List φ} {s t : σ}
  {a : α} {e : ε}

theorem bind_returned (h : m s fates = (.returned a, t, rest)) :
    (m >>= k) s fates = k a t rest := by
  show Program.bind m k s fates = _
  rw [Program.bind, h]

theorem bind_threw (h : m s fates = (.threw e, t, rest)) :
    (m >>= k) s fates = (.threw e, t, rest) := by
  show Program.bind m k s fates = _
  rw [Program.bind, h]

theorem bind_stopped (h : m s fates = (.stopped, t, rest)) :
    (m >>= k) s fates = (.stopped, t, rest) := by
  show Program.bind m k s fates = _
  rw [Program.bind, h]

theorem tryCatch_returned (h : m s fates = (.returned a, t, rest)) :
    (tryCatch m handler) s fates = (.returned a, t, rest) := by
  show Program.tryCatch m handler s fates = _
  rw [Program.tryCatch, h]

theorem tryCatch_threw (h : m s fates = (.threw e, t, rest)) :
    (tryCatch m handler) s fates = handler e t rest := by
  show Program.tryCatch m handler s fates = _
  rw [Program.tryCatch, h]

theorem tryCatch_stopped (h : m s fates = (.stopped, t, rest)) :
    (tryCatch m handler) s fates = (.stopped, t, rest) := by
  show Program.tryCatch m handler s fates = _
  rw [Program.tryCatch, h]

end Runs

variable [Inhabited φ]

/-- The fates of a run in which `n` effects come before the fault. -/
def oneFault (n : Nat) (fault : φ) : List φ := List.replicate n default ++ [fault]

/-- Left to itself, `m` returns as `Q` says.  If it meets the fault, it throws or
    stops; otherwise the fault is still to come. -/
structure Once (fault : φ) (m : Program σ φ ε α) (Q : α → σ → Prop) (threw : ε → σ → Prop)
    (stopped : σ → Prop) (s : σ) : Prop where
  quietly : ∃ a t, Quietly m s (.returned a) t ∧ Q a t
  disturbed : ∀ n,
    (∃ a t k, m s (oneFault n fault) = (.returned a, t, oneFault k fault) ∧ Q a t) ∨
      (∃ e t, m s (oneFault n fault) = (.threw e, t, []) ∧ threw e t) ∨
      ∃ t, m s (oneFault n fault) = (.stopped, t, []) ∧ stopped t

variable {fault : φ} {m : Program σ φ ε α} {Q : α → σ → Prop} {threw : ε → σ → Prop}
  {stopped : σ → Prop} {s : σ}

theorem Once.mono {Q' : α → σ → Prop} {threw' : ε → σ → Prop} {stopped' : σ → Prop}
    (h : Once fault m Q threw stopped s) (hQ : ∀ a t, Q a t → Q' a t)
    (hthrew : ∀ e t, threw e t → threw' e t) (hstopped : ∀ t, stopped t → stopped' t) :
    Once fault m Q' threw' stopped' s := by
  obtain ⟨a, t, hquiet, ha⟩ := h.quietly
  refine ⟨⟨a, t, hquiet, hQ a t ha⟩, fun n => ?_⟩
  rcases h.disturbed n with ⟨b, u, k, hrun, hb⟩ | ⟨e, u, hrun, he⟩ | ⟨u, hrun, hu⟩
  · exact .inl ⟨b, u, k, hrun, hQ b u hb⟩
  · exact .inr (.inl ⟨e, u, hrun, hthrew e u he⟩)
  · exact .inr (.inr ⟨u, hrun, hstopped u hu⟩)

theorem once_pure {a : α} (h : Q a s) : Once fault (pure a) Q threw stopped s :=
  ⟨⟨a, s, quietly_pure, h⟩, fun n => .inl ⟨a, s, n, rfl, h⟩⟩

theorem once_bind {k : α → Program σ φ ε β} {Q : β → σ → Prop}
    (h : Once fault m (fun a t => Once fault (k a) Q threw stopped t) threw stopped s) :
    Once fault (m >>= k) Q threw stopped s := by
  obtain ⟨a, t, hquiet, hrest⟩ := h.quietly
  obtain ⟨b, u, hquietRest, hb⟩ := hrest.quietly
  refine ⟨⟨b, u, quietly_bind hquiet hquietRest, hb⟩, fun n => ?_⟩
  rcases h.disturbed n with ⟨b, u, left, hrun, hb⟩ | ⟨e, u, hrun, he⟩ | ⟨u, hrun, hu⟩
  · rw [bind_returned hrun]
    exact hb.disturbed left
  · exact .inr (.inl ⟨e, u, bind_threw hrun, he⟩)
  · exact .inr (.inr ⟨u, bind_stopped hrun, hu⟩)

/-- A handler that throws on; nothing disturbs it. -/
theorem once_handled {handler : ε → Program σ φ ε α}
    (h : Once fault m Q
      (fun e t => ∃ e' u, Quietly (handler e) t (.threw e') u ∧ threw e' u) stopped s) :
    Once fault (tryCatch m handler) Q threw stopped s := by
  obtain ⟨a, t, hquiet, ha⟩ := h.quietly
  refine ⟨⟨a, t, quietly_tryCatch hquiet, ha⟩, fun n => ?_⟩
  rcases h.disturbed n with ⟨b, u, left, hrun, hb⟩ | ⟨e, u, hrun, he⟩ | ⟨u, hrun, hu⟩
  · exact .inl ⟨b, u, left, tryCatch_returned hrun, hb⟩
  · obtain ⟨e', v, hhandler, hv⟩ := he
    exact .inr (.inl ⟨e', v, (tryCatch_threw hrun).trans hhandler, hv⟩)
  · exact .inr (.inr ⟨u, tryCatch_stopped hrun, hu⟩)

/-- `m` does not return, wherever it meets the fault, and it changes nothing. -/
def Fruitless (fault : φ) (m : Program σ φ ε α) (s : σ) : Prop :=
  ∀ n, (∃ e rest, m s (oneFault n fault) = (.threw e, s, rest)) ∨
    ∃ rest, m s (oneFault n fault) = (.stopped, s, rest)

theorem Fruitless.bind {k : α → Program σ φ ε β} (h : Fruitless fault m s) :
    Fruitless fault (m >>= k) s := by
  intro n
  rcases h n with ⟨e, rest, hrun⟩ | ⟨rest, hrun⟩
  · exact .inl ⟨e, rest, bind_threw hrun⟩
  · exact .inr ⟨rest, bind_stopped hrun⟩

/-- What only looks around can come before. -/
theorem Once.fruitless {k : α → Program σ φ ε β}
    (h : Once fault m (fun a t => t = s ∧ Fruitless fault (k a) s) (fun _ t => t = s) (· = s) s) :
    Fruitless fault (m >>= k) s := by
  intro n
  rcases h.disturbed n with ⟨a, t, left, hrun, rfl, hrest⟩ | ⟨e, t, hrun, rfl⟩ | ⟨t, hrun, rfl⟩
  · rw [bind_returned hrun]
    exact hrest left
  · exact .inl ⟨e, [], bind_threw hrun⟩
  · exact .inr ⟨[], bind_stopped hrun⟩

/-- An effect meets the fault at once, or not at all. -/
theorem once_effect {act : φ → σ → Outcome ε α × σ} {a : α} {t u : σ}
    (hquiet : act default s = (.returned a, t)) (hQ : Q a t)
    (hfault : (∃ e, act fault s = (.threw e, u) ∧ threw e u) ∨
      (act fault s = (.stopped, u) ∧ stopped u)) :
    Once fault (effect act) Q threw stopped s := by
  constructor
  · exact ⟨a, t, by rw [Quietly, effect]; simp only [hquiet], hQ⟩
  · intro n
    cases n with
    | zero =>
        rcases hfault with ⟨e, hthrows, he⟩ | ⟨hstops, hu⟩
        · exact .inr (.inl ⟨e, u, by simp only [oneFault, effect, List.replicate_zero,
            List.nil_append, hthrows], he⟩)
        · exact .inr (.inr ⟨u, by simp only [oneFault, effect, List.replicate_zero,
            List.nil_append, hstops], hu⟩)
    | succ n =>
        exact .inl ⟨a, t, n, by simp only [oneFault, effect, List.replicate_succ,
          List.cons_append, hquiet], hQ⟩

end Program

section Operations

open Program

variable {σ ε α : Type} {fault : Fate} {failure : ε} {Q : α → σ → Prop} {threw : ε → σ → Prop}
  {stopped : σ → Prop} {s t : σ} {a : α}

/-- An operation in one part that meets a fault has taken place, or it has not. -/
theorem once_attempt {perform : σ → Except ε (α × σ)} (hfault : fault.ending ≠ .completes)
    (h : perform s = .ok (a, t)) (hQ : Q a t) (hthrew : threw failure s)
    (hthrewLate : fault.progress ≠ some 0 → threw failure t) (hstopped : stopped s)
    (hstoppedLate : stopped t) : Once fault (attempt failure perform) Q threw stopped s := by
  refine once_effect (u := if fault.takesEffect then t else s) (by simp only [h]; rfl) hQ ?_
  simp only [h]
  cases hending : fault.ending with
  | completes => exact absurd hending hfault
  | fails =>
      refine .inl ⟨failure, by simp only [Fate.outcome, hending], ?_⟩
      split
      · rename_i heffect
        rw [Fate.takesEffect, hending] at heffect
        exact hthrewLate (by simpa using heffect)
      · exact hthrew
  | crashes =>
      refine .inr ⟨by simp only [Fate.outcome, hending], ?_⟩
      split
      · exact hstoppedLate
      · exact hstopped

/-- An operation that is refused is refused at any time. -/
theorem fruitless_attempt {perform : σ → Except ε (α × σ)} {refusal : ε}
    (h : perform s = .error refusal) : Fruitless fault (attempt failure perform) s := by
  intro n
  cases n with
  | zero =>
      by_cases hcrashes : fault.ending = .crashes
      · exact .inr ⟨[], by simp only [attempt, effect, oneFault, List.replicate_zero,
          List.nil_append, h, if_pos hcrashes]⟩
      · exact .inl ⟨refusal, [], by simp only [attempt, effect, oneFault, List.replicate_zero,
          List.nil_append, h, if_neg hcrashes]⟩
  | succ n =>
      exact .inl ⟨refusal, oneFault n fault, by simp only [attempt, effect, oneFault,
        List.replicate_succ, List.cons_append, h]; rfl⟩

theorem once_attemptNothing {Q : Unit → σ → Prop} (hfault : fault.ending ≠ .completes)
    (hQ : Q () s) (hthrew : threw failure s) (hstopped : stopped s) :
    Once fault (attemptNothing failure) Q threw stopped s :=
  once_attempt hfault rfl hQ hthrew (fun _ => hthrew) hstopped hstopped

theorem once_attemptParts {perform : Fate → σ → α × σ} (hfault : fault.ending ≠ .completes)
    (hQ : Q (perform default s).1 (perform default s).2)
    (hthrew : fault.ending = .fails → threw failure (perform fault s).2)
    (hstopped : stopped (perform fault s).2) :
    Once fault (attemptParts failure perform) Q threw stopped s := by
  refine once_effect (u := (perform fault s).2) rfl hQ ?_
  cases hending : fault.ending with
  | completes => exact absurd hending hfault
  | fails => exact .inl ⟨failure, by simp only [Fate.outcome, hending], hthrew hending⟩
  | crashes => exact .inr ⟨by simp only [Fate.outcome, hending], hstopped⟩

end Operations
