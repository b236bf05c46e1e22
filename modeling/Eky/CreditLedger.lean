import Eky.TransitionSystem
import Mathlib.Data.List.Perm.Basic

/-! # The credits of one invoice — approval, sending, cancellation

    An invoice keeps the list of its credits, whatever its tax treatment.  A
    credit is approved against the lines of the credits that are not cancelled,
    an approved credit may be sent or cancelled, and a cancelled credit no longer
    counts.  What a calculation accepts is a parameter here: `accepts allocations
    lines` says that `lines` may be credited after `allocations`.

    - `allocationsOf`: the lines that count, and what each step makes of them;
    - `invariant`: what every step keeps, every reachable list of credits has. -/

namespace CreditLedger

variable {α : Type}

/-- Where a credit stands. -/
inductive CreditStatus
  | approved
  | sent
  | cancelled
  deriving DecidableEq

/-- A credit and its lines. -/
structure Credit (α : Type) where
  status : CreditStatus
  lines : List α
  deriving DecidableEq

/-- The previous allocations: the lines of the credits that are not cancelled. -/
def allocationsOf (credits : List (Credit α)) : List α :=
  (credits.filter (·.status ≠ .cancelled)).flatMap (·.lines)

/-! ## Steps -/

/-- Approvals and sendings.  The allocations come in the order in which the
    program reads them, which no step depends on. -/
inductive ApprovalStep (accepts : List α → List α → Prop) :
    List (Credit α) → List (Credit α) → Prop
  | approve {credits : List (Credit α)} {allocations lines : List α}
      (hperm : allocations.Perm (allocationsOf credits)) (h : accepts allocations lines) :
      ApprovalStep accepts credits (credits ++ [⟨.approved, lines⟩])
  | send {before after : List (Credit α)} {lines : List α} :
      ApprovalStep accepts (before ++ ⟨.approved, lines⟩ :: after)
        (before ++ ⟨.sent, lines⟩ :: after)

/-- The steps of a history. -/
inductive Step (accepts : List α → List α → Prop) : List (Credit α) → List (Credit α) → Prop
  | approval {before after : List (Credit α)} (h : ApprovalStep accepts before after) :
      Step accepts before after
  | cancel {before after : List (Credit α)} {lines : List α} :
      Step accepts (before ++ ⟨.approved, lines⟩ :: after)
        (before ++ ⟨.cancelled, lines⟩ :: after)

/-- The credits of an invoice, from none at all. -/
def system (accepts : List α → List α → Prop) : TransitionSystem (List (Credit α)) where
  initial credits := credits = []
  step := Step accepts

/-- The same without cancellations. -/
def uncancelledSystem (accepts : List α → List α → Prop) :
    TransitionSystem (List (Credit α)) where
  initial credits := credits = []
  step := ApprovalStep accepts

/-! ## The lines that count -/

theorem allocationsOf_append (first second : List (Credit α)) :
    allocationsOf (first ++ second) = allocationsOf first ++ allocationsOf second := by
  rw [allocationsOf, List.filter_append, List.flatMap_append]
  rfl

variable {before after : List (Credit α)} {lines : List α} {c : Credit α}

theorem allocationsOf_live {rest : List (Credit α)} (h : c.status ≠ .cancelled) :
    allocationsOf (c :: rest) = c.lines ++ allocationsOf rest := by
  rw [allocationsOf, List.filter_cons_of_pos (by simpa using h), List.flatMap_cons]
  rfl

theorem allocationsOf_cancelled {rest : List (Credit α)} :
    allocationsOf (⟨.cancelled, lines⟩ :: rest) = allocationsOf rest := by
  rw [allocationsOf, List.filter_cons_of_neg (by simp)]
  rfl

theorem mem_allocationsOf {credits : List (Credit α)} {a : α} (h : a ∈ allocationsOf credits) :
    ∃ c ∈ credits, a ∈ c.lines := by
  obtain ⟨c, hc, ha⟩ := List.mem_flatMap.mp h
  exact ⟨c, (List.mem_filter.mp hc).1, ha⟩

/-- An approved credit adds its lines to the allocations. -/
theorem allocationsOf_approve (credits : List (Credit α)) (lines : List α) :
    allocationsOf (credits ++ [⟨.approved, lines⟩]) = allocationsOf credits ++ lines := by
  have hone : allocationsOf [(⟨.approved, lines⟩ : Credit α)] = lines ++ allocationsOf [] :=
    allocationsOf_live (fun heq => (nomatch heq))
  rw [allocationsOf_append, hone]
  exact congrArg _ (List.append_nil lines)

theorem allocationsOf_send : allocationsOf (before ++ ⟨.sent, lines⟩ :: after)
      = allocationsOf (before ++ ⟨.approved, lines⟩ :: after) := by
  have hsent : allocationsOf (⟨.sent, lines⟩ :: after) = lines ++ allocationsOf after :=
    allocationsOf_live (fun h => (nomatch h))
  have happroved : allocationsOf (⟨.approved, lines⟩ :: after)
      = lines ++ allocationsOf after := allocationsOf_live (fun h => (nomatch h))
  rw [allocationsOf_append, allocationsOf_append, hsent, happroved]

theorem allocationsOf_cancel :
    allocationsOf (before ++ ⟨.cancelled, lines⟩ :: after) = allocationsOf (before ++ after) := by
  rw [allocationsOf_append, allocationsOf_append, allocationsOf_cancelled]

/-- The lines of one credit that counts, and all the others. -/
theorem allocationsOf_split (hc : c.status ≠ .cancelled) :
    (allocationsOf (before ++ c :: after)).Perm
      (c.lines ++ allocationsOf (before ++ after)) := by
  rw [allocationsOf_append, allocationsOf_append, allocationsOf_live hc, ← List.append_assoc,
    ← List.append_assoc]
  exact List.perm_append_comm.append_right _

/-- What holds of every credit still does when one is replaced, if it does of that one. -/
theorem forall_replaced {c' : Credit α} {P : Credit α → Prop}
    (h : ∀ x ∈ before ++ c :: after, P x) (hreplaced : P c → P c') :
    ∀ x ∈ before ++ c' :: after, P x := by
  rw [List.forall_mem_append, List.forall_mem_cons] at h ⊢
  exact ⟨h.1, hreplaced h.2.1, h.2.2⟩

/-! ## Runs -/

section Runs

variable {accepts : List α → List α → Prop} {credits : List (Credit α)}
variable {P : List (Credit α) → Prop}

section

variable (hnil : P [])
  (happrove : ∀ credits allocations lines, P credits →
    allocations.Perm (allocationsOf credits) → accepts allocations lines →
      P (credits ++ [⟨.approved, lines⟩]))
  (hsend : ∀ before lines after, P (before ++ ⟨.approved, lines⟩ :: after) →
    P (before ++ ⟨.sent, lines⟩ :: after))
include hnil happrove hsend

/-- **INVARIANT RULE** for runs without cancellations. -/
theorem uncancelled_invariant (h : TransitionSystem.Reachable (uncancelledSystem accepts) credits) :
    P credits := by
  refine TransitionSystem.Reachable.invariant (P := P) ?_ ?_ h
  · rintro _ rfl
    exact hnil
  · intro before after _ hbefore hstep
    cases hstep with
    | approve hperm h => exact happrove _ _ _ hbefore hperm h
    | send => exact hsend _ _ _ hbefore

/-- **INVARIANT RULE**: what holds without credits and is kept by approval, sending
    and cancellation holds of every reachable list of credits. -/
theorem invariant (hcancel : ∀ before lines after,
      TransitionSystem.Reachable (system accepts) (before ++ ⟨.approved, lines⟩ :: after) →
        P (before ++ ⟨.approved, lines⟩ :: after) → P (before ++ ⟨.cancelled, lines⟩ :: after))
    (h : TransitionSystem.Reachable (system accepts) credits) : P credits := by
  refine TransitionSystem.Reachable.invariant (P := P) ?_ ?_ h
  · rintro _ rfl
    exact hnil
  · intro before after hreachable hbefore hstep
    cases hstep with
    | approval hstep =>
        cases hstep with
        | approve hperm h => exact happrove _ _ _ hbefore hperm h
        | send => exact hsend _ _ _ hbefore
    | cancel => exact hcancel _ _ _ hreachable hbefore

end

/-- A calculation that accepts more reaches more. -/
theorem reachable_mono {larger : List α → List α → Prop}
    (haccepts : ∀ allocations lines, accepts allocations lines → larger allocations lines)
    (h : TransitionSystem.Reachable (system accepts) credits) :
    TransitionSystem.Reachable (system larger) credits := by
  have hstep : ∀ before after, (system accepts).step before after →
      (system larger).step before after := by
    intro before after hstep
    cases hstep with
    | approval hstep =>
        cases hstep with
        | approve hperm h => exact .approval (.approve hperm (haccepts _ _ h))
        | send => exact .approval .send
    | cancel => exact .cancel
  refine TransitionSystem.Reachable.mono ?_ hstep h
  exact fun _ h => h

theorem reachable_of_uncancelled
    (h : TransitionSystem.Reachable (uncancelledSystem accepts) credits) :
    TransitionSystem.Reachable (system accepts) credits := by
  have hstep : ∀ before after, (uncancelledSystem accepts).step before after →
      (system accepts).step before after := fun _ _ h => Step.approval h
  refine TransitionSystem.Reachable.mono ?_ hstep h
  exact fun _ h => h

end Runs

end CreditLedger
