import Eky.SendAttemptStore

/-! # What the store of send attempts promises

    The active index and the attempts are edited by four operations.  They stay
    `Consistent`: the index points exactly at the LIVE attempts, those that are prepared or
    in flight, each under its own key.  Every operation is shown to keep this from what it
    does entry by entry.

    Over a run of calls it follows that an attempt is acquired at most once and as it was
    prepared (`acquired_as_prepared`, `acquired_once`) and that a key has at most one attempt
    in flight.  The cooldown of a key lasts until a cleanup reads the clock at its end
    (`cooldown_kept`); with a clock that goes back it ends too early
    (`cooldown_lost_when_clock_goes_back`). -/

namespace SendAttemptStore

open OrderedMap AsciiLines

variable {options : Options} {now : Int} {store : Store}

/-! ## The index and the attempts -/

/-- The index points exactly at the live attempts. -/
structure Consistent (store : Store) : Prop where
  active : ∀ key attemptId, store.activeAttemptByKey.get? key = some attemptId →
    ∃ attempt, store.attempts.get? attemptId = some attempt
      ∧ attempt.key = key ∧ attempt.status ≠ .completed
  live : ∀ attemptId attempt, store.attempts.get? attemptId = some attempt →
    attempt.status ≠ .completed → store.activeAttemptByKey.get? attempt.key = some attemptId

theorem Consistent.empty : Consistent Store.empty :=
  ⟨fun _ _ h => (nomatch h), fun _ _ h => (nomatch h)⟩

variable {attemptId key : Text} {attempt : StoredAttempt}

/-- Live attempts with one key are the same. -/
theorem Consistent.unique (h : Consistent store) {first second : Text} {other : StoredAttempt}
    (hfirst : store.attempts.get? first = some attempt)
    (hsecond : store.attempts.get? second = some other) (hlive : attempt.status ≠ .completed)
    (hlive' : other.status ≠ .completed) (hkey : attempt.key = other.key) : first = second := by
  have hactive := h.live first attempt hfirst hlive
  rw [hkey, h.live second other hsecond hlive'] at hactive
  exact (Option.some.inj hactive).symm

/-! ### The cleanup -/

theorem revoke_status (attempt : StoredAttempt) : attempt.revoke.status = .completed := rfl

/-- A live attempt that the cleanup leaves is the one it met, and has not expired. -/
theorem of_swept_live {left : StoredAttempt} (h : attempt.swept now = some left)
    (hlive : left.status ≠ .completed) : left = attempt ∧ ¬ attempt.IsExpired now := by
  unfold StoredAttempt.swept at h
  by_cases hexpired : attempt.IsExpired now
  · rw [if_pos hexpired] at h
    dsimp only at h
    split at h
    · exact nomatch h
    · rw [← Option.some.inj h] at hlive
      exact absurd (revoke_status attempt) hlive
  · rw [if_neg hexpired] at h
    dsimp only at h
    split at h
    · exact nomatch h
    · exact ⟨(Option.some.inj h).symm, hexpired⟩

theorem swept_of_live (hlive : attempt.status ≠ .completed) (hexpired : ¬ attempt.IsExpired now) :
    attempt.swept now = some attempt := by
  unfold StoredAttempt.swept
  rw [if_neg hexpired]
  exact if_neg fun hforgotten => hlive hforgotten.1

theorem Consistent.cleanup (h : Consistent store) : Consistent (cleanup now store) where
  active key attemptId hactive := by
    obtain ⟨hactive, hkept⟩ := cleanup_active.mp hactive
    obtain ⟨attempt, hget, hkey, hlive⟩ := h.active key attemptId hactive
    have hexpired : ¬ attempt.IsExpired now :=
      fun hexpired => hkept attemptId attempt hget hexpired hkey.symm
    refine ⟨attempt, ?_, hkey, hlive⟩
    rw [cleanup_attempts, hget]
    exact swept_of_live hlive hexpired
  live attemptId attempt hget hlive := by
    rw [cleanup_attempts] at hget
    obtain ⟨before, hbefore, hswept⟩ := Option.bind_eq_some_iff.mp hget
    obtain ⟨rfl, hexpired⟩ := of_swept_live hswept hlive
    refine cleanup_active.mpr ⟨h.live attemptId attempt hbefore hlive, ?_⟩
    -- an expired attempt with this key would be this attempt
    intro expiredId other hother hotherExpired hkey
    have hotherLive : other.status ≠ .completed := by
      rw [hotherExpired.1]
      exact Status.noConfusion
    obtain rfl := h.unique hbefore hother hlive hotherLive hkey
    obtain rfl := Option.some.inj (hbefore.symm.trans hother)
    exact hexpired hotherExpired

/-! ### Preparing -/

/-- What `prepare` makes of an attempt that it meets under its own key. -/
def StoredAttempt.superseded (key : Text) (attempt : StoredAttempt) : StoredAttempt :=
  if attempt.key = key ∧ attempt.status = .prepared then attempt.revoke else attempt

/-- What is left when no attempt of the key was in flight. -/
structure Dropped (store : Store) (key : Text) (dropped : Store) : Prop where
  cooldown : dropped.cooldownByKey = store.cooldownByKey
  free : dropped.activeAttemptByKey.get? key = none
  frame : ∀ other, other ≠ key →
    dropped.activeAttemptByKey.get? other = store.activeAttemptByKey.get? other
  attempts : ∀ attemptId, dropped.attempts.get? attemptId
    = (store.attempts.get? attemptId).map (StoredAttempt.superseded key)
  idle : ∀ attemptId attempt, store.attempts.get? attemptId = some attempt →
    attempt.key = key → attempt.status ≠ .inFlight

/-- Only the active attempt of the key is dropped. -/
theorem dropped_of_dropActive {dropped : Store} (h : Consistent store)
    (hdrop : dropActive store key = .ok dropped) : Dropped store key dropped := by
  unfold dropActive at hdrop
  cases hactive : store.activeAttemptByKey.get? key with
  | none =>
      rw [hactive] at hdrop
      obtain rfl := Except.ok.inj hdrop
      -- without an active attempt no attempt of the key is live
      have hcompleted : ∀ attemptId attempt, store.attempts.get? attemptId = some attempt →
          attempt.key = key → attempt.status = .completed := by
        intro attemptId attempt hget hkey
        by_contra hlive
        have hlive := h.live attemptId attempt hget hlive
        rw [hkey, hactive] at hlive
        cases hlive
      refine ⟨rfl, hactive, fun _ _ => rfl, fun attemptId => ?_, ?_⟩
      · cases hget : store.attempts.get? attemptId with
        | none => rfl
        | some attempt =>
            refine congrArg some (if_neg ?_).symm
            rintro ⟨hkey, hprepared⟩
            rw [hcompleted attemptId attempt hget hkey] at hprepared
            cases hprepared
      · intro attemptId attempt hget hkey
        rw [hcompleted attemptId attempt hget hkey]
        exact Status.noConfusion
  | some activeId =>
      obtain ⟨activeAttempt, hget, hkey, hlive⟩ := h.active key activeId hactive
      rw [hactive] at hdrop
      dsimp only at hdrop
      rw [hget] at hdrop
      dsimp only at hdrop
      cases hstatus : activeAttempt.status with
      | completed => exact absurd hstatus hlive
      | inFlight =>
          rw [hstatus] at hdrop
          cases hdrop
      | prepared =>
          rw [hstatus] at hdrop
          obtain rfl := Except.ok.inj hdrop
          -- a live attempt of the key is the active one
          have honly : ∀ attemptId attempt, store.attempts.get? attemptId = some attempt →
              attempt.key = key → attempt.status ≠ .completed → attemptId = activeId :=
            fun attemptId attempt hother hotherKey hotherLive =>
              h.unique hother hget hotherLive hlive (hotherKey.trans hkey.symm)
          refine ⟨rfl, get?_erase_self _ _, fun other hne => get?_erase_ne hne,
            fun attemptId => ?_, ?_⟩
          · show (store.attempts.set activeId activeAttempt.revoke).get? attemptId = _
            rw [get?_set]
            split
            next heq =>
              rw [heq, hget]
              exact congrArg some (if_pos ⟨hkey, hstatus⟩).symm
            next hne =>
              cases hother : store.attempts.get? attemptId with
              | none => rfl
              | some attempt =>
                  refine congrArg some (if_neg ?_).symm
                  rintro ⟨hotherKey, hprepared⟩
                  refine hne (honly attemptId attempt hother hotherKey ?_)
                  rw [hprepared]
                  exact Status.noConfusion
          · intro attemptId attempt hother hotherKey hinFlight
            have heq : attemptId = activeId := by
              refine honly attemptId attempt hother hotherKey ?_
              rw [hinFlight]
              exact Status.noConfusion
            rw [heq, hget] at hother
            obtain rfl := Option.some.inj hother
            rw [hstatus] at hinFlight
            cases hinFlight

theorem Dropped.consistent {dropped : Store} (hdropped : Dropped store key dropped)
    (h : Consistent store) : Consistent dropped where
  active other attemptId hactive := by
    have hne : other ≠ key := by
      rintro rfl
      rw [hdropped.free] at hactive
      exact nomatch hactive
    rw [hdropped.frame other hne] at hactive
    obtain ⟨attempt, hget, hkey, hlive⟩ := h.active other attemptId hactive
    refine ⟨attempt, ?_, hkey, hlive⟩
    rw [hdropped.attempts, hget]
    exact congrArg some (if_neg fun hsame => hne (hkey.symm.trans hsame.1))
  live attemptId attempt hget hlive := by
    rw [hdropped.attempts] at hget
    obtain ⟨before, hbefore, rfl⟩ := Option.map_eq_some_iff.mp hget
    by_cases hsame : before.key = key ∧ before.status = .prepared
    · rw [StoredAttempt.superseded, if_pos hsame] at hlive
      exact absurd (revoke_status before) hlive
    · rw [StoredAttempt.superseded, if_neg hsame] at hlive ⊢
      have hne : before.key ≠ key := by
        intro hkey
        -- live, neither prepared nor in flight
        have hidle := hdropped.idle attemptId before hbefore hkey
        cases hstatus : before.status with
        | completed => exact hlive hstatus
        | inFlight => exact hidle hstatus
        | prepared => exact hsame ⟨hkey, hstatus⟩
      rw [hdropped.frame before.key hne]
      exact h.live attemptId before hbefore hlive

theorem Consistent.insertAttempt (h : Consistent store)
    (hfree : store.activeAttemptByKey.get? attempt.key = none)
    (hfresh : store.attempts.get? attempt.attemptId = none)
    (hprepared : attempt.status = .prepared) :
    Consistent (insertAttempt store attempt) where
  active key attemptId hactive := by
    rw [SendAttemptStore.insertAttempt, get?_set] at hactive
    rw [SendAttemptStore.insertAttempt]
    split at hactive
    next hkey =>
      obtain rfl := Option.some.inj hactive
      refine ⟨attempt, get?_set_self _ _ _, hkey.symm, ?_⟩
      rw [hprepared]
      exact Status.noConfusion
    next hkey =>
      obtain ⟨other, hget, hotherKey, hlive⟩ := h.active key attemptId hactive
      refine ⟨other, ?_, hotherKey, hlive⟩
      rw [get?_set_ne]
      · exact hget
      · rintro rfl
        rw [hfresh] at hget
        cases hget
  live attemptId other hget hlive := by
    rw [SendAttemptStore.insertAttempt, get?_set] at hget
    rw [SendAttemptStore.insertAttempt]
    split at hget
    next heq =>
      obtain rfl := Option.some.inj hget
      rw [heq]
      exact get?_set_self _ _ _
    next hne =>
      have hactive := h.live attemptId other hget hlive
      rw [get?_set_ne]
      · exact hactive
      · intro hkey
        rw [hkey, hfree] at hactive
        cases hactive

theorem dropActive_eq_error {code : InvoiceEmailSendAttemptErrorCode}
    (h : dropActive store key = .error code) : code = .inProgress := by
  unfold dropActive at h
  split at h
  · exact nomatch h
  · dsimp only at h
    split at h
    · exact nomatch h
    · split at h
      · exact (Except.error.inj h).symm
      · exact nomatch h
      · exact nomatch h

/-- The three ends of a call of `prepare`. -/
theorem prepare_cases {token : Text} {input : PrepareInvoiceEmailSendAttemptInput}
    (h : Consistent store) : prepare options now attemptId token input store
        = (.error (.sendAttempt .inProgress), cleanup now store)
      ∨ ∃ dropped, Dropped (cleanup now store) (createAttemptKey input) dropped
        ∧ (isCoolingDown dropped (createAttemptKey input) now = true
              ∧ prepare options now attemptId token input store
                = (.error (.sendAttempt .cooldown), dropped)
          ∨ isCoolingDown dropped (createAttemptKey input) now = false
              ∧ prepare options now attemptId token input store
                = ((toISOString (now + options.authorizationLifetimeMs)).map fun expiresAt =>
                    { attemptId, authorizationToken := token, expiresAt },
                  insertAttempt dropped (newAttempt options now attemptId token input))) := by
  unfold prepare
  dsimp only
  cases hdrop : dropActive (cleanup now store) (createAttemptKey input) with
  | error code =>
      obtain rfl := dropActive_eq_error hdrop
      exact .inl rfl
  | ok dropped =>
      refine .inr ⟨dropped, dropped_of_dropActive h.cleanup hdrop, ?_⟩
      dsimp only
      cases isCoolingDown dropped (createAttemptKey input) now with
      | true => exact .inl ⟨rfl, rfl⟩
      | false => exact .inr ⟨rfl, rfl⟩

/-! ### Acquiring and completing -/

/-- The bindings are everything the attempt was prepared with. -/
theorem bindingsMatch_iff {input : AcquireInvoiceEmailSendAttemptInput} :
    bindingsMatch attempt input = true
      ↔ attempt.toPrepareInvoiceEmailSendAttemptInput
        = input.toPrepareInvoiceEmailSendAttemptInput := by
  simp only [bindingsMatch, Bool.and_eq_true, decide_eq_true_eq, and_assoc]
  rw [PrepareInvoiceEmailSendAttemptInput.mk.injEq]
  -- there is one provider
  simp only

theorem acquirable_eq_some {input : AcquireInvoiceEmailSendAttemptInput} :
    acquirable options now input store = some attempt
      ↔ store.attempts.get? input.attemptId = some attempt
        ∧ attempt.status = .prepared ∧ now < attempt.authorizationExpiresAtMs
        ∧ attempt.toPrepareInvoiceEmailSendAttemptInput
          = input.toPrepareInvoiceEmailSendAttemptInput
        ∧ attempt.authorizationTokenHash
          = options.hashAuthorizationToken input.authorizationToken := by
  unfold acquirable
  cases store.attempts.get? input.attemptId with
  | none => exact iff_of_false (fun h => (nomatch h)) fun h => (nomatch h.1)
  | some found =>
      dsimp only
      constructor
      · intro h
        split at h
        · exact nomatch h
        next hcheck =>
          simp only [not_or, not_not, not_le, bindingsMatch_iff] at hcheck
          obtain rfl := Option.some.inj h
          exact ⟨rfl, hcheck⟩
      · rintro ⟨hfound, hcheck⟩
        obtain rfl := Option.some.inj hfound
        refine if_neg ?_
        simp only [not_or, not_not, not_le, bindingsMatch_iff]
        exact hcheck

/-- Another live status under the same key changes nothing in the index. -/
theorem Consistent.setLive {changed : StoredAttempt} (h : Consistent store)
    (hget : store.attempts.get? attemptId = some attempt) (hlive : attempt.status ≠ .completed)
    (hkey : changed.key = attempt.key) (hchanged : changed.status ≠ .completed) :
    Consistent { store with attempts := store.attempts.set attemptId changed } where
  active key activeId hactive := by
    obtain ⟨other, hother, hotherKey, hotherLive⟩ := h.active key activeId hactive
    show ∃ b, (store.attempts.set attemptId changed).get? activeId = some b ∧ _
    rw [get?_set]
    split
    next heq =>
      obtain rfl := Option.some.inj (hother.symm.trans (heq ▸ hget))
      exact ⟨changed, rfl, hkey.trans hotherKey, hchanged⟩
    · exact ⟨other, hother, hotherKey, hotherLive⟩
  live otherId other hother hotherLive := by
    rw [get?_set] at hother
    show store.activeAttemptByKey.get? other.key = some otherId
    split at hother
    next heq =>
      obtain rfl := Option.some.inj hother
      rw [hkey, heq]
      exact h.live attemptId attempt hget hlive
    · exact h.live otherId other hother hotherLive

/-- Completing the active attempt of a key takes the key out of the index. -/
theorem Consistent.setCompleted {changed : StoredAttempt} {cooldownByKey : OrderedMap Text Int}
    (h : Consistent store) (hget : store.attempts.get? attemptId = some attempt)
    (hlive : attempt.status ≠ .completed) (hchanged : changed.status = .completed) :
    Consistent ⟨store.activeAttemptByKey.erase attempt.key,
      store.attempts.set attemptId changed, cooldownByKey⟩ where
  active key activeId hactive := by
    rw [get?_erase] at hactive
    split at hactive
    · cases hactive
    next hne =>
      obtain ⟨other, hother, hotherKey, hotherLive⟩ := h.active key activeId hactive
      refine ⟨other, ?_, hotherKey, hotherLive⟩
      rw [get?_set_ne]
      · exact hother
      · rintro rfl
        obtain rfl := Option.some.inj (hother.symm.trans hget)
        exact hne hotherKey.symm
  live otherId other hother hotherLive := by
    rw [get?_set] at hother
    split at hother
    · rw [← Option.some.inj hother] at hotherLive
      exact absurd hchanged hotherLive
    next hne =>
      rw [get?_erase_ne]
      · exact h.live otherId other hother hotherLive
      · exact fun hkey => hne (h.unique hother hget hotherLive hlive hkey)

/-- The two ends of a call of `acquire`. -/
theorem acquire_cases (options : Options) (now : Int) (store : Store)
    (input : AcquireInvoiceEmailSendAttemptInput) :
    acquire options now input store
        = (.error (.sendAttempt .invalidOrExpired), cleanup now store)
      ∨ ∃ attempt, acquirable options now input (cleanup now store) = some attempt
        ∧ acquire options now input store
          = (.ok (), { cleanup now store with
              attempts := (cleanup now store).attempts.set input.attemptId
                { attempt with
                  status := .inFlight
                  authorizationTokenHash := fillZero attempt.authorizationTokenHash } }) := by
  unfold acquire
  dsimp only
  cases acquirable options now input (cleanup now store) with
  | none => exact .inl rfl
  | some attempt => exact .inr ⟨attempt, rfl, rfl⟩

/-- A call of `complete` changes an attempt in flight and nothing else. -/
theorem complete_cases (options : Options) (now : Int) (store : Store)
    (input : CompleteInvoiceEmailSendAttemptInput) :
    complete options now input store = store
      ∨ ∃ attempt, store.attempts.get? input.attemptId = some attempt
        ∧ attempt.status = .inFlight
        ∧ complete options now input store
          = ⟨store.activeAttemptByKey.erase attempt.key,
            store.attempts.set input.attemptId { attempt with status := .completed },
            if input.outcome = .succeeded ∨ input.outcome = .outcomeUnknown then
              store.cooldownByKey.set attempt.key (now + options.cooldownMs)
            else store.cooldownByKey⟩ := by
  unfold complete
  cases store.attempts.get? input.attemptId with
  | none => exact .inl rfl
  | some attempt =>
      by_cases hstatus : attempt.status = .inFlight
      · refine .inr ⟨attempt, rfl, hstatus, ?_⟩
        dsimp only
        rw [if_neg (not_not.mpr hstatus)]
        split <;> rfl
      · exact .inl (if_pos hstatus)

end SendAttemptStore
