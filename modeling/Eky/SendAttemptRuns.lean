import Eky.SendAttemptProofs

/-! # Runs of the store of send attempts

    Any calls with any readings of the clock, from the empty store.  One step lemma says where
    an attempt of the next store comes from (`attempts_of_perform`); the induction over the
    run (`run_invariant`) traces every attempt to the call that prepared it. -/

namespace SendAttemptStore

open OrderedMap AsciiLines

/-! ## Calls -/

/-- A call of the store. -/
inductive Call
  | prepare (now : Int) (attemptId authorizationToken : Text)
      (input : PrepareInvoiceEmailSendAttemptInput)
  | acquire (now : Int) (input : AcquireInvoiceEmailSendAttemptInput)
  | complete (now : Int) (input : CompleteInvoiceEmailSendAttemptInput)
  | cleanup (now : Int)

/-- The store after a call. -/
def perform (options : Options) (store : Store) : Call → Store
  | .prepare now attemptId authorizationToken input =>
      (prepare options now attemptId authorizationToken input store).2
  | .acquire now input => (acquire options now input store).2
  | .complete now input => complete options now input store
  | .cleanup now => cleanup now store

/-- The store after calls from the empty store. -/
def after (options : Options) (calls : List Call) : Store :=
  calls.foldl (perform options) .empty

/-- The identifier that a call draws at random. -/
def Call.drawnAttemptId : Call → Option Text
  | .prepare _ attemptId _ _ => some attemptId
  | _ => none

/-- `randomUUID` never gives an identifier twice. -/
def Fresh (calls : List Call) : Prop := (calls.filterMap Call.drawnAttemptId).Nodup

/-- The reading of the clock that a call cleans up with. -/
def Call.cleanupReading : Call → Option Int
  | .prepare now _ _ _ => some now
  | .acquire now _ => some now
  | .complete _ _ => none
  | .cleanup now => some now

variable {options : Options} {now : Int} {store : Store}

theorem after_append (options : Options) (calls : List Call) (call : Call) :
    after options (calls ++ [call]) = perform options (after options calls) call := by
  rw [after, List.foldl_append]
  rfl

theorem Fresh.of_append {first second : List Call} (h : Fresh (first ++ second)) :
    Fresh first := by
  rw [Fresh, List.filterMap_append] at h
  exact (List.nodup_append.mp h).1

variable {key attemptId : Text} {calls : List Call}
  {input : AcquireInvoiceEmailSendAttemptInput} {call : Call} {attempt : StoredAttempt}
  {cooldownUntil : Int}

/-- The last call draws an identifier that no call before it drew. -/
theorem Fresh.last (h : Fresh (calls ++ [call])) (hdrawn : call.drawnAttemptId = some attemptId) :
    attemptId ∉ calls.filterMap Call.drawnAttemptId := by
  rw [Fresh, List.filterMap_append, List.filterMap_cons_some hdrawn] at h
  intro hmem
  exact (List.nodup_append.mp h).2.2 attemptId hmem attemptId List.mem_cons_self rfl

/-! ## One call -/

/-- What stays of an attempt from one store to the next: its bindings and its expiry.  It is
    never prepared again. -/
structure Continues (before next : StoredAttempt) : Prop where
  bindings : next.toPrepareInvoiceEmailSendAttemptInput
    = before.toPrepareInvoiceEmailSendAttemptInput
  expiry : next.authorizationExpiresAtMs = before.authorizationExpiresAtMs
  prepared : next.status = .prepared → before.status = .prepared

theorem Continues.refl (attempt : StoredAttempt) : Continues attempt attempt := ⟨rfl, rfl, id⟩

theorem Continues.trans {first second third : StoredAttempt} (h : Continues first second)
    (h' : Continues second third) : Continues first third :=
  ⟨h'.bindings.trans h.bindings, h'.expiry.trans h.expiry, fun hp => h.prepared (h'.prepared hp)⟩

theorem continues_revoke (attempt : StoredAttempt) : Continues attempt attempt.revoke :=
  ⟨rfl, rfl, fun h => (nomatch h)⟩

theorem continues_swept {left : StoredAttempt} (h : attempt.swept now = some left) :
    Continues attempt left := by
  unfold StoredAttempt.swept at h
  by_cases hexpired : attempt.IsExpired now
  · rw [if_pos hexpired] at h
    dsimp only at h
    split at h
    · exact nomatch h
    · rw [← Option.some.inj h]
      exact continues_revoke attempt
  · rw [if_neg hexpired] at h
    dsimp only at h
    split at h
    · exact nomatch h
    · rw [← Option.some.inj h]
      exact .refl attempt

theorem continues_superseded (key : Text) (attempt : StoredAttempt) :
    Continues attempt (attempt.superseded key) := by
  unfold StoredAttempt.superseded
  split
  · exact continues_revoke attempt
  · exact .refl attempt

theorem attempts_of_cleanup (h : (cleanup now store).attempts.get? attemptId = some attempt) :
    ∃ before, store.attempts.get? attemptId = some before ∧ Continues before attempt := by
  rw [cleanup_attempts] at h
  obtain ⟨before, hbefore, hswept⟩ := Option.bind_eq_some_iff.mp h
  exact ⟨before, hbefore, continues_swept hswept⟩

theorem attempts_of_dropped {dropped : Store} (hdropped : Dropped (cleanup now store) key dropped)
    (h : dropped.attempts.get? attemptId = some attempt) :
    ∃ before, store.attempts.get? attemptId = some before ∧ Continues before attempt := by
  rw [hdropped.attempts] at h
  obtain ⟨swept, hswept, rfl⟩ := Option.map_eq_some_iff.mp h
  obtain ⟨before, hbefore, hcontinues⟩ := attempts_of_cleanup hswept
  exact ⟨before, hbefore, hcontinues.trans (continues_superseded key swept)⟩

/-- Every attempt of the next store continues one of this store, or the call prepared it. -/
theorem attempts_of_perform (h : Consistent store)
    (hget : (perform options store call).attempts.get? attemptId = some attempt) :
    (∃ before, store.attempts.get? attemptId = some before ∧ Continues before attempt)
      ∨ ∃ now token input, call = .prepare now attemptId token input
        ∧ attempt = newAttempt options now attemptId token input := by
  cases call with
  | cleanup now => exact .inl (attempts_of_cleanup hget)
  | prepare now drawn token input =>
      rw [perform] at hget
      rcases @prepare_cases options now store drawn token input h with
        hrefused | ⟨dropped, hdropped, ⟨-, hcooling⟩ | ⟨-, hstored⟩⟩
      · rw [hrefused] at hget
        exact .inl (attempts_of_cleanup hget)
      · rw [hcooling] at hget
        exact .inl (attempts_of_dropped hdropped hget)
      · rw [hstored, insertAttempt, get?_set] at hget
        split at hget
        next heq =>
          obtain rfl : attemptId = drawn := heq
          exact .inr ⟨now, token, input, rfl, (Option.some.inj hget).symm⟩
        · exact .inl (attempts_of_dropped hdropped hget)
  | acquire now input =>
      rw [perform] at hget
      rcases acquire_cases options now store input with hrefused | ⟨taken, htaken, hacquired⟩
      · rw [hrefused] at hget
        exact .inl (attempts_of_cleanup hget)
      · rw [hacquired, get?_set] at hget
        split at hget
        next heq =>
          obtain ⟨before, hbefore, hcontinues⟩ :=
            attempts_of_cleanup (acquirable_eq_some.mp htaken).1
          rw [heq, ← Option.some.inj hget]
          exact .inl ⟨before, hbefore,
            ⟨hcontinues.bindings, hcontinues.expiry, fun h => (by cases h)⟩⟩
        · exact .inl (attempts_of_cleanup hget)
  | complete now input =>
      rw [perform] at hget
      rcases complete_cases options now store input with
        hnothing | ⟨before, hbefore, -, hcompleted⟩
      · rw [hnothing] at hget
        exact .inl ⟨attempt, hget, .refl attempt⟩
      · rw [hcompleted, get?_set] at hget
        split at hget
        next heq =>
          rw [heq, ← Option.some.inj hget]
          exact .inl ⟨before, hbefore, ⟨rfl, rfl, fun h => (by cases h)⟩⟩
        · exact .inl ⟨attempt, hget, .refl attempt⟩

/-- Every call keeps the store consistent. -/
theorem Consistent.perform (h : Consistent store)
    (hfresh : ∀ attemptId, call.drawnAttemptId = some attemptId →
      store.attempts.get? attemptId = none) : Consistent (perform options store call) := by
  cases call with
  | cleanup now => exact h.cleanup
  | prepare now drawn token input =>
      show Consistent (prepare options now drawn token input store).2
      rcases @prepare_cases options now store drawn token input h with
        hrefused | ⟨dropped, hdropped, ⟨-, hcooling⟩ | ⟨-, hstored⟩⟩
      · rw [hrefused]
        exact h.cleanup
      · rw [hcooling]
        exact hdropped.consistent h.cleanup
      · rw [hstored]
        refine (hdropped.consistent h.cleanup).insertAttempt hdropped.free ?_ rfl
        -- the drawn identifier is new to the store, so to what is left of it
        cases hget : dropped.attempts.get? drawn with
        | none => exact hget
        | some attempt =>
            obtain ⟨before, hbefore, -⟩ := attempts_of_dropped hdropped hget
            rw [hfresh drawn rfl] at hbefore
            exact nomatch hbefore
  | acquire now input =>
      show Consistent (acquire options now input store).2
      rcases acquire_cases options now store input with hrefused | ⟨taken, htaken, hacquired⟩
      · rw [hrefused]
        exact h.cleanup
      · rw [hacquired]
        obtain ⟨hget, hprepared, -⟩ := acquirable_eq_some.mp htaken
        refine h.cleanup.setLive hget ?_ rfl Status.noConfusion
        rw [hprepared]
        exact Status.noConfusion
  | complete now input =>
      show Consistent (complete options now input store)
      rcases complete_cases options now store input with
        hnothing | ⟨before, hbefore, hinFlight, hcompleted⟩
      · rw [hnothing]
        exact h
      · rw [hcompleted]
        refine h.setCompleted hbefore ?_ rfl
        rw [hinFlight]
        exact Status.noConfusion

/-! ## Whole runs -/

/-- The call that prepared an attempt, and what it stored. -/
def PreparedIn (options : Options) (calls : List Call) (attemptId : Text)
    (attempt : StoredAttempt) : Prop :=
  ∃ earlier now token input later,
    calls = earlier ++ .prepare now attemptId token input :: later
    ∧ (after options (earlier ++ [.prepare now attemptId token input])).attempts.get? attemptId
      = some (newAttempt options now attemptId token input)
    ∧ Continues (newAttempt options now attemptId token input) attempt

theorem PreparedIn.append {before : StoredAttempt} (h : PreparedIn options calls attemptId before)
    (hcontinues : Continues before attempt) :
    PreparedIn options (calls ++ [call]) attemptId attempt := by
  obtain ⟨earlier, now, token, input, later, rfl, hstored, hnew⟩ := h
  refine ⟨earlier, now, token, input, later ++ [call], ?_, hstored, hnew.trans hcontinues⟩
  rw [List.append_assoc, List.cons_append]

theorem PreparedIn.drawn (h : PreparedIn options calls attemptId attempt) :
    attemptId ∈ calls.filterMap Call.drawnAttemptId := by
  obtain ⟨earlier, now, token, input, later, rfl, -⟩ := h
  exact List.mem_filterMap.mpr
    ⟨_, List.mem_append_right _ List.mem_cons_self, rfl⟩

theorem run_invariant (calls : List Call) (hfresh : Fresh calls) :
    Consistent (after options calls)
      ∧ ∀ attemptId attempt, (after options calls).attempts.get? attemptId = some attempt →
        PreparedIn options calls attemptId attempt := by
  induction calls using List.reverseRecOn with
  | nil => exact ⟨.empty, fun _ _ h => (nomatch h)⟩
  | append_singleton calls call ih =>
      obtain ⟨hconsistent, horigin⟩ := ih hfresh.of_append
      -- an identifier in the store was drawn before, so it is not the new one
      have hnew : ∀ attemptId, call.drawnAttemptId = some attemptId →
          (after options calls).attempts.get? attemptId = none := by
        intro attemptId hdrawn
        cases hget : (after options calls).attempts.get? attemptId with
        | none => rfl
        | some attempt =>
            exact absurd (horigin attemptId attempt hget).drawn (hfresh.last hdrawn)
      rw [after_append]
      refine ⟨hconsistent.perform hnew, fun attemptId attempt hget => ?_⟩
      rcases attempts_of_perform hconsistent hget with
        ⟨before, hbefore, hcontinues⟩ | ⟨now, token, input, rfl, rfl⟩
      · exact (horigin attemptId before hbefore).append hcontinues
      · refine ⟨calls, now, token, input, [], rfl, ?_, .refl _⟩
        rw [after_append]
        exact hget

theorem consistent_after (hfresh : Fresh calls) :
    Consistent (after options calls) := (run_invariant calls hfresh).1

/-! ### Acquisitions -/

/-- The call of `acquire` in this store returns. -/
def Acquires (options : Options) (store : Store) (now : Int)
    (input : AcquireInvoiceEmailSendAttemptInput) : Prop :=
  (acquire options now input store).1 = .ok ()

/-- What an acquisition takes, and what it makes of it. -/
theorem Acquires.taken (h : Acquires options store now input) :
    (∃ before attempt, store.attempts.get? input.attemptId = some before
      ∧ Continues before attempt ∧ attempt.status = .prepared
      ∧ now < attempt.authorizationExpiresAtMs
      ∧ attempt.toPrepareInvoiceEmailSendAttemptInput
        = input.toPrepareInvoiceEmailSendAttemptInput)
    ∧ ∀ attempt, (perform options store (.acquire now input)).attempts.get? input.attemptId
        = some attempt → attempt.status ≠ .prepared := by
  unfold Acquires at h
  rcases acquire_cases options now store input with hrefused | ⟨taken, htaken, hacquired⟩
  · rw [hrefused] at h
    exact nomatch h
  · obtain ⟨hget, hprepared, hexpiry, hbindings, -⟩ := acquirable_eq_some.mp htaken
    obtain ⟨before, hbefore, hcontinues⟩ := attempts_of_cleanup hget
    refine ⟨⟨before, taken, hbefore, hcontinues, hprepared, hexpiry, hbindings⟩, ?_⟩
    intro attempt hattempt
    rw [perform, hacquired, get?_set_self] at hattempt
    rw [← Option.some.inj hattempt]
    exact Status.noConfusion

/-- An acquired attempt was prepared before with the same bindings, and has not expired. -/
theorem acquired_as_prepared {earlier : List Call} (hfresh : Fresh earlier)
    (h : Acquires options (after options earlier) now input) : ∃ before preparedAt token later,
      earlier = before ++ .prepare preparedAt input.attemptId token
        input.toPrepareInvoiceEmailSendAttemptInput :: later
      ∧ (after options (before ++ [.prepare preparedAt input.attemptId token
          input.toPrepareInvoiceEmailSendAttemptInput])).attempts.get? input.attemptId
        = some (newAttempt options preparedAt input.attemptId token
          input.toPrepareInvoiceEmailSendAttemptInput)
      ∧ now < preparedAt + options.authorizationLifetimeMs := by
  obtain ⟨⟨stored, taken, hstored, hcontinues, -, hexpiry, hbindings⟩, -⟩ := h.taken
  obtain ⟨before, preparedAt, token, prepared, later, hcalls, hnew, hcontinues'⟩ :=
    (run_invariant earlier hfresh).2 _ _ hstored
  have horigin := hcontinues'.trans hcontinues
  obtain rfl : input.toPrepareInvoiceEmailSendAttemptInput = prepared :=
    hbindings.symm.trans horigin.bindings
  rw [horigin.expiry] at hexpiry
  exact ⟨before, preparedAt, token, later, hcalls, hnew, hexpiry⟩

/-- No call but the one that draws the identifier makes its attempt prepared. -/
theorem never_prepared_again {later : List Call} (hfresh : Fresh (calls ++ later))
    (hdrawn : attemptId ∈ calls.filterMap Call.drawnAttemptId)
    (h : ∀ attempt, (after options calls).attempts.get? attemptId = some attempt →
      attempt.status ≠ .prepared) :
    ∀ attempt, (after options (calls ++ later)).attempts.get? attemptId = some attempt →
      attempt.status ≠ .prepared := by
  induction later using List.reverseRecOn with
  | nil =>
      rw [List.append_nil]
      exact h
  | append_singleton later call ih =>
      rw [← List.append_assoc] at hfresh ⊢
      intro attempt hget
      rw [after_append] at hget
      rcases attempts_of_perform (consistent_after hfresh.of_append) hget with
        ⟨before, hbefore, hcontinues⟩ | ⟨now, token, input, rfl, -⟩
      · exact fun hprepared => ih hfresh.of_append before hbefore (hcontinues.prepared hprepared)
      · refine absurd ?_ (hfresh.last rfl)
        rw [List.filterMap_append]
        exact List.mem_append_left _ hdrawn

theorem acquired_once {earlier between : List Call} {input' : AcquireInvoiceEmailSendAttemptInput}
    {now' : Int} (hfresh : Fresh (earlier ++ .acquire now input :: between))
    (h : Acquires options (after options earlier) now input)
    (hsame : input'.attemptId = input.attemptId) :
    ¬ Acquires options (after options (earlier ++ .acquire now input :: between)) now' input' := by
  intro hagain
  obtain ⟨⟨stored, taken, hstored, -⟩, hacquired⟩ := h.taken
  obtain ⟨⟨stored', taken', hstored', hcontinues', hprepared', -⟩, -⟩ := hagain.taken
  have hsplit : earlier ++ .acquire now input :: between
      = (earlier ++ [.acquire now input]) ++ between := by
    rw [List.append_assoc, List.singleton_append]
  rw [hsplit] at hfresh hstored'
  have hdrawn := ((run_invariant earlier hfresh.of_append.of_append).2 _ _ hstored).drawn
  refine never_prepared_again hfresh ?_ ?_ stored' hstored' (hcontinues'.prepared hprepared')
  · rw [List.filterMap_append, hsame]
    exact List.mem_append_left _ hdrawn
  · rw [after_append, hsame]
    exact hacquired

/-! ### Cooldowns -/

/-- The key waits for a time, and none of its attempts is live. -/
structure CoolingDown (store : Store) (key : Text) (cooldownUntil : Int) : Prop where
  waits : store.cooldownByKey.get? key = some cooldownUntil
  free : store.activeAttemptByKey.get? key = none

theorem CoolingDown.cleanup (h : CoolingDown store key cooldownUntil) (hnow : now < cooldownUntil) :
    CoolingDown (cleanup now store) key cooldownUntil where
  waits := by
    rw [cleanup_cooldown, h.waits]
    exact if_neg (not_le.mpr hnow)
  free := by
    cases hactive : (SendAttemptStore.cleanup now store).activeAttemptByKey.get? key with
    | none => rfl
    | some attemptId =>
        have hbefore := (cleanup_active.mp hactive).1
        rw [h.free] at hbefore
        exact nomatch hbefore

/-- Such a key is refused. -/
theorem CoolingDown.refused {token : Text} {input : PrepareInvoiceEmailSendAttemptInput}
    (h : CoolingDown store key cooldownUntil) (hnow : now < cooldownUntil)
    (hkey : createAttemptKey input = key) : prepare options now attemptId token input store
      = (.error (.sendAttempt .cooldown), SendAttemptStore.cleanup now store) := by
  obtain ⟨hwaits, hfree⟩ := h.cleanup hnow
  unfold prepare dropActive
  dsimp only
  rw [hkey, hfree]
  refine if_pos ?_
  rw [isCoolingDown, hwaits]
  exact decide_eq_true hnow

/-- No call shortens the cooldown. -/
theorem CoolingDown.perform (h : CoolingDown store key cooldownUntil)
    (hconsistent : Consistent store)
    (hreading : ∀ reading, call.cleanupReading = some reading → reading < cooldownUntil) :
    CoolingDown (perform options store call) key cooldownUntil := by
  cases call with
  | cleanup now => exact h.cleanup (hreading now rfl)
  | prepare now drawn token input =>
      have hnow := hreading now rfl
      show CoolingDown (prepare options now drawn token input store).2 key cooldownUntil
      by_cases hkey : createAttemptKey input = key
      · rw [h.refused hnow hkey]
        exact h.cleanup hnow
      · have hclean := h.cleanup hnow
        rcases @prepare_cases options now store drawn token input hconsistent with
          hrefused | ⟨dropped, hdropped, hend⟩
        · rw [hrefused]
          exact hclean
        · -- another key leaves this one alone
          have hleft : CoolingDown dropped key cooldownUntil := by
            refine ⟨?_, ?_⟩
            · rw [hdropped.cooldown]
              exact hclean.waits
            · rw [hdropped.frame key (Ne.symm hkey)]
              exact hclean.free
          rcases hend with ⟨-, hcooling⟩ | ⟨-, hstored⟩
          · rw [hcooling]
            exact hleft
          · rw [hstored]
            exact ⟨hleft.waits, (get?_set_ne (Ne.symm hkey)).trans hleft.free⟩
  | acquire now input =>
      have hclean := h.cleanup (hreading now rfl)
      show CoolingDown (acquire options now input store).2 key cooldownUntil
      rcases acquire_cases options now store input with hrefused | ⟨taken, -, hacquired⟩
      · rw [hrefused]
        exact hclean
      · rw [hacquired]
        exact ⟨hclean.waits, hclean.free⟩
  | complete now input =>
      show CoolingDown (complete options now input store) key cooldownUntil
      rcases complete_cases options now store input with
        hnothing | ⟨before, hbefore, hinFlight, hcompleted⟩
      · rw [hnothing]
        exact h
      · -- the completed attempt was live, so its key is another one
        have hne : key ≠ before.key := by
          rintro rfl
          have hlive := hconsistent.live _ before hbefore (by
            rw [hinFlight]
            exact Status.noConfusion)
          rw [h.free] at hlive
          exact nomatch hlive
        rw [hcompleted]
        refine ⟨?_, (get?_erase_ne hne).trans h.free⟩
        dsimp only
        split
        · exact (get?_set_ne hne).trans h.waits
        · exact h.waits

theorem coolingDown_after {between : List Call} (hfresh : Fresh (calls ++ between))
    (h : CoolingDown (after options calls) key cooldownUntil)
    (hreading : ∀ call ∈ between, ∀ reading, call.cleanupReading = some reading →
      reading < cooldownUntil) :
    CoolingDown (after options (calls ++ between)) key cooldownUntil := by
  induction between using List.reverseRecOn with
  | nil =>
      rw [List.append_nil]
      exact h
  | append_singleton between call ih =>
      rw [← List.append_assoc] at hfresh ⊢
      rw [after_append]
      have hbetween := ih hfresh.of_append fun call hmem =>
        hreading call (List.mem_append_left _ hmem)
      exact hbetween.perform (consistent_after hfresh.of_append)
        (hreading call (List.mem_append_right _ (List.mem_singleton_self call)))

/-- Completing an attempt that may have been sent starts the cooldown of its key. -/
theorem coolingDown_complete {input : CompleteInvoiceEmailSendAttemptInput}
    (hget : store.attempts.get? input.attemptId = some attempt)
    (hinFlight : attempt.status = .inFlight)
    (houtcome : input.outcome = .succeeded ∨ input.outcome = .outcomeUnknown) :
    CoolingDown (perform options store (.complete now input)) attempt.key
      (now + options.cooldownMs) := by
  rw [perform]
  rcases complete_cases options now store input with
    hnothing | ⟨before, hbefore, -, hcompleted⟩
  · -- the call does something: the attempt is not in flight any more
    have hchanged := congrArg (fun s : Store => s.attempts.get? input.attemptId) hnothing
    simp only [complete, hget, hinFlight, ne_eq, not_true_eq_false, if_false, houtcome, if_true,
      get?_set_self] at hchanged
    have hstatus := congrArg StoredAttempt.status (Option.some.inj hchanged)
    rw [hinFlight] at hstatus
    cases hstatus
  · obtain rfl := Option.some.inj (hget.symm.trans hbefore)
    rw [hcompleted]
    refine ⟨?_, get?_erase_self _ _⟩
    dsimp only
    rw [if_pos houtcome, get?_set_self]

/-! ## The promises of the store -/

/-- Every acquisition takes an attempt that an earlier call prepared with exactly these
    bindings, before that attempt expires. -/
def AcquiredAsPrepared (options : Options) (calls : List Call) : Prop :=
  ∀ earlier now input later, calls = earlier ++ .acquire now input :: later →
    Acquires options (after options earlier) now input →
    ∃ before preparedAt token between,
      earlier = before ++ .prepare preparedAt input.attemptId token
        input.toPrepareInvoiceEmailSendAttemptInput :: between
      ∧ (after options (before ++ [.prepare preparedAt input.attemptId token
          input.toPrepareInvoiceEmailSendAttemptInput])).attempts.get? input.attemptId
        = some (newAttempt options preparedAt input.attemptId token
          input.toPrepareInvoiceEmailSendAttemptInput)
      ∧ now < preparedAt + options.authorizationLifetimeMs

/-- No attempt is acquired a second time. -/
def AcquiredOnce (options : Options) (calls : List Call) : Prop :=
  ∀ earlier now input between now' input' later,
    calls = earlier ++ .acquire now input :: (between ++ .acquire now' input' :: later) →
    Acquires options (after options earlier) now input → input'.attemptId = input.attemptId →
    ¬ Acquires options (after options (earlier ++ .acquire now input :: between)) now' input'

/-- At most one attempt of a key is in flight. -/
def OneInFlight (store : Store) : Prop :=
  ∀ first second attempt other, store.attempts.get? first = some attempt →
    store.attempts.get? second = some other → attempt.status = .inFlight →
    other.status = .inFlight → attempt.key = other.key → first = second

/-- The active attempt of a key is an attempt of that key. -/
def IndexPointsToKey (store : Store) : Prop :=
  ∀ key attemptId, store.activeAttemptByKey.get? key = some attemptId →
    ∃ attempt, store.attempts.get? attemptId = some attempt ∧ attempt.key = key

/-- A live attempt is the active one of its key. -/
def LiveReachable (store : Store) : Prop :=
  ∀ attemptId attempt, store.attempts.get? attemptId = some attempt →
    attempt.status = .prepared ∨ attempt.status = .inFlight →
    store.activeAttemptByKey.get? attempt.key = some attemptId

/-- A place in a run where an attempt is completed with an outcome that starts a cooldown,
    and after other calls a `prepare` for its key reads the clock inside the cooldown. -/
structure InsideCooldown (options : Options) (calls : List Call) where
  earlier : List Call
  completeNow : Int
  completion : CompleteInvoiceEmailSendAttemptInput
  attempt : StoredAttempt
  between : List Call
  prepareNow : Int
  attemptId : Text
  token : Text
  input : PrepareInvoiceEmailSendAttemptInput
  later : List Call
  calls_eq : calls = earlier ++ .complete completeNow completion
    :: (between ++ .prepare prepareNow attemptId token input :: later)
  stored : (after options earlier).attempts.get? completion.attemptId = some attempt
  inFlight : attempt.status = .inFlight
  outcome : completion.outcome = .succeeded ∨ completion.outcome = .outcomeUnknown
  key_eq : createAttemptKey input = attempt.key
  inside : prepareNow < completeNow + options.cooldownMs

/-- What the `prepare` returns or throws. -/
def InsideCooldown.result {calls : List Call} (place : InsideCooldown options calls) :
    Except StoreError PreparedInvoiceEmailSendAttempt :=
  (prepare options place.prepareNow place.attemptId place.token place.input
    (after options (place.earlier ++ .complete place.completeNow place.completion
      :: place.between))).1

/-- No `prepare` succeeds inside a cooldown, whatever the clock reads. -/
def CooldownAlwaysKept (options : Options) (calls : List Call) : Prop :=
  ∀ place : InsideCooldown options calls, ∀ prepared, place.result ≠ .ok prepared

/-- A `prepare` inside a cooldown is refused as long as no call since the completion has
    cleaned up at the end of the cooldown or later. -/
def CooldownKept (options : Options) (calls : List Call) : Prop :=
  ∀ place : InsideCooldown options calls,
    (∀ call ∈ place.between, ∀ reading, call.cleanupReading = some reading →
      reading < place.completeNow + options.cooldownMs) →
    place.result = .error (.sendAttempt .cooldown)

theorem cooldown_kept (hfresh : Fresh calls) : CooldownKept options calls := by
  intro place hreading
  have hcalls := place.calls_eq
  rw [← List.cons_append, ← List.append_assoc] at hcalls
  rw [hcalls] at hfresh
  have hbefore := hfresh.of_append
  rw [List.append_cons] at hbefore
  have hstart : CoolingDown
      (after options (place.earlier ++ [.complete place.completeNow place.completion]))
      place.attempt.key (place.completeNow + options.cooldownMs) := by
    rw [after_append]
    exact coolingDown_complete place.stored place.inFlight place.outcome
  have hcooling := coolingDown_after hbefore hstart hreading
  rw [← List.append_cons] at hcooling
  rw [InsideCooldown.result, hcooling.refused place.inside place.key_eq]

/-- In every run of the store, with identifiers that are never drawn twice: an attempt is
    acquired at most once, as it was prepared and before it expires; a key has at most one
    attempt in flight; the active index points to attempts with its keys and to every live
    one; and a cooldown is kept until a cleanup reads the clock at its end. -/
theorem store_keeps_promises (options : Options) (calls : List Call) (hfresh : Fresh calls) :
    AcquiredOnce options calls ∧ AcquiredAsPrepared options calls
      ∧ OneInFlight (after options calls) ∧ IndexPointsToKey (after options calls)
      ∧ LiveReachable (after options calls) ∧ CooldownKept options calls := by
  have hconsistent := @consistent_after options calls hfresh
  refine ⟨?_, ?_, ?_, ?_, ?_, cooldown_kept hfresh⟩
  · intro earlier now input between now' input' later hcalls hacquires hsame
    rw [hcalls, ← List.cons_append, ← List.append_assoc] at hfresh
    exact acquired_once hfresh.of_append hacquires hsame
  · intro earlier now input later hcalls hacquires
    rw [hcalls] at hfresh
    exact acquired_as_prepared hfresh.of_append hacquires
  · intro first second attempt other hfirst hsecond hinFlight hinFlight' hkey
    refine hconsistent.unique hfirst hsecond ?_ ?_ hkey
    · rw [hinFlight]
      exact Status.noConfusion
    · rw [hinFlight']
      exact Status.noConfusion
  · intro key attemptId hactive
    obtain ⟨attempt, hget, hkey, -⟩ := hconsistent.active key attemptId hactive
    exact ⟨attempt, hget, hkey⟩
  · intro attemptId attempt hget hlive
    refine hconsistent.live attemptId attempt hget fun hcompleted => ?_
    rw [hcompleted] at hlive
    exact hlive.elim Status.noConfusion Status.noConfusion

/-! ### A clock that goes back -/

/-- A mail to a customer. -/
def sampleInput : PrepareInvoiceEmailSendAttemptInput where
  actorId := "actor".toList
  companyId := "company".toList
  invoiceId := "invoice".toList
  mode := .customer
  provider := .dnaSmtp
  recipient := "customer@example.fi".toList
  requestFingerprint := "fingerprint".toList

/-- The SHA-256 digest of the token of the run below. -/
def sampleTokenHash : Buffer :=
  [60, 70, 158, 157, 108, 88, 117, 211, 122, 67, 243, 83, 212, 248, 142, 97,
    252, 248, 18, 198, 110, 238, 52, 87, 70, 90, 64, 176, 218, 65, 83, 224]

/-- The options of the application. -/
def sampleOptions : Options := defaultOptions fun _ => sampleTokenHash

/-- An attempt that is prepared and acquired. -/
def sampleAttempt : List Call :=
  [.prepare 0 "first".toList "token".toList sampleInput,
    .acquire 1 { sampleInput with
      attemptId := "first".toList
      authorizationToken := "token".toList }]

/-- The attempt is sent; a cleanup reads a clock that is ahead and goes back. -/
def sampleCalls : List Call :=
  sampleAttempt ++ .complete 2 ⟨"first".toList, .succeeded⟩
    :: ([.cleanup 20000] ++ .prepare 5000 "second".toList "token".toList sampleInput :: [])

theorem sample_store_keeps_promises :
    AcquiredOnce sampleOptions sampleCalls ∧ AcquiredAsPrepared sampleOptions sampleCalls
      ∧ OneInFlight (after sampleOptions sampleCalls)
      ∧ IndexPointsToKey (after sampleOptions sampleCalls)
      ∧ LiveReachable (after sampleOptions sampleCalls)
      ∧ CooldownKept sampleOptions sampleCalls :=
  store_keeps_promises sampleOptions sampleCalls
    (by decide : ["first".toList, "second".toList].Nodup)

/-- The attempt of the run as it stands in flight. -/
def sampleInFlight : StoredAttempt :=
  { newAttempt sampleOptions 0 "first".toList "token".toList sampleInput with
    status := .inFlight
    authorizationTokenHash := fillZero sampleTokenHash }

theorem cooldown_lost_when_clock_goes_back :
    ¬ ∀ options calls, Fresh calls → CooldownAlwaysKept options calls := by
  intro hkept
  have hfresh : Fresh sampleCalls := (by decide : ["first".toList, "second".toList].Nodup)
  have hstored : (after sampleOptions sampleAttempt).attempts.get? "first".toList
      = some sampleInFlight := by decide
  refine hkept sampleOptions sampleCalls hfresh
    { earlier := sampleAttempt, completeNow := 2, completion := ⟨"first".toList, .succeeded⟩
      attempt := sampleInFlight, between := [.cleanup 20000], prepareNow := 5000
      attemptId := "second".toList, token := "token".toList, input := sampleInput, later := []
      calls_eq := rfl, stored := hstored, inFlight := rfl, outcome := .inl rfl, key_eq := rfl
      inside := by decide }
    ⟨"second".toList, "token".toList, 65000⟩ ?_
  show (prepare sampleOptions 5000 "second".toList "token".toList sampleInput
    (after sampleOptions (sampleAttempt ++ .complete 2 ⟨"first".toList, .succeeded⟩
      :: [.cleanup 20000]))).1 = .ok ⟨"second".toList, "token".toList, 65000⟩
  decide

end SendAttemptStore
