import Eky.AsciiLines
import Eky.MapSweep

/-! # The store of send attempts

    Before an invoice is mailed an attempt is PREPARED: it is bound to the actor, the invoice
    and the content that were confirmed, and gets a token that expires.  The attempt is
    ACQUIRED once with that token, is then in flight, and is COMPLETED with an outcome; a
    completed one that may have reached its recipient starts a cooldown for its key.

    The store keeps three maps, and every operation but `complete` begins with a cleanup that
    depends on the clock.  What each operation does to the maps is said once, entry by entry:

    - `cleanup_attempts`, `cleanup_active`, `cleanup_cooldown`;
    - `dropActive_eq_ok`, `prepare_cases`: what `prepare` refuses and what it stores;
    - `acquire_eq_ok` and `complete_cases`. -/

namespace SendAttemptStore

open OrderedMap AsciiLines

/-! ## Data -/

/-- To the customer, or as a test. -/
inductive InvoiceEmailSendMode
  | customer
  | smtpTest
  deriving DecidableEq

/-- The providers. -/
inductive Provider
  | dnaSmtp
  deriving DecidableEq

/-- Their texts. -/
def Provider.text : Provider → Text
  | .dnaSmtp => "dnaSmtp".toList

/-- What is going to be sent. -/
structure PrepareInvoiceEmailSendAttemptInput where
  actorId : Text
  companyId : Text
  invoiceId : Text
  mode : InvoiceEmailSendMode
  provider : Provider
  recipient : Text
  requestFingerprint : Text
  deriving DecidableEq

/-- The same, with the authorization. -/
structure AcquireInvoiceEmailSendAttemptInput extends PrepareInvoiceEmailSendAttemptInput where
  attemptId : Text
  authorizationToken : Text
  deriving DecidableEq

/-- How a sending has ended. -/
inductive InvoiceEmailSendAttemptOutcome
  | failed
  | outcomeUnknown
  | succeeded
  deriving DecidableEq

/-- The end of a sending. -/
structure CompleteInvoiceEmailSendAttemptInput where
  attemptId : Text
  outcome : InvoiceEmailSendAttemptOutcome
  deriving DecidableEq

/-- `expiresAt` is the time value of the ISO text. -/
structure PreparedInvoiceEmailSendAttempt where
  attemptId : Text
  authorizationToken : Text
  expiresAt : Int
  deriving DecidableEq

/-- Why an attempt is refused. -/
inductive InvoiceEmailSendAttemptErrorCode
  | cooldown
  | inProgress
  | invalidOrExpired
  deriving DecidableEq

/-- What an operation throws.  `toISOString` throws its own error outside the range of dates. -/
inductive StoreError
  | sendAttempt (code : InvoiceEmailSendAttemptErrorCode)
  | rangeError
  deriving DecidableEq

/-- The texts of the errors. -/
def InvoiceEmailSendAttemptErrorCode.message : InvoiceEmailSendAttemptErrorCode → String
  | .cooldown => "Invoice email delivery is temporarily rate limited."
  | .inProgress => "An invoice email delivery is already in progress."
  | .invalidOrExpired => "Invoice email delivery authorization is invalid or expired."

/-- Where an attempt stands. -/
inductive Status
  | completed
  | inFlight
  | prepared
  deriving DecidableEq

/-- An attempt. -/
structure StoredAttempt extends PrepareInvoiceEmailSendAttemptInput where
  attemptId : Text
  authorizationExpiresAtMs : Int
  authorizationTokenHash : Buffer
  key : Text
  retentionExpiresAtMs : Int
  status : Status
  deriving DecidableEq

/-- The three maps. -/
structure Store where
  activeAttemptByKey : OrderedMap Text Text
  attempts : OrderedMap Text StoredAttempt
  cooldownByKey : OrderedMap Text Int

/-- Nothing stored. -/
def Store.empty : Store := ⟨.empty, .empty, .empty⟩

/-- The options of the store and the digest of a token. -/
structure Options where
  authorizationLifetimeMs : Int
  cooldownMs : Int
  retentionMs : Int
  hashAuthorizationToken : Text → Buffer

/-- The times of the application. -/
def defaultOptions (hashAuthorizationToken : Text → Buffer) : Options :=
  ⟨60000, 10000, 300000, hashAuthorizationToken⟩

/-- The key of an attempt. -/
def createAttemptKey (input : PrepareInvoiceEmailSendAttemptInput) : Text :=
  input.companyId ++ '\x00' :: input.invoiceId ++ '\x00' :: input.provider.text

/-- `buffer.fill(0)` -/
def fillZero (buffer : Buffer) : Buffer := buffer.map fun _ => 0

/-! ## Operations -/

/-- Its authorization has run out. -/
def StoredAttempt.IsExpired (attempt : StoredAttempt) (now : Int) : Prop :=
  attempt.status = .prepared ∧ attempt.authorizationExpiresAtMs ≤ now

instance (attempt : StoredAttempt) (now : Int) : Decidable (attempt.IsExpired now) :=
  inferInstanceAs (Decidable (_ ∧ _))

/-- It need not be remembered. -/
def StoredAttempt.IsForgotten (attempt : StoredAttempt) (now : Int) : Prop :=
  attempt.status = .completed ∧ attempt.retentionExpiresAtMs ≤ now

instance (attempt : StoredAttempt) (now : Int) : Decidable (attempt.IsForgotten now) :=
  inferInstanceAs (Decidable (_ ∧ _))

/-- The attempt without its token, and over. -/
def StoredAttempt.revoke (attempt : StoredAttempt) : StoredAttempt :=
  { attempt with
    authorizationTokenHash := fillZero attempt.authorizationTokenHash
    status := .completed }

/-- Removes an attempt that need not be remembered. -/
def forgetAttempt (now : Int) (store : Store) (attemptId : Text) (attempt : StoredAttempt) :
    Store :=
  if attempt.IsForgotten now then { store with attempts := store.attempts.erase attemptId }
  else store

/-- One round of the first loop. -/
def sweepAttempt (now : Int) (store : Store) (entry : Text × StoredAttempt) : Store :=
  let (attemptId, attempt) := entry
  if attempt.IsExpired now then
    forgetAttempt now
      { store with
        activeAttemptByKey := store.activeAttemptByKey.erase attempt.key
        attempts := store.attempts.set attemptId attempt.revoke }
      attemptId attempt.revoke
  else forgetAttempt now store attemptId attempt

/-- One round of the second loop. -/
def sweepCooldown (now : Int) (cooldownByKey : OrderedMap Text Int) (entry : Text × Int) :
    OrderedMap Text Int :=
  if entry.2 ≤ now then cooldownByKey.erase entry.1 else cooldownByKey

/-- Removes what has run out. -/
def cleanup (now : Int) (store : Store) : Store :=
  let store := store.attempts.entries.foldl (sweepAttempt now) store
  { store with
    cooldownByKey := store.cooldownByKey.entries.foldl (sweepCooldown now) store.cooldownByKey }

/-- The part of `prepare` that looks at the active attempt of the key. -/
def dropActive (store : Store) (key : Text) : Except InvoiceEmailSendAttemptErrorCode Store :=
  match store.activeAttemptByKey.get? key with
  | none => .ok store
  | some activeAttemptId =>
      let dropped := { store with activeAttemptByKey := store.activeAttemptByKey.erase key }
      match store.attempts.get? activeAttemptId with
      | none => .ok dropped
      | some activeAttempt =>
          match activeAttempt.status with
          | .inFlight => .error .inProgress
          | .prepared =>
              .ok { dropped with
                attempts := store.attempts.set activeAttemptId activeAttempt.revoke }
          | .completed => .ok dropped

/-- `new Date(ms).toISOString()` -/
def toISOString (ms : Int) : Except StoreError Int :=
  if -8640000000000000 ≤ ms ∧ ms ≤ 8640000000000000 then .ok ms else .error .rangeError

/-- A prepared attempt. -/
def newAttempt (options : Options) (now : Int) (attemptId authorizationToken : Text)
    (input : PrepareInvoiceEmailSendAttemptInput) : StoredAttempt :=
  { input with
    attemptId
    authorizationExpiresAtMs := now + options.authorizationLifetimeMs
    authorizationTokenHash := options.hashAuthorizationToken authorizationToken
    key := createAttemptKey input
    retentionExpiresAtMs := now + options.retentionMs
    status := .prepared }

/-- Stores an attempt as the active one of its key. -/
def insertAttempt (store : Store) (attempt : StoredAttempt) : Store :=
  { store with
    attempts := store.attempts.set attempt.attemptId attempt
    activeAttemptByKey := store.activeAttemptByKey.set attempt.key attempt.attemptId }

/-- The key may not be used yet. -/
def isCoolingDown (store : Store) (key : Text) (now : Int) : Bool :=
  (store.cooldownByKey.get? key).any fun cooldownUntil => cooldownUntil > now

/-- `attemptId` and `authorizationToken` are the random values the call draws. -/
def prepare (options : Options) (now : Int) (attemptId authorizationToken : Text)
    (input : PrepareInvoiceEmailSendAttemptInput) (store : Store) :
    Except StoreError PreparedInvoiceEmailSendAttempt × Store :=
  let store := cleanup now store
  match dropActive store (createAttemptKey input) with
  | .error code => (.error (.sendAttempt code), store)
  | .ok store =>
      if isCoolingDown store (createAttemptKey input) now then
        (.error (.sendAttempt .cooldown), store)
      else
        let attempt := newAttempt options now attemptId authorizationToken input
        -- the attempt is stored before its expiry becomes a text
        ((toISOString attempt.authorizationExpiresAtMs).map fun expiresAt =>
          { attemptId, authorizationToken, expiresAt }, insertAttempt store attempt)

/-- The request is the one that was prepared. -/
def bindingsMatch (attempt : StoredAttempt) (input : AcquireInvoiceEmailSendAttemptInput) : Bool :=
  attempt.actorId = input.actorId && attempt.companyId = input.companyId
    && attempt.invoiceId = input.invoiceId && attempt.mode = input.mode
    && attempt.provider = input.provider && attempt.recipient = input.recipient
    && attempt.requestFingerprint = input.requestFingerprint

/-- The attempt that an acquisition may take. -/
def acquirable (options : Options) (now : Int) (input : AcquireInvoiceEmailSendAttemptInput)
    (store : Store) : Option StoredAttempt :=
  match store.attempts.get? input.attemptId with
  | none => none
  | some attempt =>
      if attempt.status ≠ .prepared ∨ attempt.authorizationExpiresAtMs ≤ now
          ∨ ¬ bindingsMatch attempt input
          ∨ attempt.authorizationTokenHash
            ≠ options.hashAuthorizationToken input.authorizationToken then none
      else some attempt

/-- Takes a prepared attempt, once. -/
def acquire (options : Options) (now : Int) (input : AcquireInvoiceEmailSendAttemptInput)
    (store : Store) : Except StoreError Unit × Store :=
  let store := cleanup now store
  match acquirable options now input store with
  | none => (.error (.sendAttempt .invalidOrExpired), store)
  | some attempt =>
      let inFlight := { attempt with
        status := .inFlight
        authorizationTokenHash := fillZero attempt.authorizationTokenHash }
      (.ok (), { store with attempts := store.attempts.set input.attemptId inFlight })

/-- Notes the end of a sending. -/
def complete (options : Options) (now : Int) (input : CompleteInvoiceEmailSendAttemptInput)
    (store : Store) : Store :=
  match store.attempts.get? input.attemptId with
  | none => store
  | some attempt =>
      if attempt.status ≠ .inFlight then store
      else
        let completed := { store with
          attempts := store.attempts.set input.attemptId { attempt with status := .completed }
          activeAttemptByKey := store.activeAttemptByKey.erase attempt.key }
        if input.outcome = .succeeded ∨ input.outcome = .outcomeUnknown then
          { completed with
            cooldownByKey := store.cooldownByKey.set attempt.key (now + options.cooldownMs) }
        else completed

/-! ## What the cleanup does -/

/-- What the cleanup leaves of an attempt. -/
def StoredAttempt.swept (now : Int) (attempt : StoredAttempt) : Option StoredAttempt :=
  let attempt := if attempt.IsExpired now then attempt.revoke else attempt
  if attempt.IsForgotten now then none else some attempt

variable {attemptId : Text} {attempt : StoredAttempt}

theorem forgetAttempt_attempts {now : Int} {store : Store} {other : Text} :
    (forgetAttempt now store attemptId attempt).attempts.get? other
      = if other = attemptId ∧ attempt.IsForgotten now then none
        else store.attempts.get? other := by
  unfold forgetAttempt
  by_cases hforgotten : attempt.IsForgotten now
  · rw [if_pos hforgotten]
    simp only [get?_erase, hforgotten, and_true]
  · rw [if_neg hforgotten, if_neg fun h => hforgotten h.2]

@[simp] theorem forgetAttempt_active {now : Int} {store : Store} :
    (forgetAttempt now store attemptId attempt).activeAttemptByKey = store.activeAttemptByKey := by
  unfold forgetAttempt
  split <;> rfl

@[simp] theorem forgetAttempt_cooldown {now : Int} {store : Store} :
    (forgetAttempt now store attemptId attempt).cooldownByKey = store.cooldownByKey := by
  unfold forgetAttempt
  split <;> rfl

theorem sweepAttempt_self {now : Int} {store : Store}
    (h : store.attempts.get? attemptId = some attempt) :
    (sweepAttempt now store (attemptId, attempt)).attempts.get? attemptId
      = attempt.swept now := by
  unfold sweepAttempt StoredAttempt.swept
  by_cases hexpired : attempt.IsExpired now
  · simp only [if_pos hexpired, forgetAttempt_attempts, get?_set_self, true_and]
  · simp only [if_neg hexpired, forgetAttempt_attempts, h, true_and]

theorem sweepAttempt_other {now : Int} {store : Store} {other : Text} (h : other ≠ attemptId) :
    (sweepAttempt now store (attemptId, attempt)).attempts.get? other
      = store.attempts.get? other := by
  unfold sweepAttempt
  by_cases hexpired : attempt.IsExpired now
  · simp only [if_pos hexpired, forgetAttempt_attempts, get?_set_ne h, h, false_and, if_false]
  · simp only [if_neg hexpired, forgetAttempt_attempts, h, false_and, if_false]

theorem sweepAttempt_active {now : Int} {store : Store} {entry : Text × StoredAttempt}
    {key : Text} :
    (sweepAttempt now store entry).activeAttemptByKey.get? key
      = if entry.2.IsExpired now ∧ key = entry.2.key then none
        else store.activeAttemptByKey.get? key := by
  obtain ⟨attemptId, attempt⟩ := entry
  unfold sweepAttempt
  by_cases hexpired : attempt.IsExpired now
  · simp only [hexpired, if_true, forgetAttempt_active, get?_erase, true_and]
  · simp only [hexpired, if_false, forgetAttempt_active, false_and]

theorem sweepAttempt_cooldown {now : Int} {store : Store} {entry : Text × StoredAttempt} :
    (sweepAttempt now store entry).cooldownByKey = store.cooldownByKey := by
  obtain ⟨attemptId, attempt⟩ := entry
  unfold sweepAttempt
  dsimp only
  split
  · exact forgetAttempt_cooldown
  · exact forgetAttempt_cooldown

variable {options : Options} {now : Int} {store : Store} {key : Text}

theorem cleanup_attempts (now : Int) (store : Store) (attemptId : Text) :
    (cleanup now store).attempts.get? attemptId
      = (store.attempts.get? attemptId).bind (StoredAttempt.swept now) :=
  @sweep_get? _ _ _ _ Store.attempts (sweepAttempt now) (StoredAttempt.swept now)
    (fun _ _ _ h => sweepAttempt_self h) (fun _ _ _ _ h => sweepAttempt_other h) store attemptId

/-- The key of an expired attempt has no active attempt any more. -/
theorem foldl_sweepAttempt_active {entries : List (Text × StoredAttempt)} {store : Store} :
    (entries.foldl (sweepAttempt now) store).activeAttemptByKey.get? key
      = if ∃ entry ∈ entries, entry.2.IsExpired now ∧ key = entry.2.key then none
        else store.activeAttemptByKey.get? key := by
  induction entries generalizing store with
  | nil => exact (if_neg fun ⟨_, hmem, _⟩ => absurd hmem List.not_mem_nil).symm
  | cons entry rest ih =>
      rw [List.foldl_cons, ih, sweepAttempt_active]
      simp only [List.exists_mem_cons_iff]
      by_cases hrest : ∃ entry ∈ rest, entry.2.IsExpired now ∧ key = entry.2.key
      · rw [if_pos hrest, if_pos (Or.inr hrest)]
      · simp only [hrest, or_false, if_false]

theorem cleanup_active : (cleanup now store).activeAttemptByKey.get? key = some attemptId
      ↔ store.activeAttemptByKey.get? key = some attemptId
        ∧ ∀ expiredId attempt, store.attempts.get? expiredId = some attempt →
          attempt.IsExpired now → key ≠ attempt.key := by
  have hloop := @foldl_sweepAttempt_active now key store.attempts.entries store
  show (store.attempts.entries.foldl (sweepAttempt now) store).activeAttemptByKey.get? key
    = some attemptId ↔ _
  rw [hloop]
  split
  next hexpired =>
    obtain ⟨⟨expiredId, attempt⟩, hmem, hexpired, hkey⟩ := hexpired
    refine iff_of_false (fun h => (by cases h)) fun h => ?_
    exact h.2 expiredId attempt (mem_entries.mp hmem) hexpired hkey
  next hnone =>
    refine (and_iff_left fun expiredId attempt hget hexpired hkey => hnone ?_).symm
    exact ⟨(expiredId, attempt), mem_entries.mpr hget, hexpired, hkey⟩

theorem foldl_sweepAttempt_cooldown {entries : List (Text × StoredAttempt)} {store : Store} :
    (entries.foldl (sweepAttempt now) store).cooldownByKey = store.cooldownByKey := by
  induction entries generalizing store with
  | nil => rfl
  | cons entry rest ih => rw [List.foldl_cons, ih, sweepAttempt_cooldown]

theorem cleanup_cooldown (now : Int) (store : Store) (key : Text) :
    (cleanup now store).cooldownByKey.get? key
      = (store.cooldownByKey.get? key).bind fun cooldownUntil =>
          if cooldownUntil ≤ now then none else some cooldownUntil := by
  have hsweep := @sweep_get? _ _ _ _ id (sweepCooldown now)
    (fun cooldownUntil => if cooldownUntil ≤ now then none else some cooldownUntil)
    (fun s k v h => by
      show (if v ≤ now then s.erase k else s).get? k = _
      split
      · exact get?_erase_self s k
      · exact h)
    (fun s k v other h => by
      show (if v ≤ now then s.erase k else s).get? other = _
      split
      · exact get?_erase_ne h
      · rfl)
    store.cooldownByKey key
  unfold cleanup
  simp only [foldl_sweepAttempt_cooldown]
  exact hsweep

end SendAttemptStore
