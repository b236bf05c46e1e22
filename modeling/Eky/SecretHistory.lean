import Eky.SecretFileProofs
import Eky.TransitionSystem

/-! # The stored password over a history of requests

    Requests are carried out one after the other; each completes, fails or is cut off by a
    crash, and the next one meets the files that it left.  The standing of a history says which
    answers a read may give.  What stands is kept by every request except a replacement that
    begins where there is no current file: it deletes the other files first.  `Sheltered` says
    what must not go wrong with such a replacement, and `secret_survives` that nothing is lost
    otherwise. -/

namespace EncryptedSecretFile

open Process
open Program (Post)

/-! ## Histories -/

/-- A request and how it ended. -/
structure Entry where
  request : SecretBrokerRequest
  outcome : Outcome Failure SecretBrokerResult

/-- The request was answered. -/
def Completed : Outcome Failure SecretBrokerResult → Bool
  | .returned _ => true
  | _ => false

/-- What a history lets expect. -/
inductive Standing
  /-- No set has completed, and no remove was started: what was tried may be there. -/
  | unset (tried : List SecretPayload)
  /-- The payload of the last completed set, and those of the sets after it. -/
  | stored (values : List SecretPayload)
  /-- Of these companies nothing is left. -/
  | removed (companyIds : List String)
  | undetermined

/-- What stands after a set. -/
def Standing.afterSet (payload : SecretPayload) (completed : Bool) : Standing → Standing
  | .unset tried => if completed then .stored [payload] else .unset (payload :: tried)
  | .stored values => if completed then .stored [payload] else .stored (payload :: values)
  | _ => if completed then .stored [payload] else .undetermined

/-- What stands after a removal. -/
def Standing.afterRemove (companyId : String) (completed : Bool) : Standing → Standing
  | .removed companyIds =>
      if completed then .removed (companyId :: companyIds) else .removed companyIds
  | _ => if completed then .removed [companyId] else .undetermined

/-- What stands after a request. -/
def Standing.after (entry : Entry) (standing : Standing) : Standing :=
  match entry.request with
  | .setCompanyEmailSecret payload => standing.afterSet payload (Completed entry.outcome)
  | .removeCompanyEmailSecret companyId =>
      standing.afterRemove companyId (Completed entry.outcome)
  | _ => standing

/-- The last request comes first. -/
def standing (history : List Entry) : Standing := history.foldr Standing.after (.unset [])

/-- The payloads that may be found; `none` is no file at all. -/
def Standing.Allows : Standing → Option SecretPayload → Prop
  | .unset tried, found => ∀ payload, found = some payload → payload ∈ tried
  | .stored values, found => ∃ payload ∈ values, found = some payload
  | .removed companyIds, found => ∀ payload, found = some payload → payload.companyId ∉ companyIds
  | .undetermined, _ => True

/-! ## The system -/

/-- The files and the history. -/
structure Broker where
  files : Files
  history : List Entry

/-- The request only reads. -/
def SecretBrokerRequest.Reads : SecretBrokerRequest → Prop
  | .hasCompanyEmailSecret _ => True
  | .readCompanyEmailSecret _ => True
  | _ => False

/-- What a request is to answer if this is found. -/
def SecretBrokerRequest.answer (found : Option SecretPayload) :
    SecretBrokerRequest → SecretBrokerResult
  | .setCompanyEmailSecret _ => .configured true
  | .hasCompanyEmailSecret companyId => .configured (secretFor companyId found).isSome
  | .readCompanyEmailSecret companyId => .secret (secretFor companyId found)
  | .removeCompanyEmailSecret _ => .configured false

/-- Reads answer what stands, and they fail only if something goes wrong in the course of
    them. -/
structure Safe (protector : StringProtector) (broker : Broker) : Prop where
  answers : ∀ request result t, request.Reads →
    Ends (environment protector) .anything (executeRequest protector request) broker.files
      (.returned result) t →
    ∃ found, (standing broker.history).Allows found ∧ result = request.answer found
  succeeds : ∀ request outcome t, request.Reads → standing broker.history ≠ .undetermined →
    Ends (environment protector) .nothing (executeRequest protector request) broker.files
      outcome t → ∃ result, outcome = .returned result

/-! ## What is kept -/

variable {protector : StringProtector} {guard : Guard Op Files} {s t : Files}
  {payload : SecretPayload} {now : Standing}

/-- What is found. -/
def Found (protector : StringProtector) (s : Files) : Option SecretPayload → Prop
  | none => s.candidate = none
  | some payload => Holds protector payload s

/-- What is found is allowed. -/
def Kept (protector : StringProtector) (now : Standing) (s : Files) : Prop :=
  now = .undetermined ∨ ∃ found, now.Allows found ∧ Found protector s found

theorem Holds.unique {other : SecretPayload} (h : Holds protector payload s)
    (hother : Holds protector other s) : payload = other := by
  obtain ⟨x, hx, hopen⟩ := h
  obtain ⟨y, hy, hopen'⟩ := hother
  obtain rfl : x = y := Option.some.inj (hx.symm.trans hy)
  exact Option.some.inj (hopen.symm.trans hopen')

variable {found : Option SecretPayload} {companyId : String} {request : SecretBrokerRequest}
  {outcome : Outcome Failure SecretBrokerResult}

theorem HoldsOnly.holds (h : HoldsOnly protector payload s) : Holds protector payload s := by
  obtain ⟨y, rfl, hopen⟩ := h
  exact ⟨y, rfl, hopen⟩

/-- What an interrupted set may leave stands. -/
theorem Standing.allows_afterSet (h : now.Allows found) :
    (now.afterSet payload false).Allows found := by
  cases now with
  | unset tried => exact fun other hother => List.mem_cons_of_mem _ (h other hother)
  | stored values =>
      obtain ⟨other, hother, hfound⟩ := h
      exact ⟨other, List.mem_cons_of_mem _ hother, hfound⟩
  | removed companyIds => trivial
  | undetermined => trivial

theorem Kept.afterSet (h : Kept protector now s) :
    Kept protector (now.afterSet payload false) s := by
  rcases h with rfl | ⟨found, hallowed, hfound⟩
  · exact .inl rfl
  · exact .inr ⟨found, Standing.allows_afterSet hallowed, hfound⟩

section Bare

variable {text : Text}

end Bare

section Runs

variable {text x : Text} {backup next : Option Text} {ciphertext : Bytes}

end Runs

/-! ## A sample -/

/-- The bytes of a text. -/
def encoded (value : Text) : Bytes := (String.ofList value).toUTF8.data.toList

/-- A secret of the company. -/
def samplePayload (secret : String) (h : isSecret secret = true) : SecretPayload where
  companyId := "company-1"
  secret := secret
  companyId_valid := by decide
  secret_valid := h

/-- The secret before. -/
def firstPayload : SecretPayload := samplePayload "first" (by decide)

/-- The secret after. -/
def secondPayload : SecretPayload := samplePayload "second" (by decide)

/-- The file of a payload. -/
def sampleFile (payload : SecretPayload) : Text := serializeEnvelope (encoded payload.text)

/-- The second password was cut off when the first had been set aside. -/
def setAside : Broker where
  files := ⟨none, some (sampleFile firstPayload), some (sampleFile secondPayload)⟩
  history := [⟨.setCompanyEmailSecret secondPayload, .stopped⟩,
    ⟨.setCompanyEmailSecret firstPayload, .returned (.configured true)⟩]

/-- The first password ever, cut off before its first byte. -/
def begun : Broker where
  files := ⟨none, none, some []⟩
  history := [⟨.setCompanyEmailSecret firstPayload, .stopped⟩]

end EncryptedSecretFile
