import Eky.Base64
import Eky.FileSlots
import Eky.Process
import Eky.WorkspaceRegistryBytes

/-! # The file of the mail password

    `encryptedSecretFile.ts` and the requests of `secretBrokerMain.ts`: a ciphertext in an
    envelope, in the file that is current, with a backup and a next file beside it while it is
    replaced.  Every operation on a file may fail before it takes effect, and the process may
    crash before it, in the course of it or after it. -/

namespace EncryptedSecretFile

open Json
open CreditInvoice (textLength)
open WorkspaceRegistry (stringValue isNumberValue exactMembers member)

/-! ## Files -/

/-- Contents of a file. -/
abbrev Text := List Char

/-- The three files of the store. -/
structure Files where
  current : Option Text
  backup : Option Text
  next : Option Text
  deriving DecidableEq

namespace Files

/-- What a slot holds. -/
def get (s : Files) : Slot → Option Text
  | .current => s.current
  | .backup => s.backup
  | .next => s.next

/-- The files with another content in a slot. -/
def set (s : Files) (slot : Slot) (content : Option Text) : Files :=
  match slot with
  | .current => { s with current := content }
  | .backup => { s with backup := content }
  | .next => { s with next := content }

/-- No file. -/
def empty : Files := ⟨none, none, none⟩

/-- The current file alone. -/
def only (content : Text) : Files := ⟨some content, none, none⟩

@[simp] theorem get_current (s : Files) : s.get .current = s.current := rfl
@[simp] theorem get_backup (s : Files) : s.get .backup = s.backup := rfl
@[simp] theorem get_next (s : Files) : s.get .next = s.next := rfl
@[simp] theorem set_current (s : Files) (content : Option Text) :
    s.set .current content = ⟨content, s.backup, s.next⟩ := rfl
@[simp] theorem set_backup (s : Files) (content : Option Text) :
    s.set .backup content = ⟨s.current, content, s.next⟩ := rfl
@[simp] theorem set_next (s : Files) (content : Option Text) :
    s.set .next content = ⟨s.current, s.backup, content⟩ := rfl

/-- Some of the files are gone. -/
def Thinned (s t : Files) : Prop := ∀ slot, t.get slot = none ∨ t.get slot = s.get slot

end Files

/-! ## Operations -/

/-- The calls of the file system and of the protector. -/
inductive Op
  | mkdir
  | lstat (slot : Slot)
  | readFile (slot : Slot)
  | rm (slot : Slot)
  | removeAll
  | openNew (slot : Slot)
  | writeFile (slot : Slot) (text : Text)
  | sync (slot : Slot)
  | close (slot : Slot)
  | chmod (slot : Slot)
  | rename (source target : Slot)
  | encrypt (value : Text)
  deriving DecidableEq

/-- `lstat` answers the size; `removeAll`, three removals at a time, whether none failed. -/
def Answer : Op → Type
  | .lstat _ => Nat
  | .readFile _ => Text
  | .removeAll => Bool
  | .encrypt _ => Bytes
  | _ => Unit

/-- What the code can tell of a file error. -/
inductive FileError
  | notFound
  | other
  deriving DecidableEq

/-- The errors of the broker. -/
inductive SecretBrokerError
  | storageUnavailable
  | payloadInvalid
  | writeFailed
  | removeFailed
  | decryptionFailed
  deriving DecidableEq

/-- An error of a file or of the broker. -/
inductive Failure
  | node (error : FileError)
  | broker (error : SecretBrokerError)
  deriving DecidableEq

/-- `StringProtector`; what a value is encrypted to differs from call to call. -/
structure StringProtector where
  Encrypts : Text → Bytes → Prop
  /-- The value, and whether it is to be encrypted again. -/
  decrypt : Bytes → Option (Text × Bool)

/-- The answer about a file, if it is there. -/
def ofContent {α : Type} (answer : Text → α) : Option Text → Except FileError α
  | none => .error .notFound
  | some content => .ok (answer content)

/-- What a rename leads to. -/
def renamed (s : Files) (source target : Slot) : Except FileError Unit × Files :=
  match s.get source with
  | none => (.error .notFound, s)
  | some content => (.ok (), (s.set source none).set target (some content))

/-- `open` with the flag `wx`. -/
def opened (s : Files) (slot : Slot) : Except FileError Unit × Files :=
  match s.get slot with
  | none => (.ok (), s.set slot (some []))
  | some _ => (.error .other, s)

/-- What a call answers and leaves when it completes. -/
def Completes (protector : StringProtector) :
    (op : Op) → Files → Except FileError (Answer op) → Files → Prop
  | .mkdir, s, answer, t => answer = .ok () ∧ t = s
  | .lstat slot, s, answer, t => answer = ofContent byteLength (s.get slot) ∧ t = s
  | .readFile slot, s, answer, t => answer = ofContent id (s.get slot) ∧ t = s
  | .rm slot, s, answer, t => answer = .ok () ∧ t = s.set slot none
  | .removeAll, _, answer, t => answer = .ok true ∧ t = .empty
  | .openNew slot, s, answer, t => answer = (opened s slot).1 ∧ t = (opened s slot).2
  | .writeFile slot text, s, answer, t => answer = .ok () ∧ t = s.set slot (some text)
  | .sync _, s, answer, t => answer = .ok () ∧ t = s
  | .close _, s, answer, t => answer = .ok () ∧ t = s
  | .chmod _, s, answer, t => answer = .ok () ∧ t = s
  | .rename source target, s, answer, t =>
      answer = (renamed s source target).1 ∧ t = (renamed s source target).2
  | .encrypt value, s, answer, t => (∃ c, answer = .ok c ∧ protector.Encrypts value c) ∧ t = s

/-- Of three removals some have taken place; any other operation has none. -/
def Fails : (op : Op) → Files → Except FileError (Answer op) → Files → Prop
  | .removeAll, s, answer, t => answer = .ok false ∧ s.Thinned t
  | _, s, answer, t => answer = .error .other ∧ t = s

/-- A file that is being written holds any prefix. -/
def Tears (protector : StringProtector) : Op → Files → Files → Prop
  | .removeAll, s, t => s.Thinned t
  | .writeFile slot text, s, t => t = s ∨ ∃ k, t = s.set slot (some (text.take k))
  | op, s, t => t = s ∨ ∃ answer, Completes protector op s answer t

/-- The file system, with failures and torn writes. -/
def environment (protector : StringProtector) : Process.Environment Op Answer FileError Files where
  completes := Completes protector
  fails := Fails
  tears := Tears protector

/-! ## Texts -/

/-- The version of envelope and payload. -/
def expectedVersion : Int := 1

/-- Bytes of a ciphertext. -/
def maximumCiphertextBytes : Nat := 16384

/-- Bytes of a file. -/
def maximumEnvelopeBytes : Nat := 24576

/-- `base64Pattern` -/
def matchesBase64 : Text → Bool
  | [] => true
  | a :: b :: c :: d :: rest =>
      if rest = [] ∧ d = '=' then
        (Base64.value? a).isSome && (Base64.value? b).isSome
          && (c = '=' || (Base64.value? c).isSome)
      else
        (Base64.value? a).isSome && (Base64.value? b).isSome && (Base64.value? c).isSome
          && (Base64.value? d).isSome && matchesBase64 rest
  | _ => false

/-- A property that is set again keeps its place. -/
def setProperty (name : Units) (v : Value) : List (Units × Value) → List (Units × Value)
  | [] => [(name, v)]
  | property :: properties =>
      if property.1 = name then (name, v) :: properties
      else property :: setProperty name v properties

/-- The properties of a parsed object: of members with one name the last counts. -/
def properties (members : List (Units × Value)) : List (Units × Value) :=
  members.foldl (fun found m => setProperty m.1 m.2 found) []

/-- The properties of a record with exactly these keys. -/
def exactProperties (keys : List String) : Value → Option (List (Units × Value))
  | .object members => exactMembers keys (.object (properties members))
  | _ => none

/-- The text of a file. -/
def serializeEnvelope (ciphertext : Bytes) : Text :=
  writeObject [
    ("ciphertext".toList, quote (Base64.encode ciphertext)),
    ("formatVersion".toList, "1".toList)] ++ ['\n']

/-- The bounds on a ciphertext. -/
def Fits (ciphertext : Bytes) : Prop :=
  1 ≤ ciphertext.length ∧ ciphertext.length ≤ maximumCiphertextBytes

instance (ciphertext : Bytes) : Decidable (Fits ciphertext) :=
  inferInstanceAs (Decidable (_ ∧ _))

/-- The ciphertext of canonical base64. -/
def parseCiphertext (encoded : Text) : Option Bytes :=
  if encoded ≠ [] ∧ matchesBase64 encoded then
    match Base64.decode encoded with
    | some ciphertext =>
        if Fits ciphertext ∧ Base64.encode ciphertext = encoded then some ciphertext else none
    | none => none
  else none

/-- The ciphertext of a file's text. -/
def parseEnvelope (contents : Text) : Option Bytes := do
  let value ← parse (utf16 contents)
  let members ← exactProperties ["ciphertext", "formatVersion"] value
  let formatVersion ← member members "formatVersion"
  if isNumberValue expectedVersion formatVersion then
    let encoded ← stringValue (fun _ => true) (← member members "ciphertext")
    parseCiphertext encoded.toList
  else none

/-- `controlCharacterPattern` -/
def isControl (c : Char) : Bool := c.toNat ≤ 0x1f || c.toNat = 0x7f

/-- The text is a company id. -/
def isCompanyId (value : String) : Bool :=
  0 < textLength value && textLength value ≤ 200 && value.toList = JavaScript.trim value.toList
    && !value.toList.any isControl

/-- The text is a secret. -/
def isSecret (value : String) : Bool :=
  0 < textLength value && textLength value ≤ 1024 && byteLength value.toList ≤ 4096
    && !value.toList.any isControl

/-- A company and its secret, both valid. -/
structure SecretPayload where
  companyId : String
  secret : String
  companyId_valid : isCompanyId companyId = true
  secret_valid : isSecret secret = true

/-- The text that is encrypted. -/
def SecretPayload.text (payload : SecretPayload) : Text :=
  writeObject [
    ("companyId".toList, quote payload.companyId.toList),
    ("formatVersion".toList, "1".toList),
    ("secret".toList, quote payload.secret.toList)]

/-- The payload of a decrypted text. -/
def parseSecretPayload (value : Text) : Option SecretPayload := do
  let parsed ← parse (utf16 value)
  let members ← exactProperties ["companyId", "formatVersion", "secret"] parsed
  let formatVersion ← member members "formatVersion"
  if isNumberValue expectedVersion formatVersion then
    let companyId ← stringValue isCompanyId (← member members "companyId")
    let secret ← stringValue isSecret (← member members "secret")
    if h : isCompanyId companyId = true ∧ isSecret secret = true then
      some ⟨companyId, secret, h.1, h.2⟩
    else none
  else none

/-! ## The file -/

/-- A program over the files. -/
abbrev Action := Process Op Answer FileError Failure

/-- A call of the file system. -/
def file (op : Op) : Action (Answer op) := Process.ask Failure.node op

/-- An error of a file that is not there is no error. -/
def absentOrInvalid : Failure → Action (Option Bytes)
  | .node .notFound => pure none
  | .broker error => throw (.broker error)
  | .node .other => throw (.broker .payloadInvalid)

/-- The size of a file that is read. -/
def assertSize (size : Nat) : Action Unit :=
  if size < 1 ∨ size > maximumEnvelopeBytes then throw (.broker .payloadInvalid) else pure ()

/-- The ciphertext in a slot, if there is a file. -/
def readEncryptedFile (slot : Slot) : Action (Option Bytes) :=
  tryCatch (do
    let size ← file (.lstat slot)
    assertSize size
    let contents ← file (.readFile slot)
    let ciphertext ← Process.ofOption (.broker .payloadInvalid) (parseEnvelope contents)
    pure (some ciphertext)) absentOrInvalid

/-- A ciphertext and where it was found. -/
structure EncryptedSecretCandidate where
  ciphertext : Bytes
  slot : Slot
  deriving DecidableEq

/-- The first of the slots that has a file. -/
def firstCandidate : List Slot → Action (Option EncryptedSecretCandidate)
  | [] => pure none
  | slot :: slots => do
      match ← readEncryptedFile slot with
      | some ciphertext => pure (some ⟨ciphertext, slot⟩)
      | none => firstCandidate slots

/-- The first slot that holds a ciphertext. -/
def readCandidate : Action (Option EncryptedSecretCandidate) :=
  firstCandidate [.current, .backup, .next]

/-- The error of the storage. -/
def orUnavailable (m : Action Unit) : Action Unit :=
  tryCatch m fun _ => throw (.broker .storageUnavailable)

/-- Removes the file of a slot. -/
def removeFile (slot : Slot) : Action Unit := orUnavailable (file (.rm slot))

/-- Renames a slot to the current one. -/
def restoreFile (source : Slot) : Action Unit := orUnavailable (file (.rename source .current))

/-- No file is in the slot. -/
def assertAbsent (slot : Slot) : Action Unit := do
  match ← readEncryptedFile slot with
  | some _ => throw (.broker .storageUnavailable)
  | none => pure ()

/-- A candidate whose text was decrypted becomes the only file. -/
def confirm (slot : Slot) : Action Unit :=
  match slot with
  | .current => do
      removeFile .next
      removeFile .backup
  | .backup => do
      assertAbsent .current
      restoreFile .backup
      removeFile .next
  | .next => do
      assertAbsent .current
      assertAbsent .backup
      restoreFile .next

/-- Removes all three files. -/
def remove : Action Unit := do
  let removed : Bool ← file .removeAll
  if removed = true then pure () else throw (.broker .removeFailed)

/-- Writes the new file and closes it. -/
def fillNext (text : Text) : Action Unit :=
  Process.andFinally (do
    file (.writeFile .next text)
    file (.sync .next)) (file (.close .next))

/-- Whether there was a previous file. -/
def movePrevious : Action Bool :=
  tryCatch (do
    file (.rename .current .backup)
    pure true) fun
    | .node .notFound => pure false
    | error => throw error

/-- The new file becomes the current one, or the old one is put back. -/
def moveNext (previousFileMoved : Bool) : Action Unit :=
  tryCatch (file (.rename .next .current)) fun error => do
    if previousFileMoved = true then Process.ignoreError (file (.rename .backup .current))
    else pure ()
    throw error

/-- Writes the new file, sets the old one aside and renames. -/
def replace (text : Text) : Action Unit := do
  file .mkdir
  file (.rm .next)
  file (.rm .backup)
  file (.openNew .next)
  fillNext text
  file (.chmod .next)
  let previousFileMoved ← movePrevious
  moveNext previousFileMoved
  if previousFileMoved = true then file (.rm .backup) else pure ()

/-- `replace`, after which the new file is removed in any case. -/
def write (ciphertext : Bytes) : Action Unit :=
  if Fits ciphertext then
    Process.andFinally
      (tryCatch (replace (serializeEnvelope ciphertext)) fun _ => throw (.broker .writeFailed))
      (Process.ignoreError (file (.rm .next)))
  else throw (.broker .writeFailed)

/-! ## Requests -/

/-- The requests of the broker. -/
inductive SecretBrokerRequest
  | setCompanyEmailSecret (payload : SecretPayload)
  | hasCompanyEmailSecret (companyId : String)
  | readCompanyEmailSecret (companyId : String)
  | removeCompanyEmailSecret (companyId : String)

/-- Its answers. -/
inductive SecretBrokerResult
  | configured (configured : Bool)
  | secret (secret : Option String)
  deriving DecidableEq

/-- The protector's ciphertext of a text. -/
def encrypt (value : Text) : Action Bytes :=
  tryCatch (file (.encrypt value)) fun _ => throw (.broker .storageUnavailable)

/-- Writes the text again, if the protector asks for it. -/
def refresh (value : Text) (shouldReEncrypt : Bool) : Action Unit :=
  if shouldReEncrypt = true then do
    let ciphertext ← encrypt value
    write ciphertext
  else pure ()

/-- A candidate is decrypted and only then confirmed. -/
def confirmed (protector : StringProtector) (candidate : EncryptedSecretCandidate) :
    Action SecretPayload := do
  let decrypted ← Process.ofOption (.broker .decryptionFailed)
    (protector.decrypt candidate.ciphertext)
  let payload ← Process.ofOption (.broker .payloadInvalid) (parseSecretPayload decrypted.1)
  confirm candidate.slot
  refresh decrypted.1 decrypted.2
  pure payload

/-- The stored payload, confirmed. -/
def readStoredPayload (protector : StringProtector) : Action (Option SecretPayload) := do
  match ← readCandidate with
  | none => pure none
  | some candidate => do
      let payload ← confirmed protector candidate
      pure (some payload)

/-- What a company is told about its secret. -/
def secretFor (companyId : String) : Option SecretPayload → Option String
  | some payload => if payload.companyId = companyId then some payload.secret else none
  | none => none

/-- Removes the secret of the company that asks. -/
def removeOwn (belongsToCompany : Bool) : Action Unit :=
  if belongsToCompany = true then remove else pure ()

/-- What the broker does on a request. -/
def executeRequest (protector : StringProtector) :
    SecretBrokerRequest → Action SecretBrokerResult
  | .setCompanyEmailSecret payload => do
      let ciphertext ← encrypt payload.text
      write ciphertext
      pure (.configured true)
  | .hasCompanyEmailSecret companyId => do
      let stored ← readStoredPayload protector
      pure (.configured (secretFor companyId stored).isSome)
  | .readCompanyEmailSecret companyId => do
      let stored ← readStoredPayload protector
      pure (.secret (secretFor companyId stored))
  | .removeCompanyEmailSecret companyId => do
      let stored ← readStoredPayload protector
      removeOwn (secretFor companyId stored).isSome
      pure (.configured false)

end EncryptedSecretFile
