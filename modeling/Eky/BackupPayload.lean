import Eky.BackupManifest
import Mathlib.Data.List.Sort

/-! # The payload of a backup — writing and reading it

    `prepareBackupPayload` sorts the source entries, forms the manifest and looks at
    every source file; `createPayload` then emits the payload and reads the files a
    second time.  `readDecryptedBackupPayload` takes a payload apart again. -/

namespace ProfileBackup

open Fallible Buffers

/-! ## Source files -/

/-- What `stat` says about a file, and what is in it. -/
structure SourceFile where
  isFile : Bool
  isSymbolicLink : Bool
  nlink : Nat
  dev : Nat
  ino : Nat
  mtimeNs : Int
  ctimeNs : Int
  realPath : String
  content : Buffer
  deriving DecidableEq

/-- An entry and the file it is read from. -/
structure BackupPayloadSourceEntry extends BackupContainerEntryDescriptor where
  sourcePath : String
  deriving DecidableEq

/-- The fields of a manifest that the caller gives. -/
structure ManifestFields where
  appVersion : String
  createdAtEpochMilliseconds : Int
  migrationChainIdentity : String
  profileId : String
  deriving DecidableEq

/-- What the format takes from its surroundings: the digest, the order and the case
    folding of texts, and the comparison of two paths of the platform. -/
structure Environment where
  sha256 : Buffer → String
  localeCompare : String → String → Int
  toLowerCase : String → String
  pathsAreEqual : String → String → Bool

variable (env : Environment)

/-- The path of the manifest. -/
def manifestLogicalPath : String := "manifest.bin"

/-- The text of an entry type. -/
def typeName : BackupContainerEntryType → String
  | .manifest => "manifest"
  | .database => "database"
  | .artifactCatalog => "artifactCatalog"
  | .businessArtifact => "businessArtifact"

/-- The order of the entries: by path, then by type. -/
def compareEntries (first second : BackupPayloadSourceEntry) : Int :=
  let byPath := env.localeCompare first.logicalPath second.logicalPath
  if byPath ≠ 0 then byPath
  else env.localeCompare (typeName first.type) (typeName second.type)

/-- The entries in their order. -/
def sortEntries (entries : List BackupPayloadSourceEntry) : List BackupPayloadSourceEntry :=
  entries.insertionSort fun first second => compareEntries env first second ≤ 0

/-! ## Writing -/

/-- `inspectSourceEntry`: the file is the one that the entry describes. -/
def inspectSourceEntry (files : String → Option SourceFile)
    (entry : BackupPayloadSourceEntry) : Except String SourceFile := do
  let file ← orThrow (files entry.sourcePath) "ENOENT"
  throwIf (¬ file.isFile ∨ file.isSymbolicLink ∨ file.nlink ≠ 1) "BACKUP_SOURCE_INVALID"
  throwIf (¬ env.pathsAreEqual file.realPath entry.sourcePath) "BACKUP_SOURCE_INVALID"
  throwIf ((file.content.length : Int) ≠ entry.contentLength) "BACKUP_SOURCE_CHANGED"
  throwIf (env.sha256 file.content ≠ entry.sha256) "BACKUP_SOURCE_CHANGED"
  pure file

/-- Bytes of a payload with these entries. -/
def calculatePayloadLength (entries : List BackupContainerEntryDescriptor) :
    Except String Int := do
  let total := entries.foldl (fun (sum : Int) entry => sum + backupEntryHeaderLength
    + (utf8 entry.logicalPath).length + entry.contentLength) backupPayloadHeaderLength
  throwIf (total ≤ 0 ∨ total > maximumBackupCiphertextBytes) "BACKUP_PAYLOAD_LENGTH_INVALID"
  pure total

/-- What is written. -/
structure PreparedBackupPayload where
  manifest : BackupManifest
  entries : List BackupPayloadSourceEntry
  manifestContent : Buffer
  manifestDescriptor : BackupContainerEntryDescriptor
  sourceIdentities : List SourceFile
  plaintextLength : Int
  deriving DecidableEq

/-- Checks and orders the entries and makes the manifest. -/
def prepareBackupPayload (files : String → Option SourceFile)
    (inputEntries : List BackupPayloadSourceEntry) (fields : ManifestFields) :
    Except String PreparedBackupPayload := do
  throwIf (inputEntries.length < 1 ∨ inputEntries.length ≥ maximumBackupEntryCount)
    "BACKUP_PAYLOAD_INVALID"
  let entries := sortEntries env inputEntries
  let descriptors := entries.map (·.toBackupContainerEntryDescriptor)
  let manifest : BackupManifest := {
    appVersion := fields.appVersion
    createdAtEpochMilliseconds := fields.createdAtEpochMilliseconds
    entries := descriptors
    migrationChainIdentity := fields.migrationChainIdentity
    profileId := fields.profileId }
  let manifestContent ← encodeBackupManifest env.toLowerCase manifest
  let manifestDescriptor : BackupContainerEntryDescriptor := {
    contentLength := manifestContent.length
    logicalPath := manifestLogicalPath
    sha256 := env.sha256 manifestContent
    type := .manifest }
  assertUniqueBackupEntryPaths env.toLowerCase (manifestDescriptor :: descriptors)
  let sourceIdentities ← entries.mapM (inspectSourceEntry env files)
  let plaintextLength ← calculatePayloadLength (manifestDescriptor :: descriptors)
  pure ⟨manifest, entries, manifestContent, manifestDescriptor, sourceIdentities,
    plaintextLength⟩

/-- `assertSameFileIdentity` -/
def assertSameFileIdentity (expected actual : SourceFile) : Except String Unit :=
  throwIf (¬ actual.isFile ∨ actual.isSymbolicLink ∨ expected.dev ≠ actual.dev
      ∨ expected.ino ≠ actual.ino ∨ expected.nlink ≠ actual.nlink
      ∨ expected.content.length ≠ actual.content.length
      ∨ expected.mtimeNs ≠ actual.mtimeNs ∨ expected.ctimeNs ≠ actual.ctimeNs)
    "BACKUP_SOURCE_CHANGED"

/-- One entry of the payload: header, path, and the content as the file has it now. -/
def emitEntry (files : String → Option SourceFile)
    (source : BackupPayloadSourceEntry × SourceFile) : Except String Buffer := do
  let (entry, expectedIdentity) := source
  let (header, path) ← encodeBackupEntryHeader entry.toBackupContainerEntryDescriptor
  let file ← orThrow (files entry.sourcePath) "ENOENT"
  throwIf ((file.content.length : Int) > entry.contentLength) "BACKUP_SOURCE_CHANGED"
  assertSameFileIdentity expectedIdentity file
  throwIf ((file.content.length : Int) ≠ entry.contentLength
      ∨ env.sha256 file.content ≠ entry.sha256)
    "BACKUP_SOURCE_CHANGED"
  pure (header ++ (path ++ file.content))

/-- Writes header, manifest and entries. -/
def createPayload (files : String → Option SourceFile) (prepared : PreparedBackupPayload) :
    Except String Buffer := do
  let payloadHeader ← encodeBackupPayloadHeader (prepared.entries.length + 1)
  let (header, path) ← encodeBackupEntryHeader prepared.manifestDescriptor
  let records ← (prepared.entries.zip prepared.sourceIdentities).mapM (emitEntry env files)
  pure (payloadHeader ++ (header ++ (path ++ prepared.manifestContent) ++ records.flatten))

/-! ## Reading -/

/-- An entry and where its content stands. -/
structure ParsedBackupContainerEntry extends BackupContainerEntryDescriptor where
  contentOffset : Nat
  deriving DecidableEq

/-- What was read. -/
structure ParsedBackupPayload where
  entries : List ParsedBackupContainerEntry
  manifest : BackupManifest
  deriving DecidableEq

/-- Exactly that many bytes. -/
def readExact (payload : Buffer) (byteLength offset : Nat) : Except String Buffer := do
  let content := slice payload offset byteLength
  throwIf (content.length ≠ byteLength) "BACKUP_PAYLOAD_INVALID"
  pure content

/-- The content has the hash that the header names. -/
def assertHash (content : Buffer) (expectedSha256 : String) : Except String Unit :=
  throwIf (env.sha256 content ≠ expectedSha256) "BACKUP_ENTRY_CHECKSUM_INVALID"

/-- `assertFileRangeHash` -/
def assertFileRangeHash (payload : Buffer) (offset byteLength : Nat)
    (expectedSha256 : String) : Except String Unit := do
  let content ← readExact payload byteLength offset
  assertHash env content expectedSha256

/-- The loop over the entries: what has been read, the manifest, and the offset. -/
structure ReadState where
  entries : List ParsedBackupContainerEntry
  manifest : Option BackupManifest
  offset : Nat

/-- The first entry has to be the manifest, and is read. -/
def readManifestEntry (payload : Buffer) (descriptor : BackupContainerEntryDescriptor)
    (contentOffset : Nat) : Except String BackupManifest := do
  throwIf (descriptor.type ≠ .manifest
      ∨ descriptor.logicalPath ≠ "manifest.bin"
      ∨ descriptor.contentLength > maximumManifestBytes)
    manifestError
  let content ← readExact payload descriptor.contentLength.toNat contentOffset
  assertHash env content descriptor.sha256
  decodeBackupManifest env.toLowerCase content

/-- Any other entry has a content with its digest. -/
def checkContentEntry (payload : Buffer) (descriptor : BackupContainerEntryDescriptor)
    (contentOffset : Nat) : Except String Unit := do
  throwIf (descriptor.type = .manifest) manifestError
  assertFileRangeHash env payload contentOffset descriptor.contentLength.toNat
    descriptor.sha256

/-- The descriptor at an offset and where its content begins. -/
def readDescriptor (payload : Buffer) (offset : Nat) :
    Except String (BackupContainerEntryDescriptor × Nat) := do
  let header ← readExact payload backupEntryHeaderLength offset
  let pathLength := readUIntBE (slice header 4 4)
  throwIf (pathLength < 1 ∨ pathLength > maximumBackupPathBytes) "BACKUP_ENTRY_INVALID"
  let path ← readExact payload pathLength (offset + backupEntryHeaderLength)
  let descriptor ← decodeBackupEntryHeader header path
  let contentOffset := offset + backupEntryHeaderLength + pathLength
  throwIf (contentOffset + descriptor.contentLength.toNat > payload.length)
    "BACKUP_PAYLOAD_INVALID"
  pure (descriptor, contentOffset)

/-- Reads one entry and checks its hash. -/
def readEntry (payload : Buffer) (index : Nat) (state : ReadState) :
    Except String ReadState := do
  let (descriptor, contentOffset) ← readDescriptor payload state.offset
  let entries := state.entries ++ [⟨descriptor, contentOffset⟩]
  let contentEnd := contentOffset + descriptor.contentLength.toNat
  if index = 0 then do
    let manifest ← readManifestEntry env payload descriptor contentOffset
    pure ⟨entries, some manifest, contentEnd⟩
  else do
    checkContentEntry env payload descriptor contentOffset
    pure ⟨entries, state.manifest, contentEnd⟩

/-- The rounds of the loop from `index` on. -/
def readEntries (payload : Buffer) : Nat → Nat → ReadState → Except String ReadState
  | 0, _, state => pure state
  | rounds + 1, index, state => do
      let state ← readEntry env payload index state
      readEntries payload rounds (index + 1) state

/-- The entries stand in their order. -/
def assertDeterministicEntryOrder : List ParsedBackupContainerEntry → Except String Unit
  | previous :: current :: rest => do
      throwIf (env.localeCompare previous.logicalPath current.logicalPath ≥ 0)
        "BACKUP_ENTRY_ORDER_INVALID"
      assertDeterministicEntryOrder (current :: rest)
  | _ => pure ()

/-- The manifest names the entries that follow it. -/
def assertManifestClosure (manifest : BackupManifest)
    (entries : List ParsedBackupContainerEntry) : Except String Unit :=
  throwIf (manifest.entries ≠ entries.map (·.toBackupContainerEntryDescriptor))
    "BACKUP_MANIFEST_CLOSURE_INVALID"

/-- Reads a whole payload. -/
def readDecryptedBackupPayload (payload : Buffer) : Except String ParsedBackupPayload := do
  throwIf (payload.length ≤ 0 ∨ payload.length > maximumBackupCiphertextBytes)
    "BACKUP_PAYLOAD_INVALID"
  let payloadHeader ← readExact payload backupPayloadHeaderLength 0
  let entryCount ← decodeBackupPayloadHeader payloadHeader
  let state ← readEntries env payload entryCount 0 ⟨[], none, backupPayloadHeaderLength⟩
  throwIf (state.offset ≠ payload.length) "BACKUP_PAYLOAD_INVALID"
  let manifest ← orThrow state.manifest "BACKUP_PAYLOAD_INVALID"
  assertUniqueBackupEntryPaths env.toLowerCase
    (state.entries.map (·.toBackupContainerEntryDescriptor))
  assertDeterministicEntryOrder env state.entries.tail
  assertManifestClosure manifest state.entries.tail
  pure ⟨state.entries, manifest⟩

end ProfileBackup
