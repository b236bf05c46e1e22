import Eky.BackupEntry

/-! # The manifest of a backup

    The first entry of a payload is the manifest: a header of 32 bytes, three texts,
    and the headers and paths of all other entries. -/

namespace ProfileBackup

open Fallible Buffers

/-- What the first entry of a backup says of the others. -/
structure BackupManifest where
  appVersion : String
  createdAtEpochMilliseconds : Int
  entries : List BackupContainerEntryDescriptor
  migrationChainIdentity : String
  profileId : String
  deriving DecidableEq

/-- `EKYMNF01` -/
def backupManifestMagic : Buffer := [0x45, 0x4B, 0x59, 0x4D, 0x4E, 0x46, 0x30, 0x31]

/-- Version of the manifest format. -/
def backupManifestVersion : Nat := 1

/-- Bytes of the fixed header. -/
def manifestFixedHeaderLength : Nat := 32

/-- Bytes of an entry's header. -/
def manifestEntryHeaderLength : Nat := 48

/-- The one error of this file. -/
def manifestError : String := "BACKUP_MANIFEST_INVALID"

/-- What a text of the manifest must satisfy. -/
def validateText (value : String) : Except String Unit :=
  throwIf (value = ""
      ∨ (utf8 value).length > maximumManifestTextBytes
      ∨ value.toList.any isControlCharacter)
    manifestError

/-- The bytes of a valid text. -/
def encodeText (value : String) : Except String Buffer := do
  validateText value
  pure (utf8 value)

/-- Reads a text back. -/
def readText (content : Buffer) (offset length : Nat) : Except String String := do
  throwIf (offset + length > content.length) manifestError
  let value ← orThrow (textDecode? (slice content offset length)) manifestError
  validateText value
  pure value

section Collisions

variable (toLowerCase : String → String)

/-- What a manifest must satisfy. -/
def validateBackupManifest (manifest : BackupManifest) : Except String Unit := do
  throwIf (manifest.createdAtEpochMilliseconds ≤ 0
      ∨ manifest.createdAtEpochMilliseconds > maximumSafeInteger
      ∨ manifest.entries.length < 1
      ∨ manifest.entries.length > maximumBackupEntryCount - 1)
    manifestError
  validateText manifest.appVersion
  validateText manifest.profileId
  validateText manifest.migrationChainIdentity
  assertUniqueBackupEntryPaths toLowerCase manifest.entries
  throwIf (manifest.entries.any (·.type = .manifest)) manifestError

/-- The header of the manifest: magic, version, its own length at 10, the time at 12,
    the lengths of the texts at 20, 22 and 24, zeros at 26, and the number of entries
    at 28. -/
def manifestHeader (manifest : BackupManifest)
    (appVersion profileId migrationChainIdentity : Buffer) : Buffer :=
  backupManifestMagic ++ (uintBE 2 backupManifestVersion
    ++ (uintBE 2 manifestFixedHeaderLength
    ++ (uintBE 8 manifest.createdAtEpochMilliseconds.toNat
    ++ (uintBE 2 appVersion.length ++ (uintBE 2 profileId.length
    ++ (uintBE 2 migrationChainIdentity.length ++ ([0, 0]
    ++ uintBE 4 manifest.entries.length)))))))

/-- The bytes of a valid manifest. -/
def encodeBackupManifest (manifest : BackupManifest) : Except String Buffer := do
  validateBackupManifest toLowerCase manifest
  let appVersion ← encodeText manifest.appVersion
  let profileId ← encodeText manifest.profileId
  let migrationChainIdentity ← encodeText manifest.migrationChainIdentity
  let entryParts ← manifest.entries.mapM encodeBackupEntryHeader
  let entries := entryParts.flatMap fun (header, path) => header ++ path
  throwIf (manifestFixedHeaderLength + appVersion.length + profileId.length
      + migrationChainIdentity.length + entries.length > maximumManifestBytes)
    manifestError
  pure (manifestHeader manifest appVersion profileId migrationChainIdentity
    ++ (appVersion ++ (profileId ++ (migrationChainIdentity ++ entries))))

/-- The entries of the manifest from `offset` on, and where they end. -/
def readManifestEntries (content : Buffer) :
    Nat → Nat → Except String (List BackupContainerEntryDescriptor × Nat)
  | 0, offset => pure ([], offset)
  | count + 1, offset => do
      let headerEnd := offset + manifestEntryHeaderLength
      throwIf (headerEnd > content.length) manifestError
      let header := slice content offset manifestEntryHeaderLength
      let pathLength := readUIntBE (slice header 4 4)
      throwIf (pathLength < 1 ∨ pathLength > maximumBackupPathBytes) manifestError
      let pathEnd := headerEnd + pathLength
      throwIf (pathEnd > content.length) manifestError
      let entry ← decodeBackupEntryHeader header (slice content headerEnd pathLength)
      let (rest, last) ← readManifestEntries content count pathEnd
      pure (entry :: rest, last)

/-- Reads a manifest back. -/
def decodeBackupManifest (content : Buffer) : Except String BackupManifest := do
  throwIf (content.length < manifestFixedHeaderLength
      ∨ content.length > maximumManifestBytes
      ∨ slice content 0 8 ≠ backupManifestMagic
      ∨ readUIntBE (slice content 8 2) ≠ backupManifestVersion
      ∨ readUIntBE (slice content 10 2) ≠ manifestFixedHeaderLength
      ∨ readUIntBE (slice content 26 2) ≠ 0)
    manifestError
  let appVersionLength := readUIntBE (slice content 20 2)
  let profileIdLength := readUIntBE (slice content 22 2)
  let migrationIdentityLength := readUIntBE (slice content 24 2)
  let entryCount := readUIntBE (slice content 28 4)
  throwIf (entryCount < 1 ∨ entryCount > maximumBackupEntryCount - 1
      ∨ appVersionLength < 1 ∨ profileIdLength < 1 ∨ migrationIdentityLength < 1
      ∨ appVersionLength > maximumManifestTextBytes
      ∨ profileIdLength > maximumManifestTextBytes
      ∨ migrationIdentityLength > maximumManifestTextBytes)
    manifestError
  let profileIdOffset := manifestFixedHeaderLength + appVersionLength
  let migrationIdentityOffset := profileIdOffset + profileIdLength
  let appVersion ← readText content manifestFixedHeaderLength appVersionLength
  let profileId ← readText content profileIdOffset profileIdLength
  let migrationChainIdentity ←
    readText content migrationIdentityOffset migrationIdentityLength
  let (entries, offset) ← readManifestEntries content entryCount
    (migrationIdentityOffset + migrationIdentityLength)
  throwIf (offset ≠ content.length) manifestError
  let manifest : BackupManifest := {
    appVersion
    createdAtEpochMilliseconds := readUIntBE (slice content 12 8)
    entries, migrationChainIdentity, profileId }
  validateBackupManifest toLowerCase manifest
  pure manifest

end Collisions

end ProfileBackup
