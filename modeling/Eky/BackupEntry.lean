import Eky.BuildIdentity
import Eky.Buffers
import Eky.Fallible
import Eky.JavaScript

/-! # The entries of a backup payload

    A payload is a header followed by its entries, and an entry is a header of 48
    bytes, the logical path and the content.  The manifest lists the other entries
    with the same headers and paths, without the contents.

    Texts are well-formed here: the check that a path reads back from its own UTF-8
    bytes refuses exactly the texts with a lone surrogate, which `String` has not. -/

namespace ProfileBackup

open Fallible Buffers

/-! ## Constants and limits -/

/-- Bytes of a whole container. -/
def maximumBackupContainerBytes : Nat := 32 * 1024 * 1024 * 1024

/-- Bytes of the ciphertext: the container less header and tag. -/
def maximumBackupCiphertextBytes : Nat := maximumBackupContainerBytes - 64 - 16

/-- Bytes of the content of one entry. -/
def maximumBackupEntryBytes : Nat := 24 * 1024 * 1024 * 1024

/-- Entries of a container. -/
def maximumBackupEntryCount : Nat := 100010

/-- Bytes of a logical path. -/
def maximumBackupPathBytes : Nat := 1024

/-- Bytes of the manifest. -/
def maximumManifestBytes : Nat := 64 * 1024 * 1024

/-- Bytes of one text of the manifest. -/
def maximumManifestTextBytes : Nat := 1024

/-- `EKYPAY01` -/
def backupPayloadMagic : Buffer := [0x45, 0x4B, 0x59, 0x50, 0x41, 0x59, 0x30, 0x31]

/-- Version of the payload format. -/
def backupPayloadVersion : Nat := 1

/-- Bytes of the payload's header. -/
def backupPayloadHeaderLength : Nat := 16

/-- Bytes of an entry's header. -/
def backupEntryHeaderLength : Nat := 48

/-! ## Descriptors -/

/-- What an entry holds. -/
inductive BackupContainerEntryType
  | manifest
  | database
  | artifactCatalog
  | businessArtifact
  deriving DecidableEq

/-- What the header of an entry says. -/
structure BackupContainerEntryDescriptor where
  contentLength : Int
  logicalPath : String
  sha256 : String
  type : BackupContainerEntryType
  deriving DecidableEq

/-- The byte of an entry type. -/
def entryTypeIds : BackupContainerEntryType → Nat
  | .manifest => 1
  | .database => 2
  | .artifactCatalog => 3
  | .businessArtifact => 4

/-- The entry type of a byte. -/
def readEntryType : Nat → Except String BackupContainerEntryType
  | 1 => pure .manifest
  | 2 => pure .database
  | 3 => pure .artifactCatalog
  | 4 => pure .businessArtifact
  | _ => throw "BACKUP_ENTRY_INVALID"

/-- `[\u0000-\u001f\u007f]` -/
def isControlCharacter (c : Char) : Bool := c.toNat < 32 || c.toNat = 127

/-- `^[a-zA-Z]:` -/
def startsWithDrive : List Char → Bool
  | c :: ':' :: _ => c.isAlpha
  | _ => false

/-- Relative, without `.`, `..` and empty segments, backslash, NUL and drive. -/
def isSafeLogicalPath (path : String) : Bool :=
  let segments := splitAt '/' path.toList
  path.toList.head? ≠ some '/' &&
    !path.toList.contains '\\' &&
    !path.toList.contains '\x00' &&
    !startsWithDrive path.toList &&
    !path.toList.any isControlCharacter &&
    segments.all fun segment => segment ≠ [] && segment ≠ ['.'] && segment ≠ ['.', '.']

/-- What a descriptor must satisfy to be written or read. -/
def validateBackupEntryDescriptor (descriptor : BackupContainerEntryDescriptor) :
    Except String Unit :=
  let path := utf8 descriptor.logicalPath
  throwIf (descriptor.contentLength < 0
      ∨ descriptor.contentLength > maximumBackupEntryBytes
      ∨ ¬ isSha256 descriptor.sha256
      ∨ path.length < 1
      ∨ path.length > maximumBackupPathBytes
      ∨ ¬ isSafeLogicalPath descriptor.logicalPath)
    "BACKUP_ENTRY_INVALID"

section Collisions

-- `toLowerCase` follows the case tables of Unicode: any function may stand for it.
variable (toLowerCase : String → String)

/-- Checks one descriptor, whose folded path must be new. -/
def addCaseFoldedPath (caseFoldedPaths : List String)
    (descriptor : BackupContainerEntryDescriptor) : Except String (List String) := do
  validateBackupEntryDescriptor descriptor
  let folded := toLowerCase descriptor.logicalPath
  throwIf (folded ∈ caseFoldedPaths) "BACKUP_ENTRY_PATH_COLLISION"
  pure (folded :: caseFoldedPaths)

/-- No two paths differ by case alone. -/
def assertUniqueBackupEntryPaths (descriptors : List BackupContainerEntryDescriptor) :
    Except String Unit := do
  let _ ← descriptors.foldlM (addCaseFoldedPath toLowerCase) []
  pure ()

end Collisions

/-! ## Headers -/

/-- The 16 bytes before the entries. -/
def encodeBackupPayloadHeader (entryCount : Nat) : Except String Buffer := do
  throwIf (entryCount < 1 ∨ entryCount > maximumBackupEntryCount) "BACKUP_PAYLOAD_INVALID"
  pure (backupPayloadMagic ++ uintBE 2 backupPayloadVersion
    ++ uintBE 2 backupPayloadHeaderLength ++ uintBE 4 entryCount)

/-- Reads the payload's header back: the number of entries. -/
def decodeBackupPayloadHeader (header : Buffer) : Except String Nat := do
  throwIf (header.length ≠ backupPayloadHeaderLength
      ∨ slice header 0 8 ≠ backupPayloadMagic
      ∨ readUIntBE (slice header 8 2) ≠ backupPayloadVersion
      ∨ readUIntBE (slice header 10 2) ≠ backupPayloadHeaderLength)
    "BACKUP_PAYLOAD_INVALID"
  let entryCount := readUIntBE (slice header 12 4)
  throwIf (entryCount < 1 ∨ entryCount > maximumBackupEntryCount) "BACKUP_PAYLOAD_INVALID"
  pure entryCount

/-- The header of an entry: its type at 0, zeros at 1 to 3, the length of the path at
    4, that of the content at 8, and the digest at 16. -/
def entryHeader (descriptor : BackupContainerEntryDescriptor) (path : Buffer) : Buffer :=
  uintBE 1 (entryTypeIds descriptor.type) ++ ([0, 0, 0] ++ (uintBE 4 path.length
    ++ (uintBE 8 descriptor.contentLength.toNat ++ ofHex descriptor.sha256.toList)))

/-- The header of an entry and the bytes of its path. -/
def encodeBackupEntryHeader (descriptor : BackupContainerEntryDescriptor) :
    Except String (Buffer × Buffer) := do
  validateBackupEntryDescriptor descriptor
  let path := utf8 descriptor.logicalPath
  pure (entryHeader descriptor path, path)

/-- Reads an entry's header and path back. -/
def decodeBackupEntryHeader (header path : Buffer) :
    Except String BackupContainerEntryDescriptor := do
  throwIf (header.length ≠ backupEntryHeaderLength
      ∨ readUIntBE (slice header 1 1) ≠ 0
      ∨ readUIntBE (slice header 2 2) ≠ 0
      ∨ readUIntBE (slice header 4 4) ≠ path.length)
    "BACKUP_ENTRY_INVALID"
  let logicalPath ← orThrow (textDecode? path) "BACKUP_ENTRY_INVALID"
  let type ← readEntryType (readUIntBE (slice header 0 1))
  let descriptor : BackupContainerEntryDescriptor := {
    contentLength := readUIntBE (slice header 8 8)
    logicalPath
    sha256 := String.ofList (toHex (slice header 16 32))
    type }
  validateBackupEntryDescriptor descriptor
  pure descriptor

end ProfileBackup
