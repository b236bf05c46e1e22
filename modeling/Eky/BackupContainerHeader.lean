import Eky.BackupEntry

/-! # The header of a backup container

    The 64 bytes in front of the ciphertext.  Every byte of them is decided by the
    decoded fields, so a header that is accepted is the encoding of what it says. -/

namespace ProfileBackup

open Fallible Buffers

/-- `EKYBKP01` -/
def backupContainerMagic : Buffer := [0x45, 0x4B, 0x59, 0x42, 0x4B, 0x50, 0x30, 0x31]

/-- Version of the container format. -/
def backupContainerVersion : Nat := 1

/-- Bytes of the header. -/
def backupContainerHeaderLength : Nat := 64

/-- Id of the one cipher profile. -/
def backupCipherProfileId : Nat := 1

/-- Id of the one key derivation profile. -/
def backupKdfProfileId : Nat := 1

/-- Bytes of the salt. -/
def backupSaltLength : Nat := 16

/-- Bytes of the nonce. -/
def backupNonceLength : Nat := 12

/-- The fields of a header that are not fixed by the format. -/
structure BackupContainerHeader where
  cipherProfileId : Nat
  ciphertextLength : Int
  containerVersion : Nat
  kdfProfileId : Nat
  nonce : Buffer
  salt : Buffer
  deriving DecidableEq

/-- The parameters of scrypt. -/
structure BackupKdfProfile where
  blockSize : Nat
  cost : Nat
  id : Nat
  keyLength : Nat
  maxmem : Nat
  parallelization : Nat
  deriving DecidableEq

/-- The profile that every backup is written with. -/
def portableBackupKdfProfile : BackupKdfProfile where
  blockSize := 8
  cost := 131072
  id := 1
  keyLength := 32
  maxmem := 256 * 1024 * 1024
  parallelization := 1

/-- The profile of an id, if it is known. -/
def getBackupKdfProfile (profileId : Nat) : Option BackupKdfProfile :=
  if profileId = portableBackupKdfProfile.id then some portableBackupKdfProfile else none

/-- The one error of this file. -/
def headerError : String := "BACKUP_CONTAINER_HEADER_INVALID"

/-- What a header must satisfy, before it is written and after it is read. -/
def validateHeaderFields (input : BackupContainerHeader) : Except String Unit :=
  throwIf (input.containerVersion ≠ backupContainerVersion
      ∨ input.cipherProfileId ≠ backupCipherProfileId
      ∨ input.kdfProfileId ≠ backupKdfProfileId
      ∨ input.salt.length ≠ backupSaltLength
      ∨ input.nonce.length ≠ backupNonceLength
      ∨ input.ciphertextLength ≤ 0
      ∨ input.ciphertextLength > maximumBackupCiphertextBytes)
    headerError

/-- The 64 bytes of a valid header. -/
def encodeBackupContainerHeader (input : BackupContainerHeader) : Except String Buffer := do
  validateHeaderFields input
  pure (backupContainerMagic ++ (uintBE 2 input.containerVersion
    ++ (uintBE 2 backupContainerHeaderLength ++ (uintBE 2 input.cipherProfileId
    ++ (uintBE 2 input.kdfProfileId ++ (input.salt ++ (input.nonce
    ++ (uintBE 8 input.ciphertextLength.toNat ++ List.replicate 12 0))))))))

/-- Reads a header back: length, magic, reserved bytes and the fields. -/
def decodeBackupContainerHeader (header : Buffer) : Except String BackupContainerHeader := do
  throwIf (header.length ≠ backupContainerHeaderLength
      ∨ slice header 0 8 ≠ backupContainerMagic)
    headerError
  let containerVersion := readUIntBE (slice header 8 2)
  let headerLength := readUIntBE (slice header 10 2)
  let cipherProfileId := readUIntBE (slice header 12 2)
  let kdfProfileId := readUIntBE (slice header 14 2)
  let reserved := header.drop 52
  throwIf (containerVersion ≠ backupContainerVersion
      ∨ headerLength ≠ backupContainerHeaderLength
      ∨ cipherProfileId ≠ backupCipherProfileId
      ∨ kdfProfileId ≠ backupKdfProfileId
      ∨ getBackupKdfProfile kdfProfileId = none
      ∨ reserved.any (· ≠ 0))
    headerError
  let decoded : BackupContainerHeader := {
    cipherProfileId
    ciphertextLength := readUIntBE (slice header 44 8)
    containerVersion, kdfProfileId
    nonce := slice header 32 12
    salt := slice header 16 16 }
  validateHeaderFields decoded
  pure decoded

/-- **THE HEADER IS CANONICAL**: an accepted header is the encoding of its fields. -/
theorem encode_decodeBackupContainerHeader {header : Buffer} {decoded : BackupContainerHeader}
    (h : decodeBackupContainerHeader header = .ok decoded) :
    encodeBackupContainerHeader decoded = .ok header := by
  simp only [decodeBackupContainerHeader, bind_eq_ok, throwIf_eq_ok, exists_const,
    pure_eq_ok, not_or, Decidable.not_not] at h
  obtain ⟨⟨hlength, hmagic⟩, ⟨hversion, hheaderLength, hcipher, hkdf, _, hreserved⟩,
    _, hvalid, rfl⟩ := h
  have hlength' : header.length = 64 := hlength
  -- the fields from the first byte to the last
  have hsplit : header = slice header 0 8 ++ (slice header 8 2 ++ (slice header 10 2
      ++ (slice header 12 2 ++ (slice header 14 2 ++ (slice header 16 16
      ++ (slice header 32 12 ++ (slice header 44 8 ++ header.drop 52))))))) := by
    rw [← drop_eq_slice_append, ← drop_eq_slice_append, ← drop_eq_slice_append,
      ← drop_eq_slice_append, ← drop_eq_slice_append, ← drop_eq_slice_append,
      ← drop_eq_slice_append, ← drop_eq_slice_append]
    rfl
  have hzeros : header.drop 52 = List.replicate 12 0 := by
    refine List.eq_replicate_iff.mpr ⟨?_, fun byte hbyte => ?_⟩
    · rw [List.length_drop, hlength']
    · by_contra hne
      exact hreserved (List.any_eq_true.mpr ⟨byte, hbyte, decide_eq_true hne⟩)
  have hheaderBytes : uintBE 2 backupContainerHeaderLength = slice header 10 2 := by
    rw [← hheaderLength]
    exact uintBE_slice (by omega)
  rw [encodeBackupContainerHeader, bind_eq_ok]
  refine ⟨(), hvalid, ?_⟩
  rw [pure_eq_ok]
  show backupContainerMagic ++ (uintBE 2 (readUIntBE (slice header 8 2))
    ++ (uintBE 2 backupContainerHeaderLength ++ (uintBE 2 (readUIntBE (slice header 12 2))
    ++ (uintBE 2 (readUIntBE (slice header 14 2)) ++ (slice header 16 16
    ++ (slice header 32 12 ++ (uintBE 8 (readUIntBE (slice header 44 8))
    ++ List.replicate 12 0))))))) = header
  rw [← hmagic, hheaderBytes, uintBE_slice (by omega), uintBE_slice (by omega),
    uintBE_slice (by omega), uintBE_slice (by omega), ← hzeros]
  exact hsplit.symm

end ProfileBackup
