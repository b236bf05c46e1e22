import Eky.Fallible
import Eky.FileSlots
import Eky.InstalledBuild

/-! # The cache of installer packages

    `localUpdatePackageCache.ts`: directories that each hold a package, its manifest
    and the metadata of the slot.  What is modelled is what the update of an
    installed build needs: the validation of a slot, the rotation after an accepted
    update, its reversal before a rollback, and the registration of a package. -/

/-- `LocalUpdateExpectedPackageIdentity`; a manifest says as much. -/
structure ExpectedPackageIdentity extends PackageIdentity where
  appVersion : String
  deriving DecidableEq

/-- `toExpectedIdentity` -/
def toExpectedIdentity (appVersion : String) (identity : PackageIdentity) :
    ExpectedPackageIdentity :=
  ⟨identity, appVersion⟩

/-- `LocalUpdateCacheSlotRole` -/
inductive CacheSlotRole
  | current
  | candidate
  | previous
  deriving DecidableEq

/-- The role as the metadata spell it. -/
def roleText : CacheSlotRole → String
  | .current => "current"
  | .candidate => "candidate"
  | .previous => "previous"

/-- `LocalUpdateCacheMetadata`, without the time of writing. -/
structure CacheMetadata where
  identity : ExpectedPackageIdentity
  role : CacheSlotRole
  deriving DecidableEq

/-- The identity that is read out of an installer. -/
structure WindowsInstallerIdentity where
  productCode : String
  productVersion : String
  upgradeCode : String
  deriving DecidableEq

/-- What is found in the bytes of a package. -/
structure InstallerPackage where
  sha256 : String
  installer : WindowsInstallerIdentity
  deriving DecidableEq

/-! ## Files and directories -/

/-- A file takes up space, whether or not anything can be read from it. -/
structure CacheFile (α : Type) where
  size : Nat
  content : Option α
  deriving DecidableEq

/-- A file that is being written: `none` is all of it, and `some n` its first bytes. -/
def CacheFile.written {α : Type} (file : CacheFile α) : Option Nat → CacheFile α
  | none => file
  | some n => if n < file.size then ⟨n, none⟩ else file

/-- A directory with the three files of a package, as far as they are there. -/
structure PackageDirectory where
  metadata : Option (CacheFile CacheMetadata)
  manifest : Option (CacheFile ExpectedPackageIdentity)
  package : Option (CacheFile InstallerPackage)
  deriving DecidableEq

/-- The sizes of the files, as `readdir` and `lstat` give them. -/
def PackageDirectory.fileSizes (directory : PackageDirectory) : List Nat :=
  (directory.metadata.map (·.size)).toList ++ (directory.manifest.map (·.size)).toList ++
    (directory.package.map (·.size)).toList

/-- What the files of a directory take together. -/
def PackageDirectory.size (directory : PackageDirectory) : Nat := directory.fileSizes.sum

/-- The directories in the cache root, by their names; `staging` is the last one that
    `mkdtemp` has made. -/
inductive CacheEntry
  | slot (role : CacheSlotRole)
  | currentRepairNext
  | currentRepairBackup
  | rollbackCandidateNext
  | staging
  deriving DecidableEq

/-- The slot of the package that is installed. -/
abbrev CacheEntry.current : CacheEntry := .slot .current
/-- The slot of the package to be installed next. -/
abbrev CacheEntry.candidate : CacheEntry := .slot .candidate
/-- The slot of the package that was installed before. -/
abbrev CacheEntry.previous : CacheEntry := .slot .previous

/-- Every name. -/
def CacheEntry.all : List CacheEntry :=
  [.current, .candidate, .previous, .currentRepairNext, .currentRepairBackup,
    .rollbackCandidateNext, .staging]

/-- The cache root.  What `mkdtemp` had made for earlier calls stays there under a name
    that no other call uses. -/
structure PackageCache where
  directories : CacheEntry → Option PackageDirectory
  abandoned : List PackageDirectory

instance : CoeFun PackageCache fun _ => CacheEntry → Option PackageDirectory :=
  ⟨PackageCache.directories⟩

/-- A cache in which no call has left a directory of its own behind. -/
def PackageCache.ofDirectories (directories : CacheEntry → Option PackageDirectory) :
    PackageCache :=
  ⟨directories, []⟩

/-- One directory is put in place, or removed. -/
def PackageCache.set (cache : PackageCache) (entry : CacheEntry)
    (directory : Option PackageDirectory) : PackageCache where
  directories := fun other => if other = entry then directory else cache other
  abandoned := cache.abandoned

@[simp] theorem PackageCache.set_self (cache : PackageCache) (entry : CacheEntry)
    (directory : Option PackageDirectory) : cache.set entry directory entry = directory :=
  if_pos rfl

@[simp] theorem PackageCache.set_other (cache : PackageCache) {entry other : CacheEntry}
    (directory : Option PackageDirectory) (h : other ≠ entry) :
    cache.set entry directory other = cache other :=
  if_neg h

@[simp] theorem PackageCache.set_abandoned (cache : PackageCache) (entry : CacheEntry)
    (directory : Option PackageDirectory) : (cache.set entry directory).abandoned =
      cache.abandoned := rfl

/-- Two caches with the same directories are the same. -/
theorem PackageCache.eq_of_directories {cache other : PackageCache}
    (hdirectories : ∀ entry, cache entry = other entry)
    (habandoned : cache.abandoned = other.abandoned) : cache = other := by
  obtain ⟨directories, abandoned⟩ := cache
  obtain ⟨directories', abandoned'⟩ := other
  obtain rfl : directories = directories' := funext hdirectories
  obtain rfl : abandoned = abandoned' := habandoned
  rfl

/-- `LocalUpdatePackageCacheError`: one text for everything that goes wrong. -/
inductive LocalUpdatePackageCacheError
  | notStoredSafely
  deriving DecidableEq

/-- A program of `LocalUpdatePackageCache`. -/
abbrev CacheProgram (α : Type) : Type :=
  Program PackageCache Fate LocalUpdatePackageCacheError α

namespace PackageCache

/-! ## Directories -/

/-- An operation in one part, whose failure is the one error of the cache. -/
def attemptCache {α : Type}
    (perform : PackageCache → Except LocalUpdatePackageCacheError (α × PackageCache)) :
    CacheProgram α :=
  attempt .notStoredSafely perform

/-- `ensureCacheRoot` and `syncDirectory`, which leave the directories as they are. -/
def housekeeping : CacheProgram Unit := attemptNothing .notStoredSafely

/-- `pathExists` -/
def pathExists (entry : CacheEntry) : CacheProgram Bool :=
  attemptCache fun cache => .ok ((cache entry).isSome, cache)

/-- `assertSlotDirectory`; whatever has one of the names is a directory here. -/
def assertSlotDirectory (entry : CacheEntry) : CacheProgram Unit :=
  attemptCache fun cache =>
    if (cache entry).isSome then .ok ((), cache) else .error .notStoredSafely

/-- A directory does not replace another one. -/
def rename (source destination : CacheEntry) : CacheProgram Unit :=
  attemptCache fun cache =>
    match cache source, cache destination with
    | some directory, none =>
      .ok ((), (cache.set destination (some directory)).set source none)
    | _, _ => .error .notStoredSafely

/-- What is left of a directory when its removal was not completed: each bit of `n`
    stands for a file that is gone. -/
def partly (n : Nat) (directory : PackageDirectory) : PackageDirectory where
  metadata := if n.testBit 0 then none else directory.metadata
  manifest := if n.testBit 1 then none else directory.manifest
  package := if n.testBit 2 then none else directory.package

/-- `rm` with `recursive`. -/
def removeFiles (entry : CacheEntry) : CacheProgram Unit :=
  attemptParts .notStoredSafely fun fate cache =>
    match fate.ending, fate.progress with
    | .completes, _ => ((), cache.set entry none)
    | _, none => ((), cache.set entry none)
    | _, some n => ((), cache.set entry ((cache entry).map (partly n)))

/-- `removeOwnedDirectory` -/
def removeOwnedDirectory (entry : CacheEntry) : CacheProgram Unit := do
  assertSlotDirectory entry
  removeFiles entry

/-- `removeOwnedDirectoryIfPresent` -/
def removeOwnedDirectoryIfPresent (entry : CacheEntry) : CacheProgram Unit := do
  if ← pathExists entry then removeOwnedDirectory entry

/-! ## Validation -/

section Validation

variable (releaseInfo : DesktopReleaseInfo) (createExpectedProductCode : String → String)

/-- `assertSharedIdentity`: the installer is one of this application, and the one of
    the manifest. -/
def hasSharedIdentity (manifest : ExpectedPackageIdentity) (installer : WindowsInstallerIdentity) :
    Bool :=
  installer.productCode = createExpectedProductCode manifest.msiProductVersion &&
    installer.productVersion = manifest.msiProductVersion &&
    installer.upgradeCode = releaseInfo.upgradeCode

/-- `assertCurrentRelease` -/
def isCurrentRelease (manifest : ExpectedPackageIdentity) : Bool :=
  manifest.appVersion = releaseInfo.appVersion &&
    manifest.buildRevision = releaseInfo.buildRevision &&
    manifest.msiProductVersion = releaseInfo.msiProductVersion

/-- A package of this size is the one that its manifest describes. -/
def packageMatches (manifest : ExpectedPackageIdentity) (size : Nat)
    (package : InstallerPackage) : Bool :=
  package.sha256 = manifest.packageSha256 && size = manifest.packageSize &&
    hasSharedIdentity releaseInfo createExpectedProductCode manifest package.installer

/-- The manifest of a directory whose three files belong together, and the role that
    the metadata give it. -/
def readDirectory (directory : PackageDirectory) :
    Option (ExpectedPackageIdentity × CacheSlotRole) := do
  let metadata ← directory.metadata.bind (·.content)
  let manifest ← directory.manifest.bind (·.content)
  let packageFile ← directory.package
  let package ← packageFile.content
  if metadata.identity = manifest ∧
      packageMatches releaseInfo createExpectedProductCode manifest packageFile.size package then
    some (manifest, metadata.role)
  else none

/-- `validateSlot` for the role `current`. -/
def validateSlot (entry : CacheEntry) : CacheProgram Unit :=
  attemptCache fun cache =>
    match (cache entry).bind (readDirectory releaseInfo createExpectedProductCode) with
    | some (manifest, role) =>
      if role = .current ∧ isCurrentRelease releaseInfo manifest then .ok ((), cache)
      else .error .notStoredSafely
    | none => .error .notStoredSafely

/-- The directory holds the expected package in one of the roles. -/
def Holds (cache : PackageCache) (entry : CacheEntry) (expected : ExpectedPackageIdentity)
    (roles : List CacheSlotRole) : Prop :=
  ∃ role ∈ roles, (cache entry).bind (readDirectory releaseInfo createExpectedProductCode) =
    some (expected, role)

instance (cache : PackageCache) (entry : CacheEntry) (expected : ExpectedPackageIdentity)
    (roles : List CacheSlotRole) :
    Decidable (Holds releaseInfo createExpectedProductCode cache entry expected roles) :=
  inferInstanceAs (Decidable (∃ role ∈ roles, _))

/-- `validateJournalSlot` -/
def validateJournalSlot (entry : CacheEntry) (expected : ExpectedPackageIdentity)
    (roles : List CacheSlotRole) : CacheProgram Unit :=
  attemptCache fun cache =>
    if Holds releaseInfo createExpectedProductCode cache entry expected roles then .ok ((), cache)
    else .error .notStoredSafely

/-- `slotMatchesIdentity` -/
def slotMatchesIdentity (entry : CacheEntry) (expected : ExpectedPackageIdentity)
    (roles : List CacheSlotRole) : CacheProgram Bool := do
  if ← pathExists entry then
    tryCatch
      (do
        validateJournalSlot releaseInfo createExpectedProductCode entry expected roles
        pure true)
      fun _ => pure false
  else pure false

/-- `JSON.stringify(metadata)` and the newline, without the time: neither a version nor
    a digest has a character to escape, and `packageFilename` is made of the version. -/
def metadataText (metadata : CacheMetadata) : String :=
  let identity := metadata.identity
  "\x7b\"appVersion\":\"" ++ identity.appVersion ++
    "\",\"buildRevision\":\"" ++ identity.buildRevision ++
    "\",\"createdAt\":\"\",\"msiProductVersion\":\"" ++ identity.msiProductVersion ++
    "\",\"packageFilename\":\"Eky-" ++ identity.appVersion ++
    "-x64.msi\",\"packageSha256\":\"" ++ identity.packageSha256 ++
    "\",\"packageSize\":" ++ toString identity.packageSize ++
    ",\"role\":\"" ++ roleText metadata.role ++ "\",\"schemaVersion\":1\x7d\n"

/-- The length of `toISOString` in the years to come. -/
def timestampBytes : Nat := 24

/-- The file that `writeMetadata` leaves. -/
def metadataFile (metadata : CacheMetadata) : CacheFile CacheMetadata :=
  ⟨(metadataText metadata).utf8ByteSize + timestampBytes, some metadata⟩

/-- `writeMetadata`, from the file that is written aside to the one that replaces the
    old one, is one step here. -/
def writeMetadata (entry : CacheEntry) (manifest : ExpectedPackageIdentity)
    (role : CacheSlotRole) : CacheProgram Unit :=
  attemptCache fun cache =>
    match cache entry with
    | some directory =>
      .ok ((), cache.set entry
        (some { directory with metadata := some (metadataFile ⟨manifest, role⟩) }))
    | none => .error .notStoredSafely

/-- `revalidateJournalPackage` -/
def revalidateJournalPackage (expected : ExpectedPackageIdentity) (role : CacheSlotRole) :
    CacheProgram Unit := do
  housekeeping
  validateJournalSlot releaseInfo createExpectedProductCode (.slot role) expected [role]

/-! ## Rotation -/

/-- Making room for the old package: an older previous one is removed. -/
def moveCurrentAside (currentIdentity candidateIdentity : ExpectedPackageIdentity)
    (previousExists : Bool) : CacheProgram Unit := do
  validateJournalSlot releaseInfo createExpectedProductCode .current currentIdentity [.current]
  validateJournalSlot releaseInfo createExpectedProductCode .candidate candidateIdentity
    [.candidate]
  if previousExists then do
    assertSlotDirectory .previous
    removeFiles .previous
    housekeeping
  rename .current .previous
  housekeeping

/-- `promoteAcceptedCandidate`: the candidate becomes the current package, and the
    current one the previous. -/
def promoteAcceptedCandidate (candidateIdentity currentIdentity : ExpectedPackageIdentity) :
    CacheProgram Unit := do
  housekeeping
  let currentExists ← pathExists .current
  let candidateExists ← pathExists .candidate
  let previousExists ← pathExists .previous
  if currentExists && candidateExists then
    moveCurrentAside releaseInfo createExpectedProductCode currentIdentity candidateIdentity
      previousExists
  else if currentExists || !candidateExists || !previousExists then do
    if !(currentExists && previousExists && !candidateExists) then throw .notStoredSafely
  if ← pathExists .candidate then do
    validateJournalSlot releaseInfo createExpectedProductCode .previous currentIdentity
      [.current, .previous]
    validateJournalSlot releaseInfo createExpectedProductCode .candidate candidateIdentity
      [.candidate]
    rename .candidate .current
    housekeeping
  validateJournalSlot releaseInfo createExpectedProductCode .current candidateIdentity
    [.candidate, .current]
  validateJournalSlot releaseInfo createExpectedProductCode .previous currentIdentity
    [.current, .previous]
  writeMetadata .current candidateIdentity .current
  writeMetadata .previous currentIdentity .previous
  housekeeping
  validateJournalSlot releaseInfo createExpectedProductCode .current candidateIdentity [.current]
  validateJournalSlot releaseInfo createExpectedProductCode .previous currentIdentity [.previous]

/-! ## Reversal -/

/-- `resumeInterruptedRollbackNormalization`: the renames that a reversal had still to
    make. -/
def resumeInterruptedRollbackNormalization : CacheProgram Unit := do
  if ← pathExists .rollbackCandidateNext then do
    assertSlotDirectory .rollbackCandidateNext
    if !(← pathExists .current) then do
      if !(← pathExists .previous) then throw .notStoredSafely
      rename .previous .current
      housekeeping
    if ← pathExists .candidate then throw .notStoredSafely
    rename .rollbackCandidateNext .candidate
    housekeeping

/-- The packages change places, if they still have to. -/
def rotateBack (currentIsRollbackTarget currentIsFailedCandidate candidateIsFailedCandidate
    previousIsRollbackTarget : Bool) : CacheProgram Unit := do
  if currentIsRollbackTarget && candidateIsFailedCandidate then do
    if ← pathExists .previous then do
      if !previousIsRollbackTarget then throw .notStoredSafely
      removeOwnedDirectory .previous
      housekeeping
  else if currentIsFailedCandidate && previousIsRollbackTarget then do
    if ← pathExists .candidate then throw .notStoredSafely
    rename .current .rollbackCandidateNext
    housekeeping
    rename .previous .current
    housekeeping
    rename .rollbackCandidateNext .candidate
    housekeeping
  else throw .notStoredSafely

/-- `normalizeRolledBackPackages`: the old package is the current one again, and the
    failed one the candidate. -/
def normalizeRolledBackPackages (candidateIdentity currentIdentity : ExpectedPackageIdentity) :
    CacheProgram Unit := do
  housekeeping
  resumeInterruptedRollbackNormalization
  let currentIsRollbackTarget ← slotMatchesIdentity releaseInfo createExpectedProductCode
    .current currentIdentity [.current, .previous]
  let currentIsFailedCandidate ← slotMatchesIdentity releaseInfo createExpectedProductCode
    .current candidateIdentity [.candidate, .current]
  let candidateIsFailedCandidate ← slotMatchesIdentity releaseInfo createExpectedProductCode
    .candidate candidateIdentity [.candidate, .current]
  let previousIsRollbackTarget ← slotMatchesIdentity releaseInfo createExpectedProductCode
    .previous currentIdentity [.current, .previous]
  rotateBack currentIsRollbackTarget currentIsFailedCandidate candidateIsFailedCandidate
    previousIsRollbackTarget
  validateJournalSlot releaseInfo createExpectedProductCode .current currentIdentity
    [.current, .previous]
  validateJournalSlot releaseInfo createExpectedProductCode .candidate candidateIdentity
    [.candidate, .current]
  writeMetadata .current currentIdentity .current
  writeMetadata .candidate candidateIdentity .candidate
  housekeeping
  removeOwnedDirectoryIfPresent .previous
  removeOwnedDirectoryIfPresent .rollbackCandidateNext
  housekeeping
  validateJournalSlot releaseInfo createExpectedProductCode .current currentIdentity [.current]

/-! ## Registration -/

/-- `UPDATE_PACKAGE_MAX_BYTES` -/
def updatePackageMaxBytes : Nat := 512 * 1024 * 1024

/-- `UPDATE_PACKAGE_MANIFEST_MAX_BYTES` -/
def updatePackageManifestMaxBytes : Nat := 64 * 1024

/-- `metadataMaxBytes` -/
def metadataMaxBytes : Nat := 16 * 1024

/-- `freeSpaceReserveBytes` -/
def freeSpaceReserveBytes : Nat := 8 * 1024 * 1024

/-- `LOCAL_UPDATE_CACHE_TOTAL_MAX_BYTES` -/
def localUpdateCacheTotalMaxBytes : Nat :=
  3 * updatePackageMaxBytes + 4 * updatePackageManifestMaxBytes

/-- The manifest that was selected and the package beside it. -/
structure PackageSource where
  manifest : ExpectedPackageIdentity
  manifestSize : Nat
  package : InstallerPackage
  packageSize : Nat
  deriving DecidableEq

/-- The bounds of `parseUpdatePackageManifestBytes` on the text and on what it says. -/
def PackageSource.fits (source : PackageSource) : Bool :=
  1 ≤ source.manifestSize && source.manifestSize ≤ updatePackageManifestMaxBytes &&
    1 ≤ source.manifest.packageSize && source.manifest.packageSize ≤ updatePackageMaxBytes

/-- What a source is checked for: its size, that manifest and package belong together,
    and that it is the exact package that a journal names, or one of the running release. -/
def sourceIsTrusted (expectedIdentity : Option ExpectedPackageIdentity) (source : PackageSource) :
    Bool :=
  (source.fits && packageMatches releaseInfo createExpectedProductCode source.manifest
      source.packageSize source.package) &&
    match expectedIdentity with
    | some expected => expected = source.manifest
    | none => isCurrentRelease releaseInfo source.manifest

/-- `readAndVerifySource` -/
def readAndVerifySource (expectedIdentity : Option ExpectedPackageIdentity)
    (source : PackageSource) : CacheProgram Unit :=
  attemptCache fun cache =>
    if sourceIsTrusted releaseInfo createExpectedProductCode expectedIdentity source then
      .ok ((), cache)
    else .error .notStoredSafely

/-- `validateSlot`, or `validateJournalSlot` if the package is given. -/
def validateRegistered (expectedIdentity : Option ExpectedPackageIdentity) (entry : CacheEntry) :
    CacheProgram Unit :=
  match expectedIdentity with
  | none => validateSlot releaseInfo createExpectedProductCode entry
  | some expected =>
    validateJournalSlot releaseInfo createExpectedProductCode entry expected [.current]

/-- A file of a directory that is being filled.  An operation that does not complete
    may have created no file, or one with the first bytes. -/
def writeInto (entry : CacheEntry) (write : Option Nat → PackageDirectory → PackageDirectory) :
    CacheProgram Unit :=
  attemptParts .notStoredSafely fun fate cache =>
    if fate.ending = .completes then ((), cache.set entry ((cache entry).map (write none)))
    else match fate.progress with
      | none => ((), cache.set entry ((cache entry).map (write none)))
      | some 0 => ((), cache)
      | some (n + 1) => ((), cache.set entry ((cache entry).map (write (some n))))

/-- `writeVerifiedSourceToStaging` -/
def writeVerifiedSourceToStaging (expectedIdentity : Option ExpectedPackageIdentity)
    (source : PackageSource) : CacheProgram Unit := do
  writeInto .staging fun bytes directory =>
    let file : CacheFile _ := ⟨source.manifestSize, some source.manifest⟩
    { directory with manifest := some (file.written bytes) }
  writeInto .staging fun bytes directory =>
    let file : CacheFile _ := ⟨source.packageSize, some source.package⟩
    { directory with package := some (file.written bytes) }
  -- The source is looked at once more, and has not changed.
  housekeeping
  -- `writeMetadata`: there is none to replace, and the one that is written aside is read
  -- in its place once it is complete.
  writeInto .staging fun bytes directory =>
    let file := metadataFile ⟨source.manifest, .current⟩
    { directory with metadata := some (file.written bytes) }
  validateRegistered releaseInfo createExpectedProductCode expectedIdentity .staging

/-- `recoverInterruptedCurrentRepair`: the renames and the removal that a registration
    had still to make, or that take it back. -/
def recoverInterruptedCurrentRepair : CacheProgram Unit := do
  let currentExists ← pathExists .current
  let nextExists ← pathExists .currentRepairNext
  let backupExists ← pathExists .currentRepairBackup
  if nextExists then do
    validateSlot releaseInfo createExpectedProductCode .currentRepairNext
    if currentExists && !backupExists then do
      assertSlotDirectory .current
      rename .current .currentRepairBackup
    else if currentExists then throw .notStoredSafely
    rename .currentRepairNext .current
    validateSlot releaseInfo createExpectedProductCode .current
    removeOwnedDirectoryIfPresent .currentRepairBackup
    housekeeping
  else if !currentExists && backupExists then do
    assertSlotDirectory .currentRepairBackup
    rename .currentRepairBackup .current
    housekeeping
  else if currentExists && backupExists then do
    validateSlot releaseInfo createExpectedProductCode .current
    removeOwnedDirectory .currentRepairBackup
    housekeeping

/-- The loop of `readCacheSize`: the sum is bounded after each entry. -/
def addSize (total bytes : Nat) : Except LocalUpdatePackageCacheError Nat := do
  Fallible.throwIf (localUpdateCacheTotalMaxBytes < total + bytes) .notStoredSafely
  pure (total + bytes)

/-- `readCacheSize` of one of the directories. -/
def readDirectorySize (directory : PackageDirectory) : Except LocalUpdatePackageCacheError Nat :=
  directory.fileSizes.foldlM addSize 0

/-- Every directory of the cache root, those of earlier calls among them. -/
def contained (cache : PackageCache) : List PackageDirectory :=
  CacheEntry.all.filterMap cache ++ cache.abandoned

/-- What all directories take together. -/
def size (cache : PackageCache) : Nat := (cache.contained.map (·.size)).sum

/-- `readCacheSize` of the cache root. -/
def readCacheSize (cache : PackageCache) : Except LocalUpdatePackageCacheError Nat :=
  cache.contained.foldlM (fun total directory => do addSize total (← readDirectorySize directory)) 0

/-- The checks of `assertRepairCapacity`, given what `statfs` answers. -/
def checkRepairCapacity (availableBytes packageSize : Nat) (cache : PackageCache) :
    Except LocalUpdatePackageCacheError Unit := do
  let usedBytes ← readCacheSize cache
  let requiredBytes := packageSize + updatePackageManifestMaxBytes + metadataMaxBytes
  let repairMaximumBytes := localUpdateCacheTotalMaxBytes + updatePackageMaxBytes +
    updatePackageManifestMaxBytes + metadataMaxBytes
  Fallible.throwIf (repairMaximumBytes < usedBytes + requiredBytes) .notStoredSafely
  Fallible.throwIf (availableBytes < requiredBytes + freeSpaceReserveBytes) .notStoredSafely

/-- `assertRepairCapacity` -/
def assertRepairCapacity (availableBytes packageSize : Nat) : CacheProgram Unit :=
  attemptCache fun cache => do
    checkRepairCapacity availableBytes packageSize cache
    pure ((), cache)

/-- `mkdtemp`: a directory with a new name; one that an earlier call has left keeps its
    own. -/
def createStaging : CacheProgram Unit :=
  attemptCache fun cache =>
    .ok ((), { cache with abandoned := (cache .staging).toList ++ cache.abandoned }.set .staging
      (some ⟨none, none, none⟩))

/-- The variables that the handler of `replaceCurrentRegistration` looks at. -/
structure Replacement where
  previousMoved : Bool
  nextInstalled : Bool
  deriving DecidableEq

/-- The last step of the handler, whose errors are caught. -/
def restoreBackup : CacheProgram Unit := do
  if ← pathExists .currentRepairBackup then do
    Program.ignoreError (rename .currentRepairBackup .current)
    Program.ignoreError housekeeping

/-- The handler, given what had been done before the error. -/
def undoReplacement {α : Type} (done : Replacement) : CacheProgram α := do
  removeOwnedDirectoryIfPresent .staging
  removeOwnedDirectoryIfPresent .currentRepairNext
  if done.nextInstalled then removeOwnedDirectoryIfPresent .current
  if done.previousMoved then restoreBackup
  throw .notStoredSafely

/-- A part of the replacement, undone together with what came before if it fails. -/
def undone {α : Type} (done : Replacement) (m : CacheProgram α) : CacheProgram α :=
  tryCatch m fun _ => undoReplacement done

/-- The package is copied into a directory beside the one that it replaces. -/
def prepareNext (expectedIdentity : Option ExpectedPackageIdentity) (source : PackageSource) :
    CacheProgram Unit :=
  undone ⟨false, false⟩ do
    writeVerifiedSourceToStaging releaseInfo createExpectedProductCode expectedIdentity source
    rename .staging .currentRepairNext
    housekeeping

/-- The old directory is set aside, if there is one. -/
def setCurrentAside : CacheProgram Bool := do
  let currentExists ← undone ⟨false, false⟩ (pathExists .current)
  if currentExists then do
    undone ⟨false, false⟩ do
      assertSlotDirectory .current
      rename .current .currentRepairBackup
    undone ⟨true, false⟩ housekeeping
    pure true
  else pure false

/-- The new directory is put in place; the answer is `previousMoved`. -/
def installNext (expectedIdentity : Option ExpectedPackageIdentity) : CacheProgram Bool := do
  let previousMoved ← setCurrentAside
  undone ⟨previousMoved, false⟩ (rename .currentRepairNext .current)
  undone ⟨previousMoved, true⟩ do
    housekeeping
    validateRegistered releaseInfo createExpectedProductCode expectedIdentity .current
    -- `removeOwnedDirectory` looks at the directory before it removes it.
    if previousMoved then assertSlotDirectory .currentRepairBackup
  pure previousMoved

/-- `replaceCurrentRegistration` until the old directory is being removed. -/
def installRegistration (availableBytes : Nat) (expectedIdentity : Option ExpectedPackageIdentity)
    (source : PackageSource) : CacheProgram Bool := do
  readAndVerifySource releaseInfo createExpectedProductCode expectedIdentity source
  housekeeping
  recoverInterruptedCurrentRepair releaseInfo createExpectedProductCode
  assertRepairCapacity availableBytes source.manifest.packageSize
  createStaging
  prepareNext releaseInfo createExpectedProductCode expectedIdentity source
  installNext releaseInfo createExpectedProductCode expectedIdentity

/-- `replaceCurrentRegistration` without the flush at its end. -/
def exchangeRegistration (availableBytes : Nat)
    (expectedIdentity : Option ExpectedPackageIdentity) (source : PackageSource) :
    CacheProgram Bool := do
  let previousMoved ← installRegistration releaseInfo createExpectedProductCode availableBytes
    expectedIdentity source
  if previousMoved then do
    undone ⟨true, true⟩ (removeFiles .currentRepairBackup)
    pure true
  else pure false

/-- `replaceCurrentRegistration` -/
def replaceCurrentRegistration (availableBytes : Nat)
    (expectedIdentity : Option ExpectedPackageIdentity) (source : PackageSource) :
    CacheProgram Unit := do
  let previousMoved ← exchangeRegistration releaseInfo createExpectedProductCode availableBytes
    expectedIdentity source
  if previousMoved then undone ⟨true, true⟩ housekeeping

/-- `repairCurrentRegistration` -/
def repairCurrentRegistration (availableBytes : Nat) (source : PackageSource) :
    CacheProgram Unit :=
  replaceCurrentRegistration releaseInfo createExpectedProductCode availableBytes none source

/-- `registerExactRollbackPackage` -/
def registerExactRollbackPackage (availableBytes : Nat)
    (expectedIdentity : ExpectedPackageIdentity) (source : PackageSource) : CacheProgram Unit :=
  replaceCurrentRegistration releaseInfo createExpectedProductCode availableBytes
    (some expectedIdentity) source

end Validation

end PackageCache
