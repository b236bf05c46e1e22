import Eky.PackageCache

/-! # The package cache, seen from its contents

    Whoever uses the cache, sees of a directory no more than `contents`: a package in
    a role, or nothing that can be used.  The operations are described in these terms
    here, for runs that nothing disturbs. -/

namespace PackageCache

open Program

variable {release : DesktopReleaseInfo} {code : String → String}
  {cache : PackageCache} {entry other : CacheEntry} {expected : ExpectedPackageIdentity}
  {role : CacheSlotRole} {roles : List CacheSlotRole}

/-- The package of a directory whose files belong together, with its role. -/
def contents (release : DesktopReleaseInfo) (code : String → String)
    (cache : PackageCache) (entry : CacheEntry) :
    Option (ExpectedPackageIdentity × CacheSlotRole) :=
  (cache entry).bind (readDirectory release code)

/-- A directory as the registration of a package leaves it, with a manifest as long as it
    may be. -/
def packageDirectory (release : DesktopReleaseInfo)
    (code : String → String) (identity : ExpectedPackageIdentity)
    (role : CacheSlotRole) : PackageDirectory where
  metadata := some (metadataFile ⟨identity, role⟩)
  manifest := some ⟨updatePackageManifestMaxBytes, some identity⟩
  package := some ⟨identity.packageSize, some ⟨identity.packageSha256,
    ⟨code identity.msiProductVersion, identity.msiProductVersion,
      release.upgradeCode⟩⟩⟩

theorem readDirectory_packageDirectory (identity : ExpectedPackageIdentity) :
    readDirectory release code
      (packageDirectory release code identity role) =
        some (identity, role) := by
  simp [readDirectory, packageDirectory, metadataFile, packageMatches, hasSharedIdentity]

theorem holds_of_contents (h : contents release code cache entry =
    some (expected, role)) (hrole : role ∈ roles) :
    Holds release code cache entry expected roles :=
  ⟨role, hrole, h⟩

theorem not_holds_of_absent (h : cache entry = none) :
    ¬ Holds release code cache entry expected roles := by
  rintro ⟨role, _, hcontents⟩
  rw [h] at hcontents
  cases hcontents

theorem isSome_of_contents {found : ExpectedPackageIdentity × CacheSlotRole}
    (h : contents release code cache entry = some found) :
    (cache entry).isSome := by
  cases hentry : cache entry with
  | none =>
      rw [contents, hentry] at h
      cases h
  | some directory => rfl

@[simp] theorem contents_set_self (directory : Option PackageDirectory) :
    contents release code (cache.set entry directory) entry =
      directory.bind (readDirectory release code) := by
  rw [contents, set_self]

@[simp] theorem contents_set_other (directory : Option PackageDirectory) (h : other ≠ entry) :
    contents release code (cache.set entry directory) other =
      contents release code cache other := by
  rw [contents, set_other _ _ h, contents]

variable {directory : PackageDirectory}

/-- Metadata that are written anew say the role. -/
theorem readDirectory_writeMetadata {old : CacheSlotRole}
    (h : readDirectory release code directory = some (expected, old)) :
    readDirectory release code
      { directory with metadata := some (metadataFile ⟨expected, role⟩) } =
        some (expected, role) := by
  simp only [readDirectory, Option.bind_eq_bind, Option.bind_eq_some_iff] at h
  obtain ⟨metadata, -, manifest, hmanifest, packageFile, hpackageFile, package, hpackage, h⟩ := h
  split at h
  · rename_i hmatches
    cases h
    simp only [readDirectory, Option.bind_eq_bind, Option.bind_eq_some_iff]
    exact ⟨⟨expected, role⟩, ⟨_, rfl, rfl⟩, expected, hmanifest, packageFile, hpackageFile,
      package, hpackage, if_pos ⟨rfl, hmatches.2⟩⟩
  · cases h

/-! ## Undisturbed operations -/

theorem quietly_housekeeping : Quietly housekeeping cache (.returned ()) cache :=
  quietly_attemptNothing

theorem quietly_pathExists :
    Quietly (pathExists entry) cache (.returned (cache entry).isSome) cache := by
  rw [pathExists, attemptCache]
  exact quietly_attempt rfl

theorem quietly_assertSlotDirectory (h : (cache entry).isSome) :
    Quietly (assertSlotDirectory entry) cache (.returned ()) cache := by
  rw [assertSlotDirectory, attemptCache]
  exact quietly_attempt (if_pos h)

theorem quietly_removeFiles :
    Quietly (removeFiles entry) cache (.returned ()) (cache.set entry none) := by
  rw [removeFiles]
  exact quietly_attemptParts

theorem quietly_validateJournalSlot
    (h : Holds release code cache entry expected roles) :
    Quietly (validateJournalSlot release code entry expected roles) cache
      (.returned ()) cache :=
  quietly_attempt (if_pos h)

theorem quietly_validateJournalSlot_refused
    (h : ¬ Holds release code cache entry expected roles) :
    Quietly (validateJournalSlot release code entry expected roles) cache
      (.threw .notStoredSafely) cache :=
  quietly_attempt_refused (if_neg h)

theorem quietly_revalidateJournalPackage
    (h : contents release code cache (.slot role) =
      some (expected, role)) :
    Quietly (revalidateJournalPackage release code expected role) cache
      (.returned ()) cache :=
  quietly_bind quietly_housekeeping
    (quietly_validateJournalSlot (holds_of_contents h List.mem_cons_self))

theorem quietly_slotMatchesIdentity :
    Quietly (slotMatchesIdentity release code entry expected roles) cache
      (.returned (decide (Holds release code cache entry expected roles)))
      cache := by
  refine quietly_bind quietly_pathExists ?_
  cases hentry : cache entry with
  | none =>
      rw [decide_eq_false (not_holds_of_absent hentry)]
      exact quietly_pure
  | some directory =>
      by_cases hholds : Holds release code cache entry expected roles
      · rw [decide_eq_true hholds]
        exact quietly_tryCatch (quietly_bind (quietly_validateJournalSlot hholds) quietly_pure)
      · rw [decide_eq_false hholds]
        exact quietly_catch (quietly_bind_threw (quietly_validateJournalSlot_refused hholds))
          quietly_pure

theorem quietly_writeMetadata (h : cache entry = some directory) :
    Quietly (writeMetadata entry expected role) cache (.returned ())
      (cache.set entry
        (some { directory with metadata := some (metadataFile ⟨expected, role⟩) })) := by
  refine quietly_attempt ?_
  rw [h]

theorem quietly_rename {source destination : CacheEntry} (hsource : cache source = some directory)
    (hdestination : cache destination = none) :
    Quietly (rename source destination) cache (.returned ())
      ((cache.set destination (some directory)).set source none) := by
  refine quietly_attempt ?_
  rw [hsource, hdestination]

theorem quietly_removeOwnedDirectoryIfPresent :
    Quietly (removeOwnedDirectoryIfPresent entry) cache (.returned ())
      (if (cache entry).isSome then cache.set entry none else cache) := by
  refine quietly_bind quietly_pathExists ?_
  cases hentry : cache entry with
  | none => exact quietly_pure
  | some directory =>
      rw [if_pos (Option.isSome_some)]
      refine quietly_bind (quietly_assertSlotDirectory ?_) quietly_removeFiles
      rw [hentry]
      rfl

theorem quietly_removeOwnedDirectoryIfPresent_absent (h : cache entry = none) :
    Quietly (removeOwnedDirectoryIfPresent entry) cache (.returned ()) cache := by
  refine quietly_bind quietly_pathExists ?_
  rw [h]
  exact quietly_pure

/-- The packages of an update that was not yet rotated, and nothing else: the reversal
    writes the metadata anew, and that is all. -/
theorem quietly_normalizeRolledBackPackages {current candidate : ExpectedPackageIdentity}
    (hcurrent : contents release code cache .current =
      some (current, .current))
    (hcandidate : contents release code cache .candidate =
      some (candidate, .candidate))
    (hprevious : cache .previous = none) (hnext : cache .rollbackCandidateNext = none) :
    ∃ t, Quietly (normalizeRolledBackPackages release code candidate
      current) cache (.returned ()) t := by
  obtain ⟨currentDirectory, hcurrentDirectory⟩ :=
    Option.isSome_iff_exists.mp (isSome_of_contents hcurrent)
  obtain ⟨candidateDirectory, hcandidateDirectory⟩ :=
    Option.isSome_iff_exists.mp (isSome_of_contents hcandidate)
  have htarget : Holds release code cache .current current
      [.current, .previous] := holds_of_contents hcurrent List.mem_cons_self
  have hfailed : Holds release code cache .candidate candidate
      [.candidate, .current] := holds_of_contents hcandidate List.mem_cons_self
  have hresume : Quietly resumeInterruptedRollbackNormalization cache (.returned ()) cache := by
    refine quietly_bind quietly_pathExists ?_
    rw [hnext]
    exact quietly_pure
  have hrotate : ∀ failed previous, Quietly (rotateBack true failed true previous) cache
      (.returned ()) cache := by
    intro failed previous
    refine quietly_bind quietly_pathExists ?_
    rw [hprevious]
    exact quietly_pure
  have hread : readDirectory release code currentDirectory =
      some (current, .current) := by
    rwa [contents, hcurrentDirectory] at hcurrent
  let written := cache.set .current (some { currentDirectory with
    metadata := some (metadataFile ⟨current, .current⟩) })
  let settled := written.set .candidate (some { candidateDirectory with
    metadata := some (metadataFile ⟨candidate, .candidate⟩) })
  have hcandidateWritten : written .candidate = some candidateDirectory := by
    simp [written, hcandidateDirectory]
  have hkept : contents release code settled .current =
      some (current, .current) := by
    simpa [settled, written] using (readDirectory_writeMetadata hread :
      readDirectory release code _ = some (current, .current))
  have hpreviousKept : settled .previous = none := by
    simp [settled, written, hprevious]
  have hnextKept : settled .rollbackCandidateNext = none := by
    simp [settled, written, hnext]
  refine ⟨settled, quietly_bind quietly_housekeeping (quietly_bind hresume ?_)⟩
  refine quietly_bind quietly_slotMatchesIdentity (quietly_bind quietly_slotMatchesIdentity
    (quietly_bind quietly_slotMatchesIdentity (quietly_bind quietly_slotMatchesIdentity ?_)))
  rw [decide_eq_true htarget, decide_eq_true hfailed]
  refine quietly_bind (hrotate _ _) (quietly_bind (quietly_validateJournalSlot htarget)
    (quietly_bind (quietly_validateJournalSlot hfailed) ?_))
  refine quietly_bind (quietly_writeMetadata hcurrentDirectory)
    (quietly_bind (quietly_writeMetadata hcandidateWritten) (quietly_bind quietly_housekeeping ?_))
  refine quietly_bind (quietly_removeOwnedDirectoryIfPresent_absent hpreviousKept)
    (quietly_bind (quietly_removeOwnedDirectoryIfPresent_absent hnextKept) ?_)
  exact quietly_bind quietly_housekeeping
    (quietly_validateJournalSlot (holds_of_contents hkept List.mem_cons_self))

end PackageCache
