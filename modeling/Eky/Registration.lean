import Eky.OneFault
import Eky.PackageCacheProofs

/-! # Registering a package again after an interruption

    `replaceCurrentRegistration` puts a directory in the place of another one with
    two renames and a removal.  What a crash leaves behind is for the next call,
    whose `recoverInterruptedCurrentRepair` goes by the release that is running;
    what an error leaves behind is for the handler.  The directories that `mkdtemp` has
    made for calls that crashed are nobody's: they stay, and take up space. -/

namespace PackageCache

open Program

variable {packageSize : Nat}

section Registration

variable {release : DesktopReleaseInfo} {code : String → String}
  {expected : Option ExpectedPackageIdentity} {source : PackageSource}
  {s t : PackageCache} {entry : CacheEntry} {space : Nat}
  {current next backup : Option PackageDirectory} {directory : PackageDirectory}

/-! ## The directories -/

/-- The directory of a package that was registered. -/
def registeredDirectory (source : PackageSource) : PackageDirectory where
  metadata := some (metadataFile ⟨source.manifest, .current⟩)
  manifest := some ⟨source.manifestSize, some source.manifest⟩
  package := some ⟨source.packageSize, some source.package⟩

/-- The directory passes `validateSlot`. -/
def OfRunningRelease (release : DesktopReleaseInfo)
    (code : String → String) (directory : PackageDirectory) : Prop :=
  ∃ manifest, readDirectory release code directory =
    some (manifest, .current) ∧ isCurrentRelease release manifest = true

/-- What the directories of a registration hold. -/
structure Stands (cache : PackageCache) (current next backup : Option PackageDirectory) :
    Prop where
  current : cache .current = current
  next : cache .currentRepairNext = next
  backup : cache .currentRepairBackup = backup

theorem Stands.set_staging (h : Stands s current next backup) :
    Stands (s.set .staging (some directory)) current next backup :=
  ⟨by simpa using h.current, by simpa using h.next, by simpa using h.backup⟩

theorem Stands.next_of_staging (h : Stands s current none none) :
    Stands ((s.set .currentRepairNext (some directory)).set .staging none) current
      (some directory) none :=
  ⟨by simpa using h.current, by simp, by simpa using h.backup⟩

theorem Stands.aside (h : Stands s (some directory) next none) :
    Stands ((s.set .currentRepairBackup (some directory)).set .current none) none next
      (some directory) :=
  ⟨by simp, by simpa using h.next, by simp⟩

theorem Stands.installed (h : Stands s none (some directory) backup) :
    Stands ((s.set .current (some directory)).set .currentRepairNext none) (some directory) none
      backup :=
  ⟨by simp, by simp, by simpa using h.backup⟩

theorem Stands.removed (h : Stands s current next backup) :
    Stands (s.set .currentRepairBackup none) current next none :=
  ⟨by simpa using h.current, by simpa using h.next, by simp⟩

theorem Stands.restored (h : Stands s none none (some directory)) :
    Stands ((s.set .current (some directory)).set .currentRepairBackup none) (some directory) none
      none :=
  ⟨by simp, by simpa using h.next, by simp⟩

theorem set_absent (h : s entry = none) : s.set entry none = s := by
  refine eq_of_directories (fun other => ?_) rfl
  by_cases hother : other = entry
  · rw [hother, set_self, h]
  · rw [set_other _ _ hother]

/-- A new staging directory, beside those of earlier calls. -/
theorem Stands.staged (h : Stands s current next backup) {abandoned : List PackageDirectory} :
    Stands ({ s with abandoned }.set .staging (some directory)) current next backup :=
  ⟨by simpa using h.current, by simpa using h.next, by simpa using h.backup⟩

theorem quietly_removed : Quietly (removeOwnedDirectoryIfPresent entry) s (.returned ())
    (s.set entry none) := by
  have h : Quietly (removeOwnedDirectoryIfPresent entry) s (.returned ()) _ :=
    quietly_removeOwnedDirectoryIfPresent
  cases hentry : s entry with
  | none =>
      rw [hentry] at h
      rwa [set_absent hentry]
  | some directory =>
      rw [hentry] at h
      exact h

/-! ## The handler -/

/-- The directory that was set aside goes back, unless its place is taken. -/
def backupRestored (cache : PackageCache) : PackageCache :=
  match cache .currentRepairBackup, cache .current with
  | some directory, none =>
    (cache.set .current (some directory)).set .currentRepairBackup none
  | _, _ => cache

/-- What the handler makes of the directories. -/
def handled (done : Replacement) (cache : PackageCache) : PackageCache :=
  let cleared := (cache.set .staging none).set .currentRepairNext none
  let emptied := if done.nextInstalled then cleared.set .current none else cleared
  if done.previousMoved then backupRestored emptied else emptied

theorem quietly_restoreBackup : Quietly restoreBackup s (.returned ()) (backupRestored s) := by
  refine quietly_bind quietly_pathExists ?_
  rw [backupRestored]
  cases hbackup : s .currentRepairBackup with
  | none => exact quietly_pure
  | some directory =>
      rw [if_pos (Option.isSome_some)]
      cases hcurrent : s .current with
      | none =>
          exact quietly_bind (quietly_tryCatch (quietly_rename hbackup hcurrent))
            (quietly_tryCatch quietly_housekeeping)
      | some occupied =>
          have hrefused : Quietly (rename .currentRepairBackup .current) s
              (.threw .notStoredSafely) s := quietly_attempt_refused (by rw [hbackup, hcurrent])
          exact quietly_bind (quietly_catch hrefused quietly_pure)
            (quietly_tryCatch quietly_housekeeping)

theorem quietly_undoReplacement {α : Type} (done : Replacement) :
    Quietly (undoReplacement done : CacheProgram α) s (.threw .notStoredSafely)
      (handled done s) := by
  obtain ⟨previousMoved, nextInstalled⟩ := done
  refine quietly_bind quietly_removed (quietly_bind quietly_removed ?_)
  have hrestore : ∀ u : PackageCache,
      Quietly (do
        if previousMoved then restoreBackup
        throw .notStoredSafely : CacheProgram α) u (.threw .notStoredSafely)
        (if previousMoved then backupRestored u else u) := by
    intro u
    cases previousMoved with
    | true => exact quietly_bind quietly_restoreBackup quietly_throw
    | false => exact quietly_throw
  cases nextInstalled with
  | true => exact quietly_bind quietly_removed (hrestore _)
  | false => exact hrestore _

/-- Nothing was moved yet: the old directory is where it was. -/
theorem handled_unmoved : handled ⟨false, false⟩ s .current = s .current := by
  simp [handled]

/-- The old directory was set aside, and its place is empty or is emptied. -/
theorem handled_moved {nextInstalled : Bool} (hcurrent : nextInstalled = true ∨ s .current = none)
    (hbackup : s .currentRepairBackup = some directory) :
    handled ⟨true, nextInstalled⟩ s .current = some directory := by
  cases nextInstalled with
  | true => simp [handled, backupRestored, hbackup]
  | false =>
      have habsent : s .current = none := by simpa using hcurrent
      simp [handled, backupRestored, hbackup, habsent]

/-- The new directory is removed before the handler looks for the old one. -/
theorem handled_removed (hbackup : s .currentRepairBackup = none) :
    handled ⟨true, true⟩ s .current = none := by
  simp [handled, backupRestored, hbackup]

/-! ## The package itself -/

/-- What was checked of a trusted source. -/
theorem trusted_parts
    (htrusted : sourceIsTrusted release code expected source = true) :
    source.manifest.packageSize ≤ updatePackageMaxBytes ∧
      packageMatches release code source.manifest source.packageSize
        source.package = true := by
  have hchecked := (Bool.and_eq_true _ _).mp ((Bool.and_eq_true _ _).mp htrusted).1
  have hfits := (Bool.and_eq_true _ _).mp hchecked.1
  exact ⟨of_decide_eq_true hfits.2, hchecked.2⟩

theorem readDirectory_registered
    (htrusted : sourceIsTrusted release code expected source = true) :
    readDirectory release code (registeredDirectory source) =
      some (source.manifest, .current) := by
  simp [readDirectory, registeredDirectory, metadataFile, (trusted_parts htrusted).2]

/-- A registered directory is one of the running release if its manifest is. -/
theorem ofRunningRelease_registered
    (htrusted : sourceIsTrusted release code expected source = true) :
    OfRunningRelease release code (registeredDirectory source) ↔
      isCurrentRelease release source.manifest = true := by
  rw [OfRunningRelease, readDirectory_registered htrusted]
  constructor
  · rintro ⟨manifest, hread, hrelease⟩
    cases hread
    exact hrelease
  · intro hrelease
    exact ⟨source.manifest, rfl, hrelease⟩

theorem validateSlot_eq (h : s entry = some directory) :
    (OfRunningRelease release code directory →
      Quietly (validateSlot release code entry) s (.returned ()) s) ∧
    (¬ OfRunningRelease release code directory → Quietly (validateSlot release code entry) s
        (.threw .notStoredSafely) s) := by
  constructor
  · rintro ⟨manifest, hread, hrelease⟩
    refine quietly_attempt ?_
    rw [h, Option.bind_some, hread]
    exact if_pos ⟨rfl, hrelease⟩
  · intro hother
    refine quietly_attempt_refused ?_
    rw [h, Option.bind_some]
    cases hread : readDirectory release code directory with
    | none => rfl
    | some found =>
        refine if_neg fun hfound => hother ⟨found.1, ?_, hfound.2⟩
        rw [hread, ← hfound.1]

/-! ## The recovery -/

/-- The leftovers that `recoverInterruptedCurrentRepair` makes something of. -/
def Recoverable (release : DesktopReleaseInfo) (code : String → String)
    (cache : PackageCache) : Prop :=
  (∀ directory, cache .currentRepairNext = some directory →
    OfRunningRelease release code directory ∧
      (cache .current = none ∨ cache .currentRepairBackup = none)) ∧
  (cache .currentRepairNext = none → ∀ directory, cache .current = some directory →
    OfRunningRelease release code directory ∨
      cache .currentRepairBackup = none)

/-- The cache once the recovery has returned. -/
def recovered (cache : PackageCache) : PackageCache :=
  match cache .currentRepairNext, cache .current with
  | some next, _ =>
    ((cache.set .current (some next)).set .currentRepairNext none).set .currentRepairBackup none
  | none, some _ => cache.set .currentRepairBackup none
  | none, none => (cache.set .current (cache .currentRepairBackup)).set .currentRepairBackup none

theorem stands_recovered (cache : PackageCache) :
    Stands (recovered cache) (recovered cache .current) none none := by
  rw [recovered]
  split
  · exact ⟨rfl, by simp, by simp⟩
  · rename_i hnext _
    exact ⟨rfl, by simpa using hnext, by simp⟩
  · rename_i hnext _
    exact ⟨rfl, by simpa using hnext, by simp⟩

/-- A directory that is moved through another place on its way. -/
theorem set_through {old : Option PackageDirectory} :
    ((((s.set .currentRepairBackup old).set .current none).set .current
      (some directory)).set .currentRepairNext none).set .currentRepairBackup none =
      ((s.set .current (some directory)).set .currentRepairNext none).set .currentRepairBackup
        none := by
  refine eq_of_directories (fun other => ?_) rfl
  by_cases hbackup : other = .currentRepairBackup
  · rw [hbackup, set_self, set_self]
  · by_cases hnext : other = .currentRepairNext
    · rw [hnext]
      rfl
    · by_cases hcurrent : other = .current
      · rw [hcurrent]
        rfl
      · simp [hbackup, hnext, hcurrent]

theorem quietly_finishReplacement (hnext : s .currentRepairNext = some directory)
    (hcurrent : s .current = none)
    (hrelease : OfRunningRelease release code directory) :
    Quietly (do
        rename .currentRepairNext .current
        validateSlot release code .current
        removeOwnedDirectoryIfPresent .currentRepairBackup
        housekeeping) s (.returned ())
      (((s.set .current (some directory)).set .currentRepairNext none).set .currentRepairBackup
        none) := by
  have hinstalled : Stands _ (some directory) none (s .currentRepairBackup) :=
    Stands.installed ⟨hcurrent, hnext, rfl⟩
  exact quietly_bind (quietly_rename hnext hcurrent) (quietly_bind
    ((validateSlot_eq hinstalled.current).1 hrelease) (quietly_bind quietly_removed
      quietly_housekeeping))

/-- Undisturbed, the recovery returns where it can. -/
theorem quietly_recover (h : Recoverable release code s) :
    Quietly (recoverInterruptedCurrentRepair release code) s
      (.returned ()) (recovered s) := by
  obtain ⟨hwithNext, hwithoutNext⟩ := h
  refine quietly_bind quietly_pathExists (quietly_bind quietly_pathExists
    (quietly_bind quietly_pathExists ?_))
  rw [recovered]
  cases hnext : s .currentRepairNext with
  | some directory =>
      obtain ⟨hrelease, hfree⟩ := hwithNext directory hnext
      have hvalid := (validateSlot_eq hnext).1 hrelease
      cases hcurrent : s .current with
      | none => exact quietly_bind hvalid (quietly_finishReplacement hnext hcurrent hrelease)
      | some old =>
          have hbackup : s .currentRepairBackup = none := by simpa [hcurrent] using hfree
          have haside : Stands _ none (some directory) (some old) :=
            Stands.aside ⟨hcurrent, hnext, hbackup⟩
          have hfinish := quietly_finishReplacement haside.next haside.current hrelease
          rw [set_through] at hfinish
          have hfound : (s .current).isSome := by rw [hcurrent]; rfl
          refine quietly_bind hvalid ?_
          rw [hbackup]
          exact quietly_bind (quietly_assertSlotDirectory hfound)
            (quietly_bind (quietly_rename hcurrent hbackup) hfinish)
  | none =>
      cases hcurrent : s .current with
      | none =>
          cases hbackup : s .currentRepairBackup with
          | none =>
              simp only [set_absent hcurrent, set_absent hbackup]
              exact quietly_pure
          | some old =>
              exact quietly_bind (quietly_assertSlotDirectory (by rw [hbackup]; rfl))
                (quietly_bind (quietly_rename hbackup hcurrent) quietly_housekeeping)
      | some directory =>
          cases hbackup : s .currentRepairBackup with
          | none =>
              simp only [set_absent hbackup]
              exact quietly_pure
          | some old =>
              have hrelease : OfRunningRelease release code directory :=
                by simpa [hbackup] using hwithoutNext hnext directory hcurrent
              exact quietly_bind ((validateSlot_eq hcurrent).1 hrelease)
                (quietly_bind (quietly_bind (quietly_assertSlotDirectory (by rw [hbackup]; rfl))
                  quietly_removeFiles) quietly_housekeeping)

/-- And it throws everywhere else. -/
theorem quietly_recover_refused (h : ¬ Recoverable release code s) :
    Quietly (recoverInterruptedCurrentRepair release code) s
      (.threw .notStoredSafely) s := by
  refine quietly_bind quietly_pathExists (quietly_bind quietly_pathExists
    (quietly_bind quietly_pathExists ?_))
  cases hnext : s .currentRepairNext with
  | some directory =>
      by_cases hrelease : OfRunningRelease release code directory
      · -- A repair next beside both of the others.
        have hboth : ¬ (s .current = none ∨ s .currentRepairBackup = none) := by
          intro hfree
          exact h ⟨fun other hother => by
            rw [hnext] at hother
            cases hother
            exact ⟨hrelease, hfree⟩, fun habsent => by rw [hnext] at habsent; cases habsent⟩
        obtain ⟨hcurrent, hbackup⟩ := not_or.mp hboth
        obtain ⟨current, hcurrent⟩ := Option.ne_none_iff_exists'.mp hcurrent
        obtain ⟨backup, hbackup⟩ := Option.ne_none_iff_exists'.mp hbackup
        rw [hcurrent, hbackup]
        exact quietly_bind ((validateSlot_eq hnext).1 hrelease) (quietly_bind_threw quietly_throw)
      · exact quietly_bind_threw ((validateSlot_eq hnext).2 hrelease)
  | none =>
      have hboth : ∃ current backup, s .current = some current ∧
          s .currentRepairBackup = some backup ∧
          ¬ OfRunningRelease release code current := by
        by_contra hnone
        refine h ⟨fun other hother => ?_, fun _ current hcurrent => ?_⟩
        · rw [hnext] at hother
          cases hother
        · by_cases hbackup : s .currentRepairBackup = none
          · exact .inr hbackup
          · obtain ⟨backup, hbackup⟩ := Option.ne_none_iff_exists'.mp hbackup
            by_cases hrelease : OfRunningRelease release code current
            · exact .inl hrelease
            · exact absurd ⟨current, backup, hcurrent, hbackup, hrelease⟩ hnone
      obtain ⟨current, backup, hcurrent, hbackup, hother⟩ := hboth
      rw [hcurrent, hbackup]
      exact quietly_bind_threw ((validateSlot_eq hcurrent).2 hother)

/-! ## The space -/

theorem addSize_eq (total bytes : Nat) : addSize total bytes =
    if total + bytes ≤ localUpdateCacheTotalMaxBytes then .ok (total + bytes)
    else .error .notStoredSafely := by
  rw [addSize]
  by_cases hfits : total + bytes ≤ localUpdateCacheTotalMaxBytes
  · rw [Fallible.throwIf_of_not (Nat.not_lt.mpr hfits), if_pos hfits]
    rfl
  · rw [Fallible.throwIf_of (Nat.not_le.mp hfits), if_neg hfits]
    rfl

theorem readDirectorySize_eq (directory : PackageDirectory) : readDirectorySize directory =
    if directory.size ≤ localUpdateCacheTotalMaxBytes then .ok directory.size
    else .error .notStoredSafely := by
  have hsum := @Fallible.foldlM_bounded _ _ _ directory.fileSizes addSize id _ addSize_eq 0
    (Nat.zero_le _)
  rwa [List.map_id, Nat.zero_add] at hsum

/-- The sums inside of the loops are no larger than the last one. -/
theorem readCacheSize_eq (cache : PackageCache) : readCacheSize cache =
    if cache.size ≤ localUpdateCacheTotalMaxBytes then .ok cache.size
    else .error .notStoredSafely := by
  have hstep : ∀ total (directory : PackageDirectory),
      (do addSize total (← readDirectorySize directory)) =
        if total + directory.size ≤ localUpdateCacheTotalMaxBytes then
          Except.ok (total + directory.size)
        else .error LocalUpdatePackageCacheError.notStoredSafely := by
    intro total directory
    rw [readDirectorySize_eq]
    by_cases hsize : directory.size ≤ localUpdateCacheTotalMaxBytes
    · rw [if_pos hsize]
      exact addSize_eq total directory.size
    · rw [if_neg hsize, if_neg fun hsum => hsize (Nat.le_trans (Nat.le_add_left _ _) hsum)]
      rfl
  have hsum := @Fallible.foldlM_bounded _ _ _ cache.contained _ _ _ hstep 0 (Nat.zero_le _)
  rwa [Nat.zero_add] at hsum

/-- Room for one more package: in the cache, and on the disk. -/
def HasRoom (space packageSize : Nat) (cache : PackageCache) : Prop :=
  cache.size ≤ localUpdateCacheTotalMaxBytes ∧
    packageSize + updatePackageManifestMaxBytes + metadataMaxBytes + freeSpaceReserveBytes ≤
      space

/-- The second bound of the cache is no further restriction on a package that fits. -/
theorem checkRepairCapacity_eq_ok (hpackage : packageSize ≤ updatePackageMaxBytes) :
    checkRepairCapacity space packageSize s = .ok () ↔
      HasRoom space packageSize s := by
  rw [checkRepairCapacity, readCacheSize_eq, HasRoom]
  by_cases hcache : s.size ≤ localUpdateCacheTotalMaxBytes
  · rw [if_pos hcache]
    simp only [Fallible.ok_bind, Fallible.bind_eq_ok, Fallible.throwIf_eq_ok, exists_const,
      Nat.not_lt, hcache, true_and]
    exact and_iff_right (by omega)
  · rw [if_neg hcache, Fallible.error_bind]
    constructor
    · intro h
      cases h
    · rintro ⟨hfits, -⟩
      exact absurd hfits hcache

/-- There is one error only. -/
theorem checkRepairCapacity_refused (hpackage : packageSize ≤ updatePackageMaxBytes)
    (h : ¬ HasRoom space packageSize s) :
    checkRepairCapacity space packageSize s = .error .notStoredSafely := by
  cases hcheck : checkRepairCapacity space packageSize s with
  | ok done => exact absurd ((checkRepairCapacity_eq_ok hpackage).mp hcheck) h
  | error e => cases e; rfl

/-! ## One thing goes wrong -/

section OneFault

variable {fault : Fate} {α : Type} {a : α} {Q : α → PackageCache → Prop}
  {T I : PackageCache → Prop}

/-- After an error: an operation in one part that failed did not take place. -/
def Spared (fault : Fate) (T : PackageCache → Prop) (_ : LocalUpdatePackageCacheError)
    (cache : PackageCache) : Prop :=
  fault.progress = some 0 → T cache

section

variable (hfault : fault.ending ≠ .completes)
include hfault

theorem once_attemptCache
    {perform : PackageCache → Except LocalUpdatePackageCacheError (α × PackageCache)}
    (h : perform s = .ok (a, t)) (hQ : Q a t) (hT : T s) (hs : I s) (ht : I t) :
    Once fault (attemptCache perform) Q (Spared fault T) I s :=
  once_attempt hfault h hQ (fun _ => hT) (fun hlate hnow => absurd hnow hlate) hs ht

theorem once_housekeeping {Q : Unit → PackageCache → Prop} (hQ : Q () s) (hT : T s) (hI : I s) :
    Once fault housekeeping Q (Spared fault T) I s :=
  once_attemptNothing hfault hQ (fun _ => hT) hI

theorem once_pathExists {Q : Bool → PackageCache → Prop} (hQ : Q (s entry).isSome s) (hT : T s)
    (hI : I s) : Once fault (pathExists entry) Q (Spared fault T) I s :=
  once_attemptCache hfault rfl hQ hT hI hI

theorem once_assertSlotDirectory {Q : Unit → PackageCache → Prop} (h : s entry = some directory)
    (hQ : Q () s) (hT : T s) (hI : I s) :
    Once fault (assertSlotDirectory entry) Q (Spared fault T) I s :=
  once_attemptCache hfault (if_pos (by rw [h]; rfl)) hQ hT hI hI

theorem once_rename {source destination : CacheEntry} {Q : Unit → PackageCache → Prop}
    (hsource : s source = some directory) (hdestination : s destination = none)
    (hQ : Q () ((s.set destination (some directory)).set source none)) (hT : T s) (hs : I s)
    (ht : I ((s.set destination (some directory)).set source none)) :
    Once fault (rename source destination) Q (Spared fault T) I s :=
  once_attemptCache hfault (by rw [hsource, hdestination]) hQ hT hs ht

theorem once_validateRegistered {Q : Unit → PackageCache → Prop}
    (htrusted : sourceIsTrusted release code expected source = true)
    (h : s entry = some (registeredDirectory source)) (hQ : Q () s) (hT : T s) (hI : I s) :
    Once fault (validateRegistered release code expected entry) Q
      (Spared fault T) I s := by
  have hread := readDirectory_registered htrusted
  have hmatches := (Bool.and_eq_true _ _).mp htrusted
  cases expected with
  | none =>
      refine once_attemptCache hfault ?_ hQ hT hI hI
      rw [h, Option.bind_some, hread]
      exact if_pos ⟨rfl, hmatches.2⟩
  | some expected =>
      have hexpected : expected = source.manifest := by simpa using hmatches.2
      refine once_attemptCache hfault (if_pos ?_) hQ hT hI hI
      exact ⟨.current, List.mem_cons_self, by rw [h, Option.bind_some, hread, hexpected]⟩

theorem once_writeInto {write : Option Nat → PackageDirectory → PackageDirectory}
    {Q : Unit → PackageCache → Prop} (h : s entry = some directory)
    (hQ : Q () (s.set entry (some (write none directory)))) (hT : T s) (hI : I s)
    (hpart : ∀ bytes, I (s.set entry (some (write bytes directory)))) :
    Once fault (writeInto entry write) Q (Spared fault T) I s := by
  refine once_attemptParts hfault ?_ ?_ ?_
  · have hwritten : (s entry).map (write none) = some (write none directory) := by rw [h]; rfl
    rw [← hwritten] at hQ
    exact hQ
  · intro hfails hearly
    rw [if_neg hfault, hearly]
    exact hT
  · rw [if_neg hfault, h]
    split
    · exact hpart none
    · exact hI
    · exact hpart _

end

theorem once_undone {m : CacheProgram α} {done : Replacement}
    (h : Once fault m Q (Spared fault fun t => T (handled done t)) I s) :
    Once fault (undone done m) Q (Spared fault T) I s :=
  once_handled (h.mono (fun _ _ ht => ht)
    (fun _ _ ht => ⟨_, _, quietly_undoReplacement done, ht⟩) fun _ ht => ht)

/-- What a crash leaves behind, if there was nothing left over before. -/
def Leftovers (source : PackageSource) (cache : PackageCache) : Prop :=
  (cache .currentRepairNext = none ∧
    (cache .currentRepairBackup = none ∨ cache .current = some (registeredDirectory source))) ∨
  (cache .currentRepairNext = some (registeredDirectory source) ∧
    (cache .current = none ∨ cache .currentRepairBackup = none))

theorem Stands.leftovers_before (h : Stands s current none none) : Leftovers source s :=
  .inl ⟨h.next, .inl h.backup⟩

theorem Stands.leftovers_beside (h : Stands s current (some (registeredDirectory source)) none) :
    Leftovers source s :=
  .inr ⟨h.next, .inr h.backup⟩

theorem Stands.leftovers_between
    (h : Stands s none (some (registeredDirectory source)) backup) : Leftovers source s :=
  .inr ⟨h.next, .inl h.current⟩

theorem Stands.leftovers_after (h : Stands s (some (registeredDirectory source)) none backup) :
    Leftovers source s :=
  .inl ⟨h.next, .inr h.current⟩

theorem Stands.handled_aside (h : Stands s none next current) :
    handled ⟨current.isSome, false⟩ s .current = current := by
  cases current with
  | none => exact handled_unmoved.trans h.current
  | some directory => exact handled_moved (.inr h.current) h.backup

theorem Stands.handled_installed (h : Stands s directory next current) :
    handled ⟨current.isSome, true⟩ s .current = current := by
  cases current with
  | none => simp [handled]
  | some directory => exact handled_moved (.inl rfl) h.backup

theorem Stands.handled_before (h : Stands s current next backup) :
    handled ⟨false, false⟩ s .current = current :=
  handled_unmoved.trans h.current

/-- Filling the staging directory concerns no other one. -/
theorem once_fillStaging {write : Option Nat → PackageDirectory → PackageDirectory}
    {Q : Unit → PackageCache → Prop} (hfault : fault.ending ≠ .completes)
    (hs : Stands s current none none) (hstaging : s .staging = some directory)
    (hQ : ∀ t, Stands t current none none → t .staging = some (write none directory) → Q () t) :
    Once fault (writeInto .staging write) Q
      (Spared fault fun t => handled ⟨false, false⟩ t .current = current) (Leftovers source) s :=
  once_writeInto hfault hstaging (hQ _ hs.set_staging (set_self _ _ _)) hs.handled_before
    hs.leftovers_before fun _ => hs.set_staging.leftovers_before

theorem once_prepareNext (hfault : fault.ending ≠ .completes)
    (htrusted : sourceIsTrusted release code expected source = true)
    (hs : Stands s current none none) (hstaging : s .staging = some ⟨none, none, none⟩) :
    Once fault (prepareNext release code expected source)
      (fun _ t => Stands t current (some (registeredDirectory source)) none)
      (Spared fault fun t => t .current = current) (Leftovers source) s := by
  refine once_undone (once_bind ?_)
  refine once_bind (once_fillStaging hfault hs hstaging fun s₁ hs₁ hstaging₁ => ?_)
  refine once_bind (once_fillStaging hfault hs₁ hstaging₁ fun s₂ hs₂ hstaging₂ => ?_)
  refine once_bind (once_housekeeping hfault ?_ hs₂.handled_before hs₂.leftovers_before)
  refine once_bind (once_fillStaging hfault hs₂ hstaging₂ fun s₃ hs₃ hstaging₃ => ?_)
  refine once_validateRegistered hfault htrusted hstaging₃ ?_ hs₃.handled_before
    hs₃.leftovers_before
  have hs₄ : Stands ((_ : PackageCache).set .staging none) current
      (some (registeredDirectory source)) none := hs₃.next_of_staging
  exact once_bind (once_rename hfault hstaging₃ hs₃.next
    (once_housekeeping hfault hs₄ hs₄.handled_before hs₄.leftovers_beside) hs₃.handled_before
    hs₃.leftovers_before hs₄.leftovers_beside)

theorem once_setCurrentAside (hfault : fault.ending ≠ .completes)
    (hs : Stands s current (some (registeredDirectory source)) none) :
    Once fault setCurrentAside
      (fun moved t => moved = current.isSome ∧
        Stands t none (some (registeredDirectory source)) current)
      (Spared fault fun t => t .current = current) (Leftovers source) s := by
  refine once_bind (once_undone (once_pathExists hfault ?_ hs.handled_before hs.leftovers_beside))
  rw [hs.current]
  cases current with
  | none => exact once_pure ⟨rfl, hs⟩
  | some directory =>
      have hs₁ := hs.aside
      refine once_bind (once_undone (once_bind (once_assertSlotDirectory hfault hs.current ?_
        hs.handled_before hs.leftovers_beside)))
      refine once_rename hfault hs.current hs.backup ?_ hs.handled_before hs.leftovers_beside
        hs₁.leftovers_between
      exact once_bind (once_undone (once_housekeeping hfault (once_pure ⟨rfl, hs₁⟩)
        hs₁.handled_aside hs₁.leftovers_between))

theorem once_installNext (hfault : fault.ending ≠ .completes)
    (htrusted : sourceIsTrusted release code expected source = true)
    (hs : Stands s current (some (registeredDirectory source)) none) :
    Once fault (installNext release code expected)
      (fun moved t => moved = current.isSome ∧
        Stands t (some (registeredDirectory source)) none current)
      (Spared fault fun t => t .current = current) (Leftovers source) s := by
  refine once_bind ((once_setCurrentAside hfault hs).mono ?_ (fun _ _ ht => ht) fun _ ht => ht)
  rintro _ s₁ ⟨rfl, hs₁⟩
  have hs₂ := hs₁.installed
  refine once_bind (once_undone (once_rename hfault hs₁.next hs₁.current ?_ hs₁.handled_aside
    hs₁.leftovers_between hs₂.leftovers_after))
  refine once_bind (once_undone ?_)
  refine once_bind (once_housekeeping hfault ?_ hs₂.handled_installed hs₂.leftovers_after)
  refine once_bind (once_validateRegistered hfault htrusted hs₂.current ?_ hs₂.handled_installed
    hs₂.leftovers_after)
  cases current with
  | none => exact once_pure (once_pure ⟨rfl, hs₂⟩)
  | some directory =>
      exact once_assertSlotDirectory hfault hs₂.backup (once_pure ⟨rfl, hs₂⟩)
        hs₂.handled_installed hs₂.leftovers_after

theorem once_assertRepairCapacity {Q : Unit → PackageCache → Prop}
    (hfault : fault.ending ≠ .completes) (hpackage : packageSize ≤ updatePackageMaxBytes)
    (hroom : HasRoom space packageSize s) (hQ : Q () s) (hT : T s) (hI : I s) :
    Once fault (assertRepairCapacity space packageSize) Q (Spared fault T) I s :=
  once_attemptCache hfault (by rw [(checkRepairCapacity_eq_ok hpackage).mpr hroom]; rfl) hQ hT hI hI

theorem fruitless_assertRepairCapacity (hpackage : packageSize ≤ updatePackageMaxBytes)
    (hroom : ¬ HasRoom space packageSize s) :
    Fruitless fault (assertRepairCapacity space packageSize) s :=
  fruitless_attempt (by rw [checkRepairCapacity_refused hpackage hroom]; rfl)

section

variable (hfault : fault.ending ≠ .completes)
include hfault

/-- From the check of the space on: nothing was left over, or the recovery has returned. -/
theorem once_install (htrusted : sourceIsTrusted release code expected source = true)
    (hroom : HasRoom space source.manifest.packageSize s) (hs : Stands s current none none) :
    Once fault (do
        assertRepairCapacity space source.manifest.packageSize
        createStaging
        prepareNext release code expected source
        installNext release code expected)
      (fun moved t => moved = current.isSome ∧
        Stands t (some (registeredDirectory source)) none current)
      (Spared fault fun t => t .current = current) (Leftovers source) s := by
  refine once_bind (once_assertRepairCapacity hfault (trusted_parts htrusted).1 hroom ?_ hs.current
    hs.leftovers_before)
  refine once_bind (once_attemptCache hfault rfl ?_ hs.current hs.leftovers_before
    hs.staged.leftovers_before)
  refine once_bind ((once_prepareNext hfault htrusted hs.staged (set_self _ _ _)).mono ?_
    (fun _ _ ht => ht) fun _ ht => ht)
  intro _ t ht
  exact once_installNext hfault htrusted ht

/-- An operation that only looks at the directories. -/
theorem once_looks {threw : LocalUpdatePackageCacheError → PackageCache → Prop}
    {perform : PackageCache → Except LocalUpdatePackageCacheError (α × PackageCache)}
    (h : perform s = .ok (a, s)) (hQ : Q a s) (hthrew : threw .notStoredSafely s) (hI : I s) :
    Once fault (attemptCache perform) Q threw I s :=
  once_attempt hfault h hQ hthrew (fun _ => hthrew) hI hI

/-- Where nothing was left over, there is nothing to recover. -/
theorem once_recoverNothing {threw : LocalUpdatePackageCacheError → PackageCache → Prop}
    {Q : Unit → PackageCache → Prop} (hs : Stands s current none none) (hQ : Q () s)
    (hthrew : threw .notStoredSafely s) (hI : I s) :
    Once fault (recoverInterruptedCurrentRepair release code) Q threw I
      s := by
  refine once_bind (once_looks hfault rfl (once_bind (once_looks hfault rfl
    (once_bind (once_looks hfault rfl ?_ hthrew hI)) hthrew hI)) hthrew hI)
  rw [hs.next, hs.backup]
  cases s .current <;> exact once_pure hQ

theorem once_installRegistration (htrusted : sourceIsTrusted release code expected source = true)
    (hroom : HasRoom space source.manifest.packageSize s) (hs : Stands s current none none) :
    Once fault (installRegistration release code space expected source)
      (fun moved t => moved = current.isSome ∧
        Stands t (some (registeredDirectory source)) none current)
      (Spared fault fun t => t .current = current) (Leftovers source) s := by
  refine once_bind (once_attemptCache hfault (if_pos htrusted) ?_ hs.current hs.leftovers_before
    hs.leftovers_before)
  refine once_bind (once_housekeeping hfault ?_ hs.current hs.leftovers_before)
  exact once_bind (once_recoverNothing hfault hs (once_install hfault htrusted hroom hs)
    (fun _ => hs.current) hs.leftovers_before)

/-- Without room nothing is installed, and nothing is changed. -/
theorem fruitless_installRegistration
    (htrusted : sourceIsTrusted release code expected source = true)
    (hroom : ¬ HasRoom space source.manifest.packageSize s) (hs : Stands s current none none) :
    Fruitless fault (installRegistration release code space expected source) s := by
  refine Once.fruitless (once_looks hfault (if_pos htrusted) ⟨rfl, ?_⟩ rfl rfl)
  refine Once.fruitless (once_looks hfault rfl ⟨rfl, ?_⟩ rfl rfl)
  refine Once.fruitless (once_recoverNothing hfault hs ⟨rfl, ?_⟩ rfl rfl)
  exact (fruitless_assertRepairCapacity (trusted_parts htrusted).1 hroom).bind

theorem once_exchangeRegistration (htrusted : sourceIsTrusted release code expected source = true)
    (hroom : HasRoom space source.manifest.packageSize s) (hs : Stands s current none none) :
    Once fault (exchangeRegistration release code space expected source)
      (fun moved t => moved = current.isSome ∧
        Stands t (some (registeredDirectory source)) none none)
      (fun _ _ => True) (Leftovers source) s := by
  refine once_bind ((once_installRegistration hfault htrusted hroom hs).mono ?_
    (fun _ _ _ => trivial) fun _ ht => ht)
  rintro _ t ⟨rfl, ht⟩
  cases current with
  | none => exact once_pure ⟨rfl, ht⟩
  | some directory =>
      refine once_bind (once_handled (once_attemptParts hfault (once_pure ⟨rfl, ht.removed⟩)
        (fun _ => ⟨_, _, quietly_undoReplacement _, trivial⟩) ?_))
      -- However much of the old directory is gone, the new one is in place.
      have hset : ∀ left, Leftovers source (t.set .currentRepairBackup left) := fun left =>
        .inl ⟨by simpa using ht.next, .inr (by simpa using ht.current)⟩
      split <;> exact hset _

theorem once_replaceCurrentRegistration
    (htrusted : sourceIsTrusted release code expected source = true)
    (hroom : HasRoom space source.manifest.packageSize s) (hs : Stands s current none none) :
    Once fault (replaceCurrentRegistration release code space expected source)
      (fun _ t => Stands t (some (registeredDirectory source)) none none) (fun _ _ => True)
      (Leftovers source) s := by
  refine once_bind ((once_exchangeRegistration hfault htrusted hroom hs).mono ?_ (fun _ _ ht => ht)
    fun _ ht => ht)
  rintro _ t ⟨rfl, ht⟩
  cases current with
  | none => exact once_pure ht
  | some directory =>
      exact once_handled (once_attemptNothing hfault ht
        ⟨_, _, quietly_undoReplacement _, trivial⟩ ht.leftovers_after)

end

end OneFault

/-! ## The second call -/

/-- Called again, the registration returns with the package in place and nothing else. -/
def Reregisters (release : DesktopReleaseInfo) (code : String → String)
    (space : Nat) (expected : Option ExpectedPackageIdentity)
    (source : PackageSource) (cache : PackageCache) : Prop :=
  ∃ t, Quietly (replaceCurrentRegistration release code space
      expected source) cache (.returned ()) t ∧
    Stands t (some (registeredDirectory source)) none none

section

variable (htrusted : sourceIsTrusted release code expected source = true)
include htrusted

theorem quietly_installRegistration (h : Recoverable release code s)
    (hroom : HasRoom space source.manifest.packageSize (recovered s)) :
    ∃ current t, Quietly (installRegistration release code space
        expected source) s (.returned current.isSome) t ∧
      Stands t (some (registeredDirectory source)) none current := by
  have hinstall : Once (⟨.crashes, none⟩ : Fate) _ _ _ _ (recovered s) :=
    once_install nofun htrusted hroom (stands_recovered s)
  obtain ⟨moved, t, hinstall, hmoved, ht⟩ := hinstall.quietly
  refine ⟨recovered s .current, t, ?_, ht⟩
  rw [hmoved] at hinstall
  exact quietly_bind (quietly_attempt (if_pos htrusted)) (quietly_bind quietly_housekeeping
    (quietly_bind (quietly_recover h) hinstall))

/-- The second call is refused by the recovery, or because there is no room. -/
theorem quietly_installRegistration_refused
    (h : ¬ (Recoverable release code s ∧ HasRoom space source.manifest.packageSize (recovered s))) :
    ∃ t, Quietly (installRegistration release code space
      expected source) s (.threw .notStoredSafely) t := by
  suffices hrest : ∃ t, Quietly (do
      recoverInterruptedCurrentRepair release code
      assertRepairCapacity space source.manifest.packageSize
      createStaging
      prepareNext release code expected source
      installNext release code expected) s
      (.threw .notStoredSafely) t by
    obtain ⟨t, hrest⟩ := hrest
    exact ⟨t, quietly_bind (quietly_attempt (if_pos htrusted))
      (quietly_bind quietly_housekeeping hrest)⟩
  by_cases hrecoverable : Recoverable release code s
  · have hroom : ¬ HasRoom space source.manifest.packageSize (recovered s) :=
      fun hroom => h ⟨hrecoverable, hroom⟩
    have hcheck := checkRepairCapacity_refused (trusted_parts htrusted).1 hroom
    exact ⟨_, quietly_bind (quietly_recover hrecoverable)
      (quietly_bind_threw (quietly_attempt_refused (by rw [hcheck]; rfl)))⟩
  · exact ⟨_, quietly_bind_threw (quietly_recover_refused hrecoverable)⟩

/-- The second call goes through from exactly the leftovers that the recovery accepts, if
    it finds room once the recovery has returned. -/
theorem reregisters_iff : Reregisters release code space expected source s ↔
      Recoverable release code s ∧
        HasRoom space source.manifest.packageSize (recovered s) := by
  constructor
  · rintro ⟨t, hquiet, _⟩
    by_contra hrefused
    obtain ⟨u, hinstall⟩ := quietly_installRegistration_refused htrusted hrefused
    have hthrows : Quietly (replaceCurrentRegistration release code
        space expected source) s (.threw .notStoredSafely) u :=
      quietly_bind_threw (quietly_bind_threw hinstall)
    rw [Quietly, hthrows] at hquiet
    cases hquiet
  · rintro ⟨hrecoverable, hroom⟩
    obtain ⟨current, t, hinstall, ht⟩ := quietly_installRegistration htrusted hrecoverable hroom
    cases current with
    | none =>
        exact ⟨t, quietly_bind (quietly_bind hinstall quietly_pure) quietly_pure, ht⟩
    | some directory =>
        exact ⟨_, quietly_bind (quietly_bind hinstall
          (quietly_bind (quietly_tryCatch quietly_removeFiles) quietly_pure))
          (quietly_tryCatch quietly_housekeeping), ht.removed⟩

/-- Of the leftovers of a crash, those are accepted that hold no complete exchange, if
    the package is not one of the running release. -/
theorem Leftovers.recoverable_iff (h : Leftovers source s) : Recoverable release code s ↔
      isCurrentRelease release source.manifest = true ∨
        (s .currentRepairNext = none ∧ (s .current = none ∨ s .currentRepairBackup = none)) := by
  have hown := ofRunningRelease_registered htrusted
  rcases h with ⟨hnext, hfree⟩ | ⟨hnext, hfree⟩
  · constructor
    · intro hrecoverable
      by_cases hboth : s .current = none ∨ s .currentRepairBackup = none
      · exact .inr ⟨hnext, hboth⟩
      · obtain ⟨_, hbackup⟩ := not_or.mp hboth
        have hcurrent := hfree.resolve_left hbackup
        exact .inl (hown.mp ((hrecoverable.2 hnext _ hcurrent).resolve_right hbackup))
    · intro haccepted
      refine ⟨fun directory hdirectory => ?_, fun _ directory hcurrent => ?_⟩
      · rw [hnext] at hdirectory
        cases hdirectory
      · rcases haccepted with hrelease | ⟨_, hnone | hbackup⟩
        · rcases hfree with hbackup | hregistered
          · exact .inr hbackup
          · rw [hcurrent] at hregistered
            cases hregistered
            exact .inl (hown.mpr hrelease)
        · rw [hcurrent] at hnone
          cases hnone
        · exact .inr hbackup
  · constructor
    · intro hrecoverable
      exact .inl (hown.mp (hrecoverable.1 _ hnext).1)
    · rintro (hrelease | ⟨hnone, _⟩)
      · refine ⟨fun directory hdirectory => ?_, fun habsent => ?_⟩
        · rw [hnext] at hdirectory
          cases hdirectory
          exact ⟨hown.mpr hrelease, hfree⟩
        · rw [hnext] at habsent
          cases habsent
      · rw [hnext] at hnone
        cases hnone

end

/-! ## What an error leaves -/

/-- The run of `m` throws that meets the fault after `n` effects. -/
def ThrowsAt {α : Type} (n : Nat) (fault : Fate) (m : CacheProgram α) (cache : PackageCache) :
    Prop :=
  ∃ e, (m cache (oneFault n fault)).1 = .threw e

/-- The cache after that run. -/
def after {α : Type} (n : Nat) (fault : Fate) (m : CacheProgram α) (cache : PackageCache) :
    PackageCache :=
  (m cache (oneFault n fault)).2.1

/-- The removal of a directory that fails so leaves all of it. -/
def TakesNothing (fault : Fate) (directory : Option PackageDirectory) : Prop :=
  ∃ k, fault.progress = some k ∧ directory.map (partly k) = directory

section Failure

variable {n : Nat} {fault : Fate}

/-- The directory that is left of the old one by a removal that fails. -/
def leftOf (fault : Fate) (directory : PackageDirectory) : Option PackageDirectory :=
  fault.progress.map fun k => partly k directory

theorem takesNothing_iff :
    TakesNothing fault (some directory) ↔ leftOf fault directory = some directory := by
  rw [TakesNothing, leftOf]
  cases fault.progress with
  | none => simp
  | some k => simp

/-- The removal meets the fault: what is left of the old directory goes back. -/
theorem remove_fails (hfails : fault.ending = .fails)
    (hbackup : s .currentRepairBackup = some directory) :
    undone ⟨true, true⟩ (removeFiles .currentRepairBackup) s (oneFault 0 fault) =
      (.threw .notStoredSafely,
        handled ⟨true, true⟩ (s.set .currentRepairBackup (leftOf fault directory)), []) := by
  refine (tryCatch_threw (e := LocalUpdatePackageCacheError.notStoredSafely) ?_).trans
    (quietly_undoReplacement _)
  rw [removeFiles, attemptParts, oneFault]
  simp only [effect, List.replicate_zero, List.nil_append, Fate.outcome, hfails, leftOf]
  cases fault.progress with
  | none => rfl
  | some k => rw [hbackup]; rfl

theorem flush_fails (hfails : fault.ending = .fails) :
    undone ⟨true, true⟩ housekeeping s (oneFault 0 fault) =
      (.threw .notStoredSafely, handled ⟨true, true⟩ s, []) := by
  refine (tryCatch_threw (e := LocalUpdatePackageCacheError.notStoredSafely) ?_).trans
    (quietly_undoReplacement _)
  rw [housekeeping, attemptNothing, attempt, oneFault]
  simp only [effect, List.replicate_zero, List.nil_append, Fate.outcome, hfails, ite_self]

theorem handled_left {left : Option PackageDirectory} :
    handled ⟨true, true⟩ (s.set .currentRepairBackup left) .current = left := by
  cases left with
  | none => exact handled_removed (set_self _ _ _)
  | some directory => exact handled_moved (.inl rfl) (set_self _ _ _)

/-- Without room nothing is changed, and it is the installation that throws. -/
theorem after_without_room (hfault : fault.ending ≠ .completes)
    (htrusted : sourceIsTrusted release code expected source = true)
    (hroom : ¬ HasRoom space source.manifest.packageSize s)
    (hs : Stands s current none none) :
    after n fault (replaceCurrentRegistration release code space expected source) s = s ∧
      (ThrowsAt n fault (replaceCurrentRegistration release code space expected source) s →
        ThrowsAt n fault (installRegistration release code space expected source) s) := by
  rcases fruitless_installRegistration hfault htrusted hroom hs n with
    ⟨e, rest, hinstall⟩ | ⟨rest, hinstall⟩
  · have hreplace : replaceCurrentRegistration release code
        space expected source s (oneFault n fault) = _ :=
      bind_threw (bind_threw hinstall)
    exact ⟨by rw [after, hreplace], fun _ => ⟨e, congrArg Prod.fst hinstall⟩⟩
  · have hreplace : replaceCurrentRegistration release code
        space expected source s (oneFault n fault) = _ :=
      bind_stopped (bind_stopped hinstall)
    refine ⟨by rw [after, hreplace], ?_⟩
    rintro ⟨e, hthrows⟩
    rw [hreplace] at hthrows
    cases hthrows

/-- What is in place after an error. -/
theorem error_keeps_current_iff (hfails : fault.ending = .fails)
    (htrusted : sourceIsTrusted release code expected source = true)
    (hs : Stands s current none none)
    (hclean : fault.progress = some 0 ∨ ¬ ThrowsAt n fault (installRegistration release
      code space expected source) s)
    (hthrows : ThrowsAt n fault (replaceCurrentRegistration release code space expected source) s) :
    after n fault (replaceCurrentRegistration release code space
        expected source) s .current = current ↔
      ThrowsAt n fault (installRegistration release code space expected source) s ∨
        (ThrowsAt n fault (exchangeRegistration release code
          space expected source) s ∧ TakesNothing fault current) := by
  have hfault : fault.ending ≠ .completes := by rw [hfails]; nofun
  by_cases hroom : HasRoom space source.manifest.packageSize s
  case neg =>
    -- Nothing was changed, and it was the installation that threw.
    obtain ⟨hsame, hinstall⟩ := after_without_room hfault htrusted hroom hs
    rw [hsame]
    exact iff_of_true hs.current (.inl (hinstall hthrows))
  obtain ⟨e, hthrows⟩ := hthrows
  rcases (once_installRegistration hfault htrusted hroom hs).disturbed n with
    ⟨_, t, k, hinstall, rfl, ht⟩ | ⟨e', t, hinstall, hspared⟩ | ⟨t, hinstall, _⟩
  · have hnot : ¬ ThrowsAt n fault (installRegistration release code
        space expected source) s := by
      rintro ⟨e', he'⟩
      rw [hinstall] at he'
      cases he'
    rw [or_iff_right hnot]
    cases current with
    | none =>
        -- Nothing was moved, and nothing is left to fail.
        have hexchange : exchangeRegistration release code space
            expected source s (oneFault n fault) = (.returned false, t, oneFault k fault) :=
          bind_returned hinstall
        have hreturns : replaceCurrentRegistration release code
            space expected source s (oneFault n fault) =
              (.returned (), t, oneFault k fault) := bind_returned hexchange
        rw [hreturns] at hthrows
        cases hthrows
    | some directory =>
        cases k with
        | zero =>
            have hexchange : exchangeRegistration release code
                space expected source s (oneFault n fault) = _ :=
              (bind_returned hinstall).trans (bind_threw (remove_fails hfails ht.backup))
            have hreplace : replaceCurrentRegistration release code
                space expected source s (oneFault n fault) = _ :=
              bind_threw hexchange
            rw [after, hreplace, takesNothing_iff]
            show handled ⟨true, true⟩ (t.set .currentRepairBackup
              (leftOf fault directory)) .current =
              some directory ↔ _
            rw [handled_left]
            exact ⟨fun hnothing => ⟨⟨_, congrArg Prod.fst hexchange⟩, hnothing⟩, fun h => h.2⟩
        | succ k =>
            -- Only the last flush can fail, and the old directory is gone by then.
            have hexchange : exchangeRegistration release code
                space expected source s (oneFault n fault) =
                  (.returned true, t.set .currentRepairBackup none, oneFault k fault) :=
              (bind_returned hinstall).trans (bind_returned (tryCatch_returned rfl))
            have hreplace : replaceCurrentRegistration release code
                space expected source s (oneFault n fault) =
                  undone ⟨true, true⟩ housekeeping (t.set .currentRepairBackup none)
                    (oneFault k fault) := bind_returned hexchange
            have hexchanged : ¬ ThrowsAt n fault (exchangeRegistration release
                code space expected source) s := by
              rintro ⟨e', he'⟩
              rw [hexchange] at he'
              cases he'
            refine iff_of_false ?_ fun h => hexchanged h.1
            cases k with
            | zero =>
                rw [after, hreplace, flush_fails hfails]
                show handled ⟨true, true⟩ (t.set .currentRepairBackup none) .current ≠
                  some directory
                rw [handled_left]
                nofun
            | succ k =>
                rw [hreplace] at hthrows
                cases hthrows
  · -- The installation fails, and all of it is undone.
    have hreplace : replaceCurrentRegistration release code space
        expected source s (oneFault n fault) = _ := bind_threw (bind_threw hinstall)
    have hinstallThrows : ThrowsAt n fault (installRegistration release
        code space expected source) s :=
      ⟨e', congrArg Prod.fst hinstall⟩
    rw [after, hreplace]
    exact iff_of_true (hspared (hclean.resolve_right (not_not_intro hinstallThrows)))
      (.inl hinstallThrows)
  · have hreplace : replaceCurrentRegistration release code
        space expected source s (oneFault n fault) = _ :=
      bind_stopped (bind_stopped hinstall)
    rw [hreplace] at hthrows
    cases hthrows

end Failure

/-- What a crash leaves, whether or not there was room. -/
theorem leftovers_of_crash {n : Nat} {fault : Fate} (hcrashes : fault.ending = .crashes)
    (htrusted : sourceIsTrusted release code expected source = true)
    (hs : Stands s current none none)
    (hstopped : (replaceCurrentRegistration release code space
      expected source s (oneFault n fault)).1 = .stopped) :
    Leftovers source (after n fault (replaceCurrentRegistration release
      code space expected source) s) := by
  have hfault : fault.ending ≠ .completes := by rw [hcrashes]; nofun
  by_cases hroom : HasRoom space source.manifest.packageSize s
  · rcases (once_replaceCurrentRegistration hfault htrusted hroom hs).disturbed n
      with ⟨_, t, k, hrun, _⟩ | ⟨e, t, hrun, _⟩ | ⟨t, hrun, ht⟩
    · rw [hrun] at hstopped
      cases hstopped
    · rw [hrun] at hstopped
      cases hstopped
    · rw [after, hrun]
      exact ht
  · rw [(after_without_room hfault htrusted hroom hs).1]
    exact hs.leftovers_before

/-! ## Both interruptions -/

/-- **WHAT AN INTERRUPTED REGISTRATION LEAVES**.  The second call goes through from the
    leftovers that the recovery accepts, if there is room once the recovery has returned:
    the directories of `mkdtemp` that crashes have left count like all others.  The
    leftovers of a crash are accepted if the package is one of the running release, and for
    another package unless the crash came while the new directory lay ready or the old one
    was being removed.  An error leaves the old directory in place, unless it came when the
    removal had begun to take files. -/
theorem registration_interrupted_iff
    (htrusted : sourceIsTrusted release code expected source = true) :
    (∀ space cache, Reregisters release code space expected source cache ↔
        Recoverable release code cache ∧
          HasRoom space source.manifest.packageSize (recovered cache)) ∧
    ∀ space cache n fault, cache .currentRepairNext = none →
      cache .currentRepairBackup = none →
      (fault.ending = .crashes →
        (replaceCurrentRegistration release code space
          expected source cache (oneFault n fault)).1 = .stopped →
        ∀ left, left = after n fault (replaceCurrentRegistration release
          code space expected source) cache →
        ∀ availableAgain,
        (Reregisters release code availableAgain expected source left ↔
          (isCurrentRelease release source.manifest = true ∨
            (left .currentRepairNext = none ∧
              (left .current = none ∨ left .currentRepairBackup = none))) ∧
          HasRoom availableAgain source.manifest.packageSize (recovered left))) ∧
      (fault.ending = .fails →
        (fault.progress = some 0 ∨ ¬ ThrowsAt n fault (installRegistration release
          code space expected source) cache) →
        ThrowsAt n fault (replaceCurrentRegistration release code space expected source) cache →
        (after n fault (replaceCurrentRegistration release code
            space expected source) cache .current = cache .current ↔
          ThrowsAt n fault (installRegistration release code space expected source) cache ∨
          (ThrowsAt n fault (exchangeRegistration release code space expected source) cache ∧
            TakesNothing fault (cache .current)))) := by
  refine ⟨fun space cache => reregisters_iff htrusted,
    fun space cache n fault hnext hbackup => ⟨?_, ?_⟩⟩
  · rintro hcrashes hstopped left rfl availableAgain
    have hleft := leftovers_of_crash hcrashes htrusted ⟨rfl, hnext, hbackup⟩ hstopped
    exact (reregisters_iff htrusted).trans (and_congr_left fun _ => hleft.recoverable_iff htrusted)
  · intro hfails hclean hthrows
    exact error_keeps_current_iff hfails htrusted ⟨rfl, hnext, hbackup⟩ hclean hthrows

end Registration

/-! ## The update's two packages -/

namespace SampleRegistration

open SampleUpdate

/-- The package of a release, with an installer that fits. -/
def sourceOf (identity : PackageIdentity) (appVersion : String) : PackageSource where
  manifest := toExpectedIdentity appVersion identity
  manifestSize := 600
  package := ⟨identity.packageSha256,
    ⟨identity.msiProductVersion, identity.msiProductVersion, newRelease.upgradeCode⟩⟩
  packageSize := identity.packageSize

/-- The newer build runs, and its package is registered. -/
def registered : PackageCache :=
  .ofDirectories fun entry =>
    if entry = .current then some (registeredDirectory (sourceOf newPackage "0.2.7")) else none

/-- As much free space as anybody could need. -/
def space : Nat := 1024 * 1024 * 1024

/-- The older package is registered by its exact identity. -/
def registerOld : CacheProgram Unit :=
  registerExactRollbackPackage newRelease id space
    (toExpectedIdentity "0.2.6" oldPackage) (sourceOf oldPackage "0.2.6")

/-- The package of the running release is registered. -/
def repairNew : CacheProgram Unit :=
  repairCurrentRegistration newRelease id space (sourceOf newPackage "0.2.7")

/-- A large package of the running release. -/
def largePackage : PackageIdentity := { newPackage with packageSize := 420000000 }

/-- Nothing is registered, but three calls have crashed after the copy of a package. -/
def crowded : PackageCache where
  directories := fun _ => none
  abandoned := List.replicate 3 ⟨none, some ⟨600, none⟩, some ⟨400000000, none⟩⟩

/-- The large package is registered. -/
def repairLarge : CacheProgram Unit :=
  repairCurrentRegistration newRelease id space (sourceOf largePackage "0.2.7")

end SampleRegistration

open SampleUpdate SampleRegistration in
theorem registration_interrupted_for_old_package :
    ¬ Reregisters newRelease id space (some (toExpectedIdentity "0.2.6" oldPackage))
        (sourceOf oldPackage "0.2.6") (after 13 ⟨.crashes, some 0⟩ registerOld registered) ∧
      after 18 ⟨.fails, some 0⟩ registerOld registered .current = registered .current := by
  have htrusted : sourceIsTrusted newRelease id (some (toExpectedIdentity "0.2.6" oldPackage))
      (sourceOf oldPackage "0.2.6") = true := by decide
  have hcrash := ((registration_interrupted_iff htrusted).2 space registered 13
    ⟨.crashes, some 0⟩ rfl rfl).1 rfl (by decide +kernel) _ rfl space
  have hfail := ((registration_interrupted_iff htrusted).2 space registered 18
    ⟨.fails, some 0⟩ rfl rfl).2 rfl (.inl rfl) ⟨.notStoredSafely, by decide +kernel⟩
  have hkept := hfail.mpr (.inl ⟨.notStoredSafely, by decide +kernel⟩)
  rw [registerOld, registerExactRollbackPackage]
  exact ⟨fun hagain => absurd (hcrash.mp hagain).1 (by decide +kernel), hkept⟩

open SampleUpdate SampleRegistration in
/-- The old package lies ready when the registration crashes, and every further call
    rejects it; a repair whose last flush fails leaves no package at all; and where three
    crashed calls have left their copies, a fourth registers its package, but cannot be
    repeated. -/
theorem registration_not_resumed :
    (validateSlot newRelease id .current registered []).1 = .returned () ∧
      (registerOld registered (oneFault 13 ⟨.crashes, some 0⟩)).1 = .stopped ∧
      (registerOld (after 13 ⟨.crashes, some 0⟩ registerOld registered) []).1 =
        .threw .notStoredSafely ∧
      (repairNew registered (oneFault 23 ⟨.fails, some 0⟩)).1 = .threw .notStoredSafely ∧
      after 23 ⟨.fails, some 0⟩ repairNew registered .current = none ∧
      (repairLarge crowded (oneFault 16 ⟨.crashes, some 0⟩)).1 = .stopped ∧
      (repairLarge (after 16 ⟨.crashes, some 0⟩ repairLarge crowded) []).1 =
        .threw .notStoredSafely := by
  decide +kernel

end PackageCache
