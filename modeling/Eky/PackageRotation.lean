import Eky.PackageCacheProofs
import Eky.TransitionSystem

/-! # The rotation of the two packages of an update, and its reversal

    An accepted candidate takes the place of the current package, which is kept as the
    previous one; a rollback puts both back.  Either of them can be cut off after each
    of its steps and run again, and one can follow the other. -/

namespace PackageCache

open Program TransitionSystem

variable {m : CacheProgram Unit} {Q : Unit → PackageCache → Prop}

section Rotation

variable {release : DesktopReleaseInfo} {code : String → String}
  {oldPackage newPackage expected : ExpectedPackageIdentity} {s t : PackageCache}
  {entry : CacheEntry} {role : CacheSlotRole} {roles : List CacheSlotRole} {I : PackageCache → Prop}

/-! ## Directories with a package -/

theorem Holds.congr {other : CacheEntry}
    (h : Holds release code s entry expected roles)
    (heq : t other = s entry) :
    Holds release code t other expected roles := by
  obtain ⟨role, hrole, hcontents⟩ := h
  exact ⟨role, hrole, by rw [heq]; exact hcontents⟩

theorem Holds.weaken {fewer : List CacheSlotRole}
    (h : Holds release code s entry expected fewer)
    (hroles : ∀ role ∈ fewer, role ∈ roles) :
    Holds release code s entry expected roles := by
  obtain ⟨role, hrole, hcontents⟩ := h
  exact ⟨role, hroles role hrole, hcontents⟩

theorem Holds.exists_directory
    (h : Holds release code s entry expected roles) :
    ∃ directory, s entry = some directory := by
  obtain ⟨role, _, hcontents⟩ := h
  exact Option.isSome_iff_exists.mp (isSome_of_contents hcontents)

theorem Holds.not_none
    (h : Holds release code s entry expected roles) :
    s entry ≠ none := fun hnone => not_holds_of_absent hnone h

/-- A directory with a package whose metadata are written anew. -/
theorem Holds.written {directory : PackageDirectory}
    (h : Holds release code s entry expected roles)
    (hdirectory : s entry = some directory) :
    Holds release code
      (s.set entry (some { directory with metadata := some (metadataFile ⟨expected, role⟩) }))
      entry expected [role] := by
  obtain ⟨old, _, hcontents⟩ := h
  rw [hdirectory, Option.bind_some] at hcontents
  refine ⟨role, List.mem_cons_self, ?_⟩
  rw [set_self, Option.bind_some]
  exact readDirectory_writeMetadata hcontents

/-! ## Steps that are cut off -/

variable {crashes : Prop} {R : LocalUpdatePackageCacheError → PackageCache → Prop}

theorem steady_housekeeping (hI : I s) (hQ : Q () s) :
    wp (Fate.Steady crashes) housekeeping ⟨Q, R, Midway crashes I⟩ s :=
  wp_attempt_steady hI nofun fun _ _ h => by
    cases h
    exact ⟨hI, hQ⟩

theorem steady_pathExists {Q : Bool → PackageCache → Prop} (hI : I s)
    (hQ : Q (s entry).isSome s) :
    wp (Fate.Steady crashes) (pathExists entry) ⟨Q, R, Midway crashes I⟩ s :=
  wp_attempt_steady hI nofun fun _ _ h => by
    cases h
    exact ⟨hI, hQ⟩

theorem steady_assertSlotDirectory (hI : I s) (h : s entry ≠ none) (hQ : Q () s) :
    wp (Fate.Steady crashes) (assertSlotDirectory entry) ⟨Q, R, Midway crashes I⟩ s := by
  have hfound : (s entry).isSome := Option.isSome_iff_ne_none.mpr h
  refine wp_attempt_steady hI ?_ ?_
  · intro refusal hrefused
    rw [if_pos hfound] at hrefused
    cases hrefused
  · intro _ _ hdone
    rw [if_pos hfound] at hdone
    cases hdone
    exact ⟨hI, hQ⟩

theorem steady_validateJournalSlot (hI : I s)
    (hQ : Holds release code s entry expected roles → Q () s)
    (hR : ¬ Holds release code s entry expected roles →
      R .notStoredSafely s) : wp (Fate.Steady crashes)
      (validateJournalSlot release code entry expected roles)
      ⟨Q, R, Midway crashes I⟩ s := by
  refine wp_attempt_steady hI ?_ ?_
  · intro refusal hrefused
    split at hrefused
    · cases hrefused
    · rename_i hother
      cases hrefused
      exact hR hother
  · intro _ _ hdone
    split at hdone
    · rename_i hholds
      cases hdone
      exact ⟨hI, hQ hholds⟩
    · cases hdone

/-- The directory is valid. -/
theorem steady_valid (hI : I s) (h : Holds release code s entry expected roles)
    (hQ : Q () s) : wp (Fate.Steady crashes)
      (validateJournalSlot release code entry expected roles)
      ⟨Q, R, Midway crashes I⟩ s :=
  steady_validateJournalSlot hI (fun _ => hQ) fun hother => absurd h hother

theorem steady_slotMatchesIdentity {Q : Bool → PackageCache → Prop} (hI : I s)
    (hQ : Q (decide (Holds release code s entry expected roles)) s) :
    wp (Fate.Steady crashes)
      (slotMatchesIdentity release code entry expected roles)
      ⟨Q, R, Midway crashes I⟩ s := by
  refine wp_bind (steady_pathExists hI ?_)
  cases hentry : s entry with
  | none =>
      rw [decide_eq_false (not_holds_of_absent hentry)] at hQ
      exact wp_pure hQ
  | some directory =>
      refine wp_tryCatch (wp_bind (steady_validateJournalSlot hI ?_ ?_))
      · intro hholds
        rw [decide_eq_true hholds] at hQ
        exact wp_pure hQ
      · intro hother
        rw [decide_eq_false hother] at hQ
        exact wp_pure hQ

theorem steady_rename {source destination : CacheEntry} {directory : PackageDirectory} (hI : I s)
    (hsource : s source = some directory) (hdestination : s destination = none)
    (hne : source ≠ destination)
    (h : ∀ t : PackageCache, t destination = s source → t source = none →
      (∀ other, other ≠ source → other ≠ destination → t other = s other) → I t ∧ Q () t) :
    wp (Fate.Steady crashes) (rename source destination) ⟨Q, R, Midway crashes I⟩ s := by
  refine wp_attempt_steady hI ?_ ?_
  · intro refusal hrefused
    rw [hsource, hdestination] at hrefused
    cases hrefused
  · intro _ t hdone
    rw [hsource, hdestination] at hdone
    cases hdone
    refine h _ ?_ (set_self _ _ _) ?_
    · rw [set_other _ _ hne.symm, set_self, hsource]
    · intro other hother hother'
      rw [set_other _ _ hother, set_other _ _ hother']

theorem steady_removeFiles
    (hI : ∀ t : PackageCache, (∀ other, other ≠ entry → t other = s other) → I t)
    (hQ : ∀ t : PackageCache, t entry = none → (∀ other, other ≠ entry → t other = s other) →
      Q () t) : wp (Fate.Steady crashes) (removeFiles entry) ⟨Q, R, Midway crashes I⟩ s := by
  have hframe : ∀ left other, other ≠ entry → s.set entry left other = s other :=
    fun left other hother => set_other _ _ hother
  refine wp_attemptParts_steady ?_ ?_
  · intro fate
    split <;> exact hI _ (hframe _)
  · intro fate hcompletes
    rw [hcompletes]
    exact hQ _ (set_self _ _ _) (hframe _)

theorem steady_writeMetadata (hI : I s)
    (hentry : Holds release code s entry expected roles)
    (h : ∀ t : PackageCache, Holds release code t entry expected [role] →
      (∀ other, other ≠ entry → t other = s other) → I t ∧ Q () t) :
    wp (Fate.Steady crashes) (writeMetadata entry expected role) ⟨Q, R, Midway crashes I⟩ s := by
  obtain ⟨directory, hdirectory⟩ := hentry.exists_directory
  refine wp_attempt_steady hI ?_ ?_
  · intro refusal hrefused
    rw [hdirectory] at hrefused
    cases hrefused
  · intro _ t hdone
    rw [hdirectory] at hdone
    cases hdone
    exact h _ (hentry.written hdirectory) fun other hother => set_other _ _ hother

end Rotation

/-! ## The states of the two packages -/

/-- The two packages of an update, and what they are told apart by. -/
structure UpdatePackages where
  releaseInfo : DesktopReleaseInfo
  productCode : String → String
  old : ExpectedPackageIdentity
  new : ExpectedPackageIdentity
  distinct : old ≠ new

namespace UpdatePackages

variable (packages : UpdatePackages)

/-- The promotion after an accepted update. -/
def promote : CacheProgram Unit :=
  promoteAcceptedCandidate packages.releaseInfo packages.productCode packages.new
    packages.old

/-- The way back after a rollback. -/
def normalize : CacheProgram Unit :=
  normalizeRolledBackPackages packages.releaseInfo packages.productCode packages.new
    packages.old

/-- The old package is in the directory, in one of the roles. -/
def Old (cache : PackageCache) (entry : CacheEntry) (roles : List CacheSlotRole) : Prop :=
  Holds packages.releaseInfo packages.productCode cache entry packages.old roles

/-- The entry is the new package, in these slots. -/
def New (cache : PackageCache) (entry : CacheEntry) (roles : List CacheSlotRole) : Prop :=
  Holds packages.releaseInfo packages.productCode cache entry packages.new roles

instance (cache : PackageCache) (entry : CacheEntry) (roles : List CacheSlotRole) :
    Decidable (packages.Old cache entry roles) :=
  inferInstanceAs (Decidable (Holds _ _ _ _ _ _))

instance (cache : PackageCache) (entry : CacheEntry) (roles : List CacheSlotRole) :
    Decidable (packages.New cache entry roles) :=
  inferInstanceAs (Decidable (Holds _ _ _ _ _ _))

/-- The states that a promotion goes through. -/
inductive Promotable (cache : PackageCache) : Prop
  | waiting (hcurrent : packages.Old cache .current [.current])
      (hcandidate : packages.New cache .candidate [.candidate])
      (hnext : cache .rollbackCandidateNext = none)
  | between (hcurrent : cache .current = none)
      (hcandidate : packages.New cache .candidate [.candidate])
      (hprevious : packages.Old cache .previous [.current, .previous])
      (hnext : cache .rollbackCandidateNext = none)
  | rotated (hcurrent : packages.New cache .current [.candidate, .current])
      (hcandidate : cache .candidate = none)
      (hprevious : packages.Old cache .previous [.current, .previous])
      (hnext : cache .rollbackCandidateNext = none)

/-- The states that a reversal goes through. -/
inductive Reversing (cache : PackageCache) : Prop
  | inPlace (hcurrent : packages.Old cache .current [.current, .previous])
      (hcandidate : packages.New cache .candidate [.candidate, .current])
      (hnext : cache .rollbackCandidateNext = none)
  | aside (hcurrent : cache .current = none) (hcandidate : cache .candidate = none)
      (hprevious : packages.Old cache .previous [.current, .previous])
      (hnext : packages.New cache .rollbackCandidateNext [.candidate, .current])
  | restored (hcurrent : packages.Old cache .current [.current, .previous])
      (hcandidate : cache .candidate = none) (hprevious : cache .previous = none)
      (hnext : packages.New cache .rollbackCandidateNext [.candidate, .current])

/-- A state that one of the two goes on from. -/
def Rotation (cache : PackageCache) : Prop :=
  packages.Promotable cache ∨ packages.Reversing cache

variable {packages} {s t : PackageCache} {crashes : Prop}

/-- Neither package is lost. -/
theorem Rotation.keeps (h : packages.Rotation s) :
    (∃ entry roles, packages.Old s entry roles) ∧ ∃ entry roles, packages.New s entry roles := by
  rcases h with h | h
  · cases h with
    | waiting hcurrent hcandidate _ => exact ⟨⟨_, _, hcurrent⟩, _, _, hcandidate⟩
    | between _ hcandidate hprevious _ => exact ⟨⟨_, _, hprevious⟩, _, _, hcandidate⟩
    | rotated hcurrent _ hprevious _ => exact ⟨⟨_, _, hprevious⟩, _, _, hcurrent⟩
  · cases h with
    | inPlace hcurrent hcandidate _ => exact ⟨⟨_, _, hcurrent⟩, _, _, hcandidate⟩
    | aside _ _ hprevious hnext => exact ⟨⟨_, _, hprevious⟩, _, _, hnext⟩
    | restored hcurrent _ _ hnext => exact ⟨⟨_, _, hcurrent⟩, _, _, hnext⟩

/-! ## Promotion -/

/-- What a promotion is for: each package has its place, and says so. -/
def Promoted (packages : UpdatePackages) (cache : PackageCache) : Prop :=
  packages.New cache .current [.current] ∧ packages.Old cache .previous [.previous] ∧
    cache .candidate = none ∧ cache .rollbackCandidateNext = none

/-- The end of a promotion: both packages are checked and told their roles. -/
def writeRoles (packages : UpdatePackages) : CacheProgram Unit := do
  validateJournalSlot packages.releaseInfo packages.productCode .current packages.new
    [.candidate, .current]
  validateJournalSlot packages.releaseInfo packages.productCode .previous packages.old
    [.current, .previous]
  writeMetadata .current packages.new .current
  writeMetadata .previous packages.old .previous
  housekeeping
  validateJournalSlot packages.releaseInfo packages.productCode .current packages.new [.current]
  validateJournalSlot packages.releaseInfo packages.productCode .previous packages.old [.previous]

/-- Both packages have changed places; the roles are still to be written. -/
theorem steady_writeRoles (hcurrent : packages.New s .current [.candidate, .current])
    (hcandidate : s .candidate = none) (hprevious : packages.Old s .previous [.current, .previous])
    (hnext : s .rollbackCandidateNext = none) :
    wp (Fate.Steady crashes) (writeRoles packages)
      ⟨fun _ => packages.Promoted, fun _ _ => False,
        Midway crashes packages.Promotable⟩ s := by
  have hrotated : packages.Promotable s := .rotated hcurrent hcandidate hprevious hnext
  refine wp_bind (steady_valid hrotated hcurrent (wp_bind (steady_valid hrotated hprevious ?_)))
  refine wp_bind (steady_writeMetadata hrotated hcurrent fun t hcurrent hframe => ?_)
  have hcandidate : t .candidate = none := (hframe _ (by decide)).trans hcandidate
  have hprevious : packages.Old t .previous [.current, .previous] :=
    hprevious.congr (hframe _ (by decide))
  have hnext : t .rollbackCandidateNext = none := (hframe _ (by decide)).trans hnext
  have hrotated : packages.Promotable t :=
    .rotated (hcurrent.weaken (by simp)) hcandidate hprevious hnext
  refine ⟨hrotated, wp_bind (steady_writeMetadata hrotated hprevious fun u hprevious hframe => ?_)⟩
  have hcurrent : packages.New u .current [.current] := hcurrent.congr (hframe _ (by decide))
  have hcandidate : u .candidate = none := (hframe _ (by decide)).trans hcandidate
  have hnext : u .rollbackCandidateNext = none := (hframe _ (by decide)).trans hnext
  have hrotated : packages.Promotable u :=
    .rotated (hcurrent.weaken (by simp)) hcandidate (hprevious.weaken (by simp)) hnext
  refine ⟨hrotated, wp_bind (steady_housekeeping hrotated ?_)⟩
  exact wp_bind (steady_valid hrotated hcurrent (steady_valid hrotated hprevious
    ⟨hcurrent, hprevious, hcandidate, hnext⟩))

/-- The old package is out of the way. -/
theorem steady_installCandidate (h : packages.Promotable s)
    (hmoved : ¬ packages.Old s .current [.current]) :
    wp (Fate.Steady crashes) (do
        if ← pathExists .candidate then do
          validateJournalSlot packages.releaseInfo packages.productCode .previous
            packages.old [.current, .previous]
          validateJournalSlot packages.releaseInfo packages.productCode .candidate
            packages.new [.candidate]
          rename .candidate .current
          housekeeping
        writeRoles packages)
      ⟨fun _ => packages.Promoted, fun _ _ => False,
        Midway crashes packages.Promotable⟩ s := by
  refine wp_bind (steady_pathExists h ?_)
  cases h with
  | waiting hcurrent _ _ => exact absurd hcurrent hmoved
  | between hcurrent hcandidate hprevious hnext =>
      have hbetween : packages.Promotable s := .between hcurrent hcandidate hprevious hnext
      obtain ⟨directory, hdirectory⟩ := hcandidate.exists_directory
      rw [hdirectory]
      refine wp_bind (steady_valid hbetween hprevious
        (wp_bind (steady_valid hbetween hcandidate ?_)))
      refine wp_bind (steady_rename hbetween hdirectory hcurrent (by decide)
        fun t hinstalled hgone hframe => ?_)
      have hcurrent : packages.New t .current [.candidate, .current] :=
        (hcandidate.weaken (by simp)).congr hinstalled
      have hprevious : packages.Old t .previous [.current, .previous] :=
        hprevious.congr (hframe _ (by decide) (by decide))
      have hnext : t .rollbackCandidateNext = none :=
        (hframe _ (by decide) (by decide)).trans hnext
      have hrotated : packages.Promotable t := .rotated hcurrent hgone hprevious hnext
      exact ⟨hrotated, wp_bind (steady_housekeeping hrotated
        (steady_writeRoles hcurrent hgone hprevious hnext))⟩
  | rotated hcurrent hcandidate hprevious hnext =>
      rw [hcandidate]
      exact steady_writeRoles hcurrent hcandidate hprevious hnext

/-- An older package makes room for the old one. -/
theorem steady_moveCurrentAside (hcurrent : packages.Old s .current [.current])
    (hcandidate : packages.New s .candidate [.candidate])
    (hnext : s .rollbackCandidateNext = none) :
    wp (Fate.Steady crashes)
      (moveCurrentAside packages.releaseInfo packages.productCode
        packages.old packages.new (s .previous).isSome)
      ⟨fun _ t => packages.Promotable t ∧ t .current = none, fun _ _ => False,
        Midway crashes packages.Promotable⟩ s := by
  have hwaiting : packages.Promotable s := .waiting hcurrent hcandidate hnext
  -- The room is there.
  have hrename : ∀ t : PackageCache, packages.Old t .current [.current] →
      packages.New t .candidate [.candidate] → t .rollbackCandidateNext = none →
      t .previous = none →
      wp (Fate.Steady crashes) (do
          rename .current .previous
          housekeeping)
        ⟨fun _ u => packages.Promotable u ∧ u .current = none, fun _ _ => False,
        Midway crashes packages.Promotable⟩ t := by
    intro t hcurrent hcandidate hnext hroom
    obtain ⟨directory, hdirectory⟩ := hcurrent.exists_directory
    refine wp_bind (steady_rename (.waiting hcurrent hcandidate hnext) hdirectory hroom (by decide)
      fun u hmoved hgone hframe => ?_)
    have hbetween : packages.Promotable u :=
      .between hgone (hcandidate.congr (hframe _ (by decide) (by decide)))
        ((hcurrent.weaken (by simp)).congr hmoved)
        ((hframe _ (by decide) (by decide)).trans hnext)
    exact ⟨hbetween, steady_housekeeping hbetween ⟨hbetween, hgone⟩⟩
  refine wp_bind (steady_valid hwaiting hcurrent (wp_bind (steady_valid hwaiting hcandidate ?_)))
  cases hprevious : s .previous with
  | none => exact hrename s hcurrent hcandidate hnext hprevious
  | some directory =>
      have hkept : ∀ t : PackageCache, (∀ other, other ≠ CacheEntry.previous → t other = s other) →
          packages.Old t .current [.current] ∧ packages.New t .candidate [.candidate] ∧
            t .rollbackCandidateNext = none := fun t hframe =>
        ⟨hcurrent.congr (hframe _ (by decide)), hcandidate.congr (hframe _ (by decide)),
          (hframe _ (by decide)).trans hnext⟩
      have hstill : ∀ t : PackageCache,
          (∀ other, other ≠ CacheEntry.previous → t other = s other) → packages.Promotable t :=
        fun t hframe =>
          .waiting (hkept t hframe).1 (hkept t hframe).2.1 (hkept t hframe).2.2
      refine wp_bind (steady_assertSlotDirectory hwaiting (by rw [hprevious]; nofun) ?_)
      refine wp_bind (steady_removeFiles hstill fun t hroom hframe => ?_)
      obtain ⟨hcurrent, hcandidate, hnext⟩ := hkept t hframe
      exact wp_bind (steady_housekeeping (hstill t hframe)
        (hrename t hcurrent hcandidate hnext hroom))

/-- **A PROMOTION IS RESUMED** from every state that it goes through. -/
theorem steady_promote (h : packages.Promotable s) :
    wp (Fate.Steady crashes) packages.promote
      ⟨fun _ => packages.Promoted, fun _ _ => False,
        Midway crashes packages.Promotable⟩ s := by
  have hold : ∀ {t : PackageCache}, packages.New t .current [.candidate, .current] →
      ¬ packages.Old t .current [.current] := by
    rintro t ⟨_, _, hnew⟩ ⟨_, _, hold⟩
    rw [hnew] at hold
    exact packages.distinct (congrArg Prod.fst (Option.some.inj hold)).symm
  refine wp_bind (steady_housekeeping h ?_)
  refine wp_bind (steady_pathExists h (wp_bind (steady_pathExists h (wp_bind
    (steady_pathExists h ?_)))))
  cases h with
  | waiting hcurrent hcandidate hnext =>
      rw [Option.isSome_iff_ne_none.mpr hcurrent.not_none,
        Option.isSome_iff_ne_none.mpr hcandidate.not_none]
      refine wp_bind ((steady_moveCurrentAside hcurrent hcandidate hnext).mono ?_
        (fun _ _ ht => ht) fun _ ht => ht)
      rintro _ t ⟨hbetween, hgone⟩
      exact steady_installCandidate hbetween fun hstill => hstill.not_none hgone
  | between hcurrent hcandidate hprevious hnext =>
      rw [hcurrent, Option.isSome_iff_ne_none.mpr hcandidate.not_none,
        Option.isSome_iff_ne_none.mpr hprevious.not_none]
      exact steady_installCandidate (.between hcurrent hcandidate hprevious hnext)
        fun hstill => hstill.not_none hcurrent
  | rotated hcurrent hcandidate hprevious hnext =>
      rw [hcandidate, Option.isSome_iff_ne_none.mpr hcurrent.not_none,
        Option.isSome_iff_ne_none.mpr hprevious.not_none]
      exact steady_installCandidate (.rotated hcurrent hcandidate hprevious hnext) (hold hcurrent)

/-! ## Reversal -/

/-- What a reversal is for. -/
def Normalized (packages : UpdatePackages) (cache : PackageCache) : Prop :=
  packages.Old cache .current [.current] ∧ packages.New cache .candidate [.candidate] ∧
    cache .previous = none ∧ cache .rollbackCandidateNext = none

/-- A reversal passes over its own states, and over those of a completed promotion. -/
def MidReversal (packages : UpdatePackages) (cache : PackageCache) : Prop :=
  packages.Reversing cache ∨
    (packages.New cache .current [.candidate, .current] ∧ cache .candidate = none ∧
      packages.Old cache .previous [.current, .previous] ∧ cache .rollbackCandidateNext = none)

/-- Both packages are in their places, and nothing else is; the roles are still to be
    written. -/
theorem steady_settleReversal (hcurrent : packages.Old s .current [.current, .previous])
    (hcandidate : packages.New s .candidate [.candidate, .current])
    (hprevious : s .previous = none) (hnext : s .rollbackCandidateNext = none) :
    wp (Fate.Steady crashes) (do
        validateJournalSlot packages.releaseInfo packages.productCode .current
          packages.old [.current, .previous]
        validateJournalSlot packages.releaseInfo packages.productCode .candidate
          packages.new [.candidate, .current]
        writeMetadata .current packages.old .current
        writeMetadata .candidate packages.new .candidate
        housekeeping
        removeOwnedDirectoryIfPresent .previous
        removeOwnedDirectoryIfPresent .rollbackCandidateNext
        housekeeping
        validateJournalSlot packages.releaseInfo packages.productCode .current
          packages.old [.current])
      ⟨fun _ => packages.Normalized, fun _ _ => False,
        Midway crashes packages.MidReversal⟩ s := by
  have hplace : packages.MidReversal s := .inl (.inPlace hcurrent hcandidate hnext)
  refine wp_bind (steady_valid hplace hcurrent (wp_bind (steady_valid hplace hcandidate ?_)))
  refine wp_bind (steady_writeMetadata hplace hcurrent fun t hcurrent hframe => ?_)
  have hcandidate : packages.New t .candidate [.candidate, .current] :=
    hcandidate.congr (hframe _ (by decide))
  have hprevious : t .previous = none := (hframe _ (by decide)).trans hprevious
  have hnext : t .rollbackCandidateNext = none := (hframe _ (by decide)).trans hnext
  have hplace : packages.MidReversal t :=
    .inl (.inPlace (hcurrent.weaken (by simp)) hcandidate hnext)
  refine ⟨hplace, wp_bind (steady_writeMetadata hplace hcandidate
    fun u hcandidate hframe => ?_)⟩
  have hcurrent : packages.Old u .current [.current] := hcurrent.congr (hframe _ (by decide))
  have hprevious : u .previous = none := (hframe _ (by decide)).trans hprevious
  have hnext : u .rollbackCandidateNext = none := (hframe _ (by decide)).trans hnext
  have hplace : packages.MidReversal u :=
    .inl (.inPlace (hcurrent.weaken (by simp)) (hcandidate.weaken (by simp)) hnext)
  refine ⟨hplace, wp_bind (steady_housekeeping hplace ?_)⟩
  have habsent : ∀ {entry : CacheEntry} {Q : Unit → PackageCache → Prop}, u entry = none →
      Q () u → wp (Fate.Steady crashes) (removeOwnedDirectoryIfPresent entry)
        ⟨Q, fun _ _ => False,
        Midway crashes packages.MidReversal⟩ u := by
    intro entry Q hentry hQ
    refine wp_bind (steady_pathExists hplace ?_)
    rw [hentry]
    exact wp_pure hQ
  refine wp_bind (habsent hprevious (wp_bind (habsent hnext ?_)))
  exact wp_bind (steady_housekeeping hplace (steady_valid hplace hcurrent
    ⟨hcurrent, hcandidate, hprevious, hnext⟩))

/-- Both packages are in their places, and the previous one is no stranger. -/
structure InPlace (packages : UpdatePackages) (cache : PackageCache) : Prop where
  current : packages.Old cache .current [.current, .previous]
  candidate : packages.New cache .candidate [.candidate, .current]
  next : cache .rollbackCandidateNext = none
  previous : cache .previous = none ∨ packages.Old cache .previous [.current, .previous]

/-- Both packages have changed places. -/
structure Rotated (packages : UpdatePackages) (cache : PackageCache) : Prop where
  current : packages.New cache .current [.candidate, .current]
  candidate : cache .candidate = none
  previous : packages.Old cache .previous [.current, .previous]
  next : cache .rollbackCandidateNext = none

theorem InPlace.mid (h : packages.InPlace s) : packages.MidReversal s :=
  .inl (.inPlace h.current h.candidate h.next)

theorem Rotated.mid (h : packages.Rotated s) : packages.MidReversal s :=
  .inr ⟨h.current, h.candidate, h.previous, h.next⟩

/-- The last of the three renames. -/
theorem steady_returnCandidate (hcurrent : packages.Old s .current [.current, .previous])
    (hcandidate : s .candidate = none) (hprevious : s .previous = none)
    (hnext : packages.New s .rollbackCandidateNext [.candidate, .current]) :
    wp (Fate.Steady crashes) (do
        rename .rollbackCandidateNext .candidate
        housekeeping)
      ⟨fun _ t => packages.InPlace t ∧ t .previous = none, fun _ _ => False,
        Midway crashes packages.MidReversal⟩ s := by
  have hrestored : packages.MidReversal s :=
    .inl (.restored hcurrent hcandidate hprevious hnext)
  obtain ⟨directory, hdirectory⟩ := hnext.exists_directory
  refine wp_bind (steady_rename hrestored hdirectory hcandidate (by decide)
    fun t hback hgone hframe => ?_)
  have hprevious : t .previous = none := (hframe _ (by decide) (by decide)).trans hprevious
  have hplace : packages.InPlace t :=
    ⟨hcurrent.congr (hframe _ (by decide) (by decide)), hnext.congr hback, hgone, .inl hprevious⟩
  exact ⟨hplace.mid, steady_housekeeping hplace.mid ⟨hplace, hprevious⟩⟩

/-- The last two of the three renames. -/
theorem steady_restoreCurrent {k : CacheProgram Unit}
    {post : Post PackageCache LocalUpdatePackageCacheError Unit}
    (hpost : post.stopped = Midway crashes packages.MidReversal) (hcurrent : s .current = none)
    (hcandidate : s .candidate = none)
    (hprevious : packages.Old s .previous [.current, .previous])
    (hnext : packages.New s .rollbackCandidateNext [.candidate, .current])
    (hk : ∀ t : PackageCache, packages.Old t .current [.current, .previous] →
      t .candidate = none → t .previous = none →
      packages.New t .rollbackCandidateNext [.candidate, .current] →
      wp (Fate.Steady crashes) k post t) :
    wp (Fate.Steady crashes) (do
        rename .previous .current
        housekeeping
        k) post s := by
  obtain ⟨returned, threw, stopped⟩ := post
  obtain rfl : stopped = Midway crashes packages.MidReversal := hpost
  have haside : packages.MidReversal s := .inl (.aside hcurrent hcandidate hprevious hnext)
  obtain ⟨directory, hdirectory⟩ := hprevious.exists_directory
  refine wp_bind (steady_rename haside hdirectory hcurrent (by decide)
    fun t hback hgone hframe => ?_)
  have hcurrent : packages.Old t .current [.current, .previous] := hprevious.congr hback
  have hcandidate : t .candidate = none := (hframe _ (by decide) (by decide)).trans hcandidate
  have hnext : packages.New t .rollbackCandidateNext [.candidate, .current] :=
    hnext.congr (hframe _ (by decide) (by decide))
  have hrestored : packages.MidReversal t := .inl (.restored hcurrent hcandidate hgone hnext)
  exact ⟨hrestored, wp_bind (steady_housekeeping hrestored (hk t hcurrent hcandidate hgone hnext))⟩

/-- The states that a reversal completes from. -/
inductive Normalizable (packages : UpdatePackages) (cache : PackageCache) : Prop
  | inPlace (h : packages.InPlace cache)
  | rotated (h : packages.Rotated cache)
  | aside (hcurrent : cache .current = none) (hcandidate : cache .candidate = none)
      (hprevious : packages.Old cache .previous [.current, .previous])
      (hnext : packages.New cache .rollbackCandidateNext [.candidate, .current])
  | restored (hcurrent : packages.Old cache .current [.current, .previous])
      (hcandidate : cache .candidate = none) (hprevious : cache .previous = none)
      (hnext : packages.New cache .rollbackCandidateNext [.candidate, .current])

theorem Normalizable.mid (h : packages.Normalizable s) : packages.MidReversal s := by
  cases h with
  | inPlace h => exact h.mid
  | rotated h => exact h.mid
  | aside hcurrent hcandidate hprevious hnext =>
      exact .inl (.aside hcurrent hcandidate hprevious hnext)
  | restored hcurrent hcandidate hprevious hnext =>
      exact .inl (.restored hcurrent hcandidate hprevious hnext)

/-- A reversal that was cut off is first brought to one of two states. -/
theorem steady_resume (h : packages.Normalizable s) :
    wp (Fate.Steady crashes) resumeInterruptedRollbackNormalization
      ⟨fun _ t => packages.InPlace t ∨ packages.Rotated t, fun _ _ => False,
        Midway crashes packages.MidReversal⟩ s := by
  have hmid := h.mid
  refine wp_bind (steady_pathExists hmid ?_)
  have hreturn : ∀ t : PackageCache, packages.Old t .current [.current, .previous] →
      t .candidate = none → t .previous = none →
      packages.New t .rollbackCandidateNext [.candidate, .current] →
      wp (Fate.Steady crashes) (do
          if ← pathExists .candidate then throw .notStoredSafely
          rename .rollbackCandidateNext .candidate
          housekeeping)
        ⟨fun _ u => packages.InPlace u ∨ packages.Rotated u, fun _ _ => False,
        Midway crashes packages.MidReversal⟩ t := by
    intro t hcurrent hcandidate hprevious hnext
    refine wp_bind (steady_pathExists (.inl (.restored hcurrent hcandidate hprevious hnext)) ?_)
    rw [hcandidate]
    exact (steady_returnCandidate hcurrent hcandidate hprevious hnext).mono
      (fun _ _ ht => .inl ht.1) (fun _ _ ht => ht) fun _ ht => ht
  cases h with
  | inPlace h =>
      rw [h.next]
      exact wp_pure (.inl h)
  | rotated h =>
      rw [h.next]
      exact wp_pure (.inr h)
  | aside hcurrent hcandidate hprevious hnext =>
      rw [Option.isSome_iff_ne_none.mpr hnext.not_none]
      refine wp_bind (steady_assertSlotDirectory hmid hnext.not_none ?_)
      refine wp_bind (steady_pathExists hmid ?_)
      rw [hcurrent]
      refine wp_bind (steady_pathExists hmid ?_)
      rw [Option.isSome_iff_ne_none.mpr hprevious.not_none]
      exact steady_restoreCurrent rfl hcurrent hcandidate hprevious hnext hreturn
  | restored hcurrent hcandidate hprevious hnext =>
      rw [Option.isSome_iff_ne_none.mpr hnext.not_none]
      refine wp_bind (steady_assertSlotDirectory hmid hnext.not_none ?_)
      refine wp_bind (steady_pathExists hmid ?_)
      rw [Option.isSome_iff_ne_none.mpr hcurrent.not_none]
      exact hreturn s hcurrent hcandidate hprevious hnext

/-- A directory with one package does not hold the other. -/
theorem New.not_old {entry : CacheEntry} {roles others : List CacheSlotRole}
    (h : packages.New s entry roles) : ¬ packages.Old s entry others := by
  rintro ⟨_, _, hold⟩
  obtain ⟨_, _, hnew⟩ := h
  rw [hnew] at hold
  exact packages.distinct (congrArg Prod.fst (Option.some.inj hold)).symm

/-- The places that `rotateBack` looks at, in the order of its arguments. -/
def sees (packages : UpdatePackages) (cache : PackageCache) : CacheProgram Unit :=
  rotateBack (decide (packages.Old cache .current [.current, .previous]))
    (decide (packages.New cache .current [.candidate, .current]))
    (decide (packages.New cache .candidate [.candidate, .current]))
    (decide (packages.Old cache .previous [.current, .previous]))

/-- The packages change places, from wherever they are. -/
theorem steady_rotateBack (h : packages.InPlace s ∨ packages.Rotated s) :
    wp (Fate.Steady crashes) (packages.sees s)
      ⟨fun _ t => packages.InPlace t ∧ t .previous = none, fun _ _ => False,
        Midway crashes packages.MidReversal⟩ s := by
  rcases h with h | h
  · have hmid := h.mid
    rw [sees, decide_eq_true h.current, decide_eq_true h.candidate]
    refine wp_bind (steady_pathExists hmid ?_)
    cases hprevious : s .previous with
    | none => exact wp_pure ⟨h, hprevious⟩
    | some directory =>
        have hold := h.previous.resolve_left (by rw [hprevious]; nofun)
        rw [decide_eq_true hold]
        have hkept : ∀ t : PackageCache,
            (∀ other, other ≠ CacheEntry.previous → t other = s other) →
            packages.MidReversal t := fun t hframe =>
          .inl (.inPlace (h.current.congr (hframe _ (by decide)))
            (h.candidate.congr (hframe _ (by decide))) ((hframe _ (by decide)).trans h.next))
        refine wp_bind (wp_bind (steady_assertSlotDirectory hmid hold.not_none ?_))
        refine steady_removeFiles hkept fun t hgone hframe => ?_
        have hplace : packages.InPlace t :=
          ⟨h.current.congr (hframe _ (by decide)), h.candidate.congr (hframe _ (by decide)),
            (hframe _ (by decide)).trans h.next, .inl hgone⟩
        exact steady_housekeeping hplace.mid ⟨hplace, hgone⟩
  · have hmid := h.mid
    have hcandidate : ¬ packages.New s .candidate [.candidate, .current] :=
      not_holds_of_absent h.candidate
    have hcurrent : ¬ packages.Old s .current [.current, .previous] := h.current.not_old
    rw [sees, decide_eq_false hcurrent, decide_eq_true h.current, decide_eq_false hcandidate,
      decide_eq_true h.previous]
    refine wp_bind (steady_pathExists hmid ?_)
    rw [h.candidate]
    obtain ⟨directory, hdirectory⟩ := h.current.exists_directory
    refine wp_bind (steady_rename hmid hdirectory h.next (by decide)
      fun t haside hgone hframe => ?_)
    have hnone : t .candidate = none := (hframe _ (by decide) (by decide)).trans h.candidate
    have hprevious : packages.Old t .previous [.current, .previous] :=
      h.previous.congr (hframe _ (by decide) (by decide))
    have hnext : packages.New t .rollbackCandidateNext [.candidate, .current] :=
      h.current.congr haside
    have hmid : packages.MidReversal t := .inl (.aside hgone hnone hprevious hnext)
    exact ⟨hmid, wp_bind (steady_housekeeping hmid
      (steady_restoreCurrent rfl hgone hnone hprevious hnext fun u => steady_returnCandidate))⟩

/-- **A REVERSAL IS RESUMED** from every state that it can begin in. -/
theorem steady_normalize (h : packages.Normalizable s) :
    wp (Fate.Steady crashes) packages.normalize
      ⟨fun _ => packages.Normalized, fun _ _ => False,
        Midway crashes packages.MidReversal⟩ s := by
  refine wp_bind (steady_housekeeping h.mid (wp_bind ((steady_resume h).mono ?_
    (fun _ _ ht => ht) fun _ ht => ht)))
  intro _ t hrest
  have hmid : packages.MidReversal t := hrest.elim InPlace.mid Rotated.mid
  refine wp_bind (steady_slotMatchesIdentity hmid (wp_bind (steady_slotMatchesIdentity hmid
    (wp_bind (steady_slotMatchesIdentity hmid (wp_bind (steady_slotMatchesIdentity hmid ?_)))))))
  refine wp_bind ((steady_rotateBack hrest).mono ?_ (fun _ _ ht => ht) fun _ ht => ht)
  rintro _ u ⟨hplace, hprevious⟩
  exact steady_settleReversal hplace.current hplace.candidate hprevious hplace.next

/-! ## What is refused -/

/-- A run that is refused changes nothing. -/
def Refused (crashes : Prop) (m : CacheProgram Unit) (cache : PackageCache) : Prop :=
  wp (Fate.Steady crashes) m
    ⟨fun _ _ => False, fun _ t => t = cache, Midway crashes fun t => t = cache⟩ cache

/-- Nothing is to be resumed, and then `rotateBack` refuses. -/
theorem normalize_refused (hnext : s .rollbackCandidateNext = none)
    (h : Refused crashes (packages.sees s) s) : Refused crashes packages.normalize s := by
  refine wp_bind (steady_housekeeping rfl (wp_bind (wp_bind (steady_pathExists rfl ?_))))
  rw [hnext]
  refine wp_pure (wp_bind (steady_slotMatchesIdentity rfl (wp_bind (steady_slotMatchesIdentity rfl
    (wp_bind (steady_slotMatchesIdentity rfl (wp_bind (steady_slotMatchesIdentity rfl ?_))))))))
  exact wp_bind (wp.mono h (fun _ _ hfalse => hfalse.elim) (fun _ _ ht => ht) fun _ ht => ht)

/-- Between the renames of a promotion, no reversal begins. -/
theorem normalize_refused_between (hcurrent : s .current = none)
    (hnext : s .rollbackCandidateNext = none) : Refused crashes packages.normalize s := by
  refine normalize_refused hnext ?_
  have hold : ¬ packages.Old s .current [.current, .previous] := not_holds_of_absent hcurrent
  have hnew : ¬ packages.New s .current [.candidate, .current] := not_holds_of_absent hcurrent
  rw [sees, decide_eq_false hold, decide_eq_false hnew]
  exact wp_throw rfl

/-- Nor is a previous package removed that is not the old one. -/
theorem normalize_refused_stranger (hcurrent : packages.Old s .current [.current, .previous])
    (hcandidate : packages.New s .candidate [.candidate, .current])
    (hnext : s .rollbackCandidateNext = none) (hprevious : s .previous ≠ none)
    (hstranger : ¬ packages.Old s .previous [.current, .previous]) :
    Refused crashes packages.normalize s := by
  refine normalize_refused hnext ?_
  rw [sees, decide_eq_true hcurrent, decide_eq_true hcandidate, decide_eq_false hstranger]
  refine wp_bind (steady_pathExists rfl ?_)
  rw [Option.isSome_iff_ne_none.mpr hprevious]
  exact wp_bind (wp_throw rfl)

/-- A reversal that has begun is not followed by a promotion. -/
theorem promote_refused (h : packages.Reversing s) (hnot : ¬ packages.Promotable s) :
    Refused crashes packages.promote s := by
  refine wp_bind (steady_housekeeping rfl ?_)
  refine wp_bind (steady_pathExists rfl (wp_bind (steady_pathExists rfl (wp_bind
    (steady_pathExists rfl ?_)))))
  cases h with
  | inPlace hcurrent hcandidate hnext =>
      rw [Option.isSome_iff_ne_none.mpr hcurrent.not_none,
        Option.isSome_iff_ne_none.mpr hcandidate.not_none]
      -- One of the two has the wrong role.
      refine wp_bind (wp_bind (steady_validateJournalSlot rfl ?_ fun _ => rfl))
      intro hold
      refine wp_bind (steady_validateJournalSlot rfl ?_ fun _ => rfl)
      intro hnew
      exact absurd (.waiting hold hnew hnext) hnot
  | aside hcurrent hcandidate _ _ =>
      rw [hcurrent, hcandidate]
      exact wp_bind (wp_throw rfl)
  | restored hcurrent hcandidate hprevious _ =>
      rw [hcandidate, hprevious, Option.isSome_iff_ne_none.mpr hcurrent.not_none]
      exact wp_bind (wp_throw rfl)

/-! ## Runs -/

/-- A run of one of the operations without failures, cut off somewhere or not at all. -/
def CutOff (m : CacheProgram Unit) (cache after : PackageCache) : Prop :=
  ∃ fates : List Fate, (∀ fate ∈ fates, fate.ending ≠ .fails) ∧ (m cache fates).2.1 = after

/-- Promotions and reversals in any order. -/
def rotationSystem (packages : UpdatePackages) : TransitionSystem PackageCache where
  initial cache := packages.Old cache .current [.current] ∧
    packages.New cache .candidate [.candidate] ∧ cache .rollbackCandidateNext = none
  step cache after := CutOff packages.promote cache after ∨ CutOff packages.normalize cache after

/-- Left to itself, the operation returns and has done what it is for. -/
def Completes (m : CacheProgram Unit) (P : PackageCache → Prop) (cache : PackageCache) : Prop :=
  (m cache []).1 = .returned () ∧ P (m cache []).2.1

/-- What a reversal does not begin with: a promotion that is between its renames, or a
    previous directory, beside the other two, without the old package. -/
def Blocked (packages : UpdatePackages) (cache : PackageCache) : Prop :=
  cache .rollbackCandidateNext = none ∧ cache .candidate ≠ none ∧
    (cache .current = none ∨
      (cache .previous ≠ none ∧ ¬ packages.Old cache .previous [.current, .previous]))

theorem Promoted.promotable (h : packages.Promoted s) : packages.Promotable s :=
  .rotated (h.1.weaken (by simp)) h.2.2.1 (h.2.1.weaken (by simp)) h.2.2.2

theorem Normalized.reversing (h : packages.Normalized s) : packages.Reversing s :=
  .inPlace (h.1.weaken (by simp)) (h.2.1.weaken (by simp)) h.2.2.2

theorem MidReversal.rotation (h : packages.MidReversal s) : packages.Rotation s := by
  rcases h with h | ⟨hcurrent, hcandidate, hprevious, hnext⟩
  · exact .inr h
  · exact .inl (.rotated hcurrent hcandidate hprevious hnext)

/-- A promotion that was cut off can be promoted. -/
theorem Promotable.cutOff (h : packages.Promotable s) (hrun : CutOff packages.promote s t) :
    packages.Promotable t := by
  obtain ⟨fates, hfates, rfl⟩ := hrun
  rcases ended_steady (steady_promote h) hfates with ⟨_, hdone⟩ | ⟨_, hfalse⟩ | hmid
  · exact hdone.promotable
  · exact hfalse.elim
  · exact hmid

theorem Refused.cutOff (h : Refused True m s) (hrun : CutOff m s t) : t = s := by
  obtain ⟨fates, hfates, rfl⟩ := hrun
  rcases ended_steady h hfates with ⟨_, hfalse⟩ | ⟨_, hkept⟩ | hkept
  · exact hfalse.elim
  · exact hkept
  · exact hkept

theorem Refused.not_completes {P : PackageCache → Prop} (h : Refused False m s) :
    ¬ Completes m P s := by
  rintro ⟨hreturned, _⟩
  rcases undisturbed_steady h with ⟨_, _, hfalse⟩ | ⟨e, hthrew, _⟩
  · exact hfalse
  · rw [hthrew] at hreturned
    cases hreturned

theorem completes_of_steady {P I : PackageCache → Prop}
    (h : wp (Fate.Steady False) m ⟨fun _ => P, fun _ _ => False, Midway False I⟩ s) :
    Completes m P s := by
  rcases undisturbed_steady h with ⟨_, hreturned, hP⟩ | ⟨_, _, hfalse⟩
  · exact ⟨hreturned, hP⟩
  · exact hfalse.elim

/-- A reversal can begin, or it is refused. -/
theorem Rotation.normalizable (h : packages.Rotation s) :
    (packages.Normalizable s ∧ ¬ packages.Blocked s) ∨
      (packages.Blocked s ∧ ∀ crashes, Refused crashes packages.normalize s) := by
  have hplace : packages.Old s .current [.current, .previous] →
      packages.New s .candidate [.candidate, .current] → s .rollbackCandidateNext = none →
      (packages.Normalizable s ∧ ¬ packages.Blocked s) ∨
        (packages.Blocked s ∧ ∀ crashes, Refused crashes packages.normalize s) := by
    intro hcurrent hcandidate hnext
    by_cases hknown : s .previous = none ∨ packages.Old s .previous [.current, .previous]
    · refine .inl ⟨.inPlace ⟨hcurrent, hcandidate, hnext, hknown⟩, ?_⟩
      rintro ⟨_, _, hnone | ⟨hthere, hstranger⟩⟩
      · exact hcurrent.not_none hnone
      · exact hknown.elim hthere hstranger
    · obtain ⟨hthere, hstranger⟩ := not_or.mp hknown
      exact .inr ⟨⟨hnext, hcandidate.not_none, .inr ⟨hthere, hstranger⟩⟩, fun _ =>
        normalize_refused_stranger hcurrent hcandidate hnext hthere hstranger⟩
  rcases h with h | h
  · cases h with
    | waiting hcurrent hcandidate hnext =>
        exact hplace (hcurrent.weaken (by simp)) (hcandidate.weaken (by simp)) hnext
    | between hcurrent hcandidate _ hnext =>
        exact .inr ⟨⟨hnext, hcandidate.not_none, .inl hcurrent⟩, fun _ =>
          normalize_refused_between hcurrent hnext⟩
    | rotated hcurrent hcandidate hprevious hnext =>
        exact .inl ⟨.rotated ⟨hcurrent, hcandidate, hprevious, hnext⟩, fun hblocked =>
          hblocked.2.1 hcandidate⟩
  · cases h with
    | inPlace hcurrent hcandidate hnext => exact hplace hcurrent hcandidate hnext
    | aside hcurrent hcandidate hprevious hnext =>
        exact .inl ⟨.aside hcurrent hcandidate hprevious hnext, fun hblocked =>
          hblocked.2.1 hcandidate⟩
    | restored hcurrent hcandidate hprevious hnext =>
        exact .inl ⟨.restored hcurrent hcandidate hprevious hnext, fun hblocked =>
          hblocked.2.1 hcandidate⟩

theorem Rotation.step (h : packages.Rotation s) (hstep : packages.rotationSystem.step s t) :
    packages.Rotation t := by
  rcases hstep with hrun | hrun
  · by_cases hpromotable : packages.Promotable s
    · exact .inl (hpromotable.cutOff hrun)
    · have hreversing := h.resolve_left hpromotable
      rw [(promote_refused hreversing hpromotable).cutOff hrun]
      exact h
  · rcases h.normalizable with ⟨hnormalizable, _⟩ | ⟨_, hrefused⟩
    · obtain ⟨fates, hfates, rfl⟩ := hrun
      rcases ended_steady (steady_normalize hnormalizable) hfates with
        ⟨_, hdone⟩ | ⟨_, hfalse⟩ | hmid
      · exact .inr hdone.reversing
      · exact hfalse.elim
      · exact hmid.rotation
    · rw [(hrefused True).cutOff hrun]
      exact h

theorem Rotation.reachable (h : Reachable packages.rotationSystem s) : packages.Rotation s := by
  refine Reachable.invariant ?_ ?_ h
  · rintro s ⟨hcurrent, hcandidate, hnext⟩
    exact .inl (.waiting hcurrent hcandidate hnext)
  · intro s t _ hs hstep
    exact hs.step hstep

/-- **ROTATIONS AND REVERSALS IN ANY ORDER**: no package is lost, a promotion that was
    cut off completes when it is run again, and so does a reversal, unless it is blocked. -/
theorem rotations_resumable (h : Reachable packages.rotationSystem s) :
    ((∃ entry roles, packages.Old s entry roles) ∧ ∃ entry roles, packages.New s entry roles) ∧
      (Completes packages.promote packages.Promoted s ↔ packages.Promotable s) ∧
      (∀ t, packages.Promotable s → CutOff packages.promote s t →
        Completes packages.promote packages.Promoted t) ∧
      (Completes packages.normalize packages.Normalized s ↔ ¬ packages.Blocked s) := by
  have hrotation := Rotation.reachable h
  refine ⟨hrotation.keeps, ⟨fun hcompletes => ?_, fun hpromotable => ?_⟩, ?_, ?_⟩
  · by_contra hnot
    exact (promote_refused (hrotation.resolve_left hnot) hnot).not_completes hcompletes
  · exact completes_of_steady (steady_promote hpromotable)
  · intro t hpromotable hrun
    exact completes_of_steady (steady_promote (hpromotable.cutOff hrun))
  · rcases hrotation.normalizable with ⟨hnormalizable, hfree⟩ | ⟨hblocked, hrefused⟩
    · exact iff_of_true (completes_of_steady (steady_normalize hnormalizable)) hfree
    · exact iff_of_false (hrefused False).not_completes (not_not_intro hblocked)

end UpdatePackages

/-! ## An update in its first start -/

namespace SampleRotation

open SampleUpdate UpdatePackages

/-- An update from one release to the next. -/
def packages : UpdatePackages where
  releaseInfo := newRelease
  productCode := id
  old := toExpectedIdentity "0.2.6" oldPackage
  new := toExpectedIdentity "0.2.7" newPackage
  distinct := by decide

/-- The packages of an update, beside what an earlier one has left. -/
def waiting (previous : Option PackageDirectory) : PackageCache :=
  .ofDirectories fun
    | .slot .current => some (packageDirectory newRelease id packages.old .current)
    | .slot .candidate => some (packageDirectory newRelease id packages.new .candidate)
    | .slot .previous => previous
    | _ => none

/-- The package before the old one. -/
def older : PackageDirectory :=
  packageDirectory newRelease id (toExpectedIdentity "0.2.5" { oldPackage with
    buildRevision := "999999999999" }) .previous

/-- The process ends after the first rename of a promotion. -/
def between : PackageCache :=
  (packages.promote (waiting none) (List.replicate 7 default ++ [⟨.crashes, some 0⟩])).2.1

theorem rotations_resumable_between :
    Completes packages.promote packages.Promoted between ∧
      ¬ Completes packages.normalize packages.Normalized between := by
  have hreach : Reachable packages.rotationSystem between := by
    refine .step (.initial (s := waiting none) ⟨?_, ?_, rfl⟩) (.inl ⟨_, by decide, rfl⟩)
    · exact ⟨.current, by decide, by decide⟩
    · exact ⟨.candidate, by decide, by decide⟩
  have hresumable := rotations_resumable hreach
  have hcandidate : packages.New between .candidate [.candidate] :=
    ⟨.candidate, by decide, by decide +kernel⟩
  have hold : packages.Old between .previous [.current, .previous] :=
    ⟨.current, by decide, by decide +kernel⟩
  exact ⟨hresumable.2.1.mpr (.between (by decide +kernel) hcandidate hold (by decide +kernel)),
    fun hcompletes => hresumable.2.2.2.mp hcompletes
      ⟨by decide +kernel, hcandidate.not_none, .inl (by decide +kernel)⟩⟩

/-- A reversal throws between the renames of a promotion; and it throws when the
    previous package of an earlier update is still there. -/
theorem reversal_refused :
    (packages.promote (waiting none) (List.replicate 7 default ++ [⟨.crashes, some 0⟩])).1 =
        .stopped ∧
      (packages.normalize between []).1 = .threw .notStoredSafely ∧
      (packages.normalize (waiting (some older)) []).1 = .threw .notStoredSafely := by
  decide +kernel

end SampleRotation

end PackageCache
