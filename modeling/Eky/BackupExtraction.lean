import Eky.BackupRoundTrip
import Eky.PathResolve

/-! # Where the entries of a backup are extracted

    `extractBackupPayload` writes every entry of an accepted payload to the place that the
    segments of its logical path have below the operation root.

    - `validateRequiredEntries`: the entries that a profile consists of;
    - `destination`: the place of an entry;
    - `extractsCleanly_iff`: the places of all entries lie below every root, differ and do not
      stand in each other's way, exactly when no logical path goes on behind another one and,
      on Windows, no segment names a drive. -/

namespace ProfileBackup

open Fallible Buffers PathResolve

/-- The path of the database. -/
def databaseLogicalPath : String := "profile.sqlite"

/-- The path of the catalog. -/
def artifactCatalogLogicalPath : String := "snapshot-catalog-v1.json"

/-- The directory of the documents. -/
def businessArtifactPrefix : String := "artifacts/invoicing/invoice-documents/"

/-- The entry is the database. -/
def isDatabase (entry : ParsedBackupContainerEntry) : Bool :=
  entry.type = .database && entry.logicalPath = databaseLogicalPath

/-- The entry is the catalog. -/
def isCatalog (entry : ParsedBackupContainerEntry) : Bool :=
  entry.type = .artifactCatalog && entry.logicalPath = artifactCatalogLogicalPath

/-- The entry is a document. -/
def isBusinessArtifact (entry : ParsedBackupContainerEntry) : Bool :=
  entry.type = .businessArtifact
    && businessArtifactPrefix.toList.isPrefixOf entry.logicalPath.toList
    && ".pdf".toList.isSuffixOf entry.logicalPath.toList

/-- Manifest first, one database, one catalog, and documents. -/
def validateRequiredEntries (entries : List ParsedBackupContainerEntry) :
    Except String Unit :=
  let dataEntries := entries.tail
  throwIf (entries.head?.map (·.type) ≠ some .manifest
      ∨ (dataEntries.filter isDatabase).length ≠ 1
      ∨ (dataEntries.filter isCatalog).length ≠ 1
      ∨ dataEntries.any fun entry =>
        !(isDatabase entry || isCatalog entry || isBusinessArtifact entry))
    "BACKUP_PAYLOAD_INVALID"

section Destinations

variable (toLowerCase : String → String) (platform : Platform) (cwd : Text → Argument)

/-- Two names that differ by case at most. -/
def sameText (first second : Text) : Bool :=
  toLowerCase (String.ofList first) = toLowerCase (String.ofList second)

/-- `resolve(operationRoot, ...logicalPath.split('/'))`; the root may be any text, here as
    the parts it is read as. -/
def destination (root : Argument) (logicalPath : String) : ResolvedPath :=
  resolve (sameText toLowerCase) platform cwd
    (root :: (splitAt '/' logicalPath.toList).map (segmentArgument platform))

/-- A path from whose first segments on the second one goes on. -/
def ProperAncestor (first second : ResolvedPath) : Prop :=
  sameText toLowerCase first.device second.device = true
    ∧ first.segments <+: second.segments ∧ first.segments ≠ second.segments

/-- The same path but for its case. -/
def SameFolded (first second : ResolvedPath) : Prop :=
  sameText toLowerCase first.device second.device = true
    ∧ first.segments.map (toLowerCase ∘ String.ofList)
      = second.segments.map (toLowerCase ∘ String.ofList)

/-- Every file lies inside the root, and no two writes meet. -/
structure ExtractsCleanly (root : Argument) (logicalPaths : List String) : Prop where
  inside : ∀ path ∈ logicalPaths,
    ProperAncestor toLowerCase (resolve (sameText toLowerCase) platform cwd [root])
      (destination toLowerCase platform cwd root path)
  apart : logicalPaths.Pairwise fun path other =>
    ¬ SameFolded toLowerCase (destination toLowerCase platform cwd root path)
      (destination toLowerCase platform cwd root other)
  files : ∀ path ∈ logicalPaths, ∀ other ∈ logicalPaths,
    ¬ ProperAncestor toLowerCase (destination toLowerCase platform cwd root path)
      (destination toLowerCase platform cwd root other)

end Destinations

/-- What the extraction takes for granted of `toLowerCase`: a slash is folded to itself and the
    texts around it apart, and two drives stay two. -/
structure FoldsCase (toLowerCase : String → String) : Prop where
  slash : ∀ text rest : String,
    toLowerCase (text ++ "/" ++ rest) = toLowerCase text ++ "/" ++ toLowerCase rest
  drives : toLowerCase "C:" ≠ toLowerCase "D:"

/-! ## Accepted paths -/

variable {toLowerCase : String → String} {platform : Platform} {cwd : Text → Argument}

variable {path : String}

/-- Segments of a safe path stand for themselves. -/
theorem plain_of_safe (h : isSafeLogicalPath path = true) :
    ∀ segment ∈ splitAt '/' path.toList, Plain segment := by
  unfold isSafeLogicalPath at h
  intro segment hsegment
  have hall := List.all_eq_true.mp (Bool.and_eq_true_iff.mp h).2 segment hsegment
  simp only [Bool.and_eq_true, decide_eq_true_eq] at hall
  exact ⟨hall.1.1, hall.1.2, hall.2⟩

/-- **THE PLACE** of a path without drives. -/
theorem destination_eq {root : Argument} (hroot : root.absolute = true)
    (hsafe : isSafeLogicalPath path = true) (hdrive : platform = .win32 →
      ∀ segment ∈ splitAt '/' path.toList, startsWithDevice segment = false) :
    destination toLowerCase platform cwd root path
      = { device := (resolve (sameText toLowerCase) platform cwd [root]).device,
          segments := (resolve (sameText toLowerCase) platform cwd [root]).segments
            ++ splitAt '/' path.toList } :=
  resolve_plain hroot (plain_of_safe hsafe) fun segment hsegment hwin =>
    hdrive hwin segment hsegment

theorem sameText_refl (text : Text) : sameText toLowerCase text text = true :=
  decide_eq_true rfl

/-- Segments that are the same but for their case make texts that are. -/
theorem folded_eq (hlaw : FoldsCase toLowerCase) {segments others : List Text}
    (h : segments.map (toLowerCase ∘ String.ofList) = others.map (toLowerCase ∘ String.ofList)) :
    toLowerCase (String.ofList (['/'].intercalate segments))
      = toLowerCase (String.ofList (['/'].intercalate others)) := by
  have hcons : ∀ (segment : Text) (rest : List Text), rest ≠ [] →
      toLowerCase (String.ofList (['/'].intercalate (segment :: rest)))
        = toLowerCase (String.ofList segment) ++ "/"
          ++ toLowerCase (String.ofList (['/'].intercalate rest)) := by
    intro segment rest hrest
    rw [List.intercalate_cons_of_ne_nil hrest, String.ofList_append, String.ofList_append]
    exact hlaw.slash _ _
  induction segments generalizing others with
  | nil =>
      cases others with
      | nil => rfl
      | cons other others => exact absurd h nofun
  | cons segment segments ih =>
      cases others with
      | nil => exact absurd h nofun
      | cons other others =>
          rw [List.map_cons, List.map_cons, List.cons.injEq] at h
          obtain ⟨hsegment, hrest⟩ := h
          by_cases hnil : segments = []
          · subst hnil
            have hother : others = [] := List.map_eq_nil_iff.mp hrest.symm
            subst hother
            rw [List.intercalate_singleton, List.intercalate_singleton]
            exact hsegment
          · have hother : others ≠ [] := by
              rintro rfl
              exact hnil (List.map_eq_nil_iff.mp hrest)
            rw [hcons segment segments hnil, hcons other others hother, ih hrest]
            exact congrArg (· ++ "/" ++ _) hsegment

/-- No segment of a path names a drive where there are drives. -/
def NamesNoDrive (platform : Platform) (path : String) : Prop :=
  platform = .win32 → ∀ segment ∈ splitAt '/' path.toList, startsWithDevice segment = false

instance (platform : Platform) (path : String) : Decidable (NamesNoDrive platform path) :=
  inferInstanceAs (Decidable (_ → _))

/-- The second path goes on behind the first one. -/
def GoesOnBehind (first second : String) : Prop := first.toList ++ ['/'] <+: second.toList

instance (first second : String) : Decidable (GoesOnBehind first second) :=
  inferInstanceAs (Decidable (_ <+: _))

section Places

variable {root : Argument} {paths : List String}

/-- A segment with a drive lies outside of a root on another drive. -/
theorem namesNoDrive_of_clean (hlaw : FoldsCase toLowerCase)
    (h : ∀ root : Argument, root.absolute = true →
      ExtractsCleanly toLowerCase platform cwd root paths) :
    ∀ path ∈ paths, NamesNoDrive platform path := by
  rintro path hpath rfl segment hsegment
  by_contra hdevice
  rw [Bool.not_eq_false] at hdevice
  obtain ⟨device, hall⟩ := @resolve_device (sameText toLowerCase) cwd _
    ⟨segment, hsegment, hdevice⟩
  have hsame : ∀ drive : Text, drive ≠ [] →
      toLowerCase (String.ofList drive) = toLowerCase (String.ofList device) := by
    intro drive hdrive
    have hinside := (h { device := drive, absolute := true, segments := [] } rfl).inside path hpath
    have hsame := hinside.1
    rw [resolve_root hdrive, destination, hall] at hsame
    exact of_decide_eq_true hsame
  exact hlaw.drives ((hsame ['C', ':'] (List.cons_ne_nil _ _)).trans
    (hsame ['D', ':'] (List.cons_ne_nil _ _)).symm)

theorem properAncestor_iff (hroot : root.absolute = true) {other : String}
    (hpath : isSafeLogicalPath path = true) (hother : isSafeLogicalPath other = true)
    (hpathDrive : NamesNoDrive platform path) (hotherDrive : NamesNoDrive platform other) :
    ProperAncestor toLowerCase (destination toLowerCase platform cwd root path)
        (destination toLowerCase platform cwd root other) ↔ GoesOnBehind path other := by
  rw [destination_eq hroot hpath hpathDrive, destination_eq hroot hother hotherDrive,
    GoesOnBehind, splitAt_isPrefix]
  constructor
  · rintro ⟨-, hle, hne⟩
    obtain ⟨rest, hrest⟩ := (List.prefix_append_right_inj _).mp hle
    refine ⟨rest, ?_, hrest.symm⟩
    rintro rfl
    rw [List.append_nil] at hrest
    exact hne (congrArg
      ((resolve (sameText toLowerCase) platform cwd [root]).segments ++ ·) hrest)
  · rintro ⟨rest, hrest, hsplit⟩
    refine ⟨sameText_refl _, (List.prefix_append_right_inj _).mpr ⟨rest, hsplit.symm⟩, ?_⟩
    intro heq
    have hlength := congrArg List.length (List.append_cancel_left heq)
    rw [hsplit, List.length_append] at hlength
    exact hrest (List.length_eq_zero_iff.mp (by omega))

/-- **THE CONDITION**: safe paths that differ in more than their case extract cleanly below
    every root exactly when none names a drive and none goes on behind another. -/
theorem extractsCleanly_iff (hlaw : FoldsCase toLowerCase)
    (hsafe : ∀ path ∈ paths, isSafeLogicalPath path = true)
    (hunique : (paths.map toLowerCase).Nodup) :
    (∀ root : Argument, root.absolute = true →
        ExtractsCleanly toLowerCase platform cwd root paths) ↔
      (∀ path ∈ paths, NamesNoDrive platform path)
        ∧ ∀ path ∈ paths, ∀ other ∈ paths, ¬ GoesOnBehind path other := by
  constructor
  · intro h
    have hdrive := namesNoDrive_of_clean hlaw h
    refine ⟨hdrive, fun path hpath other hother hbehind => ?_⟩
    have hfiles := (h { absolute := true, segments := [] } rfl).files path hpath other hother
    exact hfiles ((properAncestor_iff rfl (hsafe path hpath) (hsafe other hother)
      (hdrive path hpath) (hdrive other hother)).mpr hbehind)
  · rintro ⟨hdrive, hbehind⟩ root hroot
    refine ⟨?_, ?_, ?_⟩
    · intro path hpath
      rw [destination_eq hroot (hsafe path hpath) (hdrive path hpath)]
      refine ⟨sameText_refl _, List.prefix_append _ _, fun heq => ?_⟩
      have hlength := congrArg List.length heq
      rw [List.length_append] at hlength
      exact splitAt_ne_nil '/' path.toList (List.length_eq_zero_iff.mp (by omega))
    · rw [List.nodup_iff_pairwise_ne, List.pairwise_map] at hunique
      refine hunique.imp_of_mem fun {path other} hpath hother hne hsame => hne ?_
      obtain ⟨-, hsegments⟩ := hsame
      rw [destination_eq hroot (hsafe path hpath) (hdrive path hpath),
        destination_eq hroot (hsafe other hother) (hdrive other hother), List.map_append,
        List.map_append] at hsegments
      have hfolded := folded_eq hlaw (List.append_cancel_left hsegments)
      rw [intercalate_splitAt, intercalate_splitAt, String.ofList_toList,
        String.ofList_toList] at hfolded
      exact hfolded
    · intro path hpath other hother hancestor
      exact hbehind path hpath other hother ((properAncestor_iff hroot (hsafe path hpath)
        (hsafe other hother) (hdrive path hpath) (hdrive other hother)).mp hancestor)

end Places

/-! ## Accepted payloads -/

/-- What a reader and the extraction accept. -/
structure AcceptedBackup (env : Environment) (payload : Buffer) (parsed : ParsedBackupPayload) :
    Prop where
  read : readDecryptedBackupPayload env payload = .ok parsed
  required : validateRequiredEntries parsed.entries = .ok ()

/-- The paths of a payload. -/
def logicalPaths (parsed : ParsedBackupPayload) : List String :=
  parsed.entries.map (·.logicalPath)

theorem AcceptedBackup.paths {env : Environment} {payload : Buffer}
    {parsed : ParsedBackupPayload} (h : AcceptedBackup env payload parsed) :
    (∀ path ∈ logicalPaths parsed, isSafeLogicalPath path = true)
      ∧ ((logicalPaths parsed).map env.toLowerCase).Nodup := by
  obtain ⟨first, rest, -, -, -, -, -, hentries, hunique, -, -⟩ :=
    readDecryptedBackupPayload_eq_ok.mp h.read
  have hdescriptors : parsed.entries.map (·.toBackupContainerEntryDescriptor)
      = (first :: rest).map (·.descriptor) := by
    rw [hentries, parsedFrom_descriptors]
  rw [← hdescriptors] at hunique
  obtain ⟨hvalid, hnodup⟩ := assertUniqueBackupEntryPaths_eq_ok.mp hunique
  constructor
  · intro path hpath
    obtain ⟨entry, hentry, rfl⟩ := List.mem_map.mp hpath
    exact (hvalid _ (List.mem_map_of_mem hentry)).path_safe
  · rw [List.map_map] at hnodup
    rw [logicalPaths, List.map_map]
    exact hnodup

/-- **EXTRACTION IS CLEAN** below every root, for an accepted payload, exactly when no logical
    path of it goes on behind another one and, on Windows, no segment names a drive. -/
theorem accepted_backup_extracts_iff {env : Environment} (hlaw : FoldsCase env.toLowerCase)
    (platform : Platform) (cwd : Text → Argument) {payload : Buffer}
    {parsed : ParsedBackupPayload} (h : AcceptedBackup env payload parsed) :
    (∀ root : Argument, root.absolute = true →
        ExtractsCleanly env.toLowerCase platform cwd root (logicalPaths parsed)) ↔
      (∀ path ∈ logicalPaths parsed, NamesNoDrive platform path)
        ∧ ∀ path ∈ logicalPaths parsed, ∀ other ∈ logicalPaths parsed,
          ¬ GoesOnBehind path other :=
  extractsCleanly_iff hlaw h.paths.1 h.paths.2

/-! ## Payloads with one content -/

/-- A payload whose entries all have the same content. -/
def uniformPayload (env : Environment) (manifest : BackupManifest) (content : Buffer) : Buffer :=
  payloadLayout
    ⟨describeManifest env (canonicalManifest manifest), utf8 manifestLogicalPath,
      canonicalManifest manifest⟩
    (manifest.entries.map fun entry => ⟨entry, utf8 entry.logicalPath, content⟩)

/-- What is read from a payload whose entries have one content. -/
def uniformParsed (env : Environment) (manifest : BackupManifest) (content : Buffer) :
    ParsedBackupPayload where
  entries := parsedFrom backupPayloadHeaderLength
    (⟨describeManifest env (canonicalManifest manifest), utf8 manifestLogicalPath,
      canonicalManifest manifest⟩
    :: manifest.entries.map fun entry => ⟨entry, utf8 entry.logicalPath, content⟩)
  manifest := manifest

/-- What a manifest and a content have to be like for their payload to be read back. -/
structure Uniform (env : Environment) (manifest : BackupManifest) (content : Buffer) : Prop where
  valid : validateBackupManifest env.toLowerCase manifest = .ok ()
  size : (canonicalManifest manifest).length ≤ maximumManifestBytes
  texts : ¬ Marked manifest.appVersion ∧ ¬ Marked manifest.profileId
    ∧ ¬ Marked manifest.migrationChainIdentity
  paths : ∀ entry ∈ manifest.entries, ¬ Marked entry.logicalPath
  contents : ∀ entry ∈ manifest.entries, entry.type ≠ .manifest
    ∧ (content.length : Int) = entry.contentLength ∧ env.sha256 content = entry.sha256
  unique : assertUniqueBackupEntryPaths env.toLowerCase
    (describeManifest env (canonicalManifest manifest) :: manifest.entries) = .ok ()
  order : assertDeterministicEntryOrder env (uniformParsed env manifest content).entries.tail
    = .ok ()
  count : manifest.entries.length + 1 ≤ maximumBackupEntryCount
  length : (uniformPayload env manifest content).length ≤ maximumBackupCiphertextBytes

theorem Uniform.read {env : Environment} {manifest : BackupManifest} {content : Buffer}
    (h : Uniform env manifest content) :
    readDecryptedBackupPayload env (uniformPayload env manifest content)
      = .ok (uniformParsed env manifest content) := by
  obtain ⟨hvalid, -⟩ := assertUniqueBackupEntryPaths_eq_ok.mp h.unique
  have hname : ¬ Marked manifestLogicalPath := by decide
  refine readDecryptedBackupPayload_eq_ok.mpr ⟨_, _, rfl, h.length, ?_, ?_, ?_, rfl, ?_, h.order,
    ?_⟩
  · rw [List.length_map]
    exact h.count
  · refine ⟨⟨storedPath_utf8 (hvalid _ List.mem_cons_self) hname, rfl, rfl⟩, rfl, rfl,
      Int.ofNat_le.mpr h.size, ?_⟩
    exact decode_canonicalManifest (encodeBackupManifest_eq_ok.mpr ⟨h.valid, rfl, h.size⟩)
      h.texts.1 h.texts.2.1 h.texts.2.2 h.paths
  · intro stored hstored
    obtain ⟨entry, hentry, rfl⟩ := List.mem_map.mp hstored
    obtain ⟨htype, hlength, hdigest⟩ := h.contents entry hentry
    exact ⟨⟨storedPath_utf8 (hvalid _ (List.mem_cons_of_mem _ hentry)) (h.paths entry hentry),
      hlength, hdigest⟩, htype⟩
  · rw [List.map_cons, List.map_map]
    exact (congrArg (fun entries => assertUniqueBackupEntryPaths env.toLowerCase (_ :: entries))
      (List.map_id _)).trans h.unique
  · rw [List.map_map]
    exact (List.map_id _).symm

/-! ## Two documents, one below the other -/

/-- The digests of the contents that the samples have. -/
def documentEnvironment : Environment where
  sha256 content :=
    if content.length = 3 then
      "cfb0fe98ac697c3619eec42fc85514fead69f356553d2bb9b8c381244237e3c8"
    else if content.length = 183 then
      "6e0e6f1f9a26e5e54de4fd98d41448692a193901868d6acf6fe9ac635a83e5cc"
    else "a5fbd06a76bda09ef84ab538040dbcb63e17a08998e4b20a3d7dca6c6582d73f"
  localeCompare first second := if first < second then -1 else if second < first then 1 else 0
  toLowerCase := String.toLower
  pathsAreEqual first second := first = second

/-- An entry of a test payload. -/
def documentEntry (logicalPath : String) (type : BackupContainerEntryType) :
    BackupContainerEntryDescriptor where
  contentLength := 3
  logicalPath := logicalPath
  sha256 := "cfb0fe98ac697c3619eec42fc85514fead69f356553d2bb9b8c381244237e3c8"
  type := type

/-- The manifest of a payload with these documents. -/
def documentManifest (documents : List String) : BackupManifest where
  appVersion := "1.0.0"
  createdAtEpochMilliseconds := 1700000000000
  entries := (documents.map (documentEntry · .businessArtifact))
    ++ [documentEntry databaseLogicalPath .database,
      documentEntry artifactCatalogLogicalPath .artifactCatalog]
  migrationChainIdentity := "chain"
  profileId := "profile"

/-- Two documents, one under the name of the other. -/
def nestedDocuments : List String :=
  ["artifacts/invoicing/invoice-documents/a.pdf",
    "artifacts/invoicing/invoice-documents/a.pdf/b.pdf"]

theorem documents_uniform (documents : List String)
    (h : documents ∈ [[], nestedDocuments]) :
    Uniform documentEnvironment (documentManifest documents) sampleContent := by
  revert documents
  simp only [List.forall_mem_cons]
  refine ⟨?_, ?_, nofun⟩
  · refine ⟨?_, ?_, ?_, ?_, ?_, ?_, ?_, ?_, ?_⟩ <;> decide +kernel
  · refine ⟨?_, ?_, ?_, ?_, ?_, ?_, ?_, ?_, ?_⟩ <;> decide +kernel

theorem toLower_folds : FoldsCase String.toLower where
  slash := by
    intro text rest
    refine String.toList_injective ?_
    simp only [String.toLower, String.toList_map, String.toList_append, List.map_append]
    rfl
  drives := by decide +kernel

theorem documents_accepted (documents : List String)
    (h : documents ∈ [[], nestedDocuments]) :
    AcceptedBackup documentEnvironment
      (uniformPayload documentEnvironment (documentManifest documents) sampleContent)
      (uniformParsed documentEnvironment (documentManifest documents) sampleContent) := by
  refine ⟨(documents_uniform documents h).read, ?_⟩
  revert documents
  decide +kernel

theorem logicalPaths_uniform (env : Environment) (manifest : BackupManifest) (content : Buffer) :
    logicalPaths (uniformParsed env manifest content)
      = manifestLogicalPath :: manifest.entries.map (·.logicalPath) := by
  have h := congrArg (List.map (·.logicalPath)) (parsedFrom_descriptors backupPayloadHeaderLength
    (⟨describeManifest env (canonicalManifest manifest), utf8 manifestLogicalPath,
      canonicalManifest manifest⟩
    :: manifest.entries.map fun entry => ⟨entry, utf8 entry.logicalPath, content⟩))
  rw [List.map_map, List.map_cons, List.map_cons, List.map_map, List.map_map] at h
  exact h

/-- The working directory of every drive is its root. -/
def driveRoots (device : Text) : Argument where
  device := if device = [] then ['C', ':'] else device
  absolute := true
  segments := []

/-- A backup without documents is extracted cleanly on a Windows drive. -/
theorem plain_backup_extracts :
    ExtractsCleanly String.toLower .win32 driveRoots (driveRoots ['D', ':'])
      (logicalPaths (uniformParsed documentEnvironment (documentManifest []) sampleContent)) := by
  refine (accepted_backup_extracts_iff toLower_folds .win32 driveRoots
    (documents_accepted [] List.mem_cons_self)).mpr ?_ _ rfl
  rw [logicalPaths_uniform]
  decide +kernel

/-- **A DOCUMENT BELOW A DOCUMENT**: the payload is accepted, and below no root and on no
    platform are both places free. -/
theorem nested_documents_block :
    AcceptedBackup documentEnvironment
        (uniformPayload documentEnvironment (documentManifest nestedDocuments) sampleContent)
        (uniformParsed documentEnvironment (documentManifest nestedDocuments) sampleContent)
      ∧ ∀ (platform : Platform) (cwd : Text → Argument) (root : Argument),
        root.absolute = true →
          ¬ ExtractsCleanly String.toLower platform cwd root
            (logicalPaths (uniformParsed documentEnvironment (documentManifest nestedDocuments)
              sampleContent)) := by
  refine ⟨documents_accepted nestedDocuments (List.mem_cons_of_mem _ List.mem_cons_self), ?_⟩
  intro platform cwd root hroot hclean
  have hfiles := hclean.files
  rw [logicalPaths_uniform] at hfiles
  have hdrive : ∀ path ∈ nestedDocuments, NamesNoDrive platform path
      ∧ isSafeLogicalPath path = true := by
    cases platform <;> decide +kernel
  have hfirst := hdrive "artifacts/invoicing/invoice-documents/a.pdf" (by decide)
  have hsecond := hdrive "artifacts/invoicing/invoice-documents/a.pdf/b.pdf" (by decide)
  refine hfiles "artifacts/invoicing/invoice-documents/a.pdf" (by decide +kernel)
    "artifacts/invoicing/invoice-documents/a.pdf/b.pdf" (by decide +kernel)
    ((properAncestor_iff hroot hfirst.2 hsecond.2 hfirst.1 hsecond.1).mpr ?_)
  decide +kernel

end ProfileBackup
