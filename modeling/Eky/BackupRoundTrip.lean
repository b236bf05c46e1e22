import Eky.BackupCanonical
import Mathlib.Data.String.Basic

/-! # A backup that is written, read again

    The writer and the reader are separate code.  Both are followed through the layout of
    a payload, and what remains between them are two differences: the writer accepts a
    text that begins with U+FEFF, which the reader drops, and it accepts two paths that
    `localeCompare` does not tell apart, which the reader refuses as unordered.

    - `Written`: what `prepareBackupPayload` and `createPayload` leave;
    - `ReadBack`: what the reader has to return for it;
    - `backup_read_back`: it does so exactly when `Readable`. -/

namespace ProfileBackup

open Fallible Buffers

/-! ## The order of the entries -/

/-- `localeCompare` compares by a total preorder. -/
structure ComparesTotally (localeCompare : String → String → Int) : Prop where
  swap : ∀ a b, 0 ≤ localeCompare a b ↔ localeCompare b a ≤ 0
  trans : ∀ a b c, localeCompare a b ≤ 0 → localeCompare b c ≤ 0 → localeCompare a c ≤ 0

section Order

variable {env : Environment} (hlaws : ComparesTotally env.localeCompare)

theorem compareEntries_le_iff {a b : BackupPayloadSourceEntry} :
    compareEntries env a b ≤ 0 ↔ env.localeCompare a.logicalPath b.logicalPath < 0
      ∨ env.localeCompare a.logicalPath b.logicalPath = 0
        ∧ env.localeCompare (typeName a.type) (typeName b.type) ≤ 0 := by
  rw [compareEntries]
  by_cases hzero : env.localeCompare a.logicalPath b.logicalPath = 0
  · rw [if_neg (not_not_intro hzero), hzero]
    constructor
    · exact fun h => Or.inr ⟨rfl, h⟩
    · rintro (h | ⟨_, h⟩)
      · exact absurd h (Int.lt_irrefl 0)
      · exact h
  · rw [if_pos hzero]
    constructor
    · exact fun h => Or.inl (by omega)
    · rintro (h | ⟨h, _⟩)
      · exact Int.le_of_lt h
      · exact absurd h hzero

include hlaws

theorem lt_of_le_of_lt {a b c : String} (hab : env.localeCompare a b ≤ 0)
    (hbc : env.localeCompare b c < 0) : env.localeCompare a c < 0 := by
  have hac := hlaws.trans a b c hab (Int.le_of_lt hbc)
  have hca := hlaws.swap a c
  have hcb := hlaws.swap b c
  by_contra hnot
  have hle : env.localeCompare c b ≤ 0 := hlaws.trans c a b (by omega) hab
  omega

theorem lt_of_lt_of_le {a b c : String} (hab : env.localeCompare a b < 0)
    (hbc : env.localeCompare b c ≤ 0) : env.localeCompare a c < 0 := by
  have hac := hlaws.trans a b c (Int.le_of_lt hab) hbc
  have hca := hlaws.swap a c
  have hba := hlaws.swap a b
  by_contra hnot
  have hle : env.localeCompare b a ≤ 0 := hlaws.trans b c a hbc (by omega)
  omega

theorem compareEntries_total (a b : BackupPayloadSourceEntry) :
    compareEntries env a b ≤ 0 ∨ compareEntries env b a ≤ 0 := by
  have hpath := hlaws.swap a.logicalPath b.logicalPath
  have hpath' := hlaws.swap b.logicalPath a.logicalPath
  have htype := hlaws.swap (typeName a.type) (typeName b.type)
  rw [compareEntries_le_iff, compareEntries_le_iff]
  omega

theorem compareEntries_trans (a b c : BackupPayloadSourceEntry)
    (hab : compareEntries env a b ≤ 0) (hbc : compareEntries env b c ≤ 0) :
    compareEntries env a c ≤ 0 := by
  rw [compareEntries_le_iff] at hab hbc ⊢
  rcases hab with hab | ⟨hab, htab⟩
  · refine Or.inl (lt_of_lt_of_le hlaws hab ?_)
    omega
  · rcases hbc with hbc | ⟨hbc, htbc⟩
    · exact Or.inl (lt_of_le_of_lt hlaws (Int.le_of_eq hab) hbc)
    · have hac := hlaws.trans _ _ _ (Int.le_of_eq hab) (Int.le_of_eq hbc)
      have hca := hlaws.trans c.logicalPath b.logicalPath a.logicalPath
      have hswap := hlaws.swap a.logicalPath c.logicalPath
      have hswap₁ := hlaws.swap a.logicalPath b.logicalPath
      have hswap₂ := hlaws.swap b.logicalPath c.logicalPath
      exact Or.inr ⟨by omega, hlaws.trans _ _ _ htab htbc⟩

/-- The sorted entries stand in the order of their paths. -/
theorem sortEntries_pairwise (entries : List BackupPayloadSourceEntry) :
    (sortEntries env entries).Pairwise
      (fun a b => env.localeCompare a.logicalPath b.logicalPath ≤ 0) := by
  have : Std.Total (fun a b : BackupPayloadSourceEntry => compareEntries env a b ≤ 0) :=
    ⟨compareEntries_total hlaws⟩
  have : IsTrans BackupPayloadSourceEntry (fun a b => compareEntries env a b ≤ 0) :=
    ⟨compareEntries_trans hlaws⟩
  refine (List.pairwise_insertionSort _ entries).imp ?_
  intro a b h
  rw [compareEntries_le_iff] at h
  omega

theorem not_equal_comm {a b : BackupPayloadSourceEntry}
    (h : env.localeCompare a.logicalPath b.logicalPath ≠ 0) :
    env.localeCompare b.logicalPath a.logicalPath ≠ 0 := by
  have hswap := hlaws.swap a.logicalPath b.logicalPath
  have hswap' := hlaws.swap b.logicalPath a.logicalPath
  omega

/-- Sorting moves no two entries with equal paths together or apart. -/
theorem sortEntries_distinct {entries : List BackupPayloadSourceEntry} :
    (sortEntries env entries).Pairwise
        (fun a b => env.localeCompare a.logicalPath b.logicalPath < 0)
      ↔ entries.Pairwise (fun a b => env.localeCompare a.logicalPath b.logicalPath ≠ 0) := by
  have hperm : (sortEntries env entries).Perm entries := List.perm_insertionSort _ entries
  have hiff := hperm.pairwise_iff (R := fun a b : BackupPayloadSourceEntry =>
    env.localeCompare a.logicalPath b.logicalPath ≠ 0) (fun h => not_equal_comm hlaws h)
  rw [← hiff]
  constructor
  · exact fun h => h.imp (fun hlt => by omega)
  · intro h
    refine ((sortEntries_pairwise hlaws entries).and h).imp ?_
    rintro a b ⟨hle, hne⟩
    omega

/-- The reader compares neighbours, which is enough. -/
theorem assertDeterministicEntryOrder_eq_ok {entries : List ParsedBackupContainerEntry}
    {u : Unit} :
    assertDeterministicEntryOrder env entries = .ok u ↔
      (entries.map (·.logicalPath)).Pairwise (fun a b => env.localeCompare a b < 0) := by
  have : IsTrans String (fun a b => env.localeCompare a b < 0) :=
    ⟨fun a b c hab hbc => lt_of_lt_of_le hlaws hab (Int.le_of_lt hbc)⟩
  rw [← List.isChain_iff_pairwise]
  induction entries with
  | nil => exact ⟨fun _ => List.IsChain.nil, fun _ => rfl⟩
  | cons first rest ih =>
      cases rest with
      | nil => exact ⟨fun _ => List.IsChain.singleton _, fun _ => rfl⟩
      | cons second rest =>
          simp only [assertDeterministicEntryOrder, bind_eq_ok, throwIf_eq_ok, exists_const]
          rw [List.map_cons, List.map_cons, List.isChain_cons_cons]
          constructor
          · rintro ⟨hlt, hrest⟩
            exact ⟨by omega, ih.mp hrest⟩
          · rintro ⟨hlt, hrest⟩
            exact ⟨by omega, ih.mpr hrest⟩

end Order

/-! ## What is written -/

/-- The content of the file of an entry. -/
def contentIn (files : String → Option SourceFile) (entry : BackupPayloadSourceEntry) : Buffer :=
  ((files entry.sourcePath).map (·.content)).getD []

/-- The entry as it is written. -/
def writtenEntry (files : String → Option SourceFile) (entry : BackupPayloadSourceEntry) :
    StoredEntry :=
  ⟨entry.toBackupContainerEntryDescriptor, utf8 entry.logicalPath, contentIn files entry⟩

/-- The entry of the manifest as it is written. -/
def writtenManifest (prepared : PreparedBackupPayload) : StoredEntry :=
  ⟨prepared.manifestDescriptor, utf8 manifestLogicalPath, prepared.manifestContent⟩

/-- The entries as they are written. -/
def writtenEntries (files : String → Option SourceFile) (prepared : PreparedBackupPayload) :
    List StoredEntry :=
  writtenManifest prepared :: prepared.entries.map (writtenEntry files)

theorem writtenEntries_descriptors (files : String → Option SourceFile)
    (prepared : PreparedBackupPayload) :
    (writtenEntries files prepared).map (·.descriptor) = prepared.manifestDescriptor
      :: prepared.entries.map (·.toBackupContainerEntryDescriptor) := by
  rw [writtenEntries, List.map_cons, List.map_map]
  rfl

theorem writtenEntries_contents (files : String → Option SourceFile)
    (prepared : PreparedBackupPayload) :
    (writtenEntries files prepared).map (·.content)
      = prepared.manifestContent :: prepared.entries.map (contentIn files) := by
  rw [writtenEntries, List.map_cons, List.map_map]
  rfl

/-- What `prepareBackupPayload` returns. -/
structure Prepared (env : Environment) (inputEntries : List BackupPayloadSourceEntry)
    (fields : ManifestFields) (prepared : PreparedBackupPayload) : Prop where
  entries : prepared.entries = sortEntries env inputEntries
  manifest : prepared.manifest = ⟨fields.appVersion, fields.createdAtEpochMilliseconds,
    prepared.entries.map (·.toBackupContainerEntryDescriptor),
    fields.migrationChainIdentity, fields.profileId⟩
  content : encodeBackupManifest env.toLowerCase prepared.manifest
    = .ok prepared.manifestContent
  descriptor : prepared.manifestDescriptor = describeManifest env prepared.manifestContent
  unique : assertUniqueBackupEntryPaths env.toLowerCase (prepared.manifestDescriptor
    :: prepared.entries.map (·.toBackupContainerEntryDescriptor)) = .ok ()
  identities : prepared.sourceIdentities.length = prepared.entries.length
  total : calculatePayloadLength (prepared.manifestDescriptor
    :: prepared.entries.map (·.toBackupContainerEntryDescriptor))
      = .ok prepared.plaintextLength
  count : 1 ≤ prepared.entries.length ∧ prepared.entries.length < maximumBackupEntryCount

variable {env : Environment} {files files' : String → Option SourceFile}
  {inputEntries : List BackupPayloadSourceEntry} {fields : ManifestFields}
  {prepared : PreparedBackupPayload} {payload : Buffer}

theorem prepareBackupPayload_prepared
    (h : prepareBackupPayload env files inputEntries fields = .ok prepared) :
    Prepared env inputEntries fields prepared
      ∧ prepared.entries.mapM (inspectSourceEntry env files)
        = .ok prepared.sourceIdentities := by
  simp only [prepareBackupPayload, bind_eq_ok, throwIf_eq_ok, exists_const, pure_eq_ok] at h
  obtain ⟨hcount, content, hcontent, _, hunique, identities, hidentities, total, htotal,
    rfl⟩ := h
  have hlength : (sortEntries env inputEntries).length = inputEntries.length :=
    List.length_insertionSort _ inputEntries
  refine ⟨⟨rfl, rfl, hcontent, rfl, hunique, ?_, htotal, ?_⟩, hidentities⟩
  · exact (mapM_eq_ok.mp hidentities).length_eq.symm
  · show 1 ≤ (sortEntries env inputEntries).length
      ∧ (sortEntries env inputEntries).length < maximumBackupEntryCount
    omega

theorem emitEntry_eq_ok {entry : BackupPayloadSourceEntry} {identity : SourceFile}
    {bytes : Buffer} (h : emitEntry env files (entry, identity) = .ok bytes) :
    bytes = (writtenEntry files entry).record
      ∧ ((contentIn files entry).length : Int) = entry.contentLength
      ∧ env.sha256 (contentIn files entry) = entry.sha256 := by
  simp only [emitEntry, bind_eq_ok, throwIf_eq_ok, exists_const, orThrow_eq_ok, pure_eq_ok,
    Prod.exists, not_or, Decidable.not_not] at h
  obtain ⟨header, path, hheader, file, hfile, _, _, _, ⟨hlength, hdigest⟩, rfl⟩ := h
  obtain ⟨_, rfl, rfl⟩ := encodeBackupEntryHeader_eq_ok.mp hheader
  have hcontent : contentIn files entry = file.content := by
    rw [contentIn, hfile]
    rfl
  rw [hcontent]
  refine ⟨?_, hlength, hdigest⟩
  rw [StoredEntry.record, writtenEntry, hcontent, entryRecord, List.append_assoc]

/-- The files that were inspected are emitted as long as they stay. -/
theorem emitEntry_of_inspected {entry : BackupPayloadSourceEntry} {identity : SourceFile}
    (h : inspectSourceEntry env files entry = .ok identity)
    (hvalid : ValidDescriptor entry.toBackupContainerEntryDescriptor) :
    ∃ bytes, emitEntry env files (entry, identity) = .ok bytes := by
  simp only [inspectSourceEntry, bind_eq_ok, throwIf_eq_ok, exists_const, orThrow_eq_ok,
    pure_eq_ok, not_or, Decidable.not_not] at h
  obtain ⟨_, hfile, ⟨hisFile, hlink, _⟩, _, hlength, hdigest, rfl⟩ := h
  simp only [emitEntry, assertSameFileIdentity, bind_eq_ok, throwIf_eq_ok, exists_const,
    orThrow_eq_ok, pure_eq_ok, Prod.exists, not_or, Decidable.not_not]
  exact ⟨_, _, _, encodeBackupEntryHeader_eq_ok.mpr ⟨hvalid, rfl, rfl⟩, _, hfile, by omega,
    ⟨hisFile, hlink, rfl, rfl, rfl, rfl, rfl, rfl⟩, ⟨hlength, hdigest⟩, rfl⟩

/-- What `createPayload` leaves of a prepared payload. -/
structure Written (env : Environment) (files : String → Option SourceFile)
    (prepared : PreparedBackupPayload) (payload : Buffer) : Prop where
  layout : payload
    = payloadLayout (writtenManifest prepared) (prepared.entries.map (writtenEntry files))
  length : ∀ e ∈ prepared.entries, ((contentIn files e).length : Int) = e.contentLength
  digest : ∀ e ∈ prepared.entries, env.sha256 (contentIn files e) = e.sha256

private theorem mapM_emitEntry {entries : List BackupPayloadSourceEntry}
    {identities : List SourceFile} {parts : List Buffer}
    (hlength : identities.length = entries.length)
    (h : (entries.zip identities).mapM (emitEntry env files) = .ok parts) :
    parts.flatten = records (entries.map (writtenEntry files))
      ∧ ∀ e ∈ entries, ((contentIn files e).length : Int) = e.contentLength
        ∧ env.sha256 (contentIn files e) = e.sha256 := by
  induction entries generalizing identities parts with
  | nil =>
      rw [List.zip_nil_left, List.mapM_nil, pure_eq_ok] at h
      subst h
      exact ⟨rfl, fun e he => nomatch he⟩
  | cons entry rest ih =>
      cases identities with
      | nil => exact nomatch hlength
      | cons identity identities =>
          rw [List.zip_cons_cons, List.mapM_cons, bind_eq_ok] at h
          obtain ⟨bytes, hbytes, h⟩ := h
          obtain ⟨tail, htail, hparts⟩ := bind_eq_ok.mp h
          rw [pure_eq_ok] at hparts
          obtain ⟨rfl, hentry⟩ := emitEntry_eq_ok hbytes
          obtain ⟨hflat, hrest⟩ := ih (Nat.succ.inj hlength) htail
          subst hparts
          refine ⟨?_, ?_⟩
          · rw [List.flatten_cons, hflat, List.map_cons, records_cons]
          · intro e he
            rcases List.mem_cons.mp he with rfl | he
            · exact hentry
            · exact hrest e he

theorem createPayload_written (hprepared : Prepared env inputEntries fields prepared)
    (h : createPayload env files prepared = .ok payload) :
    Written env files prepared payload := by
  simp only [createPayload, bind_eq_ok, pure_eq_ok, Prod.exists] at h
  obtain ⟨payloadHeader, hpayloadHeader, header, path, hheader, parts, hparts, rfl⟩ := h
  obtain ⟨_, rfl⟩ := encodeBackupPayloadHeader_eq_ok.mp hpayloadHeader
  obtain ⟨_, rfl, rfl⟩ := encodeBackupEntryHeader_eq_ok.mp hheader
  obtain ⟨hflat, hfiles⟩ := mapM_emitEntry hprepared.identities hparts
  refine ⟨?_, fun e he => (hfiles e he).1, fun e he => (hfiles e he).2⟩
  have hpath : prepared.manifestDescriptor.logicalPath = manifestLogicalPath := by
    rw [hprepared.descriptor]
    rfl
  rw [payloadLayout, records_cons, List.length_map, ← hflat, StoredEntry.record, entryRecord,
    List.append_assoc _ (writtenManifest prepared).path]
  rw [writtenManifest, ← hpath]

theorem Prepared.valid (h : Prepared env inputEntries fields prepared) :
    ValidDescriptor prepared.manifestDescriptor
      ∧ ∀ e ∈ prepared.entries, ValidDescriptor e.toBackupContainerEntryDescriptor := by
  obtain ⟨hvalid, _⟩ := assertUniqueBackupEntryPaths_eq_ok.mp h.unique
  exact ⟨hvalid _ List.mem_cons_self, fun e he =>
    hvalid _ (List.mem_cons_of_mem _ (List.mem_map_of_mem he))⟩

/-- Unless a file changes in between, what was prepared is emitted. -/
theorem createPayload_of_prepared
    (h : prepareBackupPayload env files inputEntries fields = .ok prepared) :
    ∃ payload, createPayload env files prepared = .ok payload := by
  obtain ⟨hprepared, hidentities⟩ := prepareBackupPayload_prepared h
  obtain ⟨hmanifest, hentries⟩ := hprepared.valid
  have hcount := hprepared.count
  have hparts : ∀ source ∈ prepared.entries.zip prepared.sourceIdentities,
      ∃ bytes, emitEntry env files source = .ok bytes := by
    rintro ⟨entry, identity⟩ hsource
    have hinspected := List.forall₂_zip (mapM_eq_ok.mp hidentities) hsource
    exact emitEntry_of_inspected hinspected (hentries entry (List.of_mem_zip hsource).1)
  obtain ⟨parts, hparts⟩ := mapM_total hparts
  simp only [createPayload, bind_eq_ok, pure_eq_ok, Prod.exists]
  exact ⟨_, _, encodeBackupPayloadHeader_eq_ok.mpr ⟨⟨by omega, by omega⟩, rfl⟩, _, _,
    encodeBackupEntryHeader_eq_ok.mpr ⟨hmanifest, rfl, rfl⟩, parts, hparts, rfl⟩

/-! ## The announced length -/

private theorem foldl_entryLengths {entries : List StoredEntry} {sum : Int}
    (h : ∀ e ∈ entries, ValidDescriptor e.descriptor
      ∧ e.path.length = (utf8 e.descriptor.logicalPath).length
      ∧ (e.content.length : Int) = e.descriptor.contentLength) :
    (entries.map (·.descriptor)).foldl (fun (sum : Int) entry => sum + backupEntryHeaderLength
      + (utf8 entry.logicalPath).length + entry.contentLength) sum
      = sum + (records entries).length := by
  induction entries generalizing sum with
  | nil => exact (Int.add_zero sum).symm
  | cons entry rest ih =>
      obtain ⟨hvalid, hpath, hlength⟩ := h entry List.mem_cons_self
      rw [List.map_cons, List.foldl_cons, ih (fun e he => h e (List.mem_cons_of_mem _ he)),
        records_cons, List.length_append, StoredEntry.record_length hvalid, hpath, ← hlength]
      omega

theorem payload_length (hprepared : Prepared env inputEntries fields prepared)
    (hwritten : Written env files prepared payload) :
    (payload.length : Int) = prepared.plaintextLength
      ∧ payload.length ≤ maximumBackupCiphertextBytes := by
  obtain ⟨hmanifest, hentries⟩ := hprepared.valid
  have hall : ∀ e ∈ writtenEntries files prepared,
      ValidDescriptor e.descriptor
        ∧ e.path.length = (utf8 e.descriptor.logicalPath).length
        ∧ (e.content.length : Int) = e.descriptor.contentLength := by
    intro e he
    rcases List.mem_cons.mp he with rfl | he
    · refine ⟨hmanifest, ?_, ?_⟩
      · show _ = (utf8 prepared.manifestDescriptor.logicalPath).length
        rw [hprepared.descriptor]
        rfl
      · show _ = prepared.manifestDescriptor.contentLength
        rw [hprepared.descriptor]
        rfl
    · obtain ⟨entry, hentry, rfl⟩ := List.mem_map.mp he
      exact ⟨hentries entry hentry, rfl, hwritten.length entry hentry⟩
  have htotal := hprepared.total
  simp only [calculatePayloadLength, bind_eq_ok, throwIf_eq_ok, exists_const, pure_eq_ok]
    at htotal
  obtain ⟨hbounds, hsum⟩ := htotal
  rw [← writtenEntries_descriptors files, foldl_entryLengths hall] at hsum hbounds
  have hlength : payload.length = backupPayloadHeaderLength
      + (records (writtenEntries files prepared)).length := by
    rw [hwritten.layout, payloadLayout, List.length_append, payloadHeader_length,
      writtenEntries]
  omega

/-! ## Reading it back -/

/-- A text that begins with U+FEFF. -/
def Marked (text : String) : Prop := StartsWithMark (utf8 text)

/-- No text is marked, and `localeCompare` tells the paths apart. -/
structure Readable (env : Environment) (inputEntries : List BackupPayloadSourceEntry)
    (fields : ManifestFields) : Prop where
  appVersion : ¬ Marked fields.appVersion
  profileId : ¬ Marked fields.profileId
  migrationChainIdentity : ¬ Marked fields.migrationChainIdentity
  paths : ∀ e ∈ inputEntries, ¬ Marked e.logicalPath
  distinct : inputEntries.Pairwise
    (fun a b => env.localeCompare a.logicalPath b.logicalPath ≠ 0)

/-- What the reader returns says what was written. -/
structure ReadBack (env : Environment) (files : String → Option SourceFile)
    (prepared : PreparedBackupPayload) (payload : Buffer) (parsed : ParsedBackupPayload) :
    Prop where
  read : readDecryptedBackupPayload env payload = .ok parsed
  manifest : parsed.manifest = prepared.manifest
  entries : parsed.entries.map (·.toBackupContainerEntryDescriptor)
    = prepared.manifestDescriptor
      :: prepared.entries.map (·.toBackupContainerEntryDescriptor)
  contents : parsed.entries.map (contentOf payload)
    = prepared.manifestContent :: prepared.entries.map (contentIn files)

instance (text : String) : Decidable (Marked text) :=
  inferInstanceAs (Decidable (StartsWithMark (utf8 text)))

theorem textDecode?_utf8 {text : String} :
    textDecode? (utf8 text) = some text ↔ ¬ Marked text := by
  constructor
  · intro h hmark
    have hlength := congrArg List.length (textDecode?_of_mark hmark h)
    rw [List.length_append] at hlength
    have hpos : byteOrderMark.length = 3 := rfl
    omega
  · exact fun h => (textDecode?_eq_some h).mpr rfl

theorem storedPath_utf8 {descriptor : BackupContainerEntryDescriptor}
    (h : ValidDescriptor descriptor) (hmark : ¬ Marked descriptor.logicalPath) :
    StoredPath descriptor (utf8 descriptor.logicalPath) :=
  ⟨textDecode?_utf8.mpr hmark, h, h.path_pos, h.path_le⟩

theorem storedText_utf8 {value : String} (h : ValidText value) (hmark : ¬ Marked value) :
    StoredText value (utf8 value) :=
  ⟨textDecode?_utf8.mpr hmark, h, utf8_length_pos h.nonempty, h.length_le⟩

/-- The written manifest decodes to itself as long as nothing in it is marked. -/
theorem decode_canonicalManifest {toLowerCase : String → String} {manifest : BackupManifest}
    {content : Buffer} (h : encodeBackupManifest toLowerCase manifest = .ok content)
    (happ : ¬ Marked manifest.appVersion) (hprofile : ¬ Marked manifest.profileId)
    (hchain : ¬ Marked manifest.migrationChainIdentity)
    (hpaths : ∀ e ∈ manifest.entries, ¬ Marked e.logicalPath) :
    decodeBackupManifest toLowerCase content = .ok manifest := by
  obtain ⟨hvalid, rfl, hmax⟩ := encodeBackupManifest_eq_ok.mp h
  obtain ⟨_, _, happValid, hprofileValid, hchainValid, hunique, _⟩ :=
    validateBackupManifest_bounds hvalid
  obtain ⟨hdescriptors, _⟩ := assertUniqueBackupEntryPaths_eq_ok.mp hunique
  refine decodeBackupManifest_eq_ok.mpr ⟨_, _, _, _, rfl, storedText_utf8 happValid happ,
    storedText_utf8 hprofileValid hprofile, storedText_utf8 hchainValid hchain, ?_, hmax,
    hvalid⟩
  rw [List.forall₂_map_right_iff, List.forall₂_same]
  exact fun e he => storedPath_utf8 (hdescriptors e he) (hpaths e he)

theorem Prepared.manifest_entries (h : Prepared env inputEntries fields prepared) :
    prepared.manifest.entries
      = prepared.entries.map (·.toBackupContainerEntryDescriptor) := by
  rw [h.manifest]

theorem Prepared.unmarked (h : Prepared env inputEntries fields prepared)
    (hreadable : Readable env inputEntries fields) :
    ∀ e ∈ prepared.entries, ¬ Marked e.logicalPath := by
  rw [h.entries]
  exact fun e he => hreadable.paths e ((List.mem_insertionSort _).mp he)

/-- The first written entry is a manifest for the reader. -/
theorem written_manifestEntry (hprepared : Prepared env inputEntries fields prepared)
    (hreadable : Readable env inputEntries fields) :
    ManifestEntry env prepared.manifest (writtenManifest prepared) := by
  have hvalid := hprepared.valid.1
  have hdescriptor := hprepared.descriptor
  have hmanifest := hprepared.manifest
  have hname : ¬ Marked manifestLogicalPath := by decide
  have hsize := (encodeBackupManifest_eq_ok.mp hprepared.content).2.2
  rw [hdescriptor] at hvalid
  have hfits : (writtenManifest prepared).Fits env.sha256 := by
    rw [writtenManifest, hdescriptor]
    exact ⟨storedPath_utf8 hvalid hname, rfl, rfl⟩
  have htype : (writtenManifest prepared).descriptor
      = describeManifest env prepared.manifestContent := hdescriptor
  refine ⟨hfits, ?_, ?_, ?_, decode_canonicalManifest hprepared.content ?_ ?_ ?_ ?_⟩
  · rw [htype]
    rfl
  · rw [htype]
    rfl
  · rw [htype]
    exact Int.ofNat_le.mpr hsize
  · rw [hmanifest]
    exact hreadable.appVersion
  · rw [hmanifest]
    exact hreadable.profileId
  · rw [hmanifest]
    exact hreadable.migrationChainIdentity
  · intro e he
    rw [hprepared.manifest_entries] at he
    obtain ⟨entry, hentry, rfl⟩ := List.mem_map.mp he
    exact hprepared.unmarked hreadable entry hentry

/-- The other written entries are contents for the reader. -/
theorem written_contentEntry (hprepared : Prepared env inputEntries fields prepared)
    (hwritten : Written env files prepared payload)
    (hreadable : Readable env inputEntries fields) :
    ∀ e ∈ prepared.entries.map (writtenEntry files), ContentEntry env.sha256 e := by
  intro e he
  obtain ⟨entry, hentry, rfl⟩ := List.mem_map.mp he
  have hstored := storedPath_utf8 (hprepared.valid.2 entry hentry)
    (hprepared.unmarked hreadable entry hentry)
  refine ⟨⟨hstored, hwritten.length entry hentry, hwritten.digest entry hentry⟩,
    fun htype => ?_⟩
  -- a manifest lists no manifest
  obtain ⟨hvalidated, _, _⟩ := encodeBackupManifest_eq_ok.mp hprepared.content
  obtain ⟨_, _, _, _, _, _, hany⟩ := validateBackupManifest_bounds hvalidated
  refine hany (List.any_eq_true.mpr ⟨entry.toBackupContainerEntryDescriptor, ?_,
    decide_eq_true htype⟩)
  rw [hprepared.manifest_entries]
  exact List.mem_map_of_mem hentry

theorem tail_logicalPaths {entries : List ParsedBackupContainerEntry}
    (h : entries.map (·.toBackupContainerEntryDescriptor) = prepared.manifestDescriptor
      :: prepared.entries.map (·.toBackupContainerEntryDescriptor)) :
    entries.tail.map (·.logicalPath) = prepared.entries.map (·.logicalPath) := by
  have htail := congrArg (fun l => l.tail.map (·.logicalPath)) h
  rw [← List.map_tail, List.tail_cons, List.map_map, List.map_map] at htail
  exact htail

/-- Where the entries of a layout begin. -/
theorem drop_payloadLayout (first : StoredEntry) (rest : List StoredEntry) :
    (payloadLayout first rest).drop backupPayloadHeaderLength = records (first :: rest)
      ∧ backupPayloadHeaderLength ≤ (payloadLayout first rest).length := by
  refine ⟨List.drop_left' (payloadHeader_length _), ?_⟩
  rw [payloadLayout, List.length_append, payloadHeader_length]
  exact Nat.le_add_right _ _

/-- What can be read is read. -/
theorem readBack_of_readable (hlaws : ComparesTotally env.localeCompare)
    (hprepared : Prepared env inputEntries fields prepared)
    (hwritten : Written env files prepared payload)
    (hreadable : Readable env inputEntries fields) :
    ∃ parsed, ReadBack env files prepared payload parsed := by
  obtain ⟨_, hmax⟩ := payload_length hprepared hwritten
  have hcount := hprepared.count
  have hfirst := written_manifestEntry hprepared hreadable
  have hrest := written_contentEntry hprepared hwritten hreadable
  have hentries : (parsedFrom backupPayloadHeaderLength (writtenEntries files prepared)).map
      (·.toBackupContainerEntryDescriptor) = prepared.manifestDescriptor
        :: prepared.entries.map (·.toBackupContainerEntryDescriptor) := by
    rw [parsedFrom_descriptors, writtenEntries_descriptors]
  have hfits : ∀ e ∈ writtenEntries files prepared, e.Fits env.sha256 := by
    intro e he
    rcases List.mem_cons.mp he with rfl | he
    · exact hfirst.toFits
    · exact (hrest e he).toFits
  obtain ⟨hdrop, hstart⟩ := drop_payloadLayout (writtenManifest prepared)
    (prepared.entries.map (writtenEntry files))
  rw [← hwritten.layout] at hdrop hstart
  refine ⟨⟨parsedFrom backupPayloadHeaderLength (writtenEntries files prepared),
    prepared.manifest⟩, ?_, rfl, hentries, ?_⟩
  · refine readDecryptedBackupPayload_eq_ok.mpr ⟨_, _, hwritten.layout, hmax, ?_, hfirst, hrest,
      rfl, ?_, ?_, ?_⟩
    · rw [List.length_map]
      exact hcount.2
    · rw [← writtenEntries, writtenEntries_descriptors]
      exact hprepared.unique
    · rw [assertDeterministicEntryOrder_eq_ok hlaws, tail_logicalPaths hentries,
        List.pairwise_map, hprepared.entries]
      exact (sortEntries_distinct hlaws).mpr hreadable.distinct
    · rw [List.map_map, hprepared.manifest_entries]
      rfl
  · rw [contentOf_parsedFrom hfits hdrop hstart, writtenEntries_contents]

theorem map_canonical (entries : List StoredEntry) :
    entries.map (·.canonical) = List.zipWith
      (fun descriptor content => ⟨descriptor, utf8 descriptor.logicalPath, content⟩)
      (entries.map (·.descriptor)) (entries.map (·.content)) := by
  rw [List.zipWith_map, List.zipWith_self]
  rfl

/-- Every entry is written over the UTF-8 bytes of its path. -/
theorem writtenEntries_canonical (hprepared : Prepared env inputEntries fields prepared) :
    (writtenEntries files prepared).map (·.canonical) = writtenEntries files prepared := by
  have hname : (writtenManifest prepared).canonical = writtenManifest prepared := by
    rw [StoredEntry.canonical, writtenManifest, hprepared.descriptor]
    rfl
  rw [writtenEntries, List.map_cons, hname, List.map_map]
  rfl

/-- A payload that is read back has no marks. -/
theorem stored_of_readBack {parsed : ParsedBackupPayload}
    (hprepared : Prepared env inputEntries fields prepared)
    (hwritten : Written env files prepared payload)
    (h : ReadBack env files prepared payload parsed) :
    ∃ first rest, ManifestEntry env prepared.manifest first
      ∧ (∀ e ∈ rest, ContentEntry env.sha256 e)
      ∧ (first :: rest).map (·.descriptor)
        = (writtenEntries files prepared).map (·.descriptor)
      ∧ first.content = prepared.manifestContent
      ∧ ¬ ∃ path ∈ (first :: rest).map (·.path), StartsWithMark path := by
  obtain ⟨first, rest, hlayout, _, _, hfirst, hrest, hentries, _, _, _⟩ :=
    readDecryptedBackupPayload_eq_ok.mp h.read
  rw [h.manifest] at hfirst
  have hfits : ∀ e ∈ first :: rest, e.Fits env.sha256 := by
    intro e he
    rcases List.mem_cons.mp he with rfl | he
    · exact hfirst.toFits
    · exact (hrest e he).toFits
  obtain ⟨hdrop, hstart⟩ := drop_payloadLayout first rest
  rw [← hlayout] at hdrop hstart
  have hdescriptors : (first :: rest).map (·.descriptor)
      = (writtenEntries files prepared).map (·.descriptor) := by
    rw [writtenEntries_descriptors, ← h.entries, hentries, parsedFrom_descriptors]
  have hcontents : (first :: rest).map (·.content)
      = (writtenEntries files prepared).map (·.content) := by
    rw [writtenEntries_contents, ← h.contents, hentries,
      contentOf_parsedFrom hfits hdrop hstart]
  -- written again, the entries are those that were written
  have hcanonical : (first :: rest).map (·.canonical) = writtenEntries files prepared := by
    rw [map_canonical, hdescriptors, hcontents, ← map_canonical,
      writtenEntries_canonical hprepared]
  have hsame : records ((first :: rest).map (·.canonical)) = records (first :: rest) := by
    rw [hcanonical, ← hdrop, hwritten.layout]
    exact (drop_payloadLayout _ _).1.symm
  refine ⟨first, rest, hfirst, hrest, hdescriptors, ?_,
    (normalizes_records (fun e he => (hfits e he).path)).eq_iff.mp hsame⟩
  rw [writtenEntries_contents, List.map_cons] at hcontents
  exact (List.cons.inj hcontents).1

theorem not_marked_of_decodes {bytes : Buffer} {text : String}
    (h : textDecode? bytes = some text) (hmark : ¬ StartsWithMark bytes) : ¬ Marked text := by
  have hbytes := (textDecode?_eq_some hmark).mp h
  rw [Marked, hbytes]
  exact hmark

/-- What is read back was readable. -/
theorem readable_of_readBack {parsed : ParsedBackupPayload}
    (hlaws : ComparesTotally env.localeCompare)
    (hprepared : Prepared env inputEntries fields prepared)
    (hwritten : Written env files prepared payload)
    (h : ReadBack env files prepared payload parsed) : Readable env inputEntries fields := by
  obtain ⟨first, rest, hfirst, hrest, hdescriptors, hcontent, hunmarked⟩ :=
    stored_of_readBack hprepared hwritten h
  -- the texts of the manifest
  obtain ⟨a, p, g, paths, hlayout, ha, hp, hg, hpaths, _⟩ :=
    decodeBackupManifest_eq_ok.mp hfirst.decodes
  obtain ⟨_, hencoded, _⟩ := encodeBackupManifest_eq_ok.mp hprepared.content
  have hsame : canonicalManifest prepared.manifest
      = manifestLayout prepared.manifest a p g paths := by
    rw [← hlayout, hcontent, hencoded]
  have htexts := (normalizes_manifest ha hp hg hpaths).eq_iff.mp hsame
  have hnot : ∀ text ∈ a :: p :: g :: paths, ¬ StartsWithMark text :=
    fun text htext hmark => htexts ⟨text, htext, hmark⟩
  have happ := not_marked_of_decodes ha.decodes (hnot a (by simp))
  have hprofile := not_marked_of_decodes hp.decodes (hnot p (by simp))
  have hchain := not_marked_of_decodes hg.decodes (hnot g (by simp))
  rw [hprepared.manifest] at happ hprofile hchain
  refine ⟨happ, hprofile, hchain, ?_, ?_⟩
  · intro e he
    have hmem : e.toBackupContainerEntryDescriptor ∈ rest.map (·.descriptor) := by
      rw [writtenEntries_descriptors, List.map_cons] at hdescriptors
      rw [(List.cons.inj hdescriptors).2, hprepared.entries]
      exact List.mem_map_of_mem ((List.mem_insertionSort _).mpr he)
    obtain ⟨stored, hstored, heq⟩ := List.mem_map.mp hmem
    have hdecodes := (hrest stored hstored).path.decodes
    rw [heq] at hdecodes
    exact not_marked_of_decodes hdecodes (fun hmark => hunmarked
      ⟨stored.path, List.mem_map_of_mem (List.mem_cons_of_mem _ hstored), hmark⟩)
  · obtain ⟨_, _, _, _, _, _, _, _, _, horder, _⟩ :=
      readDecryptedBackupPayload_eq_ok.mp h.read
    rw [assertDeterministicEntryOrder_eq_ok hlaws, tail_logicalPaths h.entries,
      List.pairwise_map, hprepared.entries, sortEntries_distinct hlaws] at horder
    exact horder

/-- **A BACKUP IS READ BACK EXACTLY WHEN IT IS READABLE**: what was prepared is emitted
    unless a file changes, with the announced length; and the reader returns what was
    written exactly when no text begins with U+FEFF and no two paths compare as equal. -/
theorem backup_read_back (hlaws : ComparesTotally env.localeCompare)
    (hprepare : prepareBackupPayload env files inputEntries fields = .ok prepared) :
    (∃ payload, createPayload env files prepared = .ok payload)
      ∧ ∀ files' payload, createPayload env files' prepared = .ok payload →
        (payload.length : Int) = prepared.plaintextLength
          ∧ ((∃ parsed, ReadBack env files' prepared payload parsed)
            ↔ Readable env inputEntries fields) := by
  obtain ⟨hprepared, _⟩ := prepareBackupPayload_prepared hprepare
  refine ⟨createPayload_of_prepared hprepare, fun files' payload hcreate => ?_⟩
  have hwritten := createPayload_written hprepared hcreate
  refine ⟨(payload_length hprepared hwritten).1, ?_, ?_⟩
  · rintro ⟨parsed, h⟩
    exact readable_of_readBack hlaws hprepared hwritten h
  · exact readBack_of_readable hlaws hprepared hwritten

/-! ## Samples -/

/-- A file on the disk. -/
def sampleFile : SourceFile where
  isFile := true
  isSymbolicLink := false
  nlink := 1
  dev := 1
  ino := 1
  mtimeNs := 0
  ctimeNs := 0
  realPath := "source"
  content := sampleContent

/-- The one file. -/
def sampleFiles (path : String) : Option SourceFile :=
  if path = "source" then some sampleFile else none

/-- The fields of the sample manifest. -/
def sampleFields : ManifestFields where
  appVersion := sampleManifest.appVersion
  createdAtEpochMilliseconds := sampleManifest.createdAtEpochMilliseconds
  migrationChainIdentity := sampleManifest.migrationChainIdentity
  profileId := sampleManifest.profileId

/-- An entry read from the file. -/
def sampleEntry (logicalPath : String) (type : BackupContainerEntryType) :
    BackupPayloadSourceEntry :=
  ⟨⟨3, logicalPath, sampleEnvironment.sha256 sampleContent, type⟩, "source"⟩

/-- What is prepared for entries that are in order. -/
def samplePrepared (entries : List BackupPayloadSourceEntry) : PreparedBackupPayload :=
  let manifest := { sampleManifest with
    entries := entries.map (·.toBackupContainerEntryDescriptor) }
  let content := canonicalManifest manifest
  { manifest
    entries
    manifestContent := content
    manifestDescriptor := describeManifest sampleEnvironment content
    sourceIdentities := entries.map (fun _ => sampleFile)
    plaintextLength := backupPayloadHeaderLength + backupEntryHeaderLength
      + (utf8 manifestLogicalPath).length + content.length
      + (records (entries.map (writtenEntry sampleFiles))).length }

/-- The bytes that are written. -/
def sampleWritten (entries : List BackupPayloadSourceEntry) : Buffer :=
  payloadLayout (writtenManifest (samplePrepared entries))
    (entries.map (writtenEntry sampleFiles))

/-- The database and the catalogue, in the order of their paths. -/
def plainEntries : List BackupPayloadSourceEntry :=
  [sampleEntry "catalog.json" .artifactCatalog, sampleEntry "eky.sqlite" .database]

/-- The path begins with U+FEFF. -/
def markedEntries : List BackupPayloadSourceEntry := [sampleEntry "\uFEFFeky.sqlite" .database]

/-- The same letter composed and decomposed. -/
def equivalentEntries : List BackupPayloadSourceEntry :=
  [sampleEntry "\u00e9.pdf" .businessArtifact, sampleEntry "e\u0301.pdf" .businessArtifact]

theorem sample_prepared_written (entries : List BackupPayloadSourceEntry)
    (h : entries ∈ [markedEntries, equivalentEntries]) :
    prepareBackupPayload sampleEnvironment sampleFiles entries sampleFields
        = .ok (samplePrepared entries)
      ∧ createPayload sampleEnvironment sampleFiles (samplePrepared entries)
        = .ok (sampleWritten entries) := by
  revert entries
  decide +kernel

/-- Entries that are given in another order are written in the order of their paths. -/
theorem plain_prepared_written :
    prepareBackupPayload sampleEnvironment sampleFiles plainEntries.reverse sampleFields
        = .ok (samplePrepared plainEntries)
      ∧ createPayload sampleEnvironment sampleFiles (samplePrepared plainEntries)
        = .ok (sampleWritten plainEntries) := by
  decide +kernel

theorem sample_comparesTotally : ComparesTotally sampleEnvironment.localeCompare := by
  have hle : ∀ a b, sampleEnvironment.localeCompare a b ≤ 0 ↔ compose a ≤ compose b := by
    intro a b
    show (if compose a < compose b then (-1 : Int)
      else if compose b < compose a then 1 else 0) ≤ 0 ↔ _
    split
    · exact ⟨fun _ => le_of_lt ‹_›, fun _ => by decide⟩
    · split
      · exact ⟨fun h => absurd h (by decide), fun h => absurd h (not_le_of_gt ‹_›)⟩
      · exact ⟨fun _ => le_of_not_gt ‹_›, fun _ => by decide⟩
  have hge : ∀ a b, 0 ≤ sampleEnvironment.localeCompare a b ↔ compose b ≤ compose a := by
    intro a b
    show 0 ≤ (if compose a < compose b then (-1 : Int)
      else if compose b < compose a then 1 else 0) ↔ _
    split
    · exact ⟨fun h => absurd h (by decide), fun h => absurd h (not_le_of_gt ‹_›)⟩
    · exact ⟨fun _ => le_of_not_gt ‹_›, fun _ => by split <;> decide⟩
  constructor
  · intro a b
    rw [hge, hle]
  · intro a b c
    rw [hle, hle, hle]
    exact le_trans

/-- A backup of two plain paths, given out of order, is read back. -/
theorem plain_backup_read_back :
    ∃ parsed, ReadBack sampleEnvironment sampleFiles (samplePrepared plainEntries)
      (sampleWritten plainEntries) parsed := by
  obtain ⟨hprepare, hcreate⟩ := plain_prepared_written
  have h := ((backup_read_back sample_comparesTotally hprepare).2 sampleFiles _ hcreate).2
  exact h.mpr ⟨by decide, by decide, by decide, by decide, by decide +kernel⟩

/-- **BACKUPS THAT ARE NOT READ BACK**: one is returned with another path, the other is
    refused. -/
theorem written_backup_not_read_back :
    (prepareBackupPayload sampleEnvironment sampleFiles markedEntries sampleFields
        = .ok (samplePrepared markedEntries)
      ∧ createPayload sampleEnvironment sampleFiles (samplePrepared markedEntries)
        = .ok (sampleWritten markedEntries)
      ∧ ∀ parsed, readDecryptedBackupPayload sampleEnvironment (sampleWritten markedEntries)
        = .ok parsed → parsed.manifest ≠ (samplePrepared markedEntries).manifest)
      ∧ prepareBackupPayload sampleEnvironment sampleFiles equivalentEntries sampleFields
        = .ok (samplePrepared equivalentEntries)
      ∧ createPayload sampleEnvironment sampleFiles (samplePrepared equivalentEntries)
        = .ok (sampleWritten equivalentEntries)
      ∧ readDecryptedBackupPayload sampleEnvironment (sampleWritten equivalentEntries)
        = .error "BACKUP_ENTRY_ORDER_INVALID" := by
  obtain ⟨hprepare, hcreate⟩ := sample_prepared_written markedEntries (by decide)
  obtain ⟨hprepare', hcreate'⟩ := sample_prepared_written equivalentEntries (by decide)
  refine ⟨⟨hprepare, hcreate, ?_⟩, hprepare', hcreate', by decide +kernel⟩
  have hread : (readDecryptedBackupPayload sampleEnvironment (sampleWritten markedEntries)).map
      (·.manifest) = .ok (samplePrepared [sampleEntry "eky.sqlite" .database]).manifest := by
    decide +kernel
  intro parsed hparsed
  rw [hparsed] at hread
  have hmanifest : parsed.manifest = (samplePrepared [sampleEntry "eky.sqlite" .database]).manifest :=
    Except.ok.inj hread
  rw [hmanifest]
  decide

end ProfileBackup
