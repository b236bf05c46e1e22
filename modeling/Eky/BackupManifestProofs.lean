import Eky.BackupEntryProofs
import Eky.BackupManifest

/-! # When a manifest is accepted

    `decodeBackupManifest_eq_ok`: a manifest is accepted exactly when its bytes are the
    layout of the decoded fields over the bytes of the texts, and each text is what its
    bytes decode to.  `encodeBackupManifest_eq_ok`: the encoding is the same layout over
    the UTF-8 bytes of the texts. -/

namespace ProfileBackup

open Fallible Buffers

/-! ## Texts -/

/-- A text of the manifest. -/
structure ValidText (value : String) : Prop where
  nonempty : value ≠ ""
  length_le : (utf8 value).length ≤ maximumManifestTextBytes
  printable : ¬ value.toList.any isControlCharacter

variable {a path p g : Buffer} {value : String} {descriptor : BackupContainerEntryDescriptor}
  {offset : Nat}

theorem validateText_eq_ok {u : Unit} : validateText value = .ok u ↔ ValidText value := by
  simp only [validateText, throwIf_eq_ok, not_or]
  constructor
  · rintro ⟨hne, hle, hprintable⟩
    exact ⟨hne, by omega, hprintable⟩
  · rintro ⟨hne, hle, hprintable⟩
    exact ⟨hne, by omega, hprintable⟩

theorem utf8_length_pos (h : value ≠ "") : 1 ≤ (utf8 value).length := by
  by_contra hzero
  have hnil : utf8 value = [] := List.eq_nil_of_length_eq_zero (by omega)
  exact h (utf8_inj.mp (hnil.trans utf8_empty.symm))

/-- A text that begins at an offset is read from there. -/
theorem readText_eq_ok {content : Buffer} {length : Nat} :
    readText content offset length = .ok value ↔
      offset + length ≤ content.length
        ∧ textDecode? (slice content offset length) = some value ∧ ValidText value := by
  simp only [readText, bind_eq_ok, throwIf_eq_ok, exists_const, orThrow_eq_ok, pure_eq_ok,
    validateText_eq_ok]
  constructor
  · rintro ⟨hle, text, htext, hvalid, rfl⟩
    exact ⟨by omega, htext, hvalid⟩
  · rintro ⟨hle, htext, hvalid⟩
    exact ⟨by omega, value, htext, hvalid, rfl⟩

/-! ## Entries -/

/-- The entry as it is stored over these bytes of its path. -/
def entryRecord (descriptor : BackupContainerEntryDescriptor) (path : Buffer) : Buffer :=
  entryHeader descriptor path ++ path

/-- The bytes of the path decode to that of the descriptor. -/
structure StoredPath (descriptor : BackupContainerEntryDescriptor) (path : Buffer) : Prop where
  decodes : textDecode? path = some descriptor.logicalPath
  valid : ValidDescriptor descriptor
  pos : 1 ≤ path.length
  le : path.length ≤ maximumBackupPathBytes

theorem StoredPath.lt (h : StoredPath descriptor path) : path.length < 256 ^ 4 :=
  Nat.lt_of_le_of_lt h.le (by decide)

theorem entryRecord_length (h : ValidDescriptor descriptor) :
    (entryRecord descriptor path).length = backupEntryHeaderLength + path.length := by
  rw [entryRecord, List.length_append, entryHeader_length h.sha256]

/-- What stands at an offset is the record of the descriptor. -/
theorem decode_record {bytes rest : Buffer} (hstored : StoredPath descriptor path)
    (h : bytes.drop offset = entryRecord descriptor path ++ rest) :
    slice bytes offset backupEntryHeaderLength = entryHeader descriptor path
      ∧ readUIntBE (slice (entryHeader descriptor path) 4 4) = path.length
      ∧ slice bytes (offset + backupEntryHeaderLength) path.length = path
      ∧ bytes.drop (offset + backupEntryHeaderLength + path.length) = rest
      ∧ decodeBackupEntryHeader (entryHeader descriptor path) path = .ok descriptor := by
  rw [entryRecord, List.append_assoc] at h
  obtain ⟨hheader, hbehind⟩ := slice_of_drop h (entryHeader_length hstored.valid.sha256)
  obtain ⟨hpath, hrest⟩ := slice_of_drop hbehind rfl
  obtain ⟨_, _, _, hlength, _⟩ := entryHeader_fields hstored.valid hstored.lt
  exact ⟨hheader, hlength, hpath, hrest, (decodeBackupEntryHeader_eq_ok hstored.lt).mpr
    ⟨rfl, hstored.decodes, hstored.valid⟩⟩

/-- The records of the entries of a manifest. -/
def entryRecords (entries : List BackupContainerEntryDescriptor) (paths : List Buffer) : Buffer :=
  (entries.zipWith entryRecord paths).flatten

/-- What is read are the records, one after the other. -/
theorem readManifestEntries_eq_ok {content : Buffer} {count last : Nat}
    {entries : List BackupContainerEntryDescriptor} (hoffset : offset ≤ content.length) :
    readManifestEntries content count offset = .ok (entries, last) ↔
      ∃ paths, List.Forall₂ StoredPath entries paths ∧ entries.length = count
        ∧ content.drop offset = entryRecords entries paths ++ content.drop last
        ∧ last = offset + (entryRecords entries paths).length := by
  induction count generalizing offset entries with
  | zero =>
      rw [readManifestEntries, pure_eq_ok, Prod.mk.injEq]
      constructor
      · rintro ⟨rfl, rfl⟩
        exact ⟨[], List.Forall₂.nil, rfl, rfl, rfl⟩
      · rintro ⟨paths, hstored, hlength, _, rfl⟩
        obtain rfl : entries = [] := List.eq_nil_of_length_eq_zero hlength
        exact ⟨rfl, rfl⟩
  | succ count ih =>
      simp only [readManifestEntries, bind_eq_ok, throwIf_eq_ok, exists_const, pure_eq_ok]
      constructor
      · rintro ⟨hheader, hpathLength, hpathEnd, entry, hentry, ⟨rest, last'⟩, hrest, heq⟩
        obtain ⟨rfl, rfl⟩ := Prod.mk.inj heq
        obtain ⟨paths, hstored, rfl, hdrop, hlast⟩ := (ih (by omega)).mp hrest
        set pathLength := readUIntBE (slice (slice content offset
          manifestEntryHeaderLength) 4 4)
        have hlength : (slice content (offset + manifestEntryHeaderLength)
            pathLength).length = pathLength := slice_length (by omega)
        have hle : pathLength ≤ 1024 := by
          have hmax : ¬ pathLength > 1024 := fun h => hpathLength (Or.inr h)
          omega
        have hpos : 1 ≤ pathLength := by
          by_contra hzero
          exact hpathLength (Or.inl (by omega))
        obtain ⟨hheaderBytes, hdecodes, hvalid⟩ :=
          (decodeBackupEntryHeader_eq_ok (by omega)).mp hentry
        refine ⟨slice content (offset + manifestEntryHeaderLength) pathLength :: paths,
          List.Forall₂.cons ⟨hdecodes, hvalid, by omega, ?_⟩ hstored, rfl, ?_, ?_⟩
        · rw [hlength]
          exact hle
        · show content.drop offset = (entryRecord entry _ ++ entryRecords rest paths) ++ _
          rw [entryRecord, ← hheaderBytes, List.append_assoc, List.append_assoc, ← hdrop,
            ← drop_eq_slice_append, ← drop_eq_slice_append]
        · have hlast : last' = offset + manifestEntryHeaderLength + pathLength
              + (entryRecords rest paths).length := hlast
          show last' = offset + (entryRecord entry _ ++ entryRecords rest paths).length
          rw [List.length_append, entryRecord_length hvalid, hlength, hlast]
          show offset + 48 + pathLength + _ = offset + (48 + pathLength + _)
          omega
      · rintro ⟨paths, hstored, hlength, hdrop, hlast⟩
        cases hstored with
        | nil => cases hlength
        | @cons entry path rest paths hentry hstored =>
            have hdrop' : content.drop offset = entryRecord entry path
                ++ (entryRecords rest paths ++ content.drop last) := by
              rw [hdrop, ← List.append_assoc]
              rfl
            obtain ⟨hheader, hpathLength, hpath, hbehind, hdecode⟩ :=
              decode_record hentry hdrop'
            have hsize := le_length_of_drop hdrop' (entryRecord_length hentry.valid) hoffset
            have hlast' : last = offset + (backupEntryHeaderLength + path.length
                + (entryRecords rest paths).length) := by
              rw [hlast]
              show offset + (entryRecord entry path ++ entryRecords rest paths).length = _
              rw [List.length_append, entryRecord_length hentry.valid]
            have hpos := hentry.pos
            have hle := hentry.le
            have hheaderLength : manifestEntryHeaderLength = backupEntryHeaderLength := rfl
            rw [hheaderLength, hheader, hpathLength, hpath]
            refine ⟨by omega, by omega, by omega, entry, hdecode, (rest, last), ?_, rfl⟩
            exact (ih (by omega)).mpr ⟨paths, hstored, Nat.succ.inj hlength, hbehind,
              by omega⟩

/-! ## The whole manifest -/

/-- The bytes of a text of the manifest decode to it. -/
structure StoredText (value : String) (bytes : Buffer) : Prop where
  decodes : textDecode? bytes = some value
  valid : ValidText value
  pos : 1 ≤ bytes.length
  le : bytes.length ≤ maximumManifestTextBytes

/-- The manifest over these bytes of its texts and paths. -/
def manifestLayout (manifest : BackupManifest)
    (appVersion profileId migrationChainIdentity : Buffer) (paths : List Buffer) : Buffer :=
  manifestHeader manifest appVersion profileId migrationChainIdentity
    ++ (appVersion ++ (profileId ++ (migrationChainIdentity
    ++ entryRecords manifest.entries paths)))

theorem manifestHeader_length {manifest : BackupManifest} :
    (manifestHeader manifest a p g).length = manifestFixedHeaderLength := by
  simp only [manifestHeader, List.length_append, uintBE_length]
  rfl

/-- The fields of the header of a manifest. -/
theorem manifestHeader_fields {manifest : BackupManifest} {rest : Buffer}
    (htime : 0 ≤ manifest.createdAtEpochMilliseconds
      ∧ manifest.createdAtEpochMilliseconds ≤ maximumSafeInteger) (ha : a.length < 256 ^ 2)
    (hp : p.length < 256 ^ 2) (hg : g.length < 256 ^ 2)
    (hentries : manifest.entries.length < 256 ^ 4) :
    let content := manifestHeader manifest a p g ++ rest
    slice content 0 8 = backupManifestMagic
      ∧ readUIntBE (slice content 8 2) = backupManifestVersion
      ∧ readUIntBE (slice content 10 2) = manifestFixedHeaderLength
      ∧ (readUIntBE (slice content 12 8) : Int) = manifest.createdAtEpochMilliseconds
      ∧ readUIntBE (slice content 20 2) = a.length
      ∧ readUIntBE (slice content 22 2) = p.length
      ∧ readUIntBE (slice content 24 2) = g.length
      ∧ readUIntBE (slice content 26 2) = 0
      ∧ readUIntBE (slice content 28 4) = manifest.entries.length
      ∧ content.drop 32 = rest := by
  intro content
  have hmagic : backupManifestMagic.length = 8 := rfl
  have hzeros : ([0, 0] : Buffer).length = 2 := rfl
  have hwidth : ∀ width n, (uintBE width n).length = width := uintBE_length
  have hdrop : content.drop 32 = rest := List.drop_left' manifestHeader_length
  have hcontent : content = backupManifestMagic ++ (uintBE 2 backupManifestVersion
      ++ (uintBE 2 manifestFixedHeaderLength
      ++ (uintBE 8 manifest.createdAtEpochMilliseconds.toNat ++ (uintBE 2 a.length
      ++ (uintBE 2 p.length ++ (uintBE 2 g.length ++ ([0, 0]
      ++ (uintBE 4 manifest.entries.length ++ rest)))))))) := by
    show manifestHeader manifest a p g ++ rest = _
    simp only [manifestHeader, List.append_assoc]
  refine ⟨?_, ?_, ?_, ?_, ?_, ?_, ?_, ?_, ?_, hdrop⟩
  all_goals rw [hcontent]
  · rw [slice_append_left hmagic]
  · rw [slice_append_right 0 (by omega), slice_append_left (hwidth _ _),
      readUIntBE_uintBE (by decide)]
  · rw [slice_append_right 2 (by omega), slice_append_right 0 (by rw [hwidth]),
      slice_append_left (hwidth _ _), readUIntBE_uintBE (by decide)]
  · rw [slice_append_right 4 (by omega), slice_append_right 2 (by rw [hwidth]),
      slice_append_right 0 (by rw [hwidth]), slice_append_left (hwidth _ _),
      readUIntBE_uintBE]
    · omega
    · have hmax := htime.2
      rw [maximumSafeInteger] at hmax
      omega
  · rw [slice_append_right 12 (by omega), slice_append_right 10 (by rw [hwidth]),
      slice_append_right 8 (by rw [hwidth]), slice_append_right 0 (by rw [hwidth]),
      slice_append_left (hwidth _ _), readUIntBE_uintBE ha]
  · rw [slice_append_right 14 (by omega), slice_append_right 12 (by rw [hwidth]),
      slice_append_right 10 (by rw [hwidth]), slice_append_right 2 (by rw [hwidth]),
      slice_append_right 0 (by rw [hwidth]), slice_append_left (hwidth _ _),
      readUIntBE_uintBE hp]
  · rw [slice_append_right 16 (by omega), slice_append_right 14 (by rw [hwidth]),
      slice_append_right 12 (by rw [hwidth]), slice_append_right 4 (by rw [hwidth]),
      slice_append_right 2 (by rw [hwidth]), slice_append_right 0 (by rw [hwidth]),
      slice_append_left (hwidth _ _), readUIntBE_uintBE hg]
  · rw [slice_append_right 18 (by omega), slice_append_right 16 (by rw [hwidth]),
      slice_append_right 14 (by rw [hwidth]), slice_append_right 6 (by rw [hwidth]),
      slice_append_right 4 (by rw [hwidth]), slice_append_right 2 (by rw [hwidth]),
      slice_append_right 0 (by rw [hwidth]), slice_append_left hzeros]
    rfl
  · rw [slice_append_right 20 (by omega), slice_append_right 18 (by rw [hwidth]),
      slice_append_right 16 (by rw [hwidth]), slice_append_right 8 (by rw [hwidth]),
      slice_append_right 6 (by rw [hwidth]), slice_append_right 4 (by rw [hwidth]),
      slice_append_right 2 (by rw [hwidth]), slice_append_right 0 (by omega),
      slice_append_left (hwidth _ _), readUIntBE_uintBE hentries]

section Collisions

variable {toLowerCase : String → String} {manifest : BackupManifest} {content : Buffer}

theorem validateBackupManifest_bounds
    (h : validateBackupManifest toLowerCase manifest = .ok ()) :
    (0 < manifest.createdAtEpochMilliseconds
        ∧ manifest.createdAtEpochMilliseconds ≤ maximumSafeInteger)
      ∧ (1 ≤ manifest.entries.length ∧ manifest.entries.length ≤ maximumBackupEntryCount - 1)
      ∧ ValidText manifest.appVersion ∧ ValidText manifest.profileId
      ∧ ValidText manifest.migrationChainIdentity
      ∧ assertUniqueBackupEntryPaths toLowerCase manifest.entries = .ok ()
      ∧ ¬ manifest.entries.any (·.type = .manifest) := by
  simp only [validateBackupManifest, bind_eq_ok, throwIf_eq_ok, exists_const,
    validateText_eq_ok, not_or] at h
  obtain ⟨⟨htime, hmax, hpos, hcount⟩, happ, hprofile, hchain, _, hunique, hmanifest⟩ := h
  exact ⟨⟨by omega, by omega⟩, ⟨by omega, by omega⟩, happ, hprofile, hchain, hunique,
    hmanifest⟩

/-- The header of accepted bytes is that of the decoded fields. -/
private theorem header_of_fields (hlength : 32 ≤ content.length)
    (hmagic : slice content 0 8 = backupManifestMagic)
    (hversion : readUIntBE (slice content 8 2) = backupManifestVersion)
    (hheader : readUIntBE (slice content 10 2) = manifestFixedHeaderLength)
    (htime : (readUIntBE (slice content 12 8) : Int) = manifest.createdAtEpochMilliseconds)
    (ha : readUIntBE (slice content 20 2) = a.length)
    (hp : readUIntBE (slice content 22 2) = p.length)
    (hg : readUIntBE (slice content 24 2) = g.length) (hzero : readUIntBE (slice content 26 2) = 0)
    (hcount : readUIntBE (slice content 28 4) = manifest.entries.length) :
    content = manifestHeader manifest a p g ++ content.drop 32 := by
  have htimeNat : manifest.createdAtEpochMilliseconds.toNat
      = readUIntBE (slice content 12 8) := by omega
  have hzeros : ([0, 0] : Buffer) = uintBE 2 0 := rfl
  have hsplit : content = slice content 0 8 ++ (slice content 8 2 ++ (slice content 10 2
      ++ (slice content 12 8 ++ (slice content 20 2 ++ (slice content 22 2
      ++ (slice content 24 2 ++ (slice content 26 2 ++ (slice content 28 4
      ++ content.drop 32)))))))) := by
    rw [← drop_eq_slice_append, ← drop_eq_slice_append, ← drop_eq_slice_append,
      ← drop_eq_slice_append, ← drop_eq_slice_append, ← drop_eq_slice_append,
      ← drop_eq_slice_append, ← drop_eq_slice_append, ← drop_eq_slice_append]
    rfl
  rw [manifestHeader, hzeros, htimeNat, ← hversion, ← hheader, ← ha, ← hp, ← hg, ← hzero,
    ← hcount, ← hmagic]
  simp only [List.append_assoc]
  rw [uintBE_slice (by omega), uintBE_slice (by omega), uintBE_slice (by omega),
    uintBE_slice (by omega), uintBE_slice (by omega), uintBE_slice (by omega),
    uintBE_slice (by omega), uintBE_slice (by omega)]
  exact hsplit

/-- **A MANIFEST** is accepted exactly when its bytes are the layout of its fields over the
    bytes of its texts and paths. -/
theorem decodeBackupManifest_eq_ok :
    decodeBackupManifest toLowerCase content = .ok manifest ↔
      ∃ a p g paths, content = manifestLayout manifest a p g paths
        ∧ StoredText manifest.appVersion a ∧ StoredText manifest.profileId p
        ∧ StoredText manifest.migrationChainIdentity g
        ∧ List.Forall₂ StoredPath manifest.entries paths
        ∧ content.length ≤ maximumManifestBytes
        ∧ validateBackupManifest toLowerCase manifest = .ok () := by
  simp only [decodeBackupManifest, bind_eq_ok, throwIf_eq_ok, exists_const, pure_eq_ok,
    not_or, Decidable.not_not, readText_eq_ok]
  constructor
  · rintro ⟨⟨hlength, hmax, hmagic, hversion, hheader, hzero⟩,
      ⟨hcountPos, hcountMax, haPos, hpPos, hgPos, haMax, hpMax, hgMax⟩,
      appVersion, ⟨haEnd, haDecodes, haValid⟩, profileId, ⟨hpEnd, hpDecodes, hpValid⟩,
      chain, ⟨hgEnd, hgDecodes, hgValid⟩, ⟨entries, last⟩, hentries, hlast, _, hvalid, rfl⟩
    obtain ⟨paths, hstored, hcount, hdrop, _⟩ :=
      (readManifestEntries_eq_ok (by omega)).mp hentries
    have ha := slice_length haEnd
    have hp := slice_length hpEnd
    have hg := slice_length hgEnd
    have hfixed : manifestFixedHeaderLength = 32 := rfl
    refine ⟨_, _, _, paths, ?_, ⟨haDecodes, haValid, by omega, by omega⟩,
      ⟨hpDecodes, hpValid, by omega, by omega⟩, ⟨hgDecodes, hgValid, by omega, by omega⟩,
      hstored, by omega, hvalid⟩
    have hrest : content.drop last = [] := List.drop_eq_nil_of_le (by
      have hlast : last = content.length := hlast
      omega)
    rw [hrest, List.append_nil] at hdrop
    refine (@header_of_fields _ _ _ ⟨appVersion, _, entries, chain, profileId⟩ _
      (by omega) hmagic hversion hheader rfl ha.symm hp.symm hg.symm hzero
      hcount.symm).trans ?_
    rw [manifestLayout, ← hdrop, ← drop_eq_slice_append, ← drop_eq_slice_append,
      ← hfixed, ← drop_eq_slice_append]
  · rintro ⟨a, p, g, paths, hcontent, ha, hp, hg, hstored, hmax, hvalid⟩
    obtain ⟨htime, hcount, _⟩ := validateBackupManifest_bounds hvalid
    have haPos := ha.pos
    have hpPos := hp.pos
    have hgPos := hg.pos
    have haMax : a.length ≤ 1024 := ha.le
    have hpMax : p.length ≤ 1024 := hp.le
    have hgMax : g.length ≤ 1024 := hg.le
    have hcountMax : manifest.entries.length ≤ 100009 := hcount.2
    obtain ⟨hmagic, hversion, hheader, htimeRead, haRead, hpRead, hgRead, hzero, hcountRead,
      hdrop⟩ := @manifestHeader_fields a p g manifest
        (a ++ (p ++ (g ++ entryRecords manifest.entries paths)))
        ⟨Int.le_of_lt htime.1, htime.2⟩ (by omega) (by omega) (by omega) (by omega)
    rw [manifestLayout] at hcontent
    rw [← hcontent] at hmagic hversion hheader htimeRead haRead hpRead
    rw [← hcontent] at hgRead hzero hcountRead hdrop
    have hlength : 32 + a.length + p.length + g.length
        + (entryRecords manifest.entries paths).length = content.length := by
      have hheaderLength : (manifestHeader manifest a p g).length = 32 :=
        manifestHeader_length
      rw [hcontent]
      simp only [List.length_append, hheaderLength]
      omega
    have hfixed : manifestFixedHeaderLength = 32 := rfl
    have htextMax : maximumManifestTextBytes = 1024 := rfl
    have hcountLimit : maximumBackupEntryCount = 100010 := rfl
    obtain ⟨haSlice, hbehindA⟩ := slice_of_drop hdrop rfl
    obtain ⟨hpSlice, hbehindP⟩ := slice_of_drop hbehindA rfl
    obtain ⟨hgSlice, hbehindG⟩ := slice_of_drop hbehindP rfl
    rw [haRead, hpRead, hgRead, hcountRead, hfixed, haSlice, hpSlice, hgSlice]
    refine ⟨⟨by omega, by omega, hmagic, hversion, hheader, hzero⟩,
      ⟨by omega, by omega, by omega, by omega, by omega, by omega, by omega, by omega⟩,
      manifest.appVersion, ⟨by omega, ha.decodes, ha.valid⟩,
      manifest.profileId, ⟨by omega, hp.decodes, hp.valid⟩,
      manifest.migrationChainIdentity, ⟨by omega, hg.decodes, hg.valid⟩,
      (manifest.entries, content.length), ?_, rfl, ?_⟩
    · refine (readManifestEntries_eq_ok (by omega)).mpr ⟨paths, hstored, rfl, ?_, by omega⟩
      rw [hbehindG, List.drop_length, List.append_nil]
    · rw [htimeRead]
      exact ⟨(), hvalid, rfl⟩

theorem mapM_encodeBackupEntryHeader {entries : List BackupContainerEntryDescriptor}
    {parts : List (Buffer × Buffer)} :
    entries.mapM encodeBackupEntryHeader = .ok parts ↔ (∀ e ∈ entries, ValidDescriptor e)
      ∧ parts = entries.map (fun e =>
          (entryHeader e (utf8 e.logicalPath), utf8 e.logicalPath)) := by
  constructor
  · intro h
    have hvalid : ∀ e ∈ entries, ValidDescriptor e := by
      intro e he
      obtain ⟨⟨header, path⟩, _, hpart⟩ := exists_of_mapM_ok h he
      exact (encodeBackupEntryHeader_eq_ok.mp hpart).1
    refine ⟨hvalid, mapM_map_of_ok h (fun e part _ hpart => ?_)⟩
    obtain ⟨_, hheader, hpath⟩ :=
      @encodeBackupEntryHeader_eq_ok e part.1 part.2 |>.mp hpart
    rw [← hpath, ← hheader]
  · rintro ⟨hvalid, rfl⟩
    exact mapM_eq_ok_map (fun e he =>
      encodeBackupEntryHeader_eq_ok.mpr ⟨hvalid e he, rfl, rfl⟩)

theorem entryRecords_utf8 (entries : List BackupContainerEntryDescriptor) :
    entryRecords entries (entries.map (fun e => utf8 e.logicalPath))
      = (entries.map (fun e => (entryHeader e (utf8 e.logicalPath), utf8 e.logicalPath))).flatMap
          (fun part => part.1 ++ part.2) := by
  induction entries with
  | nil => rfl
  | cons e rest ih =>
      rw [List.map_cons, List.map_cons, List.flatMap_cons, ← ih]
      rfl

/-- The manifest over the UTF-8 bytes of its texts and paths. -/
def canonicalManifest (manifest : BackupManifest) : Buffer :=
  manifestLayout manifest (utf8 manifest.appVersion) (utf8 manifest.profileId)
    (utf8 manifest.migrationChainIdentity)
    (manifest.entries.map (fun e => utf8 e.logicalPath))

theorem manifestLayout_length {paths : List Buffer} :
    (manifestLayout manifest a p g paths).length = manifestFixedHeaderLength + a.length
      + p.length + g.length + (entryRecords manifest.entries paths).length := by
  rw [manifestLayout]
  simp only [List.length_append, manifestHeader_length]
  omega

theorem encodeBackupManifest_eq_ok :
    encodeBackupManifest toLowerCase manifest = .ok content ↔
      validateBackupManifest toLowerCase manifest = .ok ()
        ∧ content = canonicalManifest manifest ∧ content.length ≤ maximumManifestBytes := by
  simp only [encodeBackupManifest, encodeText, bind_eq_ok, throwIf_eq_ok, exists_const,
    pure_eq_ok, validateText_eq_ok, mapM_encodeBackupEntryHeader]
  have hlayout : canonicalManifest manifest = manifestHeader manifest
      (utf8 manifest.appVersion) (utf8 manifest.profileId)
      (utf8 manifest.migrationChainIdentity) ++ (utf8 manifest.appVersion
        ++ (utf8 manifest.profileId ++ (utf8 manifest.migrationChainIdentity
        ++ (manifest.entries.map (fun e => (entryHeader e (utf8 e.logicalPath),
            utf8 e.logicalPath))).flatMap (fun part => part.1 ++ part.2)))) := by
    rw [canonicalManifest, manifestLayout, entryRecords_utf8]
  have hlength : (canonicalManifest manifest).length = _ := manifestLayout_length
  rw [entryRecords_utf8] at hlength
  constructor
  · rintro ⟨_, hvalid, _, ⟨_, rfl⟩, _, ⟨_, rfl⟩, _, ⟨_, rfl⟩, _, ⟨_, rfl⟩, hmax, rfl⟩
    rw [← hlayout]
    exact ⟨hvalid, rfl, by omega⟩
  · rintro ⟨hvalid, rfl, hmax⟩
    obtain ⟨_, _, happ, hprofile, hchain, hunique, _⟩ := validateBackupManifest_bounds hvalid
    exact ⟨(), hvalid, _, ⟨happ, rfl⟩, _, ⟨hprofile, rfl⟩, _, ⟨hchain, rfl⟩, _,
      ⟨(assertUniqueBackupEntryPaths_eq_ok.mp hunique).1, rfl⟩, by omega, hlayout.symm⟩

end Collisions

end ProfileBackup
