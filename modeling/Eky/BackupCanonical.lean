import Eky.BackupContainerHeader
import Eky.BackupPayloadProofs

/-! # Is the backup format canonical?

    A canonical format has one byte string for each value.  Every number, every length
    and every reserved byte of a payload is pinned by a check, but texts are decoded by
    a `TextDecoder`, which drops a leading byte order mark: a path or a text of the
    manifest may stand in the payload with three bytes more than it is written with.

    - `Normalizes`: how stored bytes compare with those that would be written;
    - `backup_format_canonical`: an accepted payload is what is written for it exactly
      when none of its texts begins with the mark;
    - `marked_payload_accepted`: a payload that is not. -/

namespace ProfileBackup

open Fallible Buffers

/-! ## Stored and written bytes -/

/-- The written bytes are the stored ones, or shorter when something is marked. -/
structure Normalizes (stored written : Buffer) (marked : Prop) : Prop where
  shorter : marked → written.length < stored.length
  same : ¬ marked → written = stored

namespace Normalizes

variable {stored written stored' written' : Buffer} {marked marked' : Prop}

theorem refl (bytes : Buffer) : Normalizes bytes bytes False where
  shorter h := h.elim
  same _ := rfl

theorem length_le (h : Normalizes stored written marked) :
    written.length ≤ stored.length := by
  by_cases hmarked : marked
  · exact Nat.le_of_lt (h.shorter hmarked)
  · rw [h.same hmarked]

theorem append (h : Normalizes stored written marked)
    (h' : Normalizes stored' written' marked') :
    Normalizes (stored ++ stored') (written ++ written') (marked ∨ marked') where
  shorter hor := by
    have hle := h.length_le
    have hle' := h'.length_le
    rw [List.length_append, List.length_append]
    rcases hor with hmarked | hmarked
    · have hlt := h.shorter hmarked
      omega
    · have hlt := h'.shorter hmarked
      omega
  same hnot := by
    rw [h.same (fun hm => hnot (Or.inl hm)), h'.same (fun hm => hnot (Or.inr hm))]

theorem congr (h : Normalizes stored written marked) (hiff : marked ↔ marked') :
    Normalizes stored written marked' where
  shorter hm := h.shorter (hiff.mpr hm)
  same hm := h.same (fun hm' => hm (hiff.mp hm'))

/-- Nothing is marked exactly when the bytes are the same. -/
theorem eq_iff (h : Normalizes stored written marked) : written = stored ↔ ¬ marked := by
  constructor
  · intro heq hmarked
    have hlt := h.shorter hmarked
    rw [heq] at hlt
    exact Nat.lt_irrefl _ hlt
  · exact h.same

end Normalizes

variable {bytes : Buffer} {manifest : BackupManifest} {sha256 : Buffer → String}
  {entries : List StoredEntry} {paths : List Buffer} {offset : Nat}

/-- A decoded text is written without its mark. -/
theorem normalizes_text {text : String} (h : textDecode? bytes = some text) :
    Normalizes bytes (utf8 text) (StartsWithMark bytes) where
  shorter hmark := by
    rw [← textDecode?_of_mark hmark h, List.length_append]
    show (utf8 text).length < 3 + (utf8 text).length
    omega
  same hmark := (textDecode?_eq_some hmark).mp h

theorem normalizes_record {descriptor : BackupContainerEntryDescriptor} {path : Buffer}
    (h : StoredPath descriptor path) :
    Normalizes (entryRecord descriptor path)
      (entryRecord descriptor (utf8 descriptor.logicalPath)) (StartsWithMark path) where
  shorter hmark := by
    have hlt := (normalizes_text h.decodes).shorter hmark
    rw [entryRecord_length h.valid, entryRecord_length h.valid]
    omega
  same hmark := by rw [(normalizes_text h.decodes).same hmark]

theorem normalizes_entryRecords {entries : List BackupContainerEntryDescriptor}
    (h : List.Forall₂ StoredPath entries paths) : Normalizes (entryRecords entries paths)
      (entryRecords entries (entries.map (fun e => utf8 e.logicalPath)))
      (∃ path ∈ paths, StartsWithMark path) := by
  induction h with
  | nil => exact (Normalizes.refl []).congr ⟨False.elim, fun ⟨_, hp, _⟩ => nomatch hp⟩
  | @cons entry path rest paths hentry _ ih =>
      refine ((normalizes_record hentry).append ih).congr ?_
      simp only [List.mem_cons, exists_eq_or_imp]

theorem normalizes_manifest {a p g : Buffer} (ha : StoredText manifest.appVersion a)
    (hp : StoredText manifest.profileId p) (hg : StoredText manifest.migrationChainIdentity g)
    (hpaths : List.Forall₂ StoredPath manifest.entries paths) :
    Normalizes (manifestLayout manifest a p g paths) (canonicalManifest manifest)
      (∃ text ∈ a :: p :: g :: paths, StartsWithMark text) := by
  have htexts := (normalizes_text ha.decodes).append ((normalizes_text hp.decodes).append
    ((normalizes_text hg.decodes).append (normalizes_entryRecords hpaths)))
  have hiff : (∃ text ∈ a :: p :: g :: paths, StartsWithMark text) ↔ StartsWithMark a
      ∨ StartsWithMark p ∨ StartsWithMark g ∨ ∃ path ∈ paths, StartsWithMark path := by
    simp only [List.mem_cons, exists_eq_or_imp]
  refine ⟨fun hmarked => ?_, fun hnot => ?_⟩
  · have hlt := htexts.shorter (hiff.mp hmarked)
    simp only [List.length_append] at hlt
    rw [canonicalManifest, manifestLayout_length, manifestLayout_length]
    omega
  · have hnone := mt hiff.mpr hnot
    rw [not_or, not_or, not_or] at hnone
    rw [canonicalManifest, (normalizes_text ha.decodes).same hnone.1,
      (normalizes_text hp.decodes).same hnone.2.1,
      (normalizes_text hg.decodes).same hnone.2.2.1, manifestLayout, manifestLayout,
      (normalizes_entryRecords hpaths).same hnone.2.2.2]

/-- An entry over the UTF-8 bytes of its path. -/
def StoredEntry.canonical (entry : StoredEntry) : StoredEntry :=
  { entry with path := utf8 entry.descriptor.logicalPath }

theorem normalizes_records (h : ∀ e ∈ entries, StoredPath e.descriptor e.path) :
    Normalizes (records entries) (records (entries.map (·.canonical)))
      (∃ path ∈ entries.map (·.path), StartsWithMark path) := by
  induction entries with
  | nil => exact (Normalizes.refl []).congr ⟨False.elim, fun ⟨_, hp, _⟩ => nomatch hp⟩
  | cons entry rest ih =>
      have hentry := (normalizes_record (h entry List.mem_cons_self)).append
        (Normalizes.refl entry.content)
      have hrest := ih (fun e he => h e (List.mem_cons_of_mem _ he))
      refine (hentry.append hrest).congr ?_
      simp only [List.map_cons, List.mem_cons, exists_eq_or_imp, or_false]

/-! ## The texts of a payload -/

/-- The bytes of the paths of so many entries; those of a payload have their contents
    behind them, those of a manifest do not. -/
def storedPaths (withContent : Bool) (bytes : Buffer) : Nat → Nat → List Buffer
  | 0, _ => []
  | count + 1, offset =>
    let header := slice bytes offset backupEntryHeaderLength
    let pathOffset := offset + backupEntryHeaderLength
    let contentOffset := pathOffset + readUIntBE (slice header 4 4)
    let contentLength := if withContent then readUIntBE (slice header 8 8) else 0
    slice bytes pathOffset (readUIntBE (slice header 4 4))
      :: storedPaths withContent bytes count (contentOffset + contentLength)

/-- The texts of a manifest, as bytes. -/
def manifestTexts (content : Buffer) : List Buffer :=
  let appVersionLength := readUIntBE (slice content 20 2)
  let profileIdLength := readUIntBE (slice content 22 2)
  let migrationIdentityLength := readUIntBE (slice content 24 2)
  let profileIdOffset := manifestFixedHeaderLength + appVersionLength
  let migrationIdentityOffset := profileIdOffset + profileIdLength
  slice content manifestFixedHeaderLength appVersionLength
    :: slice content profileIdOffset profileIdLength
    :: slice content migrationIdentityOffset migrationIdentityLength
    :: storedPaths false content (readUIntBE (slice content 28 4))
      (migrationIdentityOffset + migrationIdentityLength)

/-- The texts of a payload, as bytes: those of the manifest and the paths. -/
def storedTexts (payload : Buffer) : List Buffer :=
  let header := slice payload backupPayloadHeaderLength backupEntryHeaderLength
  let contentOffset := backupPayloadHeaderLength + backupEntryHeaderLength
    + readUIntBE (slice header 4 4)
  manifestTexts (slice payload contentOffset (readUIntBE (slice header 8 8)))
    ++ storedPaths true payload (readUIntBE (slice payload 12 4)) backupPayloadHeaderLength

/-- None of the texts begins with a byte order mark. -/
def NoMark (payload : Buffer) : Prop := ¬ ∃ text ∈ storedTexts payload, StartsWithMark text

theorem storedPaths_entryRecords {entries : List BackupContainerEntryDescriptor}
    (h : List.Forall₂ StoredPath entries paths)
    (hdrop : bytes.drop offset = entryRecords entries paths) :
    storedPaths false bytes entries.length offset = paths := by
  induction h generalizing offset with
  | nil => rfl
  | @cons entry path rest paths hentry _ ih =>
      obtain ⟨hheader, hlength, hpath, hbehind, _⟩ := decode_record hentry hdrop
      rw [List.length_cons, storedPaths, hheader, hlength, hpath]
      exact congrArg (path :: ·) (ih hbehind)

theorem storedPaths_records (h : ∀ e ∈ entries, e.Fits sha256)
    (hdrop : bytes.drop offset = records entries) :
    storedPaths true bytes entries.length offset = entries.map (·.path) := by
  induction entries generalizing offset with
  | nil => rfl
  | cons entry rest ih =>
      have hentry := h entry List.mem_cons_self
      rw [records_cons, StoredEntry.record, List.append_assoc] at hdrop
      obtain ⟨hheader, hlength, hpath, hbehind, _⟩ := decode_record hentry.path hdrop
      obtain ⟨_, _, _, _, hcontent, _⟩ :=
        entryHeader_fields hentry.path.valid hentry.path.lt
      have hsize := hentry.length
      obtain ⟨_, hnext⟩ := slice_of_drop hbehind (Eq.refl entry.content.length)
      have hcontentLength : readUIntBE (slice (entryHeader entry.descriptor entry.path) 8 8)
          = entry.content.length := by omega
      rw [List.length_cons, storedPaths, hheader, hlength, hpath, if_pos rfl, hcontentLength]
      exact congrArg (entry.path :: ·)
        (ih (fun e he => h e (List.mem_cons_of_mem _ he)) hnext)

theorem manifestTexts_layout {toLowerCase : String → String} {a p g : Buffer}
    (ha : StoredText manifest.appVersion a) (hp : StoredText manifest.profileId p)
    (hg : StoredText manifest.migrationChainIdentity g)
    (hpaths : List.Forall₂ StoredPath manifest.entries paths)
    (hvalid : validateBackupManifest toLowerCase manifest = .ok ()) :
    manifestTexts (manifestLayout manifest a p g paths) = a :: p :: g :: paths := by
  obtain ⟨htime, hcount, _⟩ := validateBackupManifest_bounds hvalid
  have haMax : a.length ≤ 1024 := ha.le
  have hpMax : p.length ≤ 1024 := hp.le
  have hgMax : g.length ≤ 1024 := hg.le
  have hcountMax : manifest.entries.length ≤ 100009 := hcount.2
  obtain ⟨_, _, _, _, haRead, hpRead, hgRead, _, hcountRead, hdrop⟩ :=
    @manifestHeader_fields a p g manifest
      (a ++ (p ++ (g ++ entryRecords manifest.entries paths)))
      ⟨Int.le_of_lt htime.1, htime.2⟩ (by omega) (by omega) (by omega) (by omega)
  obtain ⟨haSlice, hbehindA⟩ := slice_of_drop hdrop rfl
  obtain ⟨hpSlice, hbehindP⟩ := slice_of_drop hbehindA rfl
  obtain ⟨hgSlice, hbehindG⟩ := slice_of_drop hbehindP rfl
  have hfixed : manifestFixedHeaderLength = 32 := rfl
  rw [manifestTexts, manifestLayout, haRead, hpRead, hgRead, hcountRead, hfixed, haSlice,
    hpSlice, hgSlice, storedPaths_entryRecords hpaths hbehindG]

theorem storedTexts_layout {first : StoredEntry} {rest : List StoredEntry}
    (hfirst : first.Fits sha256) (hrest : ∀ e ∈ rest, e.Fits sha256)
    (hcount : rest.length + 1 ≤ maximumBackupEntryCount) : storedTexts (payloadLayout first rest)
      = manifestTexts first.content ++ (first :: rest).map (·.path) := by
  have hlt : rest.length + 1 < 256 ^ 4 := Nat.lt_of_le_of_lt hcount (by decide)
  have hall : ∀ e ∈ first :: rest, e.Fits sha256 := by
    intro e he
    rcases List.mem_cons.mp he with rfl | he
    · exact hfirst
    · exact hrest e he
  have hdrop : (payloadLayout first rest).drop backupPayloadHeaderLength
      = records (first :: rest) := List.drop_left' (payloadHeader_length _)
  have hdrop' := hdrop
  rw [records_cons, StoredEntry.record, List.append_assoc] at hdrop'
  obtain ⟨hheader, hlength, _, hbehind, _⟩ := decode_record hfirst.path hdrop'
  obtain ⟨_, _, _, _, hcontent, _⟩ :=
    entryHeader_fields hfirst.path.valid hfirst.path.lt
  have hsize := hfirst.length
  have hcontentLength : readUIntBE (slice (entryHeader first.descriptor first.path) 8 8)
      = first.content.length := by omega
  have hread : readUIntBE (slice (payloadLayout first rest) 12 4) = rest.length + 1 :=
    payloadHeader_count _ hlt
  rw [storedTexts, hheader, hlength, hcontentLength, (slice_of_drop hbehind rfl).1, hread,
    ← List.length_cons, storedPaths_records hall hdrop]

/-! ## Writing again -/

/-- The content that an entry of the payload has. -/
def contentOf (payload : Buffer) (entry : ParsedBackupContainerEntry) : Buffer :=
  slice payload entry.contentOffset entry.contentLength.toNat

/-- Header, path and content of an entry. -/
def reencodeEntry (source : BackupContainerEntryDescriptor × Buffer) :
    Except String Buffer := do
  let (header, path) ← encodeBackupEntryHeader source.1
  pure (header ++ (path ++ source.2))

/-- The parsed payload is written again, with the contents of the entries behind the
    manifest. -/
def reencodePayload (toLowerCase : String → String) (parsed : ParsedBackupPayload)
    (contents : List Buffer) : Except String Buffer := do
  let header ← encodeBackupPayloadHeader parsed.entries.length
  let manifestContent ← encodeBackupManifest toLowerCase parsed.manifest
  let descriptors := parsed.entries.map (·.toBackupContainerEntryDescriptor)
  let entries ← (descriptors.zip (manifestContent :: contents)).mapM reencodeEntry
  pure (header ++ entries.flatten)

theorem contentOf_parsedFrom {payload : Buffer} (h : ∀ e ∈ entries, e.Fits sha256)
    (hdrop : payload.drop offset = records entries) (hoffset : offset ≤ payload.length) :
    (parsedFrom offset entries).map (contentOf payload) = entries.map (·.content) := by
  induction entries generalizing offset with
  | nil => rfl
  | cons entry rest ih =>
      have hentry := h entry List.mem_cons_self
      rw [records_cons] at hdrop
      obtain ⟨_, hcontent⟩ := record_of_drop hentry hdrop hoffset
      obtain ⟨_, hbehind⟩ := slice_of_drop hdrop rfl
      have hsize := le_length_of_drop hdrop rfl hoffset
      rw [parsedFrom, List.map_cons, List.map_cons,
        ih (fun e he => h e (List.mem_cons_of_mem _ he)) hbehind hsize]
      exact congrArg (· :: rest.map (·.content)) hcontent

theorem mapM_reencodeEntry (h : ∀ e ∈ entries, ValidDescriptor e.descriptor) :
    ((entries.map (·.descriptor)).zip (entries.map (·.content))).mapM reencodeEntry
      = .ok (entries.map (·.canonical.record)) := by
  induction entries with
  | nil => rfl
  | cons entry rest ih =>
      have hheader : encodeBackupEntryHeader entry.descriptor = .ok
          (entryHeader entry.descriptor (utf8 entry.descriptor.logicalPath),
            utf8 entry.descriptor.logicalPath) :=
        encodeBackupEntryHeader_eq_ok.mpr ⟨h entry List.mem_cons_self, rfl, rfl⟩
      have hrest := ih (fun e he => h e (List.mem_cons_of_mem _ he))
      have hentry : reencodeEntry (entry.descriptor, entry.content)
          = .ok entry.canonical.record := by
        rw [reencodeEntry, hheader, StoredEntry.record, entryRecord, List.append_assoc]
        rfl
      rw [List.map_cons, List.map_cons, List.zip_cons_cons, List.mapM_cons, hentry, hrest]
      rfl

section Accepted

variable {env : Environment} {payload : Buffer} {parsed : ParsedBackupPayload}

/-- The descriptor of the manifest entry over the bytes of the manifest. -/
def describeManifest (env : Environment) (content : Buffer) : BackupContainerEntryDescriptor where
  contentLength := content.length
  logicalPath := manifestLogicalPath
  sha256 := env.sha256 content
  type := .manifest

theorem ManifestEntry.descriptor_eq {entry : StoredEntry} (h : ManifestEntry env manifest entry) :
    entry.descriptor = describeManifest env entry.content := by
  obtain ⟨⟨_, hlength, hdigest⟩, htype, hpath, _, _⟩ := h
  rw [describeManifest, hlength, hdigest, ← htype, ← hpath]

/-- An accepted payload is written again, shorter when one of its texts is marked. -/
theorem reencode_accepted (h : readDecryptedBackupPayload env payload = .ok parsed) :
    ∃ written, reencodePayload env.toLowerCase parsed
        (parsed.entries.tail.map (contentOf payload)) = .ok written
      ∧ Normalizes payload written (∃ text ∈ storedTexts payload, StartsWithMark text) := by
  obtain ⟨first, rest, hpayload, _, hcount, hfirst, hrest, hentries, _, _, _⟩ :=
    readDecryptedBackupPayload_eq_ok.mp h
  obtain ⟨a, p, g, paths, hcontent, ha, hp, hg, hpaths, hmax, hvalid⟩ :=
    decodeBackupManifest_eq_ok.mp hfirst.decodes
  have hfits : ∀ e ∈ rest, e.Fits env.sha256 := fun e he => (hrest e he).toFits
  have hfirstPath := normalizes_record hfirst.path
  have hmanifest := normalizes_manifest ha hp hg hpaths
  rw [← hcontent] at hmanifest
  have hrecords := normalizes_records (fun e he => (hfits e he).path)
  -- what is written behind the header
  let entries : List StoredEntry :=
    ⟨first.descriptor, first.path, canonicalManifest parsed.manifest⟩ :: rest
  refine ⟨payloadHeader (rest.length + 1) ++ records (entries.map (·.canonical)), ?_, ?_⟩
  · have hlength : parsed.entries.length = rest.length + 1 := by
      rw [hentries, parsedFrom_length, List.length_cons]
    have hdescriptors : parsed.entries.map (·.toBackupContainerEntryDescriptor)
        = entries.map (·.descriptor) := by
      rw [hentries, parsedFrom_descriptors]
      rfl
    have hcontents : canonicalManifest parsed.manifest
        :: parsed.entries.tail.map (contentOf payload) = entries.map (·.content) := by
      have hdrop : payload.drop backupPayloadHeaderLength = records (first :: rest) := by
        rw [hpayload]
        exact List.drop_left' (payloadHeader_length _)
      rw [records_cons] at hdrop
      have hstart : backupPayloadHeaderLength ≤ payload.length := by
        rw [hpayload, payloadLayout, List.length_append, payloadHeader_length]
        exact Nat.le_add_right _ _
      have hbehind := (slice_of_drop hdrop rfl).2
      have hsize := le_length_of_drop hdrop rfl hstart
      rw [hentries, parsedFrom, List.tail_cons, contentOf_parsedFrom hfits hbehind hsize]
      rfl
    have hencode : encodeBackupManifest env.toLowerCase parsed.manifest
        = .ok (canonicalManifest parsed.manifest) :=
      encodeBackupManifest_eq_ok.mpr ⟨hvalid, rfl, Nat.le_trans hmanifest.length_le hmax⟩
    have hheader : encodeBackupPayloadHeader (rest.length + 1)
        = .ok (payloadHeader (rest.length + 1)) :=
      encodeBackupPayloadHeader_eq_ok.mpr ⟨⟨by omega, hcount⟩, rfl⟩
    have hvalidEntries : ∀ e ∈ entries, ValidDescriptor e.descriptor := by
      intro e he
      rcases List.mem_cons.mp he with rfl | he
      · exact hfirst.path.valid
      · exact (hfits e he).path.valid
    have hmapM := mapM_reencodeEntry hvalidEntries
    rw [reencodePayload, hlength, hheader, hencode, hdescriptors]
    show ((entries.map (·.descriptor)).zip (canonicalManifest parsed.manifest
      :: parsed.entries.tail.map (contentOf payload))).mapM reencodeEntry >>= _ = _
    rw [hcontents, hmapM, records, List.flatMap_map, List.flatMap_def]
    rfl
  · have hlayout := (Normalizes.refl (payloadHeader (rest.length + 1))).append
      ((hfirstPath.append hmanifest).append hrecords)
    rw [hpayload]
    refine hlayout.congr ?_
    have htexts : manifestTexts first.content = a :: p :: g :: paths := by
      rw [hcontent]
      exact manifestTexts_layout ha hp hg hpaths hvalid
    rw [storedTexts_layout hfirst.toFits hfits hcount, htexts]
    simp only [List.mem_append, List.map_cons, List.mem_cons, or_and_right, exists_or,
      exists_eq_left, false_or]
    constructor
    · rintro ((hmark | hmark) | hmark)
      · exact Or.inr (Or.inl hmark)
      · exact Or.inl hmark
      · exact Or.inr (Or.inr hmark)
    · rintro (hmark | hmark | hmark)
      · exact Or.inl (Or.inr hmark)
      · exact Or.inl (Or.inl hmark)
      · exact Or.inr hmark

/-- Without marks the descriptors of the entries follow from the manifest. -/
theorem descriptors_of_noMark (h : readDecryptedBackupPayload env payload = .ok parsed)
    (hnone : NoMark payload) :
    parsed.entries.map (·.toBackupContainerEntryDescriptor)
      = describeManifest env (canonicalManifest parsed.manifest) :: parsed.manifest.entries := by
  obtain ⟨first, rest, hpayload, _, hcount, hfirst, hrest, hentries, _, _, hclosure⟩ :=
    readDecryptedBackupPayload_eq_ok.mp h
  obtain ⟨a, p, g, paths, hcontent, ha, hp, hg, hpaths, _, hvalid⟩ :=
    decodeBackupManifest_eq_ok.mp hfirst.decodes
  have hunmarked : ¬ ∃ text ∈ a :: p :: g :: paths, StartsWithMark text := by
    rintro ⟨text, htext, hmark⟩
    refine hnone ⟨text, ?_, hmark⟩
    rw [hpayload, storedTexts_layout hfirst.toFits (fun e he => (hrest e he).toFits) hcount,
      hcontent, manifestTexts_layout ha hp hg hpaths hvalid]
    exact List.mem_append_left _ htext
  have hcanonical := (normalizes_manifest ha hp hg hpaths).same hunmarked
  rw [hentries, parsedFrom_descriptors, List.map_cons, hfirst.descriptor_eq, hcontent,
    ← hcanonical, hclosure]

end Accepted

/-- **THE FORMAT IS CANONICAL UP TO MARKS**: an accepted payload is what is written for what
    was read of it exactly when none of its texts begins with a byte order mark; two such
    payloads with the same manifest and the same contents are the same.  The header of a
    container is canonical. -/
theorem backup_format_canonical (env : Environment) :
    (∀ payload parsed, readDecryptedBackupPayload env payload = .ok parsed →
      (reencodePayload env.toLowerCase parsed
          (parsed.entries.tail.map (contentOf payload)) = .ok payload ↔ NoMark payload))
      ∧ (∀ payload payload' parsed parsed',
        readDecryptedBackupPayload env payload = .ok parsed →
        readDecryptedBackupPayload env payload' = .ok parsed' →
        NoMark payload → NoMark payload' → parsed.manifest = parsed'.manifest →
        parsed.entries.tail.map (contentOf payload)
          = parsed'.entries.tail.map (contentOf payload') → payload = payload')
      ∧ (∀ header decoded, decodeBackupContainerHeader header = .ok decoded →
        encodeBackupContainerHeader decoded = .ok header) := by
  have hcanonical : ∀ payload parsed, readDecryptedBackupPayload env payload = .ok parsed →
      (reencodePayload env.toLowerCase parsed
        (parsed.entries.tail.map (contentOf payload)) = .ok payload ↔ NoMark payload) := by
    intro payload parsed h
    obtain ⟨written, hwritten, hnormalizes⟩ := reencode_accepted h
    rw [hwritten, Except.ok.injEq]
    exact hnormalizes.eq_iff
  refine ⟨hcanonical, ?_, fun header decoded h => encode_decodeBackupContainerHeader h⟩
  intro payload payload' parsed parsed' h h' hnone hnone' hmanifest hcontents
  have hwritten := (hcanonical payload parsed h).mpr hnone
  have hwritten' := (hcanonical payload' parsed' h').mpr hnone'
  have hdescriptors := descriptors_of_noMark h hnone
  have hdescriptors' := descriptors_of_noMark h' hnone'
  -- what is written depends on the manifest, the descriptors and the contents only
  rw [← hmanifest, ← hdescriptors] at hdescriptors'
  have hlength := congrArg List.length hdescriptors'
  rw [List.length_map, List.length_map] at hlength
  rw [reencodePayload, hlength, hdescriptors', ← hmanifest, ← hcontents] at hwritten'
  rw [reencodePayload, hwritten'] at hwritten
  exact (Except.ok.inj hwritten).symm

/-! ## A marked path -/

/-- The content of a small database. -/
def sampleContent : Buffer := utf8 "eky"

/-- The second of two spellings of the same letter is composed. -/
def compose (text : String) : String := if text = "e\u0301.pdf" then "\u00e9.pdf" else text

/-- The digests of the contents that the samples have, told apart by their lengths. -/
def sampleEnvironment : Environment where
  sha256 content :=
    if content.length = 3 then
      "cfb0fe98ac697c3619eec42fc85514fead69f356553d2bb9b8c381244237e3c8"
    else if content.length = 107 then
      "40ee26819ae596aee5f9e27c2072d52c5da875dcb6e259df52f5918b78650f91"
    else if content.length = 110 then
      "bc1e29b5409bc259da5a3546cc487ca64e95bdf50950baf059895d27aacee5cb"
    else "0adc99199664374b649b002880abfc0871ca1a72582ba5833fe2d2f3b93eb66b"
  localeCompare first second :=
    if compose first < compose second then -1
    else if compose second < compose first then 1
    else 0
  toLowerCase := String.toLower
  pathsAreEqual first second := first = second

/-- A manifest of one entry. -/
def sampleManifest : BackupManifest where
  appVersion := "1.0.0"
  createdAtEpochMilliseconds := 1700000000000
  entries := [⟨3, "eky.sqlite",
    "cfb0fe98ac697c3619eec42fc85514fead69f356553d2bb9b8c381244237e3c8", .database⟩]
  migrationChainIdentity := "chain"
  profileId := "profile"

/-- A payload with one entry over these bytes of its path. -/
def samplePayload (path : Buffer) : Buffer :=
  payloadLayout
    ⟨describeManifest sampleEnvironment (canonicalManifest sampleManifest),
      utf8 manifestLogicalPath, canonicalManifest sampleManifest⟩
    (sampleManifest.entries.map (⟨·, path, sampleContent⟩))

/-- The path of the database. -/
def plainPath : Buffer := utf8 "eky.sqlite"

/-- The same path after a byte order mark. -/
def markedPath : Buffer := byteOrderMark ++ plainPath

/-- What is read of it. -/
def sampleParsed (path : Buffer) : ParsedBackupPayload where
  entries := [⟨describeManifest sampleEnvironment (canonicalManifest sampleManifest), 76⟩,
    ⟨⟨3, "eky.sqlite", sampleEnvironment.sha256 sampleContent, .database⟩,
      231 + path.length⟩]
  manifest := sampleManifest

theorem read_samplePayload (path : Buffer) (hpath : path ∈ [plainPath, markedPath]) :
    readDecryptedBackupPayload sampleEnvironment (samplePayload path)
      = .ok (sampleParsed path) := by
  revert path
  decide +kernel

instance (payload : Buffer) : Decidable (NoMark payload) :=
  inferInstanceAs (Decidable (¬ ∃ text ∈ storedTexts payload, StartsWithMark text))

/-- The payload without a mark is what is written for it. -/
theorem plain_payload_canonical :
    reencodePayload String.toLower (sampleParsed plainPath) [sampleContent]
      = .ok (samplePayload plainPath) := by
  have hcontents : (sampleParsed plainPath).entries.tail.map
      (contentOf (samplePayload plainPath)) = [sampleContent] := by decide +kernel
  have hcanonical := ((backup_format_canonical sampleEnvironment).1 _ _
    (read_samplePayload plainPath (by decide))).mpr (by decide +kernel)
  rw [hcontents] at hcanonical
  exact hcanonical

/-- **A MARK IS ACCEPTED**: with a byte order mark before the path of its entry the payload
    is accepted too, says the same, and is not what is written for it. -/
theorem marked_payload_accepted :
    readDecryptedBackupPayload sampleEnvironment (samplePayload markedPath)
        = .ok (sampleParsed markedPath)
      ∧ readDecryptedBackupPayload sampleEnvironment (samplePayload plainPath)
        = .ok (sampleParsed plainPath)
      ∧ contentOf (samplePayload markedPath) (sampleParsed markedPath).entries[1]
        = contentOf (samplePayload plainPath) (sampleParsed plainPath).entries[1]
      ∧ reencodePayload String.toLower (sampleParsed markedPath) [sampleContent]
        = .ok (samplePayload plainPath)
      ∧ samplePayload markedPath ≠ samplePayload plainPath := by
  refine ⟨read_samplePayload markedPath (by decide), read_samplePayload plainPath (by decide),
    ?_, ?_, ?_⟩
  · decide +kernel
  · decide +kernel
  · decide +kernel

end ProfileBackup
