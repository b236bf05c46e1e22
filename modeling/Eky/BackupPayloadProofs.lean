import Eky.BackupManifestProofs
import Eky.BackupPayload

/-! # When a payload is accepted

    `readDecryptedBackupPayload_eq_ok`: a payload is accepted exactly when its bytes are
    those of a header and of entries over the bytes of their paths, the first of them a
    manifest that lists the others.  The loop is followed entry by entry: what stands
    at the offset is the record of an entry with its content. -/

namespace ProfileBackup

open Fallible Buffers

/-! ## Stored entries -/

/-- An entry as it stands in the payload. -/
structure StoredEntry where
  descriptor : BackupContainerEntryDescriptor
  path : Buffer
  content : Buffer

variable {entryCount offset : Nat} {entry : StoredEntry} {state state' : ReadState}

namespace StoredEntry

/-- Header, path and content of an entry. -/
def record (entry : StoredEntry) : Buffer :=
  entryRecord entry.descriptor entry.path ++ entry.content

/-- The bytes of path and content belong to the descriptor. -/
structure Fits (sha256 : Buffer → String) (entry : StoredEntry) : Prop where
  path : StoredPath entry.descriptor entry.path
  length : (entry.content.length : Int) = entry.descriptor.contentLength
  digest : sha256 entry.content = entry.descriptor.sha256

theorem record_length (h : ValidDescriptor entry.descriptor) : entry.record.length
      = backupEntryHeaderLength + entry.path.length + entry.content.length := by
  rw [record, List.length_append, entryRecord_length h]

end StoredEntry

/-- The records of all entries. -/
def records (entries : List StoredEntry) : Buffer := entries.flatMap (·.record)

theorem records_cons (entry : StoredEntry) (rest : List StoredEntry) :
    records (entry :: rest) = entry.record ++ records rest := rfl

/-- What is read of entries that begin at `offset`. -/
def parsedFrom : Nat → List StoredEntry → List ParsedBackupContainerEntry
  | _, [] => []
  | offset, entry :: rest =>
    ⟨entry.descriptor, offset + backupEntryHeaderLength + entry.path.length⟩
      :: parsedFrom (offset + entry.record.length) rest

theorem parsedFrom_descriptors (offset : Nat) (entries : List StoredEntry) :
    (parsedFrom offset entries).map (·.toBackupContainerEntryDescriptor)
      = entries.map (·.descriptor) := by
  induction entries generalizing offset with
  | nil => rfl
  | cons entry rest ih => rw [parsedFrom, List.map_cons, List.map_cons, ih]

theorem parsedFrom_length (offset : Nat) (entries : List StoredEntry) :
    (parsedFrom offset entries).length = entries.length := by
  induction entries generalizing offset with
  | nil => rfl
  | cons entry rest ih => rw [parsedFrom, List.length_cons, List.length_cons, ih]

/-! ## Reading an entry -/

variable {env : Environment} {payload : Buffer}

theorem readExact_eq_ok {byteLength : Nat} {content : Buffer} :
    readExact payload byteLength offset = .ok content ↔
      slice payload offset byteLength = content ∧ content.length = byteLength := by
  simp only [readExact, bind_eq_ok, throwIf_eq_ok, exists_const, pure_eq_ok,
    Decidable.not_not]
  constructor
  · rintro ⟨hlength, rfl⟩
    exact ⟨rfl, hlength⟩
  · rintro ⟨rfl, hlength⟩
    exact ⟨hlength, rfl⟩

theorem readDescriptor_eq_ok {contentOffset : Nat} {descriptor : BackupContainerEntryDescriptor} :
    readDescriptor payload offset = .ok (descriptor, contentOffset) ↔
      ∃ path, StoredPath descriptor path
        ∧ payload.drop offset = entryRecord descriptor path ++ payload.drop contentOffset
        ∧ contentOffset = offset + backupEntryHeaderLength + path.length
        ∧ contentOffset + descriptor.contentLength.toNat ≤ payload.length := by
  simp only [readDescriptor, bind_eq_ok, throwIf_eq_ok, exists_const, pure_eq_ok,
    readExact_eq_ok, Prod.mk.injEq]
  constructor
  · rintro ⟨header, ⟨hheader, hlength⟩, hpathLength, path, ⟨hpath, hpathBytes⟩, descriptor',
      hdescriptor, hend, rfl, rfl⟩
    have hpos : 1 ≤ path.length := by
      by_contra hzero
      exact hpathLength (Or.inl (by omega))
    have hle : path.length ≤ maximumBackupPathBytes := by
      by_contra hlong
      exact hpathLength (Or.inr (by omega))
    have hlt : path.length < 256 ^ 4 := Nat.lt_of_le_of_lt hle (by decide)
    obtain ⟨rfl, hdecodes, hvalid⟩ := (decodeBackupEntryHeader_eq_ok hlt).mp hdescriptor
    refine ⟨path, ⟨hdecodes, hvalid, hpos, hle⟩, ?_, by omega, by omega⟩
    rw [← hpathBytes] at hpath ⊢
    have hbehind := @drop_eq_slice_append payload (offset + backupEntryHeaderLength) path.length
    rw [hpath] at hbehind
    rw [entryRecord, List.append_assoc, ← hbehind, ← hheader]
    exact drop_eq_slice_append
  · rintro ⟨path, hpath, hdrop, rfl, hend⟩
    obtain ⟨hheader, hpathLength, hpathBytes, _, hdecode⟩ := decode_record hpath hdrop
    have hpos := hpath.pos
    have hle := hpath.le
    refine ⟨_, ⟨hheader, entryHeader_length hpath.valid.sha256⟩, ?_, path, ⟨?_, ?_⟩,
      descriptor, hdecode, ?_, rfl, ?_⟩
    all_goals rw [hpathLength]
    · omega
    · exact hpathBytes
    · omega

/-- The content of an entry whose record begins at an offset. -/
theorem content_of_drop {descriptor : BackupContainerEntryDescriptor}
    (hend : offset + descriptor.contentLength.toNat ≤ payload.length) :
    payload.drop offset = slice payload offset descriptor.contentLength.toNat
        ++ payload.drop (offset + descriptor.contentLength.toNat)
      ∧ (slice payload offset descriptor.contentLength.toNat).length
        = descriptor.contentLength.toNat :=
  ⟨drop_eq_slice_append, slice_length hend⟩

/-- An entry behind the manifest. -/
structure ContentEntry (sha256 : Buffer → String) (entry : StoredEntry) : Prop extends
    StoredEntry.Fits sha256 entry where
  type : entry.descriptor.type ≠ .manifest

/-- The entry that holds the manifest. -/
structure ManifestEntry (env : Environment) (manifest : BackupManifest)
    (entry : StoredEntry) : Prop extends StoredEntry.Fits env.sha256 entry where
  type : entry.descriptor.type = .manifest
  logicalPath : entry.descriptor.logicalPath = manifestLogicalPath
  size : entry.descriptor.contentLength ≤ maximumManifestBytes
  decodes : decodeBackupManifest env.toLowerCase entry.content = .ok manifest

/-- The state of the loop after an entry. -/
def ReadState.after (state : ReadState) (manifest : Option BackupManifest)
    (entry : StoredEntry) : ReadState where
  entries := state.entries ++ parsedFrom state.offset [entry]
  manifest := manifest
  offset := state.offset + entry.record.length

private theorem after_eq {manifest : Option BackupManifest}
    (h : StoredPath entry.descriptor entry.path)
    (hlength : entry.content.length = entry.descriptor.contentLength.toNat) :
    ReadState.mk (state.entries ++ [⟨entry.descriptor,
        state.offset + backupEntryHeaderLength + entry.path.length⟩]) manifest
        (state.offset + backupEntryHeaderLength + entry.path.length
          + entry.descriptor.contentLength.toNat)
      = state.after manifest entry := by
  rw [ReadState.after, StoredEntry.record_length h.valid, ← hlength, parsedFrom, parsedFrom,
    ReadState.mk.injEq]
  exact ⟨rfl, rfl, by omega⟩

private theorem fits_length {sha256 : Buffer → String} (h : entry.Fits sha256) :
    entry.content.length = entry.descriptor.contentLength.toNat := by
  have hlength := h.length
  omega

/-- The record of an entry that begins at an offset, taken apart. -/
theorem record_of_drop {rest : Buffer} {sha256 : Buffer → String} (h : entry.Fits sha256)
    (hdrop : payload.drop offset = entry.record ++ rest) (hoffset : offset ≤ payload.length) :
    let contentOffset := offset + backupEntryHeaderLength + entry.path.length
    readDescriptor payload offset = .ok (entry.descriptor, contentOffset)
      ∧ slice payload contentOffset entry.descriptor.contentLength.toNat = entry.content := by
  intro contentOffset
  have hlength := fits_length h
  rw [StoredEntry.record, List.append_assoc] at hdrop
  have hrecord := @entryRecord_length entry.path _ h.path.valid
  obtain ⟨_, hbehind⟩ := slice_of_drop hdrop rfl
  rw [hrecord, ← Nat.add_assoc] at hbehind
  have hsize := le_length_of_drop hdrop rfl hoffset
  rw [hrecord] at hsize
  have hend := le_length_of_drop hbehind hlength (by omega)
  refine ⟨readDescriptor_eq_ok.mpr ⟨entry.path, h.path, ?_, rfl, hend⟩, ?_⟩
  · rw [hdrop, hbehind]
  · exact (slice_of_drop hbehind hlength).1

theorem readEntry_manifest (hoffset : state.offset ≤ payload.length) :
    readEntry env payload 0 state = .ok state' ↔ ∃ entry manifest,
      ManifestEntry env manifest entry
        ∧ payload.drop state.offset = entry.record ++ payload.drop state'.offset
        ∧ state' = state.after (some manifest) entry := by
  simp only [readEntry, readManifestEntry, assertHash, bind_eq_ok, throwIf_eq_ok, exists_const,
    pure_eq_ok, if_pos, readExact_eq_ok, not_or, Decidable.not_not, Prod.exists]
  constructor
  · rintro ⟨descriptor, contentOffset, hdescriptor, manifest, ⟨⟨htype, hpath, hsize⟩, content,
      ⟨hcontent, hlength⟩, hdigest, hdecodes⟩, rfl⟩
    obtain ⟨path, hstored, hdrop, rfl, hend⟩ := readDescriptor_eq_ok.mp hdescriptor
    have hnonneg := hstored.valid.content_nonneg
    refine ⟨⟨descriptor, path, content⟩, manifest,
      ⟨⟨hstored, ?_, hdigest⟩, htype, hpath, ?_, hdecodes⟩, ?_,
      @after_eq ⟨descriptor, path, content⟩ state (some manifest) hstored hlength⟩
    · show (content.length : Int) = descriptor.contentLength
      omega
    · show descriptor.contentLength ≤ maximumManifestBytes
      omega
    · show payload.drop state.offset = (entryRecord descriptor path ++ content) ++ _
      rw [hdrop, List.append_assoc, ← hcontent, (content_of_drop hend).1]
  · rintro ⟨entry, manifest, hentry, hdrop, rfl⟩
    obtain ⟨hread, hcontent⟩ := record_of_drop hentry.toFits hdrop hoffset
    have hsize := hentry.size
    exact ⟨_, _, hread, manifest, ⟨⟨hentry.type, hentry.logicalPath, by omega⟩, entry.content,
      ⟨hcontent, fits_length hentry.toFits⟩, hentry.digest, hentry.decodes⟩,
      after_eq hentry.path (fits_length hentry.toFits)⟩

theorem readEntry_content {index : Nat} (hoffset : state.offset ≤ payload.length) :
    readEntry env payload (index + 1) state = .ok state' ↔ ∃ entry,
      ContentEntry env.sha256 entry
        ∧ payload.drop state.offset = entry.record ++ payload.drop state'.offset
        ∧ state' = state.after state.manifest entry := by
  simp only [readEntry, checkContentEntry, assertFileRangeHash, assertHash, bind_eq_ok,
    throwIf_eq_ok, exists_const, pure_eq_ok, if_neg (Nat.succ_ne_zero index),
    readExact_eq_ok, Decidable.not_not, Prod.exists]
  constructor
  · rintro ⟨descriptor, contentOffset, hdescriptor, ⟨htype, content,
      ⟨hcontent, hlength⟩, hdigest⟩, rfl⟩
    obtain ⟨path, hstored, hdrop, rfl, hend⟩ := readDescriptor_eq_ok.mp hdescriptor
    have hnonneg := hstored.valid.content_nonneg
    refine ⟨⟨descriptor, path, content⟩, ⟨⟨hstored, ?_, hdigest⟩, htype⟩, ?_,
      @after_eq ⟨descriptor, path, content⟩ state state.manifest hstored hlength⟩
    · show (content.length : Int) = descriptor.contentLength
      omega
    · show payload.drop state.offset = (entryRecord descriptor path ++ content) ++ _
      rw [hdrop, List.append_assoc, ← hcontent, (content_of_drop hend).1]
  · rintro ⟨entry, hentry, hdrop, rfl⟩
    obtain ⟨hread, hcontent⟩ := record_of_drop hentry.toFits hdrop hoffset
    exact ⟨_, _, hread, ⟨hentry.type, entry.content,
      ⟨hcontent, fits_length hentry.toFits⟩, hentry.digest⟩,
      after_eq hentry.path (fits_length hentry.toFits)⟩

/-! ## The loop -/

/-- The rounds behind the first: one entry each, with its content. -/
theorem readEntries_eq_ok {rounds index : Nat} (hoffset : state.offset ≤ payload.length) :
    readEntries env payload rounds (index + 1) state = .ok state' ↔ ∃ entries,
      (∀ e ∈ entries, ContentEntry env.sha256 e) ∧ entries.length = rounds
        ∧ payload.drop state.offset = records entries ++ payload.drop state'.offset
        ∧ state' = ⟨state.entries ++ parsedFrom state.offset entries, state.manifest,
            state.offset + (records entries).length⟩ := by
  induction rounds generalizing index state with
  | zero =>
      rw [readEntries, pure_eq_ok]
      constructor
      · rintro rfl
        refine ⟨[], (fun e he => by cases he), rfl, rfl, ?_⟩
        rw [parsedFrom, List.append_nil]
        rfl
      · rintro ⟨entries, _, hlength, _, rfl⟩
        obtain rfl : entries = [] := List.eq_nil_of_length_eq_zero hlength
        rw [parsedFrom, List.append_nil]
        rfl
  | succ rounds ih =>
      simp only [readEntries, bind_eq_ok]
      constructor
      · rintro ⟨next, hnext, hrest⟩
        obtain ⟨entry, hentry, hdrop, rfl⟩ := (readEntry_content hoffset).mp hnext
        have hsize := le_length_of_drop hdrop rfl hoffset
        obtain ⟨entries, hentries, hlength, hbehind, rfl⟩ := (ih hsize).mp hrest
        refine ⟨entry :: entries, ?_, congrArg (· + 1) hlength, ?_, ?_⟩
        · intro e he
          rcases List.mem_cons.mp he with rfl | he
          · exact hentry
          · exact hentries e he
        · rw [hdrop, records_cons, List.append_assoc, hbehind]
        · rw [ReadState.mk.injEq, records_cons, List.length_append, parsedFrom]
          refine ⟨?_, rfl, Nat.add_assoc _ _ _⟩
          rw [ReadState.after, parsedFrom, parsedFrom, List.append_assoc]
          rfl
      · rintro ⟨entries, hentries, hlength, hdrop, rfl⟩
        cases entries with
        | nil => cases hlength
        | cons entry entries =>
            have hentry := hentries entry List.mem_cons_self
            rw [records_cons, List.append_assoc] at hdrop
            have hsize := le_length_of_drop hdrop rfl hoffset
            obtain ⟨_, hbehind⟩ := slice_of_drop hdrop rfl
            refine ⟨state.after state.manifest entry, (readEntry_content hoffset).mpr
              ⟨entry, hentry, ?_, rfl⟩, (ih hsize).mpr ⟨entries,
                (fun e he => hentries e (List.mem_cons_of_mem _ he)), Nat.succ.inj hlength,
                hbehind, ?_⟩⟩
            · show payload.drop state.offset
                = entry.record ++ payload.drop (state.offset + entry.record.length)
              rw [hbehind]
              exact hdrop
            · rw [ReadState.mk.injEq, records_cons, List.length_append]
              refine ⟨?_, rfl, (Nat.add_assoc _ _ _).symm⟩
              rw [ReadState.after, parsedFrom, parsedFrom, parsedFrom, List.append_assoc]
              rfl

/-! ## The header of the payload -/

/-- The header of a payload with that many entries. -/
def payloadHeader (entryCount : Nat) : Buffer :=
  backupPayloadMagic ++ (uintBE 2 backupPayloadVersion
    ++ (uintBE 2 backupPayloadHeaderLength ++ uintBE 4 entryCount))

theorem payloadHeader_length (entryCount : Nat) :
    (payloadHeader entryCount).length = backupPayloadHeaderLength := by
  simp only [payloadHeader, List.length_append, uintBE_length]
  rfl

/-- The number of entries is read back. -/
theorem payloadHeader_count (rest : Buffer) (h : entryCount < 256 ^ 4) :
    readUIntBE (slice (payloadHeader entryCount ++ rest) 12 4) = entryCount := by
  have hmagic : backupPayloadMagic.length = 8 := rfl
  rw [payloadHeader, List.append_assoc, List.append_assoc, List.append_assoc,
    slice_append_right 4 (by omega), slice_append_right 2 (by rw [uintBE_length]),
    slice_append_right 0 (by rw [uintBE_length]), slice_append_left (uintBE_length _ _),
    readUIntBE_uintBE h]

theorem encodeBackupPayloadHeader_eq_ok {header : Buffer} :
    encodeBackupPayloadHeader entryCount = .ok header ↔
      (1 ≤ entryCount ∧ entryCount ≤ maximumBackupEntryCount)
        ∧ header = payloadHeader entryCount := by
  simp only [encodeBackupPayloadHeader, bind_eq_ok, throwIf_eq_ok, exists_const, pure_eq_ok,
    not_or, List.append_assoc]
  constructor
  · rintro ⟨⟨hpos, hle⟩, rfl⟩
    exact ⟨⟨by omega, by omega⟩, rfl⟩
  · rintro ⟨⟨hpos, hle⟩, rfl⟩
    exact ⟨⟨by omega, by omega⟩, rfl⟩

theorem decodeBackupPayloadHeader_eq_ok {header : Buffer} :
    decodeBackupPayloadHeader header = .ok entryCount ↔
      (1 ≤ entryCount ∧ entryCount ≤ maximumBackupEntryCount)
        ∧ header = payloadHeader entryCount := by
  simp only [decodeBackupPayloadHeader, bind_eq_ok, throwIf_eq_ok, exists_const, pure_eq_ok,
    not_or, Decidable.not_not]
  constructor
  · rintro ⟨⟨hlength, hmagic, hversion, hheader⟩, ⟨hpos, hle⟩, rfl⟩
    have hlength' : header.length = 16 := hlength
    refine ⟨⟨by omega, by omega⟩, ?_⟩
    have hsplit : header = slice header 0 8 ++ (slice header 8 2 ++ (slice header 10 2
        ++ header.drop 12)) := by
      rw [← drop_eq_slice_append, ← drop_eq_slice_append, ← drop_eq_slice_append]
      rfl
    have hrest : slice header 12 4 = header.drop 12 :=
      List.take_of_length_le (by rw [List.length_drop]; omega)
    rw [payloadHeader, ← hmagic, ← hversion]
    have hheaderBytes : uintBE 2 backupPayloadHeaderLength = slice header 10 2 := by
      rw [← hheader]
      exact uintBE_slice (by omega)
    rw [hheaderBytes, uintBE_slice (by omega), uintBE_slice (by omega), hrest]
    exact hsplit
  · rintro ⟨⟨hpos, hle⟩, rfl⟩
    have hmagic : backupPayloadMagic.length = 8 := rfl
    have hcount : entryCount < 256 ^ 4 := Nat.lt_of_le_of_lt hle (by decide)
    refine ⟨⟨payloadHeader_length entryCount, ?_, ?_, ?_⟩, ?_⟩
    · rw [payloadHeader, slice_append_left hmagic]
    · rw [payloadHeader, slice_append_right 0 (by omega),
        slice_append_left (uintBE_length _ _), readUIntBE_uintBE (by decide)]
    · rw [payloadHeader, slice_append_right 2 (by omega),
        slice_append_right 0 (by rw [uintBE_length]), slice_append_left (uintBE_length _ _),
        readUIntBE_uintBE (by decide)]
    · have hread := payloadHeader_count [] hcount
      rw [List.append_nil] at hread
      rw [hread]
      exact ⟨⟨by omega, by omega⟩, rfl⟩

/-! ## The whole payload -/

/-- The payload of a manifest entry and the entries behind it. -/
def payloadLayout (first : StoredEntry) (rest : List StoredEntry) : Buffer :=
  payloadHeader (rest.length + 1) ++ records (first :: rest)

/-- **A PAYLOAD** is accepted exactly when it is the layout of a manifest entry and the
    entries that the manifest lists. -/
theorem readDecryptedBackupPayload_eq_ok {parsed : ParsedBackupPayload} :
    readDecryptedBackupPayload env payload = .ok parsed ↔ ∃ first rest,
      payload = payloadLayout first rest
        ∧ payload.length ≤ maximumBackupCiphertextBytes
        ∧ rest.length + 1 ≤ maximumBackupEntryCount
        ∧ ManifestEntry env parsed.manifest first
        ∧ (∀ e ∈ rest, ContentEntry env.sha256 e)
        ∧ parsed.entries = parsedFrom backupPayloadHeaderLength (first :: rest)
        ∧ assertUniqueBackupEntryPaths env.toLowerCase
            ((first :: rest).map (·.descriptor)) = .ok ()
        ∧ assertDeterministicEntryOrder env parsed.entries.tail = .ok ()
        ∧ parsed.manifest.entries = rest.map (·.descriptor) := by
  have htail : ∀ (first : StoredEntry) rest offset,
      (parsedFrom offset (first :: rest)).tail.map (·.toBackupContainerEntryDescriptor)
        = rest.map (·.descriptor) := by
    intro first rest offset
    rw [parsedFrom, List.tail_cons, parsedFrom_descriptors]
  simp only [readDecryptedBackupPayload, bind_eq_ok, throwIf_eq_ok, exists_const, pure_eq_ok,
    not_or, readExact_eq_ok, decodeBackupPayloadHeader_eq_ok, orThrow_eq_ok,
    Decidable.not_not, assertManifestClosure]
  constructor
  · rintro ⟨⟨_, hmax⟩, header, ⟨hheader, _⟩, entryCount, ⟨⟨hpos, hcount⟩, rfl⟩, state, hloop,
      hoffset, manifest, hmanifest, _, hunique, _, horder, hclosure, rfl⟩
    obtain ⟨rounds, rfl⟩ : ∃ k, entryCount = k + 1 := ⟨entryCount - 1, by omega⟩
    rw [readEntries, bind_eq_ok] at hloop
    obtain ⟨next, hnext, hrounds⟩ := hloop
    have hstart : backupPayloadHeaderLength ≤ payload.length := by
      have hlength := congrArg List.length hheader
      rw [payloadHeader_length, slice, List.length_take, List.length_drop] at hlength
      omega
    obtain ⟨first, manifest', hfirst, hdrop, rfl⟩ := (readEntry_manifest hstart).mp hnext
    have hsize := le_length_of_drop hdrop rfl hstart
    obtain ⟨rest, hrest, rfl, hbehind, rfl⟩ := (readEntries_eq_ok hsize).mp hrounds
    obtain rfl : manifest' = manifest := Option.some.inj hmanifest
    have hentries : [] ++ parsedFrom backupPayloadHeaderLength [first]
        ++ parsedFrom (backupPayloadHeaderLength + first.record.length) rest
        = parsedFrom backupPayloadHeaderLength (first :: rest) := rfl
    have hend : payload.drop (ReadState.offset ⟨_, some manifest', _⟩) = [] :=
      List.drop_eq_nil_of_le (Nat.le_of_eq hoffset.symm)
    rw [hend, List.append_nil] at hbehind
    have hstate : (ReadState.after ⟨[], none, backupPayloadHeaderLength⟩ (some manifest')
        first).entries = [] ++ parsedFrom backupPayloadHeaderLength [first] := rfl
    refine ⟨first, rest, ?_, by omega, hcount, hfirst, hrest, hentries, ?_, horder, ?_⟩
    · rw [payloadLayout, records_cons, ← hbehind, ← hdrop, ← hheader]
      exact (List.take_append_drop _ payload).symm
    · rw [← parsedFrom_descriptors backupPayloadHeaderLength]
      exact hunique
    · rw [← htail first rest backupPayloadHeaderLength]
      exact hclosure
  · rintro ⟨first, rest, hpayload, hmax, hcount, hfirst, hrest, hentries, hunique, horder,
      hclosure⟩
    have hheader := payloadHeader_length (rest.length + 1)
    have hlength : payload.length
        = backupPayloadHeaderLength + first.record.length + (records rest).length := by
      rw [hpayload, payloadLayout, records_cons, List.length_append, List.length_append, hheader,
        Nat.add_assoc]
    have hdrop : payload.drop backupPayloadHeaderLength
        = first.record ++ payload.drop (backupPayloadHeaderLength + first.record.length) := by
      have hrecords : payload.drop backupPayloadHeaderLength = first.record ++ records rest := by
        rw [hpayload, payloadLayout, List.drop_left' hheader, records_cons]
      rw [(slice_of_drop hrecords rfl).2, hrecords]
    have hbehind : payload.drop (backupPayloadHeaderLength + first.record.length)
        = records rest ++ payload.drop payload.length := by
      rw [List.drop_length, List.append_nil, hpayload, payloadLayout, records_cons,
        ← List.append_assoc, List.drop_left' (by rw [List.length_append, hheader])]
    have hpos : 1 ≤ backupPayloadHeaderLength := by decide
    refine ⟨⟨by omega, by omega⟩, payloadHeader (rest.length + 1), ⟨?_, hheader⟩,
      rest.length + 1, ⟨⟨by omega, hcount⟩, rfl⟩,
      ⟨parsed.entries, some parsed.manifest, payload.length⟩, ?_, rfl, parsed.manifest, rfl,
      (), ?_, (), horder, ?_, rfl⟩
    · rw [hpayload, payloadLayout, slice_append_left hheader]
    · rw [readEntries, bind_eq_ok]
      refine ⟨_, (readEntry_manifest ?_).mpr ⟨first, parsed.manifest, hfirst, hdrop,
        rfl⟩, (readEntries_eq_ok ?_).mpr ⟨rest, hrest, rfl, hbehind, ?_⟩⟩
      · show backupPayloadHeaderLength ≤ payload.length
        omega
      · show backupPayloadHeaderLength + first.record.length ≤ payload.length
        omega
      · rw [ReadState.mk.injEq]
        exact ⟨hentries, rfl, hlength⟩
    · rw [hentries, parsedFrom_descriptors]
      exact hunique
    · show parsed.manifest.entries = parsed.entries.tail.map _
      rw [hclosure, hentries, htail]

end ProfileBackup
