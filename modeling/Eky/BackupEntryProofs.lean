import Eky.BackupEntry

/-! # When an entry header is accepted

    `decodeBackupEntryHeader_eq_ok`: a header is accepted exactly when it is the header
    that the descriptor has over these bytes of the path.  The only thing that the
    decoded descriptor does not say is whether the bytes began with a byte order mark. -/

namespace ProfileBackup

open JavaScript (isLowerHexDigit)
open Fallible Buffers

variable {descriptor : BackupContainerEntryDescriptor} {header path : Buffer}

/-! ## Descriptors -/

/-- A descriptor that the format can hold. -/
structure ValidDescriptor (descriptor : BackupContainerEntryDescriptor) : Prop where
  content_nonneg : 0 ≤ descriptor.contentLength
  content_le : descriptor.contentLength ≤ maximumBackupEntryBytes
  sha256 : isSha256 descriptor.sha256
  path_pos : 1 ≤ (utf8 descriptor.logicalPath).length
  path_le : (utf8 descriptor.logicalPath).length ≤ maximumBackupPathBytes
  path_safe : isSafeLogicalPath descriptor.logicalPath

theorem validateBackupEntryDescriptor_eq_ok {u : Unit} :
    validateBackupEntryDescriptor descriptor = .ok u ↔ ValidDescriptor descriptor := by
  simp only [validateBackupEntryDescriptor, throwIf_eq_ok, not_or, Decidable.not_not]
  constructor
  · rintro ⟨hnonneg, hle, hsha, hpos, hpath, hsafe⟩
    exact ⟨by omega, by omega, hsha, by omega, by omega, hsafe⟩
  · intro h
    have hnonneg := h.content_nonneg
    have hle := h.content_le
    have hpos := h.path_pos
    have hpath := h.path_le
    exact ⟨by omega, by omega, h.sha256, by omega, by omega, h.path_safe⟩

theorem isHexChar_of_isLowerHexDigit {c : Char} (h : isLowerHexDigit c) : IsHexChar c := by
  rw [isLowerHexDigit, Bool.or_eq_true, Bool.and_eq_true, Char.isDigit, Bool.and_eq_true] at h
  rw [IsHexChar]
  rcases h with ⟨h₁, h₂⟩ | ⟨h₁, h₂⟩
  · have h₁ : (48 : UInt32) ≤ c.val := of_decide_eq_true h₁
    have h₂ : c.val ≤ (57 : UInt32) := of_decide_eq_true h₂
    exact Or.inl ⟨UInt32.le_iff_toNat_le.mp h₁, UInt32.le_iff_toNat_le.mp h₂⟩
  · have h₁ : (97 : UInt32) ≤ c.val := of_decide_eq_true h₁
    have h₂ : c.val ≤ (102 : UInt32) := of_decide_eq_true h₂
    exact Or.inr ⟨UInt32.le_iff_toNat_le.mp h₁, UInt32.le_iff_toNat_le.mp h₂⟩

/-- The digest of a valid descriptor takes 32 bytes and is read back from them. -/
theorem sha256_bytes {value : String} (h : isSha256 value) :
    (ofHex value.toList).length = 32 ∧ String.ofList (toHex (ofHex value.toList)) = value := by
  rw [isSha256, Bool.and_eq_true] at h
  have hlength : value.toList.length = 2 * 32 := of_decide_eq_true h.1
  have hdigits : ∀ c ∈ value.toList, IsHexChar c :=
    fun c hc => isHexChar_of_isLowerHexDigit (List.all_eq_true.mp h.2 c hc)
  rw [toHex_ofHex hlength hdigits, String.ofList_toList]
  exact ⟨ofHex_length hlength, rfl⟩

theorem readEntryType_eq_ok {n : Nat} {type : BackupContainerEntryType} :
    readEntryType n = .ok type ↔ n = entryTypeIds type := by
  constructor
  · intro h
    unfold readEntryType at h
    split at h
    · cases h; rfl
    · cases h; rfl
    · cases h; rfl
    · cases h; rfl
    · cases h
  · rintro rfl
    cases type with
    | manifest => rfl
    | database => rfl
    | artifactCatalog => rfl
    | businessArtifact => rfl

theorem entryTypeIds_lt (type : BackupContainerEntryType) : entryTypeIds type < 256 ^ 1 := by
  cases type with
  | manifest => decide
  | database => decide
  | artifactCatalog => decide
  | businessArtifact => decide

/-! ## Entry headers -/

theorem entryHeader_length (h : isSha256 descriptor.sha256) :
    (entryHeader descriptor path).length = backupEntryHeaderLength := by
  simp only [entryHeader, List.length_append, uintBE_length, List.length_cons,
    List.length_nil, (sha256_bytes h).1]
  rfl

/-- The fields of an entry header. -/
theorem entryHeader_fields (h : ValidDescriptor descriptor)
    (hpath : path.length < 256 ^ 4) :
    readUIntBE (slice (entryHeader descriptor path) 0 1) = entryTypeIds descriptor.type
      ∧ readUIntBE (slice (entryHeader descriptor path) 1 1) = 0
      ∧ readUIntBE (slice (entryHeader descriptor path) 2 2) = 0
      ∧ readUIntBE (slice (entryHeader descriptor path) 4 4) = path.length
      ∧ (readUIntBE (slice (entryHeader descriptor path) 8 8) : Int)
        = descriptor.contentLength
      ∧ slice (entryHeader descriptor path) 16 32 = ofHex descriptor.sha256.toList := by
  have htype := uintBE_length 1 (entryTypeIds descriptor.type)
  have hpathLength := uintBE_length 4 path.length
  have hcontent := uintBE_length 8 descriptor.contentLength.toNat
  have hnonneg := h.content_nonneg
  have hle := h.content_le
  have hzero : ([0, 0, 0] : Buffer).length = 3 := rfl
  rw [entryHeader]
  refine ⟨?_, ?_, ?_, ?_, ?_, ?_⟩
  · rw [slice_append_left htype, readUIntBE_uintBE (entryTypeIds_lt _)]
  · rw [slice_append_right 0 (by omega)]
    rfl
  · rw [slice_append_right 1 (by omega)]
    rfl
  · rw [slice_append_right 3 (by omega), slice_append_right 0 (by omega),
      slice_append_left hpathLength, readUIntBE_uintBE hpath]
  · rw [slice_append_right 7 (by omega), slice_append_right 4 (by omega),
      slice_append_right 0 (by omega), slice_append_left hcontent, readUIntBE_uintBE]
    · omega
    · rw [maximumBackupEntryBytes] at hle
      omega
  · rw [slice_append_right 15 (by omega), slice_append_right 12 (by omega),
      slice_append_right 8 (by omega), slice_append_right 0 (by omega)]
    have hsha := (sha256_bytes h.sha256).1
    show (ofHex descriptor.sha256.toList).take 32 = _
    exact List.take_of_length_le (by omega)

/-- **AN ENTRY HEADER** is accepted exactly when it is that of the descriptor over these
    bytes of the path. -/
theorem decodeBackupEntryHeader_eq_ok (hpath : path.length < 256 ^ 4) :
    decodeBackupEntryHeader header path = .ok descriptor ↔
      header = entryHeader descriptor path
        ∧ textDecode? path = some descriptor.logicalPath ∧ ValidDescriptor descriptor := by
  simp only [decodeBackupEntryHeader, bind_eq_ok, throwIf_eq_ok, exists_const, pure_eq_ok,
    not_or, Decidable.not_not, orThrow_eq_ok, readEntryType_eq_ok,
    validateBackupEntryDescriptor_eq_ok]
  constructor
  · rintro ⟨⟨hlength, hone, htwo, hpathLength⟩, text, htext, type, htype, hvalid, rfl⟩
    have hlength' : header.length = 48 := hlength
    refine ⟨?_, htext, hvalid⟩
    have hsplit : header = slice header 0 1 ++ (slice header 1 1 ++ (slice header 2 2
        ++ (slice header 4 4 ++ (slice header 8 8 ++ header.drop 16)))) := by
      rw [← drop_eq_slice_append, ← drop_eq_slice_append, ← drop_eq_slice_append,
        ← drop_eq_slice_append, ← drop_eq_slice_append]
      rfl
    have hrest : slice header 16 32 = header.drop 16 :=
      List.take_of_length_le (by rw [List.length_drop]; omega)
    have htypeBytes : uintBE 1 (entryTypeIds type) = slice header 0 1 := by
      rw [← htype]
      exact uintBE_slice (by omega)
    have honeBytes : uintBE 1 0 = slice header 1 1 := by
      rw [← hone]
      exact uintBE_slice (by omega)
    have htwoBytes : uintBE 2 0 = slice header 2 2 := by
      rw [← htwo]
      exact uintBE_slice (by omega)
    have hpathBytes : uintBE 4 path.length = slice header 4 4 := by
      rw [← hpathLength]
      exact uintBE_slice (by omega)
    show header = uintBE 1 (entryTypeIds type) ++ ((uintBE 1 0 ++ uintBE 2 0)
      ++ (uintBE 4 path.length ++ (uintBE 8 (readUIntBE (slice header 8 8))
      ++ ofHex (String.ofList (toHex (slice header 16 32))).toList)))
    rw [htypeBytes, honeBytes, htwoBytes, hpathBytes, uintBE_slice (by omega),
      String.toList_ofList, ofHex_toHex, hrest, List.append_assoc]
    exact hsplit
  · rintro ⟨rfl, htext, hvalid⟩
    obtain ⟨htype, hone, htwo, hpathLength, hcontent, hsha⟩ :=
      entryHeader_fields hvalid hpath
    have hdescriptor : (⟨(readUIntBE (slice (entryHeader descriptor path) 8 8) : Int),
        descriptor.logicalPath,
        String.ofList (toHex (slice (entryHeader descriptor path) 16 32)),
        descriptor.type⟩ : BackupContainerEntryDescriptor) = descriptor := by
      rw [hcontent, hsha, (sha256_bytes hvalid.sha256).2]
    refine ⟨⟨entryHeader_length hvalid.sha256, hone, htwo, hpathLength⟩,
      descriptor.logicalPath, htext, descriptor.type, htype, ?_⟩
    rw [hdescriptor]
    exact ⟨hvalid, rfl⟩

theorem encodeBackupEntryHeader_eq_ok :
    encodeBackupEntryHeader descriptor = .ok (header, path) ↔
      ValidDescriptor descriptor ∧ header = entryHeader descriptor path
        ∧ path = utf8 descriptor.logicalPath := by
  simp only [encodeBackupEntryHeader, bind_eq_ok, pure_eq_ok,
    validateBackupEntryDescriptor_eq_ok, exists_const, Prod.mk.injEq]
  constructor
  · rintro ⟨hvalid, rfl, rfl⟩
    exact ⟨hvalid, rfl, rfl⟩
  · rintro ⟨hvalid, rfl, rfl⟩
    exact ⟨hvalid, rfl, rfl⟩

/-! ## Collisions -/

section Collisions

variable {toLowerCase : String → String}
variable {descriptors : List BackupContainerEntryDescriptor}

/-- The loop accepts exactly valid paths without duplicates. -/
private theorem foldlM_addCaseFoldedPath {folded out : List String} :
    descriptors.foldlM (addCaseFoldedPath toLowerCase) folded = .ok out ↔
      (∀ d ∈ descriptors, ValidDescriptor d)
        ∧ (descriptors.map (fun d => toLowerCase d.logicalPath)).Nodup
        ∧ (∀ d ∈ descriptors, toLowerCase d.logicalPath ∉ folded)
        ∧ out = (descriptors.map (fun d => toLowerCase d.logicalPath)).reverse ++ folded := by
  induction descriptors generalizing folded with
  | nil =>
      rw [List.foldlM_nil, pure_eq_ok]
      constructor
      · rintro rfl
        exact ⟨(fun d hd => nomatch hd), List.nodup_nil, (fun d hd => nomatch hd), rfl⟩
      · rintro ⟨_, _, _, rfl⟩
        rfl
  | cons d rest ih =>
      simp only [List.foldlM_cons, addCaseFoldedPath, bind_eq_ok, throwIf_eq_ok, exists_const,
        pure_eq_ok, validateBackupEntryDescriptor_eq_ok]
      constructor
      · rintro ⟨_, ⟨hvalid, hnew, rfl⟩, hrest⟩
        obtain ⟨hall, hnodup, hfresh, rfl⟩ := ih.mp hrest
        refine ⟨?_, ?_, ?_, ?_⟩
        · intro e he
          rcases List.mem_cons.mp he with rfl | he
          · exact hvalid
          · exact hall e he
        · rw [List.map_cons, List.nodup_cons]
          refine ⟨fun hmem => ?_, hnodup⟩
          obtain ⟨e, he, heq⟩ := List.mem_map.mp hmem
          exact hfresh e he (heq ▸ List.mem_cons_self)
        · intro e he
          rcases List.mem_cons.mp he with rfl | he
          · exact hnew
          · exact fun hmem => hfresh e he (List.mem_cons_of_mem _ hmem)
        · rw [List.map_cons, List.reverse_cons, List.append_assoc]
          rfl
      · rintro ⟨hall, hnodup, hfresh, rfl⟩
        rw [List.map_cons, List.nodup_cons] at hnodup
        refine ⟨_, ⟨hall d List.mem_cons_self, hfresh d List.mem_cons_self, rfl⟩,
          ih.mpr ⟨fun e he => hall e (List.mem_cons_of_mem _ he), hnodup.2, ?_, ?_⟩⟩
        · intro e he hmem
          rcases List.mem_cons.mp hmem with heq | hmem
          · exact hnodup.1 (List.mem_map.mpr ⟨e, he, heq⟩)
          · exact hfresh e (List.mem_cons_of_mem _ he) hmem
        · rw [List.map_cons, List.reverse_cons, List.append_assoc]
          rfl

/-- Valid descriptors whose folded paths differ. -/
theorem assertUniqueBackupEntryPaths_eq_ok {u : Unit} :
    assertUniqueBackupEntryPaths toLowerCase descriptors = .ok u ↔
      (∀ d ∈ descriptors, ValidDescriptor d)
        ∧ (descriptors.map (fun d => toLowerCase d.logicalPath)).Nodup := by
  simp only [assertUniqueBackupEntryPaths, bind_eq_ok, pure_eq_ok, foldlM_addCaseFoldedPath]
  constructor
  · rintro ⟨_, ⟨hall, hnodup, _, _⟩, _⟩
    exact ⟨hall, hnodup⟩
  · rintro ⟨hall, hnodup⟩
    exact ⟨_, ⟨hall, hnodup, (fun _ _ => List.not_mem_nil), rfl⟩, trivial⟩

end Collisions

end ProfileBackup
