import Eky.InvoiceMime

/-! # The header fields of a mailed invoice

    What the encoders of the message builder put into its lines: addresses that are the
    same after normalising them again, encoded words that are read as the chunks they were
    made from, Base64 in lines of 76 characters, and dates.  All of it consists of
    printable characters. -/

namespace InvoiceMime

open AsciiLines Fallible MailFormat
open JavaScript

/-! ## Printable characters -/

/-- A character from the space to the tilde. -/
def IsPrintable (c : Char) : Prop := 32 ≤ c.toNat ∧ c.toNat ≤ 126

/-- All characters may stand in a header. -/
def Printable (text : Text) : Prop := ∀ c ∈ text, IsPrintable c

instance (c : Char) : Decidable (IsPrintable c) := inferInstanceAs (Decidable (_ ∧ _))
instance (text : Text) : Decidable (Printable text) := inferInstanceAs (Decidable (∀ c ∈ text, _))

variable {first text encoded rest : Text} {c : Char}

theorem printable_append (hfirst : Printable first) (hrest : Printable rest) :
    Printable (first ++ rest) := by
  intro c hc
  rcases List.mem_append.mp hc with hc | hc
  · exact hfirst c hc
  · exact hrest c hc

theorem printable_cons (hc : IsPrintable c) (hrest : Printable rest) : Printable (c :: rest) :=
  printable_append (fun _ hd => List.mem_singleton.mp hd ▸ hc) hrest

theorem unbroken_of_printable (h : Printable text) : Unbroken text := by
  intro c hc
  have hle := (h c hc).1
  refine ⟨?_, ?_⟩
  · rintro rfl
    exact absurd hle (by decide)
  · rintro rfl
    exact absurd hle (by decide)

theorem isAscii_of_printable (h : Printable text) : IsAscii text :=
  fun c hc => Nat.lt_of_le_of_lt (h c hc).2 (by decide)

/-- A character that is not only printable but visible. -/
def IsVisible (c : Char) : Prop := 33 ≤ c.toNat ∧ c.toNat ≤ 126

/-- All characters are printed. -/
def Visible (text : Text) : Prop := ∀ c ∈ text, IsVisible c

theorem IsVisible.printable (h : IsVisible c) : IsPrintable c :=
  ⟨Nat.le_of_succ_le h.1, h.2⟩

theorem printable_of_visible (h : Visible text) : Printable text :=
  fun c hc => (h c hc).printable

theorem isBlank_of_visible (h : IsVisible c) : isBlank c = false := by
  rw [isBlank, Bool.or_eq_false_iff]
  refine ⟨beq_eq_false_iff_ne.mpr ?_, beq_eq_false_iff_ne.mpr ?_⟩
  · rintro rfl
    exact absurd h.1 (by decide)
  · rintro rfl
    exact absurd h.1 (by decide)

theorem isWhiteSpace_of_visible (h : IsVisible c) : isWhiteSpace c = false := by
  have hlow := h.1
  have hhigh := h.2
  simp only [isWhiteSpace, List.mem_cons, List.not_mem_nil, or_false, Bool.or_eq_false_iff,
    decide_eq_false_iff_not, Bool.and_eq_false_iff, not_or]
  omega

theorem visible_of_alphanumeric (h : isAlphanumeric c = true) : IsVisible c := by
  simp only [isAlphanumeric, Bool.or_eq_true, Bool.and_eq_true, decide_eq_true_eq] at h
  rw [IsVisible]
  omega

theorem visible_of_base64 (h : Base64.isBase64Char c = true) : IsVisible c := by
  obtain ⟨hlow, hhigh, -⟩ := Base64.toNat_of_isBase64Char h
  exact ⟨by omega, by omega⟩

/-! ## Trimming -/

theorem trim_of_visible (h : Visible text) : trim text = text :=
  trim_eq_self (fun c hc => isWhiteSpace_of_visible (h c (List.mem_of_head? hc)))
    fun c hc => isWhiteSpace_of_visible (h c (List.mem_of_getLast? hc))

/-! ## Addresses -/

/-- An address that normalising leaves as it is. -/
structure NormalAddress (address : Text) : Prop where
  exists_parts : ∃ localPart domain, address = localPart ++ '@' :: domain
    ∧ AddressPartsAccepted localPart domain ∧ toLowerCase domain = domain
  length_le : address.length ≤ maximumAddressCharacters

theorem lowerChar_lowerChar (c : Char) : lowerChar (lowerChar c) = lowerChar c := by
  by_cases hupper : 65 ≤ c.toNat ∧ c.toNat ≤ 90
  · have hlow : (Char.ofNat (c.toNat + 32)).toNat = c.toNat + 32 :=
      ofNat_toNat_of_lt (by omega)
    have himage : lowerChar c = Char.ofNat (c.toNat + 32) := by rw [lowerChar, if_pos hupper]
    rw [himage, lowerChar, if_neg (by omega), if_neg (by omega)]
  · by_cases hkelvin : c.toNat = 8490
    · have himage : lowerChar c = 'k' := by rw [lowerChar, if_neg hupper, if_pos hkelvin]
      rw [himage]
      rfl
    · have himage : lowerChar c = c := by rw [lowerChar, if_neg hupper, if_neg hkelvin]
      rw [himage, himage]

theorem toLowerCase_toLowerCase (value : Text) :
    toLowerCase (toLowerCase value) = toLowerCase value := by
  rw [toLowerCase, toLowerCase, List.map_map]
  exact List.map_congr_left fun c _ => lowerChar_lowerChar c

theorem utf16Length_of_ascii (h : IsAscii text) : utf16Length text = text.length :=
  utf16Length_of_basic fun c hc => Nat.lt_trans (h c hc) (by decide)

/-- A character of a text is a dot or stands in one of its labels. -/
theorem mem_splitDots (h : c ∈ text) : c = '.' ∨ ∃ label ∈ splitDots text, c ∈ label := by
  induction text with
  | nil => exact nomatch h
  | cons d rest ih =>
      rw [splitDots]
      rcases List.mem_cons.mp h with rfl | hrest
      · by_cases hdot : c = '.'
        · exact .inl hdot
        · rw [if_neg hdot]
          cases hlabels : splitDots rest with
          | nil => exact .inr ⟨_, List.mem_cons_self, List.mem_cons_self⟩
          | cons label labels => exact .inr ⟨_, List.mem_cons_self, List.mem_cons_self⟩
      · rcases ih hrest with hdot | ⟨label, hlabel, hmem⟩
        · exact .inl hdot
        · by_cases hdot : d = '.'
          · rw [if_pos hdot]
            exact .inr ⟨label, List.mem_cons_of_mem _ hlabel, hmem⟩
          · rw [if_neg hdot]
            cases hlabels : splitDots rest with
            | nil => rw [hlabels] at hlabel; exact nomatch hlabel
            | cons first labels =>
                rw [hlabels] at hlabel
                rcases List.mem_cons.mp hlabel with rfl | hlabel
                · exact .inr ⟨_, List.mem_cons_self, List.mem_cons_of_mem d hmem⟩
                · exact .inr ⟨label, List.mem_cons_of_mem _ hlabel, hmem⟩

section Parts

variable {localPart domain : Text}

theorem AddressPartsAccepted.mem_localPart (h : AddressPartsAccepted localPart domain)
    (hc : c ∈ localPart) : isLocalPartChar c = true := by
  simp only [AddressPartsAccepted, not_or, not_not] at h
  exact List.all_eq_true.mp h.2.2.2.2.2.1 c hc

theorem AddressPartsAccepted.localPart_ne (h : AddressPartsAccepted localPart domain) :
    localPart ≠ [] := by
  simp only [AddressPartsAccepted, not_or] at h
  exact h.2.2.2.2.1

theorem AddressPartsAccepted.domain_ne (h : AddressPartsAccepted localPart domain) :
    domain ≠ [] := by
  simp only [AddressPartsAccepted, not_or, not_not] at h
  exact List.ne_nil_of_mem h.2.2.2.2.2.2.2.2.1

theorem AddressPartsAccepted.mem_domain (h : AddressPartsAccepted localPart domain)
    (hc : c ∈ domain) : isAlphanumeric c = true ∨ c = '-' ∨ c = '.' := by
  simp only [AddressPartsAccepted, not_or, not_not] at h
  rcases mem_splitDots hc with hdot | ⟨label, hlabel, hmem⟩
  · exact .inr (.inr hdot)
  · have haccepted := List.all_eq_true.mp h.2.2.2.2.2.2.2.2.2 label hlabel
    simp only [isDomainLabel, Bool.and_eq_true, List.all_eq_true, Bool.or_eq_true,
      beq_iff_eq] at haccepted
    rcases haccepted.1.2 c hmem with hc | hc
    · exact .inl hc
    · exact .inr (.inl hc)

/-- The characters on the left of the separator. -/
theorem localPartChar_facts (h : isLocalPartChar c = true) :
    IsVisible c ∧ isForbiddenAddressChar c = false ∧ c ≠ '@' := by
  simp only [isLocalPartChar, isAlphanumeric, Bool.or_eq_true, Bool.and_eq_true,
    decide_eq_true_eq, List.mem_cons, List.not_mem_nil, or_false] at h
  simp only [isForbiddenAddressChar, Bool.or_eq_false_iff, decide_eq_false_iff_not, List.mem_cons,
    List.not_mem_nil, or_false, not_or]
  refine ⟨⟨by omega, by omega⟩, by omega, ?_⟩
  rintro rfl
  exact absurd h (by decide)

/-- The characters on its right. -/
theorem domainChar_facts (h : isAlphanumeric c = true ∨ c = '-' ∨ c = '.') :
    IsVisible c ∧ isForbiddenAddressChar c = false ∧ c ≠ '@' := by
  rcases h with h | rfl | rfl
  · refine localPartChar_facts ?_
    rw [isLocalPartChar, h]
    rfl
  · exact localPartChar_facts rfl
  · exact localPartChar_facts rfl

end Parts

namespace NormalAddress

variable {address : Text}

theorem char_facts (h : NormalAddress address) (hc : c ∈ address) :
    IsVisible c ∧ isForbiddenAddressChar c = false := by
  obtain ⟨⟨localPart, domain, rfl, haccepted, -⟩, -⟩ := h
  rcases List.mem_append.mp hc with hc | hc
  · obtain ⟨hvisible, hallowed, -⟩ := localPartChar_facts (haccepted.mem_localPart hc)
    exact ⟨hvisible, hallowed⟩
  · rcases List.mem_cons.mp hc with rfl | hc
    · exact ⟨⟨by decide, by decide⟩, rfl⟩
    · obtain ⟨hvisible, hallowed, -⟩ := domainChar_facts (haccepted.mem_domain hc)
      exact ⟨hvisible, hallowed⟩

theorem visible (h : NormalAddress address) : Visible address := fun _ hc => (h.char_facts hc).1

theorem not_mem (h : NormalAddress address) (hc : isForbiddenAddressChar c = true) :
    c ∉ address := by
  intro hmem
  rw [(h.char_facts hmem).2] at hc
  exact nomatch hc

theorem ne_nil (h : NormalAddress address) : address ≠ [] := by
  obtain ⟨⟨localPart, domain, rfl, -, -⟩, -⟩ := h
  exact List.append_ne_nil_of_right_ne_nil _ (List.cons_ne_nil _ _)

end NormalAddress

theorem findIdx?_separator (h : c ∉ first) :
    (first ++ c :: rest).findIdx? (· == c) = some first.length := by
  induction first with
  | nil => simp [List.findIdx?_cons]
  | cons d first ih =>
      rw [List.mem_cons, not_or] at h
      have hd : (d == c) = false := beq_eq_false_iff_ne.mpr (Ne.symm h.1)
      rw [List.cons_append, List.findIdx?_cons, hd, ih h.2]
      rfl

theorem lastIndexOf?_separator (h : c ∉ rest) :
    lastIndexOf? (first ++ c :: rest) c = some first.length := by
  have hreverse : (first ++ c :: rest).reverse = rest.reverse ++ c :: first.reverse := by simp
  have hnot : c ∉ rest.reverse := fun hmem => h (List.mem_reverse.mp hmem)
  rw [lastIndexOf?, hreverse, findIdx?_separator hnot]
  simp only [Option.map_some, List.length_append, List.length_cons, List.length_reverse]
  congr 1
  omega

theorem lt_of_lastIndexOf? {index : Nat} (h : lastIndexOf? text c = some index) :
    index < text.length := by
  cases text with
  | nil => exact nomatch h
  | cons d text =>
      obtain ⟨j, -, rfl⟩ := Option.map_eq_some_iff.mp h
      rw [List.length_cons]
      omega

/-- An accepted address is in normal form afterwards. -/
theorem normalAddress_of_normalized {value address : Text}
    (h : normalizeEmailAddress value = .ok address) : NormalAddress address := by
  simp only [normalizeEmailAddress, bind_eq_ok, throwIf_eq_ok, orThrow_eq_ok, not_or, not_not,
    exists_and_left, exists_const] at h
  obtain ⟨⟨-, hlength, -⟩, index, hindex, -, haccepted, he⟩ := h
  have hlt := lt_of_lastIndexOf? hindex
  have hle := length_le_utf16Length (trim value)
  obtain rfl := Except.ok.inj he
  refine ⟨⟨_, _, rfl, haccepted, toLowerCase_toLowerCase _⟩, ?_⟩
  rw [List.length_append, List.length_cons, toLowerCase, List.length_map, List.length_take,
    List.length_drop]
  omega

theorem normalized_of_normalAddress {address : Text} (h : NormalAddress address) :
    normalizeEmailAddress address = .ok address := by
  have hvisible := h.visible
  have hallowed : ¬ address.any isForbiddenAddressChar = true := by
    rw [List.any_eq_true]
    rintro ⟨c, hc, hforbidden⟩
    exact h.not_mem hforbidden hc
  have hlength : ¬ utf16Length address > maximumAddressCharacters := by
    rw [utf16Length_of_ascii (isAscii_of_printable (printable_of_visible hvisible))]
    exact Nat.not_lt.mpr h.length_le
  have hne := h.ne_nil
  simp only [normalizeEmailAddress, bind_eq_ok, throwIf_eq_ok, orThrow_eq_ok, not_or, not_not,
    exists_and_left, exists_const, trim_of_visible hvisible]
  refine ⟨⟨hne, hlength, hallowed⟩, ?_⟩
  obtain ⟨⟨localPart, domain, rfl, haccepted, hlower⟩, -⟩ := h
  have hlocal : '@' ∉ localPart :=
    fun hmem => (localPartChar_facts (haccepted.mem_localPart hmem)).2.2 rfl
  have hdomain : '@' ∉ domain :=
    fun hmem => (domainChar_facts (haccepted.mem_domain hmem)).2.2 rfl
  have hlocalPos := List.length_pos_iff.mpr haccepted.localPart_ne
  have hdomainPos := List.length_pos_iff.mpr haccepted.domain_ne
  have htake : (localPart ++ '@' :: domain).take localPart.length = localPart :=
    List.take_left' rfl
  have hdrop : (localPart ++ '@' :: domain).drop (localPart.length + 1) = domain := by
    rw [List.drop_length_add_append]
    rfl
  refine ⟨localPart.length, lastIndexOf?_separator hdomain, ⟨by omega, ?_, ?_⟩, ?_, ?_⟩
  · exact (findIdx?_separator hlocal).symm
  · rw [List.length_append, List.length_cons]
    omega
  · rw [htake, hdrop, hlower]
    exact haccepted
  · rw [htake, hdrop, hlower]

/-! ## Encoded words -/

/-- The bytes of a text in UTF-8, counted character by character. -/
def utf8Bytes (text : Text) : Nat := (text.map Char.utf8Size).sum

theorem utf8_length (text : Text) :
    (Buffers.utf8 (String.ofList text)).length = utf8Bytes text := by
  have hbytes : Buffers.utf8 (String.ofList text) = text.flatMap String.utf8EncodeChar := by
    rw [Buffers.utf8, String.toByteArray_ofList, List.utf8Encode]
    exact List.toList_data_toByteArray
  rw [hbytes, List.length_flatMap, utf8Bytes]
  simp only [String.length_utf8EncodeChar]

theorem utf8Bytes_append (first rest : Text) :
    utf8Bytes (first ++ rest) = utf8Bytes first + utf8Bytes rest := by
  rw [utf8Bytes, List.map_append, List.sum_append]
  rfl

/-- The state after the characters `taken`. -/
structure Chunked (taken : Text) (state : ChunkState) : Prop where
  text : state.chunks.flatten ++ state.currentChunk = taken
  bytes : state.currentBytes = utf8Bytes state.currentChunk
  le : state.currentBytes ≤ maximumChunkBytes
  chunks : ∀ chunk ∈ state.chunks, chunk ≠ [] ∧ utf8Bytes chunk ≤ maximumChunkBytes

theorem Chunked.addCharacter {taken : Text} {state : ChunkState} (h : Chunked taken state)
    (c : Char) : Chunked (taken ++ [c]) (addCharacter state c) := by
  have hfour := Char.utf8Size_le_four c
  have hsingle : c.utf8Size = utf8Bytes [c] := by
    simp [utf8Bytes]
  rw [InvoiceMime.addCharacter]
  by_cases hfull : state.currentBytes + c.utf8Size > maximumChunkBytes
  · rw [if_pos hfull]
    -- the current chunk is long already, so it is not empty
    have hne : state.currentChunk ≠ [] := by
      intro hnil
      have hbytes := h.bytes
      rw [hnil] at hbytes
      rw [hbytes, maximumChunkBytes] at hfull
      exact absurd hfull (by simp only [utf8Bytes, List.map_nil, List.sum_nil]; omega)
    have hle : c.utf8Size ≤ maximumChunkBytes := Nat.le_trans hfour (by decide)
    refine ⟨?_, hsingle, hle, ?_⟩
    · show (state.chunks ++ [state.currentChunk]).flatten ++ [c] = _
      rw [List.flatten_append, List.flatten_singleton, h.text]
    · intro chunk hchunk
      rcases List.mem_append.mp hchunk with hchunk | hchunk
      · exact h.chunks chunk hchunk
      · obtain rfl := List.mem_singleton.mp hchunk
        exact ⟨hne, h.bytes ▸ h.le⟩
  · rw [if_neg hfull]
    refine ⟨?_, ?_, Nat.not_lt.mp hfull, h.chunks⟩
    · show state.chunks.flatten ++ (state.currentChunk ++ [c]) = _
      rw [← List.append_assoc, h.text]
    · show state.currentBytes + c.utf8Size = utf8Bytes (state.currentChunk ++ [c])
      rw [utf8Bytes_append, h.bytes, hsingle]

theorem chunked_foldl {taken : Text} {state : ChunkState} (h : Chunked taken state)
    (rest : Text) : Chunked (taken ++ rest) (rest.foldl addCharacter state) := by
  induction rest generalizing taken state with
  | nil =>
      rw [List.append_nil]
      exact h
  | cons c rest ih =>
      have hstep := ih (h.addCharacter c)
      rwa [List.append_assoc] at hstep

/-- The chunks are the text in pieces of at most 30 bytes. -/
theorem headerChunks_spec (value : Text) : (headerChunks value).flatten = value
    ∧ ∀ chunk ∈ headerChunks value, chunk ≠ [] ∧ utf8Bytes chunk ≤ maximumChunkBytes := by
  have hstart : Chunked [] ⟨[], [], 0⟩ :=
    ⟨rfl, rfl, Nat.zero_le _, fun _ hchunk => nomatch hchunk⟩
  have hend := chunked_foldl hstart value
  rw [List.nil_append] at hend
  rw [headerChunks]
  generalize value.foldl addCharacter ⟨[], [], 0⟩ = state at hend
  by_cases hnil : state.currentChunk = []
  · have htext := hend.text
    rw [hnil, List.append_nil] at htext
    simp only [hnil, ne_eq, not_true_eq_false, if_false]
    exact ⟨htext, hend.chunks⟩
  · simp only [ne_eq, hnil, not_false_eq_true, if_true]
    refine ⟨?_, fun chunk hchunk => ?_⟩
    · rw [List.flatten_append, List.flatten_singleton, hend.text]
    · rcases List.mem_append.mp hchunk with hchunk | hchunk
      · exact hend.chunks chunk hchunk
      · obtain rfl := List.mem_singleton.mp hchunk
        exact ⟨hnil, hend.bytes ▸ hend.le⟩

/-- A word of a header value. -/
structure HeaderWord (word : Text) : Prop where
  visible : Visible word
  ne_nil : word ≠ []
  length_le : word.length ≤ 254
  plain : '<' ∉ word ∧ ',' ∉ word

theorem not_mem_encode {bytes : Buffer} (h : Base64.isBase64Char c = false) :
    c ∉ Base64.encode bytes := by
  intro hmem
  rw [Base64.isBase64Char_of_mem_encode hmem] at h
  exact nomatch h

theorem encodeChunk_parts (chunk : Text) : encodeChunk chunk
    = "=?UTF-8?B?".toList ++ Base64.encode (Buffers.utf8 (String.ofList chunk)) ++ ['?', '='] :=
  rfl

theorem headerWord_encodeChunk {chunk : Text} (h : utf8Bytes chunk ≤ maximumChunkBytes) :
    HeaderWord (encodeChunk chunk) := by
  have hencoded : ∀ c, c ∈ encodeChunk chunk → c ∈ "=?UTF-8?B?=".toList
      ∨ c ∈ Base64.encode (Buffers.utf8 (String.ofList chunk)) := by
    intro c hc
    rw [encodeChunk_parts] at hc
    simp only [List.mem_append] at hc
    have hfirst : ∀ d ∈ "=?UTF-8?B?".toList, d ∈ "=?UTF-8?B?=".toList := by decide
    have hlast : ∀ d ∈ ['?', '='], d ∈ "=?UTF-8?B?=".toList := by decide
    rcases hc with (hc | hc) | hc
    · exact .inl (hfirst c hc)
    · exact .inr hc
    · exact .inl (hlast c hc)
  have habsent : ∀ {c : Char}, c ∉ "=?UTF-8?B?=".toList → Base64.isBase64Char c = false →
      c ∉ encodeChunk chunk := by
    intro c hfirst hsecond hmem
    rcases hencoded c hmem with hc | hc
    · exact hfirst hc
    · exact not_mem_encode hsecond hc
  have hopen : '<' ∉ encodeChunk chunk := habsent (by decide) (by decide)
  have hcomma : ',' ∉ encodeChunk chunk := habsent (by decide) (by decide)
  have hne : encodeChunk chunk ≠ [] :=
    List.append_ne_nil_of_right_ne_nil _ (List.cons_ne_nil _ _)
  refine ⟨fun c hc => ?_, hne, ?_, hopen, hcomma⟩
  · rcases hencoded c hc with hc | hc
    · have hmark : ∀ d ∈ "=?UTF-8?B?=".toList, 33 ≤ d.toNat ∧ d.toNat ≤ 126 := by decide
      exact hmark c hc
    · exact visible_of_base64 (Base64.isBase64Char_of_mem_encode hc)
  · rw [encodeChunk_parts]
    simp only [List.length_append, Base64.encode_length, utf8_length]
    rw [maximumChunkBytes] at h
    have hfirst : "=?UTF-8?B?".toList.length = 10 := rfl
    have hlast : ['?', '='].length = 2 := rfl
    omega

theorem encodedWord?_encodeChunk (chunk : Text) :
    encodedWord? (encodeChunk chunk) = some chunk := by
  have hmark : '?' ∉ Base64.encode (Buffers.utf8 (String.ofList chunk)) :=
    not_mem_encode (by decide)
  have hread : Base64.decodeText (Base64.encode (Buffers.utf8 (String.ofList chunk)))
      = some (Buffers.utf8 (String.ofList chunk)) :=
    Base64.decodeText_eq (List.filter_eq_self.mpr fun _ hc =>
      Base64.isBase64Char_of_mem_encode hc)
  have hword := encodedWord?_utf8Word hmark hread
  rw [String.toList_ofList] at hword
  exact hword

/-- Words with a line end and a space between each two. -/
def foldWords (words : List Text) : Text := List.intercalate ['\r', '\n', ' '] words

/-- An accepted header value is the words of its chunks. -/
theorem encodeMimeHeaderValue_eq_ok {value : Text} (h : encodeMimeHeaderValue value = .ok encoded) :
    ∃ words, words ≠ []
      ∧ (∀ word ∈ words, HeaderWord word) ∧ encoded = foldWords words
      ∧ decodeHeaderText (joinWords words) = trim value := by
  simp only [encodeMimeHeaderValue, bind_eq_ok, throwIf_eq_ok, not_or, exists_const] at h
  obtain ⟨⟨hne, -⟩, he⟩ := h
  obtain ⟨hflatten, hchunks⟩ := headerChunks_spec (trim value)
  have hwords : ∀ word ∈ (headerChunks (trim value)).map encodeChunk, HeaderWord word := by
    intro word hword
    obtain ⟨chunk, hchunk, rfl⟩ := List.mem_map.mp hword
    exact headerWord_encodeChunk (hchunks chunk hchunk).2
  refine ⟨(headerChunks (trim value)).map encodeChunk, ?_, hwords, (Except.ok.inj he).symm, ?_⟩
  · intro hnil
    rw [List.map_eq_nil_iff.mp hnil] at hflatten
    exact hne hflatten.symm
  · have hread : List.Forall₂ (fun word text => encodedWord? word = some text)
        ((headerChunks (trim value)).map encodeChunk) (headerChunks (trim value)) :=
      List.forall₂_map_left_iff.mpr
        (List.forall₂_same.mpr fun chunk _ => encodedWord?_encodeChunk chunk)
    rw [decodeHeaderText_joinWords ?_ hread, hflatten]
    intro word hword
    have hheader := hwords word hword
    exact ⟨fun c hc => isBlank_of_visible (hheader.visible c hc), hheader.ne_nil⟩

/-! ## Folded fields -/

/-- The lines of `start`, folded words and `ending` one behind the other. -/
def foldedLines (start : Text) : List Text → Text → List Text
  | [], ending => [start ++ ending]
  | [word], ending => [start ++ word ++ ending]
  | word :: next :: rest, ending => (start ++ word) :: foldedLines [' '] (next :: rest) ending

theorem foldedLines_ne_nil (start ending : Text) (words : List Text) :
    foldedLines start words ending ≠ [] := by
  match words with
  | [] => exact List.cons_ne_nil _ _
  | [_] => exact List.cons_ne_nil _ _
  | _ :: _ :: _ => exact List.cons_ne_nil _ _

theorem joinLines_foldedLines (start ending : Text) (words : List Text) :
    joinLines (foldedLines start words ending) = start ++ foldWords words ++ ending := by
  induction words generalizing start with
  | nil => simp [foldedLines, foldWords, joinLines]
  | cons word words ih =>
      cases words with
      | nil => simp [foldedLines, foldWords, joinLines]
      | cons next rest =>
          rw [foldedLines, joinLines_cons (foldedLines_ne_nil _ _ _), ih]
          simp [foldWords, List.intercalate_cons_cons]

theorem flatten_foldedLines (start ending : Text) (words : List Text) :
    (foldedLines start words ending).flatten = start ++ joinWords words ++ ending := by
  induction words generalizing start with
  | nil => simp [foldedLines, joinWords]
  | cons word words ih =>
      cases words with
      | nil => simp [foldedLines, joinWords]
      | cons next rest =>
          rw [foldedLines, List.flatten_cons, ih]
          simp [joinWords]

theorem mem_foldedLines {start ending line : Text} {words : List Text}
    (hprintable : Printable start ∧ Printable ending) (hwords : ∀ word ∈ words, HeaderWord word)
    (hline : line ∈ foldedLines start words ending) (hstart : 1 ≤ start.length) :
    Printable line ∧ line.length ≤ start.length + 254 + ending.length := by
  induction words generalizing start with
  | nil =>
      obtain rfl := List.mem_singleton.mp hline
      rw [List.length_append]
      exact ⟨printable_append hprintable.1 hprintable.2, by omega⟩
  | cons word words ih =>
      have hword := hwords word List.mem_cons_self
      have hlength := hword.length_le
      have hvisible := printable_of_visible hword.visible
      cases words with
      | nil =>
          obtain rfl := List.mem_singleton.mp hline
          rw [List.length_append, List.length_append]
          exact ⟨printable_append (printable_append hprintable.1 hvisible) hprintable.2, by omega⟩
      | cons next rest =>
          rw [foldedLines] at hline
          rcases List.mem_cons.mp hline with rfl | hline
          · rw [List.length_append]
            exact ⟨printable_append hprintable.1 hvisible, by omega⟩
          · have hspace : Printable [' '] := by decide
            obtain ⟨hline, hle⟩ := ih ⟨hspace, hprintable.2⟩
              (fun other hother => hwords other (List.mem_cons_of_mem word hother)) hline
              (Nat.le_refl 1)
            rw [List.length_singleton] at hle
            exact ⟨hline, by omega⟩

/-- Behind the first line every line begins with the space of the fold. -/
theorem foldedLines_eq_cons (start ending : Text) (words : List Text) (hne : start ≠ []) :
    ∃ first more, foldedLines start words ending = first :: more ∧ start <+: first
      ∧ ∀ line ∈ more, startsBlank line = true := by
  induction words generalizing start with
  | nil =>
      exact ⟨_, [], rfl, List.prefix_append _ _, fun _ hline => nomatch hline⟩
  | cons word words ih =>
      cases words with
      | nil =>
          refine ⟨_, [], rfl, ?_, fun _ hline => nomatch hline⟩
          rw [List.append_assoc]
          exact List.prefix_append _ _
      | cons next rest =>
          refine ⟨start ++ word, _, rfl, List.prefix_append _ _, fun line hline => ?_⟩
          obtain ⟨first, more, hlines, ⟨tail, rfl⟩, hmore⟩ := ih [' '] (List.cons_ne_nil _ _)
          rw [hlines] at hline
          rcases List.mem_cons.mp hline with rfl | hline
          · rfl
          · exact hmore line hline

/-- A folded field is read as its name and the words with single spaces. -/
theorem foldsTo_foldedLines {name ending : Text} {words : List Text}
    (hname : name ≠ []) (hchars : ∀ c ∈ name, isNameChar c = true)
    (hstart : startsBlank name = false)
    (hbody : startsBlank (joinWords words ++ ending) = false) :
    Field.FoldsTo ⟨name, joinWords words ++ ending⟩
      (foldedLines (name ++ [':', ' ']) words ending) := by
  have hne : name ++ [':', ' '] ≠ [] := List.append_ne_nil_of_left_ne_nil hname _
  obtain ⟨first, more, hlines, ⟨rest, rfl⟩, hmore⟩ := foldedLines_eq_cons _ ending words hne
  refine ⟨⟨hname, hchars, hbody⟩, ⟨⟨_, more, hlines, ?_, hmore⟩, ?_⟩, ?_⟩
  · rw [List.append_assoc, startsBlank_append hname, hstart]
  · intro line hline
    rw [hlines] at hline
    rcases List.mem_cons.mp hline with rfl | hline
    · exact List.append_ne_nil_of_left_ne_nil hne _
    · exact ne_nil_of_startsBlank (hmore line hline)
  · rw [flatten_foldedLines, Field.text]
    simp

/-! ## Base64 in lines -/

theorem flatten_slices (encoded : Text) (count : Nat) :
    ((List.range count).map fun index => (encoded.drop (76 * index)).take 76).flatten
      = encoded.take (76 * count) := by
  induction count with
  | zero => rfl
  | succ count ih =>
      rw [List.range_succ, List.map_append, List.flatten_append, ih, List.map_singleton,
        List.flatten_singleton, Nat.mul_succ, List.take_add]

theorem flatten_base64Lines (encoded : Text) : (base64Lines encoded).flatten = encoded := by
  rw [base64Lines, flatten_slices]
  exact List.take_of_length_le (by omega)

theorem base64Lines_ne_nil (h : encoded ≠ []) : base64Lines encoded ≠ [] := by
  intro hnil
  have hflatten := flatten_base64Lines encoded
  rw [hnil] at hflatten
  exact h hflatten.symm

theorem mem_base64Lines {line : Text} (h : line ∈ base64Lines encoded) :
    line.length ≤ 76 ∧ ∀ c ∈ line, c ∈ encoded := by
  obtain ⟨index, -, rfl⟩ := List.mem_map.mp h
  exact ⟨List.length_take_le _ _, fun c hc => List.mem_of_mem_drop (List.mem_of_mem_take hc)⟩

theorem filter_joinLines (lines : List Text) :
    (joinLines lines).filter Base64.isBase64Char = lines.flatten.filter Base64.isBase64Char := by
  induction lines with
  | nil => rfl
  | cons line lines ih =>
      by_cases hnil : lines = []
      · rw [hnil, List.flatten_singleton]
        rfl
      · rw [joinLines_cons hnil, List.filter_append, List.flatten_cons, List.filter_append, ← ih]
        rfl

/-- The lines are read as the bytes. -/
theorem decodeText_base64Lines (bytes : Buffer) :
    Base64.decodeText (joinLines (base64Lines (Base64.encode bytes))) = some bytes := by
  refine Base64.decodeText_eq ?_
  rw [filter_joinLines, flatten_base64Lines]
  exact List.filter_eq_self.mpr fun _ hc => Base64.isBase64Char_of_mem_encode hc

end InvoiceMime
