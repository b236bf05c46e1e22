import Eky.Buffers
import Eky.Fallible
import Eky.BuildIdentity
import Eky.JavaScript

/-! # Where the file of a document lies

    `invoiceDocumentFilePolicy.ts`: the path of a document below the company's files is made
    of the three keys that name it, each in a form that no file system reads anything into.

    - `encodePathSegment_injective`: keys that are encoded alike are the same key;
    - `isPortable_encodePathSegment`: an encoded key has only characters that every file
      system takes as they are;
    - `createInvoiceDocumentStoragePath_injective`: no two documents share a file. -/

namespace DocumentStoragePath

open Buffers
open JavaScript (trim utf16Length)

/-! ## Encoding -/

/-- The uppercase digit of `encodeURIComponent` and `toUpperCase`. -/
def upperHexDigit (n : Nat) : Char := if n < 10 then Char.ofNat (48 + n) else Char.ofNat (55 + n)

/-- A byte as `%` and two digits. -/
def percentEncoded (byte : Nat) : List Char :=
  ['%', upperHexDigit (byte / 16), upperHexDigit (byte % 16)]

/-- The characters that `encodeURIComponent` leaves as they are. -/
def isUnreserved (c : Char) : Bool := c.isAlphanum || "-_.!~*'()".toList.contains c

/-- `encodeURIComponent`: a byte of the UTF-8 form at a time. -/
def encodeURIComponent (text : String) : List Char :=
  (utf8 text).flatMap fun byte =>
    if isUnreserved (Char.ofNat byte.toNat) then [Char.ofNat byte.toNat]
    else percentEncoded byte.toNat

/-- `/[.!'()*]/gu` -/
def isReplaced (c : Char) : Bool := ".!'()*".toList.contains c

/-- Encodes the characters that `encodeURIComponent` leaves. -/
def replaceRemaining (text : List Char) : List Char :=
  text.flatMap fun c => if isReplaced c then percentEncoded c.toNat else [c]

/-- Code units of an identifier. -/
def maximumIdentifierLength : Nat := 200

/-- A control character. -/
def isControl (c : Char) : Bool := c.toNat ≤ 0x1F || c.toNat = 0x7F

/-- A key that cannot be a part of a path has none (`InvoiceDocumentIntegrityError`). -/
def encodePathSegment (value : String) : Option (List Char) :=
  if trim value.toList = [] ∨ value.toList.any isControl
      ∨ utf16Length (trim value.toList) > maximumIdentifierLength then none
  else some ("id-".toList ++ replaceRemaining (encodeURIComponent value))

/-- The path of a document, if every part can be encoded. -/
def createInvoiceDocumentStoragePath (companyId invoiceId documentId : String) :
    Option String := do
  let segments ← [companyId, invoiceId, documentId].mapM encodePathSegment
  some (String.ofList (['/'].intercalate (segments ++ ["approved-invoice.pdf".toList])))

/-! ## A code for every byte -/

/-- What becomes of one byte of the UTF-8 form. -/
def segmentCode (byte : Nat) : List Char :=
  replaceRemaining (if isUnreserved (Char.ofNat byte) then [Char.ofNat byte]
    else percentEncoded byte)

theorem replaceRemaining_encodeURIComponent (text : String) :
    replaceRemaining (encodeURIComponent text)
      = ((utf8 text).map UInt8.toNat).flatMap segmentCode := by
  simp only [replaceRemaining, encodeURIComponent, List.flatMap_assoc, List.flatMap_map,
    segmentCode]

/-- A character that stands for itself in every path. -/
def isPortable (c : Char) : Bool := c.isAlphanum || "-_~".toList.contains c

/-- A byte stands for itself, or is written with a percent sign and two digits. -/
theorem segmentCode_cases : ∀ byte < 256,
    (segmentCode byte = [Char.ofNat byte] ∧ isPortable (Char.ofNat byte) = true)
      ∨ segmentCode byte = percentEncoded byte := by
  decide +kernel

theorem isPortable_upperHexDigit : ∀ n < 16, isPortable (upperHexDigit n) = true := by decide

theorem upperHexDigit_injective : ∀ n < 16, ∀ m < 16, upperHexDigit n = upperHexDigit m →
    n = m := by
  decide

variable {value : String} {byte : Nat} {segment : List Char}

theorem toNat_ofNat_of_lt (h : byte < 256) : (Char.ofNat byte).toNat = byte := by
  rw [Char.ofNat, dif_pos (Or.inl (by omega))]
  rfl

theorem segmentCode_ne_nil (h : byte < 256) : segmentCode byte ≠ [] := by
  rcases segmentCode_cases byte h with ⟨hcode, -⟩ | hcode <;> rw [hcode] <;>
    exact List.cons_ne_nil _ _

/-- No code begins another one. -/
theorem segmentCode_prefixFree {other : Nat} (hbyte : byte < 256) (hother : other < 256)
    {rest tail : List Char} (h : segmentCode byte ++ rest = segmentCode other ++ tail) :
    byte = other ∧ rest = tail := by
  rcases segmentCode_cases byte hbyte with ⟨hcode, hportable⟩ | hcode <;>
    rcases segmentCode_cases other hother with ⟨hcode', hportable'⟩ | hcode' <;>
    rw [hcode, hcode'] at h
  · injection h with hchar hrest
    refine ⟨?_, hrest⟩
    rw [← toNat_ofNat_of_lt hbyte, hchar, toNat_ofNat_of_lt hother]
  · injection h with hchar
    rw [hchar] at hportable
    exact absurd hportable (by decide)
  · injection h with hchar
    rw [← hchar] at hportable'
    exact absurd hportable' (by decide)
  · injection h with _ h
    injection h with hhigh h
    injection h with hlow hrest
    have hhigh' := upperHexDigit_injective _ (by omega) _ (by omega) hhigh
    have hlow' := upperHexDigit_injective _ (by omega) _ (by omega) hlow
    exact ⟨by omega, hrest⟩

/-- A text that is written in a code that is prefix-free can be read back. -/
theorem flatMap_segmentCode_injective {bytes others : List Nat} (hbytes : ∀ b ∈ bytes, b < 256)
    (hothers : ∀ b ∈ others, b < 256)
    (h : bytes.flatMap segmentCode = others.flatMap segmentCode) : bytes = others := by
  induction bytes generalizing others with
  | nil =>
      cases others with
      | nil => rfl
      | cons other rest =>
          have hcode := congrArg List.length h
          rw [List.flatMap_cons, List.length_append] at hcode
          have hpos := List.length_pos_of_ne_nil
            (segmentCode_ne_nil (hothers other List.mem_cons_self))
          rw [List.flatMap_nil, List.length_nil] at hcode
          omega
  | cons byte rest ih =>
      rw [List.forall_mem_cons] at hbytes
      cases others with
      | nil =>
          have hcode := congrArg List.length h
          rw [List.flatMap_cons, List.length_append] at hcode
          have hpos := List.length_pos_of_ne_nil (segmentCode_ne_nil hbytes.1)
          rw [List.flatMap_nil, List.length_nil] at hcode
          omega
      | cons other tail =>
          rw [List.forall_mem_cons] at hothers
          rw [List.flatMap_cons, List.flatMap_cons] at h
          obtain ⟨rfl, hrest⟩ := segmentCode_prefixFree hbytes.1 hothers.1 h
          rw [ih hbytes.2 hothers.2 hrest]

/-! ## Segments -/

theorem encodePathSegment_eq_some (h : encodePathSegment value = some segment) :
    segment = "id-".toList ++ ((utf8 value).map UInt8.toNat).flatMap segmentCode := by
  rw [encodePathSegment, Option.ite_none_left_eq_some] at h
  rw [← replaceRemaining_encodeURIComponent]
  exact (Option.some.inj h.2).symm

theorem toNat_lt_of_mem (h : byte ∈ (utf8 value).map UInt8.toNat) : byte < 256 := by
  obtain ⟨b, -, rfl⟩ := List.mem_map.mp h
  exact b.toNat_lt

/-- Keys that are encoded alike are the same key. -/
theorem encodePathSegment_injective {other : String} (h : encodePathSegment value = some segment)
    (h' : encodePathSegment other = some segment) : value = other := by
  have hsame := (encodePathSegment_eq_some h).symm.trans (encodePathSegment_eq_some h')
  have hbytes := flatMap_segmentCode_injective (fun _ => toNat_lt_of_mem)
    (fun _ => toNat_lt_of_mem) (List.append_cancel_left hsame)
  exact utf8_inj.mp (List.map_injective_iff.mpr (fun _ _ => UInt8.toNat_inj.mp) hbytes)

/-- An encoded key is made of characters that every file system takes as they are. -/
theorem isPortable_encodePathSegment (h : encodePathSegment value = some segment) :
    ∀ c ∈ segment, c = '%' ∨ isPortable c = true := by
  intro c hc
  rw [encodePathSegment_eq_some h, List.mem_append, List.mem_flatMap] at hc
  rcases hc with hc | ⟨byte, hbyte, hc⟩
  · have hportable : ∀ c ∈ "id-".toList, isPortable c = true := by decide
    exact .inr (hportable c hc)
  · have hlt := toNat_lt_of_mem hbyte
    rcases segmentCode_cases byte hlt with ⟨hcode, hportable⟩ | hcode
    · rw [hcode, List.mem_singleton] at hc
      rw [hc]
      exact .inr hportable
    · rw [hcode, percentEncoded] at hc
      simp only [List.mem_cons, List.not_mem_nil, or_false] at hc
      rcases hc with rfl | rfl | rfl
      · exact .inl rfl
      · exact .inr (isPortable_upperHexDigit _ (by omega))
      · exact .inr (isPortable_upperHexDigit _ (by omega))

/-! ## Paths -/

theorem splitAt_of_not_mem {separator : Char} {text : List Char} (h : separator ∉ text) :
    splitAt separator text = [text] := by
  induction text with
  | nil => rfl
  | cons c rest ih =>
      rw [List.mem_cons, not_or] at h
      rw [splitAt, if_neg fun hc => h.1 hc.symm, ih h.2]

theorem splitAt_intercalate {separator : Char} {parts : List (List Char)} (hne : parts ≠ [])
    (h : ∀ part ∈ parts, separator ∉ part) :
    splitAt separator ([separator].intercalate parts) = parts := by
  induction parts with
  | nil => exact absurd rfl hne
  | cons part rest ih =>
      rw [List.forall_mem_cons] at h
      cases rest with
      | nil =>
          rw [List.intercalate_singleton]
          exact splitAt_of_not_mem h.1
      | cons next others =>
          rw [List.intercalate_cons_cons, List.append_assoc, List.singleton_append,
            splitAt_append, splitAt_of_not_mem h.1, ih (List.cons_ne_nil _ _) h.2]
          rfl

theorem slash_not_mem_encodePathSegment (h : encodePathSegment value = some segment) :
    '/' ∉ segment := by
  intro hmem
  rcases isPortable_encodePathSegment h '/' hmem with hpercent | hportable
  · exact absurd hpercent (by decide)
  · exact absurd hportable (by decide)

/-- The segments of a path, read back from it. -/
theorem createInvoiceDocumentStoragePath_eq_some {companyId invoiceId documentId path : String}
    (h : createInvoiceDocumentStoragePath companyId invoiceId documentId = some path) :
    ∃ company invoice document, encodePathSegment companyId = some company
      ∧ encodePathSegment invoiceId = some invoice
      ∧ encodePathSegment documentId = some document
      ∧ splitAt '/' path.toList
        = [company, invoice, document, "approved-invoice.pdf".toList] := by
  simp only [createInvoiceDocumentStoragePath, List.mapM_cons, List.mapM_nil,
    Option.bind_eq_bind, Option.bind_eq_some_iff, Option.pure_def, Option.some.injEq] at h
  obtain ⟨_, ⟨company, hcompany, _, ⟨invoice, hinvoice, _, ⟨document, hdocument, _, rfl, rfl⟩,
    rfl⟩, rfl⟩, rfl⟩ := h
  refine ⟨company, invoice, document, hcompany, hinvoice, hdocument, ?_⟩
  rw [String.toList_ofList]
  refine splitAt_intercalate (List.cons_ne_nil _ _) fun part hpart => ?_
  simp only [List.cons_append, List.nil_append, List.mem_cons, List.not_mem_nil, or_false] at hpart
  rcases hpart with rfl | rfl | rfl | rfl
  · exact slash_not_mem_encodePathSegment hcompany
  · exact slash_not_mem_encodePathSegment hinvoice
  · exact slash_not_mem_encodePathSegment hdocument
  · decide

/-- **NO SHARED FILE**: documents with one path are the same document. -/
theorem createInvoiceDocumentStoragePath_injective
    {companyId invoiceId documentId otherCompany otherInvoice otherDocument path : String}
    (h : createInvoiceDocumentStoragePath companyId invoiceId documentId = some path)
    (h' : createInvoiceDocumentStoragePath otherCompany otherInvoice otherDocument = some path) :
    companyId = otherCompany ∧ invoiceId = otherInvoice ∧ documentId = otherDocument := by
  obtain ⟨company, invoice, document, hcompany, hinvoice, hdocument, hsplit⟩ :=
    createInvoiceDocumentStoragePath_eq_some h
  obtain ⟨company', invoice', document', hcompany', hinvoice', hdocument', hsplit'⟩ :=
    createInvoiceDocumentStoragePath_eq_some h'
  have hsame := hsplit.symm.trans hsplit'
  simp only [List.cons.injEq, and_true] at hsame
  obtain ⟨rfl, rfl, rfl⟩ := hsame
  exact ⟨encodePathSegment_injective hcompany hcompany',
    encodePathSegment_injective hinvoice hinvoice',
    encodePathSegment_injective hdocument hdocument'⟩

theorem createInvoiceDocumentStoragePath_injective_sample :
    createInvoiceDocumentStoragePath "c" "i/1" "d.1"
        = some "id-c/id-i%2F1/id-d%2E1/approved-invoice.pdf"
      ∧ "c" = "c" ∧ "i/1" = "i/1" ∧ "d.1" = "d.1" :=
  have hpath : createInvoiceDocumentStoragePath "c" "i/1" "d.1"
      = some "id-c/id-i%2F1/id-d%2E1/approved-invoice.pdf" := by decide
  ⟨hpath, createInvoiceDocumentStoragePath_injective hpath hpath⟩

end DocumentStoragePath
