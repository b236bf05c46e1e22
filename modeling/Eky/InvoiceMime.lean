import Eky.CreditInvoice
import Eky.MailFormat
import Eky.SmtpData

/-! # The mail message of an invoice

    `buildInvoiceMimeMessage` puts the text of the mail and the PDF of the invoice into one
    message.  Subject and sender name become encoded words, the two contents Base64, and a
    boundary of random digits separates them.

    Texts have no lone surrogates here, so a text is the list of its characters. -/

namespace InvoiceMime

open AsciiLines Fallible
open JavaScript (trim utf16Length)

/-- The errors of the message builder and of what it calls. -/
inductive MimeError
  | invoiceMimeMessageValidation
  | mimeHeaderValidation
  | emailAddressValidation
  | unableToCreateBoundary
  deriving DecidableEq

/-- The text of an error. -/
def MimeError.message : MimeError → String
  | .invoiceMimeMessageValidation => "Invoice email content is invalid."
  | .mimeHeaderValidation => "MIME header value is invalid."
  | .emailAddressValidation => "Email address is invalid."
  | .unableToCreateBoundary => "Unable to create MIME boundary."

/-! ## Texts -/

/-- A character outside ASCII has an image in ASCII only if it is the Kelvin sign.  The others
    are left as they are: an address that holds one is refused either way. -/
def lowerChar (c : Char) : Char :=
  if 65 ≤ c.toNat ∧ c.toNat ≤ 90 then Char.ofNat (c.toNat + 32)
  else if c.toNat = 8490 then 'k' else c

/-- The text with small letters. -/
def toLowerCase (value : Text) : Text := value.map lowerChar

/-- `[A-Za-z0-9]` -/
def isAlphanumeric (c : Char) : Bool :=
  (65 ≤ c.toNat && c.toNat ≤ 90) || (97 ≤ c.toNat && c.toNat ≤ 122)
    || (48 ≤ c.toNat && c.toNat ≤ 57)

/-! ## Addresses -/

/-- Code units of an address. -/
def maximumAddressCharacters : Nat := 254

/-- Code units of the body. -/
def maximumBodyCharacters : Nat := 10000

/-- Bytes of the PDF. -/
def maximumPdfBytes : Nat := 10 * 1024 * 1024

/-- Code units of the subject. -/
def maximumSubjectCharacters : Nat := 200

/-- Letters, digits, the dot and `! # $ % & ' * + - / = ? ^ _ {backquote} { | } ~`. -/
def isLocalPartChar (c : Char) : Bool :=
  isAlphanumeric c
    || c.toNat ∈ [33, 35, 36, 37, 38, 39, 42, 43, 45, 46, 47, 61, 63, 94, 95, 96, 123, 124, 125, 126]

/-- `^[A-Za-z0-9](?:[A-Za-z0-9-]{0,61}[A-Za-z0-9])?$` -/
def isDomainLabel (label : Text) : Bool :=
  (label.head?.map isAlphanumeric).getD false && (label.getLast?.map isAlphanumeric).getD false
    && label.all (fun c => isAlphanumeric c || c == '-') && label.length ≤ 63

/-- Control characters, the space, and `< > ( ) , : ; " \ [ ]`. -/
def isForbiddenAddressChar (c : Char) : Bool :=
  c.toNat ≤ 32 || c.toNat ∈ [127, 60, 62, 40, 41, 44, 58, 59, 34, 92, 91, 93]

/-- The first place of a character. -/
def indexOf? (value : Text) (c : Char) : Option Nat := value.findIdx? (· == c)

/-- The last place of a character. -/
def lastIndexOf? (value : Text) (c : Char) : Option Nat :=
  (value.reverse.findIdx? (· == c)).map (value.length - 1 - ·)

/-- `value.split('.')` -/
def splitDots : Text → List Text
  | [] => [[]]
  | c :: rest =>
      if c = '.' then [] :: splitDots rest
      else extendFirst c (splitDots rest)

/-- A part on the left of the separator and a domain on its right that are not refused. -/
def AddressPartsAccepted (localPart domain : Text) : Prop :=
  ¬ (localPart.length > 64 ∨ ['.'] <+: localPart ∨ ['.'] <:+ localPart
    ∨ ['.', '.'] <:+: localPart ∨ localPart = [] ∨ ¬ localPart.all isLocalPartChar
    ∨ domain.length > 253 ∨ ['.', '.'] <:+: domain ∨ '.' ∉ domain
    ∨ ¬ (splitDots domain).all isDomainLabel)

instance (localPart domain : Text) : Decidable (AddressPartsAccepted localPart domain) :=
  inferInstanceAs (Decidable (¬ _))

/-- The address without blanks, if it is one. -/
def normalizeEmailAddress (value : Text) : Except MimeError Text := do
  let normalizedValue := trim value
  throwIf (normalizedValue = [] ∨ utf16Length normalizedValue > maximumAddressCharacters
    ∨ normalizedValue.any isForbiddenAddressChar) .emailAddressValidation
  let separatorIndex ← orThrow (lastIndexOf? normalizedValue '@') .emailAddressValidation
  throwIf (separatorIndex = 0 ∨ some separatorIndex ≠ indexOf? normalizedValue '@'
    ∨ separatorIndex = normalizedValue.length - 1) .emailAddressValidation
  let localPart := normalizedValue.take separatorIndex
  let domain := toLowerCase (normalizedValue.drop (separatorIndex + 1))
  throwIf (¬ AddressPartsAccepted localPart domain) .emailAddressValidation
  .ok (localPart ++ '@' :: domain)

/-! ## Header values -/

/-- Bytes of an encoded word's text. -/
def maximumChunkBytes : Nat := 30

/-- `[\u0000-\u001f\u007f]` -/
def isForbiddenHeaderChar (c : Char) : Bool := c.toNat ≤ 31 || c.toNat == 127

/-- Chunks while they are cut. -/
structure ChunkState where
  chunks : List Text
  currentChunk : Text
  currentBytes : Nat
  deriving DecidableEq

/-- A character is put into the next chunk when the current one would get too long. -/
def addCharacter (state : ChunkState) (character : Char) : ChunkState :=
  if state.currentBytes + character.utf8Size > maximumChunkBytes then
    ⟨state.chunks ++ [state.currentChunk], [character], character.utf8Size⟩
  else
    ⟨state.chunks, state.currentChunk ++ [character], state.currentBytes + character.utf8Size⟩

/-- The text in chunks that end between characters. -/
def headerChunks (value : Text) : List Text :=
  let state := value.foldl addCharacter ⟨[], [], 0⟩
  if state.currentChunk ≠ [] then state.chunks ++ [state.currentChunk] else state.chunks

/-- An encoded word. -/
def encodeChunk (chunk : Text) : Text :=
  "=?UTF-8?B?".toList ++ Base64.encode (Buffers.utf8 (String.ofList chunk)) ++ ['?', '=']

/-- A header value, encoded where it is not ASCII. -/
def encodeMimeHeaderValue (value : Text) : Except MimeError Text := do
  let normalizedValue := trim value
  throwIf (normalizedValue = [] ∨ normalizedValue.any isForbiddenHeaderChar)
    .mimeHeaderValidation
  .ok (List.intercalate ['\r', '\n', ' '] ((headerChunks normalizedValue).map encodeChunk))

/-- Name and address. -/
def formatMimeAddress (address displayName : Text) : Except MimeError Text := do
  let normalizedAddress ← normalizeEmailAddress address
  let normalizedDisplayName := trim displayName
  if normalizedDisplayName = [] then .ok normalizedAddress
  else
    (encodeMimeHeaderValue normalizedDisplayName).map fun encoded =>
      encoded ++ ' ' :: '<' :: normalizedAddress ++ ['>']

/-! ## Base64 and the boundary -/

/-- The slices of 76 characters from the indices 0, 76, 152 and so on. -/
def base64Lines (encoded : Text) : List Text :=
  (List.range ((encoded.length + 75) / 76)).map fun index =>
    (encoded.drop (76 * index)).take 76

/-- Base64 in lines. -/
def encodeMimeBase64 (content : Buffer) : Text := joinLines (base64Lines (Base64.encode content))

/-- The result of `randomBytes(24)`. -/
abbrev Random24 := { bytes : Buffer // bytes.length = 24 }

/-- The boundary of random bytes. -/
def mimeBoundary (bytes : Random24) : Text := "=_eky_".toList ++ Buffers.toHex bytes.val

/-- A boundary that occurs in no part. -/
def createMimeBoundary (content : List Text) (randomBytes : Nat → Random24) :
    Except MimeError Text :=
  orThrow
    ((List.range 10).findSome? fun attempt =>
      let boundary := mimeBoundary (randomBytes attempt)
      if ∀ value ∈ content, ¬ boundary <:+: value then some boundary else none)
    .unableToCreateBoundary

/-! ## Dates -/

/-- A time value in milliseconds, or an invalid date. -/
structure Date where
  timeValue : Option Int
  inRange : ∀ t ∈ timeValue, -8640000000000000 ≤ t ∧ t ≤ 8640000000000000

/-- The days of a mail's date. -/
def dayNames : List String := ["Sun", "Mon", "Tue", "Wed", "Thu", "Fri", "Sat"]

/-- The months of a mail's date. -/
def monthNames : List String :=
  ["Jan", "Feb", "Mar", "Apr", "May", "Jun", "Jul", "Aug", "Sep", "Oct", "Nov", "Dec"]

/-- The last digit. -/
def decimalDigit (n : Nat) : Char := Char.ofNat (48 + n % 10)

/-- The last two digits. -/
def twoDigits (n : Nat) : Text := [decimalDigit (n / 10), decimalDigit n]

/-- The year with at least four digits. -/
def yearText (year : Int) : Text :=
  let digits := Nat.toDigits 10 year.natAbs
  (if year < 0 then ['-'] else []) ++ List.replicate (4 - digits.length) '0' ++ digits

/-- Year, month and day of month of a day counted from 1 January 1970.  The years begin with
    March here, so that the day of a leap year is the last one of its year. -/
def civilFromDays (days : Int) : Int × Nat × Nat :=
  let shifted := days + 719468
  let era := shifted / 146097
  let dayOfEra := shifted % 146097
  let yearOfEra := (dayOfEra - dayOfEra / 1460 + dayOfEra / 36524 - dayOfEra / 146096) / 365
  let dayOfYear := dayOfEra - (365 * yearOfEra + yearOfEra / 4 - yearOfEra / 100)
  let marchMonth := (5 * dayOfYear + 2) / 153
  let day := dayOfYear - (153 * marchMonth + 2) / 5 + 1
  let month := if marchMonth < 10 then marchMonth + 3 else marchMonth - 9
  (yearOfEra + 400 * era + (if month ≤ 2 then 1 else 0), month.toNat, day.toNat)

/-- The date as mails have it. -/
def toUTCString (date : Date) : Text :=
  match date.timeValue with
  | none => "Invalid Date".toList
  | some t =>
      let days := t / 86400000
      let second := (t % 86400000 / 1000).toNat
      let (year, month, day) := civilFromDays days
      (dayNames.getD ((days + 4) % 7).toNat "").toList ++ [',', ' '] ++ twoDigits day ++ [' ']
        ++ (monthNames.getD (month - 1) "").toList ++ [' '] ++ yearText year ++ [' ']
        ++ twoDigits (second / 3600) ++ [':'] ++ twoDigits (second / 60 % 60) ++ [':']
        ++ twoDigits (second % 60) ++ " GMT".toList

/-! ## The message -/

/-- What a mail is made of. -/
structure InvoiceMimeMessageInput where
  body : Text
  cc : Option Text
  fromAddress : Text
  fromName : Text
  pdfContent : Buffer
  pdfFileName : Text
  subject : Text
  toAddress : Text
  deriving DecidableEq

/-- What a mail may be given. -/
structure InvoiceMimeMessageOptions where
  messageId : Option Text := none
  now : Option Date := none

/-- What is drawn and read from outside: a UUID, the current date, random bytes. -/
structure MimeEnvironment where
  randomUUID : Text
  newDate : Date
  randomBytes : Nat → Random24

/-- `^[A-Za-z0-9][A-Za-z0-9._-]{0,119}\.pdf$`, the letters of `pdf` in either case. -/
def isSafePdfFileName (name : Text) : Bool :=
  let stem := name.take (name.length - 4)
  let ending := name.drop (name.length - 4)
  (stem.head?.map isAlphanumeric).getD false && stem.length ≤ 120
    && stem.all (fun c => isAlphanumeric c || c == '.' || c == '_' || c == '-')
    && ending.length == 4 && ending.map Char.toLower == ".pdf".toList

/-- `[\u0000\r\n]` -/
def isLineControl (c : Char) : Bool := c.toNat == 0 || c == '\r' || c == '\n'

/-- The checks of the parts. -/
def validateInput (input : InvoiceMimeMessageInput) : Except MimeError Unit :=
  throwIf (input.body = [] ∨ utf16Length input.body > maximumBodyCharacters
    ∨ Char.ofNat 0 ∈ input.body ∨ input.subject = []
    ∨ utf16Length input.subject > maximumSubjectCharacters ∨ utf16Length input.fromName > 200
    ∨ input.fromName.any isLineControl ∨ input.subject.any isLineControl
    ∨ input.pdfContent = [] ∨ input.pdfContent.length > maximumPdfBytes
    ∨ asciiText (input.pdfContent.take 4) ≠ "%PDF".toList
    ∨ ¬ isSafePdfFileName input.pdfFileName ∨ ['.', '.'] <:+: input.pdfFileName)
    .invoiceMimeMessageValidation

/-- `^[A-Za-z0-9._@-]{1,300}$` -/
def isMessageId (messageId : Text) : Bool :=
  messageId.all (fun c => isAlphanumeric c || c == '.' || c == '_' || c == '@' || c == '-')
    && 1 ≤ messageId.length && messageId.length ≤ 300

/-- The address of the copy, if one is given. -/
def normalizeCc (cc : Option Text) : Except MimeError (Option Text) :=
  match cc with
  | none => .ok none
  | some value => if trim value = [] then .ok none else (normalizeEmailAddress value).map some

/-- The domain of the sender. -/
def senderDomain (fromAddress : Text) : Text :=
  fromAddress.drop (((lastIndexOf? fromAddress '@').map (· + 1)).getD 0)

/-- The header lines. -/
def mimeHeaders (date messageId sender toAddress : Text) (cc : Option Text) (subject boundary : Text) :
    List Text :=
  ["MIME-Version: 1.0".toList,
    "Date: ".toList ++ date,
    "Message-ID: <".toList ++ messageId ++ ['>'],
    "From: ".toList ++ sender,
    "To: ".toList ++ toAddress]
    ++ (match cc with
        | none => []
        | some cc => ["Cc: ".toList ++ cc])
    ++ ["Subject: ".toList ++ subject,
      "Content-Type: multipart/mixed; boundary=\"".toList ++ boundary ++ ['"']]

/-- Header, text part and PDF part. -/
def mimeParts (headers : List Text) (boundary bodyBase64 pdfFileName pdfBase64 : Text) :
    List Text :=
  [joinLines headers,
    [],
    '-' :: '-' :: boundary,
    "Content-Type: text/plain; charset=utf-8".toList,
    "Content-Transfer-Encoding: base64".toList,
    [],
    bodyBase64,
    '-' :: '-' :: boundary,
    "Content-Type: application/pdf".toList,
    "Content-Transfer-Encoding: base64".toList,
    "Content-Disposition: attachment; filename=\"".toList ++ pdfFileName ++ ['"'],
    [],
    pdfBase64,
    '-' :: '-' :: boundary ++ ['-', '-'],
    []]

/-- The mail. -/
def buildInvoiceMimeMessage (env : MimeEnvironment) (input : InvoiceMimeMessageInput)
    (options : InvoiceMimeMessageOptions) : Except MimeError Buffer := do
  validateInput input
  let fromAddress ← normalizeEmailAddress input.fromAddress
  let toAddress ← normalizeEmailAddress input.toAddress
  let cc ← normalizeCc input.cc
  let bodyBase64 := encodeMimeBase64 (Buffers.utf8 (String.ofList input.body))
  let pdfBase64 := encodeMimeBase64 input.pdfContent
  let boundary ← createMimeBoundary [bodyBase64, pdfBase64] env.randomBytes
  let messageId := options.messageId.getD (env.randomUUID ++ '@' :: senderDomain fromAddress)
  throwIf (¬ isMessageId messageId) .invoiceMimeMessageValidation
  let date := toUTCString (options.now.getD env.newDate)
  let sender ← formatMimeAddress fromAddress input.fromName
  let subject ← encodeMimeHeaderValue input.subject
  let headers := mimeHeaders date messageId sender toAddress cc subject boundary
  .ok (asciiBytes (joinLines (mimeParts headers boundary bodyBase64 input.pdfFileName pdfBase64)))

end InvoiceMime
