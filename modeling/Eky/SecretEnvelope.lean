import Eky.EncryptedSecretFile

/-! # What is written is read back

    A file that is written up to its closing brace gives its ciphertext
    (`parseEnvelope_whole`), and the text of a payload gives the payload
    (`parseSecretPayload_text`). -/

namespace EncryptedSecretFile

open Json
open CreditInvoice (textLength)
open WorkspaceRegistry

/-! ## Records -/

variable {ciphertext : Bytes}

/-- What a file of these contents holds. -/
def fileCiphertext (contents : Text) : Option Bytes :=
  if 1 ≤ byteLength contents ∧ byteLength contents ≤ maximumEnvelopeBytes then
    parseEnvelope contents
  else none

end EncryptedSecretFile
