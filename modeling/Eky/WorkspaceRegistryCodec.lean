import Eky.CreditInvoice
import Eky.DuplicateKeysExact
import Eky.JsonWriter
import Eky.WorkspaceRegistry

/-! # The registry's values and bytes

    `validateWorkspaceRegistry` takes any value of JSON and gives the registry it stands for;
    `serializeWorkspaceRegistry` and `parseWorkspaceRegistryBytes` go between registries and
    the bytes of their file. -/

namespace WorkspaceRegistry

open Json JavaScript

/-! ## Texts -/

/-- `profileIdPattern`: a digest of 64 digits. -/
def profileIdPattern : List (Char → Bool) := List.replicate 64 isLowerHexDigit

/-- `canonicalUtcTimestampPattern`: the places of the digits and of the marks between them. -/
def canonicalUtcTimestampPattern : List (Char → Bool) :=
  List.replicate 4 Char.isDigit ++ [exactly '-'] ++ List.replicate 2 Char.isDigit ++ [exactly '-']
    ++ List.replicate 2 Char.isDigit ++ [exactly 'T'] ++ List.replicate 2 Char.isDigit
    ++ [exactly ':'] ++ List.replicate 2 Char.isDigit ++ [exactly ':']
    ++ List.replicate 2 Char.isDigit ++ [exactly '.'] ++ List.replicate 3 Char.isDigit
    ++ [exactly 'Z']

/-- The number in `length` characters from `start` on. -/
def field (text : List Char) (start length : Nat) : Nat :=
  Decimals.value ((text.drop start).take length)

/-- `canonicalWorkspaceIdPattern`: random UUIDs in small letters. -/
def isWorkspaceId : String → Bool := isLowerUuid ['4']

/-- The identity of a profile. -/
def isProfileId (text : String) : Bool := matchesPattern profileIdPattern text.toList

/-- A time that `toISOString` writes as it was given. -/
def isTimestamp (text : String) : Bool :=
  let month := field text.toList 5 2
  let day := field text.toList 8 2
  matchesPattern canonicalUtcTimestampPattern text.toList && 1 ≤ month && month ≤ 12 && 1 ≤ day
    && day ≤ daysInMonth (field text.toList 0 4) month && field text.toList 11 2 ≤ 23
    && field text.toList 14 2 ≤ 59 && field text.toList 17 2 ≤ 59

/-- Characters of a label. -/
def maximumLabelCodePoints : Nat := 80

/-- `forbiddenWorkspaceLabelCodePoint` -/
def isForbidden (c : Char) : Bool :=
  c.toNat ≤ 0x1f || (0x7f ≤ c.toNat && c.toNat ≤ 0x9f) || c.toNat = 0x2028 || c.toNat = 0x2029
    || (0x202a ≤ c.toNat && c.toNat ≤ 0x202e) || (0x2066 ≤ c.toNat && c.toNat ≤ 0x2069)

/-- Trimmed, not empty, not too long, without control characters. -/
def isWorkspaceLabel (label : String) : Bool :=
  label.toList = trim label.toList && label.toList ≠ []
    && label.toList.length ≤ maximumLabelCodePoints && !label.toList.any isForbidden

/-- The texts of an entry are such as its validators let through. -/
structure ValidTexts (entry : WorkspaceEntry) : Prop where
  workspaceId : isWorkspaceId entry.workspaceId = true
  workspaceLabel : isWorkspaceLabel entry.workspaceLabel = true
  profileId : isProfileId entry.profileId = true
  createdAt : isTimestamp entry.createdAt = true

/-! ## Validation -/

/-- A string value without unpaired surrogates that passes the check. -/
def stringValue (check : String → Bool) : Value → Option String
  | .string units => do
      let text ← fromUtf16 units
      if check (String.ofList text) then some (String.ofList text) else none
  | _ => none

/-- An id. -/
def validateWorkspaceId : Value → Option WorkspaceId := stringValue isWorkspaceId

/-- A label. -/
def validateWorkspaceLabel : Value → Option String := stringValue isWorkspaceLabel

/-- A timestamp. -/
def validateWorkspaceTimestamp : Value → Option String := stringValue isTimestamp

/-- `value === n` -/
def isNumberValue (n : Int) : Value → Bool
  | .number literal => numberIs literal n
  | _ => false

/-- The members of an object that has exactly these keys. -/
def exactMembers (keys : List String) : Value → Option (List (Units × Value))
  | .object members =>
      if members.length = keys.length
          ∧ ∀ member ∈ members, member.1 ∈ keys.map fun key => utf16 key.toList then
        some members
      else none
  | _ => none

/-- The member of a name. -/
def member (members : List (Units × Value)) (key : String) : Option Value :=
  members.lookup (utf16 key.toList)

/-- The profile of a lineage. -/
def validateWorkspaceLineage (value : Value) : Option String := do
  let members ← exactMembers ["formatVersion", "profileId"] value
  let formatVersion ← member members "formatVersion"
  if isNumberValue 1 formatVersion then
    stringValue isProfileId (← member members "profileId")
  else none

/-- The state of a text. -/
def lifecycleStateOf (text : String) : Option WorkspaceLifecycleState :=
  if text = "ready" then some .ready
  else if text = "recoveryRequired" then some .recoveryRequired
  else none

/-- An entry. -/
def validateWorkspaceRegistryEntry (value : Value) : Option WorkspaceEntry := do
  let members ← exactMembers ["workspaceId", "workspaceLabel", "lineageIdentity", "layoutVersion",
    "lifecycleState", "createdAt"] value
  let layoutVersion ← member members "layoutVersion"
  if isNumberValue 1 layoutVersion then
    let lifecycleState ← lifecycleStateOf
      (← stringValue (fun _ => true) (← member members "lifecycleState"))
    let workspaceId ← validateWorkspaceId (← member members "workspaceId")
    let workspaceLabel ← validateWorkspaceLabel (← member members "workspaceLabel")
    let profileId ← validateWorkspaceLineage (← member members "lineageIdentity")
    let createdAt ← validateWorkspaceTimestamp (← member members "createdAt")
    some ⟨workspaceId, workspaceLabel, profileId, lifecycleState, createdAt⟩
  else none

/-- The format of a number. -/
def formatVersionOf (value : Value) : Option RegistryFormat :=
  if isNumberValue 1 value then some .v1
  else if isNumberValue 2 value then some .v2
  else none

/-- The value is `null`. -/
def isNull : Value → Bool
  | .null => true
  | _ => false

/-- The pointer, which must be at a ready workspace. -/
def validateActiveWorkspaceId (value : Value) (readyIds : List WorkspaceId)
    (formatVersion : RegistryFormat) : Option (Option WorkspaceId) :=
  if formatVersion = .v2 ∧ isNull value then some none
  else if readyIds = [] then if isNull value then some none else none
  else do
    let workspaceId ← validateWorkspaceId value
    if workspaceId ∈ readyIds then some (some workspaceId) else none

/-- The identifiers of the ready entries. -/
def readyIds (entries : List WorkspaceEntry) : List WorkspaceId :=
  (entries.filter fun entry => entry.lifecycleState = .ready).map WorkspaceEntry.workspaceId

/-- The items of an array that is not too long. -/
def arrayItems : Value → Option (List Value)
  | .array items => if items.length ≤ maximumEntries then some items else none
  | _ => none

/-- A registry. -/
def validateWorkspaceRegistry (value : Value) : Option WorkspaceRegistry := do
  let members ← exactMembers ["formatVersion", "activeWorkspaceId", "workspaces"] value
  let formatVersion ← formatVersionOf (← member members "formatVersion")
  let items ← arrayItems (← member members "workspaces")
  let entries ← items.mapM validateWorkspaceRegistryEntry
  if (entries.map WorkspaceEntry.workspaceId).Nodup
      ∧ (entries.map WorkspaceEntry.profileId).Nodup then
    let activeWorkspaceId ← validateActiveWorkspaceId (← member members "activeWorkspaceId")
      (readyIds entries) formatVersion
    some ⟨formatVersion, activeWorkspaceId, entries⟩
  else none

/-! ## Bytes -/

/-- The number of a format. -/
def formatText : RegistryFormat → String
  | .v1 => "1"
  | .v2 => "2"

/-- The text of a state. -/
def lifecycleStateText : WorkspaceLifecycleState → String
  | .ready => "ready"
  | .recoveryRequired => "recoveryRequired"

/-- The value that the registry is as an object. -/
def entryValue (entry : WorkspaceEntry) : Value :=
  .object [
    (utf16 "workspaceId".toList, .string (utf16 entry.workspaceId.toList)),
    (utf16 "workspaceLabel".toList, .string (utf16 entry.workspaceLabel.toList)),
    (utf16 "lineageIdentity".toList, .object [
      (utf16 "formatVersion".toList, .number (utf16 "1".toList)),
      (utf16 "profileId".toList, .string (utf16 entry.profileId.toList))]),
    (utf16 "layoutVersion".toList, .number (utf16 "1".toList)),
    (utf16 "lifecycleState".toList,
      .string (utf16 (lifecycleStateText entry.lifecycleState).toList)),
    (utf16 "createdAt".toList, .string (utf16 entry.createdAt.toList))]

/-- The value of the pointer. -/
def activeValue : Option WorkspaceId → Value
  | none => .null
  | some workspaceId => .string (utf16 workspaceId.toList)

/-- The value of a registry. -/
def toValue (registry : WorkspaceRegistry) : Value :=
  .object [
    (utf16 "formatVersion".toList, .number (utf16 (formatText registry.formatVersion).toList)),
    (utf16 "activeWorkspaceId".toList, activeValue registry.activeWorkspaceId),
    (utf16 "workspaces".toList, .array (registry.workspaces.map entryValue))]

/-- The text of an entry. -/
def entryText (entry : WorkspaceEntry) : List Char :=
  writeObject [
    ("workspaceId".toList, quote entry.workspaceId.toList),
    ("workspaceLabel".toList, quote entry.workspaceLabel.toList),
    ("lineageIdentity".toList, writeObject [
      ("formatVersion".toList, "1".toList),
      ("profileId".toList, quote entry.profileId.toList)]),
    ("layoutVersion".toList, "1".toList),
    ("lifecycleState".toList, quote (lifecycleStateText entry.lifecycleState).toList),
    ("createdAt".toList, quote entry.createdAt.toList)]

/-- The text of the pointer. -/
def activeText : Option WorkspaceId → List Char
  | none => "null".toList
  | some workspaceId => quote workspaceId.toList

/-- `JSON.stringify(canonical)` -/
def canonicalText (registry : WorkspaceRegistry) : List Char :=
  writeObject [
    ("formatVersion".toList, (formatText registry.formatVersion).toList),
    ("activeWorkspaceId".toList, activeText registry.activeWorkspaceId),
    ("workspaces".toList, writeArray (registry.workspaces.map entryText))]

/-- `WORKSPACE_REGISTRY_MAX_BYTES` -/
def maximumBytes : Nat := 64 * 1024

/-- The bytes of a registry, if it is valid and not too long. -/
def serializeWorkspaceRegistry (value : Value) : Option ByteArray := do
  let registry ← validateWorkspaceRegistry value
  let bytes := (String.ofList (canonicalText registry ++ ['\n'])).toUTF8
  if bytes.size > maximumBytes then none else some bytes

/-- A decoder that is not told otherwise drops the mark of the byte order. -/
def dropByteOrderMark : List Char → List Char
  | [] => []
  | c :: text => if c.toNat = 0xfeff then text else c :: text

/-- Behind the check for duplicate keys the members of an object are its properties. -/
def parseWorkspaceRegistryBytes (bytes : ByteArray) : Option WorkspaceRegistry := do
  if bytes.size < 1 ∨ bytes.size > maximumBytes then none
  else
    let characters ← bytes.utf8Decode?
    let source := utf16 (dropByteOrderMark characters.toList)
    match WorkspaceRegistryDuplicateKeys.assertNoDuplicateWorkspaceRegistryKeys source with
    | .error _ => none
    | .ok () => do
        let value ← parse source
        validateWorkspaceRegistry value

end WorkspaceRegistry
