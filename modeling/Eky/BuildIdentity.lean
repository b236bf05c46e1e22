import Eky.JavaScript
import Mathlib

/-! # Versions and identities

    The texts by which builds, packages and operations are told apart, and the order
    of semantic versions of `semanticVersionComparison.ts`.  The source has a regular
    expression for each kind of text; here it is the predicate that the expression
    decides. -/

/-! ## Patterns -/

/-- The parts of a text between the separators. -/
def splitAt (separator : Char) : List Char → List (List Char)
  | [] => [[]]
  | c :: cs =>
    if c = separator then [] :: splitAt separator cs
    else
      match splitAt separator cs with
      | part :: parts => (c :: part) :: parts
      | [] => [[c]]

theorem splitAt_ne_nil (separator : Char) (text : List Char) : splitAt separator text ≠ [] := by
  cases text with
  | nil => exact List.cons_ne_nil _ _
  | cons c rest =>
      rw [splitAt]
      split
      · exact List.cons_ne_nil _ _
      · split
        · exact List.cons_ne_nil _ _
        · exact List.cons_ne_nil _ _

/-- The parts, joined by the separator, are the text. -/
theorem intercalate_splitAt (separator : Char) (text : List Char) :
    [separator].intercalate (splitAt separator text) = text := by
  induction text with
  | nil => rfl
  | cons c rest ih =>
      obtain ⟨part, parts, hparts⟩ := List.exists_cons_of_ne_nil (splitAt_ne_nil separator rest)
      rw [splitAt]
      rw [hparts] at ih ⊢
      by_cases hc : c = separator
      · rw [if_pos hc, List.intercalate_cons_cons, ih, hc]
        rfl
      · rw [if_neg hc]
        cases parts with
        | nil =>
            rw [List.intercalate_singleton] at ih ⊢
            exact congrArg (c :: ·) ih
        | cons next others =>
            rw [List.intercalate_cons_cons] at ih ⊢
            exact congrArg (c :: ·) ih

theorem intercalate_append {separator : List Char} {parts rest : List (List Char)}
    (hparts : parts ≠ []) (hrest : rest ≠ []) :
    separator.intercalate (parts ++ rest)
      = separator.intercalate parts ++ separator ++ separator.intercalate rest := by
  induction parts with
  | nil => exact absurd rfl hparts
  | cons part parts ih =>
      cases parts with
      | nil =>
          rw [List.singleton_append, List.intercalate_cons_of_ne_nil hrest,
            List.intercalate_singleton]
      | cons next others =>
          have hne : next :: others ++ rest ≠ [] := List.cons_ne_nil _ _
          rw [List.cons_append, List.intercalate_cons_of_ne_nil hne, ih (List.cons_ne_nil _ _),
            List.intercalate_cons_cons]
          simp only [List.append_assoc]

/-- A separator keeps the parts before and behind it apart. -/
theorem splitAt_append (separator : Char) (text rest : List Char) :
    splitAt separator (text ++ separator :: rest)
      = splitAt separator text ++ splitAt separator rest := by
  induction text with
  | nil =>
      show splitAt separator (separator :: rest) = [[]] ++ splitAt separator rest
      rw [splitAt, if_pos rfl]
      rfl
  | cons c text ih =>
      obtain ⟨part, parts, hparts⟩ := List.exists_cons_of_ne_nil (splitAt_ne_nil separator text)
      rw [List.cons_append, splitAt, splitAt, ih, hparts]
      by_cases hc : c = separator
      · rw [if_pos hc, if_pos hc]
        rfl
      · rw [if_neg hc, if_neg hc]
        rfl

/-- Texts are in each other, up to a separator, as their parts are. -/
theorem splitAt_isPrefix {separator : Char} {text longer : List Char} :
    text ++ [separator] <+: longer ↔ ∃ rest, rest ≠ []
      ∧ splitAt separator longer = splitAt separator text ++ rest := by
  constructor
  · rintro ⟨rest, rfl⟩
    refine ⟨splitAt separator rest, splitAt_ne_nil separator rest, ?_⟩
    rw [List.append_assoc]
    exact splitAt_append separator text rest
  · rintro ⟨rest, hrest, hsplit⟩
    refine ⟨[separator].intercalate rest, ?_⟩
    rw [← intercalate_splitAt separator longer, hsplit,
      intercalate_append (splitAt_ne_nil separator text) hrest, intercalate_splitAt]

/-- What stands before the first separator and, if there is one, behind it. -/
def cutAt (separator : Char) : List Char → List Char × Option (List Char)
  | [] => ([], none)
  | c :: cs =>
    if c = separator then ([], some cs)
    else ((c :: (cutAt separator cs).1), (cutAt separator cs).2)

/-- `buildRevisionPattern` -/
def isBuildRevision (value : String) : Bool :=
  7 ≤ value.toList.length && value.toList.length ≤ 40 && value.toList.all JavaScript.isLowerHexDigit

/-- `sha256Pattern` -/
def isSha256 (value : String) : Bool :=
  value.toList.length = 64 && value.toList.all JavaScript.isLowerHexDigit

/-- `correlationIdPattern` -/
def isCorrelationId : String → Bool :=
  JavaScript.isUuid ['1', '2', '3', '4', '5', '6', '7', '8']

/-- `recoveryPointReferencePattern` -/
def isRecoveryPointReference : String → Bool := JavaScript.isUuid ['1', '2', '3', '4', '5']

/-- `0|[1-9]\d*` -/
def isNumericIdentifier (identifier : List Char) : Bool :=
  identifier = ['0'] || (identifier.all Char.isDigit && identifier ≠ [] && identifier.head? ≠ some '0')

/-- The value of a numeric identifier. -/
def numericValue (identifier : List Char) : Nat :=
  identifier.foldl (fun value digit => 10 * value + (digit.toNat - '0'.toNat)) 0

/-- Three numbers, as Windows Installer takes them. -/
def isMsiProductVersion (value : String) : Bool :=
  match splitAt '.' value.toList with
  | [major, minor, patch] =>
    [major, minor, patch].all isNumericIdentifier &&
      numericValue major ≤ 255 && numericValue minor ≤ 255 && numericValue patch ≤ 65535
  | _ => false

/-! ## Semantic versions -/

/-- The parts of a version that its order compares. -/
structure SemanticVersion where
  core : List (List Char)
  preRelease : Option (List (List Char))
  deriving DecidableEq

/-- `[0-9A-Za-z-]` -/
def isIdentifierChar (c : Char) : Bool := c.isAlphanum || c = '-'

/-- A number without leading zeros, or a word. -/
def isPreReleaseIdentifier (identifier : List Char) : Bool :=
  isNumericIdentifier identifier ||
    (identifier ≠ [] && identifier.all isIdentifierChar &&
      identifier.head?.all fun c => !c.isDigit)

/-- Letters, digits and hyphens. -/
def isBuildIdentifier (identifier : List Char) : Bool :=
  identifier ≠ [] && identifier.all isIdentifierChar

/-- The build metadata takes part in the syntax, not in the version. -/
def parseSemanticVersion (value : String) : Option SemanticVersion :=
  let (version, build) := cutAt '+' value.toList
  let (core, preRelease) := cutAt '-' version
  let identifiers := preRelease.map (splitAt '.')
  if (splitAt '.' core).length = 3 ∧ (splitAt '.' core).all isNumericIdentifier ∧
      identifiers.all (fun parts => parts.all isPreReleaseIdentifier) ∧
      build.all (fun metadata => (splitAt '.' metadata).all isBuildIdentifier) then
    some ⟨splitAt '.' core, identifiers⟩
  else none

/-- The text is a semantic version. -/
def isSemVer (value : String) : Bool := (parseSemanticVersion value).isSome

/-- Numbers of any length, by their digits. -/
def compareNumericIdentifier (left right : List Char) : Ordering :=
  if left.length ≠ right.length then compare left.length right.length
  else if left < right then .lt
  else if right < left then .gt
  else .eq

/-- Numbers by value, and words by character. -/
def compareIdentifier (left right : List Char) : Ordering :=
  if left.all Char.isDigit && right.all Char.isDigit then compareNumericIdentifier left right
  else if left.all Char.isDigit != right.all Char.isDigit then
    if left.all Char.isDigit then .lt else .gt
  else if left < right then .lt
  else if right < left then .gt
  else .eq

/-- Identifier by identifier, and the shorter list first. -/
def compareIdentifiers : List (List Char) → List (List Char) → Ordering
  | [], [] => .eq
  | [], _ :: _ => .lt
  | _ :: _, [] => .gt
  | left :: lefts, right :: rights =>
    (compareIdentifier left right).then (compareIdentifiers lefts rights)

/-- A pre-release comes before its release. -/
def comparePreRelease : Option (List (List Char)) → Option (List (List Char)) → Ordering
  | none, none => .eq
  | none, some _ => .gt
  | some _, none => .lt
  | some left, some right => compareIdentifiers left right

/-- Major, minor and patch. -/
def compareCore : List (List Char) → List (List Char) → Ordering
  | left :: lefts, right :: rights =>
    (compareNumericIdentifier left right).then (compareCore lefts rights)
  | _, _ => .eq

/-- The comparison of two texts that are versions. -/
def compareSemanticVersions (left right : String) (hleft : isSemVer left = true)
    (hright : isSemVer right = true) : Ordering :=
  let leftVersion := (parseSemanticVersion left).get hleft
  let rightVersion := (parseSemanticVersion right).get hright
  (compareCore leftVersion.core rightVersion.core).then
    (comparePreRelease leftVersion.preRelease rightVersion.preRelease)

theorem compareNumericIdentifier_self (identifier : List Char) :
    compareNumericIdentifier identifier identifier = .eq := by
  simp [compareNumericIdentifier]

theorem compareIdentifier_self (identifier : List Char) :
    compareIdentifier identifier identifier = .eq := by
  simp [compareIdentifier, compareNumericIdentifier_self]

theorem compareIdentifiers_self (identifiers : List (List Char)) :
    compareIdentifiers identifiers identifiers = .eq := by
  induction identifiers with
  | nil => rfl
  | cons identifier identifiers ih =>
      rw [compareIdentifiers, compareIdentifier_self, ih]
      rfl

theorem compareCore_self (core : List (List Char)) : compareCore core core = .eq := by
  induction core with
  | nil => rfl
  | cons number core ih =>
      rw [compareCore, compareNumericIdentifier_self, ih]
      rfl

/-- A version is not newer than itself. -/
theorem compareSemanticVersions_self (value : String) (hleft hright : isSemVer value = true) :
    compareSemanticVersions value value hleft hright = .eq := by
  simp only [compareSemanticVersions, compareCore_self]
  cases ((parseSemanticVersion value).get hleft).preRelease with
  | none => rfl
  | some identifiers => exact compareIdentifiers_self identifiers

example : compareSemanticVersions "0.2.7" "0.2.7-alpha.1+build" rfl rfl = .gt := by decide
