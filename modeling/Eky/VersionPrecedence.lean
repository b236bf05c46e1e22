import Eky.Decimals
import Eky.FirstStart
import Mathlib.Data.Char
import Mathlib.Data.List.Lex
import Mathlib.Data.Prod.Lex
import Mathlib.Data.Sum.Order
import Mathlib.Logic.Relation
import Mathlib.Order.Compare
import Mathlib.Order.WithBot

/-! # The precedence of versions

    Semantic Versioning orders versions by their numbers and by the identifiers of a
    pre-release, numeric identifiers by value and below the others.  That order is a
    lexicographic one, and `compareSemanticVersions` computes it on the texts.

    - `compareNumericIdentifier_eq`: digits without leading zeros compare by value;
    - `compareSemanticVersions_eq`: the comparison is the order of `precedence`;
    - `compareSemanticVersions_eq_iff`: only the build metadata takes no part;
    - `compareSemanticVersions_order`: a total order, along which updates go up. -/

/-! ## Comparing step by step -/

section Orders

variable {α β : Type} [LT α] [LT β]

/-- Lists are compared at the first difference. -/
theorem compares_cons {x y : α} {xs ys : List α} {first rest : Ordering}
    (h : first.Compares x y) (hrest : rest.Compares xs ys) :
    (first.then rest).Compares (x :: xs) (y :: ys) := by
  cases first with
  | lt => exact List.Lex.rel h
  | gt => exact List.Lex.rel h
  | eq =>
      obtain rfl : x = y := h
      cases rest with
      | lt => exact List.Lex.cons hrest
      | gt => exact List.Lex.cons hrest
      | eq => exact congrArg (x :: ·) hrest

theorem compares_toLex {a c : α} {b d : β} {first second : Ordering}
    (h : first.Compares a c) (hsecond : second.Compares b d) :
    (first.then second).Compares (toLex (a, b)) (toLex (c, d)) := by
  cases first with
  | lt => exact Prod.Lex.toLex_lt_toLex.mpr (Or.inl h)
  | gt => exact Prod.Lex.toLex_lt_toLex.mpr (Or.inl h)
  | eq =>
      obtain rfl : a = c := h
      cases second with
      | lt => exact Prod.Lex.toLex_lt_toLex.mpr (Or.inr ⟨rfl, hsecond⟩)
      | gt => exact Prod.Lex.toLex_lt_toLex.mpr (Or.inr ⟨rfl, hsecond⟩)
      | eq => exact congrArg (fun e => toLex (a, e)) hsecond

theorem compares_map {f : α → β} (hmono : ∀ a b, a < b → f a < f b) {a b : α}
    {order : Ordering} (h : order.Compares a b) : order.Compares (f a) (f b) := by
  cases order with
  | lt => exact hmono a b h
  | gt => exact hmono b a h
  | eq => exact congrArg f h

/-- Texts are compared by `<` alone. -/
theorem compares_text (left right : List Char) :
    (if left < right then Ordering.lt else if right < left then .gt else .eq).Compares
      left right := by
  by_cases hlt : left < right
  · rw [if_pos hlt]
    exact hlt
  · rw [if_neg hlt]
    by_cases hgt : right < left
    · rw [if_pos hgt]
      exact hgt
    · rw [if_neg hgt]
      exact List.le_antisymm (List.not_lt.mp hgt) (List.not_lt.mp hlt)

end Orders

/-! ## Identifiers -/

theorem isDigit_of_isNumericIdentifier {identifier : List Char}
    (h : isNumericIdentifier identifier = true) : ∀ c ∈ identifier, c.isDigit = true := by
  simp only [isNumericIdentifier, Bool.or_eq_true, decide_eq_true_eq, Bool.and_eq_true,
    List.all_eq_true] at h
  rcases h with rfl | ⟨⟨hall, _⟩, _⟩
  · decide
  · exact hall

theorem numericValue_eq (identifier : List Char) :
    numericValue identifier = Decimals.value identifier :=
  Nat.ofDigitChars_eq_foldl.symm

private theorem numericValue_lt_of_length_lt {left right : List Char}
    (hleft : isNumericIdentifier left = true) (hright : isNumericIdentifier right = true)
    (h : left.length < right.length) : numericValue left < numericValue right := by
  have hdigits := isDigit_of_isNumericIdentifier hleft
  rw [numericValue_eq, numericValue_eq]
  refine Decimals.value_lt_of_length_lt hdigits (isDigit_of_isNumericIdentifier hright) ?_ h
  simp only [isNumericIdentifier, Bool.or_eq_true, decide_eq_true_eq, Bool.and_eq_true] at hright
  rcases hright with rfl | ⟨_, hhead⟩
  · -- the only number with a zero in front has no room for a shorter one
    have hnil : left = [] := List.eq_nil_of_length_eq_zero (Nat.lt_one_iff.mp h)
    subst hnil
    exact nomatch hleft
  · exact hhead

/-- **NUMBERS BY VALUE**, of any length. -/
theorem compareNumericIdentifier_compares {left right : List Char}
    (hleft : isNumericIdentifier left = true) (hright : isNumericIdentifier right = true) :
    (compareNumericIdentifier left right).Compares (numericValue left) (numericValue right) := by
  rw [compareNumericIdentifier]
  by_cases hlength : left.length = right.length
  · have hleftDigits := isDigit_of_isNumericIdentifier hleft
    have hrightDigits := isDigit_of_isNumericIdentifier hright
    rw [if_neg (not_not_intro hlength), numericValue_eq, numericValue_eq]
    have htext := compares_text left right
    by_cases hlt : left < right
    · rw [if_pos hlt]
      exact Decimals.value_lt_of_lt hleftDigits hrightDigits hlength hlt
    · rw [if_neg hlt] at htext ⊢
      by_cases hgt : right < left
      · rw [if_pos hgt]
        exact Decimals.value_lt_of_lt hrightDigits hleftDigits hlength.symm hgt
      · rw [if_neg hgt] at htext ⊢
        exact congrArg Decimals.value htext
  · rw [if_pos hlength]
    rcases Nat.lt_or_gt_of_ne hlength with h | h
    · rw [Nat.compare_eq_lt.mpr h]
      exact numericValue_lt_of_length_lt hleft hright h
    · rw [Nat.compare_eq_gt.mpr h]
      exact numericValue_lt_of_length_lt hright hleft h

/-- What an identifier counts: a number its value, and numbers less than texts. -/
def identifierPrecedence (identifier : List Char) : Nat ⊕ₗ List Char :=
  if identifier.all Char.isDigit then toLex (.inl (numericValue identifier))
  else toLex (.inr identifier)

/-- An identifier of a pre-release that consists of digits is a number. -/
theorem isNumericIdentifier_of_digits {identifier : List Char}
    (h : isPreReleaseIdentifier identifier = true)
    (hdigits : identifier.all Char.isDigit = true) : isNumericIdentifier identifier = true := by
  simp only [isPreReleaseIdentifier, Bool.or_eq_true, Bool.and_eq_true, decide_eq_true_eq] at h
  rcases h with h | ⟨⟨hne, _⟩, hhead⟩
  · exact h
  · -- a text begins with a character that is no digit
    obtain ⟨c, rest, rfl⟩ := List.exists_cons_of_ne_nil hne
    have hc : c.isDigit = true := List.all_eq_true.mp hdigits c List.mem_cons_self
    rw [List.head?_cons, Option.all_some, hc] at hhead
    exact nomatch hhead

theorem compareIdentifier_compares {left right : List Char}
    (hleft : isPreReleaseIdentifier left = true)
    (hright : isPreReleaseIdentifier right = true) :
    (compareIdentifier left right).Compares (identifierPrecedence left)
      (identifierPrecedence right) := by
  rw [compareIdentifier, identifierPrecedence, identifierPrecedence]
  cases hl : left.all Char.isDigit with
  | true =>
      cases hr : right.all Char.isDigit with
      | true =>
          exact compares_map (fun _ _ h => Sum.Lex.inl_lt_inl_iff.mpr h)
            (compareNumericIdentifier_compares (isNumericIdentifier_of_digits hleft hl)
              (isNumericIdentifier_of_digits hright hr))
      | false => exact Sum.Lex.inl_lt_inr _ _
  | false =>
      cases hr : right.all Char.isDigit with
      | true => exact Sum.Lex.inl_lt_inr _ _
      | false =>
          exact compares_map (fun _ _ h => Sum.Lex.inr_lt_inr_iff.mpr h)
            (compares_text left right)

/-- A list of identifiers comes before its extensions. -/
theorem compareIdentifiers_compares {lefts rights : List (List Char)}
    (hlefts : ∀ identifier ∈ lefts, isPreReleaseIdentifier identifier = true)
    (hrights : ∀ identifier ∈ rights, isPreReleaseIdentifier identifier = true) :
    (compareIdentifiers lefts rights).Compares (lefts.map identifierPrecedence)
      (rights.map identifierPrecedence) := by
  induction lefts generalizing rights with
  | nil =>
      cases rights with
      | nil => rfl
      | cons right rights => exact List.Lex.nil
  | cons left lefts ih =>
      cases rights with
      | nil => exact List.Lex.nil
      | cons right rights =>
          exact compares_cons
            (compareIdentifier_compares (hlefts left List.mem_cons_self)
              (hrights right List.mem_cons_self))
            (ih (fun identifier h => hlefts identifier (List.mem_cons_of_mem left h))
              (fun identifier h => hrights identifier (List.mem_cons_of_mem right h)))

theorem compareCore_compares {lefts rights : List (List Char)}
    (hlength : lefts.length = rights.length)
    (hlefts : ∀ number ∈ lefts, isNumericIdentifier number = true)
    (hrights : ∀ number ∈ rights, isNumericIdentifier number = true) :
    (compareCore lefts rights).Compares (lefts.map numericValue) (rights.map numericValue) := by
  induction lefts generalizing rights with
  | nil =>
      obtain rfl : rights = [] := List.eq_nil_of_length_eq_zero hlength.symm
      rfl
  | cons left lefts ih =>
      cases rights with
      | nil => exact nomatch hlength
      | cons right rights =>
          exact compares_cons
            (compareNumericIdentifier_compares (hlefts left List.mem_cons_self)
              (hrights right List.mem_cons_self))
            (ih (Nat.succ.inj hlength)
              (fun number h => hlefts number (List.mem_cons_of_mem left h))
              (fun number h => hrights number (List.mem_cons_of_mem right h)))

/-! ## Versions -/

/-- The numbers first; then a release above its pre-releases. -/
def Precedence : Type := List Nat ×ₗ WithTop (List (Nat ⊕ₗ List Char))

instance : LinearOrder Precedence :=
  inferInstanceAs (LinearOrder (List Nat ×ₗ WithTop (List (Nat ⊕ₗ List Char))))

/-- The precedence of a pre-release, below its release. -/
def preReleasePrecedence : Option (List (List Char)) → WithTop (List (Nat ⊕ₗ List Char))
  | none => ⊤
  | some identifiers => (identifiers.map identifierPrecedence : List (Nat ⊕ₗ List Char))

/-- The precedence of a version. -/
def SemanticVersion.precedence (version : SemanticVersion) : Precedence :=
  toLex (version.core.map numericValue, preReleasePrecedence version.preRelease)

/-- What the pattern says of the parts of a version. -/
structure SemanticVersion.WellFormed (version : SemanticVersion) : Prop where
  length : version.core.length = 3
  core : ∀ number ∈ version.core, isNumericIdentifier number = true
  preRelease : ∀ identifiers ∈ version.preRelease, ∀ identifier ∈ identifiers,
    isPreReleaseIdentifier identifier = true

theorem parseSemanticVersion_wellFormed {value : String} {version : SemanticVersion}
    (h : parseSemanticVersion value = some version) : version.WellFormed := by
  simp only [parseSemanticVersion] at h
  split at h
  · next hparts =>
    obtain ⟨hlength, hcore, hidentifiers, _⟩ := hparts
    obtain rfl := Option.some.inj h
    refine ⟨hlength, List.all_eq_true.mp hcore, fun identifiers hmem identifier hidentifier => ?_⟩
    have hsome : Option.map (splitAt '.') (cutAt '-' (cutAt '+' value.toList).1).2
      = some identifiers := hmem
    rw [hsome, Option.all_some] at hidentifiers
    exact List.all_eq_true.mp hidentifiers identifier hidentifier
  · exact nomatch h

theorem comparePreRelease_compares {left right : Option (List (List Char))}
    (hleft : ∀ identifiers ∈ left, ∀ identifier ∈ identifiers,
      isPreReleaseIdentifier identifier = true)
    (hright : ∀ identifiers ∈ right, ∀ identifier ∈ identifiers,
      isPreReleaseIdentifier identifier = true) :
    (comparePreRelease left right).Compares (preReleasePrecedence left)
      (preReleasePrecedence right) := by
  cases left with
  | none =>
      cases right with
      | none => rfl
      | some rights => exact WithTop.coe_lt_top _
  | some lefts =>
      cases right with
      | none => exact WithTop.coe_lt_top _
      | some rights =>
          exact compares_map (fun _ _ h => WithTop.coe_lt_coe.mpr h)
            (compareIdentifiers_compares (hleft lefts rfl) (hright rights rfl))

/-- A text that is a version. -/
abbrev Version : Type := { value : String // isSemVer value = true }

namespace Version

/-- The parts of a version. -/
def parsed (version : Version) : SemanticVersion :=
  (parseSemanticVersion version.1).get version.2

/-- The comparison of two versions. -/
def compare (left right : Version) : Ordering :=
  compareSemanticVersions left.1 right.1 left.2 right.2

/-- The precedence of a version. -/
def precedence (version : Version) : Precedence := version.parsed.precedence

/-- The text in front of the build metadata. -/
def withoutBuild (version : Version) : List Char := (cutAt '+' version.1.toList).1

theorem parse_eq (version : Version) :
    parseSemanticVersion version.1 = some version.parsed :=
  (Option.some_get version.2).symm

/-- **THE ORDER OF PRECEDENCE** is what the comparison of the texts computes. -/
theorem compare_compares (left right : Version) :
    (left.compare right).Compares left.precedence right.precedence := by
  have hleft := parseSemanticVersion_wellFormed left.parse_eq
  have hright := parseSemanticVersion_wellFormed right.parse_eq
  exact compares_toLex
    (compareCore_compares (hleft.length.trans hright.length.symm) hleft.core hright.core)
    (comparePreRelease_compares hleft.preRelease hright.preRelease)

theorem compare_eq_gt (left right : Version) :
    left.compare right = .gt ↔ right.precedence < left.precedence :=
  Ordering.Compares.eq_gt (left.compare_compares right)

theorem compare_ne_gt (left right : Version) :
    left.compare right ≠ .gt ↔ left.precedence ≤ right.precedence :=
  Ordering.Compares.ne_gt (left.compare_compares right)

theorem compare_swap (left right : Version) :
    right.compare left = (left.compare right).swap :=
  Ordering.Compares.inj (right.compare_compares left) (left.compare_compares right).swap

theorem compare_trans {first second third : Version} (h : first.compare second ≠ .gt)
    (h' : second.compare third ≠ .gt) : first.compare third ≠ .gt := by
  rw [compare_ne_gt] at h h' ⊢
  exact le_trans h h'

end Version

/-! ## Build metadata -/

theorem cutAt_spec (separator : Char) (text : List Char) :
    (cutAt separator text).1 ++ (cutAt separator text).2.elim [] (separator :: ·) = text := by
  induction text with
  | nil => rfl
  | cons c rest ih =>
      rw [cutAt]
      by_cases hc : c = separator
      · rw [if_pos hc, hc]
        rfl
      · rw [if_neg hc]
        exact congrArg (c :: ·) ih

attribute [ext] SemanticVersion

/-- A version as it is written. -/
def SemanticVersion.text (version : SemanticVersion) : List Char :=
  ['.'].intercalate version.core
    ++ version.preRelease.elim [] fun identifiers => '-' :: ['.'].intercalate identifiers

theorem parseSemanticVersion_eq_some {value : String} {version : SemanticVersion}
    (h : parseSemanticVersion value = some version) :
    version.core = splitAt '.' (cutAt '-' (cutAt '+' value.toList).1).1
      ∧ version.preRelease = (cutAt '-' (cutAt '+' value.toList).1).2.map (splitAt '.') := by
  simp only [parseSemanticVersion] at h
  split at h
  · obtain rfl := Option.some.inj h
    exact ⟨rfl, rfl⟩
  · exact nomatch h

namespace Version

theorem text_parsed (version : Version) : version.parsed.text = version.withoutBuild := by
  obtain ⟨hcore, hpreRelease⟩ := parseSemanticVersion_eq_some version.parse_eq
  rw [SemanticVersion.text, hcore, hpreRelease, intercalate_splitAt, withoutBuild]
  refine Eq.trans (congrArg _ ?_) (cutAt_spec '-' _)
  cases (cutAt '-' (cutAt '+' version.1.toList).1).2 with
  | none => rfl
  | some identifiers =>
      show '-' :: ['.'].intercalate (splitAt '.' identifiers) = '-' :: identifiers
      rw [intercalate_splitAt]

/-- Versions are what their texts say in front of the build metadata. -/
theorem parsed_eq_iff {left right : Version} :
    left.parsed = right.parsed ↔ left.withoutBuild = right.withoutBuild := by
  constructor
  · intro h
    rw [← text_parsed, h, text_parsed]
  · intro h
    obtain ⟨hleft, hleftPre⟩ := parseSemanticVersion_eq_some left.parse_eq
    obtain ⟨hright, hrightPre⟩ := parseSemanticVersion_eq_some right.parse_eq
    have hsame : (cutAt '+' left.1.toList).1 = (cutAt '+' right.1.toList).1 := h
    rw [hsame] at hleft hleftPre
    exact SemanticVersion.ext (hleft.trans hright.symm) (hleftPre.trans hrightPre.symm)

end Version

theorem compareNumericIdentifier_eq {left right : List Char}
    (h : compareNumericIdentifier left right = .eq) : left = right := by
  rw [compareNumericIdentifier] at h
  split at h
  · next hlength => exact absurd (Nat.compare_eq_eq.mp h) hlength
  · have htext := compares_text left right
    rw [h] at htext
    exact htext

theorem compareIdentifier_eq {left right : List Char}
    (h : compareIdentifier left right = .eq) : left = right := by
  rw [compareIdentifier] at h
  split at h
  · exact compareNumericIdentifier_eq h
  · split at h
    · split at h
      · cases h
      · cases h
    · have htext := compares_text left right
      rw [h] at htext
      exact htext

theorem compareIdentifiers_eq {lefts rights : List (List Char)}
    (h : compareIdentifiers lefts rights = .eq) : lefts = rights := by
  induction lefts generalizing rights with
  | nil =>
      cases rights with
      | nil => rfl
      | cons right rights => exact nomatch h
  | cons left lefts ih =>
      cases rights with
      | nil => exact nomatch h
      | cons right rights =>
          obtain ⟨hfirst, hrest⟩ := Ordering.then_eq_eq.mp h
          rw [compareIdentifier_eq hfirst, ih hrest]

theorem comparePreRelease_eq {left right : Option (List (List Char))}
    (h : comparePreRelease left right = .eq) : left = right := by
  cases left with
  | none =>
      cases right with
      | none => rfl
      | some rights => exact nomatch h
  | some lefts =>
      cases right with
      | none => exact nomatch h
      | some rights => exact congrArg some (compareIdentifiers_eq h)

theorem compareCore_eq {lefts rights : List (List Char)} (hlength : lefts.length = rights.length)
    (h : compareCore lefts rights = .eq) : lefts = rights := by
  induction lefts generalizing rights with
  | nil => exact (List.eq_nil_of_length_eq_zero hlength.symm).symm
  | cons left lefts ih =>
      cases rights with
      | nil => exact nomatch hlength
      | cons right rights =>
          obtain ⟨hfirst, hrest⟩ := Ordering.then_eq_eq.mp h
          rw [compareNumericIdentifier_eq hfirst, ih (Nat.succ.inj hlength) hrest]

namespace Version

/-- **ONLY THE BUILD METADATA** takes no part in the comparison. -/
theorem compare_eq_iff (left right : Version) :
    left.compare right = .eq ↔ left.withoutBuild = right.withoutBuild := by
  rw [← parsed_eq_iff]
  constructor
  · intro h
    obtain ⟨hcore, hpreRelease⟩ := Ordering.then_eq_eq.mp h
    have hleft := (parseSemanticVersion_wellFormed left.parse_eq).length
    have hright := (parseSemanticVersion_wellFormed right.parse_eq).length
    have hsameCore := compareCore_eq (hleft.trans hright.symm) hcore
    exact SemanticVersion.ext hsameCore (comparePreRelease_eq hpreRelease)
  · intro h
    refine (Ordering.Compares.eq_eq (left.compare_compares right)).mpr ?_
    exact congrArg SemanticVersion.precedence h

end Version

/-! ## Updates -/

/-- The version of an accepted build. -/
def AcceptedBuildMetadata.version (build : AcceptedBuildMetadata) : Version :=
  ⟨build.appVersion, build.versionValid⟩

/-- The version of a release. -/
def DesktopReleaseInfo.version (releaseInfo : DesktopReleaseInfo) : Version :=
  ⟨releaseInfo.appVersion, releaseInfo.versionValid⟩

namespace VersionedAcceptedBuildMetadata

/-- The one error of these checks. -/
inductive AcceptedBuildMetadataValidationError
  | invalid
  deriving DecidableEq

/-- What the application accepts is at least what the business accepted. -/
theorem baseline_le (metadata : VersionedAcceptedBuildMetadata) :
    metadata.readAcceptedBusinessBaseline.version.precedence
      ≤ metadata.readAcceptedApplicationBuild.version.precedence := by
  rcases metadata with value | ⟨scope, accepted, baseline, hvalid⟩
  · exact le_refl _
  · cases scope with
    | business =>
        obtain rfl : accepted = baseline := hvalid
        exact le_refl _
    | selector =>
        exact le_of_lt ((Version.compare_eq_gt accepted.version baseline.version).mp hvalid.1)

/-- There is one release channel, so that only the version decides. -/
def createSelectorAcceptedBuildMetadata (previous : VersionedAcceptedBuildMetadata)
    (target : AcceptedBuildMetadata) :
    Except AcceptedBuildMetadataValidationError ScopedAcceptedBuildMetadata :=
  if h : compareSemanticVersions target.appVersion
      previous.readAcceptedApplicationBuild.appVersion target.versionValid
      previous.readAcceptedApplicationBuild.versionValid ≠ .gt then
    .error .invalid
  else
    .ok {
      acceptanceScope := .selector
      acceptedBuild := target
      businessBaseline := previous.readAcceptedBusinessBaseline
      scopeValid := by
        have hgt : target.version.compare previous.readAcceptedApplicationBuild.version = .gt :=
          not_not.mp h
        refine ⟨?_, ?_⟩
        · exact (Version.compare_eq_gt target.version
            previous.readAcceptedBusinessBaseline.version).mpr
            (lt_of_le_of_lt previous.baseline_le ((Version.compare_eq_gt _ _).mp hgt))
        · cases target.releaseChannel
          cases previous.readAcceptedBusinessBaseline.releaseChannel
          rfl }

end VersionedAcceptedBuildMetadata

/-- An update that was admitted as newer, from one accepted version to the next. -/
inductive AdmittedAsNewer : Version → Version → Prop
  | selector {previous : VersionedAcceptedBuildMetadata} {target : AcceptedBuildMetadata}
      {metadata : ScopedAcceptedBuildMetadata}
      (h : previous.createSelectorAcceptedBuildMetadata target = .ok metadata) :
      AdmittedAsNewer previous.readAcceptedApplicationBuild.version target.version
  | directSetup {environment : FirstStartUpdateCoordinator.StartEnvironment}
      {acceptedBuild : AcceptedBuildMetadata} {recovery : Option DirectSetupMigrationRecovery}
      (h : FirstStartUpdateCoordinator.resolveDirectSetupMode environment (some acceptedBuild)
        = .ok (.directSetup recovery)) :
      AdmittedAsNewer acceptedBuild.version environment.releaseInfo.version

theorem AdmittedAsNewer.lt {source target : Version} (h : AdmittedAsNewer source target) :
    source.precedence < target.precedence := by
  rw [← Version.compare_eq_gt]
  cases h with
  | selector h =>
      rw [VersionedAcceptedBuildMetadata.createSelectorAcceptedBuildMetadata] at h
      split at h
      · exact nomatch h
      · next hgt => exact not_not.mp hgt
  | directSetup h =>
      rw [FirstStartUpdateCoordinator.resolveDirectSetupMode] at h
      split at h
      · exact nomatch h
      · split at h
        · exact nomatch h
        · next hgt => exact not_not.mp hgt

/-- **A TOTAL ORDER**: the comparison is the order of precedence, so that it is antisymmetric
    and transitive, tells apart all but the build metadata, and updates that are admitted as
    newer never come back. -/
theorem compareSemanticVersions_order :
    (∀ left right : Version, (left.compare right).Compares left.precedence right.precedence)
      ∧ (∀ left right : Version, right.compare left = (left.compare right).swap)
      ∧ (∀ first second third : Version, first.compare second ≠ .gt →
        second.compare third ≠ .gt → first.compare third ≠ .gt)
      ∧ (∀ left right : Version,
        left.compare right = .eq ↔ left.withoutBuild = right.withoutBuild)
      ∧ ∀ source target : Version, Relation.TransGen AdmittedAsNewer source target →
        target.compare source = .gt ∧ target.withoutBuild ≠ source.withoutBuild := by
  refine ⟨Version.compare_compares, Version.compare_swap,
    fun _ _ _ => Version.compare_trans, Version.compare_eq_iff, ?_⟩
  intro source target h
  have hlt : source.precedence < target.precedence := by
    induction h with
    | single h => exact h.lt
    | tail _ h ih => exact lt_trans ih h.lt
  have hgt := (Version.compare_eq_gt target source).mpr hlt
  refine ⟨hgt, fun hsame => ?_⟩
  exact nomatch hgt.symm.trans ((Version.compare_eq_iff target source).mpr hsame)
