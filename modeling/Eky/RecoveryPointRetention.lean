import Eky.Fallible
import Eky.JavaScript
import Eky.RankedLists
import Mathlib.Data.List.Sort
import Mathlib.Data.List.Lex

/-! # Which recovery points are kept

    `planRecoveryPointRetention` keeps a number of points of each kind and then deletes the
    oldest ones until the rest fits the disk budget.  Points in use, the newest point and
    the newest ones made before a restore or an update are protected.

    Sizes are numbers of JavaScript: sums beyond the safe range are rounded (`number`). -/

namespace RecoveryPointRetention

open Fallible RankedList

/-! ## The points -/

/-- Why a recovery point was made. -/
inductive RecoveryPointKind
  | daily
  | manual
  | monthly
  | preRestore
  | preUpdate
  | weekly
  deriving DecidableEq

/-- `artifactIdPattern` -/
def isArtifactId : String → Bool := JavaScript.isUuid ['1', '2', '3', '4', '5']

/-- An entry of the index.  A date is the time value of its ISO text. -/
structure RecoveryPointIndexEntry where
  artifactId : String
  byteSize : Int
  createdAt : Int
  kind : RecoveryPointKind
  validatedAt : Int
  artifactId_valid : isArtifactId artifactId = true
  byteSize_valid : 1 ≤ byteSize ∧ byteSize ≤ maximumSafeInteger
  deriving DecidableEq

/-! ## Numbers and texts -/

/-- The number of 53 bits nearest to an integer, the even one of two. -/
def number (n : Int) : Int :=
  let spacing := 2 ^ (Nat.log2 n.natAbs - 52)
  let lower := n.natAbs / spacing
  let rest := n.natAbs % spacing
  let nearest := if 2 * rest < spacing ∨ 2 * rest = spacing ∧ lower % 2 = 0 then lower
    else lower + 1
  n.sign * (nearest * spacing : Nat)

/-- The letters of a text without their case. -/
def primaryKey (text : String) : List Nat := text.toList.map fun c => c.toLower.toNat

/-- The case of the letters, capitals last. -/
def caseKey (text : String) : List Nat := text.toList.map fun c => if c.isUpper then 1 else 0

/-- `first.localeCompare(second, 'en')` for texts of digits, hyphens and letters: the case
    counts only where the letters agree. -/
def localeCompare (first second : String) : Int :=
  if primaryKey first < primaryKey second then -1
  else if primaryKey second < primaryKey first then 1
  else if caseKey first < caseKey second then -1
  else if caseKey second < caseKey first then 1
  else 0

/-- The order of the points. -/
def compareNewestFirst (first second : RecoveryPointIndexEntry) : Int :=
  if second.validatedAt - first.validatedAt ≠ 0 then second.validatedAt - first.validatedAt
  else if second.createdAt - first.createdAt ≠ 0 then second.createdAt - first.createdAt
  else localeCompare second.artifactId first.artifactId

/-! ## The plan -/

/-- Bytes that the points may take. -/
def recoveryPointDiskBudgetBytes : Int := 2 * 1024 * 1024 * 1024

/-- Points of a kind that are kept. -/
def retentionLimits : RecoveryPointKind → Nat
  | .daily => 7
  | .manual => 3
  | .monthly => 6
  | .preRestore => 2
  | .preUpdate => 3
  | .weekly => 4

/-- `Object.keys(retentionLimits)` -/
def recoveryPointKinds : List RecoveryPointKind :=
  [.daily, .manual, .monthly, .preRestore, .preUpdate, .weekly]

/-- What is kept and what is deleted. -/
structure RecoveryPointRetentionPlan where
  budgetExceededAfterRotation : Bool
  deleteArtifactIds : List String
  protectedArtifactIds : List String
  retainedByteSize : Int
  deriving DecidableEq

/-- The options of the plan. -/
structure RetentionOptions where
  activeProtectedArtifactIds : Option (List String) := none
  diskBudgetBytes : Option Int := none

/-- The points in use. -/
def RetentionOptions.active (options : RetentionOptions) : List String :=
  options.activeProtectedArtifactIds.getD []

/-- The budget. -/
def RetentionOptions.budget (options : RetentionOptions) : Int :=
  options.diskBudgetBytes.getD recoveryPointDiskBudgetBytes

/-- `[...points].sort(compareNewestFirst)` -/
def sortNewestFirst (points : List RecoveryPointIndexEntry) : List RecoveryPointIndexEntry :=
  points.insertionSort fun first second => compareNewestFirst first second ≤ 0

/-- The newest point of a kind, if there is one. -/
def protectNewestKind (points : List RecoveryPointIndexEntry) (kind : RecoveryPointKind) :
    List String :=
  ((points.find? (·.kind = kind)).map (·.artifactId)).toList

/-- The points that are never deleted. -/
def protectedIds (newestFirst : List RecoveryPointIndexEntry) (active : List String) :
    List String :=
  active.filter (· ∈ newestFirst.map (·.artifactId))
    ++ (newestFirst.head?.map (·.artifactId)).toList
    ++ protectNewestKind newestFirst .preRestore
    ++ protectNewestKind newestFirst .preUpdate

/-- The points of every kind beyond its limit, unless they are protected. -/
def idsBeyondLimits (newestFirst : List RecoveryPointIndexEntry) (isProtected : List String) :
    List String :=
  recoveryPointKinds.flatMap fun kind =>
    (((newestFirst.filter (·.kind = kind)).drop (retentionLimits kind)).filter
      (·.artifactId ∉ isProtected)).map (·.artifactId)

/-- The sum of the sizes of the points that are not deleted. -/
def retainedSize (newestFirst : List RecoveryPointIndexEntry) (deleteIds : List String) : Int :=
  newestFirst.foldl
    (fun sum point => if point.artifactId ∈ deleteIds then sum else number (sum + point.byteSize)) 0

/-- The plan while it is made. -/
structure RotationState where
  deleteIds : List String
  retainedByteSize : Int
  deriving DecidableEq

/-- One pass of the loop over the points, the oldest first. -/
def rotateStep (diskBudgetBytes : Int) (isProtected : List String) (state : RotationState)
    (point : RecoveryPointIndexEntry) : RotationState :=
  if state.retainedByteSize ≤ diskBudgetBytes ∨ point.artifactId ∈ state.deleteIds
      ∨ point.artifactId ∈ isProtected then state
  else ⟨state.deleteIds ++ [point.artifactId], number (state.retainedByteSize - point.byteSize)⟩

/-- Deletes the oldest points of the unprotected until the budget is met. -/
def rotate (newestFirst : List RecoveryPointIndexEntry) (diskBudgetBytes : Int)
    (isProtected : List String) (state : RotationState) : RotationState :=
  if state.retainedByteSize > diskBudgetBytes then
    newestFirst.reverse.foldl (rotateStep diskBudgetBytes isProtected) state
  else state

/-- The plan for points that are sorted already. -/
def planSorted (newestFirst : List RecoveryPointIndexEntry) (active : List String)
    (diskBudgetBytes : Int) : RecoveryPointRetentionPlan :=
  let isProtected := protectedIds newestFirst active
  let beyond := idsBeyondLimits newestFirst isProtected
  let state := rotate newestFirst diskBudgetBytes isProtected
    ⟨beyond, retainedSize newestFirst beyond⟩
  { budgetExceededAfterRotation := state.retainedByteSize > diskBudgetBytes
    deleteArtifactIds :=
      ((newestFirst.filter (·.artifactId ∈ state.deleteIds)).reverse).map (·.artifactId)
    protectedArtifactIds :=
      (newestFirst.filter (·.artifactId ∈ isProtected)).map (·.artifactId)
    retainedByteSize := state.retainedByteSize }

/-- The plan. -/
def planRecoveryPointRetention (points : List RecoveryPointIndexEntry)
    (options : RetentionOptions) : Except String RecoveryPointRetentionPlan := do
  throwIf (options.budget > maximumSafeInteger ∨ options.budget < 1)
    "RECOVERY_POINT_RETENTION_INVALID"
  .ok (planSorted (sortNewestFirst points) options.active options.budget)

end RecoveryPointRetention
