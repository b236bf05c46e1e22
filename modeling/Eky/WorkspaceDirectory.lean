import Mathlib.Data.List.Perm.Basic

/-! # The directory of a workspace

    A workspace is prepared in the directory of an operation and then renamed, as a
    whole, to its place.  This file has what can be in these directories and the checks
    of `workspaceCreationRootStore.ts`, which list them: what is published has exactly
    the entries of a workspace, what is discarded has none but those. -/

/-- What SQLite keeps beside a database. -/
inductive SqliteSideFile
  | journal
  | wal
  | shm
  deriving DecidableEq

/-- The name of a side file. -/
def SqliteSideFile.name : SqliteSideFile → String
  | .journal => "eky.sqlite-journal"
  | .wal => "eky.sqlite-wal"
  | .shm => "eky.sqlite-shm"

/-- `data`; of the database there is the size. -/
structure DataDirectory where
  database : Option Nat
  sideFiles : List SqliteSideFile
  deriving DecidableEq

/-- `storage`, where `invoices` has documents. -/
structure StorageDirectory where
  invoices : Option (List String)
  deriving DecidableEq

/-- The directory of the runtime. -/
structure RuntimeDirectory where
  data : Option DataDirectory
  storage : Option StorageDirectory
  deriving DecidableEq

/-- The root of a workspace, or of the candidate for one. -/
structure WorkspaceDirectory where
  importStaging : Option (List String)
  runtime : Option RuntimeDirectory
  deriving DecidableEq

/-- The directory of an operation, with the candidate in it. -/
structure OperationDirectory where
  candidate : Option WorkspaceDirectory
  deriving DecidableEq

/-- `readdir`, where a name stands for a part that may be missing. -/
def entriesOf {α : Type} (name : String) (part : Option α) : List String :=
  (part.map fun _ => name).toList

namespace DataDirectory

/-- The names in it. -/
def entries (directory : DataDirectory) : List String :=
  entriesOf "eky.sqlite" directory.database ++ directory.sideFiles.map SqliteSideFile.name

end DataDirectory

namespace StorageDirectory

/-- The names in it. -/
def entries (directory : StorageDirectory) : List String := entriesOf "invoices" directory.invoices

end StorageDirectory

namespace RuntimeDirectory

/-- The names in it. -/
def entries (directory : RuntimeDirectory) : List String :=
  entriesOf "data" directory.data ++ entriesOf "storage" directory.storage

/-- The documents of the workspace. -/
def documents (directory : RuntimeDirectory) : List String :=
  match directory.storage with
  | some ⟨some invoices⟩ => invoices
  | _ => []

/-- What SQLite has left beside the database. -/
def sideFiles (directory : RuntimeDirectory) : List SqliteSideFile :=
  match directory.data with
  | some data => data.sideFiles
  | none => []

end RuntimeDirectory

/-! ## What is checked -/

/-- `assertExactEntries` -/
def ExactEntries (entries expected : List String) : Prop := entries.Perm expected

instance (entries expected : List String) : Decidable (ExactEntries entries expected) :=
  inferInstanceAs (Decidable (List.Perm _ _))

/-- `assertPartialDirectory` -/
def PartialEntries (entries allowed : List String) : Prop := ∀ entry ∈ entries, entry ∈ allowed

instance (entries allowed : List String) : Decidable (PartialEntries entries allowed) :=
  inferInstanceAs (Decidable (∀ entry ∈ entries, _))

namespace WorkspaceDirectory

/-- The names in it. -/
def entries (directory : WorkspaceDirectory) : List String :=
  entriesOf "import-staging" directory.importStaging ++ entriesOf "runtime" directory.runtime

/-- `inspectWorkspaceLayout` -/
def inspectLayout (directory : WorkspaceDirectory) : Bool :=
  directory.runtime.any fun runtime =>
    runtime.data.any fun data =>
      runtime.storage.any fun storage =>
        storage.invoices.any fun invoices =>
          ExactEntries directory.entries ["runtime"] ∧
          ExactEntries runtime.entries ["data", "storage"] ∧
          ExactEntries data.entries ["eky.sqlite"] ∧
          ExactEntries storage.entries ["invoices"] ∧
          ExactEntries invoices [] ∧
          data.database.any fun size => 1 ≤ size

/-- The side files in it. -/
def sideFiles (directory : WorkspaceDirectory) : List SqliteSideFile :=
  match directory.runtime with
  | some runtime => runtime.sideFiles
  | none => []

end WorkspaceDirectory

namespace OperationDirectory

/-- `assertSafePartialOperationTree` -/
def safePartialTree (directory : OperationDirectory) : Bool :=
  directory.candidate.all fun candidate =>
    PartialEntries candidate.entries ["runtime"] ∧
    candidate.runtime.all fun runtime =>
      PartialEntries runtime.entries ["data", "storage"] ∧
      (runtime.data.all fun data => PartialEntries data.entries ["eky.sqlite"]) ∧
      runtime.storage.all fun storage =>
        PartialEntries storage.entries ["invoices"] ∧
        storage.invoices.all fun invoices => PartialEntries invoices []

/-- The side files in it. -/
def sideFiles (directory : OperationDirectory) : List SqliteSideFile :=
  match directory.candidate with
  | some candidate => candidate.sideFiles
  | none => []

end OperationDirectory

/-! ## What is changed -/

/-- A directory of the candidate. -/
inductive CandidatePath
  | candidate
  | runtime
  | data
  | storage
  | invoices
  deriving DecidableEq

/-- What `rm` comes across in the directory of an operation. -/
inductive TreeItem
  | directory (path : CandidatePath)
  | importStaging
  | database
  | sideFile (file : SqliteSideFile)
  | document (name : String)
  deriving DecidableEq

namespace RuntimeDirectory

/-- The directory without an item. -/
def remove (item : TreeItem) (runtime : RuntimeDirectory) : RuntimeDirectory :=
  match item with
  | .directory .data => { runtime with data := none }
  | .directory .storage => { runtime with storage := none }
  | .directory .invoices => { runtime with storage := runtime.storage.map fun _ => ⟨none⟩ }
  | .database => { runtime with
      data := runtime.data.map fun data => { data with database := none } }
  | .sideFile file => { runtime with
      data := runtime.data.map fun data => { data with sideFiles := data.sideFiles.erase file } }
  | .document name => { runtime with
      storage := runtime.storage.map fun storage =>
        ⟨storage.invoices.map fun invoices => invoices.erase name⟩ }
  | .directory _ | .importStaging => runtime

end RuntimeDirectory

/-- The directory without an item. -/
def WorkspaceDirectory.remove (item : TreeItem) (directory : WorkspaceDirectory) :
    WorkspaceDirectory :=
  match item with
  | .directory .runtime => { directory with runtime := none }
  | .importStaging => { directory with importStaging := none }
  | item => { directory with runtime := directory.runtime.map (·.remove item) }

namespace OperationDirectory

/-- A new and empty directory of the candidate; `none` if it is there already, or the one
    that it would be in is not. -/
def makeDirectory (path : CandidatePath) (directory : OperationDirectory) :
    Option OperationDirectory :=
  match path, directory with
  | .candidate, ⟨none⟩ => some ⟨some ⟨none, none⟩⟩
  | .runtime, ⟨some ⟨staging, none⟩⟩ => some ⟨some ⟨staging, some ⟨none, none⟩⟩⟩
  | .data, ⟨some ⟨staging, some ⟨none, storage⟩⟩⟩ =>
    some ⟨some ⟨staging, some ⟨some ⟨none, []⟩, storage⟩⟩⟩
  | .storage, ⟨some ⟨staging, some ⟨data, none⟩⟩⟩ =>
    some ⟨some ⟨staging, some ⟨data, some ⟨none⟩⟩⟩⟩
  | .invoices, ⟨some ⟨staging, some ⟨data, some ⟨none⟩⟩⟩⟩ =>
    some ⟨some ⟨staging, some ⟨data, some ⟨some []⟩⟩⟩⟩
  | _, _ => none

/-- What is in the data directory, if there is one, is replaced. -/
def withData (data : DataDirectory) (directory : OperationDirectory) : OperationDirectory :=
  ⟨directory.candidate.map fun candidate => { candidate with
    runtime := candidate.runtime.map fun runtime => { runtime with
      data := runtime.data.map fun _ => data } }⟩

/-- An item is removed, with all that it has in it. -/
def remove (item : TreeItem) (directory : OperationDirectory) : OperationDirectory :=
  match item with
  | .directory .candidate => ⟨none⟩
  | item => ⟨directory.candidate.map (·.remove item)⟩

end OperationDirectory

/-! ## What the checks let through -/

theorem mem_entriesOf {α : Type} {name entry : String} {part : Option α} :
    entry ∈ entriesOf name part ↔ part.isSome ∧ entry = name := by
  cases part <;> simp [entriesOf]

theorem partialEntries_append {entries others allowed : List String} :
    PartialEntries (entries ++ others) allowed ↔
      PartialEntries entries allowed ∧ PartialEntries others allowed :=
  List.forall_mem_append

/-- A part of the directory that is allowed to be there. -/
theorem partialEntries_entriesOf {α : Type} {name : String} {part : Option α}
    {allowed : List String} (h : name ∈ allowed) : PartialEntries (entriesOf name part) allowed :=
  fun _ hentry => (mem_entriesOf.mp hentry).2 ▸ h

theorem SqliteSideFile.name_ne (file : SqliteSideFile) : file.name ≠ "eky.sqlite" := by
  cases file <;> decide

/-- Beside the database nothing is allowed, not even what SQLite has put there. -/
theorem DataDirectory.partialEntries_iff {data : DataDirectory} :
    PartialEntries data.entries ["eky.sqlite"] ↔ data.sideFiles = [] := by
  rw [DataDirectory.entries, partialEntries_append]
  constructor
  · rintro ⟨_, hfiles⟩
    refine List.eq_nil_iff_forall_not_mem.mpr fun file hfile => ?_
    have hname := hfiles file.name (List.mem_map_of_mem hfile)
    exact file.name_ne (List.mem_singleton.mp hname)
  · intro h
    refine ⟨partialEntries_entriesOf (by simp), ?_⟩
    rw [h]
    exact nofun

theorem DataDirectory.exactEntries_iff {data : DataDirectory} :
    ExactEntries data.entries ["eky.sqlite"] ↔ data.database.isSome ∧ data.sideFiles = [] := by
  constructor
  · intro h
    have hfiles : data.sideFiles = [] :=
      DataDirectory.partialEntries_iff.mp fun entry hentry => h.subset hentry
    have hmem : "eky.sqlite" ∈ data.entries := h.symm.subset List.mem_cons_self
    rw [DataDirectory.entries, hfiles, List.map_nil, List.append_nil, mem_entriesOf] at hmem
    exact ⟨hmem.1, hfiles⟩
  · obtain ⟨_ | size, sideFiles⟩ := data
    · rintro ⟨hsome, _⟩
      cases hsome
    · rintro ⟨_, hfiles⟩
      cases (hfiles : sideFiles = [])
      exact List.Perm.refl _

/-! ## What the directory of a creation has -/

namespace RuntimeDirectory

variable {runtime : RuntimeDirectory} {item : TreeItem}

theorem documents_remove (h : runtime.documents = []) : (runtime.remove item).documents = [] := by
  obtain ⟨data, _ | ⟨_ | invoices⟩⟩ := runtime
  case some.some =>
    cases (h : invoices = [])
    cases item with
    | directory path => cases path <;> rfl
    | importStaging | database | sideFile | document => rfl
  all_goals
    cases item with
    | directory path => cases path <;> rfl
    | importStaging | database | sideFile | document => rfl

end RuntimeDirectory

namespace WorkspaceDirectory

/-- Nothing has been imported: there is no staged backup, and there are no documents. -/
structure CreatedOnly (directory : WorkspaceDirectory) : Prop where
  staging : directory.importStaging = none
  documents : ∀ runtime ∈ directory.runtime, runtime.documents = []

variable {directory : WorkspaceDirectory} {item : TreeItem}

theorem CreatedOnly.mapRuntime {f : RuntimeDirectory → RuntimeDirectory}
    (h : directory.CreatedOnly)
    (hf : ∀ runtime, runtime.documents = [] → (f runtime).documents = []) :
    CreatedOnly { directory with runtime := directory.runtime.map f } := by
  refine ⟨h.staging, fun runtime hruntime => ?_⟩
  obtain ⟨before, hbefore, rfl⟩ := Option.map_eq_some_iff.mp hruntime
  exact hf before (h.documents before hbefore)

theorem CreatedOnly.remove (h : directory.CreatedOnly) : (directory.remove item).CreatedOnly := by
  unfold WorkspaceDirectory.remove
  split
  · exact ⟨h.staging, nofun⟩
  · exact ⟨rfl, h.documents⟩
  · exact h.mapRuntime fun _ => RuntimeDirectory.documents_remove

end WorkspaceDirectory

namespace OperationDirectory

/-- The candidate, if there is one, has not been imported. -/
def CreatedOnly (directory : OperationDirectory) : Prop :=
  ∀ candidate ∈ directory.candidate, candidate.CreatedOnly

variable {directory other : OperationDirectory} {path : CandidatePath} {item : TreeItem}

theorem createdOnly_empty : CreatedOnly ⟨none⟩ := nofun

theorem CreatedOnly.makeDirectory (h : directory.CreatedOnly)
    (hmade : directory.makeDirectory path = some other) : other.CreatedOnly := by
  unfold OperationDirectory.makeDirectory at hmade
  split at hmade <;> cases hmade <;> rintro _ ⟨⟩
  · exact ⟨rfl, nofun⟩
  · have hcandidate := h _ rfl
    refine ⟨hcandidate.staging, ?_⟩
    rintro _ ⟨⟩
    rfl
  · have hcandidate := h _ rfl
    have hdocuments := hcandidate.documents _ rfl
    refine ⟨hcandidate.staging, ?_⟩
    rintro _ ⟨⟩
    exact hdocuments
  · have hcandidate := h _ rfl
    refine ⟨hcandidate.staging, ?_⟩
    rintro _ ⟨⟩
    rfl
  · have hcandidate := h _ rfl
    refine ⟨hcandidate.staging, ?_⟩
    rintro _ ⟨⟩
    rfl

theorem CreatedOnly.withData {data : DataDirectory} (h : directory.CreatedOnly) :
    (directory.withData data).CreatedOnly := by
  intro candidate hcandidate
  obtain ⟨before, hbefore, rfl⟩ := Option.map_eq_some_iff.mp hcandidate
  exact (h before hbefore).mapRuntime fun _ hdocuments => hdocuments

theorem CreatedOnly.remove (h : directory.CreatedOnly) : (directory.remove item).CreatedOnly := by
  unfold OperationDirectory.remove
  split
  · exact createdOnly_empty
  · intro candidate hcandidate
    obtain ⟨before, hbefore, rfl⟩ := Option.map_eq_some_iff.mp hcandidate
    exact (h before hbefore).remove

/-- The tree of a creation is safe to discard unless SQLite has left something in it. -/
theorem safePartialTree_iff (h : directory.CreatedOnly) :
    directory.safePartialTree ↔ directory.sideFiles = [] := by
  obtain ⟨_ | ⟨staging, runtime⟩⟩ := directory
  · exact iff_of_true rfl rfl
  obtain ⟨hstaging, hdocuments⟩ := h _ rfl
  cases (hstaging : staging = none)
  rcases runtime with _ | ⟨data, storage⟩
  · exact iff_of_true (by decide) rfl
  have hruntime : PartialEntries (RuntimeDirectory.entries ⟨data, storage⟩) ["data", "storage"] :=
    partialEntries_append.mpr
      ⟨partialEntries_entriesOf (by simp), partialEntries_entriesOf (by simp)⟩
  have hstorage : (storage.all fun storage =>
      PartialEntries storage.entries ["invoices"] ∧
      storage.invoices.all fun invoices => PartialEntries invoices []) = true := by
    rcases storage with _ | ⟨_ | invoices⟩
    · rfl
    · decide
    · cases (hdocuments _ rfl : invoices = [])
      decide
  have hdata : (data.all fun data => PartialEntries data.entries ["eky.sqlite"]) = true ↔
      sideFiles ⟨some ⟨none, some ⟨data, storage⟩⟩⟩ = [] := by
    rcases data with _ | data
    · exact iff_of_true rfl rfl
    · exact decide_eq_true_iff.trans DataDirectory.partialEntries_iff
  rw [← hdata]
  simp only [safePartialTree, Option.all_some, hruntime, hstorage, and_true, true_and,
    decide_eq_true_eq]
  have hroot : PartialEntries (WorkspaceDirectory.entries ⟨none, some ⟨data, storage⟩⟩)
      ["runtime"] :=
    partialEntries_append.mpr ⟨nofun, partialEntries_entriesOf (by simp)⟩
  exact and_iff_right hroot

end OperationDirectory

/-- What `inspectWorkspaceLayout` lets through: a database that is not empty, and nothing
    else. -/
def WorkspaceDirectory.Complete (directory : WorkspaceDirectory) : Prop :=
  ∃ size, 1 ≤ size ∧ directory = ⟨none, some ⟨some ⟨some size, []⟩, some ⟨some []⟩⟩⟩

theorem WorkspaceDirectory.inspectLayout_iff {directory : WorkspaceDirectory} :
    directory.inspectLayout ↔ directory.Complete := by
  constructor
  · intro h
    obtain ⟨staging, _ | ⟨_ | data, _ | ⟨_ | invoices⟩⟩⟩ := directory
    case mp.some.some.some.some =>
      simp only [inspectLayout, Option.any_some, decide_eq_true_eq] at h
      obtain ⟨hroot, _, hdata, _, hdocuments, hsize⟩ := h
      have hstaging : staging = none := by
        cases staging with
        | none => rfl
        | some _ => exact absurd (List.Perm.length_eq hroot) (Nat.succ_ne_self 1)
      obtain ⟨database, sideFiles⟩ := data
      cases database with
      | none => cases hsize
      | some size =>
          refine ⟨size, of_decide_eq_true hsize, ?_⟩
          rw [hstaging, List.Perm.eq_nil hdocuments,
            show sideFiles = [] from (DataDirectory.exactEntries_iff.mp hdata).2]
    all_goals simp [inspectLayout] at h
  · rintro ⟨size, hsize, rfl⟩
    simp only [inspectLayout, Option.any_some, decide_eq_true_eq]
    exact ⟨List.Perm.refl _, List.Perm.refl _, List.Perm.refl _, List.Perm.refl _,
      List.Perm.refl _, hsize⟩
