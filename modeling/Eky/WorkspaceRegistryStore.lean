import Eky.ByteSlotHistory
import Eky.WorkspaceRegistryBytes

/-! # The store of the workspace registry

    `WorkspaceRegistryStore` is the byte slot store over the bytes of a registry.  A read
    is a recovery.  A write validates and serializes its value, recovers, and replaces what
    the recovery has answered.  The serializer refuses what the reader would not take, so
    what is written is read back, and a registry in the second format is never followed by
    one in the first, through every run of reads and writes with failures and crashes. -/

namespace WorkspaceRegistryStore

open Program CrashSafe StoredValue WorkspaceRegistry

/-! ## The operations -/

/-- The two kinds of errors that reach a caller of the store; a store that is busy throws
    before it does anything. -/
inductive StoreFailure
  | invalid
  | unavailable
  deriving DecidableEq

/-- The texts of `WorkspaceRegistryValidationError` and `WorkspaceRegistryStoreError`. -/
def StoreFailure.message : StoreFailure → String
  | .invalid => "WORKSPACE_REGISTRY_INVALID"
  | .unavailable => "WORKSPACE_REGISTRY_UNAVAILABLE"

/-- Only a damaged file or a refused registry counts as invalid. -/
def mapStoreError : StoreError Unit → StoreFailure
  | .fileSlot .invalid => .invalid
  | .fileSlot .unavailable => .unavailable
  | .byteSlotUnavailable => .unavailable
  | .validation () => .invalid

/-- What the validation and the serializer throw is the error of an invalid registry. -/
def orInvalid {α : Type} : Option α → Except StoreFailure α
  | some a => .ok a
  | none => .error .invalid

/-- `parseWorkspaceRegistryBytes` as the validator of the slots. -/
def validateBytes (bytes : Bytes) : Except Unit WorkspaceRegistry :=
  match parseWorkspaceRegistryBytes ⟨bytes.toArray⟩ with
  | some registry => .ok registry
  | none => .error ()

/-- A program over the registry's files. -/
abbrev StoreProgram (α : Type) : Type := Program Slots Fate StoreFailure α

/-- `WorkspaceRegistryStore.read` -/
def read : StoreProgram (Option WorkspaceRegistry) :=
  Program.mapError mapStoreError (CrashSafe.recoverAndRead maximumBytes validateBytes)

/-- `WorkspaceRegistryStore.write` -/
def write (value : Json.Value) : StoreProgram Unit := do
  let registry ← Program.ofExcept (orInvalid (validateWorkspaceRegistry value))
  let bytes ← Program.ofExcept (orInvalid (serializeWorkspaceRegistry registry.toValue))
  let current ← read
  if current.map WorkspaceRegistry.formatVersion = some .v2 ∧ registry.formatVersion = .v1 then
    throw .invalid
  Program.mapError mapStoreError (CrashSafe.replace bytes.data.toList current.isSome)

/-! ## What the slots stand for -/

/-- The bytes are read back as the registry. -/
abbrev StoresRegistry : Bytes → WorkspaceRegistry → Prop := Stores maximumBytes validateBytes

/-- The file that a recovery goes by holds a registry with the property, and a crash in a
    recovery or a replacement does not make it go by another one. -/
def Keeps (P : WorkspaceRegistry → Prop) (s : Slots) : Prop :=
  s.Recoverable fun b => ∃ registry, StoresRegistry b registry ∧ P registry

variable {P Q : WorkspaceRegistry → Prop} {s t u : Slots} {registry : WorkspaceRegistry}

theorem some_of_orInvalid {α : Type} {o : Option α} {a : α} (h : orInvalid o = .ok a) :
    o = some a := by
  cases o with
  | some b => exact congrArg some (Except.ok.inj h)
  | none => exact nomatch h

/-- A file of a readable registry is not empty and not too long. -/
theorem readable_of_parse {bytes : ByteArray}
    (h : parseWorkspaceRegistryBytes bytes = some registry) :
    1 ≤ bytes.size ∧ bytes.size ≤ maximumBytes := by
  unfold parseWorkspaceRegistryBytes at h
  split at h
  · exact nomatch h
  · next hsize => omega

variable {value : Json.Value} {answer : Option WorkspaceRegistry}

/-- What the serializer makes of a valid registry is read back as that registry. -/
theorem stores_serialized {bytes : ByteArray}
    (hvalid : validateWorkspaceRegistry value = some registry)
    (hbytes : serializeWorkspaceRegistry registry.toValue = some bytes) :
    StoresRegistry bytes.data.toList registry := by
  obtain ⟨written, hwritten, -, hparse⟩ := parse_of_serialize (storable_of_validate hvalid)
  obtain rfl : written = bytes := Option.some.inj (hwritten.symm.trans hbytes)
  have hlength : written.data.toList.length = written.size := Array.length_toList
  have hread : validateBytes written.data.toList = .ok registry := by
    rw [validateBytes, Array.toArray_toList, hparse]
  refine ⟨?_, hread⟩
  rw [ReadableSize, hlength]
  exact readable_of_parse hparse

theorem Keeps.mono (h : Keeps P s) (hPQ : ∀ registry, P registry → Q registry) : Keeps Q s :=
  Slots.Recoverable.mono h fun _ ⟨registry, hstores, hP⟩ => ⟨registry, hstores, hPQ registry hP⟩

/-- A store with nothing but a current file keeps what that file says. -/
theorem keeps_only {b : Bytes} (hstores : StoresRegistry b registry) (hP : P registry) :
    Keeps P (Slots.only b) :=
  Slots.recoverable_current ⟨registry, hstores, hP⟩

/-- What a recovery answers comes from the file that the slots are kept by. -/
theorem recovered_of_keeps (h : Keeps P s) (hrecovered : Recovered StoresRegistry s answer t) :
    ∃ b registry, answer = some registry ∧ P registry ∧ StoresRegistry b registry ∧
      t = Slots.only b := by
  obtain ⟨b, ⟨registry, hstores, hP⟩, hselected⟩ := selected_of_recoverable h
  cases answer with
  | none =>
      rw [hrecovered.1, selected_empty] at hselected
      exact nomatch hselected
  | some found =>
      obtain ⟨c, hc, hfound, ht⟩ := hrecovered
      obtain rfl : b = c := Option.some.inj (hselected.symm.trans hc)
      obtain rfl : registry = found := stores_unique b registry found hstores hfound
      exact ⟨b, registry, rfl, hP, hstores, ht⟩

/-! ## One operation -/

/-- A read answers the registry that is kept, and leaves it behind however it ends. -/
theorem wp_read (h : Keeps P s) :
    wp AnyFate read ⟨fun answer t => ∃ b registry, answer = some registry ∧ P registry ∧
      StoresRegistry b registry ∧ t = Slots.only b, fun _ => Keeps P, Keeps P⟩ s := by
  refine wp_mapError ((wp_recoverAndRead trivial).mono ?_ ?_ ?_)
  · exact fun _ _ => recovered_of_keeps h
  · exact fun _ _ ht => ht.recoverable _ h
  · exact fun _ ht => ht.recoverable _ h

/-- A write that returns leaves its registry; one that does not leaves it or the old one.
    `P` has to hold of a registry that may follow an old one with `P`. -/
theorem wp_write (h : Keeps P s)
    (hnext : ∀ old registry, P old → validateWorkspaceRegistry value = some registry →
      ¬(old.formatVersion = .v2 ∧ registry.formatVersion = .v1) → P registry) :
    wp AnyFate (write value)
      ⟨fun _ => Keeps fun registry => P registry ∧ validateWorkspaceRegistry value = some registry,
        fun _ => Keeps P, Keeps P⟩ s := by
  refine wp_bind (wp_ofExcept (fun registry hvalid => ?_) fun _ _ => h)
  refine wp_bind (wp_ofExcept (fun bytes hbytes => ?_) fun _ _ => h)
  have hvalid : validateWorkspaceRegistry value = some registry := some_of_orInvalid hvalid
  have hstores := stores_serialized hvalid (some_of_orInvalid hbytes)
  refine wp_bind ((wp_read h).mono ?_ (fun _ _ ht => ht) fun _ ht => ht)
  rintro _ _ ⟨b, old, rfl, hold, hb, rfl⟩
  dsimp only
  split
  · -- The registry is in the second format and stays: nothing is replaced.
    exact wp_bind (wp_throw (keeps_only hb hold))
  · next hformat =>
      have hP : P registry := hnext old registry hold hvalid (by simpa using hformat)
      have hleft : ∀ t, Left (some b) bytes.data.toList t → Keeps P t := fun t ht =>
        (ht b rfl).mono fun c hc => by
          rcases hc with rfl | rfl
          · exact ⟨old, hb, hold⟩
          · exact ⟨registry, hstores, hP⟩
      refine wp_mapError ((wp_replace trivial).mono ?_ (fun _ => hleft) hleft)
      rintro _ _ rfl
      exact keeps_only hstores ⟨hP, hvalid⟩

/-- A read answers what is kept. -/
theorem answer_of_keeps (h : Keeps P s) (hends : Ends read s (.returned answer) t) :
    ∃ registry, answer = some registry ∧ P registry := by
  obtain ⟨-, registry, hanswer, hP, -⟩ := (wp_read h).ends hends
  exact ⟨registry, hanswer, hP⟩

/-- What a read has answered is kept, whatever the files held before. -/
theorem keeps_of_read (hends : Ends read s (.returned (some registry)) t) :
    Keeps (· = registry) t := by
  rcases ends_mapError hends with ⟨_, hread, ⟨⟩⟩ | ⟨_, -, hthrew⟩ | ⟨-, hstopped⟩
  · have hwp : wp AnyFate (CrashSafe.recoverAndRead maximumBytes validateBytes) _ s :=
      wp_recoverAndRead trivial
    obtain ⟨b, -, hstores, rfl⟩ := hwp.ends hread
    exact keeps_only hstores rfl
  · exact nomatch hthrew
  · exact nomatch hstopped

/-- **A WRITE LOSES NOTHING**: however a write of a store with a registry ends, every later
    read that returns answers that registry or the one that was written, and the one that was
    written once the write has returned. -/
theorem registry_survives_write {old : WorkspaceRegistry} {outcome : Outcome StoreFailure Unit}
    (h : Keeps (· = old) s) (hwrite : Ends (write value) s outcome t)
    (hread : Ends read t (.returned answer) u) : ∃ registry, answer = some registry ∧
      (validateWorkspaceRegistry value = some registry ∨
        outcome ≠ .returned () ∧ registry = old) := by
  have hkeeps : Keeps (fun registry => registry = old ∨
      validateWorkspaceRegistry value = some registry) s := h.mono fun _ => .inl
  have hends := (wp_write hkeeps fun _ _ _ hvalid _ => .inr hvalid).ends hwrite
  cases outcome with
  | returned _ =>
      obtain ⟨registry, hanswer, -, hvalid⟩ := answer_of_keeps hends hread
      exact ⟨registry, hanswer, .inl hvalid⟩
  | threw _ =>
      obtain ⟨registry, hanswer, hregistry⟩ := answer_of_keeps hends hread
      exact ⟨registry, hanswer, hregistry.symm.imp id fun hold => ⟨nofun, hold⟩⟩
  | stopped =>
      obtain ⟨registry, hanswer, hregistry⟩ := answer_of_keeps hends hread
      exact ⟨registry, hanswer, hregistry.symm.imp id fun hold => ⟨nofun, hold⟩⟩

/-! ## Whole runs -/

/-- One call of the store, however it ends. -/
inductive RegistryStep : Slots → Slots → Prop
  | read {s t : Slots} {outcome : Outcome StoreFailure (Option WorkspaceRegistry)}
      (h : Ends WorkspaceRegistryStore.read s outcome t) : RegistryStep s t
  | write {s t : Slots} {value : Json.Value} {outcome : Outcome StoreFailure Unit}
      (h : Ends (WorkspaceRegistryStore.write value) s outcome t) : RegistryStep s t

/-- The second format. -/
def IsSecondFormat (registry : WorkspaceRegistry) : Prop := registry.formatVersion = .v2

/-- A registry of the second format is followed by another one only if that is of the second
    format, too. -/
theorem keeps_format_of_step (h : Keeps IsSecondFormat s) (hstep : RegistryStep s t) :
    Keeps IsSecondFormat t := by
  cases hstep with
  | @read outcome hends =>
      have hread := (wp_read h).ends hends
      cases outcome with
      | returned _ =>
          obtain ⟨b, registry, -, hregistry, hstores, rfl⟩ := hread
          exact keeps_only hstores hregistry
      | threw _ => exact hread
      | stopped => exact hread
  | @write value outcome hends =>
      have hnext : ∀ old registry : WorkspaceRegistry, IsSecondFormat old →
          validateWorkspaceRegistry value = some registry →
          ¬(old.formatVersion = .v2 ∧ registry.formatVersion = .v1) → IsSecondFormat registry := by
        intro old registry hold _ hformat
        cases hregistry : registry.formatVersion with
        | v1 => exact absurd ⟨hold, hregistry⟩ hformat
        | v2 => exact hregistry
      have hwrite := (wp_write h hnext).ends hends
      cases outcome with
      | returned _ => exact hwrite.mono fun _ => And.left
      | threw _ => exact hwrite
      | stopped => exact hwrite

/-- The same over a run. -/
theorem keeps_format_of_run (h : Keeps IsSecondFormat s)
    (hrun : Relation.ReflTransGen RegistryStep s t) : Keeps IsSecondFormat t := by
  induction hrun with
  | refl => exact h
  | tail _ hstep ih => exact keeps_format_of_step ih hstep

/-- **THE FORMAT NEVER GOES BACK**: once a read has answered a registry of the second format,
    every later read that returns answers a registry of the second format, whatever was written
    in between and wherever the process stopped. -/
theorem format_never_goes_back (hread : Ends read s (.returned (some registry)) t)
    (hformat : IsSecondFormat registry) (hrun : Relation.ReflTransGen RegistryStep t u) {v : Slots}
    (hlater : Ends read u (.returned answer) v) :
    ∃ later, answer = some later ∧ IsSecondFormat later := by
  have hstart : Keeps IsSecondFormat t := (keeps_of_read hread).mono fun _ h => h ▸ hformat
  exact answer_of_keeps (keeps_format_of_run hstart hrun) hlater

end WorkspaceRegistryStore
