import Eky.DeletionPages

/-! # A deletion goes over everything once

    - `next_observed`: the call after `n` names yields the name with the number `n` in order,
      whatever the purge has removed so far (`observes_in_order`);
    - `recordsFrom_sorted`, `recordsFrom_error`: the inventory is all records in order, and
      two records with one key make it fail. -/

namespace DeletionPages

open Fallible BoundedPages TransitionSystem

variable {win32 : Bool} {sorted : List CodeUnits} {cursor : Option CodeUnits} {s : Observation}

/-! ## Directories -/

theorem readNames_eq {delivered : List CodeUnits}
    (h : ∀ name ∈ delivered, ¬ invalidName win32 name) :
    readNames win32 cursor delivered
      = readPage id workspaceDeletionDirectoryEntryPageSize inventoryInvalidCode cursor
          delivered := by
  unfold readNames readPage
  generalize ([] : List CodeUnits) = page
  induction delivered generalizing page with
  | nil => rfl
  | cons name delivered ih =>
      have hname : considerName win32 cursor page name
          = consider id workspaceDeletionDirectoryEntryPageSize inventoryInvalidCode cursor page
            name := by
        rw [considerName, throwIf_of_not (h name List.mem_cons_self), ok_bind]
      rw [List.foldlM_cons, List.foldlM_cons, hname]
      exact bind_congr
        fun page' => ih (fun other hother => h other (List.mem_cons_of_mem _ hother)) page'

/-- The names yielded so far come first, those of the page next, and what is behind the cursor
    in the directory is what is left. -/
structure Observed (win32 : Bool) (sorted : List CodeUnits) (s : Observation) : Prop where
  parts : ∃ rest, sorted = s.yielded ++ (s.entries.page ++ rest)
    ∧ (s.directory.filter (beyond id s.entries.cursor)).Perm (s.entries.page ++ rest)
  cursor : ∀ name ∈ s.yielded, ∃ c ∈ s.entries.cursor, name ≤ c
  valid : ∀ name ∈ s.directory, ¬ invalidName win32 name

/-- The name at the head of what is left becomes the cursor. -/
theorem observed_yield {rest page : List CodeUnits} {name : CodeUnits} (h : Observed win32 sorted s)
    (hsorted : sorted.Pairwise (· < ·)) (hparts : sorted = s.yielded ++ (name :: page ++ rest))
    (hperm : (s.directory.filter (beyond id s.entries.cursor)).Perm (name :: page ++ rest)) :
    Observed win32 sorted
      { s with entries := { cursor := some name, page }, yielded := s.yielded ++ [name] } := by
  rw [hparts, List.pairwise_append, List.cons_append, List.pairwise_cons] at hsorted
  obtain ⟨-, ⟨hbehind, -⟩, hbefore⟩ := hsorted
  refine ⟨⟨rest, ?_, ?_⟩, ?_, h.valid⟩
  · rw [hparts, List.append_assoc]
    rfl
  · have hperm' : (s.directory.filter (beyond id s.entries.cursor)).Perm
        ([name] ++ (page ++ rest)) := hperm
    refine filter_behind hperm' List.mem_cons_self ?_ hbehind
    intro y hy
    exact le_of_eq (congrArg id (List.mem_singleton.mp hy))
  · intro other hother
    refine ⟨name, rfl, ?_⟩
    rcases List.mem_append.mp hother with hold | hnew
    · exact le_of_lt (hbefore other hold name List.mem_cons_self)
    · exact le_of_eq (List.mem_singleton.mp hnew)

/-- **ONE CALL** of the generator. -/
theorem next_observed {delivered : List CodeUnits} (h : Observed win32 sorted s)
    (hsorted : sorted.Pairwise (· < ·)) (hdelivered : delivered.Perm s.directory) :
    ∃ entries, s.entries.next win32 delivered = .ok (sorted[s.yielded.length]?, entries)
      ∧ ∀ name, sorted[s.yielded.length]? = some name →
        Observed win32 sorted { s with entries, yielded := s.yielded ++ [name] } := by
  obtain ⟨rest, hparts, hperm⟩ := h.parts
  have hnth : sorted[s.yielded.length]? = (s.entries.page ++ rest).head? := by
    rw [hparts, List.getElem?_append_right le_rfl, Nat.sub_self, List.head?_eq_getElem?]
  rw [hnth]
  cases hpage : s.entries.page with
  | cons name page =>
      rw [hpage] at hparts hperm
      refine ⟨{ cursor := some name, page }, ?_, ?_⟩
      · rw [Entries.next, hpage]
        rfl
      · rintro other hother
        obtain rfl : name = other := Option.some.inj hother
        exact observed_yield h hsorted hparts hperm
  | nil =>
      rw [hpage, List.nil_append] at hparts hperm
      have hrest : rest.Pairwise fun a b => id a < id b := by
        rw [hparts] at hsorted
        exact (List.pairwise_append.mp hsorted).2.1
      have hread : readNames win32 s.entries.cursor delivered
          = .ok (rest.take workspaceDeletionDirectoryEntryPageSize) := by
        rw [readNames_eq fun name hname => h.valid name (hdelivered.mem_iff.mp hname)]
        exact readPage_eq_ok ((hdelivered.filter _).trans hperm) hrest
      cases rest with
      | nil =>
          refine ⟨s.entries, ?_, nofun⟩
          rw [Entries.next, hpage]
          show (readNames win32 s.entries.cursor delivered >>= _) = _
          rw [hread]
          rfl
      | cons name rest =>
          refine ⟨{ cursor := some name, page := rest.take 63 }, ?_, ?_⟩
          · rw [Entries.next, hpage]
            show (readNames win32 s.entries.cursor delivered >>= _) = _
            rw [hread]
            rfl
          · rintro other hother
            obtain rfl : name = other := Option.some.inj hother
            have hsplit : name :: rest.take 63 ++ rest.drop 63 = name :: rest := by
              rw [List.cons_append, List.take_append_drop]
            exact observed_yield h hsorted (hsplit ▸ hparts) (hsplit ▸ hperm)

theorem observed_remove {name : CodeUnits} (h : Observed win32 sorted s)
    (hname : name ∈ s.yielded) :
    Observed win32 sorted { s with directory := s.directory.filter (· ≠ name) } := by
  obtain ⟨⟨rest, hparts, hperm⟩, hcursor, hvalid⟩ := h
  refine ⟨⟨rest, hparts, ?_⟩, hcursor,
    fun other hother => hvalid other (List.mem_filter.mp hother).1⟩
  -- a name that has been yielded is not behind the cursor
  have hsame : (s.directory.filter (· ≠ name)).filter (beyond id s.entries.cursor)
      = s.directory.filter (beyond id s.entries.cursor) := by
    rw [List.filter_filter]
    refine List.filter_congr fun other _ => ?_
    by_cases heq : other = name
    · obtain ⟨c, hc, hle⟩ := hcursor name hname
      have hnot : beyond id s.entries.cursor other = false :=
        beyond_eq_false ⟨c, hc, heq ▸ hle⟩
      rw [hnot, Bool.false_and]
    · rw [decide_eq_true heq, Bool.and_true]
  show ((s.directory.filter (· ≠ name)).filter (beyond id s.entries.cursor)).Perm _
  rw [hsame]
  exact hperm

theorem observed_of_reachable {names : List CodeUnits}
    (hvalid : ∀ name ∈ names, ¬ invalidName win32 name) (hperm : sorted.Perm names)
    (hsorted : sorted.Pairwise (· < ·)) (h : Reachable (observation win32 names) s) :
    Observed win32 sorted s := by
  refine h.invariant ?_ ?_
  · rintro s rfl
    refine ⟨⟨sorted, rfl, ?_⟩, (fun _ h => nomatch h), hvalid⟩
    have hall : names.filter (beyond id none) = names :=
      List.filter_eq_self.mpr fun name _ => decide_eq_true nofun
    show (names.filter (beyond id none)).Perm sorted
    rw [hall]
    exact hperm.symm
  · rintro s t - hs (⟨delivered, name, entries, hdelivered, hnext, rfl⟩ | ⟨name, hname, rfl⟩)
    · obtain ⟨entries', hnext', hobserved⟩ := next_observed hs hsorted hdelivered
      rw [hnext] at hnext'
      obtain ⟨hname, rfl⟩ := Prod.mk.inj (Except.ok.inj hnext')
      exact hobserved name hname.symm
    · exact observed_remove hs hname

/-! ## The inventory -/

theorem considerRecord_eq (cursor : Option CodeUnits)
    (page : List WorkspaceDeletionInventoryRecord) (row : WorkspaceDeletionInventoryRecord) :
    considerRecord cursor page row
      = consider deletionInventoryRecordKey workspaceDeletionDirectoryEntryPageSize invalidCode
          cursor page row := by
  rw [considerRecord, capture_captured, ok_bind]

/-- The workspace record is the first that a pass considers. -/
theorem readRecords_eq (workspace : WorkspaceDeletionInventoryRecord) (cursor : Option CodeUnits)
    (delivered : List WorkspaceDeletionInventoryRecord) :
    readRecords workspace cursor delivered
      = readPage deletionInventoryRecordKey workspaceDeletionDirectoryEntryPageSize invalidCode
          cursor (workspace :: delivered) := by
  have hstep : considerRecord cursor = consider deletionInventoryRecordKey
      workspaceDeletionDirectoryEntryPageSize invalidCode cursor := by
    funext page row
    exact considerRecord_eq cursor page row
  rw [readRecords, createPage, hstep, readPage, List.foldlM_cons]

variable {workspace : WorkspaceDeletionInventoryRecord}
  {rows : List WorkspaceDeletionInventoryRecord}
  {deliver : Nat → List WorkspaceDeletionInventoryRecord}

/-- Distinct keys: the pages are the sorted records, cut every 64. -/
theorem recordsFrom_sorted (hdeliver : ∀ pass, (deliver pass).Perm rows) {pages pass : Nat}
    {captured : Option (List WorkspaceDeletionInventoryRecord)} {cursor : Option CodeUnits}
    {rest : List WorkspaceDeletionInventoryRecord}
    (hperm : ((workspace :: rows).filter (beyond deletionInventoryRecordKey cursor)).Perm rest)
    (hrest : rest.Pairwise fun a b =>
      deletionInventoryRecordKey a < deletionInventoryRecordKey b)
    (hcaptured : ∀ page ∈ captured, page = rest.take workspaceDeletionDirectoryEntryPageSize)
    (hpages : rest.length / 64 + 1 ≤ pages) :
    recordsFrom workspace deliver pages pass captured cursor = .ok (some rest) := by
  induction pages generalizing pass captured cursor rest with
  | zero => omega
  | succ pages ih =>
      have hpage : pageOf workspace cursor (deliver pass) captured
          = .ok (rest.take workspaceDeletionDirectoryEntryPageSize) := by
        cases captured with
        | some page => exact congrArg Except.ok (hcaptured page rfl)
        | none =>
            show readRecords workspace cursor (deliver pass) = _
            rw [readRecords_eq]
            exact readPage_eq_ok ((((hdeliver pass).cons workspace).filter _).trans hperm) hrest
      rw [recordsFrom, hpage, ok_bind]
      have hsize : workspaceDeletionDirectoryEntryPageSize = 64 := rfl
      rw [hsize]
      cases hlast : (rest.take 64).getLast? with
      | none =>
          have hnil := List.getLast?_eq_none_iff.mp hlast
          have hrestNil : rest = [] := by
            rcases List.take_eq_nil_iff.mp hnil with h | h
            · exact absurd h (by decide)
            · exact h
          rw [hrestNil]
      | some last =>
          dsimp only
          by_cases hpartial : (rest.take 64).length < 64
          · rw [if_pos hpartial]
            rw [List.length_take] at hpartial
            rw [List.take_of_length_le (by omega)]
          · rw [if_neg hpartial]
            rw [List.length_take] at hpartial
            obtain ⟨front, hfront⟩ := List.getLast?_eq_some_iff.mp hlast
            have hmem : last ∈ rest.take 64 := List.mem_of_getLast? hlast
            have hsplit : (rest.take 64 ++ rest.drop 64).Pairwise fun a b =>
                deletionInventoryRecordKey a < deletionInventoryRecordKey b := by
              rw [List.take_append_drop]
              exact hrest
            obtain ⟨htake, hdrop, hacross⟩ := List.pairwise_append.mp hsplit
            have hbehind := filter_behind ((List.take_append_drop 64 rest).symm ▸ hperm) hmem
              (fun y hy => by
                rw [hfront] at htake hy
                rcases List.mem_append.mp hy with hy | hy
                · exact le_of_lt ((List.pairwise_append.mp htake).2.2 y hy last
                    List.mem_cons_self)
                · exact le_of_eq (congrArg _ (List.mem_singleton.mp hy)))
              (hacross last hmem)
            have hnext := @ih (pass + 1) none _ (rest.drop 64) hbehind hdrop nofun
              (by rw [List.length_drop]; omega)
            rw [hnext, ok_bind, Option.map_some, List.take_append_drop]

/-- Two records with one key: no page is the last one, and the page that both belong to
    fails. -/
theorem recordsFrom_error (hdeliver : ∀ pass, (deliver pass).Perm rows) {pages pass : Nat}
    {captured : Option (List WorkspaceDeletionInventoryRecord)} {cursor : Option CodeUnits}
    (hkeys : ¬ (((workspace :: rows).filter (beyond deletionInventoryRecordKey cursor)).map
      deletionInventoryRecordKey).Nodup)
    (hcaptured : ∀ page ∈ captured, ∃ delivered : List WorkspaceDeletionInventoryRecord,
      delivered.Perm rows ∧ readRecords workspace cursor delivered = .ok page)
    (hpages : ((workspace :: rows).filter (beyond deletionInventoryRecordKey cursor)).length + 1
      ≤ pages) :
    ∃ error, recordsFrom workspace deliver pages pass captured cursor = .error error := by
  induction pages generalizing pass captured cursor with
  | zero => omega
  | succ pages ih =>
      cases hpage : pageOf workspace cursor (deliver pass) captured with
      | error error =>
          refine ⟨error, ?_⟩
          rw [recordsFrom, hpage, error_bind]
      | ok page =>
          obtain ⟨delivered, hdelivered, hread⟩ : ∃ delivered, delivered.Perm rows
              ∧ readRecords workspace cursor delivered = .ok page := by
            cases captured with
            | some captured =>
                obtain rfl : captured = page := Except.ok.inj hpage
                exact hcaptured captured rfl
            | none => exact ⟨deliver pass, hdeliver pass, hpage⟩
          rw [readRecords_eq] at hread
          have hperm : ∀ cursor, ((workspace :: delivered).filter
              (beyond deletionInventoryRecordKey cursor)).Perm
                ((workspace :: rows).filter (beyond deletionInventoryRecordKey cursor)) :=
            fun cursor => (hdelivered.cons workspace).filter _
          obtain ⟨hlength, last, hlast, hbehind, hshorter⟩ := not_nodup_behind (by decide) hread
            fun hnodup => hkeys (((hperm cursor).map _).nodup_iff.mp hnodup)
          rw [(hperm _).length_eq, (hperm _).length_eq] at hshorter
          have hnext := @ih (pass + 1) none (some (deletionInventoryRecordKey last))
            (fun hnodup => hbehind (((hperm _).map _).nodup_iff.mpr hnodup)) nofun (by omega)
          obtain ⟨error, herror⟩ := hnext
          refine ⟨error, ?_⟩
          rw [recordsFrom, hpage, ok_bind, hlast]
          dsimp only
          rw [if_neg (by omega), herror, error_bind]

/-- The role at the head of a key tells the workspace record from the others. -/
def firstUnit (text : CodeUnits) : Option Nat := List.head? text

theorem firstUnit_key (record : WorkspaceDeletionInventoryRecord) :
    firstUnit (deletionInventoryRecordKey record) = firstUnit (codeUnits record.role.text) := by
  have htext : "/".intercalate [record.role.text, record.ownerOperationId.getD "",
      record.generationId.getD "", record.member.getD ""]
      = record.role.text ++ "/" ++ record.ownerOperationId.getD "" ++ "/"
        ++ record.generationId.getD "" ++ "/" ++ record.member.getD "" := rfl
  unfold firstUnit deletionInventoryRecordKey codeUnits
  rw [htext]
  simp only [String.toList_append, List.append_assoc, List.flatMap_append]
  cases record.role <;> rfl

theorem key_ne_of_role {workspace record : WorkspaceDeletionInventoryRecord}
    (hworkspace : workspace.role = .workspace) (hrecord : record.role ≠ .workspace) :
    deletionInventoryRecordKey workspace ≠ deletionInventoryRecordKey record := by
  intro h
  have hfirst := congrArg firstUnit h
  rw [firstUnit_key, firstUnit_key, hworkspace] at hfirst
  cases hrole : record.role <;> rw [hrole] at hfirst hrecord
  case workspace => exact hrecord rfl
  all_goals exact absurd hfirst (by decide)

theorem captureSources_eq (workspace : WorkspaceDeletionInventoryRecord)
    (first : List WorkspaceDeletionInventoryRecord) :
    captureSources workspace first = (readRecords workspace none first).map fun page =>
      { workspace
        firstPage := some page
        expectedPage :=
          if page.length < workspaceDeletionDirectoryEntryPageSize then some page else none } := by
  rw [captureSources]
  cases readRecords workspace none first <;> rfl

/-- The page that the loop begins with is the first page, or is read anew. -/
theorem mem_captured {page kept : List WorkspaceDeletionInventoryRecord} {condition : Prop}
    [Decidable condition] {consumed : Option (List WorkspaceDeletionInventoryRecord)}
    (hconsumed : ∀ other ∈ consumed, other = page)
    (h : kept ∈ ((if condition then some page else none) <|> consumed)) : kept = page := by
  by_cases hcondition : condition
  · rw [if_pos hcondition] at h
    exact (Option.some.inj h).symm
  · rw [if_neg hcondition] at h
    exact hconsumed kept h

/-- **EVERYTHING ONCE, IN ORDER**.  The call of the generator after any names, some of them
    removed, yields the next name in order, and the one after the last name ends.  The records
    of the inventory are the workspace and all others in the order of their keys, on the first
    call and on later ones; two with the same key make it fail. -/
theorem paged_enumeration_complete (win32 : Bool) {names : List CodeUnits}
    (hnames : names.Nodup) (hvalid : ∀ name ∈ names, ¬ invalidName win32 name)
    {workspace : WorkspaceDeletionInventoryRecord}
    {rows first : List WorkspaceDeletionInventoryRecord}
    {deliver : Nat → List WorkspaceDeletionInventoryRecord}
    (hworkspace : workspace.role = .workspace) (hrows : ∀ row ∈ rows, row.role ≠ .workspace)
    (hfirst : first.Perm rows) (hdeliver : ∀ pass, (deliver pass).Perm rows) :
    (∃ sorted : List CodeUnits, sorted.Perm names ∧ sorted.Pairwise (· < ·)
      ∧ ∀ s, Reachable (observation win32 names) s →
        s.yielded = sorted.take s.yielded.length
          ∧ ∀ delivered : List CodeUnits, delivered.Perm s.directory →
            ∃ entries, s.entries.next win32 delivered
              = .ok (sorted[s.yielded.length]?, entries))
    ∧ ((rows.map deletionInventoryRecordKey).Nodup →
        ∃ sources, captureSources workspace first = .ok sources
          ∧ ∃ sorted : List WorkspaceDeletionInventoryRecord, sorted.Perm (workspace :: rows)
            ∧ (sorted.Pairwise fun a b =>
              deletionInventoryRecordKey a < deletionInventoryRecordKey b)
            ∧ ∀ pages ≥ rows.length + 2, sources.records deliver pages = .ok (some sorted)
              ∧ sources.afterRecords.records deliver pages = .ok (some sorted))
    ∧ (¬ (rows.map deletionInventoryRecordKey).Nodup →
        (∃ error, captureSources workspace first = .error error)
          ∨ ∃ sources, captureSources workspace first = .ok sources
            ∧ ∀ pages ≥ rows.length + 2,
              ∃ error, sources.records deliver pages = .error error) := by
  have hall : (workspace :: rows).filter (beyond deletionInventoryRecordKey none)
      = workspace :: rows := List.filter_eq_self.mpr fun _ _ => decide_eq_true nofun
  refine ⟨?_, ?_, ?_⟩
  · have hid : (names.map id).Nodup := by
      rw [List.map_id]
      exact hnames
    obtain ⟨sorted, hperm, hsorted⟩ := exists_sorted hid
    refine ⟨sorted, hperm, hsorted, fun s hs => ?_⟩
    have hobserved := observed_of_reachable hvalid hperm hsorted hs
    constructor
    · obtain ⟨rest, hparts, -⟩ := hobserved.parts
      rw [hparts, List.take_left]
    · intro delivered hdelivered
      obtain ⟨entries, hnext, -⟩ := next_observed hobserved hsorted hdelivered
      exact ⟨entries, hnext⟩
  · intro hkeys
    have hnodup : ((workspace :: rows).map deletionInventoryRecordKey).Nodup := by
      refine List.nodup_cons.mpr ⟨fun hmem => ?_, hkeys⟩
      obtain ⟨row, hrow, hkey⟩ := List.mem_map.mp hmem
      exact key_ne_of_role hworkspace (hrows row hrow) hkey.symm
    obtain ⟨sorted, hperm, hsorted⟩ := exists_sorted hnodup
    have hrest : ((workspace :: rows).filter (beyond deletionInventoryRecordKey none)).Perm
        sorted := by
      rw [hall]
      exact hperm.symm
    have hread : readRecords workspace none first
        = .ok (sorted.take workspaceDeletionDirectoryEntryPageSize) := by
      rw [readRecords_eq]
      exact readPage_eq_ok (((hfirst.cons workspace).filter _).trans hrest) hsorted
    refine ⟨_, by rw [captureSources_eq, hread]; rfl, sorted, hperm, hsorted, ?_⟩
    intro pages hpages
    have hlength : sorted.length / 64 + 1 ≤ pages := by
      rw [hperm.length_eq, List.length_cons]
      omega
    constructor
    · refine recordsFrom_sorted hdeliver hrest hsorted (fun page hpage => ?_) hlength
      exact mem_captured (fun other hother => (Option.some.inj hother).symm) hpage
    · refine recordsFrom_sorted hdeliver hrest hsorted (fun page hpage => ?_) hlength
      have hnone : ∀ other ∈ (none : Option (List WorkspaceDeletionInventoryRecord)),
          other = sorted.take workspaceDeletionDirectoryEntryPageSize := nofun
      exact mem_captured hnone hpage
  · intro hkeys
    cases hread : readRecords workspace none first with
    | error error =>
        left
        refine ⟨error, ?_⟩
        rw [captureSources_eq, hread]
        rfl
    | ok page =>
        right
        refine ⟨_, by rw [captureSources_eq, hread]; rfl, fun pages hpages => ?_⟩
        refine recordsFrom_error hdeliver (fun hnodup => hkeys ?_) (fun kept hkept => ?_) ?_
        · rw [hall] at hnodup
          exact (List.nodup_cons.mp hnodup).2
        · refine ⟨first, hfirst, ?_⟩
          rw [hread, mem_captured (fun other hother => (Option.some.inj hother).symm) hkept]
        · rw [hall, List.length_cons]
          omega

/-! ## More than one page -/

/-- 65 names of one letter each: a page and one more. -/
def sampleNames : List CodeUnits := (List.range 65).map fun n => [97 + n]

/-- The digest that all records of the sample carry. -/
def sampleDigest : String := "0000000000000000000000000000000000000000000000000000000000000000"

/-- A record with nothing but its role. -/
def sampleRecord (role : Role) : RecordValue where
  role := role
  ownerOperationId := none
  generationId := none
  member := none
  rootIdentity := sampleDigest
  parentIdentity := sampleDigest
  bindingSha256 := none

/-- The two digits of a number below 100. -/
def twoDigits (n : Nat) : List Char := [Char.ofNat (48 + n / 10), Char.ofNat (48 + n % 10)]

/-- A UUID but for its last two digits. -/
def sampleStem : List Char := "00000000-0000-4000-8000-0000000000".toList

/-- The UUID that ends in the two digits of `n`. -/
def sampleOperationId (n : Nat) : List Char := sampleStem ++ twoDigits n

/-- What the replacement with that UUID has left. -/
def sampleImportValue (n : Nat) : RecordValue :=
  { sampleRecord .replacementImport with
    ownerOperationId := some (String.ofList (sampleOperationId n))
    bindingSha256 := some sampleDigest }

theorem isSha256_sampleDigest : isSha256 sampleDigest = true := by decide +kernel

theorem matches_sampleOperationId : ∀ n : Fin 65, JavaScript.matchesPattern
    (JavaScript.uuidPattern JavaScript.isLowerHexDigit ['4'] ['8', '9', 'a', 'b'])
    (sampleOperationId n) = true := by decide +kernel

theorem captured_sampleImportValue (n : Fin 65) : Captured (sampleImportValue n) = true := by
  have hid : isBackupReplacementOperationId (String.ofList (sampleOperationId n)) = true := by
    rw [isBackupReplacementOperationId, JavaScript.isLowerUuid, String.toList_ofList]
    exact matches_sampleOperationId n
  simp [Captured, ownerFits, memberFits, bindingFits, sampleImportValue, sampleRecord, hid,
    isSha256_sampleDigest]

/-- The record of the workspace itself. -/
def sampleWorkspace : WorkspaceDeletionInventoryRecord where
  toRecordValue := sampleRecord .workspace
  captured := by simp [Captured, ownerFits, memberFits, bindingFits, sampleRecord,
    isSha256_sampleDigest]

/-- The record of one replacement. -/
def sampleImport (n : Fin 65) : WorkspaceDeletionInventoryRecord where
  toRecordValue := sampleImportValue n
  captured := captured_sampleImportValue n

/-- 65 of them, which do not fit on one page. -/
def sampleImports : List WorkspaceDeletionInventoryRecord := (List.finRange 65).map sampleImport

/-- The units of a list of characters. -/
def unitsOf (text : List Char) : List Nat := text.flatMap fun c => JavaScript.codeUnits c.toNat

theorem unitsOf_append (left right : List Char) :
    unitsOf (left ++ right) = unitsOf left ++ unitsOf right :=
  List.flatMap_append

/-- The key of a replacement's record has its UUID between two texts that all keys share. -/
theorem key_sampleImport (n : Fin 65) : @Eq (List Nat) (deletionInventoryRecordKey (sampleImport n))
    (unitsOf ("replacementImport".toList ++ "/".toList) ++ (unitsOf (sampleOperationId n) ++
      unitsOf ("/".toList ++ "".toList ++ "/".toList ++ "".toList))) := by
  have htext : "/".intercalate ["replacementImport", String.ofList (sampleOperationId n), "", ""]
      = "replacementImport" ++ "/" ++ String.ofList (sampleOperationId n) ++ "/" ++ "" ++ "/"
        ++ "" := rfl
  show unitsOf ("/".intercalate
    ["replacementImport", String.ofList (sampleOperationId n), "", ""]).toList = _
  rw [htext]
  simp only [unitsOf_append, String.toList_append, String.toList_ofList, List.append_assoc]

theorem unitsOf_twoDigits_injective : ∀ n m : Fin 65,
    unitsOf (twoDigits n) = unitsOf (twoDigits m) → n = m := by
  decide +kernel

theorem key_sampleImport_injective {n m : Fin 65}
    (h : deletionInventoryRecordKey (sampleImport n) = deletionInventoryRecordKey (sampleImport m)) :
    n = m := by
  have hkeys := (key_sampleImport n).symm.trans (Eq.trans h (key_sampleImport m))
  have hid := List.append_cancel_right (List.append_cancel_left hkeys)
  have hdigits : unitsOf sampleStem ++ unitsOf (twoDigits n)
      = unitsOf sampleStem ++ unitsOf (twoDigits m) := by
    rw [← unitsOf_append, ← unitsOf_append]
    exact hid
  exact unitsOf_twoDigits_injective n m (List.append_cancel_left hdigits)

theorem nodup_sampleImports : (sampleImports.map deletionInventoryRecordKey).Nodup := by
  have hinjective : Function.Injective (deletionInventoryRecordKey ∘ sampleImport) := by
    intro n m h
    rw [Function.comp_apply, Function.comp_apply] at h
    exact key_sampleImport_injective h
  have hnodup := List.Nodup.map hinjective (List.nodup_finRange 65)
  rw [← List.map_map] at hnodup
  exact hnodup

/-- Names and records of more than one page, and an inventory with the same record twice. -/
theorem paged_enumeration_sample :
    (∃ sorted : List CodeUnits, sorted.Perm sampleNames ∧ sorted.Pairwise (· < ·)
      ∧ ∀ s, Reachable (observation false sampleNames) s →
        s.yielded = sorted.take s.yielded.length
          ∧ ∀ delivered : List CodeUnits, delivered.Perm s.directory →
            ∃ entries, s.entries.next false delivered
              = .ok (sorted[s.yielded.length]?, entries))
    ∧ (∃ sources, captureSources sampleWorkspace sampleImports.reverse = .ok sources
        ∧ ∃ sorted : List WorkspaceDeletionInventoryRecord,
          sorted.Perm (sampleWorkspace :: sampleImports)
          ∧ (sorted.Pairwise fun a b =>
            deletionInventoryRecordKey a < deletionInventoryRecordKey b)
          ∧ ∀ pages ≥ sampleImports.length + 2,
            sources.records (fun _ => sampleImports) pages = .ok (some sorted)
              ∧ sources.afterRecords.records (fun _ => sampleImports) pages = .ok (some sorted))
    ∧ ((∃ error, captureSources sampleWorkspace [sampleImport 0, sampleImport 0] = .error error)
        ∨ ∃ sources, captureSources sampleWorkspace [sampleImport 0, sampleImport 0] = .ok sources
          ∧ ∀ pages ≥ 4, ∃ error,
            sources.records (fun _ => [sampleImport 0, sampleImport 0]) pages = .error error) := by
  have hnames : sampleNames.Nodup := by decide +kernel
  have hvalid : ∀ name ∈ sampleNames, ¬ invalidName false name := by decide +kernel
  have hroles : ∀ row ∈ sampleImports, row.role ≠ .workspace := by
    intro row hrow
    obtain ⟨n, -, rfl⟩ := List.mem_map.mp hrow
    exact (by decide : Role.replacementImport ≠ Role.workspace)
  obtain ⟨henumerated, hinventory, -⟩ := @paged_enumeration_complete false sampleNames hnames
    hvalid sampleWorkspace sampleImports sampleImports.reverse (fun _ => sampleImports) rfl hroles
    sampleImports.reverse_perm fun _ => List.Perm.refl sampleImports
  refine ⟨henumerated, hinventory nodup_sampleImports, ?_⟩
  have htwice : ∀ row ∈ [sampleImport 0, sampleImport 0], row.role ≠ .workspace := by
    intro row hrow
    obtain rfl : row = sampleImport 0 := (List.mem_pair.mp hrow).elim id id
    exact (by decide : Role.replacementImport ≠ Role.workspace)
  exact (@paged_enumeration_complete false sampleNames hnames hvalid sampleWorkspace
    [sampleImport 0, sampleImport 0] [sampleImport 0, sampleImport 0]
    (fun _ => [sampleImport 0, sampleImport 0]) rfl htwice (List.Perm.refl _)
    fun _ => List.Perm.refl _).2.2 (by simp)

end DeletionPages
