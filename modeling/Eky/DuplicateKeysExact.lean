import Eky.JsonParse
import Eky.WorkspaceRegistryDuplicateKeys

/-! # The walk over the registry's text is exact

    Every call of the walk has one of three ends: it rejects, it leaves a rest that is no longer
    than its text, or it has made more calls than it may.  The last does not happen
    (`assertNoDuplicateWorkspaceRegistryKeys_terminates`).

    On a text that follows the grammar the walk stays in step: behind a value it leaves what is
    behind the value, unless the value has a duplicate. -/

namespace WorkspaceRegistryDuplicateKeys

open Fallible Json

/-! ## Termination -/

/-- The walk ends, and does not go back. -/
def Ends (source : Units) (result : Scanned Units) : Prop :=
  result ≠ .error .outOfFuel ∧ ∀ rest, result = .ok rest → rest.length ≤ source.length

variable {body source name text w rest : Units} {close u : UInt16} {α : Type} {v : Value}
  {next : Units → Scanned Units} {a : α} {fuel : Nat} {q : Prop}

theorem ends_invalid : Ends source (.error .registryInvalid) :=
  ⟨fun h => (nomatch h), fun _ h => nomatch h⟩

theorem ends_ok (h : rest.length ≤ source.length) : Ends source (.ok rest) :=
  ⟨fun h => (nomatch h), fun _ hrest => Except.ok.inj hrest ▸ h⟩

theorem Ends.mono {longer : Units} {result : Scanned Units} (h : Ends source result)
    (hle : source.length ≤ longer.length) : Ends longer result :=
  ⟨h.1, fun rest hrest => Nat.le_trans (h.2 rest hrest) hle⟩

theorem ends_throwIf {c : Prop} [Decidable c] {next : Scanned Units} (h : ¬ c → Ends source next) :
    Ends source (throwIf c .registryInvalid >>= fun _ => next) := by
  by_cases hc : c
  · rw [throwIf_of hc]
    exact ends_invalid
  · rw [throwIf_of_not hc]
    exact h hc

theorem ends_bind {middle : Units} {first : Scanned Units} (hfirst : Ends middle first)
    (h : ∀ rest, rest.length ≤ middle.length →
      Ends source (next rest)) : Ends source (first >>= next) := by
  cases hresult : first with
  | error e =>
      cases e with
      | registryInvalid => exact ends_invalid
      | outOfFuel => exact absurd hresult hfirst.1
  | ok rest => exact h rest (hfirst.2 rest hresult)

theorem length_skipWhitespace (source : Units) :
    (skipWhitespace source).length ≤ source.length :=
  (List.dropWhile_suffix isBlank).length_le

/-- A literal ends behind its quote. -/
theorem readBody_ends : readBody source = .error .registryInvalid
    ∨ ∃ body rest, readBody source = .ok (body, rest) ∧ rest.length < source.length := by
  fun_induction readBody source with
  | case1 => exact .inl rfl
  | case2 => exact .inl rfl
  | case3 e rest ih =>
      rcases ih with h | ⟨body, after, h, hlt⟩
      · rw [h]
        exact .inl rfl
      · rw [h]
        refine .inr ⟨_, _, rfl, ?_⟩
        simp only [List.length_cons]
        omega
  | case4 rest hne => exact .inr ⟨_, _, rfl, Nat.lt_succ_self _⟩
  | case5 u rest hne hquote ih =>
      rcases ih with h | ⟨body, after, h, hlt⟩
      · rw [h]
        exact .inl rfl
      · rw [h]
        refine .inr ⟨_, _, rfl, ?_⟩
        simp only [List.length_cons]
        omega

theorem readString_ends : readString source = .error .registryInvalid
    ∨ ∃ name rest, readString source = .ok (name, rest) ∧ rest.length < source.length := by
  unfold readString
  by_cases hquote : source.head? ≠ some (unit '"')
  · rw [throwIf_of hquote]
    exact .inl rfl
  · rw [throwIf_of_not hquote]
    rcases @readBody_ends source.tail with h | ⟨body, rest, h, hlt⟩
    · rw [h]
      exact .inl rfl
    · rw [h]
      have hle : rest.length < source.length := by
        have htail := source.length_tail
        omega
      cases hdecode : decode body with
      | none =>
          left
          simp only [ok_bind, hdecode]
          rfl
      | some name =>
          right
          refine ⟨name, rest, ?_, hle⟩
          simp only [ok_bind, hdecode]
          rfl

theorem readBare_ends : Ends source (readBare source) := by
  unfold readBare
  refine ends_throwIf fun _ => ends_ok ?_
  exact (List.dropWhile_suffix _).length_le

theorem afterItem_ends (h : ∀ rest : Units, rest.length < source.length → Ends source (next rest)) :
    Ends source (afterItem close next source) := by
  have hskip := length_skipWhitespace source
  unfold afterItem
  split
  · exact ends_invalid
  · next u rest heq =>
      rw [heq, List.length_cons] at hskip
      split
      · exact ends_ok (by omega)
      · split
        · exact h rest (by omega)
        · exact ends_invalid

/-- Fuel for three calls a unit is enough. -/
theorem ends_of_fuel (fuel : Nat) (source : Units) :
    (3 * source.length + 1 ≤ fuel → Ends source (readValue fuel source))
    ∧ (3 * source.length + 3 ≤ fuel → Ends source (readObject fuel source))
    ∧ (∀ keys, 3 * source.length + 2 ≤ fuel → Ends source (readMembers fuel keys source))
    ∧ (3 * source.length + 3 ≤ fuel → Ends source (readArray fuel source))
    ∧ (3 * source.length + 2 ≤ fuel → Ends source (readItems fuel source)) := by
  induction fuel generalizing source with
  | zero =>
      refine ⟨?_, ?_, ?_, ?_, ?_⟩
      all_goals
        intros
        omega
  | succ fuel ih =>
      have hskip := length_skipWhitespace source
      refine ⟨fun hfuel => ?_, fun hfuel => ?_, fun keys hfuel => ?_, fun hfuel => ?_,
        fun hfuel => ?_⟩
      · unfold readValue
        split
        · exact readBare_ends.mono (Nat.zero_le _)
        · next u rest heq =>
            rw [heq, List.length_cons] at hskip
            obtain ⟨-, hobject, -, harray, -⟩ := ih rest
            split
            · exact (hobject (by omega)).mono (by omega)
            · split
              · exact (harray (by omega)).mono (by omega)
              · split
                · rcases @readString_ends (u :: rest) with h | ⟨name, after, h, hlt⟩
                  · rw [h]
                    exact ends_invalid
                  · rw [h]
                    rw [List.length_cons] at hlt
                    have hle : after.length ≤ source.length := by omega
                    exact ends_ok hle
                · refine readBare_ends.mono ?_
                  rw [List.length_cons]
                  exact hskip
      · unfold readObject
        split
        · refine ends_ok ?_
          rw [List.length_tail]
          omega
        · exact ((ih (skipWhitespace source)).2.2.1 [] (by omega)).mono hskip
      · unfold readMembers
        refine ends_throwIf fun _ => ?_
        rcases @readString_ends (skipWhitespace source) with h | ⟨name, after, h, hlt⟩
        · rw [h]
          exact ends_invalid
        · rw [h]
          refine ends_throwIf fun _ => ends_throwIf fun _ => ?_
          have hafter := length_skipWhitespace after
          have htail := (skipWhitespace after).length_tail
          -- the value is shorter than the text by the literal in front of it
          refine ends_bind ((ih (skipWhitespace after).tail).1 (by omega)) fun rest hrest => ?_
          refine (afterItem_ends fun next hnext => ?_).mono (by omega)
          exact ((ih next).2.2.1 _ (by omega)).mono (by omega)
      · unfold readArray
        split
        · refine ends_ok ?_
          rw [List.length_tail]
          omega
        · exact ((ih (skipWhitespace source)).2.2.2.2 (by omega)).mono hskip
      · unfold readItems
        refine ends_throwIf fun _ => ?_
        refine ends_bind ((ih source).1 (by omega)) fun rest hrest => ?_
        refine (afterItem_ends fun next hnext => ?_).mono hrest
        exact ((ih next).2.2.2.2 (by omega)).mono (by omega)

/-- **TERMINATION**, on every text. -/
theorem assertNoDuplicateWorkspaceRegistryKeys_terminates (source : Units) :
    assertNoDuplicateWorkspaceRegistryKeys source ≠ .error .outOfFuel := by
  have hends := (ends_of_fuel (fuelFor source) source).1 (Nat.le_refl _)
  unfold assertNoDuplicateWorkspaceRegistryKeys
  cases hresult : readValue (fuelFor source) source with
  | error e =>
      rw [hresult] at hends
      exact fun h => hends.1 (congrArg Except.error (Except.error.inj h))
  | ok rest =>
      by_cases hrest : skipWhitespace rest ≠ []
      · rw [ok_bind, throwIf_of hrest]
        exact fun h => nomatch h
      · rw [ok_bind, throwIf_of_not hrest]
        exact fun h => nomatch h

/-! ## Pieces of a text -/

theorem skipWhitespace_append (hw : Blank w) (source : Units) :
    skipWhitespace (w ++ source) = skipWhitespace source := dropBlanks_append hw source

theorem skipWhitespace_cons (hu : isBlank u = false) (source : Units) :
    skipWhitespace (u :: source) = u :: source := dropBlanks_cons hu source

theorem skipWhitespace_idem (source : Units) :
    skipWhitespace (skipWhitespace source) = skipWhitespace source := dropBlanks_idem source

theorem skipWhitespace_first {more : Units} (h : dropBlanks text = u :: more) (rest : Units) :
    skipWhitespace (text ++ rest) = u :: (more ++ rest) := dropBlanks_first h rest

theorem skipWhitespace_value (hw : Blank w) (htext : text = u :: rest) (hu : isDelimiter u = false)
    (more : Units) :
    skipWhitespace (w ++ text ++ more) = u :: (rest ++ more) := first_of_blank hw htext hu more

/-- The loop over a literal is that of the parser. -/
theorem readBody_eq (source : Units) :
    readBody source = orThrow (literalBody source) .registryInvalid := by
  fun_induction readBody source with
  | case1 => rfl
  | case2 =>
      unfold literalBody
      rw [if_pos rfl]
      rfl
  | case3 e rest ih =>
      unfold literalBody
      rw [ih, if_pos rfl]
      dsimp only
      cases literalBody rest with
      | none => rfl
      | some found => rfl
  | case4 rest hne =>
      unfold literalBody
      rw [if_neg hne, if_pos rfl]
      rfl
  | case5 u rest hne hquote ih =>
      unfold literalBody
      rw [ih, if_neg hne, if_neg hquote]
      cases literalBody rest with
      | none => rfl
      | some found => rfl

theorem readBody_of_decode {value : Units} (h : decode body = some value) (rest : Units) :
    readBody (body ++ unit '"' :: rest) = .ok (body, rest) := by
  rw [readBody_eq, literalBody_of_decode h]
  rfl

/-! ## What the walk does to a derived text -/

/-- The walk goes on at `a` if `good`, and rejects the text otherwise. -/
def Settles {α : Type} (result : Scanned α) (good : Prop) (a : α) : Prop :=
  (good → result = .ok a) ∧ (¬ good → result = .error .registryInvalid)

theorem Settles.of_ok {result : Scanned α} {good : Prop} (h : result = .ok a) (hgood : good) :
    Settles result good a :=
  ⟨fun _ => h, fun hnot => absurd hgood hnot⟩

theorem Settles.congr {result : Scanned α} {good other : Prop} (h : Settles result good a)
    (hiff : good ↔ other) : Settles result other a :=
  ⟨fun hother => h.1 (hiff.mpr hother), fun hnot => h.2 fun hgood => hnot (hiff.mp hgood)⟩

theorem Settles.bind {β : Type} {first : Scanned α} {next : α → Scanned β} {p : Prop} {b : β}
    (hfirst : Settles first p a) (hnext : p → Settles (next a) q b) :
    Settles (first >>= next) (p ∧ q) b := by
  by_cases hp : p
  · rw [hfirst.1 hp]
    exact ((hnext hp).congr ⟨fun hq => ⟨hp, hq⟩, fun h => h.2⟩)
  · rw [hfirst.2 hp]
    exact ⟨fun h => absurd h.1 hp, fun _ => rfl⟩

theorem Settles.throwIf {β : Type} {c : Prop} [Decidable c] {next : Unit → Scanned β} {b : β}
    (hnext : ¬ c → Settles (next ()) q b) :
    Settles (throwIf c .registryInvalid >>= next) (¬ c ∧ q) b := by
  refine Settles.bind (a := ()) ⟨fun hc => throwIf_of_not hc, fun hc => ?_⟩ hnext
  exact throwIf_of (not_not.mp hc)

/-- What the walk does to the text of a node: to a value in front of a delimiter, and to the
    items or the members up to the bracket or the brace. -/
def Scans : Node → Units → Prop
  | .value v, text => ∀ fuel w rest, Blank w → Delimited rest →
      3 * (w ++ text ++ rest).length + 1 ≤ fuel →
        Settles (readValue fuel (w ++ text ++ rest)) (NoDuplicates v) rest
  | .items vs, text => ∀ fuel rest, 3 * (text ++ unit ']' :: rest).length + 2 ≤ fuel →
      Settles (readItems fuel (text ++ unit ']' :: rest)) (∀ v ∈ vs, NoDuplicates v) rest
  | .members ms, text => ∀ fuel keys rest, 3 * (text ++ unit '}' :: rest).length + 2 ≤ fuel →
      Settles (readMembers fuel keys (text ++ unit '}' :: rest))
        ((∀ m ∈ ms, m.1 ∉ keys) ∧ (ms.map Prod.fst).Nodup ∧ ∀ m ∈ ms, NoDuplicates m.2) rest

/-! ## One call on a derived text -/

theorem readBare_of_bare (h : Bare text) (hrest : Delimited rest) :
    readBare (text ++ rest) = .ok rest := by
  obtain ⟨htake, hdrop⟩ := token_of_bare h hrest
  have hne : (text ++ rest).takeWhile (fun u => !isJsonDelimiter u) ≠ [] := by
    have htoken : (text ++ rest).takeWhile (fun u => !isJsonDelimiter u) = text := htake
    rw [htoken]
    exact h.1
  have hafter : (text ++ rest).dropWhile (fun u => !isJsonDelimiter u) = rest := hdrop
  rw [readBare, throwIf_of_not hne, ok_bind, hafter]
  rfl

theorem readValue_of_bare (h : Bare text) (hw : Blank w) (hrest : Delimited rest)
    (hfuel : 0 < fuel) :
    readValue fuel (w ++ text ++ rest) = .ok rest := by
  obtain ⟨fuel, rfl⟩ := Nat.exists_eq_add_one.mpr hfuel
  obtain ⟨u, more, rfl⟩ := List.exists_cons_of_ne_nil h.1
  obtain ⟨hdelimiter, hbrace, hbracket, hquote⟩ := h.2 u List.mem_cons_self
  unfold readValue
  rw [skipWhitespace_value hw rfl hdelimiter]
  dsimp only
  rw [if_neg hbrace, if_neg hbracket, if_neg hquote]
  exact readBare_of_bare h hrest

theorem readString_of_decode (h : decode body = some name) (rest : Units) :
    readString (unit '"' :: body ++ unit '"' :: rest) = .ok (name, rest) := by
  unfold readString
  rw [throwIf_of_not (by simp), ok_bind, List.cons_append, List.tail_cons,
    readBody_of_decode h rest, ok_bind]
  simp only [h]
  rfl

theorem readValue_of_string {value : Units} (h : decode body = some value) (hw : Blank w)
    (hfuel : 0 < fuel) :
    readValue fuel (w ++ (unit '"' :: body ++ [unit '"']) ++ rest) = .ok rest := by
  obtain ⟨fuel, rfl⟩ := Nat.exists_eq_add_one.mpr hfuel
  have hread := readString_of_decode h rest
  have hliteral : unit '"' :: body ++ [unit '"'] = unit '"' :: (body ++ [unit '"']) :=
    List.cons_append
  unfold readValue
  rw [skipWhitespace_value hw hliteral (by decide)]
  dsimp only
  rw [if_neg (by decide), if_neg (by decide), if_pos rfl]
  rw [List.cons_append] at hread
  rw [List.append_assoc, List.singleton_append, hread]
  rfl

/-- Behind the last item. -/
theorem afterItem_close (hw : Blank w) (hclose : isBlank close = false) :
    afterItem close next (w ++ close :: rest) = .ok rest := by
  unfold afterItem
  rw [skipWhitespace_append hw, skipWhitespace_cons hclose]
  dsimp only
  rw [if_pos rfl]
  rfl

/-- In front of the next item. -/
theorem afterItem_comma (hw : Blank w) (hclose : close ≠ unit ',') :
    afterItem close next (w ++ unit ',' :: rest) = next rest := by
  unfold afterItem
  rw [skipWhitespace_append hw, skipWhitespace_cons (by decide)]
  dsimp only
  rw [if_neg (Ne.symm hclose), if_pos rfl]

/-- Blanks in front of a list make no difference. -/
theorem readItems_skip (h : skipWhitespace source ≠ []) (fuel : Nat) :
    readItems fuel (skipWhitespace source) = readItems fuel source := by
  have hne : source ≠ [] := by
    rintro rfl
    exact h rfl
  cases fuel with
  | zero => rfl
  | succ fuel =>
      have hvalue : readValue fuel (skipWhitespace source) = readValue fuel source := by
        cases fuel with
        | zero => rfl
        | succ fuel =>
            unfold readValue
            rw [skipWhitespace_idem]
      unfold readItems
      rw [throwIf_of_not h, throwIf_of_not hne, hvalue]

theorem readMembers_skip (h : skipWhitespace source ≠ []) (fuel : Nat) (keys : List Units) :
    readMembers fuel keys (skipWhitespace source) = readMembers fuel keys source := by
  have hne : source ≠ [] := by
    rintro rfl
    exact h rfl
  cases fuel with
  | zero => rfl
  | succ fuel =>
      unfold readMembers
      rw [throwIf_of_not h, throwIf_of_not hne, skipWhitespace_idem]

/-- Behind a bracket stands the first item of a list that is not empty. -/
theorem readArray_of_items {vs : List Value} (hfirst : First (.items vs) text)
    (h : Scans (.items vs) text) (hfuel : 3 * (text ++ unit ']' :: rest).length + 3 ≤ fuel) :
    Settles (readArray fuel (text ++ unit ']' :: rest)) (NoDuplicates (.array vs)) rest := by
  obtain ⟨fuel, rfl⟩ := Nat.exists_eq_add_one.mpr (by omega : 0 < fuel)
  obtain ⟨u, more, hskip, hu⟩ := hfirst
  have hskip' := skipWhitespace_first hskip (unit ']' :: rest)
  have hhead : (skipWhitespace (text ++ unit ']' :: rest)).head? ≠ some (unit ']') := by
    rw [hskip', List.head?_cons]
    intro heq
    rw [Option.some.inj heq] at hu
    exact absurd hu (by decide)
  have hne : skipWhitespace (text ++ unit ']' :: rest) ≠ [] := by
    rw [hskip']
    exact List.cons_ne_nil _ _
  unfold readArray
  rw [if_neg hhead, readItems_skip hne]
  exact (h fuel rest (by omega)).congr noDuplicates_array.symm

/-- Behind a brace stands the first member of a list that is not empty. -/
theorem readObject_of_members {ms : List (Units × Value)} (hfirst : First (.members ms) text)
    (h : Scans (.members ms) text) (hfuel : 3 * (text ++ unit '}' :: rest).length + 3 ≤ fuel) :
    Settles (readObject fuel (text ++ unit '}' :: rest)) (NoDuplicates (.object ms)) rest := by
  obtain ⟨fuel, rfl⟩ := Nat.exists_eq_add_one.mpr (by omega : 0 < fuel)
  obtain ⟨more, hskip⟩ := hfirst
  have hskip' := skipWhitespace_first hskip (unit '}' :: rest)
  have hhead : (skipWhitespace (text ++ unit '}' :: rest)).head? ≠ some (unit '}') := by
    rw [hskip', List.head?_cons]
    decide
  have hne : skipWhitespace (text ++ unit '}' :: rest) ≠ [] := by
    rw [hskip']
    exact List.cons_ne_nil _ _
  unfold readObject
  rw [if_neg hhead, readMembers_skip hne]
  refine (h fuel [] rest (by omega)).congr ?_
  rw [noDuplicates_object]
  exact ⟨fun h => h.2, fun h => ⟨fun _ _ => List.not_mem_nil, h⟩⟩

/-- One member up to the rest behind its value. -/
theorem readMembers_member {w' w'' after : Units} (hw : Blank w) (hbody : decode body = some name)
    (hw' : Blank w') (hw'' : Blank w'') (h : Scans (.value v) text) (hafter : Delimited after)
    {keys : List Units} (hfuel : 3 * (w'' ++ text ++ after).length + 1 ≤ fuel)
    (hnext : Settles (afterItem (unit '}') (fun next => readMembers fuel (name :: keys) next)
      after) q rest) : Settles (readMembers (fuel + 1) keys
        (nameText w body w' ++ unit ':' :: (w'' ++ text ++ after)))
      (name ∉ keys ∧ NoDuplicates v ∧ q) rest := by
  have hsource : nameText w body w' ++ unit ':' :: (w'' ++ text ++ after)
      = w ++ (unit '"' :: body ++ unit '"' :: (w' ++ unit ':' :: (w'' ++ text ++ after))) := by
    simp only [nameText, List.append_assoc, List.cons_append]
  have hne : w ++ (unit '"' :: body ++ unit '"' :: (w' ++ unit ':' :: (w'' ++ text ++ after)))
      ≠ [] := List.append_ne_nil_of_right_ne_nil _ (List.cons_ne_nil _ _)
  have hname : skipWhitespace
      (w ++ (unit '"' :: body ++ unit '"' :: (w' ++ unit ':' :: (w'' ++ text ++ after))))
      = unit '"' :: body ++ unit '"' :: (w' ++ unit ':' :: (w'' ++ text ++ after)) := by
    rw [skipWhitespace_append hw]
    exact skipWhitespace_cons (by decide) _
  have hcolon : skipWhitespace (w' ++ unit ':' :: (w'' ++ text ++ after))
      = unit ':' :: (w'' ++ text ++ after) := by
    rw [skipWhitespace_append hw', skipWhitespace_cons (by decide)]
  rw [hsource]
  unfold readMembers
  rw [throwIf_of_not hne, ok_bind, hname, readString_of_decode hbody, ok_bind]
  refine Settles.throwIf fun _ => ?_
  dsimp only
  rw [hcolon, throwIf_of_not (by simp), ok_bind, List.tail_cons]
  exact (h fuel w'' after hw'' hafter hfuel).bind fun _ => hnext

theorem readValue_array {inner : Units} (hw : Blank w) (fuel : Nat) :
    readValue (fuel + 1) (w ++ (unit '[' :: inner ++ [unit ']']) ++ rest)
      = readArray fuel (inner ++ unit ']' :: rest) := by
  unfold readValue
  rw [skipWhitespace_value hw List.cons_append (by decide)]
  dsimp only
  rw [if_neg (by decide), if_pos rfl, List.append_assoc]
  rfl

theorem readValue_object {inner : Units} (hw : Blank w) (fuel : Nat) :
    readValue (fuel + 1) (w ++ (unit '{' :: inner ++ [unit '}']) ++ rest)
      = readObject fuel (inner ++ unit '}' :: rest) := by
  unfold readValue
  rw [skipWhitespace_value hw List.cons_append (by decide)]
  dsimp only
  rw [if_pos rfl, List.append_assoc]
  rfl

theorem readArray_blank (hw : Blank w) (fuel : Nat) :
    readArray (fuel + 1) (w ++ unit ']' :: rest) = .ok rest := by
  have hskip : skipWhitespace (w ++ unit ']' :: rest) = unit ']' :: rest := by
    rw [skipWhitespace_append hw, skipWhitespace_cons (by decide)]
  unfold readArray
  rw [hskip, List.head?_cons, if_pos rfl]
  rfl

theorem readObject_blank (hw : Blank w) (fuel : Nat) :
    readObject (fuel + 1) (w ++ unit '}' :: rest) = .ok rest := by
  have hskip : skipWhitespace (w ++ unit '}' :: rest) = unit '}' :: rest := by
    rw [skipWhitespace_append hw, skipWhitespace_cons (by decide)]
  unfold readObject
  rw [hskip, List.head?_cons, if_pos rfl]
  rfl

/-- One item up to the rest behind it. -/
theorem readItems_item {after : Units} (hw : Blank w) (h : Scans (.value v) text)
    (hafter : Delimited after) (hfuel : 3 * (w ++ text ++ after).length + 1 ≤ fuel)
    (hne : w ++ text ++ after ≠ [])
    (hnext : Settles (afterItem (unit ']') (fun next => readItems fuel next) after) q rest) :
    Settles (readItems (fuel + 1) (w ++ text ++ after)) (NoDuplicates v ∧ q) rest := by
  unfold readItems
  rw [throwIf_of_not hne, ok_bind]
  exact (h fuel w after hw hafter hfuel).bind fun _ => hnext

/-- The names of a list whose first member is new. -/
theorem members_new {ms : List (Units × Value)} {keys : List Units} : (name ∉ keys ∧ NoDuplicates v
        ∧ (∀ m ∈ ms, m.1 ∉ name :: keys) ∧ (ms.map Prod.fst).Nodup ∧ ∀ m ∈ ms, NoDuplicates m.2)
      ↔ (∀ m ∈ (name, v) :: ms, m.1 ∉ keys) ∧ (((name, v) :: ms).map Prod.fst).Nodup
        ∧ ∀ m ∈ (name, v) :: ms, NoDuplicates m.2 := by
  rw [List.forall_mem_cons, List.forall_mem_cons, List.map_cons, List.nodup_cons]
  simp only [List.mem_cons, not_or]
  constructor
  · rintro ⟨hname, hv, hnew, hnodup, hms⟩
    refine ⟨⟨hname, fun m hm => (hnew m hm).2⟩, ⟨fun hmem => ?_, hnodup⟩, hv, hms⟩
    obtain ⟨m, hm, hfst⟩ := List.mem_map.mp hmem
    exact (hnew m hm).1 hfst
  · rintro ⟨⟨hname, hold⟩, ⟨hfresh, hnodup⟩, hv, hms⟩
    refine ⟨hname, hv, fun m hm => ⟨fun heq => ?_, hold m hm⟩, hnodup, hms⟩
    exact hfresh (List.mem_map.mpr ⟨m, hm, heq⟩)

/-- **THE WALK FOLLOWS THE GRAMMAR** -/
theorem scans_of_derives {node : Node} (h : Derives node text) : Scans node text := by
  induction h with
  | null =>
      intro fuel w rest hw hrest hfuel
      exact .of_ok (readValue_of_bare (by decide) hw hrest (by omega)) .null
  | true =>
      intro fuel w rest hw hrest hfuel
      exact .of_ok (readValue_of_bare (by decide) hw hrest (by omega)) .bool
  | false =>
      intro fuel w rest hw hrest hfuel
      exact .of_ok (readValue_of_bare (by decide) hw hrest (by omega)) .bool
  | number hnumber =>
      intro fuel w rest hw hrest hfuel
      exact .of_ok (readValue_of_bare (bare_of_isNumber hnumber) hw hrest (by omega)) .number
  | string hbody =>
      intro fuel w rest hw _ hfuel
      exact .of_ok (readValue_of_string hbody hw (by omega)) .string
  | noItems hw' =>
      intro fuel w rest hw _ hfuel
      simp only [List.length_append, List.length_cons] at hfuel
      obtain ⟨fuel, rfl⟩ : ∃ n, fuel = n + 2 := ⟨fuel - 2, by omega⟩
      rw [readValue_array hw, readArray_blank hw']
      exact .of_ok rfl (.array fun _ hv => nomatch hv)
  | @array vs text hvs ih =>
      intro fuel w rest hw _ hfuel
      simp only [List.length_append, List.length_cons] at hfuel
      obtain ⟨fuel, rfl⟩ : ∃ n, fuel = n + 1 := ⟨fuel - 1, by omega⟩
      rw [readValue_array hw]
      refine readArray_of_items (first_of_derives hvs) ih ?_
      simp only [List.length_append, List.length_cons]
      omega
  | noMembers hw' =>
      intro fuel w rest hw _ hfuel
      simp only [List.length_append, List.length_cons] at hfuel
      obtain ⟨fuel, rfl⟩ : ∃ n, fuel = n + 2 := ⟨fuel - 2, by omega⟩
      rw [readValue_object hw, readObject_blank hw']
      exact .of_ok rfl (.object List.nodup_nil fun _ hm => nomatch hm)
  | @object ms text hms ih =>
      intro fuel w rest hw _ hfuel
      simp only [List.length_append, List.length_cons] at hfuel
      obtain ⟨fuel, rfl⟩ : ∃ n, fuel = n + 1 := ⟨fuel - 1, by omega⟩
      rw [readValue_object hw]
      refine readObject_of_members (first_of_derives hms) ih ?_
      simp only [List.length_append, List.length_cons]
      omega
  | @item v text w w' hw hv hw' ih =>
      intro fuel rest hfuel
      obtain ⟨fuel, rfl⟩ : ∃ n, fuel = n + 1 := ⟨fuel - 1, by omega⟩
      have hsource : w ++ text ++ w' ++ unit ']' :: rest
          = w ++ text ++ (w' ++ unit ']' :: rest) := List.append_assoc _ _ _
      rw [hsource] at hfuel ⊢
      refine (readItems_item hw ih (delimited_append hw' (by decide) rest) (by omega) (by simp)
        (.of_ok (afterItem_close hw' (by decide)) trivial)).congr ?_
      rw [and_true, List.forall_mem_singleton]
  | @items v vs text texts w w' hw hv hw' hvs ih ihs =>
      intro fuel rest hfuel
      obtain ⟨fuel, rfl⟩ : ∃ n, fuel = n + 1 := ⟨fuel - 1, by omega⟩
      have hsource : w ++ text ++ w' ++ unit ',' :: texts ++ unit ']' :: rest
          = w ++ text ++ (w' ++ unit ',' :: (texts ++ unit ']' :: rest)) := by
        simp only [List.append_assoc, List.cons_append]
      rw [hsource] at hfuel ⊢
      refine (readItems_item (q := ∀ v ∈ vs, NoDuplicates v) hw ih
        (delimited_append hw' (by decide) _) (by omega) (by simp) ?_).congr ?_
      · rw [afterItem_comma hw' (by decide)]
        refine ihs fuel rest ?_
        simp only [List.length_append, List.length_cons] at hfuel ⊢
        omega
      · rw [List.forall_mem_cons]
  | @member body name v text w w' w'' w₃ hw hbody hw' hw'' hv hw₃ ih =>
      intro fuel keys rest hfuel
      obtain ⟨fuel, rfl⟩ : ∃ n, fuel = n + 1 := ⟨fuel - 1, by omega⟩
      have hsource : nameText w body w' ++ unit ':' :: (w'' ++ text ++ w₃) ++ unit '}' :: rest
          = nameText w body w' ++ unit ':' :: (w'' ++ text ++ (w₃ ++ unit '}' :: rest)) := by
        simp only [List.append_assoc, List.cons_append]
      rw [hsource] at hfuel ⊢
      refine (readMembers_member hw hbody hw' hw'' ih (delimited_append hw₃ (by decide) rest) ?_
        (.of_ok (afterItem_close hw₃ (by decide)) ⟨fun _ hm => (nomatch hm), List.nodup_nil,
          fun _ hm => nomatch hm⟩)).congr members_new
      simp only [List.length_append, List.length_cons] at hfuel ⊢
      omega
  | @members body name v ms text texts w w' w'' w₃ hw hbody hw' hw'' hv hw₃ hms ih ihs =>
      intro fuel keys rest hfuel
      obtain ⟨fuel, rfl⟩ : ∃ n, fuel = n + 1 := ⟨fuel - 1, by omega⟩
      have hsource : nameText w body w' ++ unit ':' :: (w'' ++ text ++ w₃) ++ unit ',' :: texts
            ++ unit '}' :: rest
          = nameText w body w'
            ++ unit ':' :: (w'' ++ text ++ (w₃ ++ unit ',' :: (texts ++ unit '}' :: rest))) := by
        simp only [List.append_assoc, List.cons_append]
      rw [hsource] at hfuel ⊢
      refine (readMembers_member hw hbody hw' hw'' ih (delimited_append hw₃ (by decide) _) ?_
        ?_).congr members_new
      · simp only [List.length_append, List.length_cons] at hfuel ⊢
        omega
      · rw [afterItem_comma hw₃ (by decide)]
        refine ihs fuel (name :: keys) rest ?_
        simp only [List.length_append, List.length_cons] at hfuel ⊢
        omega

theorem settles_of_isText (h : IsText v text) :
    Settles (assertNoDuplicateWorkspaceRegistryKeys text) (NoDuplicates v) () := by
  obtain ⟨hw, hv, hw'⟩ := h
  next w body w' =>
    have hrest : Delimited w' := by
      intro u hu
      have hblank := hw' u (List.mem_of_head? hu)
      simp only [isDelimiter, hblank, Bool.true_or]
    have hend : skipWhitespace w' = [] := List.dropWhile_eq_nil_iff.mpr hw'
    have hscan := scans_of_derives hv (fuelFor (w ++ body ++ w')) w w' hw hrest (Nat.le_refl _)
    have hwhole : Settles (assertNoDuplicateWorkspaceRegistryKeys (w ++ body ++ w'))
        (NoDuplicates v ∧ True) () :=
      hscan.bind fun _ => .of_ok (throwIf_of_not (not_not.mpr hend)) trivial
    rw [and_true] at hwhole
    exact hwhole

/-- **EXACTNESS**: a text of JSON is accepted when no object of its value has two members of
    one name, and is rejected as an invalid registry otherwise. -/
theorem assertNoDuplicateWorkspaceRegistryKeys_exact {v : Value} {text : Units}
    (h : IsText v text) :
    (assertNoDuplicateWorkspaceRegistryKeys text = .ok () ↔ NoDuplicates v)
      ∧ (¬ NoDuplicates v →
        assertNoDuplicateWorkspaceRegistryKeys text = .error .registryInvalid) := by
  have hwhole := settles_of_isText h
  refine ⟨⟨fun hok => ?_, hwhole.1⟩, hwhole.2⟩
  by_contra hnot
  rw [hwhole.2 hnot] at hok
  exact nomatch hok

/-- A name that is repeated behind an escape, one level down. -/
theorem escaped_duplicate_rejected :
    assertNoDuplicateWorkspaceRegistryKeys (units "[ \x7b\"a\":1, \"\\u0061\":[]\x7d]")
      = .error .registryInvalid := by
  have hblank : Blank [] := fun _ hu => nomatch hu
  have hspace : Blank (units " ") := by decide
  have hitem : Derives (.value (.array [])) (units "[]") := .noItems hblank
  have hlast := Derives.member hspace (by decide : decode (units "\\u0061") = some (units "a"))
    hblank hblank hitem hblank
  have hmembers := Derives.members hblank (by decide : decode (units "a") = some (units "a"))
    hblank hblank (.number (by decide : isNumber (units "1") = true)) hblank hlast
  have htext := IsText.blanks hblank (.array (.item hspace (.object hmembers) hblank)) hblank
  refine (assertNoDuplicateWorkspaceRegistryKeys_exact htext).2 ?_
  rw [noDuplicates_array, List.forall_mem_singleton, noDuplicates_object]
  exact fun h => absurd h.1 (by decide)

end WorkspaceRegistryDuplicateKeys
