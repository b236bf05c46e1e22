import Mathlib.Data.List.Basic
import Mathlib.Data.List.DropRight
import Mathlib.Data.List.Nodup
import Eky.Buffers

/-! # The JSON grammar

    A text is a list of 16-bit code units, and a value is kept as it is written: a number by
    its digits, an object by its members one after the other.

    - `decode` takes the escapes out of the body of a string literal;
    - `isNumber` is the grammar of the numbers;
    - `Derives` relates a value, the items of an array or the members of an object to their
      texts, and `IsText` the texts with blanks around a value;
    - `NoDuplicates`: no object of a value has two members of one name. -/

namespace Json

/-- A text as UTF-16. -/
abbrev Units := List UInt16

instance lawfulUnits : LawfulBEq Units := inferInstance

/-- The unit of a character outside the surrogates' reach. -/
def unit (c : Char) : UInt16 := c.toNat.toUInt16

/-- The code units of an ASCII text. -/
def units (text : String) : Units := text.toList.map unit

/-- A JSON value. -/
inductive Value
  | null
  | bool (b : Bool)
  | number (literal : Units)
  | string (value : Units)
  | array (items : List Value)
  | object (members : List (Units × Value))

/-! ## Lexical grammar -/

/-- JSON's white space. -/
def isBlank (u : UInt16) : Bool :=
  u = unit ' ' || u = unit '\t' || u = unit '\n' || u = unit '\r'

/-- The text after white space. -/
def dropBlanks (text : Units) : Units := text.dropWhile isBlank

/-- The units that end a number or a literal name. -/
def isDelimiter (u : UInt16) : Bool :=
  isBlank u || u = unit ',' || u = unit ']' || u = unit '}'

/-- A digit. -/
def isDigit (u : UInt16) : Bool := unit '0' ≤ u && u ≤ unit '9'

/-- The units that a number may have. -/
def isNumberUnit (u : UInt16) : Bool :=
  isDigit u || u = unit '-' || u = unit '+' || u = unit '.' || u = unit 'e' || u = unit 'E'

/-- The text after an optional unit. -/
def dropOptional (us : List UInt16) : Units → Units
  | [] => []
  | u :: rest => if u ∈ us then rest else u :: rest

/-- `^([eE][+-]?\d+)?$` -/
def isExponent : Units → Bool
  | [] => true
  | e :: rest =>
      let digits := dropOptional [unit '+', unit '-'] rest
      (e = unit 'e' || e = unit 'E') && digits ≠ [] && digits.all isDigit

/-- `^(\.\d+)?([eE][+-]?\d+)?$` -/
def isFractionAndExponent : Units → Bool
  | [] => true
  | u :: rest =>
      if u = unit '.' then rest.takeWhile isDigit ≠ [] && isExponent (rest.dropWhile isDigit)
      else isExponent (u :: rest)

/-- `^-?(0|[1-9]\d*)(\.\d+)?([eE][+-]?\d+)?$` -/
def isNumber (text : Units) : Bool :=
  let unsigned := dropOptional [unit '-'] text
  let whole := unsigned.takeWhile isDigit
  whole ≠ [] && (whole.length = 1 || whole.head? ≠ some (unit '0'))
    && isFractionAndExponent (unsigned.dropWhile isDigit)

/-- The value of a hexadecimal digit. -/
def hexValue (u : UInt16) : Option Nat :=
  if isDigit u then some (u.toNat - 48)
  else if unit 'a' ≤ u && u ≤ unit 'f' then some (u.toNat - 87)
  else if unit 'A' ≤ u && u ≤ unit 'F' then some (u.toNat - 55)
  else none

/-- The unit of four hexadecimal digits. -/
def hexUnit (a b c d : UInt16) : Option UInt16 := do
  let a ← hexValue a
  let b ← hexValue b
  let c ← hexValue c
  let d ← hexValue d
  pure (((a * 16 + b) * 16 + c) * 16 + d).toUInt16

/-- The letters that stand for a unit behind a backslash. -/
def escapes : List (UInt16 × UInt16) :=
  [(unit '"', unit '"'), (unit '\\', unit '\\'), (unit '/', unit '/'), (unit 'b', 8),
    (unit 'f', 12), (unit 'n', 10), (unit 'r', 13), (unit 't', 9)]

/-- What the body of a string literal stands for. -/
def decode : Units → Option Units
  | [] => some []
  | u :: rest =>
      if u = unit '\\' then
        match rest with
        | [] => none
        | e :: rest =>
            if e = unit 'u' then
              match rest with
              | a :: b :: c :: d :: rest => do
                  let v ← hexUnit a b c d
                  let value ← decode rest
                  pure (v :: value)
              | _ => none
            else do
              let v ← escapes.lookup e
              let value ← decode rest
              pure (v :: value)
      else if u = unit '"' ∨ u < 32 then none
      else do
        let value ← decode rest
        pure (u :: value)

/-! ## Values -/

/-- White space only. -/
def Blank (text : Units) : Prop := ∀ u ∈ text, isBlank u = true

instance (text : Units) : Decidable (Blank text) :=
  inferInstanceAs (Decidable (∀ u ∈ text, isBlank u = true))

/-- What a text may stand for. -/
inductive Node
  | value (v : Value)
  | items (vs : List Value)
  | members (ms : List (Units × Value))

/-- A string literal with blanks around it. -/
def nameText (before body after : Units) : Units :=
  before ++ unit '"' :: body ++ unit '"' :: after

/-- A text follows the grammar.  The items of an array and the members of an object are those
    of a list that is not empty, with the blanks around them. -/
inductive Derives : Node → Units → Prop
  | null : Derives (.value .null) (units "null")
  | true : Derives (.value (.bool true)) (units "true")
  | false : Derives (.value (.bool false)) (units "false")
  | number {text} : isNumber text = true → Derives (.value (.number text)) text
  | string {body value} : decode body = some value →
      Derives (.value (.string value)) (unit '"' :: body ++ [unit '"'])
  | noItems {w} : Blank w → Derives (.value (.array [])) (unit '[' :: w ++ [unit ']'])
  | array {vs text} : Derives (.items vs) text →
      Derives (.value (.array vs)) (unit '[' :: text ++ [unit ']'])
  | noMembers {w} : Blank w → Derives (.value (.object [])) (unit '{' :: w ++ [unit '}'])
  | object {ms text} : Derives (.members ms) text →
      Derives (.value (.object ms)) (unit '{' :: text ++ [unit '}'])
  | item {v text w w'} : Blank w → Derives (.value v) text → Blank w' →
      Derives (.items [v]) (w ++ text ++ w')
  | items {v vs text texts w w'} : Blank w → Derives (.value v) text → Blank w' →
      Derives (.items vs) texts → Derives (.items (v :: vs)) (w ++ text ++ w' ++ unit ',' :: texts)
  | member {body name v text w w' w'' w₃} : Blank w → decode body = some name → Blank w' →
      Blank w'' → Derives (.value v) text → Blank w₃ →
      Derives (.members [(name, v)]) (nameText w body w' ++ unit ':' :: (w'' ++ text ++ w₃))
  | members {body name v ms text texts w w' w'' w₃} : Blank w → decode body = some name →
      Blank w' → Blank w'' → Derives (.value v) text → Blank w₃ → Derives (.members ms) texts →
      Derives (.members ((name, v) :: ms))
        (nameText w body w' ++ unit ':' :: (w'' ++ text ++ w₃) ++ unit ',' :: texts)

/-- A text of JSON. -/
inductive IsText (v : Value) : Units → Prop
  | blanks {w text w'} : Blank w → Derives (.value v) text → Blank w' → IsText v (w ++ text ++ w')

/-- No object at any depth has two members of one name. -/
inductive NoDuplicates : Value → Prop
  | null : NoDuplicates .null
  | bool {b} : NoDuplicates (.bool b)
  | number {literal} : NoDuplicates (.number literal)
  | string {value} : NoDuplicates (.string value)
  | array {vs} : (∀ v ∈ vs, NoDuplicates v) → NoDuplicates (.array vs)
  | object {ms} : (ms.map Prod.fst).Nodup → (∀ m ∈ ms, NoDuplicates m.2) →
      NoDuplicates (.object ms)

theorem noDuplicates_array {vs : List Value} :
    NoDuplicates (.array vs) ↔ ∀ v ∈ vs, NoDuplicates v := by
  constructor
  · intro h
    cases h with
    | array h => exact h
  · exact NoDuplicates.array

theorem noDuplicates_object {ms : List (Units × Value)} :
    NoDuplicates (.object ms) ↔ (ms.map Prod.fst).Nodup ∧ ∀ m ∈ ms, NoDuplicates m.2 := by
  constructor
  · intro h
    cases h with
    | object hnames hvalues => exact ⟨hnames, hvalues⟩
  · exact fun h => NoDuplicates.object h.1 h.2

variable {w text : Units} {u : UInt16}

/-! ## Escapes -/

/-- No hexadecimal digit ends a literal or begins an escape. -/
theorem hexValue_plain {n : Nat} (h : hexValue u = some n) : u ≠ unit '\\' ∧ u ≠ unit '"' := by
  constructor
  · rintro rfl
    exact absurd h (by decide +revert)
  · rintro rfl
    exact absurd h (by decide +revert)

theorem hexUnit_plain {a b c d v : UInt16} (h : hexUnit a b c d = some v) :
    (a ≠ unit '\\' ∧ a ≠ unit '"') ∧ (b ≠ unit '\\' ∧ b ≠ unit '"')
      ∧ (c ≠ unit '\\' ∧ c ≠ unit '"') ∧ (d ≠ unit '\\' ∧ d ≠ unit '"') := by
  obtain ⟨_, ha, h⟩ := Option.bind_eq_some_iff.mp h
  obtain ⟨_, hb, h⟩ := Option.bind_eq_some_iff.mp h
  obtain ⟨_, hc, h⟩ := Option.bind_eq_some_iff.mp h
  obtain ⟨_, hd, -⟩ := Option.bind_eq_some_iff.mp h
  exact ⟨hexValue_plain ha, hexValue_plain hb, hexValue_plain hc, hexValue_plain hd⟩

/-! ## Numbers and literals -/

/-- A text without structure: it is read up to the next delimiter. -/
def Bare (text : Units) : Prop :=
  text ≠ [] ∧ ∀ u ∈ text,
    isDelimiter u = false ∧ u ≠ unit '{' ∧ u ≠ unit '[' ∧ u ≠ unit '"'

instance (text : Units) : Decidable (Bare text) := inferInstanceAs (Decidable (_ ∧ _))

theorem mem_dropOptional {us : List UInt16} (h : u ∈ text) : u ∈ us ∨ u ∈ dropOptional us text := by
  cases text with
  | nil => exact nomatch h
  | cons v rest =>
      show u ∈ us ∨ u ∈ (if v ∈ us then rest else v :: rest)
      by_cases hv : v ∈ us
      · rw [if_pos hv]
        rcases List.mem_cons.mp h with rfl | h
        · exact .inl hv
        · exact .inr h
      · rw [if_neg hv]
        exact .inr h

theorem isNumberUnit_of_isDigit (h : isDigit u = true) : isNumberUnit u = true := by
  simp only [isNumberUnit, h, Bool.true_or]

theorem isNumberUnit_of_isExponent (h : isExponent text = true) :
    ∀ u ∈ text, isNumberUnit u = true := by
  cases text with
  | nil => exact fun _ hu => nomatch hu
  | cons e rest =>
      simp only [isExponent, Bool.and_eq_true, Bool.or_eq_true, decide_eq_true_eq,
        List.all_eq_true] at h
      obtain ⟨⟨he, -⟩, hdigits⟩ := h
      intro u hu
      rcases List.mem_cons.mp hu with rfl | hu
      · rcases he with rfl | rfl
        · decide
        · decide
      · rcases @mem_dropOptional rest u [unit '+', unit '-'] hu with hsign | hdigit
        · exact (by decide : ∀ v ∈ [unit '+', unit '-'], isNumberUnit v = true) u hsign
        · exact isNumberUnit_of_isDigit (hdigits u hdigit)

theorem mem_digits_or_rest (h : u ∈ text) : isDigit u = true ∨ u ∈ text.dropWhile isDigit := by
  rw [← List.takeWhile_append_dropWhile (p := isDigit) (l := text), List.mem_append] at h
  exact h.imp_left List.mem_takeWhile_imp

theorem isNumberUnit_of_isFractionAndExponent (h : isFractionAndExponent text = true) :
    ∀ u ∈ text, isNumberUnit u = true := by
  cases text with
  | nil => exact fun _ hu => nomatch hu
  | cons v rest =>
      change (if v = unit '.' then
          decide (rest.takeWhile isDigit ≠ []) && isExponent (rest.dropWhile isDigit)
        else isExponent (v :: rest)) = true at h
      split at h
      · next hpoint =>
          rw [Bool.and_eq_true] at h
          intro u hu
          rcases List.mem_cons.mp hu with rfl | hu
          · rw [hpoint]
            decide
          · rcases mem_digits_or_rest hu with hdigit | hrest
            · exact isNumberUnit_of_isDigit hdigit
            · exact isNumberUnit_of_isExponent h.2 u hrest
      · exact isNumberUnit_of_isExponent h

theorem isNumberUnit_of_isNumber (h : isNumber text = true) :
    ∀ u ∈ text, isNumberUnit u = true := by
  simp only [isNumber, Bool.and_eq_true] at h
  intro u hu
  rcases @mem_dropOptional text u [unit '-'] hu with hsign | hu
  · exact (by decide : ∀ v ∈ [unit '-'], isNumberUnit v = true) u hsign
  · rcases mem_digits_or_rest hu with hdigit | hrest
    · exact isNumberUnit_of_isDigit hdigit
    · exact isNumberUnit_of_isFractionAndExponent h.2 u hrest

theorem bare_of_isNumber (h : isNumber text = true) : Bare text := by
  refine ⟨?_, fun u hu => ?_⟩
  · rintro rfl
    exact absurd h (by decide)
  · have hunit := isNumberUnit_of_isNumber h u hu
    have hother : ∀ v, isNumberUnit v = false → u ≠ v := by
      rintro v hv rfl
      exact Bool.false_ne_true (hv.symm.trans hunit)
    refine ⟨?_, hother _ (by decide), hother _ (by decide), hother _ (by decide)⟩
    simp only [isDelimiter, isBlank, Bool.or_eq_false_iff, decide_eq_false_iff_not]
    exact ⟨⟨⟨⟨⟨⟨hother _ (by decide), hother _ (by decide)⟩, hother _ (by decide)⟩,
      hother _ (by decide)⟩, hother _ (by decide)⟩, hother _ (by decide)⟩, hother _ (by decide)⟩

/-! ## The first unit of a text -/

/-- What may stand behind a value. -/
def Delimited (rest : Units) : Prop := ∀ u ∈ rest.head?, isDelimiter u = true

theorem dropBlanks_append (hw : Blank w) (text : Units) :
    dropBlanks (w ++ text) = dropBlanks text :=
  List.dropWhile_append_of_pos hw

theorem dropBlanks_cons (hu : isBlank u = false) (text : Units) :
    dropBlanks (u :: text) = u :: text := by
  rw [dropBlanks, List.dropWhile_cons, hu, if_neg Bool.false_ne_true]

theorem dropBlanks_idem (text : Units) : dropBlanks (dropBlanks text) = dropBlanks text :=
  List.dropWhile_idempotent ..

theorem delimited_append (hw : Blank w) (hu : isDelimiter u = true) (rest : Units) :
    Delimited (w ++ u :: rest) := by
  intro v hv
  cases w with
  | nil =>
      obtain rfl := Option.some.inj hv
      exact hu
  | cons b w =>
      obtain rfl := Option.some.inj hv
      simp only [isDelimiter, hw b List.mem_cons_self, Bool.true_or]

theorem dropBlanks_first {more : Units} (h : dropBlanks text = u :: more) (rest : Units) :
    dropBlanks (text ++ rest) = u :: (more ++ rest) := by
  have hne : ((text.dropWhile isBlank).isEmpty) = false := by
    show (dropBlanks text).isEmpty = false
    rw [h]
    rfl
  rw [dropBlanks, List.dropWhile_append, hne, if_neg Bool.false_ne_true]
  show dropBlanks text ++ rest = _
  rw [h, List.cons_append]

/-- The first unit of a node's text behind the blanks. -/
def First : Node → Units → Prop
  | .value _, text => ∃ u rest, text = u :: rest ∧ isDelimiter u = false
  | .items _, text => ∃ u rest, dropBlanks text = u :: rest ∧ isDelimiter u = false
  | .members _, text => ∃ rest, dropBlanks text = unit '"' :: rest

theorem isBlank_of_not_delimiter (h : isDelimiter u = false) : isBlank u = false := by
  simp only [isDelimiter, Bool.or_eq_false_iff] at h
  exact h.1.1.1

theorem first_of_blank (hw : Blank w) {rest : Units} (htext : text = u :: rest)
    (hu : isDelimiter u = false) (more : Units) :
    dropBlanks (w ++ text ++ more) = u :: (rest ++ more) := by
  rw [List.append_assoc, dropBlanks_append hw, htext, List.cons_append,
    dropBlanks_cons (isBlank_of_not_delimiter hu)]

theorem first_of_derives {node : Node} (h : Derives node text) : First node text := by
  induction h with
  | null => exact ⟨_, _, rfl, by decide⟩
  | true => exact ⟨_, _, rfl, by decide⟩
  | false => exact ⟨_, _, rfl, by decide⟩
  | @number text hnumber =>
      obtain ⟨hne, hall⟩ := bare_of_isNumber hnumber
      obtain ⟨u, rest, rfl⟩ := List.exists_cons_of_ne_nil hne
      exact ⟨u, rest, rfl, (hall u List.mem_cons_self).1⟩
  | string _ => exact ⟨_, _, rfl, by decide⟩
  | noItems _ => exact ⟨_, _, rfl, by decide⟩
  | array _ _ => exact ⟨_, _, rfl, by decide⟩
  | noMembers _ => exact ⟨_, _, rfl, by decide⟩
  | object _ _ => exact ⟨_, _, rfl, by decide⟩
  | item hw _ _ ih =>
      obtain ⟨u, rest, htext, hu⟩ := ih
      exact ⟨u, _, first_of_blank hw htext hu _, hu⟩
  | @items v vs text texts w w' hw _ _ _ ih _ =>
      obtain ⟨u, rest, htext, hu⟩ := ih
      refine ⟨u, rest ++ (w' ++ unit ',' :: texts), ?_, hu⟩
      rw [List.append_assoc, first_of_blank hw htext hu]
  | member hw _ _ _ _ _ _ =>
      simp only [First, nameText, List.append_assoc, List.cons_append, dropBlanks_append hw]
      exact ⟨_, dropBlanks_cons (by decide) _⟩
  | members hw _ _ _ _ _ _ _ _ =>
      simp only [First, nameText, List.append_assoc, List.cons_append, dropBlanks_append hw]
      exact ⟨_, dropBlanks_cons (by decide) _⟩

end Json
