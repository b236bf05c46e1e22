import Eky.Decimals
import Eky.DoubleRounding
import Eky.JsonGrammar

/-! # Parsing JSON

    `parse` is a recursive descent over the units of a text.  The calls are counted down, and
    the count is what a text of its length can take at most.

    - `parses_of_derives`: what follows the grammar is read, up to what stands behind it;
    - `parse_of_isText`: a text of a value is parsed to that value. -/

namespace Json

/-! ## The parser -/

/-- A string literal behind its first quote: what it stands for, and what is behind it. -/
def literalBody : Units → Option (Units × Units)
  | [] => none
  | u :: rest =>
      if u = unit '\\' then
        match rest with
        | [] => none
        | e :: rest => do
            let found ← literalBody rest
            pure (u :: e :: found.1, found.2)
      else if u = unit '"' then some ([], rest)
      else do
        let found ← literalBody rest
        pure (u :: found.1, found.2)

/-- A string and the text after it. -/
def parseString (text : Units) : Option (Units × Units) := do
  let found ← literalBody text
  let value ← decode found.1
  pure (value, found.2)

/-- A token without structure. -/
def bareValue (token : Units) : Option Value :=
  if token = units "null" then some .null
  else if token = units "true" then some (.bool true)
  else if token = units "false" then some (.bool false)
  else if isNumber token then some (.number token)
  else none

/-- A number or a word, and the text after it. -/
def parseBare (text : Units) : Option (Value × Units) := do
  let v ← bareValue (text.takeWhile fun u => !isDelimiter u)
  pure (v, text.dropWhile fun u => !isDelimiter u)

/-- Behind an item: the end of the list, or the rest of it. -/
def moreItems {α : Type} (close : UInt16) (a : α) (next : Units → Option (List α × Units))
    (text : Units) : Option (List α × Units) :=
  match dropBlanks text with
  | [] => none
  | u :: rest =>
      if u = close then some ([a], rest)
      else if u = unit ',' then (next rest).map fun found => (a :: found.1, found.2)
      else none

/-- A name with its colon. -/
def parseName (text : Units) : Option (Units × Units) :=
  match dropBlanks text with
  | [] => none
  | u :: rest =>
      if u ≠ unit '"' then none
      else (parseString rest).bind fun found =>
        match dropBlanks found.2 with
        | [] => none
        | c :: rest => if c = unit ':' then some (found.1, rest) else none

mutual

/-- A value and the text after it, with fuel for the depth. -/
def parseValue : Nat → Units → Option (Value × Units)
  | 0, _ => none
  | fuel + 1, text =>
      match dropBlanks text with
      | [] => none
      | u :: rest =>
          if u = unit '{' then
            if (dropBlanks rest).head? = some (unit '}') then
              some (.object [], (dropBlanks rest).tail)
            else (parseMembers fuel rest).map fun found => (.object found.1, found.2)
          else if u = unit '[' then
            if (dropBlanks rest).head? = some (unit ']') then
              some (.array [], (dropBlanks rest).tail)
            else (parseItems fuel rest).map fun found => (.array found.1, found.2)
          else if u = unit '"' then
            (parseString rest).map fun found => (.string found.1, found.2)
          else parseBare (u :: rest)

/-- The items of an array. -/
def parseItems : Nat → Units → Option (List Value × Units)
  | 0, _ => none
  | fuel + 1, text => do
      let found ← parseValue fuel text
      moreItems (unit ']') found.1 (fun next => parseItems fuel next) found.2

/-- The members of an object. -/
def parseMembers : Nat → Units → Option (List (Units × Value) × Units)
  | 0, _ => none
  | fuel + 1, text => do
      let name ← parseName text
      let found ← parseValue fuel name.2
      moreItems (unit '}') (name.1, found.1) (fun next => parseMembers fuel next) found.2

end

/-- `JSON.parse` -/
def parse (text : Units) : Option Value := do
  let found ← parseValue (2 * text.length + 1) text
  if Blank found.2 then some found.1 else none

variable {v : Value} {body text w rest after : Units} {fuel : Nat}

/-! ## Literals and tokens -/

theorem literalBody_plain {u : UInt16} (hback : u ≠ unit '\\') (hquote : u ≠ unit '"')
    (h : literalBody text = some (body, rest)) :
    literalBody (u :: text) = some (u :: body, rest) := by
  unfold literalBody
  rw [if_neg hback, if_neg hquote, h]
  rfl

theorem literalBody_escape {e : UInt16} (h : literalBody text = some (body, rest)) :
    literalBody (unit '\\' :: e :: text) = some (unit '\\' :: e :: body, rest) := by
  unfold literalBody
  rw [if_pos rfl]
  dsimp only
  rw [h]
  rfl

/-- The body of a literal is read to its end. -/
theorem literalBody_of_decode {value : Units} (h : decode body = some value) (rest : Units) :
    literalBody (body ++ unit '"' :: rest) = some (body, rest) := by
  induction hlength : body.length using Nat.strongRecOn generalizing body value with
  | _ n ih =>
      subst hlength
      cases body with
      | nil =>
          rw [List.nil_append]
          unfold literalBody
          rw [if_neg (by decide), if_pos rfl]
      | cons u body =>
          unfold decode at h
          split at h
          · next hback =>
              subst hback
              cases body with
              | nil => exact nomatch h
              | cons e body =>
                  dsimp only at h
                  split at h
                  · -- the four digits behind a `u`
                    split at h
                    · next a b c d rest' =>
                        obtain ⟨v, hv, h⟩ := Option.bind_eq_some_iff.mp h
                        obtain ⟨tail, htail, -⟩ := Option.bind_eq_some_iff.mp h
                        obtain ⟨ha, hb, hc, hd⟩ := hexUnit_plain hv
                        refine literalBody_escape (literalBody_plain ha.1 ha.2
                          (literalBody_plain hb.1 hb.2 (literalBody_plain hc.1 hc.2
                            (literalBody_plain hd.1 hd.2 (ih rest'.length ?_ htail rfl)))))
                        simp only [List.length_cons]
                        omega
                    · exact nomatch h
                  · obtain ⟨v, -, h⟩ := Option.bind_eq_some_iff.mp h
                    obtain ⟨tail, htail, -⟩ := Option.bind_eq_some_iff.mp h
                    refine literalBody_escape (ih body.length ?_ htail rfl)
                    simp only [List.length_cons]
                    omega
          · next hback =>
              split at h
              · exact nomatch h
              · next hplain =>
                  rw [not_or] at hplain
                  obtain ⟨tail, htail, -⟩ := Option.bind_eq_some_iff.mp h
                  exact literalBody_plain hback hplain.1 (ih body.length (by simp) htail rfl)

theorem parseString_of_decode {value : Units} (h : decode body = some value) (rest : Units) :
    parseString (body ++ unit '"' :: rest) = some (value, rest) := by
  unfold parseString
  rw [literalBody_of_decode h rest]
  simp only [Option.bind_eq_bind, Option.bind_some, h]
  rfl

/-- The token of a bare text ends at the delimiter behind it. -/
theorem token_of_bare (h : Bare text) (hrest : Delimited rest) :
    (text ++ rest).takeWhile (fun u => !isDelimiter u) = text
      ∧ (text ++ rest).dropWhile (fun u => !isDelimiter u) = rest := by
  have hplain : ∀ u ∈ text, (!isDelimiter u) = true := by
    intro u hu
    rw [(h.2 u hu).1]
    rfl
  have hstop : rest.takeWhile (fun u => !isDelimiter u) = []
      ∧ rest.dropWhile (fun u => !isDelimiter u) = rest := by
    cases rest with
    | nil => exact ⟨rfl, rfl⟩
    | cons u rest =>
        rw [List.takeWhile_cons, List.dropWhile_cons, hrest u rfl]
        exact ⟨rfl, rfl⟩
  rw [List.takeWhile_append_of_pos hplain, List.dropWhile_append_of_pos hplain, hstop.1, hstop.2,
    List.append_nil]
  exact ⟨rfl, rfl⟩

theorem parseValue_of_bare (h : Bare text) (hv : bareValue text = some v) (hw : Blank w)
    (hrest : Delimited rest) (hfuel : 0 < fuel) :
    parseValue fuel (w ++ text ++ rest) = some (v, rest) := by
  obtain ⟨fuel, rfl⟩ := Nat.exists_eq_add_one.mpr hfuel
  obtain ⟨htake, hdrop⟩ := token_of_bare h hrest
  obtain ⟨u, more, rfl⟩ := List.exists_cons_of_ne_nil h.1
  obtain ⟨hdelimiter, hbrace, hbracket, hquote⟩ := h.2 u List.mem_cons_self
  unfold parseValue
  rw [first_of_blank hw rfl hdelimiter]
  dsimp only
  rw [if_neg hbrace, if_neg hbracket, if_neg hquote]
  rw [List.cons_append] at htake hdrop
  simp only [parseBare, htake, hdrop, hv]
  rfl

theorem bareValue_of_isNumber (h : isNumber text = true) :
    bareValue text = some (.number text) := by
  have hother : ∀ token, isNumber token = false → text ≠ token := by
    rintro token htoken rfl
    exact Bool.false_ne_true (htoken.symm.trans h)
  unfold bareValue
  rw [if_neg (hother _ (by decide)), if_neg (hother _ (by decide)), if_neg (hother _ (by decide)),
    if_pos h]

/-! ## Completeness -/

/-- What the parser makes of a node's text. -/
def Parses : Node → Units → Prop
  | .value v, text => ∀ fuel w rest, Blank w → Delimited rest →
      2 * (w ++ text ++ rest).length + 1 ≤ fuel →
        parseValue fuel (w ++ text ++ rest) = some (v, rest)
  | .items vs, text => ∀ fuel rest, 2 * (text ++ unit ']' :: rest).length + 2 ≤ fuel →
      parseItems fuel (text ++ unit ']' :: rest) = some (vs, rest)
  | .members ms, text => ∀ fuel rest, 2 * (text ++ unit '}' :: rest).length + 2 ≤ fuel →
      parseMembers fuel (text ++ unit '}' :: rest) = some (ms, rest)

theorem moreItems_close {α : Type} {close : UInt16} {a : α} {next : Units → Option (List α × Units)}
    (hw : Blank w) (hclose : isBlank close = false) :
    moreItems close a next (w ++ close :: rest) = some ([a], rest) := by
  unfold moreItems
  rw [dropBlanks_append hw, dropBlanks_cons hclose]
  dsimp only
  rw [if_pos rfl]

theorem moreItems_comma {α : Type} {close : UInt16} {a : α} {next : Units → Option (List α × Units)}
    {as : List α} (hw : Blank w) (hclose : close ≠ unit ',') (h : next rest = some (as, after)) :
    moreItems close a next (w ++ unit ',' :: rest) = some (a :: as, after) := by
  unfold moreItems
  rw [dropBlanks_append hw, dropBlanks_cons (by decide)]
  dsimp only
  rw [if_neg (Ne.symm hclose), if_pos rfl, h]
  rfl

theorem parseName_of_decode {w' name : Units} (hw : Blank w) (hbody : decode body = some name)
    (hw' : Blank w') (rest : Units) :
    parseName (nameText w body w' ++ unit ':' :: rest) = some (name, rest) := by
  have hname : dropBlanks (nameText w body w' ++ unit ':' :: rest)
      = unit '"' :: (body ++ unit '"' :: (w' ++ unit ':' :: rest)) := by
    simp only [nameText, List.append_assoc, List.cons_append, dropBlanks_append hw]
    exact dropBlanks_cons (by decide) _
  unfold parseName
  rw [hname]
  dsimp only
  rw [if_neg (not_not.mpr rfl), parseString_of_decode hbody, Option.bind_some]
  dsimp only
  rw [dropBlanks_append hw', dropBlanks_cons (by decide)]
  dsimp only
  rw [if_pos rfl]

theorem parseValue_array {inner : Units} (hw : Blank w) (fuel : Nat) :
    parseValue (fuel + 1) (w ++ (unit '[' :: inner ++ [unit ']']) ++ rest)
      = if (dropBlanks (inner ++ unit ']' :: rest)).head? = some (unit ']') then
          some (.array [], (dropBlanks (inner ++ unit ']' :: rest)).tail)
        else (parseItems fuel (inner ++ unit ']' :: rest)).map fun found =>
          (.array found.1, found.2) := by
  unfold parseValue
  rw [first_of_blank hw List.cons_append (by decide)]
  dsimp only
  rw [if_neg (by decide), if_pos rfl, List.append_assoc]
  rfl

theorem parseValue_object {inner : Units} (hw : Blank w) (fuel : Nat) :
    parseValue (fuel + 1) (w ++ (unit '{' :: inner ++ [unit '}']) ++ rest)
      = if (dropBlanks (inner ++ unit '}' :: rest)).head? = some (unit '}') then
          some (.object [], (dropBlanks (inner ++ unit '}' :: rest)).tail)
        else (parseMembers fuel (inner ++ unit '}' :: rest)).map fun found =>
          (.object found.1, found.2) := by
  unfold parseValue
  rw [first_of_blank hw List.cons_append (by decide)]
  dsimp only
  rw [if_pos rfl, List.append_assoc]
  rfl

theorem parseMembers_member {name : Units} {w' w'' : Units} (hw : Blank w)
    (hbody : decode body = some name) (hw' : Blank w') (hw'' : Blank w'')
    (h : Parses (.value v) text) (hafter : Delimited after)
    (hfuel : 2 * (w'' ++ text ++ after).length + 1 ≤ fuel) :
    parseMembers (fuel + 1) (nameText w body w' ++ unit ':' :: (w'' ++ text ++ after))
      = moreItems (unit '}') (name, v) (fun next => parseMembers fuel next) after := by
  conv_lhs => unfold parseMembers
  rw [parseName_of_decode hw hbody hw']
  show ((parseValue fuel (w'' ++ text ++ after)).bind fun found =>
    moreItems (unit '}') (name, found.1) (fun next => parseMembers fuel next) found.2) = _
  rw [h fuel w'' after hw'' hafter hfuel]
  rfl

theorem parseItems_item (hw : Blank w) (h : Parses (.value v) text) (hafter : Delimited after)
    (hfuel : 2 * (w ++ text ++ after).length + 1 ≤ fuel) :
    parseItems (fuel + 1) (w ++ text ++ after)
      = moreItems (unit ']') v (fun next => parseItems fuel next) after := by
  conv_lhs => unfold parseItems
  rw [h fuel w after hw hafter hfuel]
  rfl

/-- **THE PARSER READS WHAT THE GRAMMAR DERIVES** -/
theorem parses_of_derives {node : Node} (h : Derives node text) : Parses node text := by
  induction h with
  | null =>
      intro fuel w rest hw hrest hfuel
      exact parseValue_of_bare (by decide) rfl hw hrest (by omega)
  | true =>
      intro fuel w rest hw hrest hfuel
      exact parseValue_of_bare (by decide) rfl hw hrest (by omega)
  | false =>
      intro fuel w rest hw hrest hfuel
      exact parseValue_of_bare (by decide) rfl hw hrest (by omega)
  | number hnumber =>
      intro fuel w rest hw hrest hfuel
      exact parseValue_of_bare (bare_of_isNumber hnumber) (bareValue_of_isNumber hnumber) hw hrest
        (by omega)
  | @string body value hbody =>
      intro fuel w rest hw _ hfuel
      obtain ⟨fuel, rfl⟩ : ∃ n, fuel = n + 1 := ⟨fuel - 1, by omega⟩
      unfold parseValue
      rw [first_of_blank hw List.cons_append (by decide)]
      dsimp only
      rw [if_neg (by decide), if_neg (by decide), if_pos rfl, List.append_assoc]
      show (parseString (body ++ unit '"' :: rest)).map _ = _
      rw [parseString_of_decode hbody]
      rfl
  | noItems hw' =>
      intro fuel w rest hw _ hfuel
      obtain ⟨fuel, rfl⟩ : ∃ n, fuel = n + 1 := ⟨fuel - 1, by omega⟩
      rw [parseValue_array hw, dropBlanks_append hw', dropBlanks_cons (by decide),
        List.head?_cons, if_pos rfl]
      rfl
  | @array vs text hvs ih =>
      intro fuel w rest hw _ hfuel
      simp only [List.length_append, List.length_cons] at hfuel
      obtain ⟨fuel, rfl⟩ : ∃ n, fuel = n + 1 := ⟨fuel - 1, by omega⟩
      obtain ⟨u, more, hfirst, hu⟩ := first_of_derives hvs
      have hhead : (dropBlanks (text ++ unit ']' :: rest)).head? ≠ some (unit ']') := by
        rw [dropBlanks_first hfirst, List.head?_cons]
        intro heq
        rw [Option.some.inj heq] at hu
        exact absurd hu (by decide)
      have hitems : parseItems fuel (text ++ unit ']' :: rest) = some (vs, rest) := by
        refine ih fuel rest ?_
        simp only [List.length_append, List.length_cons]
        omega
      rw [parseValue_array hw, if_neg hhead, hitems]
      rfl
  | noMembers hw' =>
      intro fuel w rest hw _ hfuel
      obtain ⟨fuel, rfl⟩ : ∃ n, fuel = n + 1 := ⟨fuel - 1, by omega⟩
      rw [parseValue_object hw, dropBlanks_append hw', dropBlanks_cons (by decide),
        List.head?_cons, if_pos rfl]
      rfl
  | @object ms text hms ih =>
      intro fuel w rest hw _ hfuel
      simp only [List.length_append, List.length_cons] at hfuel
      obtain ⟨fuel, rfl⟩ : ∃ n, fuel = n + 1 := ⟨fuel - 1, by omega⟩
      obtain ⟨more, hfirst⟩ := first_of_derives hms
      have hhead : (dropBlanks (text ++ unit '}' :: rest)).head? ≠ some (unit '}') := by
        rw [dropBlanks_first hfirst, List.head?_cons]
        decide
      have hmembers : parseMembers fuel (text ++ unit '}' :: rest) = some (ms, rest) := by
        refine ih fuel rest ?_
        simp only [List.length_append, List.length_cons]
        omega
      rw [parseValue_object hw, if_neg hhead, hmembers]
      rfl
  | @item v text w w' hw hv hw' ih =>
      intro fuel rest hfuel
      obtain ⟨fuel, rfl⟩ : ∃ n, fuel = n + 1 := ⟨fuel - 1, by omega⟩
      have htext : w ++ text ++ w' ++ unit ']' :: rest
          = w ++ text ++ (w' ++ unit ']' :: rest) := List.append_assoc _ _ _
      rw [htext] at hfuel ⊢
      rw [parseItems_item hw ih (delimited_append hw' (by decide) rest) (by omega)]
      exact moreItems_close hw' (by decide)
  | @items v vs text texts w w' hw hv hw' hvs ih ihs =>
      intro fuel rest hfuel
      obtain ⟨fuel, rfl⟩ : ∃ n, fuel = n + 1 := ⟨fuel - 1, by omega⟩
      have htext : w ++ text ++ w' ++ unit ',' :: texts ++ unit ']' :: rest
          = w ++ text ++ (w' ++ unit ',' :: (texts ++ unit ']' :: rest)) := by
        simp only [List.append_assoc, List.cons_append]
      rw [htext] at hfuel ⊢
      rw [parseItems_item hw ih (delimited_append hw' (by decide) _) (by omega)]
      refine moreItems_comma hw' (by decide) (ihs fuel rest ?_)
      simp only [List.length_append, List.length_cons] at hfuel ⊢
      omega
  | @member body name v text w w' w'' w₃ hw hbody hw' hw'' hv hw₃ ih =>
      intro fuel rest hfuel
      obtain ⟨fuel, rfl⟩ : ∃ n, fuel = n + 1 := ⟨fuel - 1, by omega⟩
      have htext : nameText w body w' ++ unit ':' :: (w'' ++ text ++ w₃) ++ unit '}' :: rest
          = nameText w body w' ++ unit ':' :: (w'' ++ text ++ (w₃ ++ unit '}' :: rest)) := by
        simp only [List.append_assoc, List.cons_append]
      rw [htext] at hfuel ⊢
      rw [parseMembers_member hw hbody hw' hw'' ih (delimited_append hw₃ (by decide) rest)]
      · exact moreItems_close hw₃ (by decide)
      · simp only [List.length_append, List.length_cons] at hfuel ⊢
        omega
  | @members body name v ms text texts w w' w'' w₃ hw hbody hw' hw'' hv hw₃ hms ih ihs =>
      intro fuel rest hfuel
      obtain ⟨fuel, rfl⟩ : ∃ n, fuel = n + 1 := ⟨fuel - 1, by omega⟩
      have htext : nameText w body w' ++ unit ':' :: (w'' ++ text ++ w₃) ++ unit ',' :: texts
            ++ unit '}' :: rest
          = nameText w body w'
            ++ unit ':' :: (w'' ++ text ++ (w₃ ++ unit ',' :: (texts ++ unit '}' :: rest))) := by
        simp only [List.append_assoc, List.cons_append]
      rw [htext] at hfuel ⊢
      rw [parseMembers_member hw hbody hw' hw'' ih (delimited_append hw₃ (by decide) _)]
      · refine moreItems_comma hw₃ (by decide) (ihs fuel rest ?_)
        simp only [List.length_append, List.length_cons] at hfuel ⊢
        omega
      · simp only [List.length_append, List.length_cons] at hfuel ⊢
        omega

theorem parse_of_isText (h : IsText v text) : parse text = some v := by
  obtain ⟨hw, hv, hw'⟩ := h
  next w body w' =>
    have hrest : Delimited w' := by
      intro u hu
      have hblank := hw' u (List.mem_of_head? hu)
      simp only [isDelimiter, hblank, Bool.true_or]
    unfold parse
    rw [parses_of_derives hv _ w w' hw hrest (Nat.le_refl _)]
    exact if_pos hw'

/-! ## What a number is worth -/

/-- The characters of a number. -/
def digitsOf (text : Units) : List Char := text.map fun u => Char.ofNat u.toNat

/-- What is behind the `e` of a number. -/
def exponentValue (text : Units) : Int :=
  let digits := dropOptional [unit '+', unit '-'] text.tail
  let size : Int := Decimals.value (digitsOf digits)
  if text.tail.head? = some (unit '-') then -size else size

/-- The rational number of a literal. -/
def exactValue (literal : Units) : ℚ :=
  let unsigned := dropOptional [unit '-'] literal
  let whole := unsigned.takeWhile isDigit
  let rest := unsigned.dropWhile isDigit
  let hasPoint := rest.head? = some (unit '.')
  let fraction := if hasPoint then rest.tail.takeWhile isDigit else []
  let exponent := if hasPoint then rest.tail.dropWhile isDigit else rest
  let sign : ℚ := if literal.head? = some (unit '-') then -1 else 1
  sign * Decimals.value (digitsOf (whole ++ fraction))
    * 10 ^ (exponentValue exponent - fraction.length)

/-- A literal is read as the double nearest to it; is that double this integer? -/
def numberIs (literal : Units) (n : Int) : Bool := DoubleRounding.toDouble (exactValue literal) = n

theorem numberIs_of_exact {literal : Units} {n : Int} (h : exactValue literal = n) (hn : 0 < n)
    (hmax : n < 2 ^ 53) : numberIs literal n = true := by
  rw [numberIs, h, DoubleRounding.toDouble_intCast hn hmax]
  exact decide_eq_true rfl

end Json
