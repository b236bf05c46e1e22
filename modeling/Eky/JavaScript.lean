import Mathlib.Data.List.Basic
import Mathlib.Data.Nat.Notation

/-! # What the runtime of the source brings along

    The numbers, texts, dates and patterns that several parts of the source take from
    JavaScript itself.

    - `maximumSafeInteger`: the last of the integers that a number tells apart;
    - `isWhiteSpace`, `trim`: the white space at the ends of a text;
    - `codeUnits`, `utf16Length`: texts as JavaScript stores and counts them;
    - `daysInMonth`: the calendar of `Date`;
    - `matchesPattern`, `uuidPattern`: anchored regular expressions that ask for one class of
      characters at every place. -/

/-- `Number.MAX_SAFE_INTEGER`, in whatever numbers a model counts. -/
def maximumSafeInteger {α : Type} [OfNat α 9007199254740991] : α := 9007199254740991

namespace JavaScript

/-! ## White space -/

/-- The characters that `trim` removes. -/
def isWhiteSpace (c : Char) : Bool :=
  c.toNat ∈ [9, 10, 11, 12, 13, 32, 160, 5760, 8232, 8233, 8239, 8287, 12288, 65279]
    || (8192 ≤ c.toNat && c.toNat ≤ 8202)

/-- `text.trim()` -/
def trim (text : List Char) : List Char :=
  ((text.dropWhile isWhiteSpace).reverse.dropWhile isWhiteSpace).reverse

variable {text : List Char}

/-- A text that neither starts nor ends in white space is left as it is. -/
theorem trim_eq_self (hfirst : ∀ c ∈ text.head?, isWhiteSpace c = false)
    (hlast : ∀ c ∈ text.getLast?, isWhiteSpace c = false) : trim text = text := by
  have hkeep : ∀ {t : List Char}, (∀ c ∈ t.head?, isWhiteSpace c = false) →
      t.dropWhile isWhiteSpace = t := by
    intro t ht
    cases t with
    | nil => rfl
    | cons c t => rw [List.dropWhile_cons, ht c rfl, if_neg (by decide)]
  rw [trim, hkeep hfirst, hkeep ?_, List.reverse_reverse]
  rw [List.head?_reverse]
  exact hlast

/-- Nor is a text without any white space changed. -/
theorem trim_of_forall (h : ∀ c ∈ text, isWhiteSpace c = false) : trim text = text :=
  trim_eq_self (fun c hc => h c (List.mem_of_head? hc)) fun c hc => h c (List.mem_of_getLast? hc)

/-- Trimming once is enough. -/
theorem trim_trim (text : List Char) : trim (trim text) = trim text := by
  refine trim_eq_self (fun c hc => ?_) fun c hc => ?_
  · -- the first character is that of the text without the blanks in front of it
    have hprefix : trim text <+: text.dropWhile isWhiteSpace := by
      rw [trim, ← List.reverse_suffix, List.reverse_reverse]
      exact List.dropWhile_suffix _
    obtain ⟨rest, hrest⟩ := hprefix
    obtain ⟨more, hmore⟩ : ∃ more, trim text = c :: more := List.head?_eq_some_iff.mp hc
    have hhead := List.head?_dropWhile_not isWhiteSpace text
    rw [← hrest, hmore] at hhead
    exact hhead
  · have hhead := List.head?_dropWhile_not isWhiteSpace (text.dropWhile isWhiteSpace).reverse
    rw [trim, List.getLast?_reverse] at hc
    rw [Option.mem_def.mp hc] at hhead
    exact hhead

/-! ## UTF-16 -/

/-- The code units of a code point in UTF-16: itself, or two surrogates. -/
def codeUnits (codePoint : Nat) : List Nat :=
  if codePoint < 65536 then [codePoint]
  else [55296 + (codePoint - 65536) / 1024, 56320 + (codePoint - 65536) % 1024]

/-- A code point of the basic plane is a single unit. -/
theorem codeUnits_basic {codePoint : Nat} (h : codePoint < 65536) :
    codeUnits codePoint = [codePoint] := if_pos h

/-- Every other one is a high and a low surrogate. -/
theorem codeUnits_supplementary {codePoint : Nat} (h : 65536 ≤ codePoint) :
    codeUnits codePoint
      = [55296 + (codePoint - 65536) / 1024, 56320 + (codePoint - 65536) % 1024] :=
  if_neg (Nat.not_lt.mpr h)

theorem one_le_length_codeUnits (codePoint : Nat) : 1 ≤ (codeUnits codePoint).length := by
  rcases Nat.lt_or_ge codePoint 65536 with h | h
  · rw [codeUnits_basic h]
    exact Nat.le_refl 1
  · rw [codeUnits_supplementary h]
    exact Nat.le_succ 1

/-- `text.length` -/
def utf16Length (text : List Char) : Nat := (text.flatMap fun c => codeUnits c.toNat).length

theorem utf16Length_cons (c : Char) (text : List Char) :
    utf16Length (c :: text) = (codeUnits c.toNat).length + utf16Length text := by
  rw [utf16Length, List.flatMap_cons, List.length_append, utf16Length]

/-- A text has at least as many units as characters. -/
theorem length_le_utf16Length (text : List Char) : text.length ≤ utf16Length text := by
  induction text with
  | nil => exact Nat.le_refl 0
  | cons c text ih =>
      have hunits := one_le_length_codeUnits c.toNat
      rw [utf16Length_cons, List.length_cons]
      omega

/-- In the basic plane the two lengths agree. -/
theorem utf16Length_of_basic (h : ∀ c ∈ text, c.toNat < 65536) :
    utf16Length text = text.length := by
  induction text with
  | nil => rfl
  | cons c text ih =>
      rw [utf16Length_cons, codeUnits_basic (h c List.mem_cons_self),
        ih fun d hd => h d (List.mem_cons_of_mem c hd)]
      exact Nat.add_comm 1 text.length

/-! ## The calendar -/

/-- The number of days in a month, 1 to 12, of the Gregorian calendar. -/
def daysInMonth (year month : Nat) : Nat :=
  if month = 2 then
    if year % 4 = 0 ∧ (year % 100 ≠ 0 ∨ year % 400 = 0) then 29 else 28
  else if month ∈ [4, 6, 9, 11] then 30
  else 31

/-! ## Patterns -/

/-- `[0-9a-f]` -/
def isLowerHexDigit (c : Char) : Bool := c.isDigit || ('a' ≤ c && c ≤ 'f')

/-- `[0-9a-f]`, in either case. -/
def isHexDigit (c : Char) : Bool := isLowerHexDigit c || ('A' ≤ c && c ≤ 'F')

/-- A text matches when its characters are in the classes of the pattern, one by one. -/
def matchesPattern : List (Char → Bool) → List Char → Bool
  | [], [] => true
  | p :: pattern, c :: text => p c && matchesPattern pattern text
  | _, _ => false

/-- The class of a single character. -/
def exactly (c : Char) : Char → Bool := fun d => d = c

/-- The class of the characters of a list. -/
def oneOf (characters : List Char) : Char → Bool := characters.contains

/-- Digits in groups of 8, 4, 4, 4 and 12.  The third group starts with the version of the
    UUID, the fourth one with its variant. -/
def uuidPattern (digit : Char → Bool) (versions variants : List Char) : List (Char → Bool) :=
  List.replicate 8 digit ++ [exactly '-'] ++ List.replicate 4 digit
    ++ [exactly '-', oneOf versions] ++ List.replicate 3 digit
    ++ [exactly '-', oneOf variants] ++ List.replicate 3 digit
    ++ [exactly '-'] ++ List.replicate 12 digit

/-- A UUID of one of the versions, in either case. -/
def isUuid (versions : List Char) (text : String) : Bool :=
  matchesPattern (uuidPattern isHexDigit versions ['8', '9', 'a', 'b', 'A', 'B']) text.toList

/-- A UUID of one of the versions, in small letters. -/
def isLowerUuid (versions : List Char) (text : String) : Bool :=
  matchesPattern (uuidPattern isLowerHexDigit versions ['8', '9', 'a', 'b']) text.toList

/-- A text that matches is as long as the pattern. -/
theorem length_of_matches {pattern : List (Char → Bool)} (h : matchesPattern pattern text = true) :
    text.length = pattern.length := by
  induction pattern generalizing text with
  | nil =>
      cases text with
      | nil => rfl
      | cons c text => exact nomatch h
  | cons p pattern ih =>
      cases text with
      | nil => exact nomatch h
      | cons c text =>
          simp only [matchesPattern, Bool.and_eq_true] at h
          rw [List.length_cons, List.length_cons, ih h.2]

/-- What all classes of a pattern ensure, holds of every character that it lets through. -/
theorem forall_of_matches {P : Char → Prop} {pattern : List (Char → Bool)}
    (hpattern : ∀ p ∈ pattern, ∀ c, p c = true → P c) (h : matchesPattern pattern text = true) :
    ∀ c ∈ text, P c := by
  induction pattern generalizing text with
  | nil =>
      cases text with
      | nil => exact fun _ hc => nomatch hc
      | cons c text => exact nomatch h
  | cons p pattern ih =>
      cases text with
      | nil => exact nomatch h
      | cons c text =>
          simp only [matchesPattern, Bool.and_eq_true] at h
          rw [List.forall_mem_cons] at hpattern ⊢
          exact ⟨hpattern.1 c h.1, ih hpattern.2 h.2⟩

end JavaScript
