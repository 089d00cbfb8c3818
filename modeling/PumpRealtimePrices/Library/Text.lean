import Mathlib.Data.List.DropRight

/-!
# Text

The operations of {lit}`str` that a program reading a line of configuration relies on:
{lit}`trim` and {lit}`split` at a character, the reading of an unsigned number, and the
joining of paths.  Trimming is stated first about lists and any predicate.  A word without
padding of its own is what remains of it under any padding.

Main results:

- Theorem {lit}`Trim.trim_eq_iff`: what is trimmed to a word without padding.
- Theorem {lit}`Rust.trim_eq_iff`: the same about text.
- Theorem {lit}`Rust.split_eq_iff`: splitting undoes joining.
- Theorem {lit}`Rust.parseUnsigned_eq_some_iff`: which texts are read as a number.
-/

/-! ## Trimming lists -/

namespace Trim

section Lists

variable {α : Type*} (p : α → Bool)

/-- Drop what satisfies {lit}`p` at both ends. -/
def trim (xs : List α) : List α :=
  (xs.dropWhile p).rdropWhile p

/-- The word under padding on both sides. -/
def Padded (word xs : List α) : Prop :=
  ∃ left right, (∀ x ∈ left, p x) ∧ (∀ x ∈ right, p x) ∧ xs = left ++ word ++ right

/-- Neither end of the word is padding. -/
structure Tight (word : List α) : Prop where
  head : word.head?.any p = false
  last : word.getLast?.any p = false

variable {p} {word xs : List α}

/-- Characters that are all dropped may stand in front. -/
theorem dropWhile_append_of_forall {left : List α} (hleft : ∀ x ∈ left, p x) :
    (left ++ xs).dropWhile p = xs.dropWhile p := by
  induction left with
  | nil => rfl
  | cons x left ih =>
      rw [List.cons_append, List.dropWhile_cons_of_pos (hleft x List.mem_cons_self)]
      exact ih fun other hother => hleft other (List.mem_cons_of_mem x hother)

/-- Characters that are all dropped may stand behind. -/
theorem rdropWhile_append_of_forall {right : List α} (hright : ∀ x ∈ right, p x) :
    (xs ++ right).rdropWhile p = xs.rdropWhile p := by
  rw [List.rdropWhile, List.reverse_append, dropWhile_append_of_forall]
  · rfl
  · intro x hx
    exact hright x (List.mem_reverse.mp hx)

/-- A tight word does not start with a character that is trimmed. -/
theorem Tight.not_head {x : α} (hword : Tight p (x :: word)) : ¬ p x = true :=
  Bool.not_eq_true _ ▸ hword.head

/-- Nothing is trimmed from the end of a tight word. -/
theorem Tight.rdropWhile_eq (hword : Tight p word) : word.rdropWhile p = word := by
  apply List.rdropWhile_eq_self_iff.mpr
  intro hne
  have hlast := hword.last
  rw [List.getLast?_eq_some_getLast hne, Option.any_some] at hlast
  rw [hlast]
  decide

/-- Trimming removes all padding of a word. -/
theorem trim_of_padded (hword : Tight p word) (hpadded : Padded p word xs) :
    trim p xs = word := by
  rcases hpadded with ⟨left, right, hleft, hright, rfl⟩
  rw [trim, List.append_assoc, dropWhile_append_of_forall hleft]
  cases word with
  | nil =>
      rw [List.nil_append, List.dropWhile_eq_nil_iff.mpr hright]
      rfl
  | cons x word =>
      rw [List.cons_append, List.dropWhile_cons_of_neg hword.not_head, ← List.cons_append,
        rdropWhile_append_of_forall hright, hword.rdropWhile_eq]

/-- What is trimmed is its remaining word under padding. -/
theorem padded_trim (xs : List α) : Padded p (trim p xs) xs := by
  refine ⟨xs.takeWhile p, (xs.dropWhile p).rtakeWhile p, ?_, ?_, ?_⟩
  · intro x hx
    exact List.mem_takeWhile_imp hx
  · intro x hx
    exact List.mem_rtakeWhile_imp hx
  · rw [trim, List.append_assoc, List.rdropWhile_append_rtakeWhile,
      List.takeWhile_append_dropWhile]

/-- Exactly a padded word is trimmed to it. -/
theorem trim_eq_iff (hword : Tight p word) : trim p xs = word ↔ Padded p word xs := by
  constructor
  · rintro rfl
    exact padded_trim xs
  · exact trim_of_padded hword

/-- The empty word is tight. -/
theorem tight_nil : Tight p ([] : List α) :=
  ⟨rfl, rfl⟩

/-- Nothing is left exactly of what is trimmed entirely. -/
theorem trim_eq_nil_iff : trim p xs = [] ↔ ∀ x ∈ xs, p x := by
  rw [trim_eq_iff tight_nil]
  constructor
  · rintro ⟨left, right, hleft, hright, rfl⟩ x hx
    rw [List.append_nil, List.mem_append] at hx
    exact hx.elim (hleft x) (hright x)
  · intro hxs
    exact ⟨xs, [], hxs, by simp, by simp⟩

end Lists

end Trim

/-! ## Text -/

namespace Rust

/-- {lit}`char::is_whitespace`: the property {lit}`White_Space` of Unicode. -/
def isWhitespace (c : Char) : Bool :=
  let code := c.toNat
  0x9 ≤ code && code ≤ 0xd || code == 0x20 || code == 0x85 || code == 0xa0 || code == 0x1680 ||
    0x2000 ≤ code && code ≤ 0x200a || code == 0x2028 || code == 0x2029 || code == 0x202f ||
    code == 0x205f || code == 0x3000

/-- {lit}`str::trim`. -/
def trim (text : String) : String :=
  String.ofList (Trim.trim isWhitespace text.toList)

/-- {lit}`str::split` at a character. -/
def split (text : String) (separator : Char) : List String :=
  (text.toList.splitOn separator).map String.ofList

/-- The text is white space. -/
def IsBlank (text : String) : Prop :=
  text.toList.all isWhitespace = true

/-- The word with white space on both sides. -/
def Padded (word text : String) : Prop :=
  ∃ left right, IsBlank left ∧ IsBlank right ∧ text = left ++ word ++ right

/-- Neither end of the word is white space. -/
def Tight (word : String) : Prop :=
  Trim.Tight isWhitespace word.toList

/-- A text is blank exactly when all of its characters are whitespace. -/
theorem isBlank_iff {text : String} : IsBlank text ↔ ∀ c ∈ text.toList, isWhitespace c :=
  List.all_eq_true

/-- The characters of a blank text are whitespace. -/
theorem isWhitespace_of_mem {text : String} (hblank : IsBlank text) {c : Char}
    (hc : c ∈ text.toList) : isWhitespace c = true :=
  isBlank_iff.mp hblank c hc

/-- A padded text is a padded list of characters. -/
theorem padded_iff {word text : String} :
    Padded word text ↔ Trim.Padded isWhitespace word.toList text.toList := by
  constructor
  · rintro ⟨left, right, hleft, hright, rfl⟩
    exact ⟨left.toList, right.toList, isBlank_iff.mp hleft, isBlank_iff.mp hright, by simp⟩
  · rintro ⟨left, right, hleft, hright, htext⟩
    refine ⟨String.ofList left, String.ofList right, by simpa [IsBlank] using hleft,
      by simpa [IsBlank] using hright, ?_⟩
    apply String.toList_inj.mp
    simpa using htext

/-- Exactly a padded word is trimmed to it. -/
theorem trim_eq_iff {word text : String} (hword : Tight word) :
    trim text = word ↔ Padded word text := by
  rw [padded_iff, ← Trim.trim_eq_iff hword, trim, ← String.toList_inj, String.toList_ofList]

/-- Trimming leaves the empty text exactly of a blank one. -/
theorem trim_eq_empty_iff {text : String} : trim text = "" ↔ IsBlank text := by
  rw [trim, ← String.toList_inj, String.toList_ofList, isBlank_iff]
  exact Trim.trim_eq_nil_iff

/-- Splitting leaves at least one part. -/
theorem split_ne_nil (text : String) (separator : Char) : split text separator ≠ [] := by
  rw [split, ne_eq, List.map_eq_nil_iff]
  exact List.splitOn_ne_nil separator text.toList

/-- No part of a split holds the separator. -/
theorem not_mem_of_mem_splitOn {separator : Char} {cs part : List Char}
    (hpart : part ∈ cs.splitOn separator) : separator ∉ part := by
  induction cs generalizing part with
  | nil =>
      rw [List.splitOn_nil, List.mem_singleton] at hpart
      rw [hpart]
      exact List.not_mem_nil
  | cons c cs ih =>
      rw [List.splitOn_cons_eq_if_modifyHead] at hpart
      by_cases hc : (c == separator) = true
      · rw [if_pos hc] at hpart
        rcases List.mem_cons.mp hpart with rfl | hpart
        · exact List.not_mem_nil
        · exact ih hpart
      · rw [if_neg hc] at hpart
        rcases hparts : cs.splitOn separator with _ | ⟨first, rest⟩
        · exact absurd hparts (List.splitOn_ne_nil separator cs)
        · rw [hparts, List.modifyHead_cons] at hpart
          rcases List.mem_cons.mp hpart with rfl | hpart
          · intro hmem
            rcases List.mem_cons.mp hmem with heq | hmem
            · exact hc (by rw [heq, BEq.rfl])
            · exact ih (by rw [hparts]; exact List.mem_cons_self) hmem
          · exact ih (by rw [hparts]; exact List.mem_cons_of_mem first hpart)

/-- Splitting undoes joining parts that do not hold the separator. -/
theorem split_eq_iff {text : String} {separator : Char} {parts : List String} :
    split text separator = parts ↔
      parts ≠ [] ∧ (∀ part ∈ parts, separator ∉ part.toList) ∧
        text = (String.singleton separator).intercalate parts := by
  constructor
  · rintro rfl
    refine ⟨split_ne_nil text separator, ?_, ?_⟩
    · intro part hpart
      rcases List.mem_map.mp hpart with ⟨cs, hcs, rfl⟩
      rw [String.toList_ofList]
      exact not_mem_of_mem_splitOn hcs
    · rw [← String.toList_inj, String.toList_intercalate, split, List.map_map]
      simp
  · rintro ⟨hne, hparts, rfl⟩
    rw [split, String.toList_intercalate, String.toList_singleton, List.splitOn_intercalate]
    · simp
    · intro cs hcs
      rcases List.mem_map.mp hcs with ⟨part, hpart, rfl⟩
      exact hparts part hpart
    · simpa using hne

/-! ## Numbers -/

/-- {lit}`char::to_digit(10)`. -/
def toDigit (c : Char) : Option Nat :=
  if c.isDigit then some (c.toNat - '0'.toNat) else none

/-- Take in digits one by one.  The number has to stay below the bound after each of them. -/
def takeDigits (bound : Nat) : Nat → List Char → Option Nat
  | n, [] => some n
  | n, c :: cs => do
      let digit ← toDigit c
      if 10 * n + digit < bound then takeDigits bound (10 * n + digit) cs else none

/-- {lit}`str::parse` of the unsigned integer type with this many values. -/
def parseUnsigned (bound : Nat) (text : String) : Option Nat :=
  match text.toList with
  | [] | ['+'] => none
  | '+' :: digits => takeDigits bound 0 digits
  | digits => takeDigits bound 0 digits

/-- Decimal digits of a number, with any zeros in front. -/
structure Digits (digits : List Char) (n : Nat) : Prop where
  ne_nil : digits ≠ []
  isDigit : ∀ c ∈ digits, c.isDigit
  value : Nat.ofDigitChars 10 digits 0 = n

/-- Reading further digits never makes a number smaller. -/
theorem le_ofDigitChars (n : Nat) (digits : List Char) : n ≤ Nat.ofDigitChars 10 digits n := by
  induction digits generalizing n with
  | nil => rw [Nat.ofDigitChars_nil]
  | cons c digits ih =>
      have hfirst := ih (10 * n + (c.toNat - '0'.toNat))
      rw [Nat.ofDigitChars_cons]
      omega

/-- A number that exceeds the bound once does so in the end. -/
theorem takeDigits_eq_some_iff {bound n result : Nat} {digits : List Char} :
    takeDigits bound n digits = some result ↔
      (∀ c ∈ digits, c.isDigit) ∧ Nat.ofDigitChars 10 digits n = result ∧
        (digits ≠ [] → result < bound) := by
  induction digits generalizing n with
  | nil => simp [takeDigits, Nat.ofDigitChars_nil]
  | cons c digits ih =>
      rw [takeDigits, toDigit, Nat.ofDigitChars_cons]
      by_cases hc : c.isDigit
      · simp only [if_pos hc, Option.bind_eq_bind, Option.bind_some]
        by_cases hbound : 10 * n + (c.toNat - '0'.toNat) < bound
        · rw [if_pos hbound, ih]
          constructor
          · rintro ⟨hdigits, hvalue, hlt⟩
            refine ⟨List.forall_mem_cons.mpr ⟨hc, hdigits⟩, hvalue, fun _ => ?_⟩
            by_cases hnil : digits = []
            · rw [hnil, Nat.ofDigitChars_nil] at hvalue
              omega
            · exact hlt hnil
          · rintro ⟨hdigits, hvalue, hlt⟩
            exact ⟨(List.forall_mem_cons.mp hdigits).2, hvalue, fun _ => hlt (by simp)⟩
        · rw [if_neg hbound]
          constructor
          · intro hnone
            cases hnone
          · rintro ⟨-, hvalue, hlt⟩
            have hle := le_ofDigitChars (10 * n + (c.toNat - '0'.toNat)) digits
            have hresult := hlt (by simp)
            omega
      · simp [hc]

/-- A sign and digits spell a number, and so do the digits alone. -/
def SpellsNumber (text : String) (n : Nat) : Prop :=
  ∃ digits, Digits digits n ∧ (text = String.ofList digits ∨ text = "+" ++ String.ofList digits)

/-- A number is spelled by digits, which a plus sign may precede. -/
theorem spellsNumber_iff {text : String} {n : Nat} :
    SpellsNumber text n ↔
      Digits text.toList n ∨ ∃ digits, text.toList = '+' :: digits ∧ Digits digits n := by
  constructor
  · rintro ⟨digits, hdigits, rfl | rfl⟩
    · exact .inl (by rwa [String.toList_ofList])
    · exact .inr ⟨digits, by simp, hdigits⟩
  · rintro (hdigits | ⟨digits, htext, hdigits⟩)
    · exact ⟨text.toList, hdigits, .inl String.ofList_toList.symm⟩
    · refine ⟨digits, hdigits, .inr ?_⟩
      rw [← String.toList_inj, htext]
      simp

/-- A sign is no digit. -/
theorem not_digits_sign {digits : List Char} {n : Nat} : ¬ Digits ('+' :: digits) n := by
  intro hdigits
  cases hdigits.isDigit '+' List.mem_cons_self

/-- A nonempty text of digits is read exactly when its number is below the bound. -/
theorem takeDigits_zero_eq_some_iff {bound n : Nat} {digits : List Char} (hne : digits ≠ []) :
    takeDigits bound 0 digits = some n ↔ n < bound ∧ Digits digits n := by
  rw [takeDigits_eq_some_iff]
  constructor
  · rintro ⟨hdigits, hvalue, hlt⟩
    exact ⟨hlt hne, hne, hdigits, hvalue⟩
  · rintro ⟨hlt, hdigits⟩
    exact ⟨hdigits.isDigit, hdigits.value, fun _ => hlt⟩

/-- Exactly the spellings of a number of the type are read as it. -/
theorem parseUnsigned_eq_some_iff {bound n : Nat} {text : String} :
    parseUnsigned bound text = some n ↔ n < bound ∧ SpellsNumber text n := by
  rw [spellsNumber_iff, parseUnsigned]
  split
  · next hnil =>
      rw [hnil]
      simp only [reduceCtorEq, false_and, exists_false, or_false, false_iff, not_and]
      exact fun _ hdigits => hdigits.ne_nil rfl
  · next hplus =>
      rw [hplus]
      simp only [reduceCtorEq, false_iff, not_and, not_or]
      refine fun _ => ⟨not_digits_sign, ?_⟩
      rintro ⟨digits, heq, hdigits⟩
      rcases List.cons.inj heq with ⟨-, rfl⟩
      exact hdigits.ne_nil rfl
  · next digits hne hdigits =>
      rw [takeDigits_zero_eq_some_iff hne, hdigits]
      apply and_congr_right
      intro _
      constructor
      · exact fun hdigits => .inr ⟨digits, rfl, hdigits⟩
      · rintro (hdigits | ⟨others, heq, hothers⟩)
        · exact absurd hdigits not_digits_sign
        · rwa [(List.cons.inj heq).2]
  · next hne hplus hsigned =>
      rw [takeDigits_zero_eq_some_iff hne]
      apply and_congr_right
      intro _
      constructor
      · exact .inl
      · rintro (hdigits | ⟨digits, heq, -⟩)
        · exact hdigits
        · exact (hsigned digits heq).elim

/-- A number is spelled as it is printed. -/
theorem spellsNumber_toString (n : Nat) : SpellsNumber (toString n) n := by
  refine ⟨Nat.toDigits 10 n, ⟨?_, ?_, ?_⟩, .inl rfl⟩
  · exact Nat.toDigits_ne_nil
  · exact fun c hc => Nat.isDigit_of_mem_toDigits (by decide) (by decide) hc
  · exact Nat.ofDigitChars_ten_toDigits

/-! ## Paths -/

/-- {lit}`Path::join`, on systems that separate components by a slash: an absolute component
replaces the path. -/
def joinPath (path component : String) : String :=
  if component.toList.head? = some '/' then component
  else if path.toList.getLast?.all (· = '/') then path ++ component
  else path ++ "/" ++ component

/-- A relative component stays below the path. -/
theorem joinPath_of_relative {path component : String}
    (hcomponent : component.toList.head? ≠ some '/')
    (hpath : ∃ c ∈ path.toList.getLast?, c ≠ '/') :
    joinPath path component = path ++ "/" ++ component := by
  rcases hpath with ⟨c, hlast, hc⟩
  rw [joinPath, if_neg hcomponent, if_neg]
  rw [Option.mem_def.mp hlast]
  simpa using hc

end Rust
