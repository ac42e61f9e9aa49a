import Mathlib.Data.List.DropRight
import Mathlib.Tactic

/-!
# Texts

Trimming, case, splitting and the integers of texts, on their lists of
characters so that they evaluate. White space is that of Unicode. The case is the one
that matters when a text is compared with an ASCII word: of the letters beyond
ASCII, only the Kelvin sign and the dotted capital I have an ASCII lower case, and only
the long s and the dotless i an ASCII upper case, and the others are left as they are.
-/

namespace Text

open List

/-- White space, as Unicode has it. -/
def isSpace (c : Char) : Bool :=
  let n := c.toNat
  n = 0x20 || (0x09 ≤ n && n ≤ 0x0d) || n = 0x85 || n = 0xa0 || n = 0x1680 ||
    (0x2000 ≤ n && n ≤ 0x200a) || n = 0x2028 || n = 0x2029 || n = 0x202f || n = 0x205f || n = 0x3000

/-- The characters without the leading and trailing white space. -/
def trimChars (l : List Char) : List Char := (l.dropWhile isSpace).rdropWhile isSpace

variable (s : String)

/-- The text without its leading and trailing white space. -/
def trimSpace : String := String.ofList (trimChars s.toList)

def lowerChar (c : Char) : Char :=
  if 'A' ≤ c ∧ c ≤ 'Z' then Char.ofNat (c.toNat + 32)
  else if c.toNat = 0x212a then 'k'
  else if c.toNat = 0x130 then 'i'
  else c

def toLower : String := String.ofList (s.toList.map lowerChar)

def upperChar (c : Char) : Char :=
  if 'a' ≤ c ∧ c ≤ 'z' then Char.ofNat (c.toNat - 32)
  else if c.toNat = 0x17f then 'S'
  else if c.toNat = 0x131 then 'I'
  else c

def toUpper : String := String.ofList (s.toList.map upperChar)

/-- The parts of the characters between the separators. -/
def splitChars (sep : Char) : List Char → List (List Char)
  | [] => [[]]
  | c :: l =>
    if c = sep then [] :: splitChars sep l
    else match splitChars sep l with
      | part :: parts => (c :: part) :: parts
      | [] => [[c]]

def split (sep : Char) (s : String) : List String :=
  (splitChars sep s.toList).map String.ofList

/-- The number that decimal digits stand for. -/
def digitsToNat (l : List Char) : Option ℕ :=
  if l ≠ [] ∧ l.all Char.isDigit then some (l.foldl (fun n c => 10 * n + (c.toNat - '0'.toNat)) 0)
    else none

/-- The integer that a text stands for, with or without a sign. -/
def toInt? : Option ℤ :=
  match s.toList with
  | '-' :: l => (digitsToNat l).map fun n => -(n : ℤ)
  | '+' :: l => (digitsToNat l).map Int.ofNat
  | l => (digitsToNat l).map Int.ofNat

def len : ℕ := (s.toList.map Char.utf8Size).sum

/-- The text without the characters `c`. -/
def remove (c : Char) (s : String) : String := String.ofList (s.toList.filter (· ≠ c))

/-- The text without a last character `c`. -/
def trimLast (c : Char) (s : String) : String :=
  if s.toList.getLast? = some c then String.ofList s.toList.dropLast else s

/-- The text `sub` stands somewhere in the text. -/
def contains (sub s : String) : Bool := s.toList.tails.any sub.toList.isPrefixOf

def startsWith (start s : String) : Bool := start.toList.isPrefixOf s.toList

def hasSuffix (suffix s : String) : Bool := suffix.toList.isSuffixOf s.toList

/-- The text without the other one at its end. -/
def trimSuffix (suffix s : String) : String :=
  if hasSuffix suffix s then String.ofList (s.toList.take (s.toList.length - suffix.toList.length))
    else s

@[simp]
lemma hasSuffix_append (s suffix : String) : hasSuffix suffix (s ++ suffix) := by
  simp [hasSuffix]

@[simp]
lemma trimSuffix_append (s suffix : String) : trimSuffix suffix (s ++ suffix) = s := by
  simp [trimSuffix]

lemma splitChars_eq_splitOn (sep : Char) (l : List Char) : splitChars sep l = l.splitOn sep := by
  induction l with
  | nil => rfl
  | cons c l ih =>
    rw [splitChars, ih, splitOn, splitOn, splitOnP_cons_eq_if_modifyHead]
    by_cases h : c = sep
    · simp [h]
    · cases hl : l.splitOnP (· == sep) with
      | nil => exact absurd hl (splitOnP_ne_nil _ _)
      | cons part parts => simp

lemma split_ne_nil (sep : Char) (s : String) : split sep s ≠ [] := by
  rw [split, splitChars_eq_splitOn, ne_eq, map_eq_nil_iff]
  exact splitOnP_ne_nil _ _

variable {s sep : String}

/-- Parts without the separator are found again when they are put together. -/
lemma split_intercalate {sep : Char} (hs : s.toList = [sep]) {parts : List String}
    (hne : parts ≠ []) (h : ∀ part ∈ parts, sep ∉ part.toList) :
      split sep (s.intercalate parts) = parts := by
  have hparts : ∀ l ∈ parts.map String.toList, sep ∉ l := by simpa using h
  rw [split, splitChars_eq_splitOn, String.toList_intercalate, hs,
    splitOn_intercalate sep hparts (by simpa using hne), map_map]
  exact (map_congr_left fun part _ => String.ofList_toList).trans (map_id _)

lemma trimSpace_trimSpace (s : String) : trimSpace (trimSpace s) = trimSpace s := by
  have h (l : List Char) : trimChars (trimChars l) = trimChars l := by
    rw [trimChars, trimChars]
    -- The first character left is not a space, and stays the first one.
    rw [dropWhile_eq_self_iff.2, rdropWhile_idempotent]
    intro hl
    obtain ⟨m, hm⟩ := rdropWhile_prefix isSpace (l.dropWhile isSpace)
    have h₀ : 0 < (l.dropWhile isSpace).length := by
      rw [← hm, length_append]
      omega
    have := dropWhile_eq_self_iff.1 (dropWhile_idempotent isSpace l) h₀
    rwa [getElem_of_eq hm.symm h₀, getElem_append_left hl] at this
  rw [trimSpace, trimSpace, String.toList_ofList, h]

/-- What is left by trimming starts with the first character that is not white space. -/
lemma head?_trimSpace (s : String) : (trimSpace s).toList.head? = s.toList.find? fun c =>
    !isSpace c := by
  have hfind : s.toList.find? (fun c => !isSpace c) = (s.toList.dropWhile isSpace).head? := by
    simp [find?_eq_head?_dropWhile_not]
  rw [trimSpace, String.toList_ofList, trimChars, hfind]
  cases hl : s.toList.dropWhile isSpace with
  | nil => rfl
  | cons c l =>
    -- `c` is not white space, so it is still there
    have hc : isSpace c = false := by
      have := head?_dropWhile_not isSpace s.toList
      rwa [hl] at this
    obtain ⟨m, hm⟩ := rdropWhile_prefix isSpace (c :: l)
    cases hr : (c :: l).rdropWhile isSpace with
    | nil =>
      have := rdropWhile_eq_nil_iff.1 hr c mem_cons_self
      simp [hc] at this
    | cons c' l' =>
      rw [hr] at hm
      rw [← hm]
      rfl

lemma trimSpace_of_forall (h : ∀ c ∈ s.toList, isSpace c = false) : trimSpace s = s := by
  have hdrop : s.toList.dropWhile isSpace = s.toList :=
    dropWhile_eq_self_iff.2 fun hl => by simp [h _ (getElem_mem hl)]
  have hrdrop : s.toList.rdropWhile isSpace = s.toList :=
    rdropWhile_eq_self_iff.2 fun hl => by simp [h _ (getLast_mem hl)]
  rw [trimSpace, trimChars, hdrop, hrdrop, String.ofList_toList]

lemma lowerChar_cases (c : Char) :
    lowerChar c = c ∨ isSpace c = false ∧ isSpace (lowerChar c) = false ∧
      lowerChar (lowerChar c) = lowerChar c := by
  rw [lowerChar]
  split_ifs with hupper hkelvin hdotted
  · right
    obtain ⟨h₁, h₂⟩ : 65 ≤ c.toNat ∧ c.toNat ≤ 90 := hupper
    rw [← Char.ofNat_toNat c]
    generalize c.toNat = n at h₁ h₂
    interval_cases n <;> decide
  · exact .inr ⟨by simp [isSpace, hkelvin], by decide, by decide⟩
  · exact .inr ⟨by simp [isSpace, hdotted], by decide, by decide⟩
  · exact .inl rfl

lemma lowerChar_lowerChar (c : Char) : lowerChar (lowerChar c) = lowerChar c := by
  obtain h | ⟨-, -, h⟩ := lowerChar_cases c
  · rw [h, h]
  · exact h

lemma isSpace_lowerChar (c : Char) : isSpace (lowerChar c) = isSpace c := by
  obtain h | ⟨h₁, h₂, -⟩ := lowerChar_cases c
  · rw [h]
  · rw [h₁, h₂]

lemma toLower_toLower (s : String) : toLower (toLower s) = toLower s := by
  rw [toLower, toLower, String.toList_ofList, map_map]
  exact congrArg String.ofList (map_congr_left fun c _ => lowerChar_lowerChar c)

/-- The white space of a text is that of its lower case. -/
lemma trimSpace_toLower (s : String) : trimSpace (toLower s) = toLower (trimSpace s) := by
  have h : isSpace ∘ lowerChar = isSpace := funext isSpace_lowerChar
  simp only [trimSpace, toLower, trimChars, rdropWhile, String.toList_ofList, dropWhile_map,
    ← map_reverse, h]

lemma toLower_of_forall (h : ∀ c ∈ s.toList, lowerChar c = c) : toLower s = s := by
  rw [toLower, map_congr_left h, map_id', String.ofList_toList]

end Text
