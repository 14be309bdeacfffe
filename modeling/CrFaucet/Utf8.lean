import Mathlib.Algebra.GroupWithZero.Nat
import Mathlib.Data.List.Basic

/-!
Owns texts as the bytes of their UTF-8 encoding: lengths in bytes, and cutting a text at
a byte offset, which is possible only between two characters.

A text whose bytes are all below 128 has one byte for each character, so that it can be
cut anywhere (`splitAt_of_ascii`).

Does not own decoding of byte strings that may not be UTF-8.
-/

set_option autoImplicit false

namespace CrFaucet.Utf8

/-! ### Bytes -/

def bytesOf (chars : List Char) : List UInt8 := chars.flatMap String.utf8EncodeChar

def bytes (text : String) : List UInt8 := bytesOf text.toList

def byteLength (text : String) : Nat := (bytes text).length

@[simp] theorem bytesOf_nil : bytesOf [] = [] := rfl

@[simp] theorem bytesOf_cons (first : Char) (rest : List Char) :
    bytesOf (first :: rest) = String.utf8EncodeChar first ++ bytesOf rest := rfl

@[simp] theorem bytesOf_append (before after : List Char) :
    bytesOf (before ++ after) = bytesOf before ++ bytesOf after := List.flatMap_append

@[simp] theorem bytes_ofList (chars : List Char) : bytes (String.ofList chars) = bytesOf chars := by
  rw [bytes, String.toList_ofList]

theorem utf8Size_pos (char : Char) : 0 < char.utf8Size := by
  unfold Char.utf8Size
  dsimp only
  split
  · decide
  · split
    · decide
    · split <;> decide

/-! ### Cutting at a byte -/

/-- Both sides of a byte offset; `none` inside a character and past the end. -/
def splitAt : Nat → List Char → Option (List Char × List Char)
  | 0, chars => some ([], chars)
  | _ + 1, [] => none
  | offset + 1, first :: rest =>
      if first.utf8Size ≤ offset + 1 then
        (splitAt (offset + 1 - first.utf8Size) rest).map fun parts => (first :: parts.1, parts.2)
      else none

/-- The offset is the end of a character or the beginning of the text. -/
def IsBoundary (chars : List Char) (offset : Nat) : Prop :=
  ∃ before after, chars = before ++ after ∧ (bytesOf before).length = offset

/-- **What a cut leaves.** -/
theorem splitAt_eq_some {offset : Nat} {chars before after : List Char}
    (cut : splitAt offset chars = some (before, after)) :
    chars = before ++ after ∧ (bytesOf before).length = offset := by
  induction chars generalizing offset before with
  | nil =>
      cases offset with
      | zero =>
          cases cut
          exact ⟨rfl, rfl⟩
      | succ offset => cases cut
  | cons first rest inductionHypothesis =>
      cases offset with
      | zero =>
          cases cut
          exact ⟨rfl, rfl⟩
      | succ offset =>
          rw [splitAt] at cut
          split at cut
          · rename_i fits
            obtain ⟨⟨inner, outer⟩, cutRest, same⟩ := Option.map_eq_some_iff.1 cut
            cases same
            obtain ⟨rfl, length⟩ := inductionHypothesis cutRest
            refine ⟨rfl, ?_⟩
            rw [bytesOf_cons, List.length_append, String.length_utf8EncodeChar, length]
            omega
          · cases cut

theorem splitAt_append (before after : List Char) :
    splitAt (bytesOf before).length (before ++ after) = some (before, after) := by
  induction before with
  | nil =>
      cases after with
      | nil => rfl
      | cons first rest => rfl
  | cons first rest inductionHypothesis =>
      have positive := utf8Size_pos first
      have size : (bytesOf (first :: rest)).length =
          (first.utf8Size - 1 + (bytesOf rest).length) + 1 := by
        rw [bytesOf_cons, List.length_append, String.length_utf8EncodeChar]
        omega
      have left : first.utf8Size - 1 + (bytesOf rest).length + 1 - first.utf8Size =
          (bytesOf rest).length := by omega
      rw [size, List.cons_append, splitAt, if_pos (by omega), left, inductionHypothesis]
      rfl

theorem splitAt_eq_none_iff {offset : Nat} {chars : List Char} :
    splitAt offset chars = none ↔ ¬ IsBoundary chars offset := by
  constructor
  · rintro failed ⟨before, after, rfl, rfl⟩
    rw [splitAt_append] at failed
    cases failed
  · intro inside
    cases cut : splitAt offset chars with
    | none => rfl
    | some parts => exact absurd ⟨parts.1, parts.2, splitAt_eq_some cut⟩ inside

instance (chars : List Char) (offset : Nat) : Decidable (IsBoundary chars offset) :=
  decidable_of_iff (splitAt offset chars ≠ none)
    ((not_congr splitAt_eq_none_iff).trans Classical.not_not)

/-! ### Slices -/

/-- `&text[offset..]`; `none` is a panic. -/
def sliceFrom (text : String) (offset : Nat) : Option (List Char) :=
  (splitAt offset text.toList).map Prod.snd

/-- `text.replace_range(offset..offset + length, by)`; `none` is a panic. -/
def replaceRange (text : String) (offset length : Nat) (replacement : List Char) :
    Option String := do
  let (before, rest) ← splitAt offset text.toList
  let (_, after) ← splitAt length rest
  return String.ofList (before ++ replacement ++ after)

/-! ### ASCII -/

/-- A character of several bytes ends with one of the upper half. -/
theorem utf8Size_eq_one {char : Char}
    (ascii : ∀ byte ∈ String.utf8EncodeChar char, byte.toNat < 128) : char.utf8Size = 1 := by
  by_cases small : char.val.toNat ≤ 127
  · rw [← String.length_utf8EncodeChar]
    unfold String.utf8EncodeChar
    simp only [small, if_true, List.length_cons, List.length_nil]
  · have last : UInt8.ofNat (char.val.toNat % 64 + 128) ∈ String.utf8EncodeChar char := by
      unfold String.utf8EncodeChar
      simp only [small, if_false]
      split
      · simp
      · split <;> simp
    have below := ascii _ last
    rw [UInt8.toNat_ofNat'] at below
    omega

theorem length_bytesOf_of_ascii {chars : List Char}
    (ascii : ∀ byte ∈ bytesOf chars, byte.toNat < 128) :
    (bytesOf chars).length = chars.length := by
  induction chars with
  | nil => rfl
  | cons first rest inductionHypothesis =>
      have one : first.utf8Size = 1 := by
        apply utf8Size_eq_one
        intro byte member
        exact ascii byte (List.mem_append_left _ member)
      have others : (bytesOf rest).length = rest.length := by
        apply inductionHypothesis
        intro byte member
        exact ascii byte (List.mem_append_right _ member)
      rw [bytesOf_cons, List.length_append, String.length_utf8EncodeChar, one, others,
        List.length_cons, Nat.add_comm]

/-- **An ASCII text can be cut at every byte.** -/
theorem splitAt_of_ascii {chars : List Char} (offset : Nat)
    (ascii : ∀ byte ∈ bytesOf chars, byte.toNat < 128) (inside : offset ≤ (bytesOf chars).length) :
    ∃ before after, splitAt offset chars = some (before, after) ∧
      bytesOf before = (bytesOf chars).take offset ∧
      bytesOf after = (bytesOf chars).drop offset := by
  have parts : bytesOf (chars.take offset) ++ bytesOf (chars.drop offset) = bytesOf chars := by
    rw [← bytesOf_append, List.take_append_drop]
  have short : offset ≤ chars.length := by
    rw [← length_bytesOf_of_ascii ascii]
    exact inside
  have taken : (bytesOf (chars.take offset)).length = offset := by
    rw [length_bytesOf_of_ascii, List.length_take, Nat.min_eq_left short]
    intro byte member
    apply ascii
    rw [← parts]
    exact List.mem_append_left _ member
  refine ⟨chars.take offset, chars.drop offset, ?_, ?_, ?_⟩
  · have cut := splitAt_append (chars.take offset) (chars.drop offset)
    rwa [taken, List.take_append_drop] at cut
  · rw [← parts, List.take_left' taken]
  · rw [← parts, List.drop_left' taken]

/-! ### White space -/

/-- `char::is_whitespace`: the property `White_Space` of Unicode. -/
def isWhitespace (char : Char) : Bool :=
  let code := char.toNat
  (9 ≤ code && code ≤ 13) || code == 32 || code == 133 || code == 160 || code == 5760 ||
    (8192 ≤ code && code ≤ 8202) || code == 8232 || code == 8233 || code == 8239 ||
    code == 8287 || code == 12288

/-- `str::trim`. -/
def trim (chars : List Char) : List Char :=
  ((chars.dropWhile isWhitespace).reverse.dropWhile isWhitespace).reverse

theorem dropWhile_append_of_stop {stops : Char → Bool} (before after : List Char)
    (stop : after.dropWhile stops = after) :
    (before ++ after).dropWhile stops = before.dropWhile stops ++ after := by
  rw [List.dropWhile_append]
  split
  · rename_i empty
    rw [stop, List.isEmpty_iff.1 empty, List.nil_append]
  · rfl

/-- Only the beginning of a text is trimmed whose end has no white space. -/
theorem trim_append (before after : List Char) (middle : Char)
    (black : ∀ char ∈ middle :: after, isWhitespace char = false) :
    trim (before ++ middle :: after) = before.dropWhile isWhitespace ++ middle :: after := by
  have front : (middle :: after).dropWhile isWhitespace = middle :: after :=
    List.dropWhile_cons_of_neg (by rw [black middle (List.mem_cons_self ..)]; decide)
  have back : ∀ rest : List Char,
      ((middle :: after).reverse ++ rest).dropWhile isWhitespace =
        (middle :: after).reverse ++ rest := by
    intro rest
    cases reversed : (middle :: after).reverse with
    | nil => exact absurd (List.reverse_eq_nil_iff.1 reversed) (List.cons_ne_nil _ _)
    | cons last others =>
        have member : last ∈ middle :: after := by
          rw [← List.mem_reverse, reversed]
          exact List.mem_cons_self ..
        exact List.dropWhile_cons_of_neg (by rw [black last member]; decide)
  rw [trim, dropWhile_append_of_stop before _ front, List.reverse_append, back,
    List.reverse_append, List.reverse_reverse, List.reverse_reverse]

/-! ### The last occurrence of a character -/

/-- `s[..pos]` and `s[pos + 1..]`, where `pos` is `str::rfind` of a character of one byte. -/
def rsplit (separator : Char) : List Char → Option (List Char × List Char)
  | [] => none
  | first :: rest =>
      match rsplit separator rest with
      | some (before, after) => some (first :: before, after)
      | none => if first = separator then some ([], rest) else none

theorem rsplit_eq_none {separator : Char} {chars : List Char} (absent : separator ∉ chars) :
    rsplit separator chars = none := by
  induction chars with
  | nil => rfl
  | cons first rest inductionHypothesis =>
      rw [List.mem_cons, not_or] at absent
      rw [rsplit, inductionHypothesis absent.2]
      exact if_neg (Ne.symm absent.1)

theorem rsplit_append {separator : Char} (before : List Char) {after : List Char}
    (absent : separator ∉ after) :
    rsplit separator (before ++ separator :: after) = some (before, after) := by
  induction before with
  | nil =>
      rw [List.nil_append, rsplit, rsplit_eq_none absent]
      exact if_pos rfl
  | cons first rest inductionHypothesis =>
      rw [List.cons_append, rsplit, inductionHypothesis]

end CrFaucet.Utf8
