import LatentDeck.Library.LittleEndian
import Mathlib.Data.List.TakeWhile

/-!
# Text as bytes

Strings are checked byte by byte: their length is the length of their UTF-8 encoding and the
classes of characters are classes of single bytes.
-/

namespace LatentDeck.Text

def utf8Bytes (text : String) : List UInt8 := text.toUTF8.data.toList

def isAsciiDigit (byte : UInt8) : Bool := 0x30 ≤ byte && byte ≤ 0x39

def isAsciiAlphabetic (byte : UInt8) : Bool :=
  (0x41 ≤ byte && byte ≤ 0x5A) || (0x61 ≤ byte && byte ≤ 0x7A)

/-- Whether a byte is an ASCII letter or digit. -/
def isAsciiAlphanumeric (byte : UInt8) : Bool := isAsciiAlphabetic byte || isAsciiDigit byte

/-- Whether a byte is a lowercase hexadecimal digit. -/
def isLowerHex (byte : UInt8) : Bool := isAsciiDigit byte || (0x61 ≤ byte && byte ≤ 0x66)

/-- What follows the first occurrence of a pattern. -/
def after (pattern : List Char) : List Char → Option (List Char)
  | [] => if pattern = [] then some [] else none
  | character :: text =>
      if pattern.isPrefixOf (character :: text) then
        some ((character :: text).drop pattern.length)
      else after pattern text

def occursIn (pattern text : String) : Bool := (after pattern.toList text.toList).isSome

/-- The characters that `char::is_whitespace` holds of. -/
def isWhitespace (char : Char) : Bool :=
  (9 ≤ char.toNat && char.toNat ≤ 13) || (0x2000 ≤ char.toNat && char.toNat ≤ 0x200A) ||
    [0x20, 0x85, 0xA0, 0x1680, 0x2028, 0x2029, 0x202F, 0x205F, 0x3000].contains char.toNat

/-- `str::trim`: a text without the blanks around it. -/
def trim (text : List Char) : List Char :=
  ((text.dropWhile isWhitespace).reverse.dropWhile isWhitespace).reverse

theorem trim_of_ends {text : List Char} (first : ∀ char ∈ text.head?, isWhitespace char = false)
    (last : ∀ char ∈ text.getLast?, isWhitespace char = false) : trim text = text := by
  have kept : ∀ chars : List Char, (∀ char ∈ chars.head?, isWhitespace char = false) →
      chars.dropWhile isWhitespace = chars := by
    intro chars head
    cases chars with
    | nil => rfl
    | cons char rest => exact List.dropWhile_cons_of_neg (Bool.eq_false_iff.mp (head char rfl))
  have reversed : ∀ char ∈ text.reverse.head?, isWhitespace char = false := by
    rw [List.head?_reverse]
    exact last
  rw [trim, kept text first, kept text.reverse reversed, List.reverse_reverse]

section Parts

variable {α : Type} {separates : α → Bool} {value : α} {part : List α}

/-- What is in a part is in the whole, and separates nothing. -/
theorem mem_of_mem_part {whole : List α} (isPart : part ∈ whole.splitOnP separates)
    (within : value ∈ part) : value ∈ whole ∧ separates value = false := by
  induction whole generalizing part with
  | nil =>
    rw [List.splitOnP_nil, List.mem_singleton] at isPart
    rw [isPart] at within
    exact absurd within List.not_mem_nil
  | cons first rest ih =>
    rw [List.splitOnP_cons_eq_if_modifyHead] at isPart
    by_cases cuts : separates first = true
    · rw [if_pos cuts, List.mem_cons] at isPart
      cases isPart with
      | inl empty =>
        rw [empty] at within
        exact absurd within List.not_mem_nil
      | inr later =>
        have found := ih later within
        exact ⟨List.mem_cons_of_mem _ found.1, found.2⟩
    · rw [if_neg cuts] at isPart
      cases parts : rest.splitOnP separates with
      | nil => exact absurd parts (List.splitOnP_ne_nil _ _)
      | cons head tail =>
        rw [parts, List.modifyHead_cons, List.mem_cons] at isPart
        rw [parts] at ih
        cases isPart with
        | inl grown =>
          rw [grown, List.mem_cons] at within
          cases within with
          | inl same =>
            rw [same]
            exact ⟨List.mem_cons_self, Bool.eq_false_iff.mpr cuts⟩
          | inr old =>
            have found := ih List.mem_cons_self old
            exact ⟨List.mem_cons_of_mem _ found.1, found.2⟩
        | inr later =>
          have found := ih (List.mem_cons_of_mem _ later) within
          exact ⟨List.mem_cons_of_mem _ found.1, found.2⟩

/-- What is in the whole separates, or is in a part. -/
theorem separates_or_mem_part (separates : α → Bool) {whole : List α} (within : value ∈ whole) :
    separates value = true ∨ ∃ part ∈ whole.splitOnP separates, value ∈ part := by
  induction whole with
  | nil => exact absurd within List.not_mem_nil
  | cons first rest ih =>
    rw [List.splitOnP_cons_eq_if_modifyHead]
    by_cases cuts : separates first = true
    · rw [if_pos cuts]
      cases List.mem_cons.mp within with
      | inl same => exact Or.inl (same ▸ cuts)
      | inr later =>
        exact (ih later).imp id fun ⟨part, isPart, inside⟩ =>
          ⟨part, List.mem_cons_of_mem _ isPart, inside⟩
    · rw [if_neg cuts]
      cases parts : rest.splitOnP separates with
      | nil => exact absurd parts (List.splitOnP_ne_nil _ _)
      | cons head tail =>
        rw [List.modifyHead_cons]
        cases List.mem_cons.mp within with
        | inl same => exact Or.inr ⟨first :: head, List.mem_cons_self, same ▸ List.mem_cons_self⟩
        | inr later =>
          rw [parts] at ih
          refine (ih later).imp id fun ⟨part, isPart, inside⟩ => ?_
          cases List.mem_cons.mp isPart with
          | inl same =>
            exact ⟨first :: head, List.mem_cons_self, List.mem_cons_of_mem _ (same ▸ inside)⟩
          | inr other => exact ⟨part, List.mem_cons_of_mem _ other, inside⟩

end Parts

@[simp]
theorem utf8Bytes_length (text : String) : (utf8Bytes text).length = text.utf8ByteSize := by
  rw [utf8Bytes, Array.length_toList, ← String.size_toByteArray]
  rfl

/-- An ASCII character is encoded as its own byte. -/
theorem utf8Bytes_ascii (bytes : List UInt8) (ascii : ∀ byte ∈ bytes, byte < 128) :
    utf8Bytes (String.ofList (bytes.map fun byte => Char.ofNat byte.toNat)) = bytes := by
  induction bytes with
  | nil => rfl
  | cons byte bytes ih =>
    rw [List.forall_mem_cons] at ascii
    have rest := ih ascii.2
    have single : utf8Bytes (String.ofList [Char.ofNat byte.toNat]) = [byte] := by
      have every : ∀ code : Fin 128,
          utf8Bytes (String.ofList [Char.ofNat code.val]) = [UInt8.ofNat code.val] := by
        decide +kernel
      have small : byte.toNat < 128 := UInt8.lt_iff_toNat_lt.mp ascii.1
      have this := every ⟨byte.toNat, small⟩
      rwa [UInt8.ofNat_toNat] at this
    simp only [utf8Bytes, String.toUTF8_eq_toByteArray] at rest single ⊢
    rw [List.map_cons, ← List.singleton_append, String.ofList_append, String.toByteArray_append,
      ByteArray.data_append, Array.toList_append, rest, single, List.singleton_append]

def asciiBytes (chars : List Char) : List UInt8 := chars.map fun char => UInt8.ofNat char.toNat

theorem asciiByte_inj {left right : Char} (leftAscii : left.toNat < 128)
    (rightAscii : right.toNat < 128) :
    UInt8.ofNat left.toNat = UInt8.ofNat right.toNat ↔ left = right := by
  constructor
  · intro same
    have codes := congrArg UInt8.toNat same
    rw [UInt8.toNat_ofNat', UInt8.toNat_ofNat', Nat.mod_eq_of_lt (by omega),
      Nat.mod_eq_of_lt (by omega)] at codes
    rw [← Char.ofNat_toNat left, codes, Char.ofNat_toNat]
  · exact fun same => same ▸ rfl

/-- A text of ASCII characters is encoded character by character. -/
theorem utf8Bytes_of_ascii {text : String} (ascii : ∀ char ∈ text.toList, char.toNat < 128) :
    utf8Bytes text = asciiBytes text.toList := by
  have small : ∀ byte ∈ asciiBytes text.toList, byte < 128 := by
    intro byte within
    obtain ⟨char, among, same⟩ := List.mem_map.mp within
    have bound := ascii char among
    rw [← same, UInt8.lt_iff_toNat_lt, UInt8.toNat_ofNat', Nat.mod_eq_of_lt (by omega)]
    exact bound
  have spelled := utf8Bytes_ascii _ small
  have restored : (asciiBytes text.toList).map (fun byte => Char.ofNat byte.toNat) =
      text.toList := by
    rw [asciiBytes, List.map_map]
    calc text.toList.map _ = text.toList.map id := by
          apply List.map_congr_left
          intro char among
          have bound := ascii char among
          show Char.ofNat (UInt8.ofNat char.toNat).toNat = char
          rw [UInt8.toNat_ofNat', Nat.mod_eq_of_lt (by omega), Char.ofNat_toNat]
      _ = text.toList := List.map_id _
  rw [restored, String.ofList_toList] at spelled
  exact spelled

variable {charClass : Char → Bool} {byteClass : UInt8 → Bool}

/-- A class of ASCII characters is a class of bytes when it is one for each code. -/
theorem all_asciiBytes {chars : List Char}
    (ascii : ∀ char, charClass char = true → char.toNat < 128)
    (agree : ∀ code : Fin 128, charClass (Char.ofNat code.val) = true →
      byteClass (UInt8.ofNat code.val) = true) (classed : ∀ char ∈ chars, charClass char = true) :
    (asciiBytes chars).all byteClass = true := by
  rw [List.all_eq_true]
  intro byte within
  obtain ⟨char, among, same⟩ := List.mem_map.mp within
  have bound := ascii char (classed char among)
  have := agree ⟨char.toNat, bound⟩ (by rw [Char.ofNat_toNat]; exact classed char among)
  rw [← same]
  exact this

theorem all_bytes_of_chars {text : String}
    (ascii : ∀ char, charClass char = true → char.toNat < 128)
    (agree : ∀ code : Fin 128, charClass (Char.ofNat code.val) = true →
      byteClass (UInt8.ofNat code.val) = true)
    (chars : ∀ char ∈ text.toList, charClass char = true) :
    (utf8Bytes text).all byteClass = true := by
  rw [utf8Bytes_of_ascii fun char within => ascii char (chars char within)]
  exact all_asciiBytes ascii agree chars

/-- The parts of a mapped list are the mapped parts, where the separators correspond. -/
theorem splitOnP_map {α β : Type} {convert : α → β} {separates : α → Bool} {cuts : β → Bool}
    {whole : List α} (agree : ∀ value ∈ whole, cuts (convert value) = separates value) :
    (whole.map convert).splitOnP cuts = (whole.splitOnP separates).map (List.map convert) := by
  induction whole with
  | nil => rfl
  | cons first rest ih =>
    rw [List.forall_mem_cons] at agree
    rw [List.map_cons, List.splitOnP_cons_eq_if_modifyHead, List.splitOnP_cons_eq_if_modifyHead,
      ih agree.2, agree.1]
    by_cases separated : separates first = true
    · rw [if_pos separated, if_pos separated]
      rfl
    · rw [if_neg separated, if_neg separated]
      cases rest.splitOnP separates <;> rfl

theorem cut_at_mark {α : Type} [DecidableEq α] {mark : α} {whole : List α} (marked : mark ∈ whole) :
    whole = whole.takeWhile (· ≠ mark) ++ mark :: (whole.dropWhile (· ≠ mark)).tail := by
  induction whole with
  | nil => exact absurd marked List.not_mem_nil
  | cons first rest ih =>
    by_cases found : first = mark
    · rw [List.takeWhile_cons_of_neg (by simpa using found),
        List.dropWhile_cons_of_neg (by simpa using found), List.nil_append, List.tail_cons, found]
    · have later : mark ∈ rest := (List.mem_cons.mp marked).resolve_left fun same => found same.symm
      rw [List.takeWhile_cons_of_pos (by simpa using found),
        List.dropWhile_cons_of_pos (by simpa using found), List.cons_append, ← ih later]

theorem mark_notMem_takeWhile {α : Type} [DecidableEq α] (mark : α) (whole : List α) :
    mark ∉ whole.takeWhile (· ≠ mark) := by
  intro within
  have passes := List.mem_takeWhile_imp within
  exact absurd rfl (of_decide_eq_true passes)

end LatentDeck.Text
