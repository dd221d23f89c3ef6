import LatentDeck.Library.Text

/-!
# Semantic versions

Versions as they are written, `major.minor.patch` with pre-release identifiers after a hyphen and
build identifiers after a plus sign, the precedence of versions, and the range from one version to
before another as version requirements read it. The three numbers fit in 64 bits.
-/

namespace LatentDeck.SemVer

inductive Identifier where
  | numeric (value : Nat)
  | alphanumeric (text : List Char)
  deriving DecidableEq

structure Version where
  major : Nat
  minor : Nat
  patch : Nat
  pre : List Identifier
  build : List (List Char)
  deriving DecidableEq

def numberLimit : Nat := 2 ^ 64

/-- Whether digits are a number without leading zeros. -/
def isNumber (digits : List Char) : Bool :=
  !digits.isEmpty && digits.all Char.isDigit && (digits.length == 1 || digits.head? != some '0')

/-- Whether a character may stand in an identifier. -/
def isIdentifierChar (char : Char) : Bool := char.isAlphanum || char == '-'

/-- Whether a character may stand in a version. -/
def isVersionChar (char : Char) : Bool := isIdentifierChar char || char == '.' || char == '+'

def parseNumber (digits : List Char) : Option Nat :=
  if isNumber digits = true ∧ Nat.ofDigitChars 10 digits 0 < numberLimit then
    some (Nat.ofDigitChars 10 digits 0)
  else none

/-- An identifier of a pre-release: digits are a number without leading zeros. -/
def parseIdentifier (text : List Char) : Option Identifier :=
  if text = [] ∨ text.all isIdentifierChar = false then none
  else if text.all Char.isDigit = false then some (.alphanumeric text)
  else if isNumber text = true then some (.numeric (Nat.ofDigitChars 10 text 0))
  else none

def parseBuild (text : List Char) : Option (List Char) :=
  if text = [] ∨ text.all isIdentifierChar = false then none else some text

/-- What is before the first occurrence of a mark, and what is after it. -/
def cutAt (mark : Char) (text : List Char) : List Char × Option (List Char) :=
  if mark ∈ text then (text.takeWhile (· ≠ mark), some (text.dropWhile (· ≠ mark)).tail)
  else (text, none)

def parseCore (text : List Char) : Option (Nat × Nat × Nat) :=
  match text.splitOn '.' with
  | [major, minor, patch] =>
      match parseNumber major, parseNumber minor, parseNumber patch with
      | some major, some minor, some patch => some (major, minor, patch)
      | _, _, _ => none
  | _ => none

/-- Identifiers between dots, where there are any. -/
def parseIdentifiers {α : Type} (parse : List Char → Option α) :
    Option (List Char) → Option (List α)
  | none => some []
  | some text => (text.splitOn '.').mapM parse

def parse (text : List Char) : Option Version :=
  let (front, build) := cutAt '+' text
  let (core, pre) := cutAt '-' front
  match parseCore core, parseIdentifiers parseIdentifier pre, parseIdentifiers parseBuild build with
  | some (major, minor, patch), some pre, some build => some ⟨major, minor, patch, pre, build⟩
  | _, _, _ => none

def Identifier.precedence : Identifier → Identifier → Ordering
  | numeric left, numeric right => compare left right
  | numeric _, alphanumeric _ => .lt
  | alphanumeric _, numeric _ => .gt
  | alphanumeric left, alphanumeric right => left.compareLex compare right

def preReleasePrecedence : List Identifier → List Identifier → Ordering
  | [], [] => .eq
  | [], _ :: _ => .gt
  | _ :: _, [] => .lt
  | left, right => left.compareLex Identifier.precedence right

/-- The precedence of versions, where builds do not count. -/
def precedence (left right : Version) : Ordering :=
  (compare left.major right.major).then <| (compare left.minor right.minor).then <|
    (compare left.patch right.patch).then <| preReleasePrecedence left.pre right.pre

def inRange (low high version : Version) : Bool :=
  precedence version low != .lt && precedence version high == .lt

/-- Whether a bound is a pre-release of the release that a version belongs to. -/
def namesPreRelease (bound version : Version) : Bool :=
  bound.major == version.major && bound.minor == version.minor && bound.patch == version.patch &&
    !bound.pre.isEmpty

/-- The rule of version requirements for pre-releases: a bound must be a pre-release of the same
release. -/
def preReleaseAllowed (low high version : Version) : Bool :=
  version.pre.isEmpty || namesPreRelease low version || namesPreRelease high version

/-- What the requirement with the two bounds matches. -/
def admits (low high version : Version) : Bool :=
  inRange low high version && preReleaseAllowed low high version

variable {digits : List Char}

theorem isNumber_digits (number : isNumber digits = true) :
    digits ≠ [] ∧ ∀ char ∈ digits, char.isDigit = true := by
  unfold isNumber at number
  rw [Bool.and_eq_true, Bool.and_eq_true] at number
  have nonempty : digits ≠ [] := by
    intro empty
    rw [empty] at number
    exact Bool.noConfusion number.1.1
  exact ⟨nonempty, List.all_eq_true.mp number.1.2⟩

theorem isVersionChar_of_isDigit {char : Char} (digit : char.isDigit = true) :
    isVersionChar char = true := by
  simp [isVersionChar, isIdentifierChar, Char.isAlphanum, digit]

theorem isVersionChar_of_isIdentifierChar {char : Char} (allowed : isIdentifierChar char = true) :
    isVersionChar char = true := by
  simp [isVersionChar, allowed]

theorem isNumber_of_parseNumber {value : Nat} (read : parseNumber digits = some value) :
    isNumber digits = true := by
  unfold parseNumber at read
  by_cases number : isNumber digits = true ∧ Nat.ofDigitChars 10 digits 0 < numberLimit
  · exact number.1
  · rw [if_neg number] at read
    exact nomatch read

variable {text : List Char}

theorem chars_of_allowed (allowed : ¬ (text = [] ∨ text.all isIdentifierChar = false)) :
    ∀ char ∈ text, isVersionChar char = true := by
  intro char within
  have every : text.all isIdentifierChar = true := Bool.not_eq_false _ ▸ (not_or.mp allowed).2
  exact isVersionChar_of_isIdentifierChar (List.all_eq_true.mp every char within)

theorem chars_of_parseIdentifier {identifier : Identifier}
    (read : parseIdentifier text = some identifier) : ∀ char ∈ text, isVersionChar char = true := by
  unfold parseIdentifier at read
  by_cases refused : text = [] ∨ text.all isIdentifierChar = false
  · rw [if_pos refused] at read
    exact nomatch read
  · exact chars_of_allowed refused

theorem chars_of_parseBuild {identifier : List Char}
    (read : parseBuild text = some identifier) : ∀ char ∈ text, isVersionChar char = true := by
  unfold parseBuild at read
  by_cases refused : text = [] ∨ text.all isIdentifierChar = false
  · rw [if_pos refused] at read
    exact nomatch read
  · exact chars_of_allowed refused

theorem chars_of_parts
    (parts : ∀ part ∈ text.splitOn '.', ∀ char ∈ part, isVersionChar char = true) :
    ∀ char ∈ text, isVersionChar char = true := by
  intro char within
  cases Text.separates_or_mem_part (fun char => char == '.') within with
  | inl dot =>
    have same : char = '.' := eq_of_beq dot
    rw [same]
    decide
  | inr inside =>
    obtain ⟨part, isPart, among⟩ := inside
    exact parts part isPart char among

theorem mem_of_mapM {α β : Type} {parse : α → Option β} {values : List α} {results : List β}
    (read : values.mapM parse = some results) :
    ∀ value ∈ values, ∃ result, parse value = some result := by
  induction values generalizing results with
  | nil => exact fun value within => absurd within List.not_mem_nil
  | cons first rest ih =>
    rw [List.mapM_cons, Option.bind_eq_bind, Option.bind_eq_some_iff] at read
    obtain ⟨result, head, later⟩ := read
    rw [Option.bind_eq_bind, Option.bind_eq_some_iff] at later
    obtain ⟨others, tail, -⟩ := later
    exact List.forall_mem_cons.mpr ⟨⟨result, head⟩, ih tail⟩

theorem chars_of_parseIdentifiers {α : Type} {parse : List Char → Option α} {identifiers : List α}
    (each : ∀ part result, parse part = some result → ∀ char ∈ part, isVersionChar char = true)
    (read : parseIdentifiers parse (some text) = some identifiers) :
    ∀ char ∈ text, isVersionChar char = true := by
  apply chars_of_parts
  intro part isPart
  obtain ⟨result, parsed⟩ := mem_of_mapM read part isPart
  exact each part result parsed

theorem chars_of_parseCore {numbers : Nat × Nat × Nat} (read : parseCore text = some numbers) :
    text ≠ [] ∧ ∀ char ∈ text, isVersionChar char = true := by
  unfold parseCore at read
  split at read
  · rename_i major minor patch parts
    split at read
    · rename_i first second third
      refine ⟨?_, chars_of_parts ?_⟩
      · intro empty
        rw [empty, List.splitOn_nil] at parts
        simp at parts
      · rw [parts]
        have digits : ∀ {part : List Char} {value : Nat}, parseNumber part = some value →
            ∀ char ∈ part, isVersionChar char = true := fun parsed char within =>
          isVersionChar_of_isDigit
            ((isNumber_digits (isNumber_of_parseNumber parsed)).2 char within)
        simp only [List.forall_mem_cons]
        exact ⟨digits first, digits second, digits third, fun part none => absurd none
          List.not_mem_nil⟩
    · exact nomatch read
  · exact nomatch read

variable {mark : Char} {rest : Option (List Char)}

/-- The characters around a mark are those of the whole, and the front is not longer. -/
theorem chars_of_cutAt {text front : List Char} (cut : cutAt mark text = (front, rest))
    (allowed : isVersionChar mark = true) (before : ∀ char ∈ front, isVersionChar char = true)
    (after : ∀ part ∈ rest, ∀ char ∈ part, isVersionChar char = true) :
    ∀ char ∈ text, isVersionChar char = true := by
  unfold cutAt at cut
  by_cases marked : mark ∈ text
  · rw [if_pos marked, Prod.mk.injEq] at cut
    have later := after (text.dropWhile (· ≠ mark)).tail (cut.2 ▸ rfl)
    intro char within
    rw [← List.takeWhile_append_dropWhile (p := fun char => decide (char ≠ mark)) (l := text)]
      at within
    cases List.mem_append.mp within with
    | inl first => exact before char (cut.1 ▸ first)
    | inr second =>
      cases found : text.dropWhile (· ≠ mark) with
      | nil =>
        rw [found] at second
        exact absurd second List.not_mem_nil
      | cons head tail =>
        rw [found] at second later
        cases List.mem_cons.mp second with
        | inl first =>
          have stops : (decide (head ≠ mark)) = false := by
            have := List.head_dropWhile_not (fun char => decide (char ≠ mark)) (l := text)
              (by rw [found]; exact List.cons_ne_nil _ _)
            simpa only [found, List.head_cons] using this
          have same : head = mark := by simpa using stops
          rw [first, same]
          exact allowed
        | inr others => exact later char others
  · rw [if_neg marked, Prod.mk.injEq] at cut
    rw [cut.1]
    exact before

theorem ne_nil_of_cutAt {text front : List Char} (cut : cutAt mark text = (front, rest))
    (nonempty : front ≠ []) : text ≠ [] := by
  intro empty
  rw [empty] at cut
  have same : front = [] := (Prod.mk.inj cut).1.symm
  exact nonempty same

theorem chars_of_parse {version : Version}
    (read : parse text = some version) : text ≠ [] ∧ ∀ char ∈ text, isVersionChar char = true := by
  unfold parse at read
  cases cutBuild : cutAt '+' text with
  | mk front build =>
    cases cutPre : cutAt '-' front with
    | mk core pre =>
      simp only [cutBuild, cutPre] at read
      split at read
      · rename_i numbers preRead buildRead
        have ofCore := chars_of_parseCore numbers
        have ofFront := chars_of_cutAt cutPre (by decide) ofCore.2 (by
          intro part isPre
          cases isPre
          exact chars_of_parseIdentifiers (fun _ _ => chars_of_parseIdentifier) preRead)
        refine ⟨ne_nil_of_cutAt cutBuild (ne_nil_of_cutAt cutPre ofCore.1), ?_⟩
        apply chars_of_cutAt cutBuild (by decide) ofFront
        intro part isBuild
        cases isBuild
        exact chars_of_parseIdentifiers (fun _ _ => chars_of_parseBuild) buildRead
      · exact nomatch read

/-- Whether digits are one of the three numbers: without leading zeros, in 64 bits. -/
def isPlainNumber (digits : List Char) : Bool :=
  (digits.length == 1 || digits.head? != some '0') &&
    decide (Nat.ofDigitChars 10 digits 0 < numberLimit)

/-- Digits are read when they are a plain number. -/
theorem parseNumber_isSome (nonempty : digits ≠ []) (each : ∀ char ∈ digits, char.isDigit = true) :
    (parseNumber digits).isSome = isPlainNumber digits := by
  have present : digits.isEmpty = false := by
    cases digits with
    | nil => exact absurd rfl nonempty
    | cons first rest => rfl
  have number : isNumber digits = (digits.length == 1 || digits.head? != some '0') := by
    unfold isNumber
    rw [present, List.all_eq_true.mpr each]
    rfl
  unfold parseNumber isPlainNumber
  rw [number]
  by_cases both : (digits.length == 1 || digits.head? != some '0') = true ∧
      Nat.ofDigitChars 10 digits 0 < numberLimit
  · rw [if_pos both, both.1, decide_eq_true both.2]
    rfl
  · rw [if_neg both, Option.isSome_none]
    symm
    rw [Bool.and_eq_false_iff]
    by_cases first : (digits.length == 1 || digits.head? != some '0') = true
    · exact Or.inr (decide_eq_false fun small => both ⟨first, small⟩)
    · exact Or.inl (Bool.eq_false_iff.mpr first)

theorem cutAt_of_not_mem (unmarked : mark ∉ text) : cutAt mark text = (text, none) :=
  if_neg unmarked

/-- Digits between dots are read as three numbers. -/
theorem parse_isSome_of_plain (plain : ∀ char ∈ text, char.isDigit = true ∨ char = '.') :
    (parse text).isSome = (parseCore text).isSome := by
  have unmarked : ∀ mark : Char, mark.isDigit = false → mark ≠ '.' → mark ∉ text := by
    intro mark notDigit notDot within
    cases plain mark within with
    | inl digit => exact Bool.noConfusion (notDigit.symm.trans digit)
    | inr dot => exact notDot dot
  unfold parse
  rw [cutAt_of_not_mem (unmarked '+' (by decide) (by decide))]
  dsimp only
  rw [cutAt_of_not_mem (unmarked '-' (by decide) (by decide))]
  dsimp only [parseIdentifiers]
  cases parseCore text <;> rfl

theorem parseCore_isSome {text first second third : List Char}
    (parts : text.splitOn '.' = [first, second, third]) :
    (parseCore text).isSome =
      ((parseNumber first).isSome && (parseNumber second).isSome && (parseNumber third).isSome) := by
  unfold parseCore
  rw [parts]
  dsimp only
  cases parseNumber first <;> cases parseNumber second <;> cases parseNumber third <;> rfl

theorem parseCore_eq_none (parts : (text.splitOn '.').length ≠ 3) : parseCore text = none := by
  unfold parseCore
  split
  · rename_i same
    rw [same] at parts
    exact absurd rfl parts
  · rfl

end LatentDeck.SemVer
