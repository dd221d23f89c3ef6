import LatentDeck.Library.LittleEndian

/-!
# Readers of byte formats

A reader consumes bytes of a medium from a position. Its grammar is a relation between values and
byte strings, and `Reads` says that it accepts exactly the strings of the grammar. So one proof
about a record yields that written records are read back and that whatever is read could only have
been written so. Grammars compose like readers.
-/

namespace LatentDeck.ByteFormat

open LittleEndian

/-- The bytes of a medium at a position start with a byte string. -/
def At (medium : List UInt8) (position : Nat) (bytes : List UInt8) : Prop :=
  bytes <+: medium.drop position

variable (medium : List UInt8)

theorem at_nil (position : Nat) : At medium position [] :=
  List.nil_prefix

theorem at_append (position : Nat) (front back : List UInt8) :
    At medium position (front ++ back) ↔
      At medium position front ∧ At medium (position + front.length) back := by
  unfold At
  constructor
  · rintro ⟨rest, split⟩
    refine ⟨⟨back ++ rest, by rw [← split, List.append_assoc]⟩, rest, ?_⟩
    rw [← List.drop_drop, ← split, List.append_assoc, List.drop_left]
  · rintro ⟨⟨middle, first⟩, rest, second⟩
    rw [← List.drop_drop, ← first, List.drop_left] at second
    exact ⟨rest, by rw [← first, ← second, List.append_assoc]⟩

theorem at_slice (position : Nat) (bytes : List UInt8) (present : At medium position bytes) :
    (medium.drop position).take bytes.length = bytes := by
  obtain ⟨rest, split⟩ := present
  rw [← split, List.take_left]

theorem at_self : At medium 0 medium := List.prefix_refl _

theorem eq_of_at_start (bytes : List UInt8) (present : At medium 0 bytes)
    (length : bytes.length = medium.length) : medium = bytes :=
  (List.IsPrefix.eq_of_length present (by rw [length, List.drop_zero])).symm

/-- A computation that reads a medium from a position. -/
def ByteReader (ε α : Type) := List UInt8 → Nat → Except ε (α × Nat)

variable {ε α β : Type}

instance : Monad (ByteReader ε) where
  pure value := fun _ position => .ok (value, position)
  bind reader next := fun medium position =>
    match reader medium position with
    | .ok (value, position) => next value medium position
    | .error error => .error error

def refuse (error : ε) : ByteReader ε α := fun _ _ => .error error

/-- Requires a condition, and is the error `error` without it. -/
def demand (condition : Prop) [Decidable condition] (error : ε) : ByteReader ε Unit :=
  if condition then pure () else refuse error

def seek (position : Nat) : ByteReader ε Unit := fun _ _ => .ok ((), position)

def streamPosition : ByteReader ε Nat := fun _ position => .ok (position, position)

/-- Exactly `count` bytes, or the error `short` at the end of the medium. -/
def readExact (count : Nat) (short : ε) : ByteReader ε (List UInt8) := fun medium position =>
  if ((medium.drop position).take count).length = count then
    .ok ((medium.drop position).take count, position + count)
  else .error short

/-- A little-endian word of `width` bytes. -/
def readWord (width : Nat) (short : ε) : ByteReader ε Nat := do
  let bytes ← readExact width short
  return leValue bytes

/-- A reader accepts exactly the strings of a grammar. -/
def Reads (reader : ByteReader ε α) (grammar : α → List UInt8 → Prop) : Prop :=
  ∀ medium position value next, reader medium position = .ok (value, next) ↔
    ∃ bytes, grammar value bytes ∧ At medium position bytes ∧ next = position + bytes.length

/-- A composed reader succeeds when its parts do, one after the other. -/
theorem bind_ok (reader : ByteReader ε α) (next : α → ByteReader ε β) (medium : List UInt8)
    (position finish : Nat) (value : β) :
    (reader >>= next) medium position = .ok (value, finish) ↔
      ∃ first middle, reader medium position = .ok (first, middle) ∧
        next first medium middle = .ok (value, finish) := by
  change (match reader medium position with
    | .ok (value, position) => next value medium position
    | .error error => .error error) = _ ↔ _
  split
  · rename_i first middle ran
    constructor
    · exact fun rest => ⟨first, middle, ran, rest⟩
    · rintro ⟨other, between, same, rest⟩
      rw [ran] at same
      cases same
      exact rest
  · rename_i error ran
    simp [ran]

theorem pure_ok (found value : α) (medium : List UInt8) (position next : Nat) :
    (pure found : ByteReader ε α) medium position = .ok (value, next) ↔
      value = found ∧ next = position := by
  change Except.ok (found, position) = _ ↔ _
  rw [Except.ok.injEq, Prod.mk.injEq]
  exact ⟨fun same => ⟨same.1.symm, same.2.symm⟩, fun same => ⟨same.1.symm, same.2.symm⟩⟩

theorem refuse_ok (error : ε) (medium : List UInt8) (position : Nat) (result : α × Nat) :
    ¬ (refuse error : ByteReader ε α) medium position = .ok result :=
  nofun

theorem demand_ok (condition : Prop) [Decidable condition] (error : ε) (medium : List UInt8)
    (position next : Nat) (value : Unit) :
    demand condition error medium position = .ok (value, next) ↔
      condition ∧ next = position := by
  unfold demand
  by_cases holds : condition
  · rw [if_pos holds, pure_ok]
    exact ⟨fun same => ⟨holds, same.2⟩, fun same => ⟨rfl, same.2⟩⟩
  · rw [if_neg holds]
    constructor
    · exact nofun
    · exact fun same => absurd same.1 holds

theorem seek_ok (target : Nat) (medium : List UInt8) (position next : Nat) (value : Unit) :
    (seek target : ByteReader ε Unit) medium position = .ok (value, next) ↔ next = target := by
  change Except.ok ((), target) = _ ↔ _
  rw [Except.ok.injEq, Prod.mk.injEq]
  exact ⟨fun same => same.2.symm, fun same => ⟨rfl, same.symm⟩⟩

theorem streamPosition_ok (position value next : Nat) :
    (streamPosition : ByteReader ε Nat) medium position = .ok (value, next) ↔
      value = position ∧ next = position := by
  change Except.ok (position, position) = _ ↔ _
  rw [Except.ok.injEq, Prod.mk.injEq]
  exact ⟨fun same => ⟨same.1.symm, same.2.symm⟩, fun same => ⟨same.1.symm, same.2.symm⟩⟩

/-- Exact reads return the next bytes when there are enough of them. -/
theorem readExact_ok (count : Nat) (short : ε) (medium : List UInt8)
    (position next : Nat) (value : List UInt8) :
    readExact count short medium position = .ok (value, next) ↔
      value = (medium.drop position).take count ∧ value.length = count ∧
        next = position + count := by
  unfold readExact
  constructor
  · intro ran
    split at ran
    · rename_i full
      cases ran
      exact ⟨rfl, full, rfl⟩
    · cases ran
  · rintro ⟨rfl, full, rfl⟩
    rw [if_pos full]

namespace Reads

theorem pure (value : α) :
    Reads (Pure.pure value : ByteReader ε α) fun read bytes => read = value ∧ bytes = [] := by
  intro medium position read next
  change Except.ok (value, position) = _ ↔ _
  constructor
  · intro same
    cases same
    exact ⟨[], ⟨rfl, rfl⟩, at_nil _ _, rfl⟩
  · rintro ⟨bytes, ⟨rfl, rfl⟩, -, rfl⟩
    rfl

variable {reader : ByteReader ε α} {first : α → List UInt8 → Prop}

/-- The grammar of a composed reader concatenates the grammars of its parts. -/
theorem bind {next : α → ByteReader ε β} {second : α → β → List UInt8 → Prop}
    (reads : Reads reader first) (rest : ∀ value, Reads (next value) (second value)) :
    Reads (reader >>= next) fun value bytes =>
      ∃ middle front back, first middle front ∧ second middle value back ∧
        bytes = front ++ back := by
  intro medium position value finish
  rw [bind_ok]
  constructor
  · rintro ⟨middle, between, ran, ended⟩
    obtain ⟨front, frontGrammar, frontAt, rfl⟩ := (reads ..).mp ran
    obtain ⟨back, backGrammar, backAt, rfl⟩ := (rest middle ..).mp ended
    refine ⟨front ++ back, ⟨middle, front, back, frontGrammar, backGrammar, rfl⟩, ?_, ?_⟩
    · exact (at_append ..).mpr ⟨frontAt, backAt⟩
    · rw [List.length_append, Nat.add_assoc]
  · rintro ⟨bytes, ⟨middle, front, back, frontGrammar, backGrammar, rfl⟩, present, rfl⟩
    obtain ⟨frontAt, backAt⟩ := (at_append ..).mp present
    refine ⟨middle, position + front.length, (reads ..).mpr ⟨front, frontGrammar, frontAt, rfl⟩, ?_⟩
    refine (rest middle ..).mpr ⟨back, backGrammar, backAt, ?_⟩
    rw [List.length_append, Nat.add_assoc]

theorem demand (condition : Prop) [Decidable condition] (error : ε) :
    Reads (ByteFormat.demand condition error) fun _ bytes => condition ∧ bytes = [] := by
  unfold ByteFormat.demand
  split
  · rename_i holds
    intro medium position value next
    rw [Reads.pure () medium position value next]
    simp only [true_and, holds]
  · rename_i absent
    intro medium position value next
    simp only [refuse, reduceCtorEq, absent, false_and, exists_const]

theorem readExact (count : Nat) (short : ε) :
    Reads (ByteFormat.readExact count short) fun value bytes =>
      value = bytes ∧ bytes.length = count := by
  intro medium position value next
  rw [readExact_ok]
  constructor
  · rintro ⟨rfl, full, rfl⟩
    exact ⟨_, ⟨rfl, full⟩, List.take_prefix _ _, by rw [full]⟩
  · rintro ⟨bytes, ⟨rfl, rfl⟩, present, rfl⟩
    exact ⟨(at_slice _ _ _ present).symm, rfl, rfl⟩

/-- Word reads accept exactly the words that fit their width. -/
theorem readWord (width : Nat) (short : ε) :
    Reads (ByteFormat.readWord width short) fun value bytes =>
      value < 256 ^ width ∧ bytes = leBytes width value := by
  intro medium position value next
  rw [ByteFormat.readWord,
    Reads.bind (Reads.readExact width short) (fun bytes => Reads.pure (leValue bytes)) ..]
  constructor
  · rintro ⟨_, ⟨bytes, _, _, ⟨rfl, rfl⟩, ⟨rfl, rfl⟩, rfl⟩, present, rfl⟩
    rw [List.append_nil] at present ⊢
    refine ⟨bytes, ⟨leValue_bound bytes, (leBytes_leValue bytes).symm⟩, present, rfl⟩
  · rintro ⟨_, ⟨fits, rfl⟩, present, rfl⟩
    refine ⟨leBytes width value, ⟨leBytes width value, leBytes width value, [], ⟨rfl, ?_⟩, ⟨?_, rfl⟩,
      ?_⟩, present, rfl⟩
    · rw [leBytes_length]
    · rw [leValue_leBytes_of_lt _ _ fits]
    · rw [List.append_nil]

theorem congr {second : α → List UInt8 → Prop} (reads : Reads reader first)
    (same : ∀ value bytes, first value bytes ↔ second value bytes) : Reads reader second := by
  intro medium position value next
  rw [reads medium position value next]
  simp only [same]

theorem word {next : Nat → ByteReader ε β} {second : Nat → β → List UInt8 → Prop} (width : Nat)
    (short : ε) (rest : ∀ value, Reads (next value) (second value)) :
    Reads (ByteFormat.readWord width short >>= next) fun value bytes =>
      ∃ read back, read < 256 ^ width ∧ second read value back ∧
        bytes = leBytes width read ++ back := by
  apply (Reads.bind (Reads.readWord width short) rest).congr
  intro value bytes
  constructor
  · rintro ⟨read, _, back, ⟨fits, rfl⟩, grammar, rfl⟩
    exact ⟨read, back, fits, grammar, rfl⟩
  · rintro ⟨read, back, fits, grammar, rfl⟩
    exact ⟨read, _, back, ⟨fits, rfl⟩, grammar, rfl⟩

variable {second : β → List UInt8 → Prop}

theorem guard {next : Unit → ByteReader ε β} (condition : Prop) [Decidable condition] (error : ε)
    (rest : Reads (next ()) second) :
    Reads (ByteFormat.demand condition error >>= next) fun value bytes =>
      condition ∧ second value bytes := by
  apply (Reads.bind (Reads.demand condition error) fun _ => rest).congr
  intro value bytes
  constructor
  · rintro ⟨_, _, back, ⟨holds, rfl⟩, grammar, rfl⟩
    exact ⟨holds, grammar⟩
  · rintro ⟨holds, grammar⟩
    exact ⟨(), [], bytes, ⟨holds, rfl⟩, grammar, rfl⟩

theorem fixed {reader : ByteReader ε Unit} {next : Unit → ByteReader ε β} {front : List UInt8}
    (reads : Reads reader fun _ bytes => bytes = front) (rest : Reads (next ()) second) :
    Reads (reader >>= next) fun value bytes =>
      ∃ back, second value back ∧ bytes = front ++ back := by
  apply (Reads.bind reads fun _ => rest).congr
  intro value bytes
  constructor
  · rintro ⟨_, _, back, rfl, grammar, rfl⟩
    exact ⟨back, grammar, rfl⟩
  · rintro ⟨back, grammar, rfl⟩
    exact ⟨(), _, back, rfl, grammar, rfl⟩

theorem accepts {grammar : α → List UInt8 → Prop} (reads : Reads reader grammar)
    (medium : List UInt8) (position : Nat) (value : α) (bytes : List UInt8)
    (generated : grammar value bytes) (present : At medium position bytes) :
    reader medium position = .ok (value, position + bytes.length) :=
  (reads ..).mpr ⟨bytes, generated, present, rfl⟩

end Reads
end LatentDeck.ByteFormat
