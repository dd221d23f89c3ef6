import LatentDeck.Library.LittleEndian

/-!
# Byte-addressed memory

A memory is a total map from addresses to bytes. Blocks of bytes are loaded and stored as lists,
and words are blocks read in little-endian order. The frame lemmas say which loads a store can
change; everything that reasons about a layout of fields inside a block uses `load_store_middle`.
-/

namespace LatentDeck

open LittleEndian

abbrev Memory := Nat → UInt8

namespace Memory

/-- The `count` bytes that start at an address. -/
def load (memory : Memory) : Nat → Nat → List UInt8
  | _, 0 => []
  | address, count + 1 => memory address :: load memory (address + 1) count

/-- Replaces the bytes that start at an address. -/
def store (memory : Memory) (address : Nat) (bytes : List UInt8) : Memory :=
  fun other =>
    if address ≤ other ∧ other < address + bytes.length then
      bytes.getD (other - address) 0
    else memory other

/-- The 64-bit little-endian word at an address. -/
def word (memory : Memory) (address : Nat) : Nat := leValue (memory.load address 8)

/-- Replaces the 64-bit little-endian word at an address. -/
def storeWord (memory : Memory) (address value : Nat) : Memory :=
  memory.store address (leBytes 8 value)

variable (memory : Memory) (address : Nat)

@[simp]
theorem load_length (count : Nat) : (memory.load address count).length = count := by
  induction count generalizing address with
  | zero => rfl
  | succ count ih => simp only [load, List.length_cons, ih]

theorem load_getElem (count index : Nat) (inside : index < count) :
    (memory.load address count)[index]? = some (memory (address + index)) := by
  induction count generalizing address index with
  | zero => omega
  | succ count ih =>
    cases index with
    | zero => simp only [load, List.getElem?_cons_zero, Nat.add_zero]
    | succ index =>
      rw [load, List.getElem?_cons_succ, ih (address + 1) index (by omega)]
      congr 2
      omega

/-- Blocks agree when the memories agree on every loaded address. -/
theorem load_congr (left right : Memory) (address count : Nat)
    (same : ∀ index, index < count → left (address + index) = right (address + index)) :
    left.load address count = right.load address count := by
  induction count generalizing address with
  | zero => rfl
  | succ count ih =>
    have head := same 0 (by omega)
    have tail : left.load (address + 1) count = right.load (address + 1) count := by
      apply ih
      intro index inside
      have shifted := same (index + 1) (by omega)
      rwa [show address + 1 + index = address + (index + 1) by omega]
    rw [load, load, tail]
    exact congrArg (· :: _) head

theorem load_append (first second : Nat) :
    memory.load address (first + second) =
      memory.load address first ++ memory.load (address + first) second := by
  induction first generalizing address with
  | zero => simp only [Nat.zero_add, load, List.nil_append, Nat.add_zero]
  | succ first ih =>
    rw [show first + 1 + second = (first + second) + 1 by omega, load, load, ih,
      List.cons_append, show address + 1 + first = address + (first + 1) by omega]

theorem load_field (offset count size : Nat) (inside : offset + count ≤ size) :
    memory.load (address + offset) count =
      ((memory.load address size).drop offset).take count := by
  have split : memory.load address size = memory.load address offset ++
      (memory.load (address + offset) count ++
        memory.load (address + offset + count) (size - offset - count)) := by
    rw [← load_append, ← load_append]
    congr 1
    omega
  rw [split, List.drop_left' (by simp), List.take_left' (by simp)]

theorem store_outside (other : Nat) (bytes : List UInt8)
    (outside : other < address ∨ address + bytes.length ≤ other) :
    memory.store address bytes other = memory other := by
  rw [store, if_neg (by omega)]

theorem store_inside (index : Nat) (bytes : List UInt8) (inside : index < bytes.length) :
    memory.store address bytes (address + index) = bytes[index] := by
  rw [store, if_pos (by omega), Nat.add_sub_cancel_left]
  simp only [List.getD_eq_getElem?_getD, List.getElem?_eq_getElem inside, Option.getD_some]

@[simp]
theorem store_nil : memory.store address [] = memory := by
  funext other
  apply store_outside
  simp only [List.length_nil]
  omega

/-- A block store is its first byte followed by the remaining bytes. -/
theorem store_cons (byte : UInt8) (bytes : List UInt8) :
    memory.store address (byte :: bytes) =
      (memory.store address [byte]).store (address + 1) bytes := by
  funext other
  by_cases first : other = address
  · subst first
    rw [store_outside _ (other + 1) other bytes (by omega)]
    have left := store_inside memory other 0 (byte :: bytes) (by simp)
    have right := store_inside memory other 0 [byte] (by simp)
    simpa using left.trans right.symm
  · by_cases inside : address < other ∧ other < address + 1 + bytes.length
    · obtain ⟨index, rfl⟩ : ∃ index, other = address + (index + 1) := ⟨other - address - 1, by omega⟩
      have left := store_inside memory address (index + 1) (byte :: bytes)
        (by simp only [List.length_cons]; omega)
      have right := store_inside (memory.store address [byte]) (address + 1) index bytes
        (by omega)
      rw [left, show address + (index + 1) = address + 1 + index by omega, right,
        List.getElem_cons_succ]
    · have outside : other < address ∨ address + (bytes.length + 1) ≤ other := by omega
      rw [store_outside _ _ _ _ (by simpa only [List.length_cons] using outside),
        store_outside _ _ _ _ (by omega),
        store_outside _ _ _ _ (by simp only [List.length_singleton]; omega)]

@[simp]
theorem load_store_same (bytes : List UInt8) :
    (memory.store address bytes).load address bytes.length = bytes := by
  apply List.ext_getElem?
  intro index
  by_cases inside : index < bytes.length
  · rw [load_getElem _ _ _ _ inside, store_inside _ _ _ _ inside,
      List.getElem?_eq_getElem inside]
  · rw [List.getElem?_eq_none (by simp; omega), List.getElem?_eq_none (by omega)]

theorem load_store_disjoint (other count : Nat) (bytes : List UInt8)
    (disjoint : other + count ≤ address ∨ address + bytes.length ≤ other) :
    (memory.store address bytes).load other count = memory.load other count := by
  apply load_congr
  intro index inside
  apply store_outside
  omega

/-- A store into the middle of a block replaces exactly the middle part. -/
theorem load_store_middle (count : Nat) (front middle back bytes : List UInt8)
    (block : memory.load address count = front ++ (middle ++ back))
    (width : bytes.length = middle.length) :
    (memory.store (address + front.length) bytes).load address count =
      front ++ (bytes ++ back) := by
  have size : count = front.length + (middle.length + back.length) := by
    have lengths := congrArg List.length block
    simpa only [load_length, List.length_append] using lengths
  have parts := block
  rw [size, load_append, load_append] at parts
  obtain ⟨frontPart, rest⟩ := List.append_inj parts (by simp)
  obtain ⟨-, backPart⟩ := List.append_inj rest (by simp)
  rw [size, load_append, load_append]
  rw [load_store_disjoint _ _ _ _ _ (Or.inl (by omega)), frontPart]
  rw [load_store_disjoint _ _ (address + front.length + middle.length) _ _
    (Or.inr (by omega)), backPart]
  rw [← width, load_store_same]

/-- A field of a block that is a sequence of fields is loaded from its own offset. -/
theorem load_flatten_field (size index : Nat) (fields : List (List UInt8)) (field : List UInt8)
    (block : memory.load address size = fields.flatten) (found : fields[index]? = some field) :
    memory.load (address + (fields.take index).flatten.length) field.length = field := by
  obtain ⟨inside, rfl⟩ := List.getElem?_eq_some_iff.mp found
  have parts : fields.flatten = (fields.take index).flatten ++
      (fields[index] ++ (fields.drop (index + 1)).flatten) := by
    rw [← List.flatten_cons, List.getElem_cons_drop inside, ← List.flatten_append,
      List.take_append_drop]
  have total := congrArg List.length block
  rw [load_length, parts, List.length_append, List.length_append] at total
  rw [load_field memory address _ _ size (by omega), block, parts, List.drop_left,
    List.take_left]

theorem word_bound : memory.word address < 2 ^ 64 := by
  have bound := leValue_bound (memory.load address 8)
  rwa [load_length, show (256 : Nat) ^ 8 = 2 ^ 64 by norm_num] at bound

theorem word_storeWord_same (value : Nat) (fits : value < 2 ^ 64) :
    (memory.storeWord address value).word address = value := by
  have same := load_store_same memory address (leBytes 8 value)
  rw [leBytes_length] at same
  rw [word, storeWord, same, leValue_leBytes_of_lt]
  rwa [show (256 : Nat) ^ 8 = 2 ^ 64 by norm_num]

theorem word_store_disjoint (other : Nat) (bytes : List UInt8)
    (disjoint : other + 8 ≤ address ∨ address + bytes.length ≤ other) :
    (memory.store address bytes).word other = memory.word other := by
  rw [word, load_store_disjoint _ _ _ _ _ disjoint, word]

theorem load_store_leBytes (width value : Nat) :
    (memory.store address (leBytes width value)).load address width = leBytes width value := by
  have same := load_store_same memory address (leBytes width value)
  rwa [leBytes_length] at same

theorem load_store_zero (other count cleared : Nat)
    (inside : address ≤ other ∧ other + count ≤ address + cleared) :
    (memory.store address (List.replicate cleared 0)).load other count = List.replicate count 0 := by
  have block := load_store_same memory address (List.replicate cleared 0)
  rw [List.length_replicate] at block
  obtain ⟨offset, rfl⟩ : ∃ offset, other = address + offset := ⟨other - address, by omega⟩
  rw [load_field _ _ _ _ cleared (by omega), block, List.drop_replicate, List.take_replicate,
    Nat.min_eq_left (by omega)]

theorem word_store_zero (other count : Nat)
    (inside : address ≤ other ∧ other + 8 ≤ address + count) :
    (memory.store address (List.replicate count 0)).word other = 0 := by
  rw [word, load_store_zero _ _ _ _ _ inside]
  decide

end Memory
end LatentDeck
