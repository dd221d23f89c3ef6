import LatentDeck.Library.Memory

/-!
# Programs over shared memory

A program is the tree of its atomic memory accesses. Plain multi-byte accesses are programs of
one-byte accesses, so an observer can fall between any two of them; an atomic word is one access.
`run` performs a whole call at once, and `access` performs one access, which is what `System`
interleaves between two endpoints.
-/

namespace LatentDeck

open LittleEndian

/-- A computation that touches memory one atomic access at a time. -/
inductive Program (ε α : Type) where
  | done (value : α)
  | fail (error : ε)
  | load (address count : Nat) (next : List UInt8 → Program ε α)
  | store (address : Nat) (bytes : List UInt8) (next : Program ε α)
  | exchange (address : Nat) (expected replacement : List UInt8)
      (next : List UInt8 → Program ε α)

namespace Program

variable {ε α β : Type}

/-- Sequential composition; an error skips the continuation. -/
def bind : Program ε α → (α → Program ε β) → Program ε β
  | done value, next => next value
  | fail error, _ => fail error
  | load address count rest, next => load address count fun bytes => (rest bytes).bind next
  | store address bytes rest, next => store address bytes (rest.bind next)
  | exchange address expected replacement rest, next =>
      exchange address expected replacement fun bytes => (rest bytes).bind next

instance : Monad (Program ε) where
  pure := done
  bind := bind

/-- Composition of constructors, in the form `do` blocks produce. -/
@[simp]
theorem done_bind (value : α) (next : α → Program ε β) : (done value >>= next) = next value := rfl

@[simp]
theorem pure_eq (value : α) : (pure value : Program ε α) = done value := rfl

variable (error : ε)

@[simp]
theorem fail_bind (next : α → Program ε β) :
    (fail error >>= next) = fail error := rfl

variable (program : Program ε α)

theorem bind_bind {γ : Type} (first : α → Program ε β) (rest : β → Program ε γ) :
    ((program >>= first) >>= rest) = program >>= fun value => first value >>= rest := by
  induction program with
  | done value => rfl
  | fail error => rfl
  | load address count next ih => exact congrArg (load address count) (funext ih)
  | store address bytes next ih => exact congrArg (store address bytes) ih
  | exchange address expected replacement next ih =>
    exact congrArg (exchange address expected replacement) (funext ih)

/-- Requires a condition, and is the error `error` without it. -/
def ensure (condition : Prop) [Decidable condition] (error : ε) : Program ε Unit :=
  if condition then done () else fail error

/-- An absent value is the error `error`. -/
def orFail (value : Option α) (error : ε) : Program ε α :=
  match value with
  | some value => done value
  | none => fail error

/-- The value or the error of a computation without accesses. -/
def ofExcept : Except ε α → Program ε α
  | .ok value => done value
  | .error error => fail error

def atomicLoad (address : Nat) : Program ε Nat :=
  load address 8 fun bytes => done (leValue bytes)

def atomicStore (address value : Nat) : Program ε Unit :=
  store address (leBytes 8 value) (done ())

/-- One atomic compare and exchange of a 64-bit word; returns the word it found. -/
def compareExchange (address expected replacement : Nat) : Program ε Nat :=
  exchange address (leBytes 8 expected) (leBytes 8 replacement) fun bytes => done (leValue bytes)

/-- Plain loads of consecutive bytes in address order. -/
def loadBytes : Nat → Nat → Program ε (List UInt8)
  | _, 0 => done []
  | address, count + 1 => load address 1 fun first => do
      let rest ← loadBytes (address + 1) count
      done (first ++ rest)

/-- Plain stores of consecutive bytes in address order. -/
def storeBytes : Nat → List UInt8 → Program ε Unit
  | _, [] => done ()
  | address, byte :: bytes => store address [byte] (storeBytes (address + 1) bytes)

/-- Loads consecutive bytes until one of them is not zero. -/
def anyNonzero : Nat → Nat → Program ε Bool
  | _, 0 => done false
  | address, count + 1 => load address 1 fun first =>
      if first = [0] then anyNonzero (address + 1) count else done true

/-- Conjunction of checks that stops at the first one that fails. -/
def allOf : List (Program ε Bool) → Program ε Bool
  | [] => done true
  | check :: checks => do
      let holds ← check
      if holds then allOf checks else done false

/-- Performs the body for each index of a list. -/
def forEach (indices : List Nat) (body : Nat → Program ε Unit) : Program ε Unit :=
  match indices with
  | [] => done ()
  | index :: rest => do
      body index
      forEach rest body

/-- Performs the whole call without interference. -/
def run : Program ε α → Memory → Except ε α × Memory
  | done value, memory => (.ok value, memory)
  | fail error, memory => (.error error, memory)
  | load address count next, memory => (next (memory.load address count)).run memory
  | store address bytes next, memory => next.run (memory.store address bytes)
  | exchange address expected replacement next, memory =>
      let found := memory.load address expected.length
      if found = expected then (next found).run (memory.store address replacement)
      else (next found).run memory

variable (next : α → Program ε β)

/-- A composed call runs its parts one after the other. -/
theorem run_bind (memory : Memory) :
    (program >>= next).run memory =
      match program.run memory with
      | (.ok value, memory) => (next value).run memory
      | (.error error, memory) => (.error error, memory) := by
  induction program generalizing memory with
  | done value => rfl
  | fail error => rfl
  | load address count rest ih => exact ih _ memory
  | store address bytes rest ih => exact ih _
  | exchange address expected replacement rest ih =>
    change (exchange address expected replacement fun bytes => rest bytes >>= next).run memory = _
    simp only [run]
    split
    · exact ih _ _
    · exact ih _ _

theorem run_bind_ok (memory after : Memory) (value : α)
    (returned : program.run memory = (.ok value, after)) :
    (program >>= next).run memory = (next value).run after := by
  rw [run_bind, returned]

theorem run_bind_error (memory after : Memory) (error : ε)
    (failed : program.run memory = (.error error, after)) :
    (program >>= next).run memory = (.error error, after) := by
  rw [run_bind, failed]

@[simp]
theorem run_done (value : α) (memory : Memory) :
    (done value : Program ε α).run memory = (.ok value, memory) := rfl

@[simp]
theorem run_fail (memory : Memory) :
    (fail error : Program ε α).run memory = (.error error, memory) := rfl

variable (condition : Prop)

theorem run_ensure_pos [Decidable condition] (memory : Memory) (holds : condition) :
    (ensure condition error).run memory = (.ok (), memory) := by
  rw [ensure, if_pos holds, run_done]

theorem run_ensure_neg [Decidable condition] (memory : Memory) (absent : ¬ condition) :
    (ensure condition error).run memory = (.error error, memory) := by
  rw [ensure, if_neg absent, run_fail]

theorem run_ensure_returned [Decidable condition] (memory after : Memory) (value : Unit)
    (returned : (ensure condition error).run memory = (.ok value, after)) :
    condition ∧ after = memory := by
  rw [ensure] at returned
  split at returned
  · rename_i holds
    exact ⟨holds, (Prod.mk.inj returned).2.symm⟩
  · cases returned

variable (address : Nat)

@[simp]
theorem run_atomicLoad (memory : Memory) :
    (atomicLoad address : Program ε Nat).run memory = (.ok (memory.word address), memory) := rfl

@[simp]
theorem run_atomicStore (value : Nat) (memory : Memory) :
    (atomicStore address value : Program ε Unit).run memory =
      (.ok (), memory.storeWord address value) := rfl

theorem run_compareExchange (expected replacement : Nat) (memory : Memory)
    (fits : expected < 2 ^ 64) (found : memory.word address = expected) :
    (compareExchange address expected replacement : Program ε Nat).run memory =
      (.ok expected, memory.storeWord address replacement) := by
  have bytes : memory.load address 8 = leBytes 8 expected := by
    apply leValue_injective
    · simp
    · rw [leValue_leBytes_of_lt _ _ (by norm_num; omega)]
      exact found
  simp only [compareExchange, run, leBytes_length, bytes, ↓reduceIte]
  rw [leValue_leBytes_of_lt _ _ (by norm_num; omega), Memory.storeWord]

@[simp]
theorem run_storeBytes (bytes : List UInt8) (memory : Memory) :
    (storeBytes address bytes : Program ε Unit).run memory =
      (.ok (), memory.store address bytes) := by
  induction bytes generalizing address memory with
  | nil => simp only [storeBytes, run_done, Memory.store_nil]
  | cons byte bytes ih => rw [storeBytes, run, ih, Memory.store_cons memory address byte bytes]

theorem run_bind_returned (memory after : Memory) (value : β)
    (returned : (program >>= next).run memory = (.ok value, after)) :
    ∃ first middle, program.run memory = (.ok first, middle) ∧
      (next first).run middle = (.ok value, after) := by
  rw [run_bind] at returned
  split at returned
  · rename_i first middle ran
    exact ⟨first, middle, ran, returned⟩
  · cases returned

def ReadOnly : Program ε α → Prop
  | done _ => True
  | fail _ => True
  | load _ _ next => ∀ bytes, (next bytes).ReadOnly
  | store _ _ _ => False
  | exchange _ _ _ _ => False

theorem run_readOnly (memory : Memory) (readOnly : program.ReadOnly) :
    (program.run memory).2 = memory := by
  induction program with
  | done value => rfl
  | fail error => rfl
  | load address count next ih => exact ih _ (readOnly _)
  | store address bytes next => exact readOnly.elim
  | exchange address expected replacement next => exact readOnly.elim

theorem readOnly_bind (first : program.ReadOnly) (rest : ∀ value, (next value).ReadOnly) :
    (program >>= next).ReadOnly := by
  induction program with
  | done value => exact rest value
  | fail error => exact trivial
  | load address count body ih => exact fun bytes => ih bytes (first bytes)
  | store address bytes body => exact first.elim
  | exchange address expected replacement body => exact first.elim

theorem readOnly_ensure [Decidable condition] : (ensure condition error).ReadOnly := by
  rw [ensure]
  split <;> exact trivial

theorem readOnly_orFail (value : Option α) (error : ε) : (orFail value error).ReadOnly := by
  cases value <;> exact trivial

theorem readOnly_atomicLoad : (atomicLoad address : Program ε Nat).ReadOnly :=
  fun _ => trivial

theorem readOnly_forEach (indices : List Nat) (body : Nat → Program ε Unit)
    (bodies : ∀ index, (body index).ReadOnly) : (forEach indices body).ReadOnly := by
  induction indices with
  | nil => exact trivial
  | cons index rest ih => exact readOnly_bind _ _ (bodies index) fun _ => ih

/-- A loop whose bodies all return, and keep a property of memory, returns and keeps it. -/
theorem run_forEach (indices : List Nat) (body : Nat → Program ε Unit) (kept : Memory → Prop)
    (bodies : ∀ index ∈ indices, ∀ memory, kept memory →
      ∃ after, (body index).run memory = (.ok (), after) ∧ kept after) (memory : Memory)
    (holds : kept memory) :
    ∃ after, (forEach indices body).run memory = (.ok (), after) ∧ kept after := by
  induction indices generalizing memory with
  | nil => exact ⟨memory, rfl, holds⟩
  | cons index rest ih =>
    obtain ⟨middle, ran, keptMiddle⟩ := bodies index (List.mem_cons_self ..) memory holds
    obtain ⟨after, rest, keptAfter⟩ :=
      ih (fun other member => bodies other (List.mem_cons_of_mem _ member)) middle keptMiddle
    exact ⟨after, (run_bind_ok _ _ _ _ _ ran).trans rest, keptAfter⟩

@[simp]
theorem run_loadBytes (count : Nat) (memory : Memory) :
    (loadBytes address count : Program ε (List UInt8)).run memory =
      (.ok (memory.load address count), memory) := by
  induction count generalizing address with
  | zero => rfl
  | succ count ih =>
    rw [loadBytes, run, run_bind_ok _ _ _ _ _ (ih (address + 1))]
    rfl

/-- The search for a byte that is not zero finds one when there is one. -/
@[simp]
theorem run_anyNonzero (count : Nat) (memory : Memory) :
    (anyNonzero address count : Program ε Bool).run memory =
      (.ok (decide (memory.load address count ≠ List.replicate count 0)), memory) := by
  induction count generalizing address with
  | zero => rfl
  | succ count ih =>
    rw [anyNonzero, run]
    by_cases zero : memory address = 0
    · have first : memory.load address 1 = [0] := by rw [Memory.load, Memory.load, zero]
      rw [if_pos first, ih]
      simp [Memory.load, List.replicate_succ, zero]
    · have first : memory.load address 1 ≠ [0] := by simp [Memory.load, zero]
      rw [if_neg first]
      simp [Memory.load, List.replicate_succ, zero]

/-! ## What a call returns

A call without interference returns a value when its loads find what its checks require. The
equations below take such a call apart from the front.
-/

def Returns (program : Program ε α) (memory : Memory) (value : α) : Prop :=
  (program.run memory).1 = .ok value

section Returns

variable {memory : Memory} {value : β}

theorem returns_done (result : β) :
    (done result : Program ε β).Returns memory value ↔ result = value := by
  rw [Returns, run_done]
  exact Except.ok.injEq .. |>.to_iff

theorem returns_fail (error : ε) : ¬ (fail error : Program ε β).Returns memory value :=
  nofun

theorem returns_bind {program : Program ε α} {next : α → Program ε β} {first : α}
    (ran : program.run memory = (.ok first, memory)) :
    (program >>= next).Returns memory value ↔ (next first).Returns memory value := by
  rw [Returns, run_bind_ok _ _ _ _ _ ran, Returns]

theorem returns_ensure (condition : Prop) [Decidable condition] (error : ε)
    (next : Unit → Program ε β) :
    (ensure condition error >>= next).Returns memory value ↔
      condition ∧ (next ()).Returns memory value := by
  by_cases holds : condition
  · rw [returns_bind (run_ensure_pos _ _ _ holds)]
    exact ⟨fun rest => ⟨holds, rest⟩, fun both => both.2⟩
  · rw [ensure, if_neg holds, fail_bind]
    exact ⟨fun never => absurd never (returns_fail error), fun both => absurd both.1 holds⟩

/-- A computation without accesses succeeds in a call that returns. -/
theorem returns_ofExcept (computed : Except ε α) (next : α → Program ε β) :
    (ofExcept computed >>= next).Returns memory value ↔
      ∃ first, computed = .ok first ∧ (next first).Returns memory value := by
  cases computed with
  | ok result =>
    constructor
    · exact fun rest => ⟨result, rfl, rest⟩
    · intro found
      obtain ⟨first, same, rest⟩ := found
      cases same
      exact rest
  | error error =>
    constructor
    · exact fun never => absurd never (returns_fail error)
    · intro found
      obtain ⟨first, never, _⟩ := found
      exact nomatch never

/-- A value that is there is handed on in a call that returns. -/
theorem returns_orFail (found : Option α) (error : ε) (next : α → Program ε β) :
    (orFail found error >>= next).Returns memory value ↔
      ∃ first, found = some first ∧ (next first).Returns memory value := by
  cases found with
  | some result =>
    constructor
    · exact fun rest => ⟨result, rfl, rest⟩
    · intro found
      obtain ⟨first, same, rest⟩ := found
      cases same
      exact rest
  | none =>
    constructor
    · exact fun never => absurd never (returns_fail error)
    · intro found
      obtain ⟨first, never, _⟩ := found
      exact nomatch never

variable (address : Nat)

theorem returns_atomicLoad (next : Nat → Program ε β) :
    (atomicLoad address >>= next).Returns memory value ↔
      (next (memory.word address)).Returns memory value :=
  returns_bind (run_atomicLoad address memory)

theorem returns_loadBytes (count : Nat) (next : List UInt8 → Program ε β) :
    (loadBytes address count >>= next).Returns memory value ↔
      (next (memory.load address count)).Returns memory value :=
  returns_bind (run_loadBytes address count memory)

theorem returns_anyNonzero (count : Nat) (next : Bool → Program ε β) :
    (anyNonzero address count >>= next).Returns memory value ↔
      (next (decide (memory.load address count ≠ List.replicate count 0))).Returns memory value :=
  returns_bind (run_anyNonzero address count memory)

end Returns

def access : Program ε α → Memory → Program ε α × Memory
  | done value, memory => (done value, memory)
  | fail error, memory => (fail error, memory)
  | load address count next, memory => (next (memory.load address count), memory)
  | store address bytes next, memory => (next, memory.store address bytes)
  | exchange address expected replacement next, memory =>
      let found := memory.load address expected.length
      if found = expected then (next found, memory.store address replacement)
      else (next found, memory)

end Program

/-- One endpoint: the call it is performing and the calls it has completed. -/
structure Endpoint (ρ ε α : Type) where
  active : Option (ρ × Program ε α)
  log : List (ρ × Except ε α)

namespace Endpoint

variable {ρ ε α : Type}

def idle : Endpoint ρ ε α := { active := none, log := [] }

/-- Records what is left of a call; a call without accesses left is complete. -/
def settle (log : List (ρ × Except ε α)) (request : ρ) : Program ε α → Endpoint ρ ε α
  | .done value => { active := none, log := log ++ [(request, .ok value)] }
  | .fail error => { active := none, log := log ++ [(request, .error error)] }
  | rest => { active := some (request, rest), log }

/-- Performs one access of the call in progress, or of a new call when there is none. -/
def advance (call : ρ → Program ε α) (request : ρ) (endpoint : Endpoint ρ ε α)
    (memory : Memory) : Endpoint ρ ε α × Memory :=
  let current := endpoint.active.getD (request, call request)
  let next := current.2.access memory
  (settle endpoint.log current.1 next.1, next.2)

end Endpoint

/-- Which endpoint performs its next access, with the request it starts if it is idle. -/
inductive Turn (ρ σ : Type) where
  | left (request : ρ)
  | right (request : σ)

structure System (ρ σ ε α β : Type) where
  memory : Memory
  left : Endpoint ρ ε α
  right : Endpoint σ ε β

namespace System

variable {ρ σ ε α β : Type}

/-- One access by the endpoint whose turn it is. -/
def step (leftCall : ρ → Program ε α) (rightCall : σ → Program ε β)
    (system : System ρ σ ε α β) : Turn ρ σ → System ρ σ ε α β
  | .left request =>
      let next := system.left.advance leftCall request system.memory
      { system with left := next.1, memory := next.2 }
  | .right request =>
      let next := system.right.advance rightCall request system.memory
      { system with right := next.1, memory := next.2 }

def run (leftCall : ρ → Program ε α) (rightCall : σ → Program ε β)
    (system : System ρ σ ε α β) (schedule : List (Turn ρ σ)) : System ρ σ ε α β :=
  schedule.foldl (step leftCall rightCall) system

end System
end LatentDeck
