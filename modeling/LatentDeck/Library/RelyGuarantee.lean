import LatentDeck.Library.Program

/-!
# Rely–guarantee reasoning for two endpoints

A `Contract` says what one endpoint may assume of the other and owes it in return, over memory
paired with auxiliary state of the proofs. The rules of `Triple` follow the program's constructors,
and its assertions survive whatever the other endpoint does. Two endpoints with compatible contracts
keep their invariant and their logs correct in every interleaving of their accesses
(`System.run_sound`), and one call alone meets the same triple (`Triple.run`).
-/

namespace LatentDeck

structure World (H : Type) where
  memory : Memory
  history : H

structure Contract (H : Type) where
  invariant : World H → Prop
  rely : World H → World H → Prop
  guarantee : World H → World H → Prop
  pending : World H → Prop
  rely_refl : ∀ world, rely world world
  rely_trans : ∀ first second third, rely first second → rely second third → rely first third

variable {H ε α β ρ σ : Type}

namespace Contract

/-- An assertion holds here and whatever the other endpoint does. -/
def Throughout (contract : Contract H) (assertion : World H → Prop) (world : World H) : Prop :=
  ∀ next, contract.invariant next → contract.rely world next → assertion next

/-- An assertion that the other endpoint cannot falsify. -/
def Stable (contract : Contract H) (assertion : World H → Prop) : Prop :=
  ∀ world next, contract.invariant next → contract.rely world next →
    assertion world → assertion next

/-- The effect of storing a block under some choice of auxiliary state. -/
def Commits (contract : Contract H) (world : World H) (address : Nat) (bytes : List UInt8)
    (after : World H → Prop) : Prop :=
  ∃ history,
    let next : World H := { memory := world.memory.store address bytes, history }
    contract.invariant next ∧ contract.guarantee world next ∧ after next

/-- A program run from a world, access by access, meets its obligations and its result. -/
def Secure (contract : Contract H) (result : Except ε α → World H → Prop) :
    Program ε α → World H → Prop
  | .done value => contract.Throughout (result (.ok value))
  | .fail error => contract.Throughout (result (.error error))
  | .load address count next => contract.Throughout fun world =>
      contract.pending world ∧
        contract.Secure result (next (world.memory.load address count)) world
  | .store address bytes next => contract.Throughout fun world =>
      contract.pending world ∧
        contract.Commits world address bytes (contract.Secure result next)
  | .exchange address expected replacement next => contract.Throughout fun world =>
      let found := world.memory.load address expected.length
      contract.pending world ∧
        if found = expected then
          contract.Commits world address replacement (contract.Secure result (next found))
        else contract.Secure result (next found) world

variable (contract : Contract H)

theorem throughout_later (assertion : World H → Prop)
    (world later : World H) (moved : contract.rely world later)
    (holds : contract.Throughout assertion world) : contract.Throughout assertion later := by
  intro next invariant rely
  exact holds next invariant (contract.rely_trans _ _ _ moved rely)

theorem secure_later (result : Except ε α → World H → Prop)
    (program : Program ε α) (world later : World H) (moved : contract.rely world later)
    (secure : contract.Secure result program world) : contract.Secure result program later := by
  cases program <;> exact contract.throughout_later _ world later moved secure

theorem secure_throughout (result : Except ε α → World H → Prop)
    (program : Program ε α) (world : World H)
    (secure : contract.Throughout (contract.Secure result program) world) :
    contract.Secure result program world := by
  cases program <;>
  · intro next invariant rely
    exact secure next invariant rely next invariant (contract.rely_refl next)

/-- Composition of programs composes their obligations. -/
theorem secure_bind (middle : Except ε α → World H → Prop)
    (result : Except ε β → World H → Prop) (program : Program ε α) (next : α → Program ε β)
    (world : World H) (first : contract.Secure middle program world)
    (error : ∀ error world, middle (.error error) world → result (.error error) world)
    (rest : ∀ value world, middle (.ok value) world → contract.Secure result (next value) world) :
    contract.Secure result (program >>= next) world := by
  induction program generalizing world with
  | done value =>
    apply contract.secure_throughout
    intro later invariant rely
    exact rest value later (first later invariant rely)
  | fail failure =>
    intro later invariant rely
    exact error failure later (first later invariant rely)
  | load address count body ih =>
    intro later invariant rely
    obtain ⟨pending, secure⟩ := first later invariant rely
    exact ⟨pending, ih _ later secure⟩
  | store address bytes body ih =>
    intro later invariant rely
    obtain ⟨pending, history, kept, guarantee, secure⟩ := first later invariant rely
    exact ⟨pending, history, kept, guarantee, ih _ secure⟩
  | exchange address expected replacement body ih =>
    intro later invariant rely
    obtain ⟨pending, secure⟩ := first later invariant rely
    refine ⟨pending, ?_⟩
    split
    · rename_i found
      rw [if_pos found] at secure
      obtain ⟨history, kept, guarantee, secure⟩ := secure
      exact ⟨history, kept, guarantee, ih _ _ secure⟩
    · rename_i found
      rw [if_neg found] at secure
      exact ih _ later secure

/-- A weaker result is met whenever a stronger one is. -/
theorem secure_weaken (strong weak : Except ε α → World H → Prop)
    (program : Program ε α) (world : World H) (secure : contract.Secure strong program world)
    (after : ∀ value world, strong value world → weak value world) :
    contract.Secure weak program world := by
  induction program generalizing world with
  | done value => exact fun next invariant rely => after _ _ (secure next invariant rely)
  | fail error => exact fun next invariant rely => after _ _ (secure next invariant rely)
  | load address count body ih =>
    intro next invariant rely
    obtain ⟨pending, rest⟩ := secure next invariant rely
    exact ⟨pending, ih _ next rest⟩
  | store address bytes body ih =>
    intro next invariant rely
    obtain ⟨pending, history, kept, guarantee, rest⟩ := secure next invariant rely
    exact ⟨pending, history, kept, guarantee, ih _ rest⟩
  | exchange address expected replacement body ih =>
    intro next invariant rely
    obtain ⟨pending, rest⟩ := secure next invariant rely
    refine ⟨pending, ?_⟩
    split
    · rename_i found
      rw [if_pos found] at rest
      obtain ⟨history, kept, guarantee, rest⟩ := rest
      exact ⟨history, kept, guarantee, ih _ _ rest⟩
    · rename_i found
      rw [if_neg found] at rest
      exact ih _ next rest

/-- A call run alone keeps the invariant and meets its result. -/
theorem secure_run (result : Except ε α → World H → Prop)
    (program : Program ε α) (world : World H) (kept : contract.invariant world)
    (secure : contract.Secure result program world) :
    ∃ history, contract.invariant { memory := (program.run world.memory).2, history } ∧
      result (program.run world.memory).1
        { memory := (program.run world.memory).2, history } := by
  induction program generalizing world with
  | done value => exact ⟨world.history, kept, secure world kept (contract.rely_refl world)⟩
  | fail error => exact ⟨world.history, kept, secure world kept (contract.rely_refl world)⟩
  | load address count body ih =>
    obtain ⟨-, rest⟩ := secure world kept (contract.rely_refl world)
    exact ih _ world kept rest
  | store address bytes body ih =>
    obtain ⟨-, history, kept, -, rest⟩ := secure world kept (contract.rely_refl world)
    exact ih _ kept rest
  | exchange address expected replacement body ih =>
    obtain ⟨-, rest⟩ := secure world kept (contract.rely_refl world)
    simp only [Program.run]
    split
    · rename_i found
      rw [if_pos found] at rest
      obtain ⟨history, kept, -, rest⟩ := rest
      exact ih _ _ kept rest
    · rename_i found
      rw [if_neg found] at rest
      exact ih _ world kept rest

end Contract

/-- The result of a call that returns or fails with what is said of each. -/
def outcome (after : α → World H → Prop) (failed : ε → World H → Prop) :
    Except ε α → World H → Prop
  | .ok value => after value
  | .error error => failed error

/-- From every world of an assertion a program returns or fails with what is said of each. -/
def Triple (contract : Contract H) (assertion : World H → Prop) (program : Program ε α)
    (after : α → World H → Prop) (failed : ε → World H → Prop) : Prop :=
  ∀ world, assertion world → contract.Secure (outcome after failed) program world

namespace Triple

variable {contract : Contract H} {assertion : World H → Prop}
variable {after : α → World H → Prop} {failed : ε → World H → Prop}

theorem done (value : α) (stable : contract.Stable assertion)
    (met : ∀ world, contract.invariant world → assertion world → after value world) :
    Triple contract assertion (.done value : Program ε α) after failed := by
  intro world holds next invariant rely
  exact met next invariant (stable world next invariant rely holds)

theorem fail (error : ε) (stable : contract.Stable assertion)
    (met : ∀ world, contract.invariant world → assertion world → failed error world) :
    Triple contract assertion (.fail error : Program ε α) after failed := by
  intro world holds next invariant rely
  exact met next invariant (stable world next invariant rely holds)

variable {program : Program ε α}

theorem weaken {stronger : World H → Prop} {weaker : α → World H → Prop}
    (triple : Triple contract assertion program after failed)
    (before : ∀ world, stronger world → assertion world)
    (result : ∀ value world, after value world → weaker value world) :
    Triple contract stronger program weaker failed := by
  intro world holds
  apply contract.secure_weaken (outcome after failed) _ _ _ (triple world (before world holds))
  intro value next met
  cases value with
  | ok value => exact result value next met
  | error error => exact met

theorem known {fact : Prop} (triple : fact → Triple contract assertion program after failed) :
    Triple contract (fun world => fact ∧ assertion world) program after failed :=
  fun world holds => triple holds.1 world holds.2

theorem at_invariant (stable : contract.Stable assertion)
    (triple : ∀ world, contract.invariant world → assertion world →
      contract.Secure (outcome after failed) program world) :
    Triple contract assertion program after failed := by
  intro world holds
  apply contract.secure_throughout
  intro next invariant rely
  exact triple next invariant (stable world next invariant rely holds)

theorem bind {middle : α → World H → Prop} {result : β → World H → Prop} {next : α → Program ε β}
    (first : Triple contract assertion program middle failed)
    (rest : ∀ value, Triple contract (middle value) (next value) result failed) :
    Triple contract assertion (program >>= next) result failed := by
  intro world holds
  apply contract.secure_bind (outcome middle failed) _ _ _ _ (first world holds)
  · exact fun _ _ met => met
  · exact fun value next met => rest value next met

theorem via (middle : α → World H → Prop) {result : β → World H → Prop} {next : α → Program ε β}
    (first : Triple contract assertion program middle failed)
    (rest : ∀ value, Triple contract (middle value) (next value) result failed) :
    Triple contract assertion (program >>= next) result failed :=
  Triple.bind first rest

theorem check (condition : Prop) [Decidable condition] (error : ε)
    (stable : contract.Stable assertion)
    (refused : ¬ condition → ∀ world, contract.invariant world → assertion world →
      failed error world) :
    Triple contract assertion (Program.ensure condition error)
      (fun _ world => condition ∧ assertion world) failed := by
  rw [Program.ensure]
  split
  · rename_i holds
    exact Triple.done () stable fun _ _ met => ⟨holds, met⟩
  · rename_i absent
    exact Triple.fail error stable (refused absent)

theorem ensure (condition : Prop) [Decidable condition] (error : ε) {next : Unit → Program ε α}
    (stable : contract.Stable assertion)
    (refused : ¬ condition → ∀ world, contract.invariant world → assertion world →
      failed error world) (rest : condition → Triple contract assertion (next ()) after failed) :
    Triple contract assertion (Program.ensure condition error >>= next) after failed := by
  rw [Program.ensure]
  split
  · rename_i holds
    exact rest holds
  · rename_i absent
    exact Triple.fail error stable (refused absent)

theorem orFail (value : Option β) (error : ε) {next : β → Program ε α}
    (stable : contract.Stable assertion)
    (refused : value = none → ∀ world, contract.invariant world → assertion world →
      failed error world)
    (rest : ∀ found, value = some found → Triple contract assertion (next found) after failed) :
    Triple contract assertion (Program.orFail value error >>= next) after failed := by
  cases value with
  | none => exact Triple.fail error stable (refused rfl)
  | some found => exact rest found rfl

variable (address : Nat)

/-- An atomic load observes the word of one world. -/
theorem atomicLoad {known : Nat → World H → Prop} (stable : contract.Stable assertion)
    (stableKnown : ∀ value, contract.Stable (known value))
    (pending : ∀ world, assertion world → contract.pending world)
    (observed : ∀ world, contract.invariant world → assertion world →
      known (world.memory.word address) world) :
    Triple contract assertion (Program.atomicLoad address) known failed := by
  intro world holds next invariant rely
  have here := stable world next invariant rely holds
  refine ⟨pending next here, ?_⟩
  have returned : Triple contract (known (next.memory.word address))
      (.done (next.memory.word address) : Program ε Nat) known failed :=
    Triple.done _ (stableKnown _) fun _ _ met => met
  exact returned next (observed next invariant here)

variable {middle : World H → Prop}

theorem store (bytes : List UInt8) (next : Program ε α) (stable : contract.Stable assertion)
    (pending : ∀ world, assertion world → contract.pending world)
    (commits : ∀ world, contract.invariant world → assertion world →
      contract.Commits world address bytes middle)
    (rest : Triple contract middle next after failed) :
    Triple contract assertion (.store address bytes next) after failed := by
  intro world holds later invariant rely
  have here := stable world later invariant rely holds
  obtain ⟨history, kept, guarantee, reached⟩ := commits later invariant here
  exact ⟨pending later here, history, kept, guarantee, rest _ reached⟩

theorem atomicStore (value : Nat) (stable : contract.Stable assertion)
    (stableMiddle : contract.Stable middle)
    (pending : ∀ world, assertion world → contract.pending world)
    (commits : ∀ world, contract.invariant world → assertion world →
      contract.Commits world address (LittleEndian.leBytes 8 value) middle) :
    Triple contract assertion (Program.atomicStore address value) (fun _ => middle) failed :=
  Triple.store address _ _ stable pending commits
    (Triple.done () stableMiddle fun _ _ met => met)

/-- Plain loads return the block when the other endpoint cannot change it. -/
theorem loadBytes (count : Nat) (block : List UInt8) (stable : contract.Stable assertion)
    (pending : ∀ world, assertion world → contract.pending world)
    (fixed : ∀ world, contract.invariant world → assertion world →
      world.memory.load address count = block) :
    Triple contract assertion (Program.loadBytes address count)
      (fun bytes world => bytes = block ∧ assertion world) failed := by
  induction count generalizing address block with
  | zero =>
    apply Triple.done _ stable
    intro world invariant holds
    exact ⟨fixed world invariant holds, holds⟩
  | succ count ih =>
    intro world holds next invariant rely
    have here := stable world next invariant rely holds
    refine ⟨pending next here, ?_⟩
    have whole := fixed next invariant here
    have rest := ih (address + 1) (next.memory.load (address + 1) count) ?_
    · refine Triple.bind rest (fun bytes => ?_) next here
      intro later ⟨same, holds⟩
      have exact : next.memory.load address 1 ++ bytes = block := by
        rw [same, ← whole]
        rfl
      have returned : Triple contract assertion
          (.done (next.memory.load address 1 ++ bytes) : Program ε (List UInt8))
          (fun bytes world => bytes = block ∧ assertion world) failed :=
        Triple.done _ stable fun _ _ met => ⟨exact, met⟩
      exact returned later holds
    · intro later invariantLater holdsLater
      have wholeLater := fixed later invariantLater holdsLater
      rw [← whole, Memory.load, Memory.load] at wholeLater
      exact (List.cons.inj wholeLater).2

/-- Loads until a nonzero byte decide whether the block is zero. -/
theorem anyNonzero (count : Nat) (stable : contract.Stable assertion)
    (pending : ∀ world, assertion world → contract.pending world)
    (zero : ∀ world, contract.invariant world → assertion world →
      world.memory.load address count = List.replicate count 0) :
    Triple contract assertion (Program.anyNonzero address count)
      (fun found world => found = false ∧ assertion world) failed := by
  induction count generalizing address with
  | zero => exact Triple.done _ stable fun _ _ met => ⟨rfl, met⟩
  | succ count ih =>
    intro world holds next invariant rely
    have here := stable world next invariant rely holds
    have whole := zero next invariant here
    rw [Memory.load, List.replicate_succ] at whole
    refine ⟨pending next here, ?_⟩
    have first : next.memory.load address 1 = [0] := by
      rw [Memory.load, Memory.load, (List.cons.inj whole).1]
    simp only [first, ↓reduceIte]
    apply ih (address + 1) _ next here
    intro later invariantLater holdsLater
    have wholeLater := zero later invariantLater holdsLater
    rw [Memory.load, List.replicate_succ] at wholeLater
    exact (List.cons.inj wholeLater).2

theorem allOf (checks : List (Program ε Bool)) (stable : contract.Stable assertion)
    (hold : ∀ check ∈ checks, Triple contract assertion check
      (fun found world => found = true ∧ assertion world) failed) :
    Triple contract assertion (Program.allOf checks)
      (fun found world => found = true ∧ assertion world) failed := by
  induction checks with
  | nil => exact Triple.done _ stable fun _ _ met => ⟨rfl, met⟩
  | cons check checks ih =>
    refine Triple.bind (hold check (List.mem_cons_self ..)) fun found => ?_
    intro world ⟨holds, met⟩
    rw [holds, if_pos rfl]
    exact ih (fun other member => hold other (List.mem_cons_of_mem _ member)) world met

/-- A block that only this endpoint stores into: any store inside it keeps the assertion. -/
structure Owned (contract : Contract H) (assertion : World H → Prop) (base size : Nat) :
    Prop where
  fixed : ∀ world next, contract.rely world next →
    next.memory.load base size = world.memory.load base size
  commits : ∀ world address bytes, contract.invariant world → assertion world →
    base ≤ address → address + bytes.length ≤ base + size →
      contract.Commits world address bytes assertion

variable {base size : Nat}

section

variable (owned : Owned contract assertion base size)

include owned

theorem Owned.stable (stable : contract.Stable assertion) (block : List UInt8) :
    contract.Stable fun world => assertion world ∧ world.memory.load base size = block := by
  intro world next invariant rely ⟨holds, content⟩
  exact ⟨stable world next invariant rely holds, (owned.fixed world next rely).trans content⟩

/-- A store inside an owned block replaces the middle of its content. -/
theorem Owned.replaces
    (front middle back bytes : List UInt8) (width : bytes.length = middle.length) (world : World H)
    (invariant : contract.invariant world) (holds : assertion world)
    (content : world.memory.load base size = front ++ (middle ++ back)) :
    contract.Commits world (base + front.length) bytes fun next =>
      assertion next ∧ next.memory.load base size = front ++ (bytes ++ back) := by
  have total : size = front.length + (middle.length + back.length) := by
    have lengths := congrArg List.length content
    simpa only [Memory.load_length, List.length_append] using lengths
  obtain ⟨history, kept, guarantee, reached⟩ :=
    owned.commits world (base + front.length) bytes invariant holds (by omega) (by omega)
  refine ⟨history, kept, guarantee, reached, ?_⟩
  exact Memory.load_store_middle world.memory base size front middle back bytes content width

/-- An atomic store replaces a word of an owned block. -/
theorem atomicStore_owned {address : Nat} (stable : contract.Stable assertion)
    (pending : ∀ world, assertion world → contract.pending world) (front middle back : List UInt8)
    (value : Nat) (position : address = base + front.length) (width : middle.length = 8) :
    Triple contract
      (fun world => assertion world ∧
        world.memory.load base size = front ++ (middle ++ back))
      (Program.atomicStore address value)
      (fun _ world => assertion world ∧
        world.memory.load base size = (front ++ LittleEndian.leBytes 8 value) ++ back)
      failed := by
  subst position
  refine Triple.atomicStore _ _ (owned.stable stable _) (owned.stable stable _)
    (fun world holds => pending world holds.1) ?_
  intro world invariant ⟨holds, content⟩
  rw [List.append_assoc]
  exact owned.replaces front middle back _ (by rw [LittleEndian.leBytes_length, width])
    world invariant holds content

/-- Plain stores replace the middle of an owned block. -/
theorem storeBytes_owned (stable : contract.Stable assertion)
    (pending : ∀ world, assertion world → contract.pending world)
    (front middle back bytes : List UInt8) (position : address = base + front.length)
    (width : bytes.length = middle.length) :
    Triple contract
      (fun world => assertion world ∧
        world.memory.load base size = front ++ (middle ++ back))
      (Program.storeBytes address bytes)
      (fun _ world => assertion world ∧
        world.memory.load base size = (front ++ bytes) ++ back)
      failed := by
  induction bytes generalizing front middle address with
  | nil =>
    have none := List.eq_nil_of_length_eq_zero width.symm
    subst none
    rw [List.append_nil]
    exact Triple.done _ (owned.stable stable _) fun _ _ met => met
  | cons byte bytes ih =>
    cases middle with
    | nil => simp at width
    | cons old middle =>
      rw [List.length_cons, List.length_cons, Nat.add_right_cancel_iff] at width
      have rest := ih (address + 1) (front ++ [byte]) middle
        (by rw [position, List.length_append, List.length_singleton]; omega) width
      simp only [List.append_assoc, List.cons_append, List.nil_append] at rest ⊢
      refine Triple.store _ _ _ (owned.stable stable _)
        (fun world holds => pending world holds.1) ?_ rest
      intro world invariant ⟨holds, content⟩
      rw [position]
      exact owned.replaces front [old] (middle ++ back) [byte] rfl world invariant holds content

end

theorem skip_owned (front gap back : List UInt8) (rest : Triple contract
      (fun world => assertion world ∧ world.memory.load base size = (front ++ gap) ++ back)
      program after failed) :
    Triple contract
      (fun world => assertion world ∧ world.memory.load base size = front ++ (gap ++ back))
      program after failed := by
  rwa [List.append_assoc] at rest

theorem run (triple : Triple contract assertion program after failed) (world : World H)
    (kept : contract.invariant world) (holds : assertion world) (result : Except ε α)
    (memory : Memory) (ran : program.run world.memory = (result, memory)) :
    ∃ history, contract.invariant { memory, history } ∧
      outcome after failed result { memory, history } := by
  have secure := contract.secure_run _ program world kept (triple world holds)
  rwa [ran] at secure

end Triple

/-- One endpoint's part in a system: what its log says, and calls that keep it true. -/
structure Role (H ρ ε α : Type) where
  /-- The obligations of the endpoint's calls, without what holds inside one of them. -/
  contract : Contract H
  logged : List (ρ × Except ε α) → World H → Prop
  call : ρ → Program ε α
  logged_stable : ∀ log, contract.Stable (logged log)
  secure : ∀ log request, Triple { contract with pending := logged log } (logged log)
    (call request) (fun value => logged (log ++ [(request, .ok value)]))
    (fun error => logged (log ++ [(request, .error error)]))

namespace Role

variable (role : Role H ρ ε α)

/-- The contract of the calls an endpoint makes after its completed ones. -/
def during (log : List (ρ × Except ε α)) : Contract H :=
  { role.contract with pending := role.logged log }

/-- What the rest of a call must still achieve. -/
def completes (log : List (ρ × Except ε α)) (request : ρ) : Except ε α → World H → Prop :=
  fun result => role.logged (log ++ [(request, result)])

/-- An endpoint whose log is correct and whose call in progress will keep it so. -/
structure Sound (endpoint : Endpoint ρ ε α) (world : World H) : Prop where
  logged : role.logged endpoint.log world
  active : ∀ request program, endpoint.active = some (request, program) →
    (role.during endpoint.log).Secure (role.completes endpoint.log request) program world

/-- Two roles that agree on the invariant and keep within what the other relies on. -/
structure Compatible {ρ σ α β : Type} (left : Role H ρ ε α) (right : Role H σ ε β) : Prop where
  invariant : ∀ world, left.contract.invariant world ↔ right.contract.invariant world
  left_right : ∀ world next, left.contract.invariant world → left.contract.invariant next →
    left.contract.guarantee world next → right.contract.rely world next
  right_left : ∀ world next, right.contract.invariant world → right.contract.invariant next →
    right.contract.guarantee world next → left.contract.rely world next

theorem sound_later (endpoint : Endpoint ρ ε α) (world next : World H)
    (invariant : role.contract.invariant next) (rely : role.contract.rely world next)
    (sound : role.Sound endpoint world) : role.Sound endpoint next where
  logged := role.logged_stable _ world next invariant rely sound.logged
  active := fun request program found =>
    (role.during endpoint.log).secure_later _ _ world next rely (sound.active request program found)

theorem settle_sound (log : List (ρ × Except ε α)) (request : ρ) (program : Program ε α)
    (world : World H) (invariant : role.contract.invariant world)
    (secure : (role.during log).Secure (role.completes log request) program world) :
    role.Sound (Endpoint.settle log request program) world := by
  have here := fun assertion (throughout : (role.during log).Throughout assertion world) =>
    throughout world invariant (role.contract.rely_refl world)
  cases program with
  | done value => exact ⟨here _ secure, by simp [Endpoint.settle]⟩
  | fail error => exact ⟨here _ secure, by simp [Endpoint.settle]⟩
  | load address count next =>
    refine ⟨(here _ secure).1, ?_⟩
    rintro request program found
    cases found
    exact secure
  | store address bytes next =>
    refine ⟨(here _ secure).1, ?_⟩
    rintro request program found
    cases found
    exact secure
  | exchange address expected replacement next =>
    refine ⟨(here _ secure).1, ?_⟩
    rintro request program found
    cases found
    exact secure

/-- One access keeps the endpoint sound and is within its guarantee, or changes nothing. -/
theorem advance_sound (request : ρ) (endpoint : Endpoint ρ ε α) (world : World H)
    (invariant : role.contract.invariant world) (sound : role.Sound endpoint world) :
    ∃ history,
      let next := endpoint.advance role.call request world.memory
      let reached : World H := { memory := next.2, history }
      role.contract.invariant reached ∧ role.Sound next.1 reached ∧
        (reached = world ∨ role.contract.guarantee world reached) := by
  obtain ⟨request, program, current, secure⟩ : ∃ current program,
      endpoint.active.getD (request, role.call request) = (current, program) ∧
        (role.during endpoint.log).Secure (role.completes endpoint.log current) program world := by
    cases active : endpoint.active with
    | none =>
      refine ⟨request, role.call request, rfl, ?_⟩
      apply Contract.secure_weaken _ _ _ _ _ (role.secure endpoint.log request world sound.logged)
      intro value next met
      cases value <;> exact met
    | some found => exact ⟨found.1, found.2, rfl, sound.active _ _ active⟩
  have refl := role.contract.rely_refl world
  simp only [Endpoint.advance, current]
  cases program with
  | done value =>
    exact ⟨world.history, invariant, role.settle_sound _ _ _ world invariant secure, Or.inl rfl⟩
  | fail error =>
    exact ⟨world.history, invariant, role.settle_sound _ _ _ world invariant secure, Or.inl rfl⟩
  | load address count next =>
    obtain ⟨-, rest⟩ := secure world invariant refl
    exact ⟨world.history, invariant, role.settle_sound _ _ _ world invariant rest, Or.inl rfl⟩
  | store address bytes next =>
    obtain ⟨-, history, kept, guarantee, rest⟩ := secure world invariant refl
    exact ⟨history, kept, role.settle_sound _ _ _ _ kept rest, Or.inr guarantee⟩
  | exchange address expected replacement next =>
    obtain ⟨-, rest⟩ := secure world invariant refl
    simp only [Program.access]
    split
    · rename_i found
      rw [if_pos found] at rest
      obtain ⟨history, kept, guarantee, rest⟩ := rest
      exact ⟨history, kept, role.settle_sound _ _ _ _ kept rest, Or.inr guarantee⟩
    · rename_i found
      rw [if_neg found] at rest
      exact ⟨world.history, invariant, role.settle_sound _ _ _ world invariant rest, Or.inl rfl⟩

end Role

namespace System

variable {ρ σ ε α β : Type}

/-- A system whose memory satisfies the invariant and whose endpoints are sound. -/
def Sound (left : Role H ρ ε α) (right : Role H σ ε β) (system : System ρ σ ε α β) : Prop :=
  ∃ history,
    let world : World H := { memory := system.memory, history }
    left.contract.invariant world ∧ left.Sound system.left world ∧
      right.Sound system.right world

theorem step_sound (left : Role H ρ ε α) (right : Role H σ ε β) (compatible : left.Compatible right)
    (system : System ρ σ ε α β) (turn : Turn ρ σ) (sound : system.Sound left right) :
    (system.step left.call right.call turn).Sound left right := by
  obtain ⟨history, invariant, leftSound, rightSound⟩ := sound
  cases turn with
  | left request =>
    obtain ⟨after, kept, advanced, moved⟩ :=
      left.advance_sound request system.left _ invariant leftSound
    refine ⟨after, kept, advanced, ?_⟩
    obtain same | guarantee := moved
    · exact same ▸ rightSound
    · exact right.sound_later _ _ _ ((compatible.invariant _).mp kept)
        (compatible.left_right _ _ invariant kept guarantee) rightSound
  | right request =>
    have invariantRight := (compatible.invariant _).mp invariant
    obtain ⟨after, kept, advanced, moved⟩ :=
      right.advance_sound request system.right _ invariantRight rightSound
    refine ⟨after, (compatible.invariant _).mpr kept, ?_, advanced⟩
    obtain same | guarantee := moved
    · exact same ▸ leftSound
    · exact left.sound_later _ _ _ ((compatible.invariant _).mpr kept)
        (compatible.right_left _ _ invariantRight kept guarantee) leftSound

theorem run_sound (left : Role H ρ ε α) (right : Role H σ ε β) (compatible : left.Compatible right)
    (system : System ρ σ ε α β) (schedule : List (Turn ρ σ)) (sound : system.Sound left right) :
    (system.run left.call right.call schedule).Sound left right := by
  induction schedule generalizing system with
  | nil => exact sound
  | cons turn schedule ih =>
    exact ih _ (step_sound left right compatible system turn sound)

end System
end LatentDeck
