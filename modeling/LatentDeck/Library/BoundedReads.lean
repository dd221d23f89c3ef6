import LatentDeck.Library.Checked
import LatentDeck.Library.Tiling

/-!
# Reads inside a range

A device is read at positions, and what a read returns may depend on every read before it. Two
readers stay inside a range of a device: the loop that fills a buffer from a position, and the
limited reader, which hands out at most as many bytes as its limit, whatever is asked of it.
-/

namespace LatentDeck.BoundedReads

open Checked

variable {ε : Type}

structure Device (ε : Type) where
  State : Type
  readAt : State → Nat → Nat → Except ε (List UInt8) × State
  short : ∀ state position requested bytes,
    (readAt state position requested).1 = .ok bytes → bytes.length ≤ requested

/-- What a reader did: its result, the ranges it requested and the device after it. -/
structure Reading (device : Device ε) (α : Type) where
  result : α
  requests : List (Nat × Nat)
  state : device.State

def Inside (range request : Nat × Nat) : Prop :=
  range.1 ≤ request.1 ∧ request.1 + request.2 ≤ range.1 + range.2

instance (range request : Nat × Nat) : Decidable (Inside range request) :=
  inferInstanceAs (Decidable (_ ∧ _))

theorem inside_trans {outer range request : Nat × Nat} (middle : Inside outer range)
    (inner : Inside range request) : Inside outer request := by
  unfold Inside at *
  omega

/-- The loop that fills a buffer from a position. -/
def Device.readExactAt (device : Device ε) (atEnd overflow : ε) (remaining position : Nat)
    (state : device.State) : Reading device (Except ε (List UInt8)) :=
  if remaining = 0 then ⟨.ok [], [], state⟩
  else
    let answer := device.readAt state position remaining
    match answer.1 with
    | .error error => ⟨.error error, [(position, remaining)], answer.2⟩
    | .ok bytes =>
        if bytes.length = 0 then ⟨.error atEnd, [(position, remaining)], answer.2⟩
        else
          match checkedAdd position bytes.length with
          | none => ⟨.error overflow, [(position, remaining)], answer.2⟩
          | some position' =>
              let rest := device.readExactAt atEnd overflow (remaining - bytes.length) position'
                answer.2
              ⟨rest.result.map (bytes ++ ·), (position, remaining) :: rest.requests, rest.state⟩
  termination_by remaining
  decreasing_by exact Nat.sub_lt (Nat.pos_of_ne_zero ‹_›) (Nat.pos_of_ne_zero ‹_›)

variable (device : Device ε)

/-- Filling a buffer requests nothing outside its range. -/
theorem readExactAt_inside (atEnd overflow : ε) (remaining position : Nat) (state : device.State) :
    ∀ request ∈
      (device.readExactAt atEnd overflow remaining position state).requests,
        Inside (position, remaining) request := by
  have whole : Inside (position, remaining) (position, remaining) :=
    ⟨Nat.le_refl _, Nat.le_refl _⟩
  induction remaining, position, state using Device.readExactAt.induct device atEnd overflow with
  | case1 position state =>
    rw [Device.readExactAt, if_pos rfl]
    exact nofun
  | case2 remaining position state some answer error failed =>
    rw [Device.readExactAt, if_neg some]
    dsimp only
    rw [failed]
    exact List.forall_mem_singleton.mpr whole
  | case3 remaining position state some answer bytes read empty =>
    rw [Device.readExactAt, if_neg some]
    dsimp only
    rw [read]
    dsimp only
    rw [if_pos empty]
    exact List.forall_mem_singleton.mpr whole
  | case4 remaining position state some answer bytes read nonempty overflowed =>
    rw [Device.readExactAt, if_neg some]
    dsimp only
    rw [read]
    dsimp only
    rw [if_neg nonempty, overflowed]
    exact List.forall_mem_singleton.mpr whole
  | case5 remaining position state some answer bytes read nonempty next added ih =>
    have bound := device.short state position remaining bytes read
    obtain ⟨rfl, -⟩ := (checkedAdd_eq_some ..).mp added
    rw [Device.readExactAt, if_neg some]
    dsimp only
    rw [read]
    dsimp only
    rw [if_neg nonempty, added, List.forall_mem_cons]
    refine ⟨whole, fun request member => ?_⟩
    apply inside_trans _ (ih ⟨Nat.le_refl _, Nat.le_refl _⟩ request member)
    constructor
    · exact Nat.le_add_right _ _
    · dsimp only
      omega

/-- A reader at a position of a device with a number of bytes left. -/
structure Take where
  position : Nat
  limit : Nat

/-- The range that a limited reader has left. -/
def Take.range (take : Take) : Nat × Nat := (take.position, take.limit)

/-- One read of a limited reader into a buffer. -/
def Take.read (device : Device ε) (take : Take) (buffer : Nat) (state : device.State) :
    Reading device (Except ε (List UInt8) × Take) :=
  if take.limit = 0 then ⟨(.ok [], take), [], state⟩
  else
    let requested := min buffer take.limit
    let answer := device.readAt state take.position requested
    match answer.1 with
    | .error error => ⟨(.error error, take), [(take.position, requested)], answer.2⟩
    | .ok bytes =>
        ⟨(.ok bytes, ⟨take.position + bytes.length, take.limit - bytes.length⟩),
          [(take.position, requested)], answer.2⟩

/-- One read of a limited reader stays inside its range, and so does what is left. -/
theorem Take.read_inside (take : Take) (buffer : Nat) (state : device.State) :
    (∀ request ∈ (take.read device buffer state).requests, Inside take.range request) ∧
      Inside take.range (take.read device buffer state).result.2.range := by
  have whole : Inside take.range take.range := ⟨Nat.le_refl _, Nat.le_refl _⟩
  have requested : Inside take.range (take.position, min buffer take.limit) :=
    ⟨Nat.le_refl _, Nat.add_le_add_left (Nat.min_le_right _ _) _⟩
  unfold Take.read
  by_cases spent : take.limit = 0
  · rw [if_pos spent]
    exact ⟨nofun, whole⟩
  · rw [if_neg spent]
    dsimp only
    cases read : (device.readAt state take.position (min buffer take.limit)).1 with
    | error error => exact ⟨List.forall_mem_singleton.mpr requested, whole⟩
    | ok bytes =>
      have bound := device.short _ _ _ _ read
      refine ⟨List.forall_mem_singleton.mpr requested, ?_⟩
      constructor
      · exact Nat.le_add_right _ _
      · simp only [Take.range]
        omega

/-- The requests of a sequence of reads; a failed read does not end it. -/
def Take.requests (device : Device ε) : Take → List Nat → device.State → List (Nat × Nat)
  | _, [], _ => []
  | take, buffer :: buffers, state =>
      let reading := take.read device buffer state
      reading.requests ++ reading.result.2.requests device buffers reading.state

theorem Take.requests_inside (take : Take) (buffers : List Nat) (state : device.State) :
    ∀ request ∈ take.requests device buffers state, Inside take.range request := by
  induction buffers generalizing take state with
  | nil => exact nofun
  | cons buffer buffers ih =>
    obtain ⟨first, left⟩ := take.read_inside device buffer state
    rw [Take.requests, List.forall_mem_append]
    exact ⟨first, fun request member => inside_trans left (ih _ _ request member)⟩

end LatentDeck.BoundedReads
