import LatentDeck.Library.Fallible
import Mathlib.Logic.Function.Iterate

/-!
# Pools of independent workers

Each worker of a pool works through jobs of its own, one in a turn, and stops at its first error. A
schedule is the order in which workers take turns. Workers share nothing, so what a finished pool
holds does not depend on the schedule: it is what a loop over each worker's jobs returns.
-/

namespace LatentDeck.Pool

open Fallible

variable {α β ε : Type}

/-- A worker: the jobs it has not begun, and the results so far or the error that stopped it. -/
structure Worker (α β ε : Type) where
  pending : List α
  outcome : Except ε (List β)

def Worker.start (jobs : List α) : Worker α β ε := ⟨jobs, .ok []⟩

def Worker.turn (work : α → Except ε β) (worker : Worker α β ε) : Worker α β ε :=
  match worker.outcome, worker.pending with
  | .ok results, job :: jobs =>
    match work job with
    | .ok result => ⟨jobs, .ok (results ++ [result])⟩
    | .error error => ⟨[], .error error⟩
  | .ok results, [] => ⟨[], .ok results⟩
  | .error error, _ => ⟨[], .error error⟩

def Worker.Finished (worker : Worker α β ε) : Prop := worker.pending = []

instance (worker : Worker α β ε) : Decidable worker.Finished :=
  decidable_of_iff (worker.pending.isEmpty = true) List.isEmpty_iff

def run (work : α → Except ε β) (schedule : List Nat) (pool : List (Worker α β ε)) :
    List (Worker α β ε) :=
  schedule.foldl (fun pool index => pool.modify index (Worker.turn work)) pool

/-- What a worker is going to hold: its results so far and those of the jobs left. -/
def Worker.result (work : α → Except ε β) (worker : Worker α β ε) : Except ε (List β) := do
  let results ← worker.outcome
  let rest ← worker.pending.mapM work
  return results ++ rest

variable (work : α → Except ε β)

theorem result_start (jobs : List α) :
    (Worker.start jobs : Worker α β ε).result work = jobs.mapM work := by
  show (jobs.mapM work >>= fun rest => .ok ([] ++ rest)) = jobs.mapM work
  cases jobs.mapM work with
  | error error => rfl
  | ok results => rfl

theorem result_finished {worker : Worker α β ε}
    (finished : worker.Finished) : worker.result work = worker.outcome := by
  unfold Worker.result
  rw [finished]
  cases worker.outcome with
  | error error => rfl
  | ok results => exact congrArg Except.ok (List.append_nil results)

/-- A turn does not change what a worker is going to hold. -/
theorem result_turn (worker : Worker α β ε) :
    (worker.turn work).result work = worker.result work := by
  obtain ⟨pending, outcome⟩ := worker
  cases outcome with
  | error error => rfl
  | ok results =>
    cases pending with
    | nil => rfl
    | cons job jobs =>
      unfold Worker.turn Worker.result
      dsimp only
      rw [List.mapM_cons]
      cases work job with
      | error error => rfl
      | ok result =>
        show (jobs.mapM work >>= fun rest => .ok (results ++ [result] ++ rest)) =
          ((jobs.mapM work >>= fun rest => .ok (result :: rest)) >>= fun rest =>
            .ok (results ++ rest))
        cases jobs.mapM work with
        | error error => rfl
        | ok rest => exact congrArg Except.ok (List.append_assoc results [result] rest)

theorem map_modify_eq {σ τ : Type} {change : σ → σ} {value : σ → τ}
    (unseen : ∀ state, value (change state) = value state) (states : List σ) (index : Nat) :
    (states.modify index change).map value = states.map value := by
  induction states generalizing index with
  | nil => cases index <;> rfl
  | cons state states ih =>
    cases index with
    | zero => exact congrArg (· :: states.map value) (unseen state)
    | succ index => exact congrArg (value state :: ·) (ih index)

theorem result_run (schedule : List Nat) (pool : List (Worker α β ε)) :
    (run work schedule pool).map (Worker.result work) = pool.map (Worker.result work) := by
  induction schedule generalizing pool with
  | nil => rfl
  | cons index schedule ih =>
    rw [run, List.foldl_cons]
    exact (ih _).trans (map_modify_eq (result_turn work) pool index)

theorem outcome_run (schedule : List Nat) (buckets : List (List α))
    (finished : ∀ worker ∈ run work schedule (buckets.map Worker.start), worker.Finished) :
    (run work schedule (buckets.map Worker.start)).map Worker.outcome =
      buckets.map (·.mapM work) := by
  have held : (run work schedule (buckets.map Worker.start)).map Worker.outcome =
      (run work schedule (buckets.map Worker.start)).map (Worker.result work) :=
    List.map_congr_left fun worker member => (result_finished work (finished worker member)).symm
  rw [held, result_run, List.map_map]
  exact List.map_congr_left fun jobs _ => result_start work jobs

/-- A worker of a pool has taken the turns its schedule names it for. -/
theorem run_getElem (schedule : List Nat) (pool : List (Worker α β ε)) (index : Nat) :
    (run work schedule pool)[index]? =
      pool[index]?.map (Worker.turn work)^[schedule.count index] := by
  induction schedule generalizing pool with
  | nil => exact (Option.map_id' ..).symm
  | cons first schedule ih =>
    rw [run, List.foldl_cons]
    refine (ih _).trans ?_
    rw [List.getElem?_modify, List.count_cons]
    cases pool[index]? with
    | none => rfl
    | some worker =>
      by_cases same : first = index
      · rw [if_pos (beq_iff_eq.mpr same), Option.map_some, Function.iterate_succ_apply]
        show Option.map _ (some (if first = index then worker.turn work else worker)) = _
        rw [if_pos same]
        rfl
      · rw [if_neg fun equal => same (beq_iff_eq.mp equal), Option.map_some]
        show Option.map _ (some (if first = index then worker.turn work else worker)) = _
        rw [if_neg same]
        rfl

theorem pending_turn (worker : Worker α β ε) :
    (worker.turn work).pending.length ≤ worker.pending.length - 1 := by
  obtain ⟨pending, outcome⟩ := worker
  cases outcome with
  | error error => exact Nat.zero_le _
  | ok results =>
    cases pending with
    | nil => exact Nat.le_refl _
    | cons job jobs =>
      unfold Worker.turn
      dsimp only
      cases work job with
      | error error => exact Nat.zero_le _
      | ok result => exact Nat.le_refl _

theorem pending_turns (turns : Nat) (worker : Worker α β ε) :
    ((Worker.turn work)^[turns] worker).pending.length ≤ worker.pending.length - turns := by
  induction turns generalizing worker with
  | zero => exact Nat.le_refl _
  | succ turns ih =>
    have step := pending_turn work worker
    have rest := ih (worker.turn work)
    rw [Function.iterate_succ_apply]
    omega

/-- A pool is finished by a schedule that names every worker as often as it has jobs. -/
theorem run_finishes (schedule : List Nat) (buckets : List (List α))
    (fair : ∀ index jobs, buckets[index]? = some jobs → jobs.length ≤ schedule.count index) :
    ∀ worker ∈ run work schedule (buckets.map Worker.start), worker.Finished := by
  intro worker member
  obtain ⟨index, inside, same⟩ := List.mem_iff_getElem.mp member
  have found := List.getElem?_eq_getElem inside
  rw [same, run_getElem, List.getElem?_map, Option.map_map] at found
  cases bucket : buckets[index]? with
  | none =>
    rw [bucket] at found
    exact nomatch found
  | some jobs =>
    rw [bucket, Option.map_some, Option.some.injEq] at found
    have left := pending_turns work (schedule.count index) (Worker.start jobs)
    have enough := fair index jobs bucket
    have start : (Worker.start jobs : Worker α β ε).pending.length = jobs.length := rfl
    rw [start] at left
    apply List.eq_nil_of_length_eq_zero
    rw [← found, Function.comp_apply]
    omega

end LatentDeck.Pool
