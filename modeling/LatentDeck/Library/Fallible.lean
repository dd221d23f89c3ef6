import Mathlib.Data.List.Forall2
import Mathlib.Tactic.Common

/-!
# Computations that may fail

Facts about `Except` that every checked function uses: a sequence succeeds when its parts do, a
guarded error is passed when its guard is not met, and a loop of checks succeeds when every check
does.
-/

namespace LatentDeck.Fallible

variable {ε α β : Type}

/-- A sequence succeeds when its parts do, one after the other. -/
theorem bind_eq_ok (computation : Except ε α) (next : α → Except ε β) (result : β) :
    (computation >>= next) = .ok result ↔
      ∃ value, computation = .ok value ∧ next value = .ok result := by
  cases computation with
  | error error =>
    constructor
    · exact nofun
    · rintro ⟨value, failed, -⟩
      exact nomatch failed
  | ok value =>
    constructor
    · exact fun rest => ⟨value, rfl, rest⟩
    · rintro ⟨other, same, rest⟩
      cases same
      exact rest

theorem ok_of_bind {computation : Except ε α} {next : α → Except ε β} {result : β}
    (succeeded : (computation >>= next) = .ok result) :
    ∃ value, computation = .ok value ∧ next value = .ok result :=
  (bind_eq_ok computation next result).mp succeeded

theorem ok_bind (value : α) (rest : α → Except ε β) :
    (Except.ok value >>= rest) = rest value := rfl

theorem bind_congr_ok {computation : Except ε α} {first second : α → Except ε β}
    (same : ∀ result, computation = .ok result → first result = second result) :
    computation >>= first = computation >>= second := by
  cases computation with
  | error error => rfl
  | ok result => exact same result rfl

theorem ok_of_isSome {result : Except ε α} (there : result.toOption.isSome = true) :
    ∃ value, result = .ok value := by
  cases result with
  | error error => exact Bool.noConfusion there
  | ok value => exact ⟨value, rfl⟩

theorem eq_ok_of_toOption {result : Except ε α} {value : α}
    (seen : result.toOption = some value) : result = .ok value := by
  cases result with
  | error error => exact nomatch seen
  | ok other => rw [Option.some.inj seen]

theorem check_eq_ok (check : Except ε Unit) (next : Unit → Except ε β) (result : β) :
    (check >>= next) = .ok result ↔ check = .ok () ∧ next () = .ok result := by
  rw [bind_eq_ok]
  exact ⟨fun ⟨_, checked, rest⟩ => ⟨checked, rest⟩, fun ⟨checked, rest⟩ => ⟨_, checked, rest⟩⟩

theorem guarded_eq_ok (condition : Prop) [Decidable condition] (error : ε)
    (rest : Except ε α) (result : α) :
    (if condition then .error error else rest) = .ok result ↔
      ¬ condition ∧ rest = .ok result := by
  by_cases met : condition
  · rw [if_pos met]
    constructor
    · exact nofun
    · exact fun both => absurd met both.1
  · rw [if_neg met]
    exact ⟨fun rest => ⟨met, rest⟩, fun both => both.2⟩

def refuseWhen (condition : Prop) [Decidable condition] (error : ε) : Except ε Unit :=
  if condition then .error error else .ok ()

theorem refuseWhen_eq_ok (condition : Prop) [Decidable condition] (error : ε) :
    refuseWhen condition error = .ok () ↔ ¬ condition := by
  rw [refuseWhen, guarded_eq_ok]
  exact ⟨fun both => both.1, fun absent => ⟨absent, rfl⟩⟩

def orError (found : Option α) (error : ε) : Except ε α :=
  match found with
  | none => .error error
  | some value => .ok value

theorem orError_eq_ok (found : Option α) (error : ε) (value : α) :
    orError found error = .ok value ↔ found = some value := by
  cases found with
  | none => exact ⟨nofun, nofun⟩
  | some other =>
    exact ⟨fun same => congrArg _ (Except.ok.inj same),
      fun same => congrArg _ (Option.some.inj same)⟩

theorem mapError_eq_ok {δ : Type} (computation : Except ε α) (wrap : ε → δ) (value : α) :
    computation.mapError wrap = .ok value ↔ computation = .ok value := by
  cases computation with
  | error error => exact ⟨nofun, nofun⟩
  | ok found => exact ⟨fun same => congrArg _ (Except.ok.inj same),
      fun same => congrArg _ (Except.ok.inj same)⟩

def Raises (allowed : ε → Prop) (computation : Except ε α) : Prop :=
  ∀ error, computation = .error error → allowed error

section Raises

variable {allowed : ε → Prop}

theorem raises_ok (value : α) : Raises allowed (.ok value : Except ε α) :=
  nofun

variable {error : ε}

theorem raises_error (raised : allowed error) : Raises allowed (.error error : Except ε α) := by
  intro other same
  cases same
  exact raised

variable {computation : Except ε α}

theorem Raises.bind {next : α → Except ε β} (first : Raises allowed computation)
    (rest : ∀ value, Raises allowed (next value)) : Raises allowed (computation >>= next) := by
  cases computation with
  | error error => exact raises_error (first error rfl)
  | ok value => exact rest value

variable {condition : Prop}

theorem Raises.ite [Decidable condition] {other : Except ε α} (first : Raises allowed computation)
    (second : Raises allowed other) :
    Raises allowed (if condition then computation else other) := by
  by_cases met : condition
  · rw [if_pos met]
    exact first
  · rw [if_neg met]
    exact second

variable {found : Option α}

theorem raises_elim (absent : allowed error) : Raises allowed (found.elim (.error error) .ok) := by
  cases found with
  | none => exact raises_error absent
  | some value => exact raises_ok value

theorem raises_refuseWhen [Decidable condition] (raised : allowed error) :
    Raises allowed (refuseWhen condition error) :=
  (raises_error raised).ite (raises_ok ())

theorem raises_orError (absent : allowed error) : Raises allowed (orError found error) := by
  cases found with
  | none => exact raises_error absent
  | some value => exact raises_ok value

theorem Raises.refusing [Decidable condition] {next : Unit → Except ε β} (raised : allowed error)
    (rest : ∀ value, Raises allowed (next value)) :
    Raises allowed (refuseWhen condition error >>= next) :=
  (raises_refuseWhen raised).bind rest

theorem Raises.finding {next : α → Except ε β} (absent : allowed error)
    (rest : ∀ value, Raises allowed (next value)) : Raises allowed (orError found error >>= next) :=
  (raises_orError absent).bind rest

theorem raises_mapError {δ : Type} {computation : Except δ α} {wrap : δ → ε}
    (each : ∀ error, computation = .error error → allowed (wrap error)) :
    Raises allowed (computation.mapError wrap) := by
  cases computation with
  | error error => exact raises_error (each error rfl)
  | ok value => exact raises_ok value

theorem Raises.mono {wider : ε → Prop} (raises : Raises allowed computation)
    (implies : ∀ error, allowed error → wider error) : Raises wider computation :=
  fun error failed => implies error (raises error failed)

end Raises

/-- Performs a check for each element of a list, in order, and stops at the first error. -/
def checkEach (check : α → Except ε Unit) : List α → Except ε Unit
  | [] => .ok ()
  | value :: values => do
      check value
      checkEach check values

theorem checkEach_eq_ok (check : α → Except ε Unit) (values : List α) :
    checkEach check values = .ok () ↔ ∀ value ∈ values, check value = .ok () := by
  induction values with
  | nil => simp [checkEach]
  | cons value values ih => rw [checkEach, check_eq_ok, ih, List.forall_mem_cons]

theorem raises_checkEach {allowed : ε → Prop} {check : α → Except ε Unit}
    (each : ∀ value, Raises allowed (check value)) (values : List α) :
    Raises allowed (checkEach check values) := by
  induction values with
  | nil => exact raises_ok ()
  | cons value values ih => exact (each value).bind fun _ => ih

variable {computation : α → Except ε β}

theorem raises_mapM {allowed : ε → Prop} (values : List α)
    (each : ∀ value ∈ values, Raises allowed (computation value)) :
    Raises allowed (values.mapM computation) := by
  induction values with
  | nil => exact raises_ok []
  | cons value values ih =>
    rw [List.mapM_cons]
    have rest := ih fun other member => each other (List.mem_cons_of_mem _ member)
    exact (each value List.mem_cons_self).bind fun _ => rest.bind fun _ => raises_ok _

/-- A loop succeeds with what its body makes of each element. -/
theorem mapM_eq_ok {values : List α} :
    ∀ {results : List β}, values.mapM computation = .ok results ↔
      List.Forall₂ (fun value result => computation value = .ok result) values results := by
  induction values with
  | nil =>
    intro results
    rw [List.mapM_nil, List.forall₂_nil_left_iff]
    exact ⟨fun same => (Except.ok.inj same).symm, fun same => congrArg Except.ok same.symm⟩
  | cons value values ih =>
    intro results
    rw [List.mapM_cons, bind_eq_ok, List.forall₂_cons_left_iff]
    constructor
    · rintro ⟨first, made, rest⟩
      obtain ⟨others, mapped, same⟩ := ok_of_bind rest
      exact ⟨first, others, made, ih.mp mapped, (Except.ok.inj same).symm⟩
    · rintro ⟨first, others, made, mapped, rfl⟩
      refine ⟨first, made, ?_⟩
      rw [ih.mpr mapped]
      rfl

theorem length_of_mapM {values : List α} {results : List β}
    (mapped : values.mapM computation = .ok results) : results.length = values.length :=
  (mapM_eq_ok.mp mapped).length_eq.symm

/-- A loop whose body succeeds on each element succeeds, with what the body tells about each
result. -/
theorem mapM_succeeds {κ : Type} {name : α → κ} {key : β → κ} {fact : β → Prop} (values : List α)
    (each : ∀ value ∈ values, ∃ result, computation value = .ok result ∧
      key result = name value ∧ fact result) :
    ∃ results, values.mapM computation = .ok results ∧ results.map key = values.map name ∧
      ∀ result ∈ results, fact result := by
  induction values with
  | nil => exact ⟨[], rfl, rfl, fun _ never => absurd never List.not_mem_nil⟩
  | cons value values ih =>
    have first := each value List.mem_cons_self
    have rest := ih fun other member => each other (List.mem_cons_of_mem _ member)
    obtain ⟨result, made, named, holds⟩ := first
    obtain ⟨results, mapped, keys, all⟩ := rest
    refine ⟨result :: results, ?_, ?_, ?_⟩
    · rw [List.mapM_cons, made, mapped]
      rfl
    · rw [List.map_cons, List.map_cons, named, keys]
    · exact List.forall_mem_cons.mpr ⟨holds, all⟩

end LatentDeck.Fallible
