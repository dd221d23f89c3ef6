import LatentDeck.Library.Fallible

/-!
# Actions that may raise

An action runs from a state and either returns a value or raises an error; what it did to the state
before it raised stays done. `Leads` is the weakest precondition of an action with a postcondition
for either end; `Within` says that an action changes the state only in ways a reflexive and
transitive relation allows, whichever way it ends.
-/

namespace LatentDeck.Effect

variable {ε σ α β δ : Type}

/-- Looks at the state and returns or raises without touching it. -/
def reading (check : σ → Except ε α) : EStateM ε σ α := fun state =>
  match check state with
  | .ok value => .ok value state
  | .error error => .error error state

/-- Requires a condition, and raises without it. -/
def demand (condition : Prop) [Decidable condition] (error : ε) : EStateM ε σ Unit :=
  reading fun _ => if condition then .ok () else .error error

/-- Runs an action and, when it raises, recovers from where it left the state. -/
def catching (action : EStateM ε σ α) (recover : ε → EStateM ε σ α) : EStateM ε σ α := fun state =>
  match action state with
  | .ok value state => .ok value state
  | .error error state => recover error state

/-- Runs an action and ignores whether it raised. -/
def suppressing (action : EStateM ε σ α) : EStateM ε σ Unit :=
  catching (action >>= fun _ => pure ()) fun _ => pure ()

/-- Runs an action and then a last one, however the first ended. -/
def finallyDo (action : EStateM ε σ α) (last : EStateM ε σ Unit) : EStateM ε σ α :=
  catching action (fun error => last >>= fun _ => throw error) >>= fun value =>
    last >>= fun _ => pure value

def whenever (condition : Prop) [Decidable condition] (action : EStateM ε σ Unit) :
    EStateM ε σ Unit :=
  if condition then action else pure ()

/-- Runs an action on a value that may be absent. -/
def whenSome (value : Option α) (action : α → EStateM ε σ Unit) : EStateM ε σ Unit :=
  match value with
  | some value => action value
  | none => pure ()

/-- Runs an action for each element of a list, in order. -/
def each (action : α → EStateM ε σ β) : List α → EStateM ε σ (List β)
  | [] => pure []
  | value :: values => do
      let result ← action value
      let results ← each action values
      pure (result :: results)

/-- An action that starts in a state ends in one of two ways: it returns a value and a state that
satisfy `returned`, or raises an error in a state that satisfies `raised`. -/
def Leads (action : EStateM ε σ α) (start : σ) (returned : α → σ → Prop)
    (raised : ε → σ → Prop) : Prop :=
  match action start with
  | .ok value state => returned value state
  | .error error state => raised error state

/-- However the action ends, it leaves a state that satisfies `kept`. -/
abbrev Leaves (action : EStateM ε σ α) (start : σ) (kept : σ → Prop) : Prop :=
  Leads action start (fun _ => kept) (fun _ => kept)

/-- How an action ends: what it returns or raises, and the state it leaves. -/
def ending (action : EStateM ε σ α) (start : σ) : Except ε α × σ :=
  match action start with
  | .ok value state => (.ok value, state)
  | .error error state => (.error error, state)

section Rules

variable {returned : α → σ → Prop} {raised : ε → σ → Prop} {start : σ}

@[simp]
theorem leads_pure (value : α) :
    Leads (pure value : EStateM ε σ α) start returned raised ↔ returned value start := Iff.rfl

@[simp]
theorem leads_throw (error : ε) :
    Leads (throw error : EStateM ε σ α) start returned raised ↔ raised error start := Iff.rfl

@[simp]
theorem leads_reading (check : σ → Except ε α) :
    Leads (reading check) start returned raised ↔
      (∀ value, check start = .ok value → returned value start) ∧
        (∀ error, check start = .error error → raised error start) := by
  unfold Leads reading
  cases checked : check start <;> simp

@[simp]
theorem leads_demand (condition : Prop) [Decidable condition] (error : ε)
    {returned : Unit → σ → Prop} :
    Leads (demand condition error) start returned raised ↔
      (condition → returned () start) ∧ (¬ condition → raised error start) := by
  rw [demand, leads_reading]
  by_cases met : condition
  · simp only [met, if_true, reduceCtorEq, forall_true_left, not_true_eq_false,
      false_imp_iff, implies_true, and_true]
    exact ⟨fun returns => returns (), fun returns _ => returns⟩
  · simp [met]

@[simp]
theorem leads_modify (change : σ → σ) {returned : PUnit → σ → Prop} :
    Leads (modify change : EStateM ε σ PUnit) start returned raised ↔
      returned ⟨⟩ (change start) := Iff.rfl

@[simp]
theorem leads_bind (action : EStateM ε σ β) (next : β → EStateM ε σ α) :
    Leads (action >>= next) start returned raised ↔
      Leads action start (fun value state => Leads (next value) state returned raised) raised := by
  change (match EStateM.bind action next start with | .ok _ _ => _ | .error _ _ => _) ↔ _
  unfold Leads EStateM.bind
  cases action start <;> rfl

variable {next : β → EStateM ε σ α}

theorem leads_read {check : σ → Except ε β}
    (rest : ∀ value, check start = .ok value → Leads (next value) start returned raised)
    (failed : ∀ error, check start = .error error → raised error start) :
    Leads (reading check >>= next) start returned raised :=
  (leads_bind _ _).mpr ((leads_reading check).mpr ⟨rest, failed⟩)

/-- A check that passes leaves the rest to be proved. -/
theorem leads_passed {check : σ → Except ε β} {value : β} (passes : check start = .ok value)
    (rest : Leads (next value) start returned raised) :
    Leads (reading check >>= next) start returned raised := by
  rw [leads_bind, leads_reading, passes]
  exact ⟨fun _ same => Except.ok.inj same ▸ rest, by rintro _ ⟨⟩⟩

variable {error : ε}

theorem leads_demanded {condition : Prop} [Decidable condition] {next : Unit → EStateM ε σ α}
    (rest : condition → Leads (next ()) start returned raised)
    (failed : ¬ condition → raised error start) :
    Leads (demand condition error >>= next) start returned raised :=
  (leads_bind _ _).mpr ((leads_demand condition error).mpr ⟨rest, failed⟩)

variable {action : EStateM ε σ β}

theorem leads_last (anyError : ∀ error state, raised error state)
    (rest : ∀ value state, Leads (next value) state returned raised) :
    Leads (action >>= next) start returned raised := by
  rw [leads_bind]
  unfold Leads
  cases action start with
  | ok value state => exact rest value state
  | error error state => exact anyError error state

@[simp]
theorem leads_catching (action : EStateM ε σ α) (recover : ε → EStateM ε σ α) :
    Leads (catching action recover) start returned raised ↔
      Leads action start returned
        (fun error state => Leads (recover error) state returned raised) := by
  unfold Leads catching
  cases action start <;> rfl

@[simp]
theorem leads_suppressing (action : EStateM ε σ β) {returned : Unit → σ → Prop} :
    Leads (suppressing action) start returned raised ↔
      Leads action start (fun _ state => returned () state)
        (fun _ state => returned () state) := by
  simp only [suppressing, leads_catching, leads_bind, leads_pure]

@[simp]
theorem leads_whenever (condition : Prop) [Decidable condition] (action : EStateM ε σ Unit)
    {returned : Unit → σ → Prop} :
    Leads (whenever condition action) start returned raised ↔
      (condition → Leads action start returned raised) ∧ (¬ condition → returned () start) := by
  rw [whenever]
  by_cases met : condition <;> simp [met]

@[simp]
theorem leads_whenSome (value : Option β) (action : β → EStateM ε σ Unit)
    {returned : Unit → σ → Prop} :
    Leads (whenSome value action) start returned raised ↔
      (value = none → returned () start) ∧
        (∀ found, value = some found → Leads (action found) start returned raised) := by
  cases value with
  | none => simp [whenSome]
  | some found => simp [whenSome]

@[simp]
theorem leads_map (change : β → α) (action : EStateM ε σ β) :
    Leads (change <$> action) start returned raised ↔
      Leads action start (fun value state => returned (change value) state) raised := by
  show (match EStateM.map change action start with | .ok _ _ => _ | .error _ _ => _) ↔ _
  unfold Leads EStateM.map
  cases action start <;> rfl

theorem leads_ite (condition : Prop) [Decidable condition] (action other : EStateM ε σ α) :
    Leads (if condition then action else other) start returned raised ↔
      (condition → Leads action start returned raised) ∧
        (¬ condition → Leads other start returned raised) := by
  by_cases met : condition <;> simp [met]

variable {action : EStateM ε σ α} {returned' : α → σ → Prop} {raised' : ε → σ → Prop}

theorem Leads.mono (leads : Leads action start returned raised)
    (onReturn : ∀ value state, returned value state → returned' value state)
    (onRaise : ∀ error state, raised error state → raised' error state) :
    Leads action start returned' raised' := by
  unfold Leads at leads ⊢
  cases ended : action start with
  | ok value state => rw [ended] at leads; exact onReturn value state leads
  | error error state => rw [ended] at leads; exact onRaise error state leads

theorem Leads.bind {next : α → EStateM ε σ β} {returned' : β → σ → Prop}
    (leads : Leads action start returned raised)
    (rest : ∀ value state, returned value state → Leads (next value) state returned' raised')
    (onRaise : ∀ error state, raised error state → raised' error state) :
    Leads (action >>= next) start returned' raised' :=
  (leads_bind _ _).mpr (leads.mono rest onRaise)

theorem Leads.and (first : Leads action start returned raised)
    (second : Leads action start returned' raised') :
    Leads action start (fun value state => returned value state ∧ returned' value state)
      (fun error state => raised error state ∧ raised' error state) := by
  unfold Leads at first second ⊢
  cases ended : action start with
  | ok value state => rw [ended] at first second; exact ⟨first, second⟩
  | error error state => rw [ended] at first second; exact ⟨first, second⟩

theorem leads_iff :
    Leads action start returned raised ↔
      (∀ value state, action start = .ok value state → returned value state) ∧
        ∀ error state, action start = .error error state → raised error state := by
  unfold Leads
  cases action start <;> simp

theorem leads_ending (property : Except ε α × σ → Prop) :
    Leads action start (fun value state => property (.ok value, state))
        (fun error state => property (.error error, state)) ↔ property (ending action start) := by
  unfold Leads ending
  cases action start <;> rfl

/-- An action that returned leads to what holds there. -/
theorem leads_of_returned {value : α} {state : σ} (ended : ending action start = (.ok value, state))
    (holds : returned value state) : Leads action start returned raised := by
  unfold ending at ended
  unfold Leads
  cases ran : action start with
  | ok first second =>
    rw [ran] at ended
    cases ended
    exact holds
  | error first second =>
    rw [ran] at ended
    exact nomatch ended

/-- An action that raised leads to what holds there. -/
theorem leads_of_raised {state : σ} (ended : ending action start = (.error error, state))
    (holds : raised error state) : Leads action start returned raised := by
  unfold ending at ended
  unfold Leads
  cases ran : action start with
  | ok first second =>
    rw [ran] at ended
    exact nomatch ended
  | error first second =>
    rw [ran] at ended
    cases ended
    exact holds

section

variable (leads : Leads action start returned raised)

include leads

theorem Leads.ends :
    (∃ value state, action start = .ok value state ∧ returned value state) ∨
      ∃ error state, action start = .error error state ∧ raised error state := by
  unfold Leads at leads
  cases ended : action start with
  | ok value state => rw [ended] at leads; exact Or.inl ⟨value, state, rfl, leads⟩
  | error error state => rw [ended] at leads; exact Or.inr ⟨error, state, rfl, leads⟩

theorem Leads.of_ok {value : α} {state : σ}
    (ended : action start = .ok value state) : returned value state := by
  unfold Leads at leads
  rw [ended] at leads
  exact leads

theorem Leads.of_error {state : σ}
    (ended : action start = .error error state) : raised error state := by
  unfold Leads at leads
  rw [ended] at leads
  exact leads

end

theorem exists_of_forall₂ {fact : α → β → Prop} {values : List α} {results : List β}
    (related : List.Forall₂ fact values results) :
    ∀ value ∈ values, ∃ result ∈ results, fact value result := by
  induction related with
  | nil => exact nofun
  | cons first _ ih =>
    intro value member
    cases member with
    | head => exact ⟨_, List.mem_cons_self, first⟩
    | tail _ member =>
      have found := ih value member
      exact ⟨found.choose, List.mem_cons_of_mem _ found.choose_spec.1, found.choose_spec.2⟩

/-- A loop whose body keeps an invariant and establishes a fact about each element. -/
theorem leads_each {action : α → EStateM ε σ β} {invariant : σ → Prop} {fact : α → β → Prop}
    (body : ∀ value state, invariant state →
      Leads (action value) state (fun result state => invariant state ∧ fact value result) raised)
    (values : List α) : ∀ start, invariant start →
      Leads (each action values) start
        (fun results state => invariant state ∧ List.Forall₂ fact values results) raised := by
  induction values with
  | nil => exact fun start holds => ⟨holds, .nil⟩
  | cons value values ih =>
    intro start holds
    rw [each]
    refine (body value start holds).bind (fun result middle first => ?_) (fun _ _ failed => failed)
    exact (ih middle first.1).bind (fun results state rest => ⟨rest.1, .cons first.2 rest.2⟩)
      (fun _ _ failed => failed)

end Rules

/-- A reflexive and transitive relation between states: the changes an action may make. -/
structure Frame (σ : Type) where
  allows : σ → σ → Prop
  refl : ∀ state, allows state state
  trans : ∀ {first second third}, allows first second → allows second third → allows first third

/-- The changes that leave a view of the state alone. -/
def Frame.keeping (view : σ → δ) : Frame σ where
  allows before after := view after = view before
  refl _ := rfl
  trans earlier later := later.trans earlier

theorem Frame.seen {view : σ → δ} {before after : σ} {γ : Type} (look : δ → γ)
    (kept : (Frame.keeping view).allows before after) : look (view after) = look (view before) :=
  congrArg look kept

/-- However an action ends, the state changed in a way the frame allows. -/
def Within (frame : Frame σ) (action : EStateM ε σ α) : Prop :=
  ∀ start, Leads action start (fun _ state => frame.allows start state)
    (fun _ state => frame.allows start state)

namespace Within

variable {frame : Frame σ}

theorem pure (value : α) : Within frame (Pure.pure value : EStateM ε σ α) :=
  fun start => frame.refl start

theorem throw (error : ε) : Within frame (MonadExcept.throw error : EStateM ε σ α) :=
  fun start => frame.refl start

theorem reading (check : σ → Except ε α) : Within frame (Effect.reading check) := by
  intro start
  rw [leads_reading]
  exact ⟨fun _ _ => frame.refl start, fun _ _ => frame.refl start⟩

theorem demand (condition : Prop) [Decidable condition] (error : ε) :
    Within frame (Effect.demand condition error : EStateM ε σ Unit) :=
  reading _

theorem modify {change : σ → σ} (allowed : ∀ state, frame.allows state (change state)) :
    Within frame (modify change : EStateM ε σ PUnit) :=
  fun start => allowed start

theorem bind (first : Within frame action)
    (rest : ∀ value, Within frame (next value)) : Within frame (action >>= next) := by
  intro start
  refine (first start).bind (fun value middle earlier => ?_) (fun _ _ earlier => earlier)
  exact (rest value middle).mono (fun _ _ later => frame.trans earlier later)
    (fun _ _ later => frame.trans earlier later)

theorem reads {check : σ → Except ε β}
    (rest : ∀ value, Within frame (next value)) : Within frame (Effect.reading check >>= next) :=
  bind (reading check) rest

theorem bind_told {fact : β → Prop} (first : Within frame action)
    (told : ∀ start, Leads action start (fun value _ => fact value) (fun _ _ => True))
    (rest : ∀ value, fact value → Within frame (next value)) : Within frame (action >>= next) := by
  intro start
  refine ((first start).and (told start)).bind (fun value middle both => ?_)
    (fun _ _ both => both.1)
  exact (rest value both.2 middle).mono (fun _ _ later => frame.trans both.1 later)
    (fun _ _ later => frame.trans both.1 later)

theorem map (change : β → α) (within : Within frame action) : Within frame (change <$> action) := by
  intro start
  rw [leads_map]
  exact within start

variable {action : EStateM ε σ α}

section

variable (first : Within frame action)

include first

theorem catching {recover : ε → EStateM ε σ α} (rest : ∀ error, Within frame (recover error)) :
    Within frame (Effect.catching action recover) := by
  intro start
  rw [leads_catching]
  refine (first start).mono (fun _ _ earlier => earlier) (fun error middle earlier => ?_)
  exact (rest error middle).mono (fun _ _ later => frame.trans earlier later)
    (fun _ _ later => frame.trans earlier later)

theorem suppressing : Within frame (Effect.suppressing action) :=
  catching (bind first fun _ => pure ()) fun _ => pure ()

theorem finallyDo {last : EStateM ε σ Unit}
    (second : Within frame last) : Within frame (Effect.finallyDo action last) :=
  bind (catching first fun error => bind second fun _ => throw error) fun value =>
    bind second fun _ => pure value

end

theorem ite {condition : Prop} [Decidable condition] {other : EStateM ε σ α}
    (first : Within frame action) (second : Within frame other) :
    Within frame (if condition then action else other) := by
  by_cases met : condition
  · rw [if_pos met]
    exact first
  · rw [if_neg met]
    exact second

theorem whenever {condition : Prop} [Decidable condition] {action : EStateM ε σ Unit}
    (body : Within frame action) : Within frame (Effect.whenever condition action) :=
  ite body (pure ())

theorem whenSome {value : Option β} {action : β → EStateM ε σ Unit}
    (body : ∀ found, Within frame (action found)) :
    Within frame (Effect.whenSome value action) := by
  cases value with
  | none => exact pure ()
  | some found => exact body found

theorem each {action : α → EStateM ε σ β} (body : ∀ value, Within frame (action value))
    (values : List α) : Within frame (Effect.each action values) := by
  induction values with
  | nil => exact pure []
  | cons value values ih => exact bind (body value) fun _ => bind ih fun _ => pure _

theorem mono {wider : Frame σ} (within : Within frame action)
    (allowed : ∀ before after, frame.allows before after → wider.allows before after) :
    Within wider action :=
  fun start => (within start).mono (fun _ _ => allowed _ _) (fun _ _ => allowed _ _)

end Within

/-- An action that leaves the state as it is, whichever way it ends. -/
def Looks (action : EStateM ε σ α) : Prop := Within (.keeping id) action

theorem Looks.within {action : EStateM ε σ α} (looks : Looks action) (frame : Frame σ) :
    Within frame action := by
  refine Within.mono looks fun before after same => ?_
  have equal : after = before := same
  rw [equal]
  exact frame.refl before

variable {action : EStateM ε σ β}

theorem Looks.before (looks : Looks action) {frame : Frame σ}
    (rest : ∀ value, Within frame (next value)) : Within frame (action >>= next) :=
  Within.bind (looks.within frame) rest

/-- What only looks leaves what follows to start where it started itself. -/
theorem Looks.skip (looks : Looks action) {start : σ}
    {returned : α → σ → Prop} {raised : ε → σ → Prop} (failed : ∀ error, raised error start)
    (rest : ∀ value, Leads (next value) start returned raised) :
    Leads (action >>= next) start returned raised := by
  refine (looks start).bind (fun value middle same => ?_) (fun error middle same => ?_)
  · have equal : middle = start := same
    rw [equal]
    exact rest value
  · have equal : middle = start := same
    rw [equal]
    exact failed error

/-- What only looks tells something about how it ends. -/
theorem Looks.tells (looks : Looks action) {start : σ}
    {returned : α → σ → Prop} {raised : ε → σ → Prop} {fact : β → Prop} {blame : ε → Prop}
    (told : Leads action start (fun value _ => fact value) (fun error _ => blame error))
    (failed : ∀ error, blame error → raised error start)
    (rest : ∀ value, fact value → Leads (next value) start returned raised) :
    Leads (action >>= next) start returned raised := by
  refine (told.and (looks start)).bind (fun value middle both => ?_) (fun error middle both => ?_)
  · have equal : middle = start := both.2
    rw [equal]
    exact rest value both.1
  · have equal : middle = start := both.2
    rw [equal]
    exact failed error both.1

/-- From every state of an invariant an action ends in one, and it raises allowed errors only. -/
def Maintains (invariant : σ → Prop) (allowed : ε → Prop) (action : EStateM ε σ α) : Prop :=
  ∀ start, invariant start → Leads action start (fun _ state => invariant state)
    (fun error state => invariant state ∧ allowed error)

namespace Maintains

variable {invariant : σ → Prop} {allowed : ε → Prop}

theorem pure (value : α) : Maintains invariant allowed (Pure.pure value : EStateM ε σ α) :=
  fun _ holds => holds

theorem throw {error : ε} (raised : allowed error) :
    Maintains invariant allowed (MonadExcept.throw error : EStateM ε σ α) :=
  fun _ holds => ⟨holds, raised⟩

theorem reading {check : σ → Except ε α}
    (raises : ∀ state, invariant state → Fallible.Raises allowed (check state)) :
    Maintains invariant allowed (Effect.reading check) := by
  intro start holds
  rw [leads_reading]
  exact ⟨fun _ _ => holds, fun error failed => ⟨holds, raises start holds error failed⟩⟩

variable {condition : Prop}

theorem demand [Decidable condition] {error : ε} (raised : allowed error) :
    Maintains invariant allowed (Effect.demand condition error : EStateM ε σ Unit) :=
  reading fun _ _ => (Fallible.raises_ok ()).ite (Fallible.raises_error raised)

theorem modify {change : σ → σ} (kept : ∀ state, invariant state → invariant (change state)) :
    Maintains invariant allowed (modify change : EStateM ε σ PUnit) :=
  fun start holds => kept start holds

theorem bind (first : Maintains invariant allowed action)
    (rest : ∀ value, Maintains invariant allowed (next value)) :
    Maintains invariant allowed (action >>= next) := by
  intro start holds
  exact (first start holds).bind (fun value state held => rest value state held)
    (fun _ _ failed => failed)

theorem bind_with {fact : β → Prop}
    (first : ∀ start, invariant start → Leads action start
      (fun value state => invariant state ∧ fact value)
      (fun error state => invariant state ∧ allowed error))
    (rest : ∀ value, fact value → Maintains invariant allowed (next value)) :
    Maintains invariant allowed (action >>= next) := by
  intro start holds
  exact (first start holds).bind (fun value state held => rest value held.2 state held.1)
    (fun _ _ failed => failed)

theorem map (change : β → α) (kept : Maintains invariant allowed action) :
    Maintains invariant allowed (change <$> action) := by
  intro start holds
  rw [leads_map]
  exact kept start holds

variable {action : EStateM ε σ α}

theorem catching {recover : ε → EStateM ε σ α} {inner : ε → Prop}
    (first : Maintains invariant inner action)
    (rest : ∀ error, inner error → Maintains invariant allowed (recover error)) :
    Maintains invariant allowed (Effect.catching action recover) := by
  intro start holds
  rw [leads_catching]
  exact (first start holds).mono (fun _ _ held => held)
    (fun error state failed => rest error failed.2 state failed.1)

theorem suppressing {inner : ε → Prop} (first : Maintains invariant inner action) :
    Maintains invariant allowed (Effect.suppressing action) :=
  catching (bind first fun _ => pure ()) fun _ _ => pure ()

theorem ite [Decidable condition] {other : EStateM ε σ α}
    (first : Maintains invariant allowed action) (second : Maintains invariant allowed other) :
    Maintains invariant allowed (if condition then action else other) := by
  by_cases met : condition
  · rw [if_pos met]
    exact first
  · rw [if_neg met]
    exact second

theorem whenever [Decidable condition] {action : EStateM ε σ Unit}
    (body : Maintains invariant allowed action) :
    Maintains invariant allowed (Effect.whenever condition action) :=
  ite body (pure ())

theorem whenSome {value : Option β} {action : β → EStateM ε σ Unit}
    (body : ∀ found, Maintains invariant allowed (action found)) :
    Maintains invariant allowed (Effect.whenSome value action) := by
  cases value with
  | none => exact pure ()
  | some found => exact body found

theorem each {action : α → EStateM ε σ β} (values : List α)
    (body : ∀ value ∈ values, Maintains invariant allowed (action value)) :
    Maintains invariant allowed (Effect.each action values) := by
  induction values with
  | nil => exact pure []
  | cons value values ih =>
    refine bind (body value List.mem_cons_self) fun _ => bind (ih fun other member => ?_)
      fun _ => pure _
    exact body other (List.mem_cons_of_mem _ member)

theorem raises (kept : Maintains invariant allowed action) {start : σ} (holds : invariant start) :
    Leads action start (fun _ _ => True) (fun error _ => allowed error) :=
  (kept start holds).mono (fun _ _ _ => trivial) (fun _ _ failed => failed.2)

end Maintains

end LatentDeck.Effect
