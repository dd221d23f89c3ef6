import LatentDeck.Library.Run
import LatentDeck.Packages.ActiveCache
import Mathlib.Logic.Function.Basic

/-!
# The callers of the cache of active packages

Calls of the cache are sections under its lock around lifecycle calls without it, so those of
several callers interleave. In every run the accounts of the cache hold, the lifecycle calls of one
package are kept apart, and what a caller is told rests on its own lifecycle call.
-/

namespace LatentDeck.Packages

variable {κ : Type} [LinearOrder κ]

/-- The calls that one caller makes of the cache. -/
inductive CacheCall (κ : Type) where
  | resolveActive (key : κ)
  | enableAndPrime (key : κ)
  | disable (key : κ)
  | invalidateExact (key : κ)
  | invalidateAll
  deriving DecidableEq

/-- Where a caller is: outside of calls, before a section for which it may have to wait, in a
lifecycle call, or between the candidates of `runtime_inventory_kinds`, to which a call within an
inventory returns. -/
inductive CachePhase (κ : Type) where
  | idle
  | entering (call : CacheCall κ) (inventory : Option (List κ))
  | checking (call : CacheCall κ) (cached : Option ActiveLease) (inventory : Option (List κ))
  | listing (candidates : List κ)
  deriving DecidableEq

/-- What a lifecycle call says of an inventory candidate. -/
inductive CandidateVerdict where
  /-- The package is enabled and is resolved. -/
  | enabled
  /-- Its summary was made without the cache. -/
  | summarized
  /-- `is_root_inventory_error`: the inventory fails. -/
  | failed (code : ErrorCode)

inductive CacheEvent (κ : Type) where
  | calls (caller : Nat) (call : CacheCall κ)
  /-- `runtime_inventory_kinds` with the enabled kinds of candidates, or the error of discovery. -/
  | inventories (caller : Nat) (discovered : Except ErrorCode (List κ))
  | inspects (caller : Nat) (verdict : CandidateVerdict)
  /-- The caller takes the lock, or wakes, for the first section of its call. -/
  | enters (caller : Nat)
  /-- The lifecycle call returns, and the last section of the call follows. -/
  | finishes (caller : Nat) (result : Except ErrorCode ActiveLease)

inductive CacheReply (κ : Type) where
  | ignored
  | quiet
  | resolved (key : κ) (result : Except ErrorCode ActiveLease)
  | enabled (key : κ) (result : Except ErrorCode ActiveLease)
  | disabled (key : κ) (succeeded : Bool)
  | invalidated (key : κ) (present : Bool)
  | cleared
  | listed (code : Option ErrorCode)

structure CacheSystem (κ : Type) [LinearOrder κ] where
  cache : CacheState κ
  callers : Nat → CachePhase κ

namespace CacheSystem

def new : CacheSystem κ := ⟨.new, fun _ => .idle⟩

variable (windows : Bool) (system : CacheSystem κ)

def advance (caller : Nat) (cache : CacheState κ) (phase : CachePhase κ) : CacheSystem κ :=
  ⟨cache, Function.update system.callers caller phase⟩

/-- Where a call of `resolve_active` returns to: an inventory goes on unless the error is one of
its root. -/
def afterResolve (inventory : Option (List κ)) (result : Except ErrorCode ActiveLease) :
    CachePhase κ :=
  match inventory, result with
  | none, _ => .idle
  | some _, .error .lifecycleBusy => .idle
  | some candidates, _ => .listing candidates

/-- The first section of a call, once it need not wait. -/
def enter (caller : Nat) (inventory : Option (List κ)) : CacheCall κ → CacheReply κ × CacheSystem κ
  | .resolveActive key =>
      if key ∈ system.cache.busy then (.quiet, system)
      else
        let begun := system.cache.beginResolve key
        (.quiet, system.advance caller begun.2
          (.checking (.resolveActive key) begun.1 inventory))
  | .enableAndPrime key =>
      if key ∈ system.cache.busy then (.quiet, system)
      else (.quiet, system.advance caller (system.cache.beginChange key)
        (.checking (.enableAndPrime key) none inventory))
  | .disable key =>
      if key ∈ system.cache.busy then (.quiet, system)
      else (.quiet, system.advance caller (system.cache.beginChange key)
        (.checking (.disable key) none inventory))
  | .invalidateExact key =>
      if key ∈ system.cache.busy then (.quiet, system)
      else (.invalidated key (system.cache.entries.lookup key).isSome,
        system.advance caller (system.cache.remove key) .idle)
  | .invalidateAll =>
      if system.cache.busy ≠ ∅ then (.quiet, system)
      else (.cleared, system.advance caller system.cache.clear .idle)

/-- The result of `resolve_active`: on Windows a cached lease is revalidated and kept. -/
def resolution (cached : Option ActiveLease) (result : Except ErrorCode ActiveLease) :
    Bool × Except ErrorCode ActiveLease :=
  match cached, windows with
  | some active, true => (false, result.map fun _ => active)
  | some _, false => (true, result)
  | none, _ => (true, result)

def finish (caller : Nat) (cached : Option ActiveLease) (inventory : Option (List κ))
    (result : Except ErrorCode ActiveLease) : CacheCall κ → CacheReply κ × CacheSystem κ
  | .resolveActive key =>
      let resolved := resolution windows cached result
      (.resolved key resolved.2,
        system.advance caller (system.cache.finishResolve key resolved.1 resolved.2)
          (afterResolve inventory resolved.2))
  | .enableAndPrime key => (.enabled key result,
      system.advance caller (system.cache.finishEnable key result) .idle)
  | .disable key => (.disabled key result.toOption.isSome,
      system.advance caller (system.cache.finishDisable key) .idle)
  | .invalidateExact _ | .invalidateAll => (.ignored, system)

def step : CacheEvent κ → CacheReply κ × CacheSystem κ
  | .calls caller call =>
      if system.callers caller = .idle then
        (.quiet, system.advance caller system.cache (.entering call none))
      else (.ignored, system)
  | .inventories caller discovered =>
      if system.callers caller = .idle then
        match discovered with
        | .error code => (.listed (some code), system)
        | .ok candidates => (.quiet, system.advance caller system.cache (.listing candidates))
      else (.ignored, system)
  | .inspects caller verdict =>
      match system.callers caller, verdict with
      | .listing _, .failed code => (.listed (some code), system.advance caller system.cache .idle)
      | .listing [], _ => (.listed none, system.advance caller system.cache .idle)
      | .listing (key :: candidates), .enabled => (.quiet, system.advance caller system.cache
          (.entering (.resolveActive key) (some candidates)))
      | .listing (_ :: candidates), .summarized =>
          (.quiet, system.advance caller system.cache (.listing candidates))
      | _, _ => (.ignored, system)
  | .enters caller =>
      match system.callers caller with
      | .entering call inventory => system.enter caller inventory call
      | _ => (.ignored, system)
  | .finishes caller result =>
      match system.callers caller with
      | .checking call cached inventory => system.finish windows caller cached inventory result call
      | _ => (.ignored, system)

end CacheSystem

/-- The package that a call checks in a lifecycle call. -/
def CacheCall.locks : CacheCall κ → Option κ
  | .resolveActive key | .enableAndPrime key | .disable key => some key
  | .invalidateExact _ | .invalidateAll => none

def CachePhase.checks : CachePhase κ → Option κ
  | .checking call _ _ => call.locks
  | .idle | .entering _ _ | .listing _ => none

def CacheReply.stores : CacheReply κ → Option κ
  | .resolved key result | .enabled key result => CacheState.stored key result
  | _ => none

/-- The package that a reply leaves out of the cache. -/
def CacheReply.drops : CacheReply κ → Option κ
  | .resolved key (.error _) | .disabled key _ => some key
  | _ => none

/-- Whether a reply tells nothing of a lifecycle call. -/
def CacheReply.Silent (reply : CacheReply κ) : Prop :=
  ∀ key result succeeded, reply ≠ .resolved key result ∧ reply ≠ .enabled key result ∧
    reply ≠ .disabled key succeeded

namespace CacheSystem

/-- What the end of a lifecycle call tells, of which call. -/
inductive Told (call : CacheCall κ) (cached : Option ActiveLease)
    (result : Except ErrorCode ActiveLease) : CacheReply κ → Prop where
  | resolved (key : κ) (same : call = .resolveActive key) (told : Except ErrorCode ActiveLease)
      (rests : ∀ active, told = .ok active →
        ∃ checked, result = .ok checked ∧ (active = checked ∨ cached = some active)) :
      Told call cached result (.resolved key told)
  | enabled (key : κ) (same : call = .enableAndPrime key) :
      Told call cached result (.enabled key result)
  | disabled (key : κ) (same : call = .disable key) (succeeded : Bool) :
      Told call cached result (.disabled key succeeded)

inductive Change (system : CacheSystem κ) (event : CacheEvent κ) :
    CacheReply κ → CacheSystem κ → Prop where
  | same (reply : CacheReply κ) (silent : reply.Silent) : Change system event reply system
  | moved (caller : Nat) (phase : CachePhase κ) (reply : CacheReply κ) (cache : CacheState κ)
      (silent : reply.Silent) (outside : (system.callers caller).checks = none)
      (free : phase.checks = none) (turn : CacheState.Turn system.cache cache none none)
      (busy : cache.busy = system.cache.busy) :
      Change system event reply (system.advance caller cache phase)
  | begun (caller : Nat) (call : CacheCall κ) (key : κ) (cached : Option ActiveLease)
      (inventory : Option (List κ)) (cache : CacheState κ) (used : Option κ)
      (enters : event = .enters caller) (outside : (system.callers caller).checks = none)
      (locks : call.locks = some key) (free : key ∉ system.cache.busy)
      (looks : call = .resolveActive key → used = some key)
      (turn : CacheState.Turn system.cache cache none used)
      (busy : cache.busy = {key} ∪ system.cache.busy)
      (absent : call = .disable key → cache.entries.lookup key = none) :
      Change system event .quiet
        (system.advance caller cache (.checking call cached inventory))
  | ended (caller : Nat) (call : CacheCall κ) (key : κ) (cached : Option ActiveLease)
      (inventory : Option (List κ)) (result : Except ErrorCode ActiveLease) (phase : CachePhase κ)
      (reply : CacheReply κ) (cache : CacheState κ) (finishes : event = .finishes caller result)
      (checking : system.callers caller = .checking call cached inventory)
      (locks : call.locks = some key) (free : phase.checks = none)
      (told : Told call cached result reply)
      (turn : CacheState.Turn system.cache cache reply.stores none)
      (busy : cache.busy = system.cache.busy.erase key)
      (absent : ∀ other, reply.drops = some other → call ≠ .disable key →
        cache.entries.lookup other = none)
      (kept : call = .disable key → cache.entries = system.cache.entries) :
      Change system event reply (system.advance caller cache phase)

variable {windows : Bool} {system : CacheSystem κ} (sound : system.cache.Sound)

include sound

variable {event : CacheEvent κ} (caller : Nat)

theorem moved_alone (phase : CachePhase κ) (reply : CacheReply κ) (silent : reply.Silent)
    (outside : (system.callers caller).checks = none) (free : phase.checks = none) :
    Change system event reply (system.advance caller system.cache phase) :=
  .moved caller phase reply system.cache silent outside free
    (CacheState.turn_of_fewer sound fun _ there => there) rfl

theorem enter_changes (call : CacheCall κ) (inventory : Option (List κ))
    (entering : system.callers caller = .entering call inventory) :
    Change system (.enters caller) (system.enter caller inventory call).1
      (system.enter caller inventory call).2 := by
  have outside : (system.callers caller).checks = none := by rw [entering]; rfl
  have quiet : (CacheReply.quiet : CacheReply κ).Silent := fun _ _ _ => ⟨nofun, nofun, nofun⟩
  unfold enter
  cases call with
  | resolveActive key =>
    dsimp only
    split
    · exact .same _ quiet
    · rename_i free
      obtain ⟨turn, busy⟩ := CacheState.beginResolve_turn sound key
      exact .begun caller _ key _ inventory _ _ rfl outside rfl free (fun _ => rfl) turn busy nofun
  | enableAndPrime key =>
    dsimp only
    split
    · exact .same _ quiet
    · rename_i free
      obtain ⟨turn, busy, absent⟩ := CacheState.beginChange_turn sound key
      exact .begun caller _ key _ inventory _ _ rfl outside rfl free nofun turn busy nofun
  | disable key =>
    dsimp only
    split
    · exact .same _ quiet
    · rename_i free
      obtain ⟨turn, busy, absent⟩ := CacheState.beginChange_turn sound key
      exact .begun caller _ key _ inventory _ _ rfl outside rfl free nofun turn busy fun _ => absent
  | invalidateExact key =>
    dsimp only
    split
    · exact .same _ quiet
    · exact .moved caller _ _ _ (fun _ _ _ => ⟨nofun, nofun, nofun⟩) outside rfl
        (CacheState.remove_turn sound key) (CacheState.remove_busy _ _)
  | invalidateAll =>
    dsimp only
    split
    · exact .same _ quiet
    · exact .moved caller _ _ _ (fun _ _ _ => ⟨nofun, nofun, nofun⟩) outside rfl
        (CacheState.clear_turn sound) rfl

theorem finish_changes (call : CacheCall κ) (cached : Option ActiveLease)
    (inventory : Option (List κ)) (result : Except ErrorCode ActiveLease)
    (checking : system.callers caller = .checking call cached inventory) :
    Change system (.finishes caller result)
      (system.finish windows caller cached inventory result call).1
      (system.finish windows caller cached inventory result call).2 := by
  cases call with
  | resolveActive key =>
    have rests : ∀ active, (resolution windows cached result).2 = .ok active →
        ∃ checked, result = .ok checked ∧ (active = checked ∨ cached = some active) := by
      intro active told
      unfold resolution at told
      split at told
      · cases result with
        | error code => exact nomatch told
        | ok checked => exact ⟨checked, rfl, .inr (congrArg some (Except.ok.inj told))⟩
      · exact ⟨active, told, .inl rfl⟩
      · exact ⟨active, told, .inl rfl⟩
    have free : (afterResolve inventory (resolution windows cached result).2).checks = none := by
      unfold afterResolve
      split <;> rfl
    obtain ⟨turn, busy, absent⟩ := CacheState.finishResolve_turn sound key
      (resolution windows cached result).1 (resolution windows cached result).2
    refine .ended caller _ key cached inventory result _ _ _ rfl checking rfl free
      (.resolved key rfl _ rests) turn busy (fun other drops _ => ?_) nofun
    have dropped : ∀ told, (CacheReply.resolved key told).drops = some other →
        CacheState.stored key told = none ∧ key = other := by
      intro told drops
      cases told with
      | error code => exact ⟨rfl, Option.some.inj drops⟩
      | ok active => exact nomatch drops
    obtain ⟨failed, same⟩ := dropped _ drops
    exact same ▸ absent failed
  | enableAndPrime key =>
    obtain ⟨turn, busy⟩ := CacheState.finishEnable_turn sound key result
    exact .ended caller _ key cached inventory result _ _ _ rfl checking rfl rfl
      (.enabled key rfl) turn busy nofun nofun
  | disable key =>
    exact .ended caller _ key cached inventory result _ _ _ rfl checking rfl rfl
      (.disabled key rfl _) (CacheState.release_turn sound key _ _) rfl
      (fun _ _ other => absurd rfl other) fun _ => rfl
  | invalidateExact key => exact .same _ fun _ _ _ => ⟨nofun, nofun, nofun⟩
  | invalidateAll => exact .same _ fun _ _ _ => ⟨nofun, nofun, nofun⟩

theorem step_changes (windows : Bool) (event : CacheEvent κ) :
    Change system event (system.step windows event).1 (system.step windows event).2 := by
  have ignored : Change system event .ignored system :=
    .same _ fun _ _ _ => ⟨nofun, nofun, nofun⟩
  cases event with
  | calls caller call =>
    unfold step
    dsimp only
    split
    · rename_i idle
      exact moved_alone sound caller _ _ (fun _ _ _ => ⟨nofun, nofun, nofun⟩)
        (by rw [idle]; rfl) rfl
    · exact ignored
  | inventories caller discovered =>
    unfold step
    dsimp only
    split
    · rename_i idle
      cases discovered with
      | error code => exact .same _ fun _ _ _ => ⟨nofun, nofun, nofun⟩
      | ok candidates =>
        exact moved_alone sound caller _ _ (fun _ _ _ => ⟨nofun, nofun, nofun⟩)
          (by rw [idle]; rfl) rfl
    · exact ignored
  | inspects caller verdict =>
    unfold step
    dsimp only
    split
    all_goals first
      | exact ignored
      | rename_i listing _
        exact moved_alone sound caller _ _ (fun _ _ _ => ⟨nofun, nofun, nofun⟩)
          (by rw [listing]; rfl) rfl
      | rename_i listing
        exact moved_alone sound caller _ _ (fun _ _ _ => ⟨nofun, nofun, nofun⟩)
          (by rw [listing]; rfl) rfl
  | enters caller =>
    unfold step
    dsimp only
    split
    · rename_i call inventory entering
      exact enter_changes sound caller call inventory entering
    · exact ignored
  | finishes caller result =>
    unfold step
    dsimp only
    split
    · rename_i call cached inventory checking
      exact finish_changes sound caller call cached inventory result checking
    · exact ignored

omit sound

omit [LinearOrder κ] in
theorem checks_checking (call : CacheCall κ) (cached : Option ActiveLease)
    (inventory : Option (List κ)) :
    (CachePhase.checking call cached inventory).checks = call.locks := rfl

/-- What holds between the sections: the accounts hold, the markers are those of the lifecycle calls
in flight, at most one for each package, and a package that is being disabled is not cached. -/
structure Sound (system : CacheSystem κ) : Prop where
  cache : system.cache.Sound
  marked : ∀ key, key ∈ system.cache.busy ↔ ∃ caller, (system.callers caller).checks = some key
  alone : ∀ first second key, (system.callers first).checks = some key →
    (system.callers second).checks = some key → first = second
  gone : ∀ caller key cached inventory,
    system.callers caller = .checking (.disable key) cached inventory →
      system.cache.entries.lookup key = none

theorem sound_new : (new : CacheSystem κ).Sound where
  cache := ⟨⟨rfl, nofun, (by decide : 0 < 2 ^ 64)⟩, Nat.zero_le _,
    .inl (Nat.zero_le _)⟩
  marked key := by
    constructor
    · intro marked
      exact absurd marked (Finset.notMem_empty key)
    · exact fun checking => nomatch checking.choose_spec
  alone _ _ _ checking := nomatch checking
  gone _ _ _ _ checking := nomatch checking

theorem checks_advance (system : CacheSystem κ) (caller : Nat) (cache : CacheState κ)
    (phase : CachePhase κ) (other : Nat) :
    ((system.advance caller cache phase).callers other).checks =
      if other = caller then phase.checks else (system.callers other).checks := by
  show (Function.update system.callers caller phase other).checks = _
  by_cases same : other = caller
  · rw [same, Function.update_self, if_pos rfl]
  · rw [Function.update_of_ne same, if_neg same]

variable {cached : Option ActiveLease} {inventory : Option (List κ)}

/-- A caller in a lifecycle call after an event was in it before or begins it. -/
theorem checking_advance {caller other : Nat} {cache : CacheState κ} {phase : CachePhase κ}
    {call : CacheCall κ} (checking : (system.advance caller cache phase).callers other =
      .checking call cached inventory) :
    (other = caller ∧ phase = .checking call cached inventory) ∨
      (other ≠ caller ∧ system.callers other = .checking call cached inventory) := by
  have there : Function.update system.callers caller phase other =
    .checking call cached inventory := checking
  by_cases same : other = caller
  · rw [same, Function.update_self] at there
    exact .inl ⟨same, there⟩
  · rw [Function.update_of_ne same] at there
    exact .inr ⟨same, there⟩

variable {after : CacheSystem κ} {reply : CacheReply κ}

/-- Every event keeps what holds between the sections. -/
theorem Sound.changed (sound : system.Sound)
    (change : Change system event reply after) : after.Sound := by
  have stays : ∀ {cache : CacheState κ} {stored used : Option κ} {key : κ},
      CacheState.Turn system.cache cache stored used → stored ≠ some key →
        system.cache.entries.lookup key = none → cache.entries.lookup key = none := by
    intro cache stored used key turn other absent
    by_contra there
    rcases turn.appears key there with before | same
    · exact before absent
    · exact other same
  cases change with
  | same reply silent => exact sound
  | moved caller phase reply cache silent outside free turn busy =>
    have checks : ∀ other, ((system.advance caller cache phase).callers other).checks =
        (system.callers other).checks := by
      intro other
      rw [checks_advance]
      by_cases same : other = caller
      · rw [if_pos same, free, same, outside]
      · rw [if_neg same]
    refine ⟨turn.sound, fun key => ?_, fun first second key => ?_,
      fun other key cached inventory checking => ?_⟩
    · simp only [checks]
      exact busy ▸ sound.marked key
    · rw [checks, checks]
      exact sound.alone first second key
    · rcases checking_advance checking with now | before
      · rw [now.2] at free
        exact nomatch free
      · exact stays turn nofun (sound.gone other key cached inventory before.2)
  | begun caller call key cached inventory cache used enters outside locks free looks turn busy
      absent =>
    have holder : ∀ other, (system.callers other).checks ≠ some key :=
      fun other checking => free ((sound.marked key).mpr ⟨other, checking⟩)
    refine ⟨turn.sound, fun checked => ?_, fun first second checked => ?_,
      fun other disabled _ _ checking => ?_⟩
    · show checked ∈ cache.busy ↔ _
      rw [busy, Finset.mem_union, Finset.mem_singleton, sound.marked]
      simp only [checks_advance, checks_checking, locks]
      constructor
      · intro either
        rcases either with same | before
        · exact ⟨caller, by rw [if_pos rfl, same]⟩
        · obtain ⟨other, checking⟩ := before
          refine ⟨other, ?_⟩
          have apart : other ≠ caller := by
            intro same
            rw [same, outside] at checking
            exact nomatch checking
          rw [if_neg apart, checking]
      · intro now
        obtain ⟨other, checking⟩ := now
        by_cases same : other = caller
        · rw [if_pos same] at checking
          exact .inl (Option.some.inj checking).symm
        · rw [if_neg same] at checking
          exact .inr ⟨other, checking⟩
    · simp only [checks_advance, checks_checking, locks]
      by_cases one : first = caller <;> by_cases two : second = caller
      · exact fun _ _ => one.trans two.symm
      · rw [if_pos one, if_neg two]
        exact fun same other => absurd (other.trans same.symm) (holder second)
      · rw [if_neg one, if_pos two]
        exact fun other same => absurd (other.trans same.symm) (holder first)
      · rw [if_neg one, if_neg two]
        exact sound.alone first second checked
    · rcases checking_advance checking with now | before
      · cases now.2
        cases locks
        exact absent rfl
      · exact stays turn nofun (sound.gone other disabled _ _ before.2)
  | ended caller call key cached inventory result phase reply cache finishes checking locks free
      told turn busy absent kept =>
    have held : (system.callers caller).checks = some key := by
      rw [checking]
      exact locks
    refine ⟨turn.sound, fun checked => ?_, fun first second checked => ?_,
      fun other disabled _ _ disabling => ?_⟩
    · show checked ∈ cache.busy ↔ _
      rw [busy, Finset.mem_erase, sound.marked]
      simp only [checks_advance, free]
      constructor
      · intro both
        obtain ⟨apart, other, checking⟩ := both
        refine ⟨other, ?_⟩
        have elsewhere : other ≠ caller := by
          intro same
          rw [same, held] at checking
          exact apart (Option.some.inj checking).symm
        rw [if_neg elsewhere, checking]
      · intro now
        obtain ⟨other, checking⟩ := now
        by_cases same : other = caller
        · rw [if_pos same] at checking
          exact nomatch checking
        · rw [if_neg same] at checking
          refine ⟨fun equal => same ?_, other, checking⟩
          exact sound.alone other caller key (equal ▸ checking) held
    · simp only [checks_advance, free]
      by_cases one : first = caller
      · rw [if_pos one]
        exact nofun
      · by_cases two : second = caller
        · rw [if_pos two]
          exact fun _ => nofun
        · rw [if_neg one, if_neg two]
          exact sound.alone first second checked
    · rcases checking_advance disabling with now | before
      · rw [now.2] at free
        exact nomatch free
      · refine stays turn ?_ (sound.gone other disabled _ _ before.2)
        intro stored
        have same : disabled = key := by
          cases told with
          | resolved other same told rests =>
            cases same
            cases locks
            cases told with
            | error code => exact nomatch stored
            | ok active => exact (Option.some.inj stored).symm
          | enabled other same =>
            cases same
            cases locks
            cases result with
            | error code => exact nomatch stored
            | ok active => exact (Option.some.inj stored).symm
          | disabled other same succeeded => exact nomatch stored
        have checks : (system.callers other).checks = some key := by
          rw [before.2, same]
          rfl
        exact before.1 (sound.alone other caller key checks held)

/-- A caller in a lifecycle call was in it before the event, or the event begins the call. -/
theorem checking_changed
    (change : Change system event reply after) {caller : Nat} {call : CacheCall κ}
    (checking : after.callers caller = .checking call cached inventory)
    (locks : call.locks ≠ none) :
    system.callers caller = .checking call cached inventory ∨ event = .enters caller := by
  cases change with
  | same reply silent => exact .inl checking
  | moved other phase reply cache silent outside free turn busy =>
    rcases checking_advance checking with now | before
    · rw [now.2] at free
      exact absurd free locks
    · exact .inl before.2
  | begun other call key cached inventory cache used enters outside locked free looks turn busy
      absent =>
    rcases checking_advance checking with now | before
    · exact .inr (now.1 ▸ enters)
    · exact .inl before.2
  | ended other call key cached inventory result phase reply cache finishes checked locked free told
      turn busy absent kept =>
    rcases checking_advance checking with now | before
    · rw [now.2] at free
      exact absurd free locks
    · exact .inl before.2

theorem run_sound (windows : Bool) (events : List (CacheEvent κ)) :
    (Run.final (step windows) new events).Sound ∧
      ∀ made ∈ Run.steps (step windows) new events, made.before.Sound ∧ made.after.Sound :=
  Run.invariant_always Sound
    (fun _ event sound => sound.changed (step_changes sound.cache windows event)) events new
    sound_new

/-- A caller in a lifecycle call has been in it since the section that began it. -/
theorem checked_since (windows : Bool) (events : List (CacheEvent κ)) (caller : Nat)
    (call : CacheCall κ) (cached : Option ActiveLease) (inventory : Option (List κ))
    (locks : call.locks ≠ none) (checking : (Run.final (step windows) new events).callers caller =
      .checking call cached inventory) :
    ∃ front begin middle, Run.steps (step windows) new events = front ++ begin :: middle ∧
      begin.input = .enters caller ∧ ∀ made ∈ begin :: middle,
        made.after.callers caller = .checking call cached inventory := by
  induction events using List.reverseRecOn with
  | nil => exact nomatch checking
  | append_singleton events event ih =>
    rw [Run.final_append] at checking
    rw [Run.steps_append]
    have change := step_changes (run_sound windows events).1.cache windows event
    rcases checking_changed change checking locks with before | enters
    · obtain ⟨front, begin, middle, steps, input, since⟩ := ih before
      refine ⟨front, begin, middle ++ [_], by rw [steps, List.append_assoc]; rfl, input, ?_⟩
      intro step member
      rw [← List.cons_append, List.mem_append, List.mem_singleton] at member
      rcases member with early | last
      · exact since step early
      · rw [last]
        exact checking
    · refine ⟨_, _, [], rfl, enters, fun step member => ?_⟩
      rw [List.mem_singleton.mp member]
      exact checking

abbrev CacheStep (κ : Type) [LinearOrder κ] : Type :=
  Run.Step (CacheSystem κ) (CacheEvent κ) (CacheReply κ)

/-- The section in which a caller looks a package up. -/
def LooksUp (step : CacheStep κ) (key : κ) : Prop :=
  ∃ caller cached inventory, step.input = .enters caller ∧
    (step.before.callers caller).checks = none ∧
    step.after.callers caller = .checking (.resolveActive key) cached inventory

structure Coherent (steps : List (CacheStep κ)) : Prop where
  sound : ∀ step ∈ steps, step.before.Sound ∧ step.after.Sound
  /-- A resolved package rests on a lifecycle call of that package, which succeeded in the call. -/
  rests : ∀ earlier step later key active, steps = earlier ++ step :: later →
    step.output = .resolved key (.ok active) →
      ∃ caller checked cached inventory, step.input = .finishes caller (.ok checked) ∧
        step.before.callers caller = .checking (.resolveActive key) cached inventory ∧
        (active = checked ∨ cached = some active) ∧
        ∃ front begin middle, earlier = front ++ begin :: middle ∧ begin.input = .enters caller ∧
          ∀ between ∈ begin :: middle,
            between.after.callers caller = .checking (.resolveActive key) cached inventory
  /-- After a failure or a disabling a package is cached again only when a call stores it. -/
  dropped : ∀ earlier step later key, steps = earlier ++ step :: later →
    step.output.drops = some key →
      step.after.cache.entries.lookup key = none ∧
        ∀ middle last rest, later = middle ++ last :: rest →
          last.after.cache.entries.lookup key ≠ none →
            ∃ storing ∈ middle ++ [last], storing.output.stores = some key
  /-- What a stored package displaces was used no later than what stays. -/
  evicts : ∀ step ∈ steps, ∀ key, step.output.stores = some key →
    ∀ gone ∈ step.before.cache.entries.entries, gone.1 ≠ key →
      gone ∉ step.after.cache.entries.entries →
        ∀ left ∈ step.after.cache.entries.entries, left.1 ≠ key →
          gone.2.lastUsed ≤ left.2.lastUsed
  /-- An entry that appears or is looked up is from then on the last used. -/
  uses : ∀ step ∈ steps, ∀ key,
    LooksUp step key ∨ step.before.cache.entries.lookup key = none →
      ∀ entry ∈ step.after.cache.entries.entries, entry.1 = key →
        ∀ other ∈ step.after.cache.entries.entries, other.1 ≠ key →
          other.2.lastUsed ≤ entry.2.lastUsed ∧
            (step.before.cache.recency + 1 < 2 ^ 64 → other.2.lastUsed < entry.2.lastUsed)

theorem turn_of_change (sound : system.Sound) (change : Change system event reply after) :
    ∃ used, CacheState.Turn system.cache after.cache reply.stores used ∧
      ∀ key, LooksUp ⟨system, event, reply, after⟩ key → used = some key := by
  have silence : ∀ reply : CacheReply κ, reply.Silent → reply.stores = none := by
    intro reply silent
    cases reply with
    | resolved key result => exact absurd rfl (silent key result true).1
    | enabled key result => exact absurd rfl (silent key result true).2.1
    | _ => rfl
  have none : ∀ {cached : Option ActiveLease} {inventory : Option (List κ)} {caller : Nat}
      {key : κ}, system.callers caller = .checking (.resolveActive key) cached inventory →
        (system.callers caller).checks ≠ .none := by
    intro cached inventory caller key checking
    rw [checking]
    exact nofun
  cases change with
  | same reply silent =>
    refine ⟨.none, ?_, fun key looks => ?_⟩
    · rw [silence reply silent]
      exact CacheState.turn_of_fewer sound.cache fun _ there => there
    · obtain ⟨caller, cached, inventory, _, outside, checking⟩ := looks
      exact absurd outside (none checking)
  | moved caller phase reply cache silent outside free turn busy =>
    refine ⟨.none, ?_, fun key looks => ?_⟩
    · rw [silence reply silent]
      exact turn
    · obtain ⟨other, cached, inventory, _, unchecked, checking⟩ := looks
      rcases checking_advance checking with now | before
      · rw [now.2] at free
        exact nomatch free
      · exact absurd unchecked (none before.2)
  | begun caller call key cached inventory cache used enters outside locked free looks turn busy
      absent =>
    refine ⟨used, turn, fun other looked => ?_⟩
    obtain ⟨third, again, listed, _, unchecked, checking⟩ := looked
    rcases checking_advance checking with now | before
    · cases now.2
      cases locked
      exact looks rfl
    · exact absurd unchecked (none before.2)
  | ended caller call key cached inventory result phase reply cache finishes checking locked free
      told turn busy absent kept =>
    refine ⟨.none, turn, fun other looked => ?_⟩
    obtain ⟨third, again, listed, enters, _⟩ := looked
    exact nomatch finishes.symm.trans enters

theorem dropped_of_change (sound : system.Sound)
    (change : Change system event reply after) (key : κ) (drops : reply.drops = some key) :
    after.cache.entries.lookup key = none := by
  have silence : ∀ reply : CacheReply κ, reply.Silent → reply.drops = none := by
    intro reply silent
    cases reply with
    | resolved key result => exact absurd rfl (silent key result true).1
    | disabled key succeeded => exact absurd rfl (silent key (.error .io) succeeded).2.2
    | _ => rfl
  cases change with
  | same reply silent => exact nomatch (silence reply silent).symm.trans drops
  | moved caller phase reply cache silent outside free turn busy =>
    exact nomatch (silence reply silent).symm.trans drops
  | begun caller call other cached inventory cache used enters outside locked free looks turn busy
      absent => exact nomatch drops
  | ended caller call other cached inventory result phase reply cache finishes checking locked free
      told turn busy absent kept =>
    by_cases disabling : call = .disable other
    · have same : key = other := by
        rw [disabling] at told
        cases told with
        | resolved third same told rests => exact nomatch same
        | enabled third same => exact nomatch same
        | disabled third same succeeded =>
          cases same
          exact (Option.some.inj drops).symm
      show cache.entries.lookup key = none
      rw [kept disabling, same]
      rw [disabling] at checking
      exact sound.gone caller other cached inventory checking
    · exact absent key drops disabling

/-- A resolved package rests on the lifecycle call of its caller. -/
theorem rests_of_change {key : κ} {active : ActiveLease}
    (change : Change system event (.resolved key (.ok active)) after) :
    ∃ caller checked cached inventory, event = .finishes caller (.ok checked) ∧
      system.callers caller = .checking (.resolveActive key) cached inventory ∧
      (active = checked ∨ cached = some active) := by
  cases change with
  | same _ silent => exact absurd rfl (silent key (.ok active) true).1
  | moved caller phase _ cache silent outside free turn busy =>
    exact absurd rfl (silent key (.ok active) true).1
  | ended caller call other cached inventory result phase _ cache finishes checking locked free told
      turn busy absent kept =>
    cases told with
    | resolved _ same _ rests =>
      obtain ⟨checked, succeeded, either⟩ := rests active rfl
      rw [succeeded] at finishes
      rw [same] at checking
      exact ⟨caller, checked, cached, inventory, finishes, checking, either⟩

/-- A package that is not cached is cached later only when a call stores it. -/
theorem stored_between (windows : Bool) (key : κ) (start : CacheSystem κ) (sound : start.Sound)
    (absent : start.cache.entries.lookup key = none) (events : List (CacheEvent κ))
    (cached : (Run.final (step windows) start events).cache.entries.lookup key ≠ none) :
    ∃ storing ∈ Run.steps (step windows) start events, storing.output.stores = some key := by
  by_contra never
  have kept := Run.invariant_under
    (fun made => made.output.stores ≠ some key)
    (fun system => system.Sound ∧ system.cache.entries.lookup key = none)
    (by
      intro before event held (other : (step windows before event).1.stores ≠ some key)
      have change := step_changes held.1.cache windows event
      obtain ⟨used, turn, _⟩ := turn_of_change held.1 change
      refine ⟨held.1.changed change, ?_⟩
      by_contra there
      rcases turn.appears key there with early | same
      · exact early held.2
      · exact other same)
    events start ⟨sound, absent⟩ fun made member stores => never ⟨made, member, stores⟩
  exact cached kept.1.2

/-- For every interleaving of calls, with any results of the lifecycle calls, the cache and what its
callers are told are coherent. -/
theorem cache_coherent (windows : Bool) (events : List (CacheEvent κ)) :
    Coherent (Run.steps (step windows) new events) := by
  have sound := (run_sound (κ := κ) windows events).2
  have changes : ∀ made ∈ Run.steps (step windows) new events,
      Change made.before made.input made.output made.after := by
    intro made member
    rw [Run.step_eq new events made member]
    exact step_changes (sound made member).1.cache windows made.input
  refine ⟨sound, ?_, ?_, ?_, ?_⟩
  · intro earlier made later key active split told
    have change := changes made (split ▸ List.mem_append_right _ List.mem_cons_self)
    rw [told] at change
    obtain ⟨caller, checked, cached, inventory, finishes, checking, either⟩ :=
      rests_of_change change
    obtain ⟨inputs, input, _, _, early, here, _⟩ := Run.steps_from split
    refine ⟨caller, checked, cached, inventory, finishes, checking, either, ?_⟩
    rw [here] at checking
    rw [early]
    exact checked_since windows inputs caller _ cached inventory nofun checking
  · intro earlier made later key split drops
    have member : made ∈ Run.steps (step windows) new events :=
      split ▸ List.mem_append_right _ List.mem_cons_self
    have absent := dropped_of_change (sound made member).1 (changes made member) key drops
    refine ⟨absent, fun middle last rest follows cached => ?_⟩
    obtain ⟨_, _, others, _, _, _, onwards⟩ := Run.steps_from split
    obtain ⟨inputs, input, _, _, between, final, _⟩ := Run.steps_from (onwards.symm.trans follows)
    have steps : Run.steps (step windows) made.after (inputs ++ [input]) = middle ++ [last] := by
      rw [Run.steps_append, between, final]
      rfl
    rw [← steps]
    refine stored_between windows key made.after (sound made member).2 absent _ ?_
    rw [Run.final_append]
    rw [final] at cached
    exact cached
  · intro made member key stores
    obtain ⟨used, turn, _⟩ := turn_of_change (sound made member).1 (changes made member)
    exact turn.earlier key stores
  · intro made member key either
    obtain ⟨used, turn, looks⟩ := turn_of_change (sound made member).1 (changes made member)
    exact turn.last key (either.imp (looks key) id)

end CacheSystem

end LatentDeck.Packages
