import Mathlib.Tactic.Common

/-!
# Dialogues

A client asks a peer one question after another and may give up after any answer. A script lists the
stages of a dialogue: what may be asked, given what was accepted before, and which answers are
accepted. A dialogue that follows its script asks the questions of a prefix of the stages, each
after the answer before it was accepted, and succeeds only at the end.
-/

namespace LatentDeck

/-- A client that asks questions and looks at the answers. -/
inductive Dialogue (κ ρ ε α : Type) where
  | done (result : Except ε α)
  | ask (question : κ) (next : ρ → Dialogue κ ρ ε α)

/-- A question with what came back: an answer, or the error of asking. -/
structure Exchange (κ ρ ε : Type) where
  question : κ
  answer : Except ε ρ

def Exchange.answered {κ ρ ε : Type} (pair : κ × ρ) : Exchange κ ρ ε := ⟨pair.1, .ok pair.2⟩

namespace Dialogue

variable {κ ρ ε α β : Type}

/-- One dialogue, then another that depends on its value. -/
def bind : Dialogue κ ρ ε α → (α → Dialogue κ ρ ε β) → Dialogue κ ρ ε β
  | .done (.ok value), rest => rest value
  | .done (.error error), _ => .done (.error error)
  | .ask question next, rest => .ask question fun answer => (next answer).bind rest

instance : Monad (Dialogue κ ρ ε) where
  pure value := .done (.ok value)
  bind := bind

def call (question : κ) : Dialogue κ ρ ε ρ := .ask question fun answer => .done (.ok answer)

def lift (result : Except ε α) : Dialogue κ ρ ε α := .done result

/-- The exchanges of a dialogue with a peer and its result. The peer answers as it likes: its answer
may depend on everything that was exchanged before. -/
def run (peer : List (Exchange κ ρ ε) → κ → Except ε ρ) :
    Dialogue κ ρ ε α → List (Exchange κ ρ ε) → List (Exchange κ ρ ε) × Except ε α
  | .done result, _ => ([], result)
  | .ask question next, history =>
      match peer history question with
      | .error error => ([⟨question, .error error⟩], .error error)
      | .ok answer =>
          let exchange : Exchange κ ρ ε := ⟨question, .ok answer⟩
          let rest := (next answer).run peer (history ++ [exchange])
          (exchange :: rest.1, rest.2)

end Dialogue

/-- What a script expects of every stage and of the end. -/
structure Script (κ ρ α : Type) where
  takes : κ → ρ → Prop
  returns : List (κ × ρ) → α → Prop

/-- What may be asked at a stage, after the exchanges that were accepted before. -/
abbrev Stage (κ ρ : Type) : Type := List (κ × ρ) → κ → Prop

namespace Dialogue

variable {κ ρ ε α : Type} (script : Script κ ρ α)

/-- A dialogue follows a script: it asks what the next stage may ask, goes on only with answers that
the script takes, and succeeds only after the last stage. -/
def Follows : List (Stage κ ρ) → List (κ × ρ) → Dialogue κ ρ ε α → Prop
  | [], past, dialogue => ∃ value, dialogue = .done (.ok value) ∧ script.returns past value
  | stage :: stages, past, dialogue =>
      (∃ error, dialogue = .done (.error error)) ∨
        ∃ question next, dialogue = .ask question next ∧ stage past question ∧
          ∀ answer, (∃ error, next answer = .done (.error error)) ∨
            script.takes question answer ∧
              Follows stages (past ++ [(question, answer)]) (next answer)

/-- A dialogue gives up, or something holds and it follows a script. -/
def Goes (known : Prop) (stages : List (Stage κ ρ)) (past : List (κ × ρ))
    (dialogue : Dialogue κ ρ ε α) : Prop :=
  (∃ error, dialogue = .done (.error error)) ∨ known ∧ dialogue.Follows script stages past

/-- The exchanges of a run and its result are as a script tells. -/
def Conforms : List (Stage κ ρ) → List (κ × ρ) → List (Exchange κ ρ ε) → Except ε α → Prop
  | [], past, log, result => log = [] ∧ ∃ value, result = .ok value ∧ script.returns past value
  | _ :: _, _, [], result => ∃ error, result = .error error
  | stage :: stages, past, exchange :: log, result =>
      stage past exchange.question ∧
        ((log = [] ∧ ∃ error, result = .error error) ∨
          ∃ answer, exchange.answer = .ok answer ∧ script.takes exchange.question answer ∧
            Conforms stages (past ++ [(exchange.question, answer)]) log result)

variable {script} {stages : List (Stage κ ρ)} {past : List (κ × ρ)}

section Steps

variable {known : Prop} {stage : Stage κ ρ} {β : Type}

theorem Goes.lift {result : Except ε β} {rest : β → Dialogue κ ρ ε α}
    (later : ∀ value, result = .ok value → (rest value).Goes script known stages past) :
    (Dialogue.lift result >>= rest).Goes script known stages past := by
  cases result with
  | error error => exact Or.inl ⟨error, rfl⟩
  | ok value => exact later value rfl

theorem Goes.call {question : κ} {rest : ρ → Dialogue κ ρ ε α} (holds : known)
    (allowed : stage past question)
    (later : ∀ answer, (rest answer).Goes script (script.takes question answer) stages
      (past ++ [(question, answer)])) :
    (Dialogue.call question >>= rest).Goes script known (stage :: stages) past :=
  Or.inr ⟨holds, Or.inr ⟨question, rest, rfl, allowed, later⟩⟩

theorem Goes.pure {value : α} (holds : known) (allowed : script.returns past value) :
    (Pure.pure value : Dialogue κ ρ ε α).Goes script known [] past :=
  Or.inr ⟨holds, value, rfl, allowed⟩

theorem Goes.follows {dialogue : Dialogue κ ρ ε α}
    (goes : dialogue.Goes script known (stage :: stages) past) :
    dialogue.Follows script (stage :: stages) past :=
  goes.elim Or.inl And.right

end Steps

/-- Every run of a dialogue that follows a script is as the script tells. -/
theorem Follows.conforms {dialogue : Dialogue κ ρ ε α} (follows : dialogue.Follows script stages past)
    (peer : List (Exchange κ ρ ε) → κ → Except ε ρ) (history : List (Exchange κ ρ ε)) :
    Conforms script stages past (dialogue.run peer history).1 (dialogue.run peer history).2 := by
  induction stages generalizing past dialogue history with
  | nil =>
    obtain ⟨value, same, allowed⟩ := follows
    rw [same]
    exact ⟨rfl, value, rfl, allowed⟩
  | cons stage stages ih =>
    cases follows with
    | inl failed =>
      obtain ⟨error, same⟩ := failed
      rw [same]
      exact ⟨error, rfl⟩
    | inr asked =>
      obtain ⟨question, next, same, allowed, goesOn⟩ := asked
      rw [same, run]
      cases answered : peer history question with
      | error error => exact ⟨allowed, Or.inl ⟨rfl, error, rfl⟩⟩
      | ok answer =>
        refine ⟨allowed, ?_⟩
        cases goesOn answer with
        | inl failed =>
          obtain ⟨error, gaveUp⟩ := failed
          left
          dsimp only
          rw [gaveUp]
          exact ⟨rfl, error, rfl⟩
        | inr taken => exact Or.inr ⟨answer, rfl, taken.1, ih taken.2 _⟩

section Conforming

variable {log : List (Exchange κ ρ ε)} {result : Except ε α}

section

variable (conforms : Conforms script stages past log result)

include conforms

/-- The questions of a run are those of a prefix of the stages, in their order. -/
theorem Conforms.labels_prefix {γ : Type} {label : κ → γ} {labels : List γ}
    (labelled : List.Forall₂
      (fun stage name => ∀ past question, stage past question → label question = name)
      stages labels) :
    log.map (fun exchange => label exchange.question) <+: labels := by
  induction labelled generalizing past log with
  | nil =>
    rw [conforms.1]
    exact List.nil_prefix
  | cons named _ ih =>
    cases log with
    | nil => exact List.nil_prefix
    | cons exchange log =>
      have first := named past exchange.question conforms.1
      rw [List.map_cons, first, List.prefix_cons_inj]
      cases conforms.2 with
      | inl ended =>
        rw [ended.1]
        exact List.nil_prefix
      | inr goesOn =>
        obtain ⟨answer, -, -, later⟩ := goesOn
        exact ih later

/-- Every question of a run is one of a stage, after exchanges of the run. -/
theorem Conforms.asked :
    ∀ exchange ∈ log, ∃ stage ∈ stages, ∃ before : List (κ × ρ), stage before exchange.question ∧
      ∀ pair ∈ before, pair ∈ past ∨ Exchange.answered pair ∈ log := by
  induction stages generalizing past log with
  | nil =>
    rw [conforms.1]
    exact fun exchange within => absurd within List.not_mem_nil
  | cons stage stages ih =>
    cases log with
    | nil => exact fun exchange within => absurd within List.not_mem_nil
    | cons exchange log =>
      rw [List.forall_mem_cons]
      constructor
      · exact ⟨stage, List.mem_cons_self, past, conforms.1, fun pair within => Or.inl within⟩
      · intro other within
        cases conforms.2 with
        | inl ended =>
          rw [ended.1] at within
          exact absurd within List.not_mem_nil
        | inr goesOn =>
          obtain ⟨answer, answered, -, rest⟩ := goesOn
          obtain ⟨later, among, before, allowed, known⟩ := ih rest other within
          have first : Exchange.answered (exchange.question, answer) = exchange := by
            rw [Exchange.answered, ← answered]
          refine ⟨later, List.mem_cons_of_mem _ among, before, allowed, fun pair inside => ?_⟩
          cases known pair inside with
          | inl old =>
            rw [List.mem_append, List.mem_singleton] at old
            cases old with
            | inl older => exact Or.inl older
            | inr same =>
              rw [same, first]
              exact Or.inr List.mem_cons_self
          | inr exchanged => exact Or.inr (List.mem_cons_of_mem _ exchanged)

/-- Nothing is asked after an answer that the script does not take. -/
theorem Conforms.accepted_before :
    ∀ exchange ∈ log.dropLast, ∃ answer, exchange.answer = .ok answer ∧
      script.takes exchange.question answer := by
  induction stages generalizing past log with
  | nil =>
    rw [conforms.1]
    exact fun exchange within => absurd within List.not_mem_nil
  | cons stage stages ih =>
    cases log with
    | nil => exact fun exchange within => absurd within List.not_mem_nil
    | cons exchange log =>
      cases conforms.2 with
      | inl ended =>
        rw [ended.1]
        exact fun other within => absurd within List.not_mem_nil
      | inr goesOn =>
        obtain ⟨answer, answered, taken, later⟩ := goesOn
        cases log with
        | nil => exact fun other within => absurd within List.not_mem_nil
        | cons second log =>
          rw [List.dropLast_cons_cons, List.forall_mem_cons]
          exact ⟨⟨answer, answered, taken⟩, ih later⟩

end

/-- A run that succeeds has passed every stage, and each answer was taken. -/
theorem Conforms.accepted_of_ok {value : α} (conforms : Conforms script stages past log (.ok value)) :
    ∃ pairs : List (κ × ρ), log = pairs.map Exchange.answered ∧
      pairs.length = stages.length ∧ (∀ pair ∈ pairs, script.takes pair.1 pair.2) ∧
      script.returns (past ++ pairs) value := by
  induction stages generalizing past log with
  | nil =>
    obtain ⟨empty, returned, same, allowed⟩ := conforms
    rw [Except.ok.injEq] at same
    refine ⟨[], empty, rfl, fun pair within => absurd within List.not_mem_nil, ?_⟩
    rw [List.append_nil, same]
    exact allowed
  | cons stage stages ih =>
    cases log with
    | nil =>
      obtain ⟨error, same⟩ := conforms
      exact nomatch same
    | cons exchange log =>
      cases conforms.2 with
      | inl ended =>
        obtain ⟨-, error, same⟩ := ended
        exact nomatch same
      | inr goesOn =>
        obtain ⟨answer, answered, taken, later⟩ := goesOn
        obtain ⟨pairs, shape, count, each, allowed⟩ := ih later
        refine ⟨(exchange.question, answer) :: pairs, ?_, congrArg (· + 1) count, ?_, ?_⟩
        · rw [List.map_cons, ← shape, Exchange.answered, ← answered]
        · rw [List.forall_mem_cons]
          exact ⟨taken, each⟩
        · rw [List.append_assoc] at allowed
          exact allowed

end Conforming

end Dialogue

end LatentDeck
