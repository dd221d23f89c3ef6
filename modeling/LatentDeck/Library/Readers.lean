import Mathlib.Tactic.Common

/-!
# Interruptible byte sources

A source hands out its bytes in pieces of its own choosing, may be interrupted and may fail, as a
script of the turns of its reads says. Filling a buffer asks again after a short or interrupted
read, so what it returns from a source that does not fail depends on the bytes of the source alone.
-/

namespace LatentDeck.Readers

variable {ε : Type}

inductive Turn (ε : Type) where
  | interrupted
  | failed (error : ε)
  /-- The read returns at most one byte more than `size`. -/
  | short (size : Nat)

/-- A source: the bytes it has left and the turns its next reads take. -/
structure Source (ε : Type) where
  bytes : List UInt8
  script : List (Turn ε)

inductive Answer (ε : Type) where
  | interrupted
  | failed (error : ε)
  | read (bytes : List UInt8)

def Source.skip (source : Source ε) (size : Nat) (script : List (Turn ε)) : Source ε :=
  ⟨source.bytes.drop size, script⟩

/-- One read of at most `requested` bytes. It returns no byte only at the end of the source, or when
none is requested. -/
def Source.read (source : Source ε) (requested : Nat) : Answer ε × Source ε :=
  match source.script with
  | [] => (.read (source.bytes.take requested), source.skip requested [])
  | .interrupted :: script => (.interrupted, ⟨source.bytes, script⟩)
  | .failed error :: script => (.failed error, ⟨source.bytes, script⟩)
  | .short size :: script =>
    (.read (source.bytes.take (min requested (size + 1))),
      source.skip (min requested (size + 1)) script)

def Source.Quiet (source : Source ε) : Prop := ∀ error, .failed error ∉ source.script

/-- A source has some bytes left, and none of its reads fails. -/
def Source.Left (source : Source ε) (bytes : List UInt8) : Prop :=
  source.bytes = bytes ∧ source.Quiet

/-- A read leaves no more than there was, of bytes and of turns. -/
theorem read_length_le (source : Source ε) (requested : Nat) :
    (source.read requested).2.bytes.length ≤ source.bytes.length ∧
      (source.read requested).2.script.length ≤ source.script.length := by
  unfold Source.read
  split
  · rename_i same
    rw [same]
    exact ⟨by simp [Source.skip], by simp [Source.skip]⟩
  · rename_i same
    rw [same]
    exact ⟨Nat.le_refl _, Nat.le_succ _⟩
  · rename_i same
    rw [same]
    exact ⟨Nat.le_refl _, Nat.le_succ _⟩
  · rename_i same
    rw [same]
    exact ⟨by simp [Source.skip], Nat.le_succ _⟩

variable {requested : Nat} {source : Source ε} {after : Source ε}

theorem read_interrupted (answered : source.read requested = (.interrupted, after)) :
    after.bytes = source.bytes ∧ after.script.length < source.script.length := by
  unfold Source.read at answered
  split at answered
  · exact nomatch answered
  · rename_i same
    cases answered
    rw [same]
    exact ⟨rfl, Nat.lt_succ_self _⟩
  · exact nomatch answered
  · exact nomatch answered

/-- A read that returns a piece leaves what follows it. -/
theorem read_piece {piece : List UInt8} (answered : source.read requested = (.read piece, after)) :
    source.bytes = piece ++ after.bytes ∧ piece.length ≤ requested ∧
      after.script.length ≤ source.script.length := by
  unfold Source.read at answered
  split at answered
  · cases answered
    exact ⟨(List.take_append_drop _ _).symm, List.length_take_le _ _, Nat.zero_le _⟩
  · exact nomatch answered
  · exact nomatch answered
  · rename_i same
    cases answered
    rw [same]
    refine ⟨(List.take_append_drop _ _).symm, ?_, Nat.le_succ _⟩
    exact Nat.le_trans (List.length_take_le _ _) (Nat.min_le_left _ _)

/-- A piece is empty only at the end of a source, or when nothing is requested. -/
theorem read_empty (positive : 0 < requested)
    (answered : source.read requested = (.read [], after)) : source.bytes = [] := by
  unfold Source.read at answered
  split at answered
  · rw [Prod.mk.injEq, Answer.read.injEq, List.take_eq_nil_iff] at answered
    cases answered.1 with
    | inl none => omega
    | inr empty => exact empty
  · exact nomatch answered
  · exact nomatch answered
  · rw [Prod.mk.injEq, Answer.read.injEq, List.take_eq_nil_iff] at answered
    cases answered.1 with
    | inl none => omega
    | inr empty => exact empty

/-- A source that does not fail still does not behind a read. -/
theorem read_quiet (quiet : source.Quiet) (requested : Nat) : (source.read requested).2.Quiet := by
  intro error
  have none := quiet error
  unfold Source.read
  split
  · exact List.not_mem_nil
  · rename_i same
    rw [same] at none
    exact fun member => none (List.mem_cons_of_mem _ member)
  · rename_i same
    rw [same] at none
    exact fun member => none (List.mem_cons_of_mem _ member)
  · rename_i same
    rw [same] at none
    exact fun member => none (List.mem_cons_of_mem _ member)

theorem read_not_failed (quiet : source.Quiet) {error : ε} :
    source.read requested ≠ (.failed error, after) := by
  intro answered
  unfold Source.read at answered
  split at answered
  · exact nomatch answered
  · exact nomatch answered
  · rename_i same
    rw [Prod.mk.injEq, Answer.failed.injEq] at answered
    have none := quiet error
    rw [same, answered.1] at none
    exact none (List.mem_cons_self ..)
  · exact nomatch answered

/-- Reads one byte, and asks again while it is interrupted. No byte is left at the end. -/
def Source.next (source : Source ε) : Except ε (Option UInt8) × Source ε :=
  match _answered : source.read 1 with
  | (.interrupted, after) => after.next
  | (.failed error, after) => (.error error, after)
  | (.read piece, after) => (.ok piece.head?, after)
  termination_by source.script.length
  decreasing_by exact (read_interrupted _answered).2

theorem next_of_interrupted (answered : source.read 1 = (.interrupted, after)) :
    source.next = after.next := by
  rw [Source.next]
  split
  · rename_i same
    rw [answered] at same
    cases same
    rfl
  all_goals
    rename_i same
    rw [answered] at same
    exact nomatch same

theorem next_of_failed {error : ε} (answered : source.read 1 = (.failed error, after)) :
    source.next = (.error error, after) := by
  rw [Source.next]
  split
  case h_2 same =>
    rw [answered] at same
    cases same
    rfl
  all_goals
    rename_i same
    rw [answered] at same
    exact nomatch same

theorem next_of_read {piece : List UInt8} (answered : source.read 1 = (.read piece, after)) :
    source.next = (.ok piece.head?, after) := by
  rw [Source.next]
  split
  case h_3 same =>
    rw [answered] at same
    cases same
    rfl
  all_goals
    rename_i same
    rw [answered] at same
    exact nomatch same

theorem next_length {byte : UInt8} (answered : source.next = (.ok (some byte), after)) :
    after.bytes.length < source.bytes.length := by
  induction source using Source.next.induct with
  | case1 source middle interrupted ih =>
    rw [next_of_interrupted interrupted] at answered
    rw [← (read_interrupted interrupted).1]
    exact ih answered
  | case2 source error middle failed =>
    rw [next_of_failed failed] at answered
    exact nomatch answered
  | case3 source piece middle read =>
    rw [next_of_read read, Prod.mk.injEq, Except.ok.injEq] at answered
    have whole := (read_piece read).1
    cases piece with
    | nil => exact nomatch answered.1
    | cons first others =>
      rw [whole, ← answered.2, List.length_append, List.length_cons]
      omega

theorem quiet_of_read {answer : Answer ε} (quiet : source.Quiet)
    (answered : source.read requested = (answer, after)) : after.Quiet := by
  have kept := read_quiet quiet requested
  rwa [answered] at kept

/-- The next byte of a source that does not fail is its first one, if it has one. -/
theorem next_eq (quiet : source.Quiet) :
    source.next.1 = .ok source.bytes.head? ∧ source.next.2.Left (source.bytes.drop 1) := by
  induction source using Source.next.induct with
  | case1 source middle interrupted ih =>
    have rest := ih (quiet_of_read quiet interrupted)
    rw [(read_interrupted interrupted).1] at rest
    rw [next_of_interrupted interrupted]
    exact rest
  | case2 source error middle failed => exact absurd failed (read_not_failed quiet)
  | case3 source piece middle read =>
    have still := quiet_of_read quiet read
    have whole := read_piece read
    rw [next_of_read read]
    cases piece with
    | nil =>
      have empty := read_empty (by decide) read
      rw [empty] at whole
      have rest : middle.bytes = [] := (List.append_eq_nil_iff.mp whole.1.symm).2
      rw [empty]
      exact ⟨rfl, rest, still⟩
    | cons first others =>
      have single : others = [] := by
        apply List.eq_nil_of_length_eq_zero
        have bound := whole.2.1
        rw [List.length_cons] at bound
        omega
      rw [whole.1, single]
      exact ⟨rfl, rfl, still⟩

inductive FillError (ε : Type) where
  | unexpectedEof
  | failed (error : ε)

/-- Fills a buffer of `count` bytes: it asks for what is missing until nothing is, and again when it
is interrupted. -/
def Source.fill (source : Source ε) (count : Nat) :
    Except (FillError ε) (List UInt8) × Source ε :=
  if _wanted : count = 0 then (.ok [], source)
  else
    match _answered : source.read count with
    | (.interrupted, after) => after.fill count
    | (.failed error, after) => (.error (.failed error), after)
    | (.read [], after) => (.error .unexpectedEof, after)
    | (.read (first :: others), after) =>
      let rest := after.fill (count - (others.length + 1))
      (rest.1.map (first :: others ++ ·), rest.2)
  termination_by count + source.script.length
  decreasing_by
  · have turns := (read_interrupted _answered).2
    omega
  · have turns := (read_piece _answered).2.2
    omega

@[simp]
theorem fill_zero (source : Source ε) : source.fill 0 = (.ok [], source) := by
  rw [Source.fill, dif_pos rfl]

section Rounds

variable {source after : Source ε} {count : Nat} (wanted : count ≠ 0)
include wanted

theorem fill_of_interrupted (answered : source.read count = (.interrupted, after)) :
    source.fill count = after.fill count := by
  rw [Source.fill, dif_neg wanted]
  split
  · rename_i same
    rw [answered] at same
    cases same
    rfl
  all_goals
    rename_i same
    rw [answered] at same
    exact nomatch same

theorem fill_of_failed {error : ε} (answered : source.read count = (.failed error, after)) :
    source.fill count = (.error (.failed error), after) := by
  rw [Source.fill, dif_neg wanted]
  split
  case h_2 same =>
    rw [answered] at same
    cases same
    rfl
  all_goals
    rename_i same
    rw [answered] at same
    exact nomatch same

theorem fill_of_empty (answered : source.read count = (.read [], after)) :
    source.fill count = (.error .unexpectedEof, after) := by
  rw [Source.fill, dif_neg wanted]
  split
  case h_3 same =>
    rw [answered] at same
    cases same
    rfl
  all_goals
    rename_i same
    rw [answered] at same
    exact nomatch same

/-- A read that returns a piece leaves the rest of the buffer. -/
theorem fill_of_piece {first : UInt8} {others : List UInt8}
    (answered : source.read count = (.read (first :: others), after)) :
    source.fill count =
      ((after.fill (count - (others.length + 1))).1.map (first :: others ++ ·),
        (after.fill (count - (others.length + 1))).2) := by
  rw [Source.fill, dif_neg wanted]
  split
  case h_4 same =>
    rw [answered] at same
    cases same
    rfl
  all_goals
    rename_i same
    rw [answered] at same
    exact nomatch same

end Rounds

/-- Filling a buffer leaves no more bytes than there were. -/
theorem fill_length_le (source : Source ε) (count : Nat) :
    (source.fill count).2.bytes.length ≤ source.bytes.length := by
  induction source, count using Source.fill.induct with
  | case1 source =>
    have same : (source.fill 0).2 = source := congrArg Prod.snd (fill_zero source)
    exact Nat.le_of_eq (congrArg (fun after => after.bytes.length) same)
  | case2 source count wanted middle interrupted ih =>
    rw [fill_of_interrupted wanted interrupted, ← (read_interrupted interrupted).1]
    exact ih
  | case3 source count wanted error middle failed =>
    have bound := (read_length_le source count).1
    rw [failed] at bound
    rw [fill_of_failed wanted failed]
    exact bound
  | case4 source count wanted middle ended =>
    have bound := (read_length_le source count).1
    rw [ended] at bound
    rw [fill_of_empty wanted ended]
    exact bound
  | case5 source count wanted first others middle read ih =>
    have bound := (read_length_le source count).1
    rw [read] at bound
    rw [fill_of_piece wanted read]
    exact Nat.le_trans ih bound

/-- A buffer is filled from a source that has the bytes and does not fail. -/
theorem fill_eq_ok (quiet : source.Quiet) (count : Nat) (enough : count ≤ source.bytes.length) :
    (source.fill count).1 = .ok (source.bytes.take count) ∧
      (source.fill count).2.Left (source.bytes.drop count) := by
  induction source, count using Source.fill.induct with
  | case1 source =>
    rw [fill_zero]
    exact ⟨rfl, rfl, quiet⟩
  | case2 source count wanted middle interrupted ih =>
    have same := (read_interrupted interrupted).1
    rw [fill_of_interrupted wanted interrupted, ← same]
    exact ih (quiet_of_read quiet interrupted) (by rwa [same])
  | case3 source count wanted error middle failed => exact absurd failed (read_not_failed quiet)
  | case4 source count wanted middle ended =>
    have empty := read_empty (Nat.pos_of_ne_zero wanted) ended
    rw [empty, List.length_nil] at enough
    omega
  | case5 source count wanted first others middle read ih =>
    have whole := read_piece read
    have length := congrArg List.length whole.1
    rw [List.length_append, List.length_cons] at length
    have rest := ih (quiet_of_read quiet read) (by omega)
    have size := whole.2.1
    rw [List.length_cons] at size
    have split : count = (first :: others).length + (count - (others.length + 1)) := by
      rw [List.length_cons]
      omega
    have taken : source.bytes.take count =
        first :: others ++ middle.bytes.take (count - (others.length + 1)) := by
      rw [whole.1, split, List.take_length_add_append, ← split]
    have dropped : source.bytes.drop count =
        middle.bytes.drop (count - (others.length + 1)) := by
      rw [whole.1, split, List.drop_length_add_append, ← split]
    rw [fill_of_piece wanted read, rest.1, taken, dropped]
    exact ⟨rfl, rest.2⟩

/-- A buffer is not filled from a source that has too few bytes and does not fail. -/
theorem fill_eq_eof (quiet : source.Quiet) (count : Nat) (short : source.bytes.length < count) :
    (source.fill count).1 = .error .unexpectedEof := by
  induction source, count using Source.fill.induct with
  | case1 source => exact absurd short (Nat.not_lt_zero _)
  | case2 source count wanted middle interrupted ih =>
    rw [fill_of_interrupted wanted interrupted]
    apply ih (quiet_of_read quiet interrupted)
    rwa [(read_interrupted interrupted).1]
  | case3 source count wanted error middle failed => exact absurd failed (read_not_failed quiet)
  | case4 source count wanted middle ended => rw [fill_of_empty wanted ended]
  | case5 source count wanted first others middle read ih =>
    have whole := (read_piece read).1
    have length := congrArg List.length whole
    rw [List.length_append, List.length_cons] at length
    rw [fill_of_piece wanted read, ih (quiet_of_read quiet read) (by omega)]
    rfl

end LatentDeck.Readers
