import TableIntake.Proofs.Stream.Course

/-! # Remaining rows

The rows that a reader can still get of a stream become no more, whatever happens, and one less with
each row that it gets.
-/

namespace TableIntake

open Handoff

namespace Handoff

def held (handoff : Handoff) : Nat :=
  handoff.slot.elim 0 (fun _ => 1)

theorem held_of_free {handoff : Handoff} (free : handoff.slot = none) : handoff.held = 0 := by
  rw [held, free, Option.elim_none]

theorem held_le_one (handoff : Handoff) : handoff.held ≤ 1 := by
  unfold held
  cases handoff.slot <;> simp

theorem taken_of_fetch {before after : Handoff} {row : Row}
    (fetches : before.fetch? = some (.ok (.row row), after)) :
    before.slot = some row ∧ after = { before with slot := none } := by
  unfold fetch? at fetches
  split at fetches
  case h_2 occupied _ =>
    cases fetches
    exact ⟨occupied, rfl⟩
  all_goals cases fetches

theorem fetch_row {before after : Handoff} {row : Row}
    (fetches : before.fetch? = some (.ok (.row row), after)) :
    before.held = 1 ∧ after.held = 0 := by
  rcases taken_of_fetch fetches with ⟨occupied, rfl⟩
  exact ⟨by rw [held, occupied, Option.elim_some], rfl⟩

theorem Change.held_le {before after : Handoff} {event : Event}
    (change : Change before event after) (idle : event.accepted = []) :
    after.held ≤ before.held := by
  cases change with
  | nothing | resolved | stopped => exact Nat.le_refl _
  | filled _ _ _ cells => simp [Event.accepted, cells] at idle
  | cleared | emptied => exact Nat.zero_le _
  | cancelled | expired =>
      rw [held_of_free (cancel_slot before)]
      exact Nat.zero_le _

end Handoff

namespace Producer

/-- The rows that a reader can still get, at most. -/
def due (producer : Producer) (handoff : Handoff) : Nat :=
  handoff.held + producer.remaining

variable {producer next : Producer} {before after : Handoff}

theorem remaining_cons (step : ParserStep) (rest : List ParserStep) :
    (running (step :: rest)).remaining = step.rows + (running rest).remaining :=
  rfl

theorem remaining_of_left (left : producer.isRunning = false) : producer.remaining = 0 := by
  cases producer with
  | running => contradiction
  | settled | gone => rfl

theorem next_cases {step : ParserStep} {rest : List ParserStep}
    (steps : (running (step :: rest)).step? before = some (next, after)) :
    next.isRunning = false ∨ next = .running rest ∨
      ∃ number, number < ParserStep.countEnd ∧ step = .count number ∧
        next = .running (.count (number + 1) :: rest) := by
  have resumes {rest : List ParserStep} {replied : Reply × Handoff}
      (equal : resume rest replied = (next, after)) :
      next.isRunning = false ∨ next = .running rest := by
    rcases replied with ⟨reply, handoff⟩
    cases reply <;> cases equal
    · exact .inr rfl
    · exact .inl rfl
  cases step with
  | metadata header =>
      rcases resumes (Option.some.inj steps) with left | goesOn
      · exact .inl left
      · exact .inr (.inl goesOn)
  | row row =>
      rcases Option.map_eq_some_iff.mp steps with ⟨_, _, equal⟩
      rcases resumes equal with left | goesOn
      · exact .inl left
      · exact .inr (.inl goesOn)
  | tryRow row =>
      rcases Option.map_eq_some_iff.mp steps with ⟨_, _, equal⟩
      cases equal
      exact .inr (.inl rfl)
  | tryMetadata | endRows =>
      cases steps
      exact .inr (.inl rfl)
  | fail | leave | crash =>
      cases steps
      exact .inl rfl
  | checkpoint =>
      simp only [step?] at steps
      split at steps <;> cases steps
      · exact .inl rfl
      · exact .inr (.inl rfl)
  | awaitCancel =>
      simp only [step?] at steps
      split at steps <;> cases steps
      exact .inl rfl
  | count number =>
      simp only [step?] at steps
      split at steps
      next below =>
        rcases Option.map_eq_some_iff.mp steps with ⟨_, _, equal⟩
        rcases resumes equal with left | goesOn
        · exact .inl left
        · exact .inr (.inr ⟨number, below, rfl, goesOn⟩)
      · cases steps
        exact .inr (.inl rfl)

theorem remaining_step (steps : producer.step? before = some (next, after)) :
    next.remaining ≤ producer.remaining := by
  cases producer with
  | gone => contradiction
  | settled =>
      cases steps
      exact Nat.le_refl _
  | running remaining =>
      cases remaining with
      | nil =>
          cases steps
          exact Nat.le_refl _
      | cons step rest =>
          rw [remaining_cons]
          rcases next_cases steps with left | rfl | ⟨number, below, rfl, rfl⟩
          · rw [remaining_of_left left]
            exact Nat.zero_le _
          · exact Nat.le_add_left _ _
          · rw [remaining_cons, ParserStep.rows, ParserStep.rows]
            omega

theorem rows_pos {step : ParserStep} {rest : List ParserStep} {row : Row}
    (offers : (running (step :: rest)).call? before = some (.acceptRow row)) : 0 < step.rows := by
  cases step with
  | row | tryRow => exact Nat.one_pos
  | count number =>
      simp only [call?] at offers
      split at offers
      next below => exact Nat.sub_pos_of_lt below
      · contradiction
  | fail fault =>
      simp only [call?] at offers
      split at offers <;> cases offers
  | _ => cases offers

theorem remaining_offer {row : Row} (offers : producer.call? before = some (.acceptRow row))
    (steps : producer.step? before = some (next, after)) :
    next.remaining < producer.remaining := by
  cases producer with
  | gone | settled => cases offers
  | running remaining =>
      cases remaining with
      | nil => cases offers
      | cons step rest =>
          have counted := rows_pos offers
          rw [remaining_cons]
          rcases next_cases steps with left | rfl | ⟨number, below, rfl, rfl⟩
          · rw [remaining_of_left left]
            exact Nat.lt_of_lt_of_le counted (Nat.le_add_right _ _)
          · exact Nat.lt_add_of_pos_left counted
          · rw [remaining_cons, ParserStep.rows, ParserStep.rows]
            omega

theorem due_step (steps : producer.step? before = some (next, after)) :
    next.due after ≤ producer.due before := by
  have fewer := remaining_step steps
  cases took steps with
  | silent => exact Nat.add_le_add_left fewer _
  | @called call answer _ calls passes _ =>
      have change := (Move.passed passes).change
      cases call with
      | acceptRow row =>
          have offered := remaining_offer calls steps
          have short := after.held_le_one
          unfold due
          omega
      | _ => exact Nat.add_le_add (change.held_le rfl) fewer

theorem due_stable (most : Nat) : Stable fun producer handoff => producer.due handoff ≤ most where
  step within steps := Nat.le_trans (due_step steps) within
  take := by
    intro producer before after answer within fetches
    have kept : after.held ≤ before.held := (fetch_change fetches).held_le rfl
    exact Nat.le_trans (Nat.add_le_add_right kept _) within
  stop := by
    intro producer handoff within
    have kept : handoff.cancel.held ≤ handoff.held := Change.cancelled.held_le rfl
    exact Nat.le_trans (Nat.add_le_add_right kept _) within

end Producer

end TableIntake
