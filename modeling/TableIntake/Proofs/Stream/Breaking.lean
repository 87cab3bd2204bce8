import TableIntake.Proofs.Stream.Course

/-! # Parsers that break off

A parser that leaves with a fault or in a panic fails its stream, and a stream that has to fail
never comes to a normal end. But a parser that says that it was told to stop is not at fault,
whether anybody has told it or not.
-/

namespace TableIntake

open Handoff

namespace Producer

variable {producer next last : Producer} {before met after : Handoff}
  {calls : List Session.Call} {events : List Event}

/-- The parser leaves as if it were told to stop, and its stream goes on. -/
structure StopsUntold (producer : Producer) (handoff : Handoff) : Prop where
  aborts : ∃ rest, producer = .running (.fail .aborted :: rest)
  streaming : handoff.phase = .streaming

theorem acceptRow_aborted {row : Row} (accepts : before.acceptRow? row = some (.aborted, after))
    (lasts : before.phase ≠ .cancelled) (goesOn : before.phase ≠ .ended) :
    ∃ fault, after.phase = .failed fault := by
  unfold acceptRow? at accepts
  split at accepts
  case h_1 =>
    split at accepts
    · contradiction
    · split at accepts
      · cases accepts
        exact ⟨prematureRow, rfl⟩
      · split at accepts <;> cases accepts
  case h_2 ended => exact absurd ended goesOn
  case h_3 cancelled => exact absurd cancelled lasts
  case h_4 fault failed =>
    cases accepts
    exact ⟨fault, failed⟩

theorem fail_phase (fault : ParseFault) {handoff : Handoff} (lasts : handoff.phase ≠ .cancelled)
    (goesOn : handoff.phase ≠ .ended) : ∃ fault', (handoff.fail fault).phase = .failed fault' := by
  rcases handoff with ⟨metadata, slot, phase⟩
  cases phase with
  | ended => exact absurd rfl goesOn
  | cancelled => exact absurd rfl lasts
  | streaming => exact ⟨fault, rfl⟩
  | failed earlier => exact ⟨earlier, rfl⟩

theorem offer_phase {row : Row} {rest : List ParserStep}
    (steps : (before.acceptRow? row).map (resume rest) = some (next, after))
    (leaves : next.isRunning = false) (lasts : before.phase ≠ .cancelled)
    (goesOn : before.phase ≠ .ended) : ∃ fault, after.phase = .failed fault := by
  -- A parser that is refused a row stops with the stream failed.
  rcases Option.map_eq_some_iff.mp steps with ⟨⟨reply, handoff⟩, accepts, equal⟩
  cases reply with
  | accepted =>
      cases equal
      contradiction
  | aborted =>
      cases equal
      exact acceptRow_aborted accepts lasts goesOn

theorem Departs.phase_failed (departs : producer.Departs before next after)
    (broken : producer.parting ≠ .returned) (lasts : before.phase ≠ .cancelled)
    (goesOn : before.phase ≠ .ended) (told : ¬producer.StopsUntold before) :
    ∃ fault, after.phase = .failed fault := by
  rcases departs with ⟨runs, steps, leaves⟩
  have uncancelled : before.isCancelled = false := by simp [isCancelled, lasts]
  cases producer with
  | settled | gone => contradiction
  | running remaining =>
      cases remaining with
      | nil => exact absurd rfl broken
      | cons step rest =>
          cases step with
          | leave => exact absurd rfl broken
          | row row => exact offer_phase steps leaves lasts goesOn
          | metadata header =>
              simp only [step?, acceptMetadata, uncancelled] at steps
              split at steps
              · contradiction
              · split at steps
                · split at steps <;> cases steps <;> contradiction
                · cases steps
                  contradiction
          | tryMetadata header | endRows =>
              cases steps
              contradiction
          | tryRow row =>
              rcases Option.map_eq_some_iff.mp steps with ⟨_, _, equal⟩
              cases equal
              contradiction
          | checkpoint =>
              simp only [step?, uncancelled] at steps
              cases steps
              contradiction
          | awaitCancel => simp [step?, uncancelled] at steps
          | crash =>
              cases steps
              exact fail_phase parserPanicked lasts goesOn
          | fail fault =>
              cases steps
              unfold report
              cases aborts : fault.isAborted with
              | false =>
                  simp only [uncancelled]
                  exact fail_phase fault lasts goesOn
              | true =>
                  obtain rfl : fault = .aborted := by
                    cases fault <;> first | rfl | contradiction
                  simp only [Bool.true_or, if_true]
                  cases phase : before.phase with
                  | ended => exact absurd phase goesOn
                  | cancelled => exact absurd phase lasts
                  | failed earlier => exact ⟨earlier, rfl⟩
                  | streaming => exact absurd ⟨⟨rest, rfl⟩, phase⟩ told
          | count number =>
              simp only [step?] at steps
              split at steps
              · exact offer_phase steps leaves lasts goesOn
              · cases steps
                contradiction

/-! ## Doom -/

/-- Somebody has cancelled the stream, or it has to fail once its rows are taken. -/
inductive Doomed (producer : Producer) (handoff : Handoff) : Prop
  | cancelled : handoff.phase = .cancelled → Doomed producer handoff
  | fails {calls : List Session.Call} {last : Producer} {met : Handoff} {fault : ParseFault} :
      producer.Advances handoff.emptied calls last met →
      met.phase = .failed fault →
      Doomed producer handoff

namespace Doomed

theorem phase_ne_ended (doomed : producer.Doomed before) : before.phase ≠ .ended := by
  intro ended
  cases doomed with
  | cancelled cancelled => simp [ended] at cancelled
  | fails advances failed =>
      have stays := advances.phase_eq (by simp [ended])
      simp [failed, ended] at stays

theorem of_emptied (doomed : producer.Doomed before) (same : after.emptied = before.emptied) :
    producer.Doomed after := by
  cases doomed with
  | cancelled cancelled => exact .cancelled ((phase_eq_of_emptied same).trans cancelled)
  | fails advances failed =>
      rw [← same] at advances
      exact .fails advances failed

theorem step (doomed : producer.Doomed before)
    (steps : producer.step? before = some (next, after)) : next.Doomed after := by
  cases doomed with
  | cancelled cancelled =>
      have stays := (step_leads steps).phase_eq (by simp [cancelled])
      exact .cancelled (stays.trans cancelled)
  | fails advances failed =>
      rcases step_emptied steps with ⟨later, free, same⟩
      cases advances with
      | nil =>
          have failed : before.phase = .failed _ := failed
          have stays := (step_leads steps).phase_eq (by simp [failed])
          exact .fails (.nil next after.emptied) (stays.trans failed)
      | cons steps' rest =>
          cases free.symm.trans steps'
          rw [same] at rest
          exact .fails rest failed

theorem cancel (doomed : producer.Doomed before) : producer.Doomed before.cancel := by
  by_cases streaming : before.phase = .streaming
  · exact .cancelled (by rw [cancel_phase, if_pos streaming])
  · apply doomed.of_emptied
    simp [Handoff.cancel, isStreaming, streaming, emptied]

theorem stable : Stable Doomed where
  step doomed steps := doomed.step steps
  take doomed fetches := doomed.of_emptied (fetch_emptied fetches)
  stop doomed := doomed.cancel

end Doomed

end Producer

/-! ## Ends -/

namespace Course

def TellsEnd (events : List Event) : Prop :=
  .passed .fetch (.fetched .ended) ∈ events

variable {producer last next : Producer} {before met after : Handoff}
  {calls : List Session.Call} {events : List Event}

theorem not_tellsEnd (course : Course producer before calls events last after)
    (doomed : producer.Doomed before) : ¬TellsEnd events := by
  induction course with
  | nil => exact List.not_mem_nil
  | parse steps _ induction => exact induction (doomed.step steps)
  | meanwhile others move _ induction =>
      intro told
      rcases List.mem_cons.mp told with rfl | later
      · cases move with
        | passed passes =>
            rcases Option.map_eq_some_iff.mp passes with ⟨⟨answer, handoff⟩, fetches, equal⟩
            have ended : answer = .ok .ended := by
              rcases answer with fault | fetched
              · cases equal
              · exact congrArg Except.ok (Session.Answer.fetched.inj (Prod.mk.inj equal).1)
            rw [ended] at fetches
            exact doomed.phase_ne_ended (fetch_ended_iff.mp fetches).1.ended
      · exact induction (Producer.Doomed.stable.move doomed others move) later

theorem doomed (course : Course producer {} calls events last met)
    (uncancelled : ∀ event ∈ events, event.cancels = false) (goesOn : met.phase ≠ .ended)
    (departs : last.Departs met next after) (broken : last.parting ≠ .returned)
    (told : ¬last.StopsUntold met) : producer.Doomed {} := by
  have lasts : met.phase ≠ .cancelled := course.phase_ne_cancelled uncancelled (by simp)
  rcases departs.phase_failed broken lasts goesOn told with ⟨fault, failed⟩
  rcases Producer.step_emptied departs.steps with ⟨later, steps, same⟩
  have advances := (course.advances uncancelled).trans (.single steps)
  exact .fails advances ((Handoff.phase_eq_of_emptied same).trans failed)

theorem toEnd {handoff : Handoff} (ended : handoff.phase = .ended) (producer : Producer) :
    ∃ events final, Course producer handoff [] events producer final ∧
      (∀ event ∈ events, event.cancels = false) ∧ TellsEnd events := by
  have last (handoff : Handoff) (ended : handoff.phase = .ended) (free : handoff.slot = none) :
      Move handoff (.passed .fetch (.fetched .ended)) handoff :=
    .passed (by simp [Session.step?, fetch?, ended, free, Session.ofFetch])
  cases occupied : handoff.slot with
  | none =>
      refine ⟨[_], handoff, .meanwhile rfl (last handoff ended occupied) (.nil _ _), ?_, ?_⟩
      · simp [Event.cancels]
      · exact .head _
  | some row =>
      have fetches := fetch_of_occupied occupied (by simp [ended])
      have taken : Move handoff (.passed .fetch (.fetched (.row row))) handoff.emptied :=
        .passed (by rw [Session.step?, fetches]; rfl)
      refine ⟨[_, _], handoff.emptied,
        .meanwhile rfl taken (.meanwhile rfl (last handoff.emptied ended rfl) (.nil _ _)), ?_, ?_⟩
      · simp [Event.cancels]
      · exact .tail _ (.head _)

theorem ends_of_stopsUntold (course : Course producer before calls events last met)
    (uncancelled : ∀ event ∈ events, event.cancels = false) (stops : last.StopsUntold met) :
    ∃ calls later last final, Course producer before calls later last final ∧
      (∀ event ∈ later, event.cancels = false) ∧ TellsEnd later := by
  rcases stops with ⟨⟨rest, rfl⟩, streaming⟩
  have ended : met.finish.phase = .ended := by simp [finish, isStreaming, streaming]
  rcases toEnd ended .gone with ⟨later, final, reads, calm, told⟩
  have leaves : (Producer.running (.fail .aborted :: rest)).step? met = some (.settled, met) := rfl
  have whole := course.trans (.parse leaves (.parse rfl reads))
  refine ⟨_, _, _, final, whole, ?_, List.mem_append_right _ told⟩
  intro event member
  rcases List.mem_append.mp member with first | second
  · exact uncancelled event first
  · exact calm event second

end Course

end TableIntake
