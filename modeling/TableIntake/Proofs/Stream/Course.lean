import TableIntake.Proofs.Stream.Steps

/-! # Courses

What a producer and the others do at a handoff, each step when it goes through. While nobody
cancels, the others only decide when the slot is free. The parser takes no notice of them: it does
what it would do if each of its rows were taken at once.
-/

namespace TableIntake

open Handoff

namespace Handoff

def emptied (handoff : Handoff) : Handoff :=
  { handoff with slot := none }

@[simp] theorem emptied_emptied (handoff : Handoff) : handoff.emptied.emptied = handoff.emptied :=
  rfl

@[simp] theorem emptied_phase (handoff : Handoff) : handoff.emptied.phase = handoff.phase :=
  rfl

theorem emptied_of_free {handoff : Handoff} (free : handoff.slot = none) :
    handoff.emptied = handoff := by
  rcases handoff with ⟨metadata, slot, phase⟩
  cases free
  rfl

theorem phase_eq_of_emptied {left right : Handoff} (same : left.emptied = right.emptied) :
    left.phase = right.phase := by
  rw [← left.emptied_phase, same, right.emptied_phase]

/-! ## What the others do -/

def Event.isOthers : Event → Bool
  | .passed (.acceptMetadata _) _ | .passed (.acceptRow _) _ | .passed .endRows _
  | .passed .finish _ | .passed (.fail _) _ => false
  | .passed .cancel _ | .passed .metadata _ | .passed .fetch _ | .passed .isCancelled _
  | .passed .isTerminal _ | .expired _ _ => true

theorem fetch_emptied {before after : Handoff} {answer : Except ReadFault Fetched}
    (fetches : before.fetch? = some (answer, after)) : after.emptied = before.emptied := by
  unfold fetch? at fetches
  split at fetches
  case h_3 => contradiction
  all_goals
    cases fetches
    rfl

theorem fetch_of_occupied {handoff : Handoff} {row : Row} (occupied : handoff.slot = some row)
    (lasts : handoff.phase ≠ .cancelled) :
    handoff.fetch? = some (.ok (.row row), handoff.emptied) := by
  rcases handoff with ⟨metadata, slot, phase⟩
  cases occupied
  cases phase with
  | cancelled => exact absurd rfl lasts
  | streaming | ended | failed => rfl

theorem Move.emptied {before after : Handoff} {event : Event} (move : Move before event after)
    (others : event.isOthers = true) (uncancelled : event.cancels = false) :
    after.emptied = before.emptied := by
  cases move with
  | expired => contradiction
  | @passed _ call answer passes =>
      cases call with
      | acceptMetadata | acceptRow | endRows | finish | fail | cancel => contradiction
      | fetch =>
          rcases Option.map_eq_some_iff.mp passes with ⟨⟨reply, next⟩, fetches, equal⟩
          cases equal
          exact fetch_emptied fetches
      | metadata =>
          rcases Option.map_eq_some_iff.mp passes with ⟨_, _, equal⟩
          cases equal
          rfl
      | isCancelled | isTerminal =>
          cases passes
          rfl

theorem cancels_of_ne_cancel {call : Session.Call} (different : call ≠ .cancel)
    (answer : Session.Answer) : (Event.passed call answer).cancels = false := by
  cases call with
  | cancel => exact absurd rfl different
  | _ => rfl

theorem Move.phase_ne_cancelled {before after : Handoff} {event : Event}
    (move : Move before event after) (uncancelled : event.cancels = false)
    (lasts : before.phase ≠ .cancelled) : after.phase ≠ .cancelled := by
  cases move.change with
  | stopped _ _ _ _ otherwise => exact otherwise
  | cancelled | expired => contradiction
  | nothing | resolved | cleared | filled | emptied => exact lasts

/-! ## What the producer does -/

theorem acceptMetadata_emptied (header : Header) (handoff : Handoff) :
    handoff.emptied.acceptMetadata header =
      ((handoff.acceptMetadata header).1, (handoff.acceptMetadata header).2.emptied) := by
  rcases handoff with ⟨metadata, slot, phase⟩
  cases metadata with
  | ready | refused => cases phase <;> rfl
  | pending => cases phase <;> cases resolved : header.metadata <;> simp [acceptMetadata,
      resolved, isCancelled, isPending, emptied]

theorem acceptRow_emptied {row : Row} {reply : Reply} {before after : Handoff}
    (accepts : before.acceptRow? row = some (reply, after)) :
    ∃ later, before.emptied.acceptRow? row = some (reply, later) ∧
      later.emptied = after.emptied := by
  by_cases streaming : before.phase = .streaming
  · -- The row does not wait, so the slot is free.
    have goesOn : before.acceptRow? row ≠ none := by simp [accepts]
    have free : before.slot = none := by simpa [acceptRow_eq_none_iff, streaming] using goesOn
    rw [emptied_of_free free]
    exact ⟨after, accepts, rfl⟩
  · rw [acceptRow_of_stopped streaming] at accepts
    cases accepts
    have stopped : before.emptied.phase ≠ .streaming := streaming
    exact ⟨before.emptied, acceptRow_of_stopped stopped row, rfl⟩

theorem endRows_emptied (handoff : Handoff) :
    handoff.emptied.endRows = handoff.endRows.emptied := by
  rcases handoff with ⟨metadata, slot, phase⟩
  cases phase <;> rfl

theorem finish_emptied (handoff : Handoff) : handoff.emptied.finish = handoff.finish.emptied := by
  rcases handoff with ⟨metadata, slot, phase⟩
  cases phase <;> rfl

theorem fail_emptied (fault : ParseFault) (handoff : Handoff) :
    handoff.emptied.fail fault = (handoff.fail fault).emptied := by
  rcases handoff with ⟨metadata, slot, phase⟩
  cases phase <;> rfl

end Handoff

namespace Producer

variable {producer next last : Producer} {before middle after : Handoff}

theorem report_emptied (fault : ParseFault) (handoff : Handoff) :
    report fault handoff.emptied = (report fault handoff).emptied := by
  rcases handoff with ⟨metadata, slot, phase⟩
  cases fault <;> cases phase <;> rfl

theorem Proceeds.offer_emptied {proceed : Reply × Handoff → Producer × Handoff}
    (proceeds : Proceeds proceed) {row : Row}
    (steps : (before.acceptRow? row).map proceed = some (next, after)) :
    ∃ later, (before.emptied.acceptRow? row).map proceed = some (next, later) ∧
      later.emptied = after.emptied := by
  rcases Option.map_eq_some_iff.mp steps with ⟨⟨reply, handoff⟩, accepts, equal⟩
  rcases acceptRow_emptied accepts with ⟨later, accepts, same⟩
  have goesOn : proceed (reply, later) = (next, later) := by
    apply Prod.ext
    · rw [proceeds.blind reply later handoff, equal]
    · exact proceeds.handoff (reply, later)
  have stays : after = handoff := by
    have kept := proceeds.handoff (reply, handoff)
    rw [equal] at kept
    exact kept
  refine ⟨later, ?_, ?_⟩
  · rw [accepts, Option.map_some, goesOn]
  · rw [same, stays]

theorem Proceeds.announce_emptied {proceed : Reply × Handoff → Producer × Handoff}
    (proceeds : Proceeds proceed) {header : Header}
    (steps : some (proceed (before.acceptMetadata header)) = some (next, after)) :
    some (proceed (before.emptied.acceptMetadata header)) = some (next, after.emptied) := by
  have equal := Option.some.inj steps
  have stays : after = (before.acceptMetadata header).2 := by
    rw [← proceeds.handoff (before.acceptMetadata header), equal]
  rw [acceptMetadata_emptied, ← stays]
  apply congrArg some
  apply Prod.ext
  · rw [proceeds.blind _ _ (before.acceptMetadata header).2, equal]
  · exact proceeds.handoff _

/-- Whatever the producer does, it also does where the slot is free. -/
theorem step_emptied (steps : producer.step? before = some (next, after)) :
    ∃ later, producer.step? before.emptied = some (next, later) ∧
      later.emptied = after.emptied := by
  cases producer with
  | gone => contradiction
  | settled =>
      cases steps
      exact ⟨_, rfl, by rw [finish_emptied, emptied_emptied]⟩
  | running remaining =>
      cases remaining with
      | nil =>
          cases steps
          exact ⟨_, rfl, rfl⟩
      | cons step rest =>
          cases step with
          | metadata header => exact ⟨_, (resume_proceeds rest).announce_emptied steps, rfl⟩
          | tryMetadata header => exact ⟨_, (goOn_proceeds rest).announce_emptied steps, rfl⟩
          | row row => exact (resume_proceeds rest).offer_emptied steps
          | tryRow row => exact (goOn_proceeds rest).offer_emptied steps
          | endRows =>
              cases steps
              exact ⟨_, rfl, by rw [endRows_emptied, emptied_emptied]⟩
          | fail fault =>
              cases steps
              exact ⟨_, rfl, by rw [report_emptied, emptied_emptied]⟩
          | crash =>
              cases steps
              exact ⟨_, rfl, by rw [fail_emptied, emptied_emptied]⟩
          | checkpoint | leave =>
              cases steps
              exact ⟨_, rfl, rfl⟩
          | awaitCancel =>
              simp only [step?] at steps
              split at steps
              next cancelled =>
                cases steps
                exact ⟨_, if_pos cancelled, rfl⟩
              · contradiction
          | count number =>
              simp only [step?] at steps ⊢
              split at steps
              next below =>
                rw [if_pos below]
                exact (resume_proceeds _).offer_emptied steps
              next beyond =>
                cases steps
                exact ⟨_, if_neg beyond, rfl⟩

theorem call?_ne_cancel (producer : Producer) (handoff : Handoff) :
    producer.call? handoff ≠ some .cancel := by
  cases producer with
  | gone | settled => simp [call?]
  | running remaining =>
      cases remaining with
      | nil => simp [call?]
      | cons step rest => cases step <;> simp [call?]

theorem step_phase_ne_cancelled (steps : producer.step? before = some (next, after))
    (lasts : before.phase ≠ .cancelled) : after.phase ≠ .cancelled := by
  cases took steps with
  | silent => exact lasts
  | called calls passes _ =>
      apply (Move.passed passes).phase_ne_cancelled _ lasts
      apply cancels_of_ne_cancel
      rintro rfl
      exact producer.call?_ne_cancel before calls

/-! ## Courses -/

/-- What a producer calls if each of its rows is taken at once. -/
inductive Advances : Producer → Handoff → List Session.Call → Producer → Handoff → Prop
  | nil (producer : Producer) (handoff : Handoff) : Advances producer handoff [] producer handoff
  | cons {producer next last : Producer} {before middle after : Handoff}
      {calls : List Session.Call} :
      producer.step? before = some (next, middle) →
      Advances next middle.emptied calls last after →
      Advances producer before ((producer.call? before).toList ++ calls) last after

end Producer

/-- The producer takes its steps, and the others do what they like in between. The calls are those
of the producer, the events those of the others. -/
inductive Course : Producer → Handoff → List Session.Call → List Event → Producer → Handoff → Prop
  | nil (producer : Producer) (handoff : Handoff) : Course producer handoff [] [] producer handoff
  | parse {producer next last : Producer} {before middle after : Handoff}
      {calls : List Session.Call} {events : List Event} :
      producer.step? before = some (next, middle) →
      Course next middle calls events last after →
      Course producer before ((producer.call? before).toList ++ calls) events last after
  | meanwhile {producer last : Producer} {before middle after : Handoff} {event : Event}
      {calls : List Session.Call} {events : List Event} :
      event.isOthers = true →
      Move before event middle →
      Course producer middle calls events last after →
      Course producer before calls (event :: events) last after

theorem Stable.move {Holds : Producer → Handoff → Prop} (stable : Stable Holds)
    {producer : Producer} {before after : Handoff} {event : Event} (holds : Holds producer before)
    (others : event.isOthers = true) (move : Move before event after) : Holds producer after := by
  cases move with
  | expired => exact stable.stop holds
  | @passed _ call answer passes =>
      cases call with
      | acceptMetadata | acceptRow | endRows | finish | fail => contradiction
      | cancel =>
          cases passes
          exact stable.stop holds
      | fetch =>
          rcases Option.map_eq_some_iff.mp passes with ⟨⟨reply, next⟩, fetches, equal⟩
          cases equal
          exact stable.take holds fetches
      | metadata =>
          rcases Option.map_eq_some_iff.mp passes with ⟨_, _, equal⟩
          cases equal
          exact holds
      | isCancelled | isTerminal =>
          cases passes
          exact holds

namespace Course

variable {producer middle last : Producer} {before between after : Handoff}
  {calls more : List Session.Call} {events later : List Event}

theorem trans (first : Course producer before calls events middle between)
    (second : Course middle between more later last after) :
    Course producer before (calls ++ more) (events ++ later) last after := by
  induction first with
  | nil => exact second
  | parse steps _ induction =>
      rw [List.append_assoc]
      exact .parse steps (induction second)
  | meanwhile others move _ induction => exact .meanwhile others move (induction second)

theorem phase_ne_cancelled (course : Course producer before calls events last after)
    (uncancelled : ∀ event ∈ events, event.cancels = false) (lasts : before.phase ≠ .cancelled) :
    after.phase ≠ .cancelled := by
  induction course with
  | nil => exact lasts
  | parse steps _ induction =>
      exact induction uncancelled (Producer.step_phase_ne_cancelled steps lasts)
  | @meanwhile _ _ _ _ _ event _ events _ move _ induction =>
      have rest : ∀ other ∈ events, other.cancels = false :=
        fun other member => uncancelled other (.tail event member)
      exact induction rest (move.phase_ne_cancelled (uncancelled event (.head events)) lasts)

theorem advances (course : Course producer before calls events last after)
    (uncancelled : ∀ event ∈ events, event.cancels = false) :
    producer.Advances before.emptied calls last after.emptied := by
  induction course with
  | nil => exact .nil _ _
  | parse steps _ induction =>
      rcases Producer.step_emptied steps with ⟨free, steps, same⟩
      have rest := induction uncancelled
      rw [← same] at rest
      exact .cons steps rest
  | @meanwhile _ _ _ _ _ event _ events others move _ induction =>
      have rest := induction fun other member => uncancelled other (.tail event member)
      rwa [move.emptied others (uncancelled event (.head events))] at rest

theorem ofAdvances (advances : producer.Advances before calls last after)
    (free : before.slot = none) (lasts : before.phase ≠ .cancelled) :
    ∃ events, (∀ event ∈ events, event.cancels = false) ∧
      Course producer before calls events last after := by
  induction advances with
  | nil => exact ⟨[], List.forall_mem_nil _, .nil _ _⟩
  | @cons _ _ _ _ middle _ _ steps _ induction =>
      have lasts := Producer.step_phase_ne_cancelled steps lasts
      rcases induction rfl lasts with ⟨events, uncancelled, course⟩
      cases occupied : middle.slot with
      | none =>
          rw [emptied_of_free occupied] at course
          exact ⟨events, uncancelled, .parse steps course⟩
      | some row =>
          have fetches := fetch_of_occupied occupied lasts
          have move : Move middle (.passed .fetch (.fetched (.row row))) middle.emptied :=
            .passed (by rw [Session.step?, fetches]; rfl)
          refine ⟨.passed .fetch (.fetched (.row row)) :: events, ?_, ?_⟩
          · intro event member
            rcases List.mem_cons.mp member with rfl | member
            · rfl
            · exact uncancelled event member
          · exact .parse steps (.meanwhile rfl move course)

end Course

/-! ## Leaving -/

inductive Parting where
  | returned
  | fault (fault : ParseFault)
  | panicked

namespace Producer

def isRunning : Producer → Bool
  | .running _ => true
  | .settled | .gone => false

/-- How a parser leaves whose next step is its last. One that has to stop gives that as its
fault. -/
def parting : Producer → Parting
  | .running [] | .running (.leave :: _) => .returned
  | .running (.fail fault :: _) => .fault fault
  | .running (.crash :: _) => .panicked
  | _ => .fault .aborted

structure Departs (producer : Producer) (before : Handoff) (next : Producer) (after : Handoff) :
    Prop where
  runs : producer.isRunning = true
  steps : producer.step? before = some (next, after)
  leaves : next.isRunning = false

variable {producer next middle last last' left left' : Producer}
  {before met met' after after' : Handoff} {calls calls' : List Session.Call}

theorem Departs.emptied (departs : producer.Departs before next after) :
    ∃ later, producer.Departs before.emptied next later := by
  rcases step_emptied departs.steps with ⟨later, steps, _⟩
  exact ⟨later, departs.runs, steps, departs.leaves⟩

theorem isRunning_of_step (steps : producer.step? before = some (next, after))
    (runs : next.isRunning = true) : producer.isRunning = true := by
  cases producer with
  | running => rfl
  | settled =>
      cases steps
      contradiction
  | gone => contradiction

namespace Advances

theorem isRunning (advances : producer.Advances before calls last after)
    (runs : last.isRunning = true) : producer.isRunning = true := by
  induction advances with
  | nil => exact runs
  | cons steps _ induction => exact isRunning_of_step steps (induction runs)

theorem single (steps : producer.step? before = some (next, after)) :
    producer.Advances before (producer.call? before).toList next after.emptied := by
  have alone := Advances.cons steps (.nil next after.emptied)
  rwa [List.append_nil] at alone

theorem trans (first : producer.Advances before calls middle met)
    (second : middle.Advances met calls' last after) :
    producer.Advances before (calls ++ calls') last after := by
  induction first with
  | nil => exact second
  | cons steps _ induction =>
      rw [List.append_assoc]
      exact .cons steps (induction second)

theorem phase_eq (advances : producer.Advances before calls last after)
    (stopped : before.phase ≠ .streaming) : after.phase = before.phase := by
  induction advances with
  | nil => rfl
  | cons steps _ induction =>
      have same := (step_leads steps).phase_eq stopped
      rw [← same] at stopped ⊢
      exact induction stopped

theorem isRunning_eq_false (advances : next.Advances before calls last met)
    (departs : producer.Departs after next met') : last.isRunning = false := by
  -- Nothing is left to do for a parser that has left.
  cases runs : last.isRunning with
  | false => rfl
  | true =>
      have running := advances.isRunning runs
      simp [departs.leaves] at running

theorem departs_unique (advances : producer.Advances before calls last met)
    (departs : last.Departs met left after)
    (advances' : producer.Advances before calls' last' met')
    (departs' : last'.Departs met' left' after') :
    calls = calls' ∧ last = last' ∧ met = met' := by
  induction advances generalizing calls' with
  | nil =>
      cases advances' with
      | nil => exact ⟨rfl, rfl, rfl⟩
      | cons steps rest =>
          cases steps.symm.trans departs.steps
          have stopped := rest.isRunning_eq_false departs
          simp [departs'.runs] at stopped
  | cons steps rest induction =>
      cases advances' with
      | nil =>
          cases steps.symm.trans departs'.steps
          have stopped := rest.isRunning_eq_false departs'
          simp [departs.runs] at stopped
      | cons steps' rest' =>
          cases steps.symm.trans steps'
          rcases induction departs rest' with ⟨rfl, rfl, rfl⟩
          exact ⟨rfl, rfl, rfl⟩

end Advances

end Producer

end TableIntake
