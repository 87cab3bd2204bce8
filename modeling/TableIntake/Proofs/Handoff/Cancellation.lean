import TableIntake.Proofs.Handoff.History

/-! # Cancellations

A cancellation leaves the stream over and the slot free, and so they stay. Nobody waits at such a
handoff, and its reader gets the same answer again and again. A wait that runs out is a
cancellation that comes while the call waits.
-/

namespace TableIntake

open Handoff Session

def Phase.farewell : Phase → Except ReadFault Fetched
  | .failed fault => .error (.parse fault)
  | .cancelled => .ok .cancelled
  | .ended | .streaming => .ok .ended

theorem Phase.farewell_ne_row (phase : Phase) (row : Row) : phase.farewell ≠ .ok (.row row) := by
  cases phase <;> simp [farewell]

namespace Handoff

structure Drained (handoff : Handoff) : Prop where
  stopped : handoff.phase ≠ .streaming
  free : handoff.slot = none

theorem cancel_drained (handoff : Handoff) : handoff.cancel.Drained := by
  constructor
  · rw [cancel_phase]
    split
    · simp
    · assumption
  · exact cancel_slot handoff

/-! ## At a drained handoff -/

namespace Drained

variable {handoff : Handoff}

theorem isTerminal (drained : handoff.Drained) : handoff.isTerminal = true := by
  simp [Handoff.isTerminal, isStreaming, drained.stopped]

theorem fetch (drained : handoff.Drained) :
    handoff.fetch? = some (handoff.phase.farewell, handoff) := by
  have stopped := drained.stopped
  unfold fetch? Phase.farewell
  rw [drained.free]
  cases phase : handoff.phase with
  | streaming => exact absurd phase stopped
  | ended | cancelled | failed => rfl

theorem acceptRow (drained : handoff.Drained) (row : Row) :
    handoff.acceptRow? row = some (.aborted, handoff) :=
  acceptRow_of_stopped drained.stopped row

theorem fail (drained : handoff.Drained) (fault : ParseFault) : handoff.fail fault = handoff := by
  simp [Handoff.fail, isStreaming, drained.stopped]

theorem finish (drained : handoff.Drained) : handoff.finish = handoff := by
  simp [Handoff.finish, isStreaming, drained.stopped]

theorem step_ne_none (drained : handoff.Drained) (call : Call) : step? call handoff ≠ none := by
  intro waits
  cases call with
  | acceptRow row =>
      have waits := Option.map_eq_none_iff.mp waits
      exact drained.stopped (acceptRow_eq_none_iff.mp waits).2
  | metadata =>
      have waits := Option.map_eq_none_iff.mp waits
      exact drained.stopped (metadata_eq_none_iff.mp waits).2
  | fetch =>
      have waits := Option.map_eq_none_iff.mp waits
      exact drained.stopped (fetch_eq_none_iff.mp waits).2
  | _ => contradiction

end Drained

/-! ## Ever after -/

/-- No call waits, none gets or leaves a row, and the reader gets the one answer. -/
structure Still (handoff : Handoff) (last : Except ReadFault Fetched) : Prop where
  terminal : handoff.isTerminal = true
  free : handoff.slot = none
  passes : ∀ call, step? call handoff ≠ none
  fetch : handoff.fetch? = some (last, handoff)
  acceptRow : ∀ row, handoff.acceptRow? row = some (.aborted, handoff)
  fail : ∀ fault, handoff.fail fault = handoff
  finish : handoff.finish = handoff

theorem Drained.still {handoff : Handoff} (drained : handoff.Drained) :
    handoff.Still handoff.phase.farewell where
  terminal := drained.isTerminal
  free := drained.free
  passes := drained.step_ne_none
  fetch := drained.fetch
  acceptRow := drained.acceptRow
  fail := drained.fail
  finish := drained.finish

/-- A call that comes too late: a reader gets the last answer, a row is refused, and no wait runs
out. -/
structure Event.Belated (last : Except ReadFault Fetched) (event : Event) : Prop where
  fetch : ∀ answer, event = .passed .fetch answer → answer = ofFetch last
  acceptRow : ∀ row answer, event = .passed (.acceptRow row) answer → answer = .aborted
  inTime : ∀ call answer, event ≠ .expired call answer

theorem Move.drained_of_cancels {before after : Handoff} {event : Event}
    (move : Move before event after) (cancels : event.cancels = true) : after.Drained := by
  cases move with
  | expired => exact cancel_drained before
  | @passed _ call answer passes =>
      cases call with
      | cancel =>
          cases passes
          exact cancel_drained before
      | _ => contradiction

namespace Drained

variable {before after : Handoff} {event : Event}

theorem move (drained : before.Drained) (move : Move before event after) : after.Drained := by
  constructor
  · rw [move.change.phase_eq drained.stopped]
    exact drained.stopped
  · exact move.change.slot_eq_none drained.stopped drained.free

theorem belated (drained : before.Drained) (move : Move before event after) :
    event.Belated before.phase.farewell := by
  cases move with
  | expired waits => exact absurd waits (drained.step_ne_none _)
  | passed passes =>
      constructor
      · rintro answer ⟨⟩
        simp only [step?, drained.fetch, Option.map_some, Option.some.injEq] at passes
        exact (Prod.mk.inj passes).1.symm
      · rintro row answer ⟨⟩
        simp only [step?, drained.acceptRow, Option.map_some, Option.some.injEq] at passes
        exact (Prod.mk.inj passes).1.symm
      · intro call answer same
        cases same

theorem run {events : List Event} (drained : before.Drained) (run : Run before events after) :
    after.Drained ∧ after.phase = before.phase ∧
      ∀ event ∈ events, event.Belated before.phase.farewell := by
  induction run with
  | nil => exact ⟨drained, rfl, List.forall_mem_nil _⟩
  | @cons _ _ _ first _ move _ induction =>
      have same := move.change.phase_eq drained.stopped
      rcases induction (drained.move move) with ⟨last, stays, belated⟩
      rw [same] at stays belated
      refine ⟨last, stays, ?_⟩
      intro event member
      rcases List.mem_cons.mp member with rfl | later
      · exact drained.belated move
      · exact belated event later

/-! ## Sessions -/

theorem resume {handoff : Handoff} (drained : handoff.Drained) (calls : List Call) :
    (Session.resume calls handoff).2.1 = [] := by
  induction calls generalizing handoff with
  | nil => rfl
  | cons call rest induction =>
      rcases passes : step? call handoff with _ | ⟨answer, after⟩
      · exact absurd passes (drained.step_ne_none call)
      · simp only [Session.resume, passes]
        apply induction
        exact drained.move (.passed passes)

end Drained

theorem step_of_cancelled {handoff : Handoff} (cancelled : handoff.phase = .cancelled)
    (free : handoff.slot = none) (call : Call) :
    ∃ answer, step? call handoff = some (answer, handoff) := by
  rcases handoff with ⟨metadata, slot, phase⟩
  subst cancelled free
  cases call with
  | metadata => cases metadata <;> exact ⟨_, rfl⟩
  | _ => exact ⟨_, rfl⟩

theorem resume_snoc_of_cancelled {handoff : Handoff} (cancelled : handoff.phase = .cancelled)
    (free : handoff.slot = none) {call : Call} {answer : Answer}
    (passes : step? call handoff = some (answer, handoff)) (calls : List Call) :
    resume (calls ++ [call]) handoff =
      ((resume calls handoff).1 ++ [(call, answer)], (resume calls handoff).2) := by
  induction calls with
  | nil => simp only [List.nil_append, resume, passes]
  | cons first rest induction =>
      rcases step_of_cancelled cancelled free first with ⟨told, passes⟩
      simp only [List.cons_append, resume, passes, induction]

/-! ## Waits that run out -/

theorem streaming_of_expired {handoff : Handoff} {call : Call} {answer : Answer}
    (waits : step? call handoff = none) (runsOut : expired? call = some answer) :
    handoff.phase = .streaming := by
  cases call with
  | metadata => exact (metadata_eq_none_iff.mp (Option.map_eq_none_iff.mp waits)).2
  | fetch => exact (fetch_eq_none_iff.mp (Option.map_eq_none_iff.mp waits)).2
  | _ => contradiction

theorem step_cancel_of_expired {handoff : Handoff} {call : Call} {answer : Answer}
    (waits : step? call handoff = none) (runsOut : expired? call = some answer) :
    step? call handoff.cancel = some (answer, handoff.cancel) := by
  have streaming := streaming_of_expired waits runsOut
  have cancelled : handoff.cancel.phase = .cancelled := by rw [cancel_phase, if_pos streaming]
  cases call with
  | metadata =>
      cases runsOut
      have pending := (metadata_eq_none_iff.mp (Option.map_eq_none_iff.mp waits)).1
      have unknown : handoff.cancel.metadata = .pending := by
        unfold cancel
        split <;> exact pending
      simp [step?, metadata?, unknown, cancelled, expiredMetadata]
  | fetch =>
      cases runsOut
      simp [step?, fetch?, cancelled, expiredFetch]
  | _ => contradiction

theorem Move.cancel_of_expired {before after : Handoff} {call : Call} {answer : Answer}
    (move : Move before (.expired call answer) after) :
    Move before (.passed .cancel .done) after ∧ Move after (.passed call answer) after := by
  cases move with
  | expired waits runsOut =>
      constructor
      · exact .passed rfl
      · exact .passed (step_cancel_of_expired waits runsOut)

end Handoff

namespace Session

variable {session : Session} {call : Call} {answer : Answer}

theorem call_cancel (session : Session) :
    session.call .cancel = (.done, { session with handoff := session.handoff.cancel }.wake) :=
  rfl

theorem call_expired (impatient : session.impatient = true)
    (waits : step? call session.handoff = none) (runsOut : expired? call = some answer) :
    session.call call = (answer, { session with handoff := session.handoff.cancel }.wake) := by
  simp only [Session.call, waits, impatient, runsOut, interrupt_eq_cancel]

theorem call_patient (waits : step? call session.handoff = none) :
    { session with impatient := false }.call call =
      (.waiting, [],
        { session with impatient := false, waiting := session.waiting ++ [call] }) := by
  simp only [Session.call, waits]

theorem wake_cancelled (session : Session) :
    { session with handoff := session.handoff.cancel }.wake.2.waiting = [] :=
  (cancel_drained session.handoff).resume session.waiting

/-- Whether a wait runs out or somebody cancels meanwhile is all the same to the call, to the others
that wait, and to the handoff. -/
theorem call_expired_eq_cancel (impatient : session.impatient = true)
    (waits : step? call session.handoff = none) (runsOut : expired? call = some answer) :
    (session.call call).1 = answer ∧
      ({ session with impatient := false }.call call).2.2.call .cancel =
        (.done, (session.call call).2.1 ++ [(call, answer)],
          { (session.call call).2.2 with impatient := false }) := by
  have streaming := streaming_of_expired waits runsOut
  have cancelled : session.handoff.cancel.phase = .cancelled := by
    rw [cancel_phase, if_pos streaming]
  have resumes := resume_snoc_of_cancelled cancelled (cancel_slot session.handoff)
    (step_cancel_of_expired waits runsOut) session.waiting
  rw [call_expired impatient waits runsOut, call_patient waits, call_cancel]
  simp only [wake, resumes, true_and]

end Session

namespace Handoff

/-- Whatever is called after a cancellation, the stream stays over as it is, no row comes or goes,
and nobody waits. The reader gets the same answer each time, and the parser is refused. -/
theorem cancelled_for_good {before cut : Handoff} {event : Event} (move : Move before event cut)
    (cancels : event.cancels = true) :
    (∃ last, (∀ row, last ≠ .ok (.row row)) ∧
      ∀ rest after, Run cut rest after →
        after.phase = cut.phase ∧ after.Still last ∧ ∀ event ∈ rest, event.Belated last) ∧
      (∀ call answer, event = .expired call answer →
        Move before (.passed .cancel .done) cut ∧ step? call cut = some (answer, cut)) ∧
      ∀ session : Session, session.handoff = before →
        (session.call .cancel).2.2.waiting = [] ∧
          ∀ call answer, session.impatient = true → step? call before = none →
            expired? call = some answer →
            let waits := { session with impatient := false }.call call
            let expires := session.call call
            waits.1 = .waiting ∧ expires.1 = answer ∧ expires.2.2.waiting = [] ∧
              waits.2.2.call .cancel =
                (.done, expires.2.1 ++ [(call, answer)],
                  { expires.2.2 with impatient := false }) := by
  have drained := move.drained_of_cancels cancels
  refine ⟨⟨cut.phase.farewell, cut.phase.farewell_ne_row, ?_⟩, ?_, ?_⟩
  · intro rest after run
    rcases drained.run run with ⟨stays, same, belated⟩
    have still := stays.still
    rw [same] at still
    exact ⟨same, still, belated⟩
  · rintro call answer rfl
    rcases move.cancel_of_expired with ⟨cancelled, goesOn⟩
    refine ⟨cancelled, ?_⟩
    cases goesOn with
    | passed passes => exact passes
  · rintro session rfl
    refine ⟨session.wake_cancelled, ?_⟩
    intro call answer impatient waits runsOut
    rcases Session.call_expired_eq_cancel impatient waits runsOut with ⟨told, cancelled⟩
    refine ⟨?_, told, ?_, cancelled⟩
    · rw [Session.call_patient waits]
    · rw [Session.call_expired impatient waits runsOut]
      exact session.wake_cancelled

theorem cancelled_for_good_after_failure :
    let before : Handoff :=
      { metadata := .ready [], slot := some [.int 1], phase := .failed (.format "cut") }
    let rest : List Event :=
      [.passed .fetch (.fault (.parse (.format "cut"))), .passed (.acceptRow [.int 2]) .aborted,
        .passed .finish .done]
    ∃ cut after, Move before (.passed .cancel .done) cut ∧ Run cut rest after ∧
      after.phase = .failed (.format "cut") ∧ after.slot = none ∧
      after.fetch? = cut.fetch? ∧ ∀ event ∈ rest, event.Belated cut.phase.farewell := by
  intro before rest
  have move : Move before (.passed .cancel .done) before.cancel := .passed rfl
  have run : Run before.cancel rest before.cancel :=
    .cons (.passed rfl) (.cons (.passed rfl) (.cons (.passed rfl) (.nil _)))
  rcases (cancelled_for_good move rfl).1 with ⟨last, _, forGood⟩
  rcases forGood rest _ run with ⟨same, still, belated⟩
  obtain rfl : .error (.parse (.format "cut")) = last := by
    have told : before.cancel.fetch? = some (.error (.parse (.format "cut")), before.cancel) := rfl
    have fetches := still.fetch
    rw [told] at fetches
    exact (Prod.mk.inj (Option.some.inj fetches)).1
  exact ⟨_, _, move, run, same, still.free, rfl, belated⟩

end Handoff

end TableIntake
