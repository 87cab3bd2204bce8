import TableIntake.Handoff.Session

/-! # Histories of handoffs

What happens at a handoff, one event after the other, whichever thread it comes from. A
call counts at the moment when it goes through. While it waits it changes nothing, so
every interleaving of the threads has such a history.
-/

namespace TableIntake.Handoff

open Session

inductive Event where
  | passed (call : Call) (answer : Answer)
  | expired (call : Call) (answer : Answer)

namespace Event

def accepted : Event → List Row
  | .passed (.acceptRow row) .done => if row.isEmpty then [] else [row]
  | _ => []

def delivered : Event → List Row
  | .passed .fetch (.fetched (.row row)) => [row]
  | _ => []

def cancels : Event → Bool
  | .passed .cancel _ | .expired _ _ => true
  | _ => false

def wakes (handoff : Handoff) : Event → Bool
  | .passed call _ => Session.wakes call handoff
  | .expired _ _ => true

structure Quiet (event : Event) : Prop where
  accepted : event.accepted = []
  delivered : event.delivered = []
  cancels : event.cancels = false

end Event

inductive Move : Handoff → Event → Handoff → Prop
  | passed {before after : Handoff} {call : Call} {answer : Answer} :
      step? call before = some (answer, after) →
      Move before (.passed call answer) after
  | expired {before : Handoff} {call : Call} {answer : Answer} :
      step? call before = none → expired? call = some answer →
      Move before (.expired call answer) before.interrupt

inductive Run : Handoff → List Event → Handoff → Prop
  | nil (handoff : Handoff) : Run handoff [] handoff
  | cons {before middle after : Handoff} {event : Event} {events : List Event} :
      Move before event middle →
      Run middle events after →
      Run before (event :: events) after

def acceptedRows (events : List Event) : List Row :=
  events.flatMap Event.accepted

def deliveredRows (events : List Event) : List Row :=
  events.flatMap Event.delivered

@[simp] theorem acceptedRows_append (past rest : List Event) :
    acceptedRows (past ++ rest) = acceptedRows past ++ acceptedRows rest := by
  simp [acceptedRows]

@[simp] theorem deliveredRows_append (past rest : List Event) :
    deliveredRows (past ++ rest) = deliveredRows past ++ deliveredRows rest := by
  simp [deliveredRows]

@[simp] theorem acceptedRows_single (event : Event) :
    acceptedRows [event] = event.accepted := by
  simp [acceptedRows]

@[simp] theorem deliveredRows_single (event : Event) :
    deliveredRows [event] = event.delivered := by
  simp [deliveredRows]

/-! ## What waits -/

theorem metadata_eq_none_iff {handoff : Handoff} :
    handoff.metadata? = none ↔ handoff.metadata = .pending ∧ handoff.phase = .streaming := by
  unfold metadata?
  split
  next ready => simp [ready]
  next refused => simp [refused]
  next pending =>
    split
    all_goals simp_all

theorem fetch_eq_none_iff {handoff : Handoff} :
    handoff.fetch? = none ↔ handoff.slot = none ∧ handoff.phase = .streaming := by
  unfold fetch?
  split <;> simp_all

theorem acceptRow_eq_none_iff {row : Row} {handoff : Handoff} :
    handoff.acceptRow? row = none ↔ handoff.slot.isSome ∧ handoff.phase = .streaming := by
  unfold acceptRow?
  split
  next streaming =>
    split
    next occupied => simp [occupied, streaming]
    next free =>
      split
      · simp [free]
      · split <;> simp [free]
  all_goals simp_all

theorem acceptRow_of_stopped {handoff : Handoff} (stopped : handoff.phase ≠ .streaming)
    (row : Row) : handoff.acceptRow? row = some (.aborted, handoff) := by
  unfold acceptRow?
  cases phase : handoff.phase with
  | streaming => exact absurd phase stopped
  | ended | cancelled | failed => rfl

/-- The rows have ended, and none is left. -/
structure Spent (handoff : Handoff) : Prop where
  ended : handoff.phase = .ended
  free : handoff.slot = none

theorem fetch_ended_iff {handoff after : Handoff} :
    handoff.fetch? = some (.ok .ended, after) ↔ handoff.Spent ∧ after = handoff := by
  constructor
  · intro fetches
    unfold fetch? at fetches
    split at fetches
    case h_5 ended free =>
      cases fetches
      exact ⟨⟨ended, free⟩, rfl⟩
    all_goals simp at fetches
  · rintro ⟨⟨ended, free⟩, rfl⟩
    simp [fetch?, ended, free]

/-! ## What an event does -/

/-- All that an event can do to a handoff. -/
inductive Change (before : Handoff) : Event → Handoff → Prop
  | nothing {event : Event} : event.Quiet → Change before event before
  | resolved {event : Event} {metadata : MetadataSlot} :
      event.Quiet → event.wakes before = true →
      before.metadata = .pending → metadata ≠ .pending →
      Change before event { before with metadata := metadata }
  | stopped {event : Event} {phase : Phase} :
      event.Quiet → event.wakes before = true →
      before.phase = .streaming → phase ≠ .streaming → phase ≠ .cancelled →
      Change before event { before with phase := phase }
  | cleared {event : Event} :
      event.Quiet → event.wakes before = true →
      before.phase = .cancelled →
      Change before event { before with slot := none }
  | filled {row : Row} :
      before.phase = .streaming → before.slot = none → before.metadata ≠ .pending →
      row.isEmpty = false →
      Change before (.passed (.acceptRow row) .done) { before with slot := some row }
  | emptied {row : Row} :
      before.phase ≠ .cancelled → before.slot = some row →
      Change before (.passed .fetch (.fetched (.row row))) { before with slot := none }
  | cancelled : Change before (.passed .cancel .done) before.cancel
  | expired {call : Call} {answer : Answer} :
      before.phase = .streaming → (before.slot = none ∨ before.metadata = .pending) →
      Change before (.expired call answer) before.cancel

theorem acceptMetadata_change (header : Header) (before : Handoff) :
    Change before
      (.passed (.acceptMetadata header) (ofReply (before.acceptMetadata header).1))
      (before.acceptMetadata header).2 := by
  have quiet (answer : Answer) : (Event.passed (.acceptMetadata header) answer).Quiet :=
    ⟨rfl, rfl, rfl⟩
  unfold acceptMetadata
  split
  · exact .nothing (quiet _)
  next uncancelled =>
    split
    next pending =>
      have unresolved : before.metadata = .pending := by simpa [isPending] using pending
      have wakes (answer : Answer) :
          (Event.passed (.acceptMetadata header) answer).wakes before = true := by
        simp [Event.wakes, Session.wakes, uncancelled, pending]
      split <;> exact .resolved (quiet _) (wakes _) unresolved (by simp)
    next => exact .nothing (quiet _)

theorem acceptRow_change {row : Row} {reply : Reply} {before after : Handoff}
    (accepts : before.acceptRow? row = some (reply, after)) :
    Change before (.passed (.acceptRow row) (ofReply reply)) after := by
  have refused : (Event.passed (.acceptRow row) .aborted).Quiet := ⟨rfl, rfl, rfl⟩
  unfold acceptRow? at accepts
  split at accepts
  case h_1 streaming =>
    have wakes (answer : Answer) :
        (Event.passed (.acceptRow row) answer).wakes before = true := by
      simp [Event.wakes, Session.wakes, isStreaming, streaming]
    split at accepts
    · contradiction
    next free =>
      have free : before.slot = none := by simpa using free
      split at accepts
      · cases accepts
        exact .stopped refused (wakes _) streaming (by simp) (by simp)
      next resolved =>
        have resolved : before.metadata ≠ .pending := by simpa [isPending] using resolved
        split at accepts
        next blank =>
          cases accepts
          refine .stopped ⟨?_, rfl, rfl⟩ (wakes _) streaming (by simp) (by simp)
          simp [Event.accepted, ofReply, blank]
        next cells =>
          cases accepts
          exact .filled streaming free resolved (by simpa using cells)
  all_goals
    cases accepts
    exact .nothing refused

theorem endRows_change (before : Handoff) :
    Change before (.passed .endRows .done) before.endRows := by
  have quiet : (Event.passed .endRows .done).Quiet := ⟨rfl, rfl, rfl⟩
  unfold endRows
  split
  next streaming => exact .stopped quiet rfl streaming (by simp) (by simp)
  next cancelled => exact .cleared quiet rfl cancelled
  all_goals exact .nothing quiet

theorem finish_change (before : Handoff) :
    Change before (.passed .finish .done) before.finish := by
  have quiet : (Event.passed .finish .done).Quiet := ⟨rfl, rfl, rfl⟩
  unfold finish
  split
  next streaming =>
    exact .stopped quiet rfl (by simpa [isStreaming] using streaming) (by simp) (by simp)
  next => exact .nothing quiet

theorem fail_change (fault : ParseFault) (before : Handoff) :
    Change before (.passed (.fail fault) .done) (before.fail fault) := by
  have quiet : (Event.passed (.fail fault) .done).Quiet := ⟨rfl, rfl, rfl⟩
  unfold fail
  split
  next streaming =>
    exact .stopped quiet rfl (by simpa [isStreaming] using streaming) (by simp) (by simp)
  next => exact .nothing quiet

theorem fetch_change {answer : Except ReadFault Fetched} {before after : Handoff}
    (fetches : before.fetch? = some (answer, after)) :
    Change before (.passed .fetch (ofFetch answer)) after := by
  unfold fetch? at fetches
  split at fetches
  case h_2 row occupied uncancelled =>
    cases fetches
    exact .emptied uncancelled occupied
  case h_3 => contradiction
  all_goals
    cases fetches
    exact .nothing ⟨rfl, rfl, rfl⟩

theorem Move.change {before after : Handoff} {event : Event}
    (move : Move before event after) : Change before event after := by
  cases move with
  | @passed _ call answer passes =>
      cases call with
      | acceptMetadata header =>
          cases passes
          exact acceptMetadata_change header before
      | acceptRow row =>
          rcases Option.map_eq_some_iff.mp passes with ⟨⟨reply, next⟩, accepts, equal⟩
          cases equal
          exact acceptRow_change accepts
      | endRows =>
          cases passes
          exact endRows_change before
      | finish =>
          cases passes
          exact finish_change before
      | fail fault =>
          cases passes
          exact fail_change fault before
      | cancel =>
          cases passes
          exact .cancelled
      | metadata =>
          rcases Option.map_eq_some_iff.mp passes with ⟨columns, _, equal⟩
          cases equal
          exact .nothing ⟨rfl, by cases columns <;> rfl, rfl⟩
      | fetch =>
          rcases Option.map_eq_some_iff.mp passes with ⟨⟨reply, next⟩, fetches, equal⟩
          cases equal
          exact fetch_change fetches
      | isCancelled | isTerminal =>
          cases passes
          exact .nothing ⟨rfl, rfl, rfl⟩
  | @expired call answer waits runsOut =>
      cases call with
      | metadata =>
          have waits : before.metadata? = none := by simpa [step?] using waits
          rcases metadata_eq_none_iff.mp waits with ⟨pending, streaming⟩
          exact .expired streaming (.inr pending)
      | fetch =>
          have waits : before.fetch? = none := by simpa [step?] using waits
          rcases fetch_eq_none_iff.mp waits with ⟨free, streaming⟩
          exact .expired streaming (.inl free)
      | _ => contradiction

/-- What changes the handoff also wakes the threads that wait for it to change. -/
theorem Change.eq_or_wakes {before after : Handoff} {event : Event}
    (change : Change before event after) :
    after = before ∨ event.wakes before = true := by
  cases change with
  | nothing => exact .inl rfl
  | resolved _ wakes | stopped _ wakes | cleared _ wakes => exact .inr wakes
  | filled streaming =>
      exact .inr (by simp [Event.wakes, Session.wakes, isStreaming, streaming])
  | emptied uncancelled occupied =>
      exact .inr (by simp [Event.wakes, Session.wakes, isCancelled, uncancelled, occupied])
  | cancelled | expired => exact .inr rfl

theorem Change.phase_eq {before after : Handoff} {event : Event}
    (change : Change before event after) (stopped : before.phase ≠ .streaming) :
    after.phase = before.phase := by
  cases change with
  | stopped _ _ streaming | expired streaming => exact absurd streaming stopped
  | cancelled => simp [cancel, isStreaming, stopped]
  | nothing | resolved | cleared | filled | emptied => rfl

/-- A row is never without metadata, and never there after a cancellation. -/
structure Sound (handoff : Handoff) : Prop where
  resolved : handoff.slot.isSome → handoff.metadata ≠ .pending
  cancelled : handoff.phase = .cancelled → handoff.slot = none

theorem Sound.slot_eq_none {handoff : Handoff} (sound : handoff.Sound)
    (pending : handoff.metadata = .pending) : handoff.slot = none := by
  by_cases occupied : handoff.slot.isSome
  · exact absurd pending (sound.resolved occupied)
  · simpa using occupied

theorem sound_fresh : Sound {} where
  resolved := nofun
  cancelled := nofun

@[simp] theorem cancel_slot (handoff : Handoff) : handoff.cancel.slot = none := by
  unfold cancel
  split <;> rfl

theorem cancel_phase (handoff : Handoff) :
    handoff.cancel.phase =
      if handoff.phase = .streaming then .cancelled else handoff.phase := by
  unfold cancel isStreaming
  split <;> simp_all

theorem Change.slot_eq_none {before after : Handoff} {event : Event}
    (change : Change before event after) (stopped : before.phase ≠ .streaming)
    (free : before.slot = none) : after.slot = none := by
  cases change with
  | nothing | resolved | stopped => exact free
  | filled streaming => exact absurd streaming stopped
  | cleared | emptied => rfl
  | cancelled | expired => exact cancel_slot before

theorem Change.sound {before after : Handoff} {event : Event}
    (change : Change before event after) (sound : before.Sound) : after.Sound := by
  cases change with
  | nothing => exact sound
  | resolved _ _ _ resolved => exact ⟨fun _ => resolved, sound.cancelled⟩
  | stopped _ _ _ _ uncancelled =>
      exact ⟨sound.resolved, fun cancelled => absurd cancelled uncancelled⟩
  | filled streaming _ resolved =>
      exact ⟨fun _ => resolved, fun cancelled => by simp [streaming] at cancelled⟩
  | cleared | emptied => exact ⟨nofun, fun _ => rfl⟩
  | cancelled | expired => exact ⟨by simp, fun _ => cancel_slot before⟩

/-! ## Runs -/

theorem Move.unique {before left right : Handoff} {event : Event}
    (first : Move before event left) (second : Move before event right) : left = right := by
  cases first with
  | passed passes =>
      cases second with
      | passed others => simpa [passes] using others
  | expired =>
      cases second with
      | expired => rfl

namespace Run

theorem single {before after : Handoff} {event : Event} (move : Move before event after) :
    Run before [event] after :=
  .cons move (.nil after)

theorem trans {before middle after : Handoff} {past rest : List Event}
    (first : Run before past middle) (second : Run middle rest after) :
    Run before (past ++ rest) after := by
  induction first with
  | nil => exact second
  | cons move _ induction => exact .cons move (induction second)

/-- What holds of a history and the handoff it leads to holds at its end, if every event
keeps it. -/
theorem keeps (Property : List Event → Handoff → Prop)
    (keeps : ∀ {past before event after},
      Property past before → Move before event after → Property (past ++ [event]) after)
    {past rest : List Event} {before after : Handoff}
    (run : Run before rest after) (holds : Property past before) :
    Property (past ++ rest) after := by
  induction run generalizing past with
  | nil => simpa using holds
  | @cons _ _ _ event events move _ induction =>
      have longer := induction (keeps holds move)
      simpa using longer

theorem sound {before after : Handoff} {events : List Event}
    (run : Run before events after) (sound : before.Sound) : after.Sound := by
  induction run with
  | nil => exact sound
  | cons move _ induction => exact induction (move.change.sound sound)

theorem phase_eq {before after : Handoff} {events : List Event}
    (run : Run before events after) (stopped : before.phase ≠ .streaming) :
    after.phase = before.phase := by
  induction run with
  | nil => rfl
  | cons move _ induction =>
      have same := move.change.phase_eq stopped
      rw [← same]
      exact induction (same ▸ stopped)

theorem unique {before left right : Handoff} {events : List Event}
    (first : Run before events left) (second : Run before events right) : left = right := by
  induction first with
  | nil =>
      cases second
      rfl
  | cons move _ induction =>
      cases second with
      | cons other rest =>
          cases move.unique other
          exact induction rest

end Run

end TableIntake.Handoff
