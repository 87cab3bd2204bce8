import TableIntake.Proofs.Stream.Steps

/-! # Meetings

The threads of a producer and a reader that meet at a handoff, where nobody limits the
waits. A thread whose call cannot go through falls asleep, and looks again after it has
been woken. No thread sleeps when it could go on, and never do both.
-/

namespace TableIntake

open Handoff

/-! ## What blocks -/

namespace Handoff

/-- A reader waits for the metadata or for a row, a parser for the slot to be free. No call
waits when the stream is over. -/
def blocks (handoff : Handoff) : Session.Call → Bool
  | .metadata => handoff.isPending && handoff.isStreaming
  | .fetch => handoff.slot.isNone && handoff.isStreaming
  | .acceptRow _ => handoff.slot.isSome && handoff.isStreaming
  | _ => false

theorem step_eq_none_iff {call : Session.Call} {handoff : Handoff} :
    Session.step? call handoff = none ↔ handoff.blocks call = true := by
  cases call with
  | acceptRow row =>
      simp [Session.step?, blocks, isStreaming, acceptRow_eq_none_iff]
  | metadata =>
      simp [Session.step?, blocks, isStreaming, isPending, metadata_eq_none_iff]
  | fetch =>
      simp [Session.step?, blocks, isStreaming, fetch_eq_none_iff]
  | _ => simp [Session.step?, blocks]

theorem blocks_eq_false {handoff : Handoff} (stopped : handoff.isStreaming = false)
    (call : Session.Call) : handoff.blocks call = false := by
  cases call <;> simp [blocks, stopped]

/-- An event that lets a waiting call go on wakes the thread that waits in it. -/
theorem Move.wakes {before after : Handoff} {event : Event} {call : Session.Call}
    (move : Move before event after) (blocked : before.blocks call = true)
    (free : after.blocks call = false) : event.wakes before = true := by
  rcases move.change.eq_or_wakes with rfl | wakes
  · simp [blocked] at free
  · exact wakes

theorem Leads.isStreaming_eq_false {before after : Handoff} (leads : Leads before after)
    (stopped : before.isStreaming = false) : after.isStreaming = false := by
  simp only [isStreaming, decide_eq_false_iff_not] at stopped ⊢
  rw [leads.phase_eq stopped]
  exact stopped

end Handoff

namespace Producer

def isBlocked (producer : Producer) (handoff : Handoff) : Bool :=
  (producer.call? handoff).any handoff.blocks

theorem occupied_of_isBlocked {producer : Producer} {handoff : Handoff}
    (blocked : producer.isBlocked handoff = true) :
    handoff.slot.isSome = true ∧ handoff.isStreaming = true := by
  cases producer with
  | gone | settled => simp [isBlocked, call?, blocks] at blocked
  | running remaining =>
      cases remaining with
      | nil => simp [isBlocked, call?] at blocked
      | cons step rest =>
          cases step with
          | row | tryRow => simpa [isBlocked, call?, blocks] using blocked
          | count next =>
              by_cases below : next < ParserStep.countEnd
              · simpa [isBlocked, call?, blocks, below] using blocked
              · simp [isBlocked, call?, below] at blocked
          | fail fault =>
              by_cases excused : (fault.isAborted || handoff.isCancelled) = true
              · simp [isBlocked, call?, excused] at blocked
              · simp [isBlocked, call?, excused, blocks] at blocked
          | _ => simp [isBlocked, call?, blocks] at blocked

def wakes (producer : Producer) (handoff : Handoff) : Bool :=
  (producer.call? handoff).any fun call => Session.wakes call handoff

variable {producer next : Producer} {before after : Handoff}

theorem Took.eq_or_wakes (took : producer.Took before next after) :
    after = before ∨ producer.wakes before = true := by
  cases took with
  | called calls passes _ =>
      rcases (Move.passed passes).change.eq_or_wakes with same | wakes
      · exact .inl same
      · exact .inr (by simpa [Producer.wakes, calls, Event.wakes] using wakes)
  | silent => exact .inl rfl

theorem Took.isStreaming_eq_false (took : producer.Took before next after)
    (gone : next.isGone = true) : after.isStreaming = false := by
  cases took with
  | called _ _ ends => exact ends gone
  | silent _ stays => simp [stays] at gone

end Producer

/-! ## Two threads -/

namespace Meeting

/-- What a reader calls, but for closing the stream. -/
inductive Access where
  | metadata
  | fetch
  | isCancelled
  | isTerminal

def Access.call : Access → Session.Call
  | .metadata => .metadata
  | .fetch => .fetch
  | .isCancelled => .isCancelled
  | .isTerminal => .isTerminal

/-- The producer does its next step, or looks again whether it can. The reader makes a
call and looks whether it goes through, or closes the stream. Other threads cancel. A
thread can also wake for no reason. -/
inductive Act where
  | parse
  | ask (access : Access)
  | look
  | close
  | cancel
  | rouseProducer
  | rouseReader

end Meeting

open Meeting in
/-- A reader makes one call after the other. It has `closed` the stream with a call of its
own, not only seen it cancelled. -/
structure Meeting where
  producer : Producer
  handoff : Handoff := {}
  producerAsleep : Bool := false
  access : Option Access := none
  readerAsleep : Bool := false
  closed : Bool := false

namespace Meeting

def start (steps : List ParserStep) : Meeting :=
  { producer := .running steps }

def producerBlocked (meeting : Meeting) : Bool :=
  meeting.producer.isBlocked meeting.handoff

def readerBlocked (meeting : Meeting) : Bool :=
  meeting.access.any fun access => meeting.handoff.blocks access.call

def producerWaits (meeting : Meeting) : Prop :=
  meeting.producerAsleep = true ∨ meeting.producerBlocked = true

def readerWaits (meeting : Meeting) : Prop :=
  meeting.readerAsleep = true ∨ meeting.readerBlocked = true

def pass (meeting : Meeting) (wakes : Bool) (handoff : Handoff) : Meeting :=
  { meeting with
    handoff := handoff
    producerAsleep := meeting.producerAsleep && !wakes
    readerAsleep := meeting.readerAsleep && !wakes }

def cancel (meeting : Meeting) : Meeting :=
  meeting.pass (Session.wakes .cancel meeting.handoff) meeting.handoff.cancel

def act (meeting : Meeting) : Act → Meeting
  | .parse =>
      if meeting.producerAsleep then meeting
      else
        match meeting.producer.step? meeting.handoff with
        | none => { meeting with producerAsleep := meeting.producerBlocked }
        | some (producer, handoff) =>
            { meeting.pass (meeting.producer.wakes meeting.handoff) handoff with
              producer := producer }
  | .ask access =>
      if meeting.access.isSome then meeting
      else { meeting with access := some access }
  | .look =>
      match meeting.access, meeting.readerAsleep with
      | some access, false =>
          match Session.step? access.call meeting.handoff with
          | none => { meeting with readerAsleep := true }
          | some (_, handoff) =>
              { meeting.pass (Session.wakes access.call meeting.handoff) handoff with
                access := none }
      | _, _ => meeting
  | .close =>
      if meeting.access.isSome then meeting
      else { meeting.cancel with closed := true }
  | .cancel => meeting.cancel
  | .rouseProducer => { meeting with producerAsleep := false }
  | .rouseReader => { meeting with readerAsleep := false }

def after (meeting : Meeting) (acts : List Act) : Meeting :=
  acts.foldl act meeting

/-- Only a thread that is blocked sleeps. The stream is over once the producer has left or
the reader has closed it. -/
structure Orderly (meeting : Meeting) : Prop where
  reached : Leads {} meeting.handoff
  producer : meeting.producerAsleep = true → meeting.producerBlocked = true
  reader : meeting.readerAsleep = true → meeting.readerBlocked = true
  left : meeting.producer.isGone = true → meeting.handoff.isStreaming = false
  closed : meeting.closed = true → meeting.handoff.isStreaming = false

namespace Orderly

theorem start (steps : List ParserStep) : (Meeting.start steps).Orderly where
  reached := .refl _
  producer := nofun
  reader := nofun
  left := nofun
  closed := nofun

variable {meeting : Meeting}

theorem pass {wakes : Bool} {handoff : Handoff} (orderly : meeting.Orderly)
    (leads : Leads meeting.handoff handoff)
    (noticed : handoff = meeting.handoff ∨ wakes = true) :
    (meeting.pass wakes handoff).Orderly where
  reached := orderly.reached.trans leads
  producer asleep := by
    rcases noticed with rfl | rfl
    · exact orderly.producer (Bool.and_eq_true_iff.mp asleep).1
    · simp [Meeting.pass] at asleep
  reader asleep := by
    rcases noticed with rfl | rfl
    · exact orderly.reader (Bool.and_eq_true_iff.mp asleep).1
    · simp [Meeting.pass] at asleep
  left gone := leads.isStreaming_eq_false (orderly.left gone)
  closed closed := leads.isStreaming_eq_false (orderly.closed closed)

theorem cancel (orderly : meeting.Orderly) : meeting.cancel.Orderly :=
  orderly.pass (.cancel meeting.handoff) (.inr rfl)

theorem parse (orderly : meeting.Orderly) : (meeting.act .parse).Orderly := by
  simp only [act]
  split
  · exact orderly
  next awake =>
    split
    · exact { orderly with producer := id }
    next producer handoff steps =>
      have took := Producer.took steps
      have passed := orderly.pass took.leads took.eq_or_wakes
      exact
        { passed with
          producer := by simp [Meeting.pass, awake]
          left := took.isStreaming_eq_false }

theorem look (orderly : meeting.Orderly) : (meeting.act .look).Orderly := by
  simp only [act]
  split
  next access asks awake =>
    split
    next waits =>
      exact
        { orderly with
          reader := fun _ => by simpa [readerBlocked, asks] using step_eq_none_iff.mp waits }
    next answer handoff passes =>
      have passed := orderly.pass (.ofStep passes) (Move.passed passes).change.eq_or_wakes
      exact { passed with reader := by simp [Meeting.pass, awake] }
  · exact orderly

theorem readerAsleep_eq_false (orderly : meeting.Orderly)
    (idle : meeting.access = none) : meeting.readerAsleep = false := by
  cases asleep : meeting.readerAsleep with
  | false => rfl
  | true =>
      have blocked := orderly.reader asleep
      simp [readerBlocked, idle] at blocked

theorem act (orderly : meeting.Orderly) (act : Act) : (meeting.act act).Orderly := by
  cases act with
  | parse => exact orderly.parse
  | look => exact orderly.look
  | cancel => exact orderly.cancel
  | ask access =>
      simp only [Meeting.act]
      split
      · exact orderly
      next idle =>
        have awake := orderly.readerAsleep_eq_false (by simpa using idle)
        exact { orderly with reader := by simp [awake] }
  | close =>
      simp only [Meeting.act]
      split
      · exact orderly
      · exact { orderly.cancel with closed := fun _ => cancel_isStreaming meeting.handoff }
  | rouseProducer => exact { orderly with producer := nofun }
  | rouseReader => exact { orderly with reader := nofun }

theorem after (orderly : meeting.Orderly) (acts : List Act) :
    (meeting.after acts).Orderly := by
  induction acts generalizing meeting with
  | nil => exact orderly
  | cons act rest induction => exact induction (orderly.act act)

end Orderly

variable {meeting : Meeting}

theorem not_both_blocked (sound : meeting.handoff.Sound)
    (producer : meeting.producerBlocked = true) : meeting.readerBlocked = false := by
  -- A reader waits for metadata, which is known when there is a row, or for a row.
  rcases Producer.occupied_of_isBlocked producer with ⟨occupied, _⟩
  have resolved := sound.resolved occupied
  cases asked : meeting.access with
  | none => simp [readerBlocked, asked]
  | some access =>
      cases access with
      | metadata => simp [readerBlocked, asked, Access.call, blocks, isPending, resolved]
      | fetch =>
          have there : meeting.handoff.slot ≠ none := Option.isSome_iff_ne_none.mp occupied
          simp [readerBlocked, asked, Access.call, blocks, there]
      | isCancelled | isTerminal => simp [readerBlocked, asked, Access.call, blocks]

theorem readerBlocked_eq_false (stopped : meeting.handoff.isStreaming = false) :
    meeting.readerBlocked = false := by
  cases asked : meeting.access with
  | none => simp [readerBlocked, asked]
  | some access => simpa [readerBlocked, asked] using blocks_eq_false stopped access.call

theorem producerBlocked_eq_false (stopped : meeting.handoff.isStreaming = false) :
    meeting.producerBlocked = false := by
  cases blocked : meeting.producerBlocked with
  | false => rfl
  | true => simpa [stopped] using (Producer.occupied_of_isBlocked blocked).2

theorem Orderly.producerWaits_iff (orderly : meeting.Orderly) :
    meeting.producerWaits ↔ meeting.producerBlocked = true :=
  ⟨fun waits => waits.elim orderly.producer id, .inr⟩

theorem Orderly.readerWaits_iff (orderly : meeting.Orderly) :
    meeting.readerWaits ↔ meeting.readerBlocked = true :=
  ⟨fun waits => waits.elim orderly.reader id, .inr⟩

/-- A thread that waits has another one to wait for. It sleeps only as long as it is
blocked, since whatever lets its call go on also wakes it. -/
theorem waits_for_another (steps : List ParserStep) (acts : List Act) :
    let meeting := (Meeting.start steps).after acts
    ¬(meeting.producerWaits ∧ meeting.readerWaits) ∧
      (meeting.producer.isGone = true → ¬meeting.readerWaits) ∧
      (meeting.closed = true → ¬meeting.producerWaits) ∧
      (meeting.producerAsleep = true → meeting.producerBlocked = true) ∧
      (meeting.readerAsleep = true → meeting.readerBlocked = true) ∧
      ∀ before event after call, Move before event after →
        before.blocks call = true → after.blocks call = false →
        event.wakes before = true := by
  intro meeting
  have orderly : meeting.Orderly := (Orderly.start steps).after acts
  rw [orderly.producerWaits_iff, orderly.readerWaits_iff]
  refine ⟨?_, ?_, ?_, orderly.producer, orderly.reader, ?_⟩
  · rintro ⟨producer, reader⟩
    -- A history leads here, so a row in the slot has metadata.
    have free := not_both_blocked (orderly.reached.sound sound_fresh) producer
    exact Bool.false_ne_true (free.symm.trans reader)
  · intro gone blocked
    have free := readerBlocked_eq_false (orderly.left gone)
    exact Bool.false_ne_true (free.symm.trans blocked)
  · intro closed blocked
    have free := producerBlocked_eq_false (orderly.closed closed)
    exact Bool.false_ne_true (free.symm.trans blocked)
  · exact fun _ _ _ _ move blocked free => move.wakes blocked free

/-- A parser with a second row sleeps until the reader has closed the stream. -/
example :
    let meeting := (start
      [.metadata [{ name := "id", datatype := some "int" }], .row [.int 1], .row [.int 2]]).after
        [.parse, .parse, .parse]
    meeting.producerAsleep = true ∧ (meeting.act .close).producerAsleep = false :=
  ⟨rfl, rfl⟩

end Meeting

end TableIntake
