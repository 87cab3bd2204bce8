import TableIntake.Proofs.Handoff.Announcement
import TableIntake.Proofs.Stream.Remaining

/-! # What is handed over

Whatever the threads do, a reader gets no columns but those of the header that the parser tells, and
no rows but those that the parser hands over.
-/

namespace TableIntake

open Handoff

def ParserStep.Within (header : Header) (rows : List Row) : ParserStep → Prop
  | .metadata told | .tryMetadata told => told = header
  | .row told | .tryRow told => told ∈ rows
  | .count _ => False
  | .endRows | .checkpoint | .fail _ | .leave | .crash | .awaitCancel => True

def Session.Call.Within (header : Header) (rows : List Row) : Session.Call → Prop
  | .acceptMetadata told => told = header
  | .acceptRow row => row ∈ rows
  | _ => True

namespace Handoff

variable {header : Header} {rows : List Row} {before after : Handoff} {call : Session.Call}
  {answer : Session.Answer}

structure Within (header : Header) (rows : List Row) (handoff : Handoff) : Prop where
  metadata : ∀ columns, handoff.metadata = .ready columns → header.metadata = .ok columns
  slot : ∀ row, handoff.slot = some row → row ∈ rows

theorem Within.fresh (header : Header) (rows : List Row) : Within header rows {} :=
  ⟨nofun, nofun⟩

theorem ready_of_acceptMetadata {columns : Metadata}
    (ready : (before.acceptMetadata header).2.metadata = .ready columns) :
    before.metadata = .ready columns ∨ header.metadata = .ok columns := by
  unfold acceptMetadata at ready
  split at ready
  · exact .inl ready
  · split at ready
    · split at ready
      next resolves =>
        cases ready
        exact .inr resolves
      next => cases ready
    · exact .inl ready

theorem Within.step (within : before.Within header rows) (brings : call.Within header rows)
    (passes : Session.step? call before = some (answer, after)) : after.Within header rows where
  metadata columns ready := by
    rcases metadata_of_step passes with same | ⟨told, rfl, rfl⟩
    · rw [same] at ready
      exact within.metadata columns ready
    · rcases ready_of_acceptMetadata ready with earlier | resolves
      · exact within.metadata columns earlier
      · obtain rfl : told = header := brings
        exact resolves
  slot row there := by
    have change := (Move.passed passes).change
    cases change with
    | nothing | resolved | stopped => exact within.slot row there
    | cleared | emptied => cases there
    | cancelled =>
        rw [cancel_slot] at there
        cases there
    | filled =>
        cases there
        exact brings

end Handoff

/-! ## Producers -/

namespace Producer

variable {header : Header} {rows : List Row} {producer next : Producer} {before after : Handoff}

/-- All that was told, and all that is yet to be told, is this header and these rows. -/
structure Deals (header : Header) (rows : List Row) (producer : Producer) (handoff : Handoff) :
    Prop where
  steps : ∀ steps, producer = .running steps → ∀ step ∈ steps, step.Within header rows
  handoff : handoff.Within header rows

theorem Deals.start {steps : List ParserStep} (within : ∀ step ∈ steps, step.Within header rows) :
    Deals header rows (.running steps) {} where
  steps := by
    intro same equal
    cases equal
    exact within
  handoff := .fresh header rows

theorem Deals.call (deals : producer.Deals header rows before) {call : Session.Call}
    (calls : producer.call? before = some call) : call.Within header rows := by
  cases producer with
  | gone => cases calls
  | settled =>
      cases calls
      trivial
  | running remaining =>
      cases remaining with
      | nil => cases calls
      | cons step rest =>
          have told := deals.steps _ rfl step (.head rest)
          cases step with
          | metadata | tryMetadata | row | tryRow =>
              cases calls
              exact told
          | endRows | checkpoint | awaitCancel | crash =>
              cases calls
              trivial
          | leave => cases calls
          | fail fault =>
              simp only [call?] at calls
              split at calls <;> cases calls
              trivial
          | count => cases told

theorem Deals.rest (deals : producer.Deals header rows before)
    (steps : producer.step? before = some (next, after)) :
    ∀ rest, next = .running rest → ∀ step ∈ rest, step.Within header rows := by
  rintro rest rfl
  cases producer with
  | gone => cases steps
  | settled => cases steps
  | running remaining =>
      cases remaining with
      | nil => cases steps
      | cons step later =>
          rcases next_cases steps with left | same | ⟨number, _, rfl, _⟩
          · cases left
          · cases same
            exact fun other member => deals.steps _ rfl other (.tail step member)
          · cases deals.steps _ rfl _ (.head later)

theorem Deals.stable (header : Header) (rows : List Row) : Stable (Deals header rows) where
  step deals steps := by
    refine ⟨deals.rest steps, ?_⟩
    cases took steps with
    | called calls passes => exact deals.handoff.step (deals.call calls) passes
    | silent => exact deals.handoff
  take deals fetches := by
    have brings : Session.Call.Within header rows .fetch := trivial
    exact ⟨deals.steps, deals.handoff.step brings (Session.step?_fetch fetches)⟩
  stop {_ handoff} deals := by
    have passes : Session.step? .cancel handoff = some (.done, handoff.cancel) := rfl
    have brings : Session.Call.Within header rows .cancel := trivial
    exact ⟨deals.steps, deals.handoff.step brings passes⟩

end Producer

/-! ## Streams -/

namespace Stream

variable {header : Header} {rows : List Row} {stream : Stream}

theorem columns_of_metadata (deals : stream.producer.Deals header rows stream.handoff)
    {columns : Metadata} (told : stream.metadata.1 = .ok (some columns)) :
    header.metadata = .ok columns := by
  have stable := Producer.Deals.stable header rows
  rcases stable.metadata_told deals told nofun with ⟨met, reached, known⟩
  apply reached.handoff.metadata
  unfold metadata? at known
  split at known
  next ready =>
    cases known
    exact ready
  · cases known
  · split at known <;> cases known

theorem mem_of_fetch (deals : stream.producer.Deals header rows stream.handoff) {row : Row}
    (told : stream.fetch.1 = .ok (.row row)) : row ∈ rows := by
  have stable := Producer.Deals.stable header rows
  rcases stable.fetch_told deals told nofun with ⟨met, reached, fetches⟩
  exact reached.handoff.slot row (taken_of_fetch fetches).1

end Stream

end TableIntake
