import TableIntake.Handoff.State

/-! # Sessions

A handoff driven call by call. A call that has to wait is kept until a later call wakes
it and it can go on.
-/

namespace TableIntake

open Handoff

namespace Session

inductive Call where
  | acceptMetadata (header : Header)
  | acceptRow (row : Row)
  | endRows
  | finish
  | fail (fault : ParseFault)
  | cancel
  | metadata
  | fetch
  | isCancelled
  | isTerminal

inductive Answer where
  | done
  | aborted
  | truth (value : Bool)
  | metadata (columns : Option Metadata)
  | fetched (fetched : Fetched)
  | fault (fault : ReadFault)
  | waiting

def ofReply : Reply → Answer
  | .accepted => .done
  | .aborted => .aborted

def ofMetadata : Except ReadFault (Option Metadata) → Answer
  | .ok columns => .metadata columns
  | .error fault => .fault fault

def ofFetch : Except ReadFault Fetched → Answer
  | .ok fetched => .fetched fetched
  | .error fault => .fault fault

/-- The answer and the handoff after it, unless the call has to wait. -/
def step? (call : Call) (handoff : Handoff) : Option (Answer × Handoff) :=
  match call with
  | .acceptMetadata header =>
      let (reply, handoff) := handoff.acceptMetadata header
      some (ofReply reply, handoff)
  | .acceptRow row => (handoff.acceptRow? row).map fun (reply, handoff) => (ofReply reply, handoff)
  | .endRows => some (.done, handoff.endRows)
  | .finish => some (.done, handoff.finish)
  | .fail fault => some (.done, handoff.fail fault)
  | .cancel => some (.done, handoff.cancel)
  | .metadata => handoff.metadata?.map fun answer => (ofMetadata answer, handoff)
  | .fetch => handoff.fetch?.map fun (answer, handoff) => (ofFetch answer, handoff)
  | .isCancelled => some (.truth handoff.isCancelled, handoff)
  | .isTerminal => some (.truth handoff.isTerminal, handoff)

/-- The answer of a reader's call whose wait runs out. A parser waits as long as it
takes. -/
def expired? : Call → Option Answer
  | .metadata => some (ofMetadata expiredMetadata)
  | .fetch => some (ofFetch expiredFetch)
  | _ => none

/-- Whether a call that does not wait wakes the calls that do. -/
def wakes (call : Call) (handoff : Handoff) : Bool :=
  match call with
  | .acceptMetadata _ => !handoff.isCancelled && handoff.isPending
  | .acceptRow _ => handoff.isStreaming
  | .endRows | .finish | .fail _ | .cancel => true
  | .fetch => !handoff.isCancelled && handoff.slot.isSome
  | .metadata | .isCancelled | .isTerminal => false

/-- Lets the calls go on that can by now, the oldest first. Gives their answers and the
calls that still wait. -/
def resume : List Call → Handoff → List (Call × Answer) × List Call × Handoff
  | [], handoff => ([], [], handoff)
  | call :: rest, handoff =>
      match step? call handoff with
      | some (answer, handoff) =>
          let (released, waiting, handoff) := resume rest handoff
          ((call, answer) :: released, waiting, handoff)
      | none =>
          let (released, waiting, handoff) := resume rest handoff
          (released, call :: waiting, handoff)

end Session

open Session in
/-- `impatient` if a reader's wait runs out. -/
structure Session where
  impatient : Bool
  handoff : Handoff := {}
  waiting : List Call := []

namespace Session

def wake (session : Session) : List (Call × Answer) × Session :=
  let (released, waiting, handoff) := resume session.waiting session.handoff
  (released, { session with handoff := handoff, waiting := waiting })

/-- The answer of a call, and the calls that it releases with their answers. A wait that
runs out interrupts the stream. -/
def call (call : Call) (session : Session) : Answer × List (Call × Answer) × Session :=
  match step? call session.handoff with
  | some (answer, handoff) =>
      if wakes call session.handoff then
        (answer, { session with handoff := handoff }.wake)
      else
        (answer, [], { session with handoff := handoff })
  | none =>
      match session.impatient, expired? call with
      | true, some answer =>
          (answer, { session with handoff := session.handoff.interrupt }.wake)
      | _, _ => (.waiting, [], { session with waiting := session.waiting ++ [call] })

end Session

end TableIntake
