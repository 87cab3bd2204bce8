import TableIntake.Stream.Producer

/-! # Streams

A producer and a reader that meet at a handoff, each in a thread of its own. A schedule
says what the other threads do before each access of the reader. Every interleaving in which
the reader gets its answers is the run of some schedule: an access that waits and is woken later
gives the same answer as one that comes later.
-/

namespace TableIntake

inductive Interference where
  | parse
  | cancel
deriving DecidableEq, Repr

/-- What happens before one access of the reader, and whether its wait runs out if it
has to wait then. -/
structure Turn where
  before : List Interference
  expires : Bool

/-- `impatient` if the reader's waits are limited. Past its schedule, the producer runs as
far as it can before every access. -/
structure Stream where
  producer : Producer
  handoff : Handoff := {}
  impatient : Bool := false
  schedule : List Turn := []

namespace Stream

def start (steps : List ParserStep) (impatient : Bool) : Stream :=
  { producer := .running steps, impatient := impatient }

def interfere (stream : Stream) : Interference → Stream
  | .cancel => { stream with handoff := stream.handoff.cancel }
  | .parse =>
      match stream.producer.step? stream.handoff with
      | none => stream
      | some (producer, handoff) => { stream with producer := producer, handoff := handoff }

def settle (stream : Stream) : Stream :=
  let (producer, handoff) := stream.producer.run stream.producer.patience stream.handoff
  { stream with producer := producer, handoff := handoff }

/-- What precedes the next access, and whether a wait runs out then. -/
def next (stream : Stream) : Bool × Stream :=
  match stream.schedule with
  | [] => (false, stream.settle)
  | turn :: rest =>
      (turn.expires && stream.impatient,
        turn.before.foldl interfere { stream with schedule := rest })

def act (change : Handoff → Handoff) (stream : Stream) : Stream :=
  let (_, stream) := stream.next
  { stream with handoff := change stream.handoff }

/-- Lets the producer run until the handoff is `ready`, or as far as it can. -/
def runUntil (ready : Handoff → Bool) (stream : Stream) : Stream :=
  let (producer, handoff) := stream.producer.runUntil ready stream.producer.patience stream.handoff
  { stream with producer := producer, handoff := handoff }

/-- Where an access finds the stream. If its wait runs out, the producer comes no further. -/
def reach (ready : Handoff → Bool) (stream : Stream) : Stream :=
  match stream.next with
  | (true, stream) => stream
  | (false, stream) => stream.runUntil ready

/-- An access that waits until it gets an answer. A wait that runs out gives `expired`. There is no
answer if the wait has no limit and nothing can end it. -/
def await? (access : Handoff → Option (α × Handoff)) (expired : α) (stream : Stream) :
    Option (α × Stream) :=
  match stream.reach fun handoff => (access handoff).isSome with
  | { producer, handoff, impatient, schedule } =>
      match access handoff with
      | some (answer, handoff) => some (answer, { producer, handoff, impatient, schedule })
      | none =>
          if impatient then
            some (expired, { producer, handoff := handoff.interrupt, impatient, schedule })
          else
            none

/-- An access to a stream that somebody cancels if nothing else would end the wait. To the reader
that is the same as if its wait had run out. -/
def await (access : Handoff → Option (α × Handoff)) (expired : α) (stream : Stream) :
    α × Stream :=
  match stream.await? access expired with
  | some answered => answered
  | none =>
      let met := stream.reach fun handoff => (access handoff).isSome
      (expired, { met with handoff := met.handoff.cancel })

def metadata (stream : Stream) : Except ReadFault (Option Metadata) × Stream :=
  stream.await (fun handoff => handoff.metadata?.map fun answer => (answer, handoff))
    Handoff.expiredMetadata

def fetch (stream : Stream) : Except ReadFault Handoff.Fetched × Stream :=
  stream.await Handoff.fetch? Handoff.expiredFetch

def cancel (stream : Stream) : Stream :=
  stream.act Handoff.cancel

def remaining (stream : Stream) : Nat :=
  stream.handoff.slot.elim 0 (fun _ => 1) + stream.producer.remaining

def failure? (stream : Stream) : Option ParseFault :=
  match stream.handoff.phase with
  | .failed fault => some fault
  | _ => none

end Stream

end TableIntake
