import TableIntake.Cell
import TableIntake.Column.Schema
import TableIntake.Fault

/-! # Handoff

The place where a parser leaves rows and a reader picks them up. It holds the metadata
once it is known, at most one row, and the phase of the stream. A step that has to wait
for the other side is no step here: the functions with a question mark give `none`.
-/

namespace TableIntake

inductive MetadataSlot where
  | pending
  | ready (columns : Metadata)
  | refused (fault : SchemaFault)
deriving DecidableEq, Repr

inductive Phase where
  | streaming
  | ended
  | cancelled
  | failed (fault : ParseFault)
deriving DecidableEq, Repr

structure Handoff where
  metadata : MetadataSlot := .pending
  slot : Option Row := none
  phase : Phase := .streaming

namespace Handoff

inductive Reply where
  | accepted
  | aborted
deriving DecidableEq, Repr

inductive Fetched where
  | row (cells : Row)
  | ended
  | cancelled

def isStreaming (handoff : Handoff) : Bool :=
  handoff.phase = .streaming

def isTerminal (handoff : Handoff) : Bool :=
  !handoff.isStreaming

def isCancelled (handoff : Handoff) : Bool :=
  handoff.phase = .cancelled

def isPending (handoff : Handoff) : Bool :=
  handoff.metadata = .pending

/-! ## The parser's side -/

/-- The first header counts. A header that does not resolve is kept as a fault for the
reader, and the parser goes on. -/
def acceptMetadata (header : Header) (handoff : Handoff) : Reply × Handoff :=
  if handoff.isCancelled then
    (.aborted, handoff)
  else if handoff.isPending then
    match header.metadata with
    | .ok columns => (.accepted, { handoff with metadata := .ready columns })
    | .error fault => (.accepted, { handoff with metadata := .refused fault })
  else
    (.accepted, handoff)

def prematureRow : ParseFault :=
  .format "row received before the table metadata"

/-- Waits while another row is in the slot. A row before the metadata fails the stream,
since the reader waits for the metadata first. A row without cells ends the rows. -/
def acceptRow? (row : Row) (handoff : Handoff) : Option (Reply × Handoff) :=
  match handoff.phase with
  | .streaming =>
      if handoff.slot.isSome then none
      else if handoff.isPending then some (.aborted, { handoff with phase := .failed prematureRow })
      else if row.isEmpty then some (.accepted, { handoff with phase := .ended })
      else some (.accepted, { handoff with slot := some row })
  | .ended | .cancelled | .failed _ => some (.aborted, handoff)

/-- A row in the slot stays there for the reader. -/
def endRows (handoff : Handoff) : Handoff :=
  match handoff.phase with
  | .streaming => { handoff with phase := .ended }
  | .cancelled => { handoff with slot := none }
  | .ended | .failed _ => handoff

def finish (handoff : Handoff) : Handoff :=
  if handoff.isStreaming then { handoff with phase := .ended } else handoff

/-- Only the first end of a stream counts. -/
def fail (fault : ParseFault) (handoff : Handoff) : Handoff :=
  if handoff.isStreaming then { handoff with phase := .failed fault } else handoff

/-! ## The reader's side -/

/-- Drops the row in the slot, in every phase. -/
def cancel (handoff : Handoff) : Handoff :=
  if handoff.isStreaming then
    { handoff with slot := none, phase := .cancelled }
  else
    { handoff with slot := none }

/-- A wait of the reader runs out. The bodies of this and of `cancel` agree: what streams is
cancelled, and the slot is emptied. -/
def interrupt (handoff : Handoff) : Handoff :=
  handoff.cancel

@[simp] theorem interrupt_eq_cancel (handoff : Handoff) : handoff.interrupt = handoff.cancel :=
  rfl

/-- Waits until the metadata is known or the stream is over. Over without metadata is no
fault unless the parser failed. -/
def metadata? (handoff : Handoff) : Option (Except ReadFault (Option Metadata)) :=
  match handoff.metadata with
  | .ready columns => some (.ok (some columns))
  | .refused fault => some (.error (.schema fault))
  | .pending =>
      match handoff.phase with
      | .streaming => none
      | .failed fault => some (.error (.parse fault))
      | .ended | .cancelled => some (.ok none)

/-- Waits until there is a row or the stream is over. A row that is still in the slot
comes before the end and before a failure, but not before a cancellation. -/
def fetch? (handoff : Handoff) : Option (Except ReadFault Fetched × Handoff) :=
  match handoff.phase, handoff.slot with
  | .cancelled, _ => some (.ok .cancelled, handoff)
  | _, some row => some (.ok (.row row), { handoff with slot := none })
  | .streaming, none => none
  | .failed fault, none => some (.error (.parse fault), handoff)
  | .ended, none => some (.ok .ended, handoff)

/-- What a reader gets whose wait for metadata runs out. -/
def expiredMetadata : Except ReadFault (Option Metadata) :=
  .ok none

def expiredFetch : Except ReadFault Fetched :=
  .ok .cancelled

end Handoff

end TableIntake
