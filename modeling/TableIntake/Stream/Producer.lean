import TableIntake.Handoff.State

/-! # Producers

A parser as the list of what it does at the handoff, and the thread that runs it. The
thread reports how the parser left, whichever way that is, and then finishes the stream.
-/

namespace TableIntake

/-- A parser that is refused `metadata` or a `row` stops. With `tryMetadata` and `tryRow` it
goes on all the same. `checkpoint` stops a parser whose stream is cancelled, `awaitCancel`
waits for that. At `crash` the parser breaks off without a fault of its own. `count` offers
rows of one 32-bit integer each, from the given one up. -/
inductive ParserStep where
  | metadata (header : Header)
  | row (row : Row)
  | tryMetadata (header : Header)
  | tryRow (row : Row)
  | endRows
  | checkpoint
  | fail (fault : ParseFault)
  | leave
  | crash
  | awaitCancel
  | count (next : Nat)

/-- A parser that has left is `settled` until its thread finishes the stream. -/
inductive Producer where
  | running (steps : List ParserStep)
  | settled
  | gone

def ParserStep.countEnd : Nat :=
  2147483648

/-- The rows that a step may hand over. -/
def ParserStep.rows : ParserStep → Nat
  | .row _ | .tryRow _ => 1
  | .count next => countEnd - next
  | _ => 0

namespace Producer

def parserPanicked : ParseFault :=
  .format "table parser panicked"

def resume (rest : List ParserStep) : Handoff.Reply × Handoff → Producer × Handoff
  | (.accepted, handoff) => (.running rest, handoff)
  | (.aborted, handoff) => (.settled, handoff)

def goOn (rest : List ParserStep) : Handoff.Reply × Handoff → Producer × Handoff
  | (_, handoff) => (.running rest, handoff)

/-- A parser that was told to stop is not at fault. -/
def report (fault : ParseFault) (handoff : Handoff) : Handoff :=
  if fault.isAborted || handoff.isCancelled then handoff else handoff.fail fault

def step? (producer : Producer) (handoff : Handoff) : Option (Producer × Handoff) :=
  match producer with
  | .gone => none
  | .settled => some (.gone, handoff.finish)
  | .running [] => some (.settled, handoff)
  | .running (step :: rest) =>
      match step with
      | .metadata header => some (resume rest (handoff.acceptMetadata header))
      | .row row => (handoff.acceptRow? row).map (resume rest)
      | .tryMetadata header => some (goOn rest (handoff.acceptMetadata header))
      | .tryRow row => (handoff.acceptRow? row).map (goOn rest)
      | .endRows => some (.running rest, handoff.endRows)
      | .checkpoint => some (if handoff.isCancelled then .settled else .running rest, handoff)
      | .fail fault => some (.settled, report fault handoff)
      | .leave => some (.settled, handoff)
      | .crash => some (.gone, handoff.fail parserPanicked)
      | .awaitCancel => if handoff.isCancelled then some (.settled, handoff) else none
      | .count next =>
          if next < ParserStep.countEnd then
            (handoff.acceptRow? [.int (Int32.ofNat next)]).map (resume (.count (next + 1) :: rest))
          else
            some (.running rest, handoff)

def isGone : Producer → Bool
  | .gone => true
  | _ => false

def remaining : Producer → Nat
  | .running steps => steps.foldr (fun step total => step.rows + total) 0
  | .settled | .gone => 0

/-- More steps than the producer can take while nobody empties the slot. Each step is
used up but for counting, which fills the slot and then waits. -/
def patience : Producer → Nat
  | .running steps => 2 * steps.length + 4
  | .settled | .gone => 4

def run : (fuel : Nat) → Producer → Handoff → Producer × Handoff
  | 0, producer, handoff => (producer, handoff)
  | fuel + 1, producer, handoff =>
      match producer.step? handoff with
      | none => (producer, handoff)
      | some (producer, handoff) => run fuel producer handoff

/-- Runs until a wait, or until `ready` holds of the handoff, or for `fuel` steps. -/
def runUntil (ready : Handoff → Bool) : (fuel : Nat) → Producer → Handoff → Producer × Handoff
  | 0, producer, handoff => (producer, handoff)
  | fuel + 1, producer, handoff =>
      if ready handoff then
        (producer, handoff)
      else
        match producer.step? handoff with
        | none => (producer, handoff)
        | some (producer, handoff) => runUntil ready fuel producer handoff

end Producer

end TableIntake
