import TableIntake.Document.Basic
import TableIntake.Stream.Producer

/-! # Parsing documents

What the parser of documents does at the handoff.
-/

namespace TableIntake

def shortRead : ParseFault :=
  .arrow (.io "failed to fill whole buffer")

def Breakdown.step : Breakdown → ParserStep
  | .fault cause => .fail cause
  | .crash => .crash

/-- What follows the batches. The last batch of a cut document is not read. -/
def Document.ending (document : Document) : List ParserStep :=
  if document.isCut then [.checkpoint, .fail shortRead] else [.endRows]

/-- The parser looks for a cancellation once for each batch, and ends with the first batch
that breaks down. -/
def Document.stepsOfBatches (document : Document) : List Batch → List ParserStep
  | [] => document.ending
  | batch :: rest =>
      match batch.rowsOf document.fields with
      | .ok rows => .checkpoint :: rows.map .row ++ document.stepsOfBatches rest
      | .error breakdown => [.checkpoint, breakdown.step]

def unreadableMessage (reason : String) : ParseFault :=
  .arrow (.parser ("Unable to get root as message: " ++ reason))

/-- Fields that have more than so many levels of types below them cannot be read. -/
def mostLevels : Nat :=
  60

def Document.steps (document : Document) : List ParserStep :=
  if document.isCut && document.batches.isEmpty then
    [.fail shortRead]
  else if document.fields.any (mostLevels < ·.type.levels) then
    [.fail (unreadableMessage "DepthLimitReached")]
  else
    .metadata document.header :: document.stepsOfBatches document.readable

/-! ## Bytes

Bytes that hold no document are refused by their first message: its length in four
bytes, low ones first, possibly behind a mark, and then as many bytes.
-/

def isContinuationMark (bytes : List UInt8) : Bool :=
  bytes == [0xFF, 0xFF, 0xFF, 0xFF]

def littleEndian (bytes : List UInt8) : Nat :=
  bytes.foldr (fun byte rest => byte.toNat + 256 * rest) 0

def emptyMessage : ParseFault :=
  unreadableMessage "RangeOutOfBounds \x7b range: 0..4, error_trace: ErrorTrace([]) \x7d"

/-- A length beyond the positive 32-bit integers is more than the parser survives. -/
def stepsOfMessage (bytes : List UInt8) : List ParserStep :=
  let length := littleEndian (bytes.take 4)
  if bytes.length < 4 then [.fail shortRead]
  else if 2147483648 ≤ length then [.crash]
  else if bytes.length - 4 < length then [.fail shortRead]
  else [.fail emptyMessage]

def stepsOfBytes (bytes : List UInt8) : List ParserStep :=
  stepsOfMessage (if isContinuationMark (bytes.take 4) then bytes.drop 4 else bytes)

end TableIntake
