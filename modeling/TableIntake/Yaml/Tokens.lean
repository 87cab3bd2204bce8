import TableIntake.Yaml.Token

/-! # The tokens of a text

A key is recognised only when the colon behind it is met. Until then the place where it
would begin is kept, one such place for each level of braces and brackets, and the token
there waits.
-/

namespace TableIntake.Yaml

/-- Where a key would begin. It has to be one if it opens a line at the indentation of the
mapping it stands in. -/
structure KeySpot where
  token : Nat
  index : Nat
  mark : Mark
  required : Bool

/-- `told` counts the tokens that were given away, and `waiting` holds those behind them.
`indents` holds the columns of the open block collections, innermost first. `spots` has one
entry for each open brace or bracket and one for the text around them, innermost first. -/
structure Scan where
  place : Place
  told : Nat := 0
  waiting : List Located := []
  indents : List Nat := []
  spots : List (Option KeySpot) := [none]
  keyAllowed : Bool := true
  isOver : Bool := false

namespace Scan

def inFlow (scan : Scan) : Bool :=
  1 < scan.spots.length

def indent? (scan : Scan) : Option Nat :=
  scan.indents.head?

def leastColumn (scan : Scan) : Nat :=
  match scan.indent? with
  | some indent => indent + 1
  | none => 0

def count (scan : Scan) : Nat :=
  scan.told + scan.waiting.length

def emit (token : Token) (place : Place) (scan : Scan) : Scan :=
  let located : Located := ⟨token, scan.place.mark, place.mark⟩
  { scan with waiting := scan.waiting ++ [located], place := place }

def insert (token : Token) (mark : Mark) (position : Nat) (scan : Scan) : Scan :=
  { scan with waiting := scan.waiting.insertIdx (position - scan.told) ⟨token, mark, mark⟩ }

def allowKey (allowed : Bool) (scan : Scan) : Scan :=
  { scan with keyAllowed := allowed }

def problem (problem : Problem) (scan : Scan) : SyntaxFault :=
  .met problem scan.place.mark none

/-! ## Places of keys -/

def keyFault (spot : KeySpot) (scan : Scan) : SyntaxFault :=
  Undertaking.fault ⟨.simpleKey, spot.mark⟩ .noColon scan.place

/-- A key fits on one line and in 1024 characters. -/
def isStale (place : Place) (spot : KeySpot) : Bool :=
  spot.mark.line < place.line || spot.index + 1024 < place.index

/-- Gives up the places of keys that the scan is too far from. A required one has to be used
before. -/
def dropStale (scan : Scan) : Except SyntaxFault Scan :=
  let isPast (spot : Option KeySpot) : Bool := spot.any (isStale scan.place)
  match scan.spots.findSome? fun spot => spot.filter fun spot =>
      isStale scan.place spot && spot.required with
  | some spot => .error (scan.keyFault spot)
  | none =>
      .ok { scan with spots := scan.spots.map fun spot => if isPast spot then none else spot }

def dropSpot (scan : Scan) : Except SyntaxFault Scan :=
  match scan.spots with
  | some spot :: rest =>
      if spot.required then .error (scan.keyFault spot)
      else .ok { scan with spots := none :: rest }
  | _ => .ok scan

def keepSpot (scan : Scan) : Except SyntaxFault Scan :=
  if scan.keyAllowed then do
    let scan ← scan.dropSpot
    let spot : KeySpot :=
      { token := scan.count
        index := scan.place.index
        mark := scan.place.mark
        required := !scan.inFlow && scan.indent? = some scan.place.column }
    return { scan with spots := some spot :: scan.spots.tail }
  else
    .ok scan

/-! ## Indentation -/

def roll (token : Token) (mark : Mark) (position : Nat) (scan : Scan) : Scan :=
  if scan.inFlow || scan.indent?.any (mark.column ≤ ·) then scan
  else { scan with indents := mark.column :: scan.indents }.insert token mark position

def unroll (column : Option Nat) (scan : Scan) : Scan :=
  if scan.inFlow then scan
  else
    let isOpen (indent : Nat) : Bool := column.any (indent ≤ ·)
    let closed := scan.indents.takeWhile fun indent => !isOpen indent
    let mark := scan.place.mark
    { scan with
      indents := scan.indents.drop closed.length
      waiting := scan.waiting ++ closed.map fun _ => ⟨.blockEnd, mark, mark⟩ }

/-! ## Tokens -/

/-- Skips marks, blanks, comments and line breaks. A tab counts as a blank only where no key can
begin. Behind a line break one can. -/
def toNextToken : (fuel : Nat) → Scan → Scan
  | 0, scan => scan
  | fuel + 1, scan =>
      let isBlank (c : Char) : Bool :=
        c = ' ' || ((scan.inFlow || !scan.keyAllowed) && c = '\t')
      let place := scan.place.skipMark.skipWhile isBlank
      let place := if place.ahead.head? = some '#' then place.skipToLineEnd else place
      match place.takeBreak? with
      | none => { scan with place := place }
      | some (_, place) =>
          let keyAllowed := scan.keyAllowed || !scan.inFlow
          toNextToken fuel { scan with place := place, keyAllowed := keyAllowed }

def atOuterLevel (scan : Scan) : Except SyntaxFault Scan := do
  let scan ← (scan.unroll none).dropSpot
  return scan.allowKey false

def openFlow (token : Token) (scan : Scan) : Except SyntaxFault Scan := do
  let scan ← scan.keepSpot
  let scan := (scan.allowKey true).emit token (scan.place.skip 1)
  return { scan with spots := none :: scan.spots }

def closeFlow (token : Token) (scan : Scan) : Except SyntaxFault Scan := do
  let scan ← scan.dropSpot
  let spots := if scan.inFlow then scan.spots.tail else scan.spots
  return ({ scan with spots := spots }.allowKey false).emit token (scan.place.skip 1)

def comma (scan : Scan) : Except SyntaxFault Scan := do
  let scan ← scan.dropSpot
  return (scan.allowKey true).emit .flowEntry (scan.place.skip 1)

def dash (scan : Scan) : Except SyntaxFault Scan := do
  if !scan.inFlow && !scan.keyAllowed then .error (scan.problem .entryNotAllowed)
  else
    let scan ← (scan.roll .blockSequenceStart scan.place.mark scan.count).dropSpot
    return (scan.allowKey true).emit .blockEntry (scan.place.skip 1)

def questionMark (scan : Scan) : Except SyntaxFault Scan := do
  if !scan.inFlow && !scan.keyAllowed then .error (scan.problem .keyNotAllowed)
  else
    let scan ← (scan.roll .blockMappingStart scan.place.mark scan.count).dropSpot
    return (scan.allowKey (!scan.inFlow)).emit .key (scan.place.skip 1)

def colon (scan : Scan) : Except SyntaxFault Scan :=
  let next := scan.place.skip 1
  match scan.spots with
  | some spot :: rest =>
      let scan := { scan with spots := none :: rest }.insert .key spot.mark spot.token
      .ok (((scan.roll .blockMappingStart spot.mark spot.token).allowKey false).emit .value next)
  | _ =>
      if scan.inFlow then .ok ((scan.allowKey false).emit .value next)
      else if !scan.keyAllowed then .error (scan.problem .valueNotAllowed)
      else .ok ((scan.roll .blockMappingStart scan.place.mark scan.count).emit .value next)

def anchored (activity : Activity) (token : List Char → Token) (scan : Scan) :
    Except SyntaxFault Scan := do
  let scan ← scan.keepSpot
  let (name, place) ← anchorName activity scan.place
  return (scan.allowKey false).emit (token name) place

def tagged (scan : Scan) : Except SyntaxFault Scan := do
  let scan ← scan.keepSpot
  let (token, place) ← tagToken scan.place
  if endsWord place.ahead || (scan.inFlow && place.ahead.head? = some ',') then
    return (scan.allowKey false).emit token place
  else .error (Undertaking.fault ⟨.tag, scan.place.mark⟩ .noWordEnd place)

def block (style : Style) (scan : Scan) : Except SyntaxFault Scan := do
  let scan ← scan.dropSpot
  let scanned ← blockScalar style scan.indent? scan.place
  return (scan.allowKey true).emit (.scalar style scanned.text) scanned.place

def quoted (style : Style) (quote : Char) (scan : Scan) : Except SyntaxFault Scan := do
  let scan ← scan.keepSpot
  let scanned ← quotedScalar quote scan.place
  return (scan.allowKey false).emit (.scalar style scanned.text) scanned.place

def plain (scan : Scan) : Except SyntaxFault Scan := do
  let scan ← scan.keepSpot
  let scanned ← plainScalar scan.inFlow scan.leastColumn scan.place
  return (scan.allowKey scanned.crossed).emit (.scalar .plain scanned.text) scanned.place

def isIndicator (c : Char) : Bool :=
  ['-', '?', ':', ',', '[', ']', '\x7b', '\x7d', '#', '&', '*', '!', '|', '>', '\'', '"', '%', '@',
    '\x60'].contains c

def beginsPlain (inFlow : Bool) (c : Char) (rest : List Char) : Bool :=
  (!endsWord [c] && !isIndicator c) ||
    (c = '-' && !rest.head?.any isSpaceOrTab) ||
    (!inFlow && (c = '?' || c = ':') && !endsWord rest)

def token (c : Char) (rest : List Char) (scan : Scan) : Except SyntaxFault Scan :=
  let marks := scan.inFlow || endsWord rest
  if scan.place.column = 0 && c = '%' then do
    let start := scan.place.mark
    let scan ← scan.atOuterLevel
    let (token, place) ← directive scan.place
    return scan.emit token (← skipDirectiveEnd start place)
  else if scan.place.atMarker '-' then do
    return (← scan.atOuterLevel).emit .documentStart (scan.place.skip 3)
  else if scan.place.atMarker '.' then do
    return (← scan.atOuterLevel).emit .documentEnd (scan.place.skip 3)
  else if c = '[' then scan.openFlow .flowSequenceStart
  else if c = '\x7b' then scan.openFlow .flowMappingStart
  else if c = ']' then scan.closeFlow .flowSequenceEnd
  else if c = '\x7d' then scan.closeFlow .flowMappingEnd
  else if c = ',' then scan.comma
  else if c = '-' && endsWord rest then scan.dash
  else if c = '?' && marks then scan.questionMark
  else if c = ':' && marks then scan.colon
  else if c = '*' then scan.anchored .alias .alias
  else if c = '&' then scan.anchored .anchor .anchor
  else if c = '!' then scan.tagged
  else if c = '|' && !scan.inFlow then scan.block .literal
  else if c = '>' && !scan.inFlow then scan.block .folded
  else if c = '\'' then scan.quoted .singleQuoted c
  else if c = '"' then scan.quoted .doubleQuoted c
  else if beginsPlain scan.inFlow c rest then scan.plain
  else .error (Undertaking.fault ⟨.token, scan.place.mark⟩ .noToken scan.place)

def finish (scan : Scan) : Except SyntaxFault Scan := do
  let place := scan.place
  let place :=
    if place.column = 0 then place else { place with line := place.line + 1, column := 0 }
  let scan ← ({ scan with place := place }.unroll none).dropSpot
  return { scan.emit .streamEnd place with isOver := true }

def fetch (scan : Scan) : Except SyntaxFault Scan := do
  let scan ← (scan.toNextToken (scan.place.ahead.length + 1)).dropStale
  let scan := scan.unroll (some scan.place.column)
  match scan.place.ahead with
  | [] => scan.finish
  | c :: rest => scan.token c rest

def awaitsKey (scan : Scan) : Bool :=
  scan.spots.any fun spot => spot.any fun spot => spot.token = scan.told

end Scan

structure Tokens where
  list : List Located := []
  fault : Option SyntaxFault := none

namespace Tokens

/-- The tokens that a scan goes on to tell. Each is told as soon as it is known not to stand
in a key, or to stand in one. -/
def ofScan : (fuel : Nat) → Scan → Tokens
  | 0, _ => {}
  | fuel + 1, scan =>
      let fetched (scan : Scan) : Tokens :=
        if scan.isOver then {}
        else
          match scan.fetch with
          | .error fault => { fault := some fault }
          | .ok scan => ofScan fuel scan
      match scan.waiting with
      | [] => fetched scan
      | token :: rest =>
          match scan.dropStale with
          | .error fault => { fault := some fault }
          | .ok scan =>
              if scan.awaitsKey then fetched scan
              else
                let others := ofScan fuel { scan with told := scan.told + 1, waiting := rest }
                { others with list := token :: others.list }

def ofText (text : String) : Tokens :=
  let characters := text.toList
  match characters.findIdx? fun c => !isAllowed c with
  | some index =>
      { fault := some (.forbidden (String.ofList (characters.take index)).utf8ByteSize) }
  | none => ofScan (8 * (characters.length + 2)) { place := { ahead := characters } }

end Tokens

end TableIntake.Yaml
