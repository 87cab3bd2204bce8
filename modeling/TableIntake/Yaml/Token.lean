import TableIntake.Yaml.Scalar

/-! # Tokens

The marks and scalars of a document, in order. A collection in block form has no mark of its
own: its start is found by indentation, and a key only by the colon behind it.
-/

namespace TableIntake.Yaml

abbrev Tag := List UInt8

inductive Token where
  | version (major minor : Nat)
  | tagHandle (handle : List Char) (replacement : Tag)
  | documentStart
  | documentEnd
  | streamEnd
  | blockSequenceStart
  | blockMappingStart
  | blockEnd
  | flowSequenceStart
  | flowSequenceEnd
  | flowMappingStart
  | flowMappingEnd
  | blockEntry
  | flowEntry
  | key
  | value
  | alias (name : List Char)
  | anchor (name : List Char)
  | tag (handle : List Char) (suffix : Tag)
  | scalar (style : Style) (text : List Char)
deriving DecidableEq, Repr

structure Located where
  token : Token
  start : Mark
  stop : Mark

/-! ## Anchors -/

def anchorName (activity : Activity) (place : Place) : Except SyntaxFault (List Char × Place) :=
  let name := (place.skip 1).ahead.takeWhile isNameCharacter
  let next := place.skip (1 + name.length)
  let ends := endsWord next.ahead ||
    next.ahead.head?.any ['?', ':', ',', ']', '\x7d', '%', '@', '\x60'].contains
  if name.isEmpty || !ends then .error (Undertaking.fault ⟨activity, place.mark⟩ .noAnchorName next)
  else .ok (name, next)

/-! ## Tags -/

def tagMarks : List Char :=
  [';', '/', '?', ':', '@', '&', '=', '+', '$', '.', '%', '!', '~', '*', '\'', '(', ')']

def isTagCharacter (c : Char) : Bool :=
  isNameCharacter c || tagMarks.contains c

def isVerbatimCharacter (c : Char) : Bool :=
  isTagCharacter c || c = ',' || c = '[' || c = ']'

def tagOfText (text : String) : Tag :=
  text.toUTF8.data.toList

def followers? (lead : UInt8) : Option Nat :=
  if lead < 0x80 then some 0
  else if lead < 0xC0 then none
  else if lead < 0xE0 then some 1
  else if lead < 0xF0 then some 2
  else if lead < 0xF8 then some 3
  else none

/-- The bytes of a tag, with each byte that is written as a percent sign and two digits put
in its place. The bytes of a character, of which `due` are yet to come, are all written in
the one way or all in the other. -/
def tagBytes : (due : Nat) → List Char → Except Ahead Tag
  | 0, [] => .ok []
  | due, '%' :: high :: low :: rest =>
      match (Text.bytesOfHex? [high, low]).bind List.head? with
      | none => .error ⟨.noOctet, 0⟩
      | some byte =>
          let left := match due with
            | 0 => followers? byte
            | due + 1 => if 0x80 ≤ byte && byte < 0xC0 then some due else none
          match left with
          | none => .error ⟨if due = 0 then .leadingOctet else .trailingOctet, 0⟩
          | some left =>
              match tagBytes left rest with
              | .error ahead => .error (ahead.behind 3)
              | .ok others => .ok (byte :: others)
  | 0, c :: rest =>
      if c = '%' then .error ⟨.noOctet, 0⟩
      else
        match tagBytes 0 rest with
        | .error ahead => .error (ahead.behind 1)
        | .ok others => .ok (tagOfText c.toString ++ others)
  | _ + 1, _ => .error ⟨.noOctet, 0⟩

def tagHandle (place : Place) : List Char × Place :=
  let name := (place.ahead.drop 1).takeWhile isNameCharacter
  let next := place.skip (1 + name.length)
  if next.ahead.head? = some '!' then ('!' :: name ++ ['!'], next.skip 1)
  else ('!' :: name, next)

def isWholeHandle (handle : List Char) : Bool :=
  2 ≤ handle.length && handle.getLast? = some '!'

def tagPart (during : Undertaking) (test : Char → Bool) (place : Place) :
    Except SyntaxFault (Tag × Place) :=
  let written := place.ahead.takeWhile test
  match tagBytes 0 written with
  | .error ahead => .error (during.fault ahead.problem (place.skip ahead.distance))
  | .ok bytes => .ok (bytes.takeWhile (· ≠ 0), place.skip written.length)

def writtenTagPart (during : Undertaking) (test : Char → Bool) (place : Place) :
    Except SyntaxFault (Tag × Place) :=
  if place.ahead.head?.any test then tagPart during test place
  else .error (during.fault .noTag place)

def loneMark : Tag :=
  tagOfText "!"

/-- A tag whose indicator is ahead. One with neither handle nor suffix is a lone
exclamation mark. -/
def tagToken (place : Place) : Except SyntaxFault (Token × Place) :=
  let during : Undertaking := ⟨.tagText, place.mark⟩
  if place.ahead.take 2 = ['!', '<'] then do
    let (tag, next) ← writtenTagPart during isVerbatimCharacter (place.skip 2)
    if next.ahead.head? = some '>' then return (.tag [] tag, next.skip 1)
    else .error (Undertaking.fault ⟨.tag, place.mark⟩ .noClosingAngle next)
  else do
    let (handle, next) := tagHandle place
    if isWholeHandle handle then
      let (suffix, next) ← writtenTagPart during isTagCharacter next
      return (.tag handle suffix, next)
    else
      let (others, next) ← tagPart during isTagCharacter next
      let suffix := tagOfText (String.ofList (handle.drop 1)) ++ others
      return (if suffix.isEmpty then .tag [] loneMark else .tag ['!'] suffix, next)

/-! ## Directives -/

def versionNumber (during : Undertaking) (place : Place) : Except SyntaxFault (Nat × Place) :=
  let digits := place.ahead.takeWhile Char.isDigit
  if 9 < digits.length then .error (during.fault .longVersionNumber (place.skip 9))
  else if digits.isEmpty then .error (during.fault .noVersionNumber place)
  else
    .ok (digits.foldl (fun value c => 10 * value + (c.toNat - '0'.toNat)) 0,
      place.skip digits.length)

def versionToken (start : Mark) (place : Place) : Except SyntaxFault (Token × Place) := do
  let during : Undertaking := ⟨.versionDirective, start⟩
  let (major, place) ← versionNumber during (place.skipWhile isSpaceOrTab)
  if place.ahead.head? = some '.' then
    let (minor, place) ← versionNumber during (place.skip 1)
    return (.version major minor, place)
  else .error (during.fault .noVersionMark place)

def tagHandleToken (start : Mark) (place : Place) : Except SyntaxFault (Token × Place) := do
  let place := place.skipWhile isSpaceOrTab
  let (handle, next) := tagHandle place
  if place.ahead.head? ≠ some '!' then
    .error (Undertaking.fault ⟨.tagDirectiveStart, start⟩ .noExclamationMark place)
  else if !isWholeHandle handle && handle ≠ ['!'] then
    .error (Undertaking.fault ⟨.tagDirectiveHandle, start⟩ .noExclamationMark next)
  else if !next.ahead.head?.any isSpaceOrTab then
    .error (Undertaking.fault ⟨.tagDirective, start⟩ .noBlank next)
  else
    let (replacement, place) ←
      writtenTagPart ⟨.tagDirectiveText, start⟩ isVerbatimCharacter (next.skipWhile isSpaceOrTab)
    if endsWord place.ahead then return (.tagHandle handle replacement, place)
    else .error (Undertaking.fault ⟨.tagDirective, start⟩ .noWordEnd place)

def directive (place : Place) : Except SyntaxFault (Token × Place) :=
  let during : Undertaking := ⟨.directive, place.mark⟩
  let name := (place.skip 1).ahead.takeWhile isNameCharacter
  let next := place.skip (1 + name.length)
  if name.isEmpty then .error (during.fault .noDirectiveName next)
  else if !endsWord next.ahead then .error (during.fault .notAlphabetical next)
  else if name = ['Y', 'A', 'M', 'L'] then versionToken place.mark next
  else if name = ['T', 'A', 'G'] then tagHandleToken place.mark next
  else .error (during.fault .unknownDirective next)

def skipDirectiveEnd (start : Mark) (place : Place) : Except SyntaxFault Place :=
  let place := place.skipWhile isSpaceOrTab
  let place := if place.ahead.head? = some '#' then place.skipToLineEnd else place
  if endsLine place.ahead then .ok place.skipBreak
  else .error (Undertaking.fault ⟨.directive, start⟩ .noLineEnd place)

end TableIntake.Yaml
