/-! # Places in a text

Where a scan stands: the characters ahead, and how many characters, lines and columns lie
behind.
-/

namespace TableIntake.Yaml

structure Mark where
  line : Nat := 0
  column : Nat := 0
deriving DecidableEq, Repr

namespace Mark

/-- What a message says on where something lies, counted from one. The start of a text goes
without saying. -/
def told (mark : Mark) : String :=
  if mark = {} then ""
  else " at line " ++ toString (mark.line + 1) ++ " column " ++ toString (mark.column + 1)

example : told ⟨2, 0⟩ = " at line 3 column 1" := by decide +kernel

end Mark

structure Place where
  ahead : List Char
  index : Nat := 0
  line : Nat := 0
  column : Nat := 0

/-! ## Characters -/

def isAllowed (c : Char) : Bool :=
  let point := c.toNat
  point == 0x09 || point == 0x0A || point == 0x0D || (0x20 ≤ point && point ≤ 0x7E) ||
    point == 0x85 || (0xA0 ≤ point && point ≤ 0xFFFD) || 0x10000 ≤ point

def byteOrderMark : Char :=
  '\ufeff'

def isSpaceOrTab (c : Char) : Bool :=
  c = ' ' || c = '\t'

def lineBreak? : (text : List Char) → Option (Char × Nat)
  | '\r' :: '\n' :: _ => some ('\n', 2)
  | '\r' :: _ | '\n' :: _ | '\u0085' :: _ => some ('\n', 1)
  | '\u2028' :: _ => some ('\u2028', 1)
  | '\u2029' :: _ => some ('\u2029', 1)
  | _ => none

def isBreak (c : Char) : Bool :=
  (lineBreak? [c]).isSome

def endsWord : (text : List Char) → Bool
  | [] => true
  | c :: _ => isSpaceOrTab c || isBreak c

def endsLine : (text : List Char) → Bool
  | [] => true
  | c :: _ => isBreak c

def isNameCharacter (c : Char) : Bool :=
  c.isAlphanum || c = '_' || c = '-'

namespace Place

def mark (place : Place) : Mark :=
  ⟨place.line, place.column⟩

def skip (count : Nat) (place : Place) : Place :=
  { place with
    ahead := place.ahead.drop count
    index := place.index + count
    column := place.column + count }

def skipWhile (test : Char → Bool) (place : Place) : Place :=
  place.skip (place.ahead.takeWhile test).length

def skipToLineEnd (place : Place) : Place :=
  place.skipWhile fun c => !isBreak c

def takeBreak? (place : Place) : Option (Char × Place) :=
  (lineBreak? place.ahead).map fun (c, count) =>
    (c,
      { ahead := place.ahead.drop count
        index := place.index + count
        line := place.line + 1
        column := 0 })

/-- Behind the byte order mark that a line may start with. It takes a column. -/
def skipMark (place : Place) : Place :=
  if place.column = 0 && place.ahead.head? = some byteOrderMark then place.skip 1 else place

def skipBreak (place : Place) : Place :=
  match place.takeBreak? with
  | some (_, place) => place
  | none => place

def atMarker (c : Char) (place : Place) : Bool :=
  place.column = 0 && place.ahead.take 3 = [c, c, c] && endsWord (place.ahead.drop 3)

def atDocumentMarker (place : Place) : Bool :=
  place.atMarker '-' || place.atMarker '.'

end Place

end TableIntake.Yaml
