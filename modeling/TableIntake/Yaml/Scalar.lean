import TableIntake.Text.Hex
import TableIntake.Yaml.SyntaxFault

/-! # Scalars

Plain, quoted and block scalars with their line folding.
-/

namespace TableIntake.Yaml

inductive Style where
  | plain
  | singleQuoted
  | doubleQuoted
  | literal
  | folded
deriving DecidableEq, Repr

/-! ## Gaps between words -/

/-- The blanks and line breaks between two words. Blanks count only if the gap lies within
a line. -/
structure Gap where
  blanks : List Char := []
  crosses : Bool := false
  first : List Char := []
  others : List Char := []

namespace Gap

/-- A first line break that is an ordinary one becomes a space, or is dropped if there are
others. -/
def folded (gap : Gap) : List Char :=
  if gap.crosses then
    if gap.first = ['\n'] then
      if gap.others.isEmpty then [' '] else gap.others
    else gap.first ++ gap.others
  else gap.blanks

/-- Reads on through a gap, and stops at a tab that takes the place of indentation, to the
left of `indent`. -/
def scan (indent : Nat) : (fuel : Nat) → Gap → Place → Gap × Place
  | 0, gap, place => (gap, place)
  | fuel + 1, gap, place =>
      match place.takeBreak? with
      | some (c, next) =>
          if gap.crosses then
            scan indent fuel { gap with others := gap.others ++ [c] } next
          else
            scan indent fuel { gap with blanks := [], crosses := true, first := [c] } next
      | none =>
          match place.ahead with
          | [] => (gap, place)
          | c :: _ =>
              if !isSpaceOrTab c then (gap, place)
              else if !gap.crosses then
                scan indent fuel { gap with blanks := gap.blanks ++ [c] } (place.skip 1)
              else if c = '\t' ∧ place.column < indent then (gap, place)
              else scan indent fuel gap (place.skip 1)

end Gap

structure Scanned where
  text : List Char
  place : Place
  crossed : Bool := false

/-! ## Plain scalars -/

def isFlowIndicator (c : Char) : Bool :=
  c = ',' || c = '[' || c = ']' || c = '\x7b' || c = '\x7d'

def isStrayColon (inFlow : Bool) (c : Char) (rest : List Char) : Bool :=
  inFlow && c = ':' && rest.head?.any fun c => isFlowIndicator c || c = '?'

/-- The word at the start of `text`. A colon ends it before a blank, and within braces and
brackets the characters that structure them do. -/
def plainWord (inFlow : Bool) : (text : List Char) → List Char
  | [] => []
  | c :: rest =>
      if isSpaceOrTab c || isBreak c || isStrayColon inFlow c rest then []
      else if c = ':' && endsWord rest then []
      else if inFlow && isFlowIndicator c then []
      else c :: plainWord inFlow rest

def Place.atStrayColon (inFlow : Bool) (place : Place) : Bool :=
  match place.ahead with
  | [] => false
  | c :: rest => isStrayColon inFlow c rest

def plainFrom (start : Mark) (inFlow : Bool) (indent : Nat) : (fuel : Nat) → (text : List Char) →
    Gap → Place → Except SyntaxFault Scanned
  | 0, text, gap, place => .ok ⟨text, place, gap.crosses⟩
  | fuel + 1, text, gap, place =>
      if place.atDocumentMarker || place.ahead.head? = some '#' then
        .ok ⟨text, place, gap.crosses⟩
      else
        let word := plainWord inFlow place.ahead
        let place := place.skip word.length
        let (text, gap) := if word.isEmpty then (text, gap) else (text ++ gap.folded ++ word, {})
        let during : Undertaking := ⟨.plainScalar, start⟩
        if place.atStrayColon inFlow then
          .error (during.fault .colonInWord place)
        else if place.ahead.isEmpty || !endsWord place.ahead then
          .ok ⟨text, place, gap.crosses⟩
        else
          let (gap, place) := Gap.scan indent place.ahead.length gap place
          if place.ahead.head? = some '\t' then
            .error (during.fault .tabBeforeText place)
          else if !inFlow && place.column < indent then
            .ok ⟨text, place, gap.crosses⟩
          else
            plainFrom start inFlow indent fuel text gap place

def plainScalar (inFlow : Bool) (indent : Nat) (place : Place) : Except SyntaxFault Scanned :=
  plainFrom place.mark inFlow indent (place.ahead.length + 1) [] {} place

/-! ## Quoted scalars -/

structure Ahead where
  problem : Problem
  distance : Nat

def Ahead.behind (count : Nat) (ahead : Ahead) : Ahead :=
  { ahead with distance := count + ahead.distance }

def escapedCodePoint (count : Nat) (text : List Char) : Except Ahead (Char × Nat) :=
  match (text.take count).mapM Text.hexValue? with
  | none => .error ⟨.noHexadecimal, 2⟩
  | some digits =>
      let point := digits.foldl (fun point digit => 16 * point + digit) 0
      if digits.length < count then .error ⟨.noHexadecimal, 2⟩
      else if point.isValidChar then .ok (Char.ofNat point, count + 1)
      else .error ⟨.noCharacter, 2⟩

def escaped : (text : List Char) → Except Ahead (Char × Nat)
  | 'x' :: rest => escapedCodePoint 2 rest
  | 'u' :: rest => escapedCodePoint 4 rest
  | 'U' :: rest => escapedCodePoint 8 rest
  | text =>
      match text.head?.bind fun c => List.lookup c
        [ ('0', '\x00'), ('a', '\x07'), ('b', '\x08'), ('t', '\t'), ('\t', '\t'), ('n', '\n'),
          ('v', '\x0b'), ('f', '\x0c'), ('r', '\r'), ('e', '\x1b'), (' ', ' '), ('"', '"'),
          ('/', '/'), ('\\', '\\'), ('N', '\u0085'), ('_', '\u00a0'), ('L', '\u2028'),
          ('P', '\u2029') ] with
      | some c => .ok (c, 1)
      | none => .error ⟨.unknownEscape, 0⟩

structure QuotedWord where
  text : List Char := []
  length : Nat := 0
  joined : Bool := false

def QuotedWord.after (c : Char) (count : Nat) (word : QuotedWord) : QuotedWord :=
  { word with text := c :: word.text, length := count + word.length }

def singleQuotedWord : (text : List Char) → QuotedWord
  | [] => {}
  | ['\''] => {}
  | '\'' :: d :: rest => if d = '\'' then (singleQuotedWord rest).after '\'' 2 else {}
  | c :: rest => if endsWord [c] then {} else (singleQuotedWord rest).after c 1

def doubleQuotedWord : (fuel : Nat) → (text : List Char) → Except Ahead QuotedWord
  | 0, _ => .ok {}
  | _, [] => .ok {}
  | fuel + 1, c :: rest =>
      if endsWord [c] || c = '"' then .ok {}
      else if c = '\\' then
        if (lineBreak? rest).isSome then
          .ok { length := 1, joined := true }
        else
          match escaped rest with
          | .error ahead => .error ahead
          | .ok (c, count) =>
              match doubleQuotedWord fuel (rest.drop count) with
              | .error ahead => .error (ahead.behind (count + 1))
              | .ok word => .ok (word.after c (count + 1))
      else
        match doubleQuotedWord fuel rest with
        | .error ahead => .error (ahead.behind 1)
        | .ok word => .ok (word.after c 1)

def quotedWord (quote : Char) (text : List Char) : Except Ahead QuotedWord :=
  if quote = '"' then doubleQuotedWord text.length text else .ok (singleQuotedWord text)

def quotedFrom (start : Mark) (quote : Char) : (fuel : Nat) → (text : List Char) → Place →
    Except SyntaxFault Scanned
  | 0, text, place => .ok ⟨text, place, false⟩
  | fuel + 1, text, place =>
      let during : Undertaking := ⟨.quotedScalar, start⟩
      if place.atDocumentMarker then
        .error (during.fault .documentMarker place)
      else if place.ahead.isEmpty then
        .error (during.fault .endOfText place)
      else
        match quotedWord quote place.ahead with
        | .error ahead =>
            .error (Undertaking.fault ⟨.escape, start⟩ ahead.problem (place.skip ahead.distance))
        | .ok word =>
            let text := text ++ word.text
            let place := place.skip word.length
            if place.ahead.head? = some quote then
              .ok ⟨text, place.skip 1, false⟩
            else
              let begun : Gap × Place := if word.joined then ({ crosses := true }, place.skipBreak)
                else ({}, place)
              let (gap, place) := Gap.scan 0 begun.2.ahead.length begun.1 begun.2
              quotedFrom start quote fuel (text ++ gap.folded) place

def quotedScalar (quote : Char) (place : Place) : Except SyntaxFault Scanned :=
  quotedFrom place.mark quote (place.ahead.length + 1) [] (place.skip 1)

/-! ## Block scalars -/

inductive Chomping where
  | strip
  | clip
  | keep
deriving DecidableEq

structure BlockHeader where
  chomping : Chomping := .clip
  increment : Option Nat := none

def chomping? : Char → Option Chomping
  | '+' => some .keep
  | '-' => some .strip
  | _ => none

def increment (c : Char) : Except Problem (Option Nat) :=
  if c = '0' then .error .noIndentation
  else .ok (if c.isDigit then some (c.toNat - '0'.toNat) else none)

/-- The header behind the indicator: a chomping and one digit of indentation, in either
order, or one of them or none. -/
def blockHeader (during : Undertaking) (place : Place) : Except SyntaxFault (BlockHeader × Place) :=
  let digit (place : Place) : Except SyntaxFault (Option Nat × Place) :=
    match place.ahead with
    | [] => .ok (none, place)
    | c :: _ =>
        match increment c with
        | .error problem => .error (during.fault problem place)
        | .ok none => .ok (none, place)
        | .ok (some increment) => .ok (some increment, place.skip 1)
  match place.ahead.head?.bind chomping? with
  | some chomping => do
      let (increment, place) ← digit (place.skip 1)
      return (⟨chomping, increment⟩, place)
  | none => do
      let (increment, place) ← digit place
      match increment.bind fun _ => place.ahead.head?.bind chomping? with
      | some chomping => return (⟨chomping, increment⟩, place.skip 1)
      | none => return (⟨.clip, increment⟩, place)

/-- The empty lines ahead and the indentation of the line behind them. Without a given
indentation, `deepest` grows to the deepest one met. A tab is no indentation. -/
def blockBreaks (during : Undertaking) (indent : Nat) : (fuel deepest : Nat) →
    (breaks : List Char) → Place → Except SyntaxFault (List Char × Nat × Place)
  | 0, deepest, breaks, place => .ok (breaks, deepest, place)
  | fuel + 1, deepest, breaks, place =>
      let spaces := (place.ahead.takeWhile (· = ' ')).length
      let place := place.skip (if indent = 0 then spaces else min spaces (indent - place.column))
      let deepest := max deepest place.column
      if (indent = 0 ∨ place.column < indent) ∧ place.ahead.head? = some '\t' then
        .error (during.fault .tabForIndentation place)
      else
        match place.takeBreak? with
        | none => .ok (breaks, deepest, place)
        | some (c, place) => blockBreaks during indent fuel deepest (breaks ++ [c]) place

def blockLines (during : Undertaking) (style : Style) (chomping : Chomping) (indent : Nat) :
    (fuel : Nat) → (text leading trailing : List Char) → (blankBefore : Bool) → Place →
    Except SyntaxFault Scanned
  | 0, text, _, _, _, place => .ok ⟨text, place, true⟩
  | fuel + 1, text, leading, trailing, blankBefore, place =>
      if place.column ≠ indent ∨ place.ahead.isEmpty then
        let kept := if chomping = .strip then [] else leading
        let others := if chomping = .keep then trailing else []
        .ok ⟨text ++ kept ++ others, place, true⟩
      else
        let blank := place.ahead.head?.any isSpaceOrTab
        let folds := style = .folded ∧ leading = ['\n'] ∧ !blankBefore ∧ !blank
        let joint := if folds then (if trailing.isEmpty then [' '] else []) else leading
        let line := place.ahead.takeWhile fun c => !isBreak c
        let text := text ++ joint ++ trailing ++ line
        let place := place.skip line.length
        let (leading, place) := match place.takeBreak? with
          | some (c, place) => ([c], place)
          | none => ([], place)
        match blockBreaks during indent place.ahead.length 0 [] place with
        | .error fault => .error fault
        | .ok (trailing, _, place) =>
            blockLines during style chomping indent fuel text leading trailing blank place

def blockScalar (style : Style) (parent : Option Nat) (place : Place) :
    Except SyntaxFault Scanned := do
  let during : Undertaking := ⟨.blockScalar, place.mark⟩
  let (header, place) ← blockHeader during (place.skip 1)
  let place := place.skipWhile isSpaceOrTab
  let place := if place.ahead.head? = some '#' then place.skipToLineEnd else place
  if !endsLine place.ahead then .error (during.fault .noLineEnd place)
  else
    let place := place.skipBreak
    let given := match header.increment with
      | some increment => parent.getD 0 + increment
      | none => 0
    let (trailing, deepest, place) ← blockBreaks during given place.ahead.length 0 [] place
    let least := match parent with
      | some parent => parent + 1
      | none => 0
    let indent := if given = 0 then max (max deepest least) 1 else given
    blockLines during style header.chomping indent (place.ahead.length + 1) [] [] trailing false
      place

end TableIntake.Yaml
