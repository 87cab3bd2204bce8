import TableIntake.Text.Columns

/-! # Lines

The lines of a text, and the words of a line filled into lines that are no wider than a
terminal has room for.
-/

namespace TableIntake.Text

def pieces (separator : Char) (text : List Char) : List (List Char) :=
  text.foldr
    (fun c pieces =>
      if c = separator then [] :: pieces
      else (c :: pieces.headD []) :: pieces.tail)
    [[]]

example : pieces '\n' ['a', '\n', 'b', '\n'] = [['a'], ['b'], []] := rfl

def lines (text : List Char) : List (List Char) :=
  pieces '\n' text

/-! ## Filled lines -/

structure Filling where
  reversed : List Char := []
  columns : Nat := 0

namespace Filling

def isEmpty (filling : Filling) : Bool :=
  filling.reversed.isEmpty

def line (filling : Filling) : List Char :=
  filling.reversed.reverse

def room (width : Nat) (filling : Filling) : Nat :=
  width - (if filling.isEmpty then 0 else filling.columns + 1)

def add (word : List Char) (filling : Filling) : Filling :=
  if filling.isEmpty then ⟨word.reverse, Text.columns word⟩
  else ⟨word.reverse ++ ' ' :: filling.reversed, filling.columns + 1 + Text.columns word⟩

def spare : Nat :=
  2

def isFull (width : Nat) (filling : Filling) : Bool :=
  width - spare < filling.columns

end Filling

def fitting : (room count : Nat) → (word : List Char) → Nat
  | _, count, [] => count
  | room, count, c :: rest =>
      let size := columns [c]
      if room < size then count else fitting (room - size) (count + 1) rest

/-- Fills words into lines of `width`. A word that is too wide for a line is broken. -/
def fillFrom (width : Nat) : (fuel : Nat) → Filling → (words : List (List Char)) →
    List (List Char)
  | 0, _, _ => []
  | _, filling, [] => if filling.isEmpty then [] else [filling.line]
  | fuel + 1, filling, word :: words =>
      let next (filling : Filling) : List (List Char) :=
        if filling.isFull width then filling.line :: fillFrom width fuel {} words
        else fillFrom width fuel filling words
      let room := filling.room width
      if columns word ≤ room then
        next (filling.add word)
      else if !filling.isEmpty && room ≤ Filling.spare then
        filling.line :: fillFrom width fuel {} (word :: words)
      else if columns word ≤ width then
        filling.line :: next (Filling.add word {})
      else
        let count := fitting room 0 word
        let count := if filling.isEmpty then max count 1 else count
        (filling.add (word.take count)).line :: fillFrom width fuel {} (word.drop count :: words)

/-- A line as it is if it is no wider than `width`, and otherwise its words in several
lines. -/
def filled (width : Nat) (line : List Char) : List (List Char) :=
  if columns line ≤ width then [line]
  else fillFrom width (4 * line.length + 4) {} (pieces ' ' line)

example : filled 6 "aa bb cc".toList = ["aa bb".toList, "cc".toList] := by decide +kernel

example : filled 4 "abcdefghi".toList = ["abcd".toList, "efgh".toList, "i".toList] := by
  decide +kernel

end TableIntake.Text
