/-! # Ranges of characters

Classes of characters as tables of code points. The tables of this library follow
version 17 of the Unicode character database.
-/

namespace TableIntake.Text

abbrev CodePointRanges := Array (Nat × Nat)

def CodePointRanges.searchBetween (ranges : CodePointRanges) (point : Nat) :
    (fuel low high : Nat) → Bool
  | 0, _, _ => false
  | fuel + 1, low, high =>
      if high ≤ low then
        false
      else
        let middle := (low + high) / 2
        match ranges[middle]? with
        | none => false
        | some (first, last) =>
            if point < first then
              ranges.searchBetween point fuel low middle
            else if last < point then
              ranges.searchBetween point fuel (middle + 1) high
            else
              true

/-- Whether some range covers `point`. As many rounds as there are ranges are more
than halving needs. -/
def CodePointRanges.covers (ranges : CodePointRanges) (point : Nat) : Bool :=
  ranges.searchBetween point ranges.size 0 ranges.size

example : CodePointRanges.covers #[(2, 4), (9, 9)] 4 = true := rfl

example : CodePointRanges.covers #[(2, 4), (9, 9)] 5 = false := rfl

end TableIntake.Text
