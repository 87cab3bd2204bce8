/-! # White space

The characters with Unicode's `White_Space` property, and the text that is left
when they are taken off both ends.
-/

namespace TableIntake.Text

/-- Exactly the 25 characters with the property. -/
def isBlank (c : Char) : Bool :=
  let point := c.toNat
  (0x09 ≤ point && point ≤ 0x0D) || point == 0x20 || point == 0x85 || point == 0xA0 ||
    point == 0x1680 || (0x2000 ≤ point && point ≤ 0x200A) || point == 0x2028 ||
    point == 0x2029 || point == 0x202F || point == 0x205F || point == 0x3000

example : isBlank '\u3000' = true := rfl

example : isBlank '\u200b' = false := rfl

def trimLeft (text : List Char) : List Char :=
  text.dropWhile isBlank

def trimRight (text : List Char) : List Char :=
  (text.reverse.dropWhile isBlank).reverse

def trim (text : String) : String :=
  String.ofList (trimRight (trimLeft text.toList))

def isAllBlank (text : String) : Bool :=
  text.toList.all isBlank

/-- The trimmed text of an optional annotation. A blank one counts as absent. -/
def presentTrimmed (text : Option String) : Option String :=
  (text.map trim).filter (· ≠ "")

end TableIntake.Text
