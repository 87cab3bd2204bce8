import TableIntake.Text.Extenders
import TableIntake.Text.Hex
import TableIntake.Text.Unseen

/-! # Quoted text

Text between double quotes on one line. The quote and the backslash are escaped,
four control characters have a letter of their own, and a character that cannot be
seen is spelled as its code point.
-/

namespace TableIntake.Text

def isUnseen (c : Char) : Bool :=
  isShapeless c || isDefaultIgnorable c || isGraphemeExtender c

def quoteCharacter (c : Char) : List Char :=
  match c with
  | '"' => ['\\', '"']
  | '\\' => ['\\', '\\']
  | '\n' => ['\\', 'n']
  | '\r' => ['\\', 'r']
  | '\t' => ['\\', 't']
  | '\x00' => ['\\', '0']
  | c => if isUnseen c then ['\\', 'u', '\x7b'] ++ (hexNumber c.toNat).toList ++ ['\x7d'] else [c]

def quoted (text : String) : String :=
  String.ofList ('"' :: text.toList.flatMap quoteCharacter ++ ['"'])

end TableIntake.Text
