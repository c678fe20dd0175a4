import Outdent.Text.Basic

/-!
# White space

The characters that Unicode or the ASCII separators make white space, and the removal of them
from both ends of a text.
-/
namespace Outdent.Text

/-- White space: the ASCII controls from tab to carriage return and from file separator to unit
separator, the space, and every other separator of Unicode. -/
def isSpace (character : Char) : Bool :=
  let code := character.toNat
  (9 ≤ code && code ≤ 13) || (28 ≤ code && code ≤ 32) || code == 0x85 || code == 0xA0 ||
    code == 0x1680 || (0x2000 ≤ code && code ≤ 0x200A) || code == 0x2028 || code == 0x2029 ||
    code == 0x202F || code == 0x205F || code == 0x3000

/-- A text without the white space at its two ends. -/
def strip (text : Text) : Text :=
  ((text.dropWhile isSpace).reverse.dropWhile isSpace).reverse

/-- A text without the white space at its end. -/
def stripEnd (text : Text) : Text := (text.reverse.dropWhile isSpace).reverse

end Outdent.Text
