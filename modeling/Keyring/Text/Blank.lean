import Keyring.Text.CodePoint

/-!
# Blank space

The code points that separate tokens: controls and separators that Unicode counts as white space,
and the four information separators.
-/

namespace Keyring

def CodePoint.isBlank (c : CodePoint) : Bool :=
  (0x09 ≤ c.val && c.val ≤ 0x0d) || (0x1c ≤ c.val && c.val ≤ 0x20) || c.val == 0x85 ||
    c.val == 0xa0 || c.val == 0x1680 || (0x2000 ≤ c.val && c.val ≤ 0x200a) ||
    c.val == 0x2028 || c.val == 0x2029 || c.val == 0x202f || c.val == 0x205f || c.val == 0x3000

/-- White space in the sense of Unicode, which leaves out the information separators. -/
def CodePoint.isUnicodeSpace (c : CodePoint) : Bool :=
  c.isBlank && !(0x1c ≤ c.val && c.val ≤ 0x1f)

namespace Text

def isBlank (t : Text) : Bool :=
  t.all CodePoint.isBlank

def trimWhile (isOuter : CodePoint → Bool) (t : Text) : Text :=
  ((t.dropWhile isOuter).reverse.dropWhile isOuter).reverse

/-- A text without the white space at its two ends. -/
def trim (t : Text) : Text :=
  t.trimWhile CodePoint.isBlank

end Text

end Keyring
