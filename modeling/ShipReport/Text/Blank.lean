/-!
# Blank characters

The characters with the Unicode property White_Space, and trimming by it. The zero width space is
not one of them; the no-break space and the ideographic space are.
-/

namespace ShipReport.Text

/-- Decides the Unicode property White_Space. -/
def isBlank (c : Char) : Bool :=
  let n := c.toNat
  decide (9 ≤ n ∧ n ≤ 13) || n == 0x20 || n == 0x85 || n == 0xA0 || n == 0x1680 ||
    decide (0x2000 ≤ n ∧ n ≤ 0x200A) || n == 0x2028 || n == 0x2029 || n == 0x202F ||
    n == 0x205F || n == 0x3000

/-- Drops the blank characters at both ends. -/
def trimList (cs : List Char) : List Char :=
  ((cs.dropWhile isBlank).reverse.dropWhile isBlank).reverse

/-- The text without the blank characters at its ends. -/
def trim (s : String) : String :=
  String.ofList (trimList s.toList)

/-- A text is blank when nothing is left of it after trimming. -/
def isBlankText (s : String) : Bool :=
  s.toList.all isBlank

end ShipReport.Text
