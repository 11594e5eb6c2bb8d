/-! # Blanks

The Unicode property `White_Space`, and trimming by it. -/

namespace Rebac.Text

/-- Whether `c` has the property `White_Space`. -/
def isBlank (c : Char) : Bool :=
  let n := c.toNat
  (0x9 ≤ n && n ≤ 0xd) || n == 0x20 || n == 0x85 || n == 0xa0 || n == 0x1680 ||
    (0x2000 ≤ n && n ≤ 0x200a) || n == 0x2028 || n == 0x2029 || n == 0x202f || n == 0x205f ||
    n == 0x3000

/-- `s` without the characters satisfying `p` at its end. -/
def dropEndWhile (p : Char → Bool) (s : String) : String :=
  String.ofList (s.toList.reverse.dropWhile p).reverse

/-- `s` without the characters satisfying `p` at its two ends. -/
def trimWhile (p : Char → Bool) (s : String) : String :=
  dropEndWhile p (String.ofList (s.toList.dropWhile p))

/-- `s` without the blanks at its two ends. -/
def trimBlanks (s : String) : String := trimWhile isBlank s

end Rebac.Text
