/-!
# White space

The characters of the Unicode property White_Space, and trimming them from a text.
-/

namespace Scorecard

/-- A character of the property White_Space. -/
def isWhiteSpace (c : Char) : Bool :=
  let n := c.toNat
  (9 ≤ n && n ≤ 13) || n = 0x20 || n = 0x85 || n = 0xA0 || n = 0x1680 ||
    (0x2000 ≤ n && n ≤ 0x200A) || n = 0x2028 || n = 0x2029 || n = 0x202F || n = 0x205F || n = 0x3000

/-- The characters behind the leading white space. -/
def trimFront (cs : List Char) : List Char := cs.dropWhile isWhiteSpace

/-- The characters without the leading and the trailing white space. -/
def trimBoth (cs : List Char) : List Char := (trimFront (trimFront cs).reverse).reverse

/-- The text without the white space around it. -/
def trimmed (s : String) : String := String.ofList (trimBoth s.toList)

end Scorecard
