/-!
# StreamBalancer.Text.Blank

White space and trimming, over characters:

1. a character is blank iff it has the Unicode property `White_Space`;
2. trimming drops blanks at both ends and keeps those in between.

Text is trimmed where it comes from outside (a list of cluster members, a
pidfile), so the property counts and not the ASCII class: a no-break space is
blank, a zero-width space is not.
-/

namespace StreamBalancer.Text

/-- The property `White_Space`. -/
def isBlank (c : Char) : Bool :=
  let n := c.toNat
  (0x9 ≤ n && n ≤ 0xD) || n == 0x20 || n == 0x85 || n == 0xA0 || n == 0x1680 ||
    (0x2000 ≤ n && n ≤ 0x200A) || n == 0x2028 || n == 0x2029 || n == 0x202F ||
    n == 0x205F || n == 0x3000

/-- Drop the blanks at the end. -/
def trimEnd (cs : List Char) : List Char := (cs.reverse.dropWhile isBlank).reverse

/-- Drop the blanks at both ends. -/
def trim (cs : List Char) : List Char := trimEnd (cs.dropWhile isBlank)

end StreamBalancer.Text
