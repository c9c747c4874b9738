/-
  Blanks: the characters that the readers of numbers skip around a number.

  * `isBlank` is Unicode's White_Space property, by ranges;
  * `isAsciiBlank` is its part below 128, the only blanks of a byte string;
  * `trimWith` drops the characters of a class on both sides.
-/
namespace MetricDocs.Text

/-- The ranges of White_Space, both ends included. -/
def blankRanges : List (Nat × Nat) :=
  [(0x9, 0xd), (0x20, 0x20), (0x85, 0x85), (0xa0, 0xa0), (0x1680, 0x1680), (0x2000, 0x200a),
    (0x2028, 0x2029), (0x202f, 0x202f), (0x205f, 0x205f), (0x3000, 0x3000)]

/-- A character of White_Space. -/
def isBlank (c : Char) : Bool :=
  blankRanges.any fun r => r.1 ≤ c.toNat && c.toNat ≤ r.2

/-- A blank below 128: tab, the line and page ends, and space. -/
def isAsciiBlank (c : Char) : Bool :=
  c.toNat < 128 && isBlank c

/-- Drops the characters of a class from both ends. -/
def trimWith (p : Char → Bool) (cs : List Char) : List Char :=
  ((cs.dropWhile p).reverse.dropWhile p).reverse

end MetricDocs.Text
