/-
  Classes of characters given by ranges.

  * `inRanges` looks a code point up in ascending ranges by halving;
  * `isIn` says whether a character belongs to the class of some ranges.
-/
namespace MetricDocs.Text

/-- Whether `n` is in one of the ascending ranges `rs[lo ..< hi]`, by halving; `fuel` bounds the
    number of halvings. -/
def inRanges (rs : Array (Nat × Nat)) (n : Nat) : Nat → Nat → Nat → Bool
  | 0, _, _ => false
  | fuel + 1, lo, hi =>
    if lo < hi then
      let mid := (lo + hi) / 2
      match rs[mid]? with
      | none => false
      | some (a, b) =>
        if n < a then inRanges rs n fuel lo mid
        else if b < n then inRanges rs n fuel (mid + 1) hi
        else true
    else false

/-- Whether a character is in one of some ascending ranges. -/
def isIn (rs : Array (Nat × Nat)) (c : Char) : Bool := inRanges rs c.toNat rs.size 0 rs.size

end MetricDocs.Text
