/-
  Bytes written in base 64.

  * `sextet?` is the value of a digit, and `sextets` are the digits of a text: other characters are
    skipped, and padding that completes a group of four ends the text;
  * `decode?` gives the bytes; digits that end inside a group without padding are refused.
-/
namespace MetricDocs.Text.Base64

def sextet? (c : Char) : Option Nat :=
  if c.isUpper then some (c.toNat - 'A'.toNat)
  else if c.isLower then some (c.toNat - 'a'.toNat + 26)
  else if c.isDigit then some (c.toNat - '0'.toNat + 52)
  else if c = '+' then some 62
  else if c = '/' then some 63
  else none

/-- The digits of a text behind `place` digits of a group and `pads` signs of padding, and whether
    padding ended them. -/
def sextets : List Char → Nat → Nat → List Nat × Bool
  | [], _, _ => ([], false)
  | c :: cs, place, pads =>
    if c = '=' then
      if 2 ≤ place ∧ 4 ≤ place + pads + 1 then ([], true)
      else sextets cs place (if 2 ≤ place then pads + 1 else pads)
    else match sextet? c with
      | some n =>
        let r := sextets cs ((place + 1) % 4) 0
        (n :: r.1, r.2)
      | none => sextets cs place pads

def bytes : List Nat → List UInt8
  | a :: b :: c :: d :: rest =>
    UInt8.ofNat (a * 4 + b / 16) :: UInt8.ofNat (b * 16 + c / 4) :: UInt8.ofNat (c * 64 + d) ::
      bytes rest
  | [a, b, c] => [UInt8.ofNat (a * 4 + b / 16), UInt8.ofNat (b * 16 + c / 4)]
  | [a, b] => [UInt8.ofNat (a * 4 + b / 16)]
  | _ => []

def decode? (cs : List Char) : Option (List UInt8) :=
  let (digits, padded) := sextets cs 0 0
  if padded || digits.length % 4 = 0 then some (bytes digits) else none

example : decode? "aGk=".toList = some [104, 105] ∧ decode? "aG k".toList = none := by decide +kernel
example : decode? "".toList = some [] ∧ decode? "aG=k".toList = none := by decide +kernel

end MetricDocs.Text.Base64
