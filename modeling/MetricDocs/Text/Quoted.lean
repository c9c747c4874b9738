/-
  Quoted text, as messages show it.

  The quote is an apostrophe, unless the text holds apostrophes and no double quotes.  The quote
  and the backslash are escaped, tab and the line ends by letter, every other character that is
  not printable by its code point in two, four or eight hex digits.

  * `quoted` quotes a text and `quotedBytes` a byte string;
  * `hexDigits` writes a number in hex with a given width.
-/
import MetricDocs.Text.Printable

namespace MetricDocs.Text

/-- The last `width` hex digits of a number, lower case. -/
def hexDigits : Nat → Nat → List Char
  | 0, _ => []
  | width + 1, n => hexDigits width (n / 16) ++ [Nat.digitChar (n % 16)]

/-- A character inside quotes `q`. -/
def quotedChar (q : Char) (c : Char) : List Char :=
  if c = q ∨ c = '\\' then ['\\', c]
  else if c = '\t' then ['\\', 't']
  else if c = '\n' then ['\\', 'n']
  else if c = '\r' then ['\\', 'r']
  else if isPrintable c then [c]
  else if c.toNat < 0x100 then '\\' :: 'x' :: hexDigits 2 c.toNat
  else if c.toNat < 0x10000 then '\\' :: 'u' :: hexDigits 4 c.toNat
  else '\\' :: 'U' :: hexDigits 8 c.toNat

def quoteFor (cs : List Char) : Char :=
  if '\'' ∈ cs ∧ '"' ∉ cs then '"' else '\''

def quoted (s : String) : String :=
  let q := quoteFor s.toList
  String.ofList (q :: s.toList.flatMap (quotedChar q) ++ [q])

/-- A byte inside quotes `q`: only ASCII shows as it is. -/
def quotedByte (q : Char) (b : UInt8) : List Char :=
  if b.toNat < 0x80 then quotedChar q (Char.ofNat b.toNat) else '\\' :: 'x' :: hexDigits 2 b.toNat

/-- A byte string in quotes, marked by `b`. -/
def quotedBytes (bs : List UInt8) : String :=
  let q := quoteFor (bs.map fun b => Char.ofNat b.toNat)
  String.ofList ('b' :: q :: bs.flatMap (quotedByte q) ++ [q])

end MetricDocs.Text
