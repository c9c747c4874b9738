/-
  Texts in which surrogates stand.

  A surrogate is one half of a character beyond the basic plane in sixteen-bit units, and no character
  itself.  An escape may name one all the same.  Such a text is kept by its code points, and halves side
  by side are not joined in it.

  * `Escaped` is a text as escapes spell it: a string, or code points with surrogates among them;
  * `quotedPoints` quotes such code points, and `lowerPoints` puts them into small letters;
  * `joinHalf` and `joined` join halves side by side;
  * `withoutHalves` puts a mark in the place of every surrogate.
-/
import MetricDocs.Text.Lower
import MetricDocs.Text.Quoted

namespace MetricDocs.Text

/-- The first half of a character. -/
def isHighHalf (n : Nat) : Bool := 0xd800 ≤ n && n < 0xdc00

/-- The second half of a character. -/
def isLowHalf (n : Nat) : Bool := 0xdc00 ≤ n && n < 0xe000

def isSurrogate (n : Nat) : Bool := isHighHalf n || isLowHalf n

/-- A text as escapes spell it. -/
inductive Escaped where
  | string (s : String)
  | surrogates (points : List Nat)
  deriving DecidableEq, Repr

/-- The text of code points. -/
def Escaped.ofPoints (ps : List Nat) : Escaped :=
  if ps.any isSurrogate then .surrogates ps else .string (String.ofList (ps.map Char.ofNat))

/-! ## Showing -/

/-- A code point inside quotes `q`. -/
def quotedPoint (q : Char) (n : Nat) : List Char :=
  if isSurrogate n then '\\' :: 'u' :: hexDigits 4 n else quotedChar q (Char.ofNat n)

def quotedPoints (ps : List Nat) : String :=
  let q := quoteFor ((ps.filter (!isSurrogate ·)).map Char.ofNat)
  String.ofList (q :: ps.flatMap (quotedPoint q) ++ [q])

/-- The small letters of a run of characters that follows another half of one. -/
def lowerRun (ps : List Nat) : List Nat := (lowerBehind [] (ps.map Char.ofNat)).map Char.toNat

/-- Code points in small letters, behind a run of characters; a surrogate ends every word. -/
def lowerFrom (run : List Nat) : List Nat → List Nat
  | [] => lowerRun run
  | n :: ps => if isSurrogate n then lowerRun run ++ n :: lowerFrom [] ps else lowerFrom (run ++ [n]) ps

def lowerPoints (ps : List Nat) : List Nat := lowerFrom [] ps

/-! ## Joining -/

/-- The character of two halves. -/
def joinedPoint (high low : Nat) : Nat := 0x10000 + (high - 0xd800) * 0x400 + (low - 0xdc00)

/-- Puts a code point in front of others; it is joined to the first of them if both are halves of one
    character. -/
def joinHalf (n : Nat) : List Nat → List Nat
  | m :: ps => if isHighHalf n && isLowHalf m then joinedPoint n m :: ps else n :: m :: ps
  | [] => [n]

/-- A text in which halves side by side are joined; the mark of a lost character stands for a half that
    is left alone. -/
def joined (ps : List Nat) : String :=
  String.ofList ((ps.foldr joinHalf []).map fun n => if isSurrogate n then '\ufffd' else Char.ofNat n)

/-- A text with a question mark for every surrogate, which the readers of numbers do not take for a
    blank or a digit. -/
def withoutHalves (ps : List Nat) : String :=
  String.ofList (ps.map fun n => if isSurrogate n then '?' else Char.ofNat n)

example : quotedPoints [0x61, 0xd83d, 0xde00] = "'a\\ud83d\\ude00'" ∧
    joined [0xd83d, 0xde00, 0x61] = "😀a" := by decide +kernel

end MetricDocs.Text
