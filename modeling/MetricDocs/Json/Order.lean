/-
  The order of the keys of a document.

  Texts are ordered by code points, numbers by value; keys of two different kinds have no order.

  * `keyLess` compares two keys;
  * `sortByKey` sorts entries by key.  If not all keys are texts, the sort itself decides which pair
    of unordered keys is met first.
-/
import MetricDocs.Value.Basic
import MetricDocs.Failure
import MetricDocs.Sorting

namespace MetricDocs.Json

/-! ## Comparing -/

/-- Compares `n` with the positive number `x`. -/
def natBelow (n : Nat) (x : Decimal.Binary) : Bool :=
  n * Nat.pow 2 (-x.q).toNat < x.m * Nat.pow 2 x.q.toNat

/-- Compares the positive number `x` with `n`. -/
def belowNat (x : Decimal.Binary) (n : Nat) : Bool :=
  x.m * Nat.pow 2 x.q.toNat < n * Nat.pow 2 (-x.q).toNat

/-- Whether an integer is less than a double. -/
def intBelow (n : Int) (x : Float) : Bool :=
  match Decimal.magnitude x, Decimal.isNegative x with
  | .nan, _ => false
  | .infinite, negative => !negative
  | .zero, _ => n < 0
  | .finite b, false => n < 0 || natBelow n.natAbs b
  | .finite b, true => n < 0 && belowNat b n.natAbs

/-- Whether a double is less than an integer. -/
def belowInt (x : Float) (n : Int) : Bool :=
  match Decimal.magnitude x, Decimal.isNegative x with
  | .nan, _ => false
  | .infinite, negative => negative
  | .zero, _ => 0 < n
  | .finite b, false => 0 < n && belowNat b n.natAbs
  | .finite b, true => 0 ≤ n || natBelow n.natAbs b

/-- Whether one number is less than another. -/
def numberLess : Number → Number → Bool
  | .whole m, .whole n => m < n
  | .whole m, .fraction y => intBelow m y
  | .fraction x, .whole n => belowInt x n
  | .fraction x, .fraction y => x < y

/-- Whether one byte string comes before another. -/
def bytesLess : List UInt8 → List UInt8 → Bool
  | b :: bs, c :: cs => b < c || (b = c && bytesLess bs cs)
  | [], _ :: _ => true
  | _, [] => false

mutual

/-- Whether one key comes before another: numbers by value, texts by code points, byte strings by
    bytes, dates by time, and tuples by the first of their parts that differ. -/
def keyLess : Key → Key → Except Failure Bool
  | .tuple ks, .tuple ls => keysLess ks ls
  | .bytes bs, .bytes cs => .ok (bytesLess bs cs)
  | .date d, .date e => .ok (d.ordinal < e.ordinal)
  | k, l => match k.points?, l.points?, k.number?, l.number? with
    | some ps, some qs, _, _ => .ok (ps < qs)
    | _, _, some m, some n => .ok (numberLess m n)
    | _, _, _, _ => .error (.incomparable "<" k.kindName l.kindName)

/-- Whether one tuple of keys comes before another. -/
def keysLess : List Key → List Key → Except Failure Bool
  | k :: ks, l :: ls => if k.same l then keysLess ks ls else keyLess k l
  | [], _ :: _ => .ok true
  | _, [] => .ok false

end

/-! ## Sorting -/

variable {α : Type}

/-- Whether one entry may stand before another by its text. -/
def textLe (a b : Key × α) : Bool :=
  match a.1.points?, b.1.points? with
  | some ps, some qs => !(qs < ps)
  | _, _ => false

def sortByKey (es : List (Key × α)) : Except Failure (List (Key × α)) :=
  if es.all fun e => e.1.points?.isSome then .ok (es.mergeSort textLe)
  else Sorting.sort (fun a b => keyLess a.1 b.1) es

end MetricDocs.Json
