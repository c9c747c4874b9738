/-
  Writing JSON.

  * `Style.spaced` puts a space behind commas and colons and keeps the order of entries,
    `Style.compact` does neither and sorts by key;
  * `keyText` is the text of a key: texts, numbers, truth values and null have one;
  * `encode` writes a value, or gives the first failure in depth-first order, a key before its
    value.
-/
import MetricDocs.Json.Text
import MetricDocs.Json.Order

namespace MetricDocs.Json

/-- How documents are laid out. -/
structure Style where
  itemSeparator : List Char
  keySeparator : List Char
  sorted : Bool

/-- A space behind every comma and colon, entries in their order. -/
def Style.spaced : Style := ⟨[',', ' '], [':', ' '], false⟩

/-- No spaces, entries sorted by key. -/
def Style.compact : Style := ⟨[','], [':'], true⟩

/-- An integer of at most `Decimal.maxDigits` digits. -/
def intLiteral (n : Int) : Except Failure (List Char) :=
  if Decimal.tooLong n then .error (.tooManyDigits none) else .ok (Decimal.intDigits n)

/-- A finite number. -/
def floatLiteral (x : Float) : Except Failure (List Char) :=
  match Decimal.magnitude x with
  | .nan | .infinite => .error .notFinite
  | _ => .ok (Decimal.Layout.plain.render x)

def boolLiteral (b : Bool) : List Char := if b then "true".toList else "false".toList

def keyText : Key → Except Failure String
  | .text s => .ok s
  | .int n => (intLiteral n).map String.ofList
  | .float x => (floatLiteral x).map String.ofList
  | .bool b => .ok (String.ofList (boolLiteral b))
  | .null => .ok "null"
  | k => .error (.badKey k.kindName)

def keyLiteral : Key → Except Failure (List Char)
  | .surrogates ps => .ok (pointsLiteral ps)
  | k => (keyText k).map literal

/-- Parts between brackets, joined by a separator. -/
def bracketed (opening closing : Char) (separator : List Char) (parts : List (List Char)) :
    List Char :=
  opening :: separator.intercalate parts ++ [closing]

/-- One entry for each, key and value joined by the separator; the first failure counts, a key
    before its value. -/
def members (separator : List Char) :
    List (Key × Except Failure (List Char)) → Except Failure (List (List Char))
  | [] => .ok []
  | (k, v) :: es => do
    let key ← keyLiteral k
    let value ← v
    let rest ← members separator es
    return (key ++ separator ++ value) :: rest

mutual

def encode (st : Style) : Value → Except Failure (List Char)
  | .null => .ok "null".toList
  | .bool b => .ok (boolLiteral b)
  | .int n => intLiteral n
  | .float x => floatLiteral x
  | .text s => .ok (literal s)
  | .surrogates ps => .ok (pointsLiteral ps)
  | .list vs => (encodeAll st vs).map (bracketed '[' ']' st.itemSeparator)
  | .tuple vs => (encodeAll st vs).map (bracketed '[' ']' st.itemSeparator)
  | .mapping fields => do
    let es := encodeFields st fields
    let es ← if st.sorted then sortByKey es else .ok es
    let parts ← members st.keySeparator es
    return bracketed '\x7b' '\x7d' st.itemSeparator parts
  | v => .error (.notEncodable v.shortKindName)

/-- The texts of values, or the first failure. -/
def encodeAll (st : Style) : List Value → Except Failure (List (List Char))
  | [] => .ok []
  | v :: vs => do
    let text ← encode st v
    let rest ← encodeAll st vs
    return text :: rest

/-- The keys of entries with the texts of their values or the failures to write them. -/
def encodeFields (st : Style) : List (Key × Value) → List (Key × Except Failure (List Char))
  | [] => []
  | (k, v) :: fields => (k, encode st v) :: encodeFields st fields

end

def render (st : Style) (v : Value) : Except Failure String :=
  (encode st v).map String.ofList

end MetricDocs.Json
