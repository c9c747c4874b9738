/-
  Reading JSON.

  * `number?` reads a number: an integer, or a double if it has a fraction or an exponent;
  * `value?`, `items?` and `members?` read a value, the rest of an array and the rest of an object,
    and give what follows; the number that bounds their nesting comes from the length of the text;
  * `decode?` reads a whole text.  Of equal keys the last value counts, at the place of the first.
-/
import MetricDocs.Json.Text
import MetricDocs.Decimal.Reading
import MetricDocs.Value.Basic

namespace MetricDocs.Json

/-- The blanks between the parts of a document. -/
def isSpace (c : Char) : Bool := c = ' ' || c = '\t' || c = '\n' || c = '\r'

def skipSpace (cs : List Char) : List Char := cs.dropWhile isSpace

/-- The digits in front of a text, and the rest. -/
def digitRun (cs : List Char) : List Char × List Char :=
  (cs.takeWhile Char.isDigit, cs.dropWhile Char.isDigit)

/-- A fraction in front of a text: its digits, and the rest; no digits, no fraction. -/
def fraction : List Char → List Char × List Char
  | '.' :: cs =>
    match digitRun cs with
    | ([], _) => ([], '.' :: cs)
    | r => r
  | cs => ([], cs)

/-- An exponent in front of a text, without its mark, and the rest; no digits, no exponent. -/
def exponent (cs : List Char) : Option Int × List Char :=
  match cs with
  | c :: r =>
    if c = 'e' ∨ c = 'E' then
      match r with
      | '-' :: ds => match digitRun ds with
        | ([], _) => (none, cs)
        | (ds, rest) => (some (-(Decimal.ofDigits ds : Int)), rest)
      | '+' :: ds => match digitRun ds with
        | ([], _) => (none, cs)
        | (ds, rest) => (some (Decimal.ofDigits ds), rest)
      | ds => match digitRun ds with
        | ([], _) => (none, cs)
        | (ds, rest) => (some (Decimal.ofDigits ds), rest)
    else (none, cs)
  | [] => (none, cs)

/-- The digits in front of the point, and the rest; a leading zero stands alone. -/
def wholeRun : List Char → List Char × List Char
  | '0' :: r => (['0'], r)
  | cs => digitRun cs

/-- A number behind its sign in front of a text. -/
def magnitude? (negative : Bool) (cs : List Char) : Option (Value × List Char) :=
  let run := wholeRun cs
  if run.1.isEmpty then none
  else
    let part := fraction run.2
    let power := exponent part.2
    if part.1.isEmpty && power.1.isNone then
      let n : Int := Decimal.ofDigits run.1
      some (.int (if negative then -n else n), power.2)
    else
      some (.float (Decimal.scaled negative (Decimal.ofDigits (run.1 ++ part.1))
        (power.1.getD 0 - part.1.length)), power.2)

def number? : List Char → Option (Value × List Char)
  | '-' :: cs => magnitude? true cs
  | cs => magnitude? false cs

def word? : List Char → List Char → Option (List Char)
  | [], cs => some cs
  | w :: ws, c :: cs => if w = c then word? ws cs else none
  | _ :: _, [] => none

mutual

def value? : Nat → List Char → Option (Value × List Char)
  | 0, _ => none
  | fuel + 1, cs =>
    match cs with
    | '"' :: r => (scanEscaped r).map fun p => (.ofEscaped p.1, p.2)
    | '[' :: r =>
      match skipSpace r with
      | ']' :: rest => some (.list [], rest)
      | r => (items? fuel r).map fun p => (.list p.1, p.2)
    | '\x7b' :: r =>
      match skipSpace r with
      | '\x7d' :: rest => some (.mapping [], rest)
      | r => (members? fuel r).map fun p => (.mapping (Fields.ofList p.1), p.2)
    | 'n' :: _ => (word? "null".toList cs).map fun r => (.null, r)
    | 't' :: _ => (word? "true".toList cs).map fun r => (.bool true, r)
    | 'f' :: _ => (word? "false".toList cs).map fun r => (.bool false, r)
    | _ => number? cs

/-- The items of an array up to its end, one at least. -/
def items? : Nat → List Char → Option (List Value × List Char)
  | 0, _ => none
  | fuel + 1, cs =>
    match value? fuel cs with
    | none => none
    | some (v, r) =>
      match skipSpace r with
      | ']' :: rest => some ([v], rest)
      | ',' :: r => (items? fuel (skipSpace r)).map fun p => (v :: p.1, p.2)
      | _ => none

/-- The entries of an object up to its end, one at least. -/
def members? : Nat → List Char → Option (List (Key × Value) × List Char)
  | 0, _ => none
  | fuel + 1, cs =>
    match cs with
    | '"' :: r =>
      match scanEscaped r with
      | none => none
      | some (key, r) =>
        match skipSpace r with
        | ':' :: r =>
          match value? fuel (skipSpace r) with
          | none => none
          | some (v, r) =>
            let entry := (Key.ofEscaped key, v)
            match skipSpace r with
            | '\x7d' :: rest => some ([entry], rest)
            | ',' :: r => (members? fuel (skipSpace r)).map fun p => (entry :: p.1, p.2)
            | _ => none
        | _ => none
    | _ => none

end

def decodeChars? (cs : List Char) : Option Value :=
  match value? (2 * cs.length + 2) (skipSpace cs) with
  | some (v, rest) => if (skipSpace rest).isEmpty then some v else none
  | none => none

def decode? (s : String) : Option Value := decodeChars? s.toList

end MetricDocs.Json
