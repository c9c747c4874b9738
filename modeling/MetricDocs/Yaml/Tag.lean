/-
  Tags: the kinds of nodes.

  * `Tag` lists the known tags, `Tag.ofName` finds one by its full name;
  * `Tag.ofText` is the tag of a scalar that has none, by its text: truth values, numbers, dates and
    null are told by their form, and all else is text, surrogates among it too (`Tag.ofEscaped`).
-/
import MetricDocs.Text.Surrogates
import MetricDocs.Yaml.Stamp

namespace MetricDocs.Yaml

/-- The kind of a node. -/
inductive Tag where
  | null
  | bool
  | int
  | float
  | text
  | binary
  | timestamp
  | merge
  | value
  | sequence
  | mapping
  | set
  | orderedMap
  | pairs
  | unknown
  deriving DecidableEq, Repr

/-- What the full names of the known tags begin with. -/
def tagStart : String := "tag:yaml.org,2002:"

/-- The known tags by the ends of their names. -/
def Tag.named : List (String × Tag) :=
  [("null", .null), ("bool", .bool), ("int", .int), ("float", .float), ("str", .text),
    ("binary", .binary), ("timestamp", .timestamp), ("merge", .merge), ("value", .value),
    ("seq", .sequence), ("map", .mapping), ("set", .set), ("omap", .orderedMap),
    ("pairs", .pairs)]

def Tag.ofName (name : String) : Tag :=
  match Tag.named.find? fun e => tagStart ++ e.1 = name with
  | some e => e.2
  | none => .unknown

/-! ## Forms of scalars -/

/-- The words for truth values, in small letters. -/
def boolWords : List (String × Bool) :=
  [("yes", true), ("no", false), ("true", true), ("false", false), ("on", true), ("off", false)]

/-- The three ways to write a word: small, with a capital, in capitals. -/
def spellings (word : List Char) : List (List Char) :=
  [word, word.take 1 |>.map Char.toUpper |>.append (word.drop 1), word.map Char.toUpper]

/-- Whether a text is a word in one of its spellings. -/
def spells (word : String) (cs : List Char) : Bool := (spellings word.toList).contains cs

def isDigitOrLow (c : Char) : Bool := c.isDigit || c = '_'

def behindSign : List Char → List Char
  | '+' :: cs => cs
  | '-' :: cs => cs
  | cs => cs

/-- What follows the groups of base sixty in front of a text, and whether there is one: a colon and
    a number below sixty each. -/
def behindSixties : List Char → Bool × List Char
  | ':' :: c :: d :: cs =>
    if !c.isDigit then (false, ':' :: c :: d :: cs)
    else if c < '6' && d.isDigit then (true, (behindSixties cs).2)
    else (true, (behindSixties (d :: cs)).2)
  | [':', c] => if c.isDigit then (true, []) else (false, [':', c])
  | cs => (false, cs)

def isExponent : List Char → Bool
  | [] => true
  | e :: s :: ds =>
    (e = 'e' || e = 'E') && (s = '+' || s = '-') && !ds.isEmpty && ds.all Char.isDigit
  | _ => false

def startsWithDigit (cs : List Char) : Bool := cs.head?.any Char.isDigit

/-- A fraction: a number with a point, where digits come in front of the point or right behind it. -/
def isFraction (cs : List Char) : Bool :=
  let number := behindSign cs
  if startsWithDigit number then
    match number.dropWhile isDigitOrLow with
    | '.' :: r => isExponent (r.dropWhile isDigitOrLow)
    | r =>
      let (grouped, r) := behindSixties r
      match r with
      | '.' :: r => grouped && r.all isDigitOrLow
      | _ => false
  else match cs with
    | '.' :: r => startsWithDigit r && isExponent (r.dropWhile isDigitOrLow)
    | _ => false

/-- The forms of doubles: a fraction, infinity with or without a sign, and not a number. -/
def isFloat (cs : List Char) : Bool :=
  isFraction cs ||
    ["inf", "Inf", "INF"].any (fun w => behindSign cs = '.' :: w.toList) ||
    ["nan", "NaN", "NAN"].any (fun w => cs = '.' :: w.toList)

/-- The forms of integers: in base two, eight, ten and sixteen, and in groups of base sixty. -/
def isInt (cs : List Char) : Bool :=
  match behindSign cs with
  | ['0'] => true
  | '0' :: 'b' :: ds => !ds.isEmpty && ds.all fun c => c = '0' || c = '1' || c = '_'
  | '0' :: 'x' :: ds => !ds.isEmpty && ds.all fun c => isHexDigit c || c = '_'
  | '0' :: ds => ds.all fun c => ('0' ≤ c && c ≤ '7') || c = '_'
  | c :: ds =>
    let (grouped, rest) := behindSixties (ds.dropWhile isDigitOrLow)
    c.isDigit && rest.isEmpty && (grouped || ds.all isDigitOrLow)
  | [] => false

/-- The text that tells the form of a scalar: one line end behind it makes no difference. -/
def formOf (s : String) : List Char :=
  let cs := s.toList
  if cs.getLast? = some '\n' ∧ 1 < cs.length then cs.dropLast else cs

def Tag.ofText (s : String) : Tag :=
  let cs := formOf s
  if boolWords.any fun w => spells w.1 cs then .bool
  else if isFloat cs then .float
  else if isInt cs then .int
  else if cs = ['<', '<'] then .merge
  else if cs.isEmpty || cs = ['~'] || spells "null" cs then .null
  else if Stamp.isPlain cs then .timestamp
  else if cs = ['='] then .value
  else if cs = ['!'] || cs = ['&'] || cs = ['*'] then .unknown
  else .text

/-- The tag of a scalar without one that may come out of escapes: no form has surrogates in it. -/
def Tag.ofEscaped : Text.Escaped → Tag
  | .string s => .ofText s
  | .surrogates _ => .text

example : Tag.ofText "08" = .text ∧ Tag.ofText "1:30" = .int ∧ Tag.ofText "1:60" = .text := by
  decide +kernel
example : Tag.ofText "1e3" = .text ∧ Tag.ofText "1.0e+3" = .float ∧ Tag.ofText "-.5" = .text := by
  decide +kernel
example : Tag.ofText "2024-1-1" = .text ∧ Tag.ofText "2024-01-01" = .timestamp := by
  decide +kernel

end MetricDocs.Yaml
