/-
  Values as messages show them.

  * `Value.quoted` shows a value so that its kind can be told: text in quotes, sequences in
    brackets, dates by their parts, sets of natural numbers in ascending order;
  * `Value.shown` is the same, except that a text or a date stands for itself.
-/
import MetricDocs.Value.Basic
import MetricDocs.Text.Surrogates

namespace MetricDocs

def commaJoined (parts : List String) : String := ", ".intercalate parts

def Date.quoted (d : Date) : String :=
  "datetime.date(" ++ commaJoined ([d.year, d.month, d.day].map Decimal.intText) ++ ")"

/-- A distance in seconds by days and seconds, the days rounded down. -/
def quotedDistance (s : Int) : String :=
  let days := s / 86400
  let rest := s % 86400
  let parts :=
    (if days = 0 then [] else ["days=" ++ Decimal.intText days]) ++
      (if rest = 0 then [] else ["seconds=" ++ Decimal.intText rest])
  "datetime.timedelta(" ++ (if parts.isEmpty then "0" else commaJoined parts) ++ ")"

/-- A moment by its parts; seconds and their fraction are left out where they are zero. -/
def Moment.quoted (t : Moment) : String :=
  let tail :=
    if t.micros ≠ 0 then [t.second, t.micros] else if t.second ≠ 0 then [t.second] else []
  let parts := Decimal.intText t.date.year ::
    ([t.date.month, t.date.day, t.hour, t.minute] ++ tail).map fun (n : Nat) => Decimal.intText n
  let zone := match t.offset with
    | none => []
    | some 0 => ["tzinfo=datetime.timezone.utc"]
    | some s => ["tzinfo=datetime.timezone(" ++ quotedDistance s ++ ")"]
  "datetime.datetime(" ++ commaJoined (parts ++ zone) ++ ")"

def quotedBool (b : Bool) : String := if b then "True" else "False"

/-- Parts in round brackets; a single one is followed by a comma. -/
def quotedTuple : List String → String
  | [part] => "(" ++ part ++ ",)"
  | parts => "(" ++ commaJoined parts ++ ")"

mutual

/-- A key, shown so that its kind can be told. -/
def Key.quoted : Key → String
  | .null => "None"
  | .bool b => quotedBool b
  | .int n => Decimal.intText n
  | .float x => Decimal.floatText x
  | .text s => Text.quoted s
  | .surrogates ps => Text.quotedPoints ps
  | .bytes bs => Text.quotedBytes bs
  | .date d => d.quoted
  | .moment t => t.quoted
  | .tuple ks => quotedTuple (Key.quotedAll ks)

/-- Keys, each shown so that its kind can be told. -/
def Key.quotedAll : List Key → List String
  | [] => []
  | k :: ks => k.quoted :: Key.quotedAll ks

end

def Key.isNatural (k : Key) : Bool :=
  match k.number? with
  | some (.whole n) => 0 ≤ n
  | _ => false

/-- Whether a natural number is not above another. -/
def Key.naturalLe (k l : Key) : Bool :=
  match k.number?, l.number? with
  | some (.whole m), some (.whole n) => m ≤ n
  | _, _ => false

/-- The members of a set in the order in which they are shown: natural numbers ascending. -/
def shownMembers (ks : List Key) : List Key :=
  if ks.all Key.isNatural then ks.mergeSort Key.naturalLe else ks

mutual

/-- A value, shown so that its kind can be told. -/
def Value.quoted : Value → String
  | .null => "None"
  | .bool b => quotedBool b
  | .int n => Decimal.intText n
  | .float x => Decimal.floatText x
  | .text s => Text.quoted s
  | .surrogates ps => Text.quotedPoints ps
  | .bytes bs => Text.quotedBytes bs
  | .date d => d.quoted
  | .moment t => t.quoted
  | .list vs => "[" ++ commaJoined (Value.quotedAll vs) ++ "]"
  | .tuple vs => quotedTuple (Value.quotedAll vs)
  | .set [] => "set()"
  | .set ks => "\x7b" ++ commaJoined (Key.quotedAll (shownMembers ks)) ++ "\x7d"
  | .mapping fields => "\x7b" ++ commaJoined (Value.quotedFields fields) ++ "\x7d"

/-- Values, each shown so that its kind can be told. -/
def Value.quotedAll : List Value → List String
  | [] => []
  | v :: vs => v.quoted :: Value.quotedAll vs

/-- Entries, key and value joined by a colon and a space. -/
def Value.quotedFields : List (Key × Value) → List String
  | [] => []
  | (k, v) :: fields => (k.quoted ++ ": " ++ v.quoted) :: Value.quotedFields fields

end

/-- A date as it stands in a message: the year has four digits. -/
def Date.shown (d : Date) : String :=
  String.ofList (Decimal.padded 4 d.year.toNat ++ '-' :: Decimal.padded 2 d.month ++
    '-' :: Decimal.padded 2 d.day)

/-- A distance from UTC as it stands in a message: hours, minutes, and seconds if there are any. -/
def shownOffset (s : Int) : String :=
  let n := s.natAbs
  let seconds := if n % 60 = 0 then [] else ':' :: Decimal.padded 2 (n % 60)
  String.ofList ((if s < 0 then '-' else '+') :: Decimal.padded 2 (n / 3600) ++
    ':' :: Decimal.padded 2 (n / 60 % 60) ++ seconds)

/-- A moment as it stands in a message: a fraction of a second and a zone only if there are such. -/
def Moment.shown (t : Moment) : String :=
  let fraction := if t.micros = 0 then [] else '.' :: Decimal.padded 6 t.micros
  t.date.shown ++ String.ofList (' ' :: Decimal.padded 2 t.hour ++ ':' :: Decimal.padded 2 t.minute ++
    ':' :: Decimal.padded 2 t.second ++ fraction) ++ (t.offset.map shownOffset).getD ""

def Value.shown : Value → String
  | .text s => s
  | .date d => d.shown
  | .moment t => t.shown
  | v => v.quoted

end MetricDocs
