/-
  The Gregorian calendar and the texts of instants.

  * `Date.ofOrdinal` counts days from the first of January of the year 1, by cycles of 400, 100,
    4 and 1 years; `Date.ordinal` counts back;
  * an instant is a count of seconds since 1970 in UTC; `DateTime.ofSeconds` names its date and
    time of day, and `wholeSecond` drops microseconds;
  * `timestamp` is the text of an instant in documents, `logTime` that in log lines, by the clocks of
    a `Zone`;
  * `readTimestamp?` reads a document's timestamp back to its instant.
-/
import MetricDocs.Decimal.Digits

namespace MetricDocs

/-- A calendar date. -/
structure Date where
  year : Int
  month : Nat
  day : Nat
  deriving DecidableEq, Repr, Inhabited

/-! ## Days and dates -/

/-- Whether a year has a 29th of February. -/
def isLeap (year : Int) : Bool :=
  year % 4 = 0 && (year % 100 != 0 || year % 400 = 0)

def monthLengths (year : Int) : List Nat :=
  [31, if isLeap year then 29 else 28, 31, 30, 31, 30, 31, 31, 30, 31, 30, 31]

/-- The days of the years before the year `y + 1`. -/
def daysBefore (y : Int) : Int := 365 * y + y / 4 - y / 100 + y / 400

/-- The month and day, both from zero, of the `d`-th day of a run of months. -/
def monthAndDay : List Nat → Nat → Nat × Nat
  | [], d => (0, d)
  | len :: rest, d =>
    if d < len then (0, d)
    else
      let r := monthAndDay rest (d - len)
      (r.1 + 1, r.2)

/-- The date `n` days after the first of January of the year 1.  The year before that has the number
    zero. -/
def Date.ofOrdinal (n : Int) : Date :=
  let r₁ := (n % 146097).toNat
  let centuries := min 3 (r₁ / 36524)
  let r₂ := r₁ - centuries * 36524
  let r₃ := r₂ % 1461
  let years := min 3 (r₃ / 365)
  let y := 400 * (n / 146097) + (100 * centuries + 4 * (r₂ / 1461) + years : Nat)
  let md := monthAndDay (monthLengths (y + 1)) (r₃ - years * 365)
  ⟨y + 1, md.1 + 1, md.2 + 1⟩

/-- The days from the first of January of the year 1 to a date. -/
def Date.ordinal (d : Date) : Int :=
  daysBefore (d.year - 1) +
    (((monthLengths d.year).take (d.month - 1)).foldl (· + ·) 0 + (d.day - 1) : Nat)

/-- The days from the first of January of the year 1 to the first of January 1970. -/
def epochOrdinal : Int := 719162

def Date.dayNumber (d : Date) : Int := d.ordinal - epochOrdinal

/-- Whether a date exists: its month, and its day in that month. -/
def Date.valid (d : Date) : Bool :=
  match (monthLengths d.year)[d.month - 1]? with
  | some len => 1 ≤ d.month && 1 ≤ d.day && d.day ≤ len
  | none => false

/-! ## Instants -/

/-- A date and a time of day. -/
structure DateTime where
  date : Date
  hour : Nat
  minute : Nat
  second : Nat
  deriving DecidableEq, Repr

/-- The date and time, in UTC, `s` seconds after the epoch. -/
def DateTime.ofSeconds (s : Int) : DateTime :=
  let rest := (s % 86400).toNat
  ⟨Date.ofOrdinal (s / 86400 + epochOrdinal), rest / 3600, rest / 60 % 60, rest % 60⟩

/-- The whole second of an instant given in seconds and microseconds, which may be any number. -/
def wholeSecond (seconds micros : Int) : Int := seconds + micros / 1000000

/-- The seconds from the epoch to a date and time in UTC. -/
def DateTime.seconds (t : DateTime) : Int :=
  t.date.dayNumber * 86400 + ((t.hour * 60 + t.minute) * 60 + t.second : Nat)

/-- Year, month and day joined by `-`; the year is not padded. -/
def Date.digits (d : Date) : List Char :=
  Decimal.intDigits d.year ++ '-' :: Decimal.padded 2 d.month ++ '-' :: Decimal.padded 2 d.day

/-- Hours, minutes and seconds joined by `:`. -/
def DateTime.clockDigits (t : DateTime) : List Char :=
  Decimal.padded 2 t.hour ++ ':' :: Decimal.padded 2 t.minute ++ ':' :: Decimal.padded 2 t.second

/-- The text of an instant in documents: date, `T`, time of day, `Z`. -/
def timestamp (s : Int) : String :=
  let t := DateTime.ofSeconds s
  String.ofList (t.date.digits ++ 'T' :: t.clockDigits ++ ['Z'])

/-- A time zone: the seconds by which its clocks are ahead of UTC, at every second since 1970. -/
structure Zone where
  ahead : Int → Int

/-- The zone whose clocks show UTC. -/
def Zone.utc : Zone := ⟨fun _ => 0⟩

/-- The text of an instant in log lines, by the clocks of a zone: date, space, time of day. -/
def logTime (zone : Zone) (s : Int) : String :=
  let t := DateTime.ofSeconds (s + zone.ahead s)
  String.ofList (t.date.digits ++ ' ' :: t.clockDigits)

/-! ## Reading timestamps -/

/-- A number of exactly `width` digits, and what follows it. -/
def readField? (width : Nat) (cs : List Char) : Option (Nat × List Char) :=
  let ds := cs.take width
  if ds.length = width && ds.all Char.isDigit then some (Decimal.ofDigits ds, cs.drop width)
  else none

/-- What follows the character `c`. -/
def expect? (c : Char) : List Char → Option (List Char)
  | d :: cs => if d = c then some cs else none
  | [] => none

/-- The instant of a timestamp with a year of four digits; the date and the time must exist. -/
def readTimestamp? (s : String) : Option Int := do
  let (year, r) ← readField? 4 s.toList
  let (month, r) ← readField? 2 (← expect? '-' r)
  let (day, r) ← readField? 2 (← expect? '-' r)
  let (hour, r) ← readField? 2 (← expect? 'T' r)
  let (minute, r) ← readField? 2 (← expect? ':' r)
  let (second, r) ← readField? 2 (← expect? ':' r)
  let rest ← expect? 'Z' r
  let t : DateTime := ⟨⟨year, month, day⟩, hour, minute, second⟩
  if t.date.valid && 1 ≤ year && hour < 24 && minute < 60 && second < 60 && rest.isEmpty then
    some t.seconds
  else none

example : timestamp 951782399 = "2000-02-28T23:59:59Z" ∧ timestamp (-1) = "1969-12-31T23:59:59Z" := by
  decide +kernel
example : wholeSecond 0 (-1) = -1 ∧ wholeSecond 59 2000000 = 61 := by decide
example : logTime .utc (-99999999999) = "-1199-02-15 14:13:21" ∧
    logTime ⟨fun s => if s < 0 then 0 else 3600⟩ 0 = "1970-01-01 01:00:00" := by decide +kernel
example : readTimestamp? "2000-02-29T00:00:00Z" = some 951782400 := by decide +kernel

end MetricDocs
