/-
  Dates and times as documents write them.

  A stamp is a year of four digits, a month and a day, joined by hyphens.  A time of day may follow
  behind a `T` or blanks: hour, minute and second joined by colons, then a fraction, then a zone.

  * `Stamp` holds the parts as they stand, whether or not there is such a date or time;
  * `Stamp.read?` takes a whole text apart;
  * `Stamp.value` is the date or the moment, or says which part is out of its range.
-/
import MetricDocs.Value.Shown
import MetricDocs.Failure
import MetricDocs.Yaml.Cursor

namespace MetricDocs.Yaml

/-- A time of day: hour, minute, second, the digits of the fraction, and the zone's distance from
    UTC in seconds if a zone is given. -/
structure StampTime where
  hour : Nat
  minute : Nat
  second : Nat
  fraction : List Char
  offset : Option Int

/-- A date, and a time of day if there is one. -/
structure Stamp where
  date : Date
  time : Option StampTime

namespace Stamp

/-! ## Reading -/

def shortField? : List Char → Option (Nat × List Char)
  | c :: d :: cs =>
    if !c.isDigit then none
    else if d.isDigit then some (Decimal.ofDigits [c, d], cs)
    else some (Decimal.ofDigits [c], d :: cs)
  | [c] => if c.isDigit then some (Decimal.ofDigits [c], []) else none
  | [] => none

/-- The digits of a fraction, if one follows. -/
def fraction : List Char → List Char × List Char
  | '.' :: cs => (cs.takeWhile Char.isDigit, cs.dropWhile Char.isDigit)
  | cs => ([], cs)

/-- The distance of a zone behind its sign, to the end of the text. -/
def offset? (cs : List Char) : Option Nat := do
  let (hour, cs) ← shortField? cs
  match cs with
  | [] => some (hour * 3600)
  | _ =>
    let (minute, cs) ← readField? 2 (← expect? ':' cs)
    if cs.isEmpty then some (hour * 3600 + minute * 60) else none

/-- The zone at the end of a text, if there is one. -/
def zone? (cs : List Char) : Option (Option Int) :=
  if cs.isEmpty then some none
  else match cs.dropWhile isBlank with
    | ['Z'] => some (some 0)
    | '+' :: cs => (offset? cs).map fun n => some (n : Int)
    | '-' :: cs => (offset? cs).map fun n => some (-(n : Int))
    | _ => none

/-- The time of day at the end of a text. -/
def time? (cs : List Char) : Option StampTime := do
  let (hour, cs) ← shortField? cs
  let (minute, cs) ← readField? 2 (← expect? ':' cs)
  let (second, cs) ← readField? 2 (← expect? ':' cs)
  let (digits, cs) := fraction cs
  let offset ← zone? cs
  some ⟨hour, minute, second, digits, offset⟩

/-- What is behind the mark between date and time, if there is one. -/
def behindDate? : List Char → Option (List Char)
  | c :: cs =>
    if c = 'T' ∨ c = 't' then some cs
    else if isBlank c then some (cs.dropWhile isBlank)
    else none
  | [] => none

def read? (cs : List Char) : Option Stamp := do
  let (year, cs) ← readField? 4 cs
  let (month, cs) ← shortField? (← expect? '-' cs)
  let (day, cs) ← shortField? (← expect? '-' cs)
  let date : Date := ⟨year, month, day⟩
  if cs.isEmpty then some ⟨date, none⟩
  else
    let time ← time? (← behindDate? cs)
    some ⟨date, some time⟩

/-! ## Values -/

/-- What is wrong with a date, if there is no such one. -/
def dateFault? (d : Date) : Option DateFault :=
  if d.year = 0 then some (.year 0)
  else if d.month = 0 ∨ 12 < d.month then some .month
  else if d.valid then none
  else some .day

/-- What is wrong with a time of day, if there is no such one. -/
def timeFault? (t : StampTime) : Option DateFault :=
  if 24 ≤ t.hour then some .hour
  else if 60 ≤ t.minute then some .minute
  else if 60 ≤ t.second then some .second
  else none

/-- What is wrong with a zone: it has to be less than a day away. -/
def zoneFault? (offset : Option Int) : Option DateFault :=
  match offset with
  | some s => if s.natAbs < 86400 then none else some (.zone (quotedDistance s))
  | none => none

/-- The millionths of a second in the digits of a fraction; further digits do not count. -/
def micros (ds : List Char) : Nat :=
  let ds := ds.take 6
  Decimal.ofDigits (ds ++ List.replicate (6 - ds.length) '0')

/-- What is wrong with a stamp: the zone is looked at first, then the date, then the time. -/
def fault? (s : Stamp) : Option DateFault :=
  match s.time with
  | none => dateFault? s.date
  | some t => ((zoneFault? t.offset).or (dateFault? s.date)).or (timeFault? t)

def value (s : Stamp) : Except Failure Value :=
  match s.fault? with
  | some fault => .error (.dateOutOfRange fault)
  | none => .ok (match s.time with
    | none => .date s.date
    | some t => .moment ⟨s.date, t.hour, t.minute, t.second, micros t.fraction, t.offset⟩)

/-- Whether a plain scalar is a stamp: month and day have two digits each if no time follows. -/
def isPlain (cs : List Char) : Bool :=
  match read? cs with
  | some s => s.time.isSome || cs.length = 10
  | none => false

end Stamp

end MetricDocs.Yaml
