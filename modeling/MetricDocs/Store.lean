/-
  The store of live metrics.

  Counters, gauges and timers are kept in three tables by path, each in the order of first use.
  Handles are made on first use, and labels never tell two handles apart.

  * `Table` is an ordered table of integers, with `value`, `touch` and `set`;
  * `Handle.operand` is the number by which an update changes a handle, and `Store.update` adds it,
    subtracts it or puts it in the place of the value; a refused update changes no value;
  * `Store.counterSnapshot` and `Store.timerSnapshot` list the values, `Store.flushCounters` and
    `Store.flushTimers` zero them;
  * `StoreCommand` and `Store.perform` put these together.
-/
import MetricDocs.Log

namespace MetricDocs

/-! ## Tables -/

/-- Integers by path, in the order of first use. -/
abbrev Table := List (String × Int)

namespace Table

/-- The value at a path, if the path is there. -/
def get? (t : Table) (path : String) : Option Int :=
  match t with
  | [] => none
  | (p, n) :: t => if p = path then some n else get? t path

/-- The value at a path, zero if the path is not there. -/
def value (t : Table) (path : String) : Int := (get? t path).getD 0

/-- Sets the value at a path: in place if it is there, otherwise at the end. -/
def set (t : Table) (path : String) (n : Int) : Table :=
  match t with
  | [] => [(path, n)]
  | (p, m) :: t => if p = path then (p, n) :: t else (p, m) :: set t path n

def touch (t : Table) (path : String) : Table := set t path (value t path)

def paths (t : Table) : List String := t.map Prod.fst

/-- Reports the entries of a table into another and leaves zeros behind, entry by entry: the report
    and the table. -/
def drain (report : Table) : Table → Table × Table
  | [] => (report, [])
  | (path, n) :: t =>
    let r := drain (set report path n) t
    (r.1, (path, 0) :: r.2)

/-- Sets the values of one table in another. -/
def overlay (t upper : Table) : Table := upper.foldl (fun t e => set t e.1 e.2) t

theorem get?_set (t : Table) (p q : String) (n : Int) :
    get? (set t p n) q = if p = q then some n else get? t q := by
  induction t with
  | nil => simp [set, get?]
  | cons e t ih =>
    obtain ⟨r, m⟩ := e
    by_cases hr : r = p
    · subst hr
      by_cases hq : r = q <;> simp [set, get?, hq]
    · by_cases hq : p = q
      · subst hq
        simp [set, get?, hr, ih]
      · by_cases hrq : r = q
        · subst hrq
          simp [set, get?, hr, hq]
        · simp [set, get?, hr, hq, hrq, ih]

end Table

/-! ## Handles -/

/-- The kinds of metrics. -/
inductive MetricKind where
  | counter
  | gauge
  | timer
  deriving DecidableEq, Repr

/-- A handle of a metric.  Labels are accepted and mean nothing. -/
structure Handle where
  kind : MetricKind
  path : String
  labels : List String
  deriving DecidableEq, Repr

/-- The three tables. -/
structure Store where
  counters : Table
  gauges : Table
  timers : Table
  deriving DecidableEq, Repr

namespace Store

def empty : Store := ⟨[], [], []⟩

def table (s : Store) : MetricKind → Table
  | .counter => s.counters
  | .gauge => s.gauges
  | .timer => s.timers

def withTable (s : Store) (kind : MetricKind) (t : Table) : Store :=
  match kind with
  | .counter => { s with counters := t }
  | .gauge => { s with gauges := t }
  | .timer => { s with timers := t }

def value (s : Store) (h : Handle) : Int := (s.table h.kind).value h.path

def set (s : Store) (h : Handle) (n : Int) : Store :=
  s.withTable h.kind ((s.table h.kind).set h.path n)

def touch (s : Store) (h : Handle) : Store :=
  s.withTable h.kind ((s.table h.kind).touch h.path)

end Store

/-! ## Updates -/

/-- The whole number that a value stands for: a number without its fraction, a truth value as one
    or zero, or the number that a text or a byte string spells. -/
def Value.toWhole : Value → Except Failure Int
  | .int n => .ok n
  | .bool b => .ok (if b then 1 else 0)
  | .float x =>
    match Decimal.truncate? x with
    | some n => .ok n
    | none => .error (match Decimal.magnitude x with
      | .nan => .wholeOfNan
      | _ => .wholeOfInfinity)
  | .text s => (Decimal.readWhole s).mapError (.ofWhole (Text.quoted s))
  | .surrogates ps =>
    (Decimal.readWhole (Text.withoutHalves ps)).mapError (.ofWhole (Text.quotedPoints ps))
  | .bytes bs => (Decimal.readWholeBytes bs).mapError (.ofWhole (Text.quotedBytes bs))
  | v => .error (.notWhole v.kindName)

/-- What an update does with its argument. -/
inductive Change where
  | add
  | subtract
  | replace
  deriving DecidableEq, Repr

def Change.apply : Change → Int → Int → Int
  | .add, old, n => old + n
  | .subtract, old, n => old - n
  | .replace, _, n => n

/-- The name under which a handle has a change. -/
def Change.name : Change → String
  | .add => "incr"
  | .subtract => "decr"
  | .replace => "set"

/-- The number by which a change alters a handle.  A timer has no change but to be replaced, whatever
    the argument is. -/
def Handle.operand (h : Handle) (c : Change) (argument : Value) : Except Failure Int :=
  if h.kind = .timer ∧ c ≠ .replace then .error (.noAttribute "LocalTiming" c.name)
  else argument.toWhole

namespace Store

/-- Changes the value of a handle, which is made first; a refused change leaves its value. -/
def update (s : Store) (h : Handle) (c : Change) (argument : Value) : Store × Except Failure Int :=
  match h.operand c argument with
  | .error e => (s.touch h, .error e)
  | .ok n =>
    let new := c.apply (s.value h) n
    (s.set h new, .ok new)

/-- Adds the same argument several times. -/
def addTimes (s : Store) (h : Handle) (argument : Value) : Nat → Store × Except Failure Int
  | 0 => (s.touch h, .ok (s.value h))
  | n + 1 =>
    match s.update h .add argument with
    | (t, .error e) => (t, .error e)
    | (t, .ok m) => if n = 0 then (t, .ok m) else t.addTimes h argument n

/-! ## Snapshots -/

/-- Counters in their order, then the gauges that share no path with one; a gauge's value counts
    where both are there. -/
def counterSnapshot (s : Store) : Table := s.counters.overlay s.gauges

def timerSnapshot (s : Store) : Table := s.timers

/-- Reports counters, then gauges, and zeroes them on the way. -/
def flushCounters (s : Store) : Store × Table :=
  let (report, counters) := Table.drain [] s.counters
  let (report, gauges) := Table.drain report s.gauges
  ({ s with counters := counters, gauges := gauges }, report)

/-- Reports timers and zeroes them on the way. -/
def flushTimers (s : Store) : Store × Table :=
  let (report, timers) := Table.drain [] s.timers
  ({ s with timers := timers }, report)

end Store

/-! ## Commands -/

/-- What can be asked of a store. -/
inductive StoreCommand where
  /-- The value of a handle, which is made if it is not there. -/
  | touch (h : Handle)
  /-- Whether two look-ups give the same handle. -/
  | same (h : Handle)
  | update (h : Handle) (c : Change) (argument : Value)
  | addTimes (h : Handle) (argument : Value) (times : Nat)
  | counters
  | timers
  | flushCounters
  | flushTimers

/-- What a store answers. -/
inductive StoreReply where
  | number (n : Int)
  | yes
  | entries (t : Table)

namespace Store

/-- The record of a flush of `count` entries. -/
def flushRecord (count : Nat) (what : String) : LogRecord :=
  .plain Level.debug Logger.store ("Flushed " ++ Decimal.intText count ++ " " ++ what)

/-- Carries out a command: the new store, the log record it leaves, and the answer. -/
def perform (s : Store) : StoreCommand → Store × List LogRecord × Except Failure StoreReply
  | .touch h => (s.touch h, [], .ok (.number (s.value h)))
  | .same h => (s.touch h, [], .ok .yes)
  | .update h c argument =>
    let r := s.update h c argument
    (r.1, [], r.2.map .number)
  | .addTimes h argument times =>
    let r := s.addTimes h argument times
    (r.1, [], r.2.map .number)
  | .counters => (s, [], .ok (.entries s.counterSnapshot))
  | .timers => (s, [], .ok (.entries s.timerSnapshot))
  | .flushCounters =>
    let (t, report) := s.flushCounters
    (t, [flushRecord report.length "counters"], .ok (.entries report))
  | .flushTimers =>
    let (t, report) := s.flushTimers
    (t, [flushRecord report.length "timings"], .ok (.entries report))

end Store

end MetricDocs
