/-
  Values: what documents, configuration files and arguments are made of.

  * `Value` is a tree of scalars, sequences and mappings; a mapping is a list of entries in
    insertion order, and its keys are scalars or tuples of such (`Key`);
  * `Key.same` is equality of keys: numbers are compared by value, whatever their form;
  * `Fields.get?` and `Fields.put` look a key up and set it, a key that is there keeping its place
    and its form;
  * `Fields.get?_put` says that a lookup after a write of a text key sees the write at that key and
    the old entries elsewhere.
-/
import MetricDocs.Decimal.Layout
import MetricDocs.Calendar
import MetricDocs.Text.Surrogates

namespace MetricDocs

/-- A date with a time of day, and the zone's distance from UTC in seconds if it is known. -/
structure Moment where
  date : Date
  hour : Nat
  minute : Nat
  second : Nat
  micros : Nat
  offset : Option Int
  deriving DecidableEq, Repr, Inhabited

/-- The seconds from the epoch to a moment, were it in UTC. -/
def Moment.seconds (t : Moment) : Int :=
  t.date.dayNumber * 86400 + ((t.hour * 60 + t.minute) * 60 + t.second : Nat)

/-- A key of a mapping, or a member of a set.  `surrogates` is a text in which surrogates stand. -/
inductive Key where
  | null
  | bool (b : Bool)
  | int (n : Int)
  | float (x : Float)
  | text (s : String)
  | surrogates (points : List Nat)
  | bytes (bs : List UInt8)
  | date (d : Date)
  | moment (t : Moment)
  | tuple (ks : List Key)
  deriving Inhabited

/-- A value.  `surrogates` is a text in which surrogates stand, by its code points. -/
inductive Value where
  | null
  | bool (b : Bool)
  | int (n : Int)
  | float (x : Float)
  | text (s : String)
  | surrogates (points : List Nat)
  | bytes (bs : List UInt8)
  | date (d : Date)
  | moment (t : Moment)
  | list (vs : List Value)
  | tuple (vs : List Value)
  | set (ks : List Key)
  | mapping (fields : List (Key × Value))
  deriving Inhabited

/-- The entries of a mapping in insertion order. -/
abbrev Fields := List (Key × Value)

/-! ## Keys -/

/-- A number as a key sees it: the integer it equals, or else the double itself. -/
inductive Number where
  | whole (n : Int)
  | fraction (x : Float)
  deriving DecidableEq

/-- The integer that a double equals, if there is one. -/
def wholeFloat? (x : Float) : Option Int :=
  let signed (n : Nat) : Int := if Decimal.isNegative x then -n else n
  match Decimal.magnitude x with
  | .nan | .infinite => none
  | .zero => some 0
  | .finite b =>
    let den := Nat.pow 2 (-b.q).toNat
    if b.m % den = 0 then some (signed (b.m / den * Nat.pow 2 b.q.toNat)) else none

/-- The number that a key is, if it is one. -/
def Key.number? : Key → Option Number
  | .bool b => some (.whole (if b then 1 else 0))
  | .int n => some (.whole n)
  | .float x => match wholeFloat? x with
    | some n => some (.whole n)
    | none => some (.fraction x)
  | _ => none

/-- Whether two moments are the same: the same date and time without a zone, or one instant. -/
def Moment.same (s t : Moment) : Bool :=
  match s.offset, t.offset with
  | some p, some q => s.seconds - p = t.seconds - q && s.micros = t.micros
  | none, none => s = t
  | _, _ => false

mutual

/-- Whether two keys are the same key of a mapping. -/
def Key.same : Key → Key → Bool
  | .null, .null => true
  | .text s, .text t => s = t
  | .surrogates ps, .surrogates qs => ps = qs
  | .bytes bs, .bytes cs => bs = cs
  | .date d, .date e => d = e
  | .moment s, .moment t => s.same t
  | .tuple ks, .tuple ls => Key.sameAll ks ls
  | k, l => match k.number?, l.number? with
    | some (.whole m), some (.whole n) => m = n
    | some (.fraction x), some (.fraction y) => x == y
    | _, _ => false

/-- Whether two lists of keys are the same one by one. -/
def Key.sameAll : List Key → List Key → Bool
  | [], [] => true
  | k :: ks, l :: ls => k.same l && Key.sameAll ks ls
  | _, _ => false

end

theorem Key.same_text_iff {k : Key} {s : String} : k.same (.text s) = true ↔ k = .text s := by
  cases k <;> simp [Key.same, Key.number?]

/-! ## Entries -/

namespace Fields

variable {α : Type}

/-- The value at a key.  Entries may have values of any type. -/
def get? : List (Key × α) → Key → Option α
  | [], _ => none
  | (l, v) :: fields, k => if l.same k then some v else get? fields k

/-- Sets a key: in place if it is there, otherwise behind the other entries. -/
def put : List (Key × α) → Key → α → List (Key × α)
  | [], k, v => [(k, v)]
  | (l, w) :: fields, k, v =>
    if l.same k then (l, v) :: fields else (l, w) :: put fields k v

def ofList (entries : List (Key × Value)) : Fields :=
  entries.foldl (fun fields e => put fields e.1 e.2) []

def keys (fields : Fields) : List Key := fields.map Prod.fst

theorem get?_put (fields : List (Key × α)) (s t : String) (v : α) :
    get? (put fields (.text s) v) (.text t) =
      if s = t then some v else get? fields (.text t) := by
  induction fields with
  | nil => simp [put, get?, Key.same_text_iff]
  | cons e fields ih =>
    obtain ⟨l, w⟩ := e
    by_cases hl : l = .text s
    · subst hl
      by_cases hst : s = t <;> simp [put, get?, Key.same_text_iff, hst]
    · by_cases hst : s = t
      · subst hst
        simp [put, get?, Key.same_text_iff, hl, ih]
      · by_cases hlt : l = .text t
        · have hts : t ≠ s := fun h => hst h.symm
          simp [put, get?, Key.same_text_iff, hlt, hts, hst]
        · simp [put, get?, Key.same_text_iff, hl, hlt, ih, hst]

end Fields

/-- Whether a value is null, false, zero or empty. -/
def Value.isVacant : Value → Bool
  | .null | .bool false | .int 0 | .text "" => true
  | .float x => x == 0.0
  | .bytes bs => bs.isEmpty
  | .list vs | .tuple vs => vs.isEmpty
  | .set ks => ks.isEmpty
  | .mapping fields => fields.isEmpty
  | _ => false

/-! ## Names of kinds -/

def Value.kindName : Value → String
  | .null => "NoneType"
  | .bool _ => "bool"
  | .int _ => "int"
  | .float _ => "float"
  | .text _ | .surrogates _ => "str"
  | .bytes _ => "bytes"
  | .date _ => "datetime.date"
  | .moment _ => "datetime.datetime"
  | .list _ => "list"
  | .tuple _ => "tuple"
  | .set _ => "set"
  | .mapping _ => "dict"

/-- The last part of the name of a kind of value. -/
def Value.shortKindName : Value → String
  | .date _ => "date"
  | .moment _ => "datetime"
  | v => v.kindName

def Key.toValue : Key → Value
  | .null => .null
  | .bool b => .bool b
  | .int n => .int n
  | .float x => .float x
  | .text s => .text s
  | .surrogates ps => .surrogates ps
  | .bytes bs => .bytes bs
  | .date d => .date d
  | .moment t => .moment t
  | .tuple ks => .tuple (toValues ks)
where
  /-- Keys as values, one by one. -/
  toValues : List Key → List Value
    | [] => []
    | k :: ks => k.toValue :: toValues ks

/-- A text as escapes spell it, as a key. -/
def Key.ofEscaped : Text.Escaped → Key
  | .string s => .text s
  | .surrogates ps => .surrogates ps

/-- A text as escapes spell it, as a value. -/
def Value.ofEscaped : Text.Escaped → Value
  | .string s => .text s
  | .surrogates ps => .surrogates ps

/-- The code points of a key that is a text. -/
def Key.points? : Key → Option (List Nat)
  | .text s => some (s.toList.map Char.toNat)
  | .surrogates ps => some ps
  | _ => none

def Key.kindName (k : Key) : String := k.toValue.kindName

mutual

/-- A value as a key; sequences, sets and mappings are none. -/
def Value.toKey? : Value → Option Key
  | .null => some .null
  | .bool b => some (.bool b)
  | .int n => some (.int n)
  | .float x => some (.float x)
  | .text s => some (.text s)
  | .surrogates ps => some (.surrogates ps)
  | .bytes bs => some (.bytes bs)
  | .date d => some (.date d)
  | .moment t => some (.moment t)
  | .tuple vs => (Value.toKeys? vs).map .tuple
  | .list _ | .set _ | .mapping _ => none

def Value.toKeys? : List Value → Option (List Key)
  | [] => some []
  | v :: vs => match v.toKey?, Value.toKeys? vs with
    | some k, some ks => some (k :: ks)
    | _, _ => none

end

end MetricDocs
