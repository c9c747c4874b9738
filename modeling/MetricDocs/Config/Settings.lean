/-
  Settings: what a configuration says, once it is known to be sound.

  Settings come from a mapping with an entry `global` and an entry `stdout`, both optional and both
  mappings; entries of other names mean nothing.  Every value that does not fit is a problem of its
  own, and all of them are reported, in the order of the fields.

  * `Problem` is a place and what is wrong there;
  * `textOf`, `formatOf`, `secondsOf` and `staticFieldsOf` read one field each;
  * `Opening` says how values are looked into, which is done only as far as needed;
  * `Settings.ofEntries` reads a whole configuration under an opening, `Settings.ofConfiguration` one
    that is at hand as a whole.
-/
import MetricDocs.Config.StaticFields
import MetricDocs.Value.Shown
import MetricDocs.Decimal.Whole

namespace MetricDocs

/-! ## Problems -/

/-- What can be wrong with a value. -/
inductive ProblemKind where
  | notModel (name : String)
  | notText
  | notUnicode
  | notFormat
  | notNumber
  | notNumeral
  | negative
  | notMapping
  deriving DecidableEq, Repr

def ProblemKind.name : ProblemKind → String
  | .notModel _ => "model_type"
  | .notText => "string_type"
  | .notUnicode => "string_unicode"
  | .notFormat => "literal_error"
  | .notNumber => "float_type"
  | .notNumeral => "float_parsing"
  | .negative => "greater_than_equal"
  | .notMapping => "dict_type"

def ProblemKind.message : ProblemKind → String
  | .notModel name => "Input should be a valid dictionary or instance of " ++ name
  | .notText => "Input should be a valid string"
  | .notUnicode => "Input should be a valid string, unable to parse raw data as a unicode string"
  | .notFormat => "Input should be 'json' or 'text'"
  | .notNumber => "Input should be a valid number"
  | .notNumeral => "Input should be a valid number, unable to parse string as a number"
  | .negative => "Input should be greater than or equal to 0"
  | .notMapping => "Input should be a valid dictionary"

/-- A problem and its place: the keys that lead there. -/
structure Problem where
  location : List String
  kind : ProblemKind
  deriving DecidableEq, Repr

/-- The same problem seen from further out. -/
def Problem.within (name : String) (p : Problem) : Problem := { p with location := name :: p.location }

/-! ## Single fields -/

def bytesText? (bs : List UInt8) : Option String :=
  match Text.Utf8.decode bs with
  | .ok cs => some (String.ofList cs)
  | .error _ => none

/-- A text, or the text of a byte string.  Surrogates side by side are joined. -/
def textOf : Value → Except ProblemKind String
  | .text s => .ok s
  | .surrogates ps => .ok (Text.joined ps)
  | .bytes bs => match bytesText? bs with
    | some s => .ok s
    | none => .error .notUnicode
  | _ => .error .notText

/-- One of the two names of log formats. -/
def formatOf : Value → Except ProblemKind String
  | .text s => if s = "json" ∨ s = "text" then .ok s else .error .notFormat
  | .surrogates _ => .error .notUnicode
  | _ => .error .notFormat

/-- Whether two underscores stand side by side. -/
def doubleUnderscore : List Char → Bool
  | '_' :: '_' :: _ => true
  | _ :: cs => doubleUnderscore cs
  | [] => false

/-- The number that a text spells: blanks around it are skipped; failing that, single underscores
    inside the text are. -/
def numeralOf? (s : String) : Option Float :=
  let cs := s.toList
  match Decimal.readFloat? (Text.trimWith Text.isBlank cs) with
  | some x => some x
  | none =>
    if cs.head? = some '_' ∨ cs.getLast? = some '_' ∨ doubleUnderscore cs then none
    else Decimal.readFloat? (cs.filter (· ≠ '_'))

/-- A number: a number as it is, a truth value as one or zero, or a numeral. -/
def numberOf : Value → Except ProblemKind Float
  | .int n => match Decimal.nearest? n with
    | some x => .ok x
    | none => .error .notNumber
  | .bool b => .ok (if b then 1.0 else 0.0)
  | .float x => .ok x
  | .text s => match numeralOf? s with
    | some x => .ok x
    | none => .error .notNumeral
  | .surrogates _ => .error .notUnicode
  | .bytes bs => match (bytesText? bs).bind numeralOf? with
    | some x => .ok x
    | none => .error .notNumeral
  | _ => .error .notNumber

/-- A number that is not below zero. -/
def secondsOf (v : Value) : Except ProblemKind Float :=
  match numberOf v with
  | .error k => .error k
  | .ok x => if 0.0 ≤ x then .ok x else .error .negative

/-- A key as part of a place: texts as they are, truth values as numbers, others as shown.  A whole
    number with too many digits is not shown. -/
def Key.placeName : Key → String
  | .text s => s
  | .bool b => if b then "1" else "0"
  | .int n => if Decimal.tooLong n then "<unprintable int object>" else Decimal.intText n
  | k => k.quoted

/-- The problem of one key of the static fields, or the key as a text. -/
def textKeyOf : Key → Except Problem Key
  | .surrogates ps => .ok (.surrogates ps)
  | k => match textOf k.toValue with
    | .ok s => .ok (.text s)
    | .error kind => .error ⟨[k.placeName, "[key]"], kind⟩

/-- Entries by text keys, with the problems of those whose keys are no texts. -/
def textEntries {α : Type} (fields : List (Key × α)) : List Problem × List (Key × α) :=
  fields.foldl (fun (problems, out) (k, v) =>
    match textKeyOf k with
    | .ok key => (problems, Fields.put out key v)
    | .error p => (problems ++ [p], out)) ([], [])

/-! ## Looking into values -/

/-- How values are looked into: the entries of a mapping, and a value as far as it matters without what
    is inside it. -/
structure Opening (α : Type) where
  entries? : α → Option (List (Key × α))
  bare : α → Value

/-- The entries of a value that is a mapping. -/
def Value.entries? : Value → Option Fields
  | .mapping fields => some fields
  | _ => none

/-- Values show what is inside them. -/
def Opening.value : Opening Value := ⟨Value.entries?, id⟩

section

variable {α : Type} (o : Opening α)

/-- The static fields in a value: its keys have to be texts. -/
def staticFieldsOf (v : α) : Except (List Problem) (List (Key × α)) :=
  match o.entries? v with
  | some fields =>
    match textEntries fields with
    | ([], out) => .ok out
    | (problems, _) => .error problems
  | none => .error [⟨[], .notMapping⟩]

/-! ## Models -/

/-- A field of a mapping under one of its names, the first that is there: that name, and the value
    read.  A field that is not there has its default. -/
def fieldOf {β : Type} (fields : List (Key × α)) (names : List String) (default : β)
    (read : α → Except (List Problem) β) : Except (List Problem) β :=
  match names with
  | [] => .ok default
  | name :: names =>
    match Fields.get? fields (.text name) with
    | some v => (read v).mapError fun ps => ps.map (Problem.within name)
    | none => fieldOf fields names default read

/-- A problem of a single value as the only one. -/
def single {β : Type} (r : Except ProblemKind β) : Except (List Problem) β :=
  r.mapError fun k => [⟨[], k⟩]

/-- Two readings, with the problems of both. -/
def both {β γ : Type} (a : Except (List Problem) β) (b : Except (List Problem) γ) :
    Except (List Problem) (β × γ) :=
  match a, b with
  | .ok x, .ok y => .ok (x, y)
  | .error p, .ok _ => .error p
  | .ok _, .error q => .error q
  | .error p, .error q => .error (p ++ q)

/-- The global part of the settings. -/
structure GlobalSettings where
  logLevel : String
  logFormat : String
  emitInterval : Float

/-- The global settings of a configuration that names none. -/
def GlobalSettings.default : GlobalSettings := ⟨"INFO", "text", 0.0⟩

def globalOf (v : α) : Except (List Problem) GlobalSettings :=
  match o.entries? v with
  | some fields => do
    let d := GlobalSettings.default
    let (level, format, seconds) ←
      both (fieldOf fields ["log_level"] d.logLevel fun v => single (textOf (o.bare v)))
        (both (fieldOf fields ["log_format"] d.logFormat fun v => single (formatOf (o.bare v)))
          (fieldOf fields ["emit_interval_s"] d.emitInterval fun v => single (secondsOf (o.bare v))))
    return ⟨level, format, seconds⟩
  | none => .error [⟨[], .notModel "GlobalConfig"⟩]

/-- The static fields in the output part of a configuration, if it has any. -/
def outputOf (v : α) : Except (List Problem) (Option (List (Key × α))) :=
  match o.entries? v with
  | some fields => fieldOf fields ["static_fields"] none fun v => (staticFieldsOf o v).map some
  | none => .error [⟨[], .notModel "StdoutConfig"⟩]

/-- The two parts of a configuration; the global one goes by two names, the first of which wins. -/
def partsOf (fields : List (Key × α)) :
    Except (List Problem) (GlobalSettings × Option (List (Key × α))) :=
  both (fieldOf fields ["global", "global_"] GlobalSettings.default (globalOf o))
    (fieldOf fields ["stdout"] none (outputOf o))

end

/-! ## Settings -/

/-- Whether every key of a mapping is a text. -/
def textKeys {α : Type} (fields : List (Key × α)) : Bool := fields.all fun e => e.1.points?.isSome

/-- Sound settings. -/
structure Settings where
  global : GlobalSettings
  staticFields : Fields

/-- Why no settings could be had. -/
inductive SettingsError where
  | failure (f : Failure)
  | problems (ps : List Problem)

/-- The settings in a configuration whose keys have to be texts.  The static fields are taken out of
    their entries, or are those of a configuration that names none. -/
def Settings.ofEntries {α : Type} (o : Opening α) (take : List (Key × α) → Except Failure Fields)
    (fields : List (Key × α)) : Except SettingsError Settings := do
  if !textKeys fields then throw (.failure .keyNotText)
  let (global, statics) ← (partsOf o fields).mapError .problems
  match statics with
  | none => return ⟨global, StaticFields.default⟩
  | some entries => return ⟨global, ← (take entries).mapError .failure⟩

/-- The settings in a configuration that is at hand as a whole. -/
def Settings.ofConfiguration (fields : Fields) : Except SettingsError Settings :=
  Settings.ofEntries .value .ok fields

end MetricDocs
