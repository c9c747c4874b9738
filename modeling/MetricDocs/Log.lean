/-
  Log records and their two formats.

  * `LogRecord` is what one call of a logger leaves; `Logger` names the loggers of the program;
  * `levelName` names a level;
  * `LogEntry` is a record as a handler is given it, with its time and the name of its level;
  * `LogFormat.render` writes an entry by the clocks of a zone, as columns or as a JSON object of one
    line, and `LogFormat.renderAll` writes entries line by line;
  * `levelOf` is the level that a configured name asks for;
  * `messageWith` puts arguments into the places of a message.
-/
import MetricDocs.Json.Encode
import MetricDocs.Template

namespace MetricDocs

/-- One log record; `failure` is the failure it reports, if it reports one in full. -/
structure LogRecord where
  level : Int
  logger : String
  message : String
  failure : Option Failure
  deriving Repr

namespace Level

def debug : Int := 10

def info : Int := 20

def warning : Int := 30

def error : Int := 40

def critical : Int := 50

end Level

namespace Logger

/-- The logger of the grouping of metrics. -/
def grouping : String := "stdout_metrics.grouping"

def store : String := "stdout_metrics.local"

def aggregator : String := "stdout_metrics.stdout"

def emitter : String := "stdout_metrics.engine"

def program : String := "stdout_metrics.main"

/-- The logger of a name.  The one without a name is the root logger, which is called so. -/
def named (name : String) : String := if name = "" then "root" else name

end Logger

def LogRecord.plain (level : Int) (logger message : String) : LogRecord :=
  ⟨level, logger, message, none⟩

/-! ## Levels -/

def levelName (level : Int) : String :=
  if level = 0 then "NOTSET"
  else if level = Level.debug then "DEBUG"
  else if level = Level.info then "INFO"
  else if level = Level.warning then "WARNING"
  else if level = Level.error then "ERROR"
  else if level = Level.critical then "CRITICAL"
  else "Level " ++ Decimal.intText level

/-- The letters that stand for a character in upper case, where they are ASCII. -/
def upperLetters (c : Char) : List Char :=
  match c with
  | 'ß' => ['S', 'S']
  | 'ı' => ['I']
  | 'ſ' => ['S']
  | 'ﬀ' => ['F', 'F']
  | 'ﬁ' => ['F', 'I']
  | 'ﬂ' => ['F', 'L']
  | 'ﬃ' => ['F', 'F', 'I']
  | 'ﬄ' => ['F', 'F', 'L']
  | 'ﬅ' => ['S', 'T']
  | 'ﬆ' => ['S', 'T']
  | c => [c.toUpper]

/-- The template of a log line that bears the name of a level. -/
def basicTemplate : String := "%(levelname)s:%(name)s:%(message)s"

/-- The table of templates that bears the name of a level. -/
def templateTable : String :=
  "\x7b'%': (<class 'logging.PercentStyle'>, '" ++ basicTemplate ++
    "'), '\x7b': (<class 'logging.StrFormatStyle'>, " ++
    "'\x7blevelname\x7d:\x7bname\x7d:\x7bmessage\x7d'), " ++
    "'$': (<class 'logging.StringTemplateStyle'>, " ++
    "'$\x7blevelname\x7d:$\x7bname\x7d:$\x7bmessage\x7d')\x7d"

/-- What a name of a level asks for: its level, the level of information if it names none, or a
    failure if it names something else. -/
def levelOf (name : String) : Except Failure Int :=
  match String.ofList (name.toList.flatMap upperLetters) with
  | "NOTSET" => .ok 0
  | "DEBUG" => .ok Level.debug
  | "INFO" => .ok Level.info
  | "WARN" | "WARNING" => .ok Level.warning
  | "ERROR" => .ok Level.error
  | "CRITICAL" | "FATAL" => .ok Level.critical
  | "BASIC_FORMAT" => .error (.unknownLevel (Text.quoted basicTemplate))
  | "_STYLES" => .error (.levelOfOtherKind templateTable)
  | _ => .ok Level.info

/-! ## Formats -/

/-- The formats of log lines. -/
inductive LogFormat where
  | columns
  | json
  deriving DecidableEq, Repr

/-- The format that a configured name asks for. -/
def LogFormat.ofName (name : String) : LogFormat :=
  if name = "json" then .json else .columns

/-- A failure as a record reports it: the name of its kind, and its wording if there is any. -/
def Failure.report (f : Failure) : String :=
  if f.message.isEmpty then f.kind.name else f.kind.name ++ ": " ++ f.message

/-- A text with spaces behind it up to `width` characters. -/
def padRight (width : Nat) (s : String) : String :=
  s ++ String.ofList (List.replicate (width - s.length) ' ')

/-- A record with the second in which it was made, and the name that its level had then. -/
structure LogEntry where
  second : Int
  level : String
  record : LogRecord

/-- A record of the second `epoch`, under the usual name of its level. -/
def LogRecord.entry (epoch : Int) (r : LogRecord) : LogEntry := ⟨epoch, levelName r.level, r⟩

/-- A line of columns: time, level, logger and message, and the failure on the next line. -/
def LogEntry.columns (zone : Zone) (e : LogEntry) : String :=
  let line := logTime zone e.second ++ " | " ++ padRight 8 e.level ++ " | " ++ e.record.logger ++
    " | " ++ e.record.message
  match e.record.failure with
  | none => line
  | some f => (if line.toList.getLast? = some '\n' then line else line ++ "\n") ++ f.report

def LogEntry.fields (zone : Zone) (e : LogEntry) : List (String × String) :=
  [("time", logTime zone e.second), ("level", e.level), ("logger", e.record.logger),
    ("message", e.record.message)] ++
  match e.record.failure with
  | none => []
  | some f => [("exc_info", f.report)]

/-- Entries of texts as an object of one line. -/
def textObject (entries : List (String × String)) : List Char :=
  Json.bracketed '\x7b' '\x7d' [',', ' ']
    (entries.map fun e => Json.literal e.1 ++ [':', ' '] ++ Json.literal e.2)

/-- An entry in a format, without its line end. -/
def LogFormat.render (format : LogFormat) (zone : Zone) (e : LogEntry) : String :=
  match format with
  | .columns => e.columns zone
  | .json => String.ofList (textObject (e.fields zone))

/-- Entries in a format, each with its line end. -/
def LogFormat.renderAll (format : LogFormat) (zone : Zone) (entries : List LogEntry) : String :=
  String.join (entries.map fun e => format.render zone e ++ "\n")

/-! ## Arguments of messages -/

/-- A message with its arguments put in; without arguments it stands as it is. -/
def messageWith (message : String) (args : List Value) : Option String :=
  match args with
  | [] => some message
  | args => Template.fill? message args

end MetricDocs
