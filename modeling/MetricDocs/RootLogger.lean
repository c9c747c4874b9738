/-
  The root logger: which records are written, and how.

  * `RootLogger.configured` sets the level and the format, unless that was done before;
  * `RootLogger.written` is the text that the handlers write for given records; without a handler
    warnings and what is above them are written bare.
-/
import MetricDocs.Log

namespace MetricDocs

/-- The level below which records are dropped, and the format of the one handler, if there is
    one. -/
structure RootLogger where
  level : Int
  handler : Option LogFormat
  deriving DecidableEq, Repr

namespace RootLogger

/-- The root logger before it is configured. -/
def fresh : RootLogger := ⟨Level.warning, none⟩

/-- Sets level and format by their names.  A logger that has a handler stays as it is. -/
def configured (r : RootLogger) (level format : String) : Except Failure RootLogger :=
  match r.handler with
  | some _ => .ok r
  | none => (levelOf level).map fun n => ⟨n, some (.ofName format)⟩

/-- What is written for one record of the second `epoch`. -/
def line (r : RootLogger) (zone : Zone) (epoch : Int) (record : LogRecord) : String :=
  if record.level < r.level then ""
  else match r.handler with
    | some format => format.render zone (record.entry epoch) ++ "\n"
    | none => if record.level < Level.warning then "" else record.message ++ "\n"

/-- What is written for records of one second in order. -/
def written (r : RootLogger) (zone : Zone) (epoch : Int) (records : List LogRecord) : String :=
  String.join (records.map (r.line zone epoch))

end RootLogger

end MetricDocs
