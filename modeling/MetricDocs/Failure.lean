/-
  Failures: everything that can go wrong, by cause.

  * `FailureKind` is the kind of a failure and `FailureKind.name` its name in log lines;
  * `FailureKind.ofSink` says which kinds a sink reports about itself, so that writing goes on;
  * `Failure` is a cause with its particulars; `Failure.kind` and `Failure.message` give the kind
    and the wording.
-/
import MetricDocs.Decimal.Whole
import MetricDocs.Text.Quoted
import MetricDocs.Text.Utf8

namespace MetricDocs

/-! ## Kinds -/

/-- The kinds of failures. -/
inductive FailureKind where
  | attribute
  | brokenPipe
  | configuration
  | connectionReset
  | decoding
  | directory
  | duplicate
  | index
  | lookup
  | missingFile
  | os
  | overflow
  | runtime
  | type
  | value
  | yaml
  | other (name : String)
  deriving DecidableEq, Repr

def FailureKind.name : FailureKind → String
  | .attribute => "AttributeError"
  | .brokenPipe => "BrokenPipeError"
  | .configuration => "ConfigurationError"
  | .connectionReset => "ConnectionResetError"
  | .decoding => "UnicodeDecodeError"
  | .directory => "IsADirectoryError"
  | .duplicate => "DuplicateTimeseries"
  | .index => "IndexError"
  | .lookup => "KeyError"
  | .missingFile => "FileNotFoundError"
  | .os => "OSError"
  | .overflow => "OverflowError"
  | .runtime => "RuntimeError"
  | .type => "TypeError"
  | .value => "ValueError"
  | .yaml => "YAMLError"
  | .other name => name

/-- All kinds that have a name of their own. -/
def FailureKind.named : List FailureKind :=
  [.attribute, .brokenPipe, .configuration, .connectionReset, .decoding, .directory, .duplicate,
    .index, .lookup, .missingFile, .os, .overflow, .runtime, .type, .value, .yaml]

def FailureKind.ofName (s : String) : FailureKind :=
  (FailureKind.named.find? fun k => k.name = s).getD (.other s)

/-- The names of the other special cases of failures of the operating system and of values. -/
def FailureKind.sinkNames : List String :=
  ["BlockingIOError", "ChildProcessError", "ConnectionError", "ConnectionAbortedError",
    "ConnectionRefusedError", "FileExistsError", "InterruptedError", "NotADirectoryError",
    "PermissionError", "ProcessLookupError", "TimeoutError", "UnicodeError", "UnicodeEncodeError",
    "UnicodeTranslateError", "UnsupportedOperation"]

/-- The kinds by which a sink reports that it could not take something: failures of the operating
    system and of values, with all their special cases. -/
def FailureKind.ofSink : FailureKind → Bool
  | .brokenPipe | .configuration | .connectionReset | .decoding | .directory | .missingFile | .os
  | .value => true
  | .other name => sinkNames.contains name
  | _ => false

/-! ## Causes -/

/-- A part of a date or time that is out of its range. -/
inductive DateFault where
  | year (n : Nat)
  | month
  | day
  | hour
  | minute
  | second
  | zone (shown : String)
  deriving DecidableEq, Repr

/-- A cause of failure. -/
inductive Failure where
  /-- A failure of a given kind and text, raised from outside. -/
  | raised (kind : FailureKind) (text : String)
  /-- More digits than are converted between numbers and text. -/
  | tooManyDigits (count : Option Nat)
  /-- A text that is no whole number in its base; the text as shown. -/
  | malformedWhole (base : Nat) (shown : String)
  /-- A text that is no number; the text as shown. -/
  | malformedFloat (shown : String)
  /-- A value of a kind that has no whole number. -/
  | notWhole (kind : String)
  | wholeOfNan
  | wholeOfInfinity
  /-- An integer beyond the doubles. -/
  | beyondFloat
  /-- A pause longer than a signal can wait for. -/
  | pauseTooLong
  /-- A number that is not finite, in a document. -/
  | notFinite
  /-- A value of a kind that documents cannot hold. -/
  | notEncodable (kind : String)
  /-- A key of a kind that documents cannot hold. -/
  | badKey (kind : String)
  /-- A value that contains itself. -/
  | circular
  /-- Two kinds that have no order. -/
  | incomparable (comparison left right : String)
  /-- An operation that a kind of value does not have. -/
  | noAttribute (kind name : String)
  /-- An assignment to an entry of something that has no entries. -/
  | noAssignment (kind : String)
  /-- A text used as the index of a sequence. -/
  | textIndex
  /-- An empty text where a first character is needed. -/
  | emptyText
  /-- A number that no character has. -/
  | noCharacter (code : Nat)
  | intervalNotPositive
  /-- Static fields that documents cannot hold, and why. -/
  | staticFields (cause : Failure)
  /-- A configuration file whose root is no mapping. -/
  | rootNotMapping (path : String)
  /-- A top-level key that is no text. -/
  | keyNotText
  /-- Nothing at all in the place of a path. -/
  | noPath
  | fileMissing (path : String)
  | isDirectory (path : String)
  | malformedUtf8 (m : Text.Utf8.Malformed)
  | malformedYaml
  /-- A key that is not there; the key as shown. -/
  | missing (shown : String)
  /-- A kind of thing in the place of a text. -/
  | textExpected (kind : String)
  /-- Something that comes back to itself without end. -/
  | endless
  | dateOutOfRange (fault : DateFault)
  /-- A name of a log level that names something else; the thing as shown. -/
  | unknownLevel (shown : String)
  /-- A name of a log level that names something that is neither a number nor a name. -/
  | levelOfOtherKind (shown : String)
  | duplicateSeries
  deriving Repr

def Failure.kind : Failure → FailureKind
  | raised kind _ => kind
  | tooManyDigits _ | malformedWhole _ _ | malformedFloat _ | wholeOfNan | notFinite | circular
  | intervalNotPositive | dateOutOfRange _ | unknownLevel _ => .value
  | wholeOfInfinity | beyondFloat | pauseTooLong => .overflow
  | noCharacter code => if code < 0x80000000 then .value else .overflow
  | notWhole _ | notEncodable _ | badKey _ | incomparable _ _ _ | noAssignment _ | textIndex
  | keyNotText | noPath | levelOfOtherKind _ | textExpected _ => .type
  | noAttribute _ _ => .attribute
  | emptyText => .index
  | staticFields _ | rootNotMapping _ => .configuration
  | fileMissing _ => .missingFile
  | isDirectory _ => .directory
  | malformedUtf8 _ => .decoding
  | malformedYaml => .yaml
  | missing _ => .lookup
  | endless => .other "RecursionError"
  | duplicateSeries => .duplicate

/-- The wording about a part of a date or time out of its range. -/
def DateFault.message : DateFault → String
  | year n => "year " ++ Decimal.intText n ++ " is out of range"
  | month => "month must be in 1..12"
  | day => "day is out of range for month"
  | hour => "hour must be in 0..23"
  | minute => "minute must be in 0..59"
  | second => "second must be in 0..59"
  | zone shown =>
    "offset must be a timedelta strictly between -timedelta(hours=24) and timedelta(hours=24), not "
      ++ shown ++ "."

/-- A byte as two hex digits behind `0x`. -/
def hexByte (b : UInt8) : String := "0x" ++ String.ofList (Text.hexDigits 2 b.toNat)

/-- The place of a malformed sequence: one byte is shown, more are counted. -/
def Text.Utf8.Malformed.place (m : Text.Utf8.Malformed) : String :=
  match m.bytes with
  | [b] => "byte " ++ hexByte b ++ " in position " ++ Decimal.intText m.start
  | bs => "bytes in position " ++ Decimal.intText m.start ++ "-" ++
      Decimal.intText (m.start + bs.length - 1 : Nat)

/-- The text of a failed look-up is quoted; any other stands as it is. -/
def FailureKind.text (kind : FailureKind) (text : String) : String :=
  match kind with
  | .lookup => Text.quoted text
  | _ => text

def Failure.message : Failure → String
  | raised kind text => kind.text text
  | tooManyDigits count =>
    "Exceeds the limit (4300 digits) for integer string conversion" ++
      (match count with
       | some n => ": value has " ++ Decimal.intText n ++ " digits"
       | none => "") ++
      "; use sys.set_int_max_str_digits() to increase the limit"
  | malformedWhole base shown =>
    "invalid literal for int() with base " ++ Decimal.intText base ++ ": " ++
      String.ofList (shown.toList.take 200)
  | malformedFloat shown => "could not convert string to float: " ++ shown
  | notWhole kind =>
    "int() argument must be a string, a bytes-like object or a real number, not '" ++ kind ++ "'"
  | wholeOfNan => "cannot convert float NaN to integer"
  | wholeOfInfinity => "cannot convert float infinity to integer"
  | beyondFloat => "int too large to convert to float"
  | pauseTooLong => "timestamp out of range for platform time_t"
  | notFinite => "Out of range float values are not JSON compliant"
  | notEncodable kind => "Object of type " ++ kind ++ " is not JSON serializable"
  | badKey kind => "keys must be str, int, float, bool or None, not " ++ kind
  | circular => "Circular reference detected"
  | incomparable comparison left right =>
    "'" ++ comparison ++ "' not supported between instances of '" ++ left ++ "' and '" ++ right
      ++ "'"
  | noAttribute kind name => "'" ++ kind ++ "' object has no attribute '" ++ name ++ "'"
  | noAssignment kind => "'" ++ kind ++ "' object does not support item assignment"
  | textIndex => "list indices must be integers or slices, not str"
  | emptyText => "string index out of range"
  | noCharacter code =>
    if code < 0x80000000 then "chr() arg not in range(0x110000)"
    else "Python int too large to convert to C int"
  | intervalNotPositive => "Emit interval must be positive"
  | staticFields cause => "static_fields invalid format: " ++ cause.message
  | rootNotMapping path => "Configuration root must be a mapping: " ++ path
  | keyNotText => "keywords must be strings"
  | noPath => "stat: path should be string, bytes, os.PathLike or integer, not list"
  | fileMissing path => "Configuration file not found: " ++ path
  | isDirectory path => "[Errno 21] Is a directory: " ++ Text.quoted path
  | malformedUtf8 m => "'utf-8' codec can't decode " ++ m.place ++ ": " ++ m.fault.message
  | malformedYaml => "malformed document"
  | missing shown => shown
  | textExpected kind => "expected string or bytes-like object, got '" ++ kind ++ "'"
  | endless => "maximum recursion depth exceeded"
  | dateOutOfRange fault => fault.message
  | unknownLevel shown => "Unknown level: " ++ shown
  | levelOfOtherKind shown => "Level not an integer or a valid string: " ++ shown
  | duplicateSeries => "Duplicated timeseries"

/-- The failure to read a whole number in base ten from a text that is shown so. -/
def Failure.ofWhole (shown : String) : Decimal.WholeError → Failure
  | .malformed => .malformedWhole 10 shown
  | .tooManyDigits count => .tooManyDigits (some count)

end MetricDocs
