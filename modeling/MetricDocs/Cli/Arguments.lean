/-
  Command line arguments.

  There are three options: help, the configuration file, which takes a value and has to be given, and
  a switch for a single pass.  A long option may be cut short as long as it is the only one that
  begins so, and joined to its value by `=`; the letters of short options may stand together, the
  value of the last behind them.

  * `ArgForm` is what an argument is by its form, `ArgForm.ofText` tells it;
  * `readForms` reads the arguments in order; help wins over all that follows it;
  * `Arguments.read` reads a whole command line;
  * `UsageError.message` says what is wrong with it, `usage` and `help` what would be right.
-/
import MetricDocs.Text.DecimalDigit
import MetricDocs.Text.Quoted

namespace MetricDocs.Cli

/-! ## Options -/

/-- The options. -/
inductive Flag where
  | help
  | config
  | once
  deriving DecidableEq, Repr

/-- The long names of the options in order. -/
def longNames : List (String × Flag) :=
  [("--help", .help), ("--config", .config), ("--once", .once)]

/-- The letters of the options that have one. -/
def letters : List (Char × Flag) := [('h', .help), ('c', .config)]

def Flag.shown : Flag → String
  | .help => "-h/--help"
  | .config => "--config/-c"
  | .once => "--once"

/-! ## Errors -/

/-- What can be wrong with a command line. -/
inductive UsageError where
  | ambiguous (argument : String) (names : List String)
  | noValue (flag : Flag)
  | valueIgnored (flag : Flag) (value : String)
  | missing (flag : Flag)
  | unrecognized (arguments : List String)
  deriving DecidableEq, Repr

def UsageError.message : UsageError → String
  | ambiguous argument names =>
    "ambiguous option: " ++ argument ++ " could match " ++ ", ".intercalate names
  | noValue flag => "argument " ++ flag.shown ++ ": expected one argument"
  | valueIgnored flag value =>
    "argument " ++ flag.shown ++ ": ignored explicit argument " ++ Text.quoted value
  | missing flag => "the following arguments are required: " ++ flag.shown
  | unrecognized arguments => "unrecognized arguments: " ++ " ".intercalate arguments

/-! ## Forms of arguments -/

/-- What an argument is by its form: a plain one, the marker, behind which all are plain, an option of
    no known name, an option that may have a value joined to it, or the letter of help with other letters
    behind it. -/
inductive ArgForm where
  | plain
  | marker
  | unknown
  | option (flag : Flag) (joined : Option String)
  | helpLetter (behind : String)
  deriving DecidableEq, Repr

/-- Whether a text is a number below zero: a minus sign, digits, and at most one point in front of
    some of them. -/
def isNegativeNumber (cs : List Char) : Bool :=
  let cs := if cs.getLast? = some '\n' then cs.dropLast else cs
  let isDigit (c : Char) := (Text.digitValue? c).isSome
  match cs with
  | '-' :: ds =>
    match ds.dropWhile isDigit with
    | [] => !ds.isEmpty
    | '.' :: ds => !ds.isEmpty && ds.all isDigit
    | _ => false
  | _ => false

/-- The text before the first `=`, and that behind it if there is one. -/
def splitValue (cs : List Char) : String × Option String :=
  let name := String.ofList (cs.takeWhile (· ≠ '='))
  match cs.dropWhile (· ≠ '=') with
  | [] => (name, none)
  | _ :: value => (name, some (String.ofList value))

/-- What stands behind the letter of an option, if anything does; `=` right behind the letter is no
    part of it. -/
def behindLetter : List Char → Option String
  | [] => none
  | '=' :: cs => some (String.ofList cs)
  | cs => some (String.ofList cs)

/-- The form of an argument that begins with one minus sign, which is followed by something. -/
def shortForm (s : String) (c : Char) (cs : List Char) : ArgForm :=
  match letters.lookup c, behindLetter cs with
  | some .help, some behind => .helpLetter behind
  | some flag, joined => .option flag joined
  | none, _ =>
    if isNegativeNumber s.toList || s.toList.contains ' ' then .plain else .unknown

/-- The form of an argument that begins with two minus signs. -/
def longForm (s : String) : Except UsageError ArgForm :=
  let (name, value) := splitValue s.toList
  match longNames.filter fun n => name.toList.isPrefixOf n.1.toList with
  | [] => .ok (if s.toList.contains ' ' then .plain else .unknown)
  | [n] => .ok (.option n.2 value)
  | ns => .error (.ambiguous s (ns.map Prod.fst))

/-- The form of an argument in front of any marker. -/
def ArgForm.ofText (s : String) : Except UsageError ArgForm :=
  match s.toList with
  | ['-', '-'] => .ok .marker
  | '-' :: '-' :: _ => longForm s
  | '-' :: c :: cs => .ok (shortForm s c cs)
  | _ => .ok .plain

/-- The forms of all arguments; those behind the marker are plain. -/
def formsOf : List String → Except UsageError (List (String × ArgForm))
  | [] => .ok []
  | s :: rest => do
    match ← ArgForm.ofText s with
    | .marker => return (s, .marker) :: rest.map fun t => (t, .plain)
    | form => return (s, form) :: (← formsOf rest)

/-! ## Reading -/

/-- What a command line asks for: help, or a run under the configuration file at a path.  A marker in
    the place of the path is taken away, and then there is none. -/
inductive Arguments where
  | help
  | run (path : Option String) (once : Bool)
  deriving DecidableEq, Repr

/-- What was read so far: whether a configuration file was asked for and its path, the switch, and
    what no option takes. -/
structure Seen where
  config : Option (Option String)
  once : Bool
  extra : List String

def Seen.finish (s : Seen) : Except UsageError Arguments :=
  match s.config with
  | none => .error (.missing .config)
  | some path => if s.extra.isEmpty then .ok (.run path s.once) else .error (.unrecognized s.extra)

/-- Whether the next argument can be a value. -/
def hasValue : List (String × ArgForm) → Bool
  | (_, .plain) :: _ => true
  | _ => false

/-- The letter of help with a text behind it, in front of the remaining arguments.  The text has to be
    letters of options, of which the last may take what is behind it or the next argument. -/
def behindHelp (rest : List (String × ArgForm)) : List Char → Except UsageError Arguments
  | [] => .error (.valueIgnored .help "")
  | c :: cs =>
    match letters.lookup c with
    | some .help => if cs.isEmpty then .ok .help else behindHelp rest cs
    | some .config => if cs.isEmpty && !hasValue rest then .error (.noValue .config) else .ok .help
    | _ => .error (.valueIgnored .help (String.ofList (c :: cs)))

/-- The path that a value joined to its option gives. -/
def joinedPath (s : String) : Option String := if s = "--" then none else some s

def readForms (seen : Seen) : List (String × ArgForm) → Except UsageError Arguments
  | [] => seen.finish
  | (_, .option .help none) :: _ => .ok .help
  | (_, .option .help (some s)) :: _ => .error (.valueIgnored .help s)
  | (_, .helpLetter s) :: rest => behindHelp rest s.toList
  | (_, .option .once none) :: rest => readForms { seen with once := true } rest
  | (_, .option .once (some s)) :: _ => .error (.valueIgnored .once s)
  | (_, .option .config (some s)) :: rest => readForms { seen with config := some (joinedPath s) } rest
  | (_, .option .config none) :: (s, .plain) :: rest =>
    readForms { seen with config := some (some s) } rest
  | (_, .option .config none) :: _ => .error (.noValue .config)
  | (s, .plain) :: rest | (s, .marker) :: rest | (s, .unknown) :: rest =>
    readForms { seen with extra := seen.extra ++ [s] } rest

def Arguments.read (args : List String) : Except UsageError Arguments := do
  readForms ⟨none, false, []⟩ (← formsOf args)

/-! ## Texts -/

def programName : String := "stdout-metrics"

/-- The line that shows how the program is called. -/
def usage : String := "usage: " ++ programName ++ " [-h] --config CONFIG [--once]\n"

/-- The text about the program and its options. -/
def help : String :=
  usage ++ "\nStdout metrics - emit grouped metrics as line delimited JSON\n\n" ++
    "options:\n" ++
    "  -h, --help            show this help message and exit\n" ++
    "  --config CONFIG, -c CONFIG\n" ++
    "                        Path to configuration YAML file\n" ++
    "  --once                Publish a single snapshot and exit\n"

def UsageError.report (e : UsageError) : String :=
  usage ++ programName ++ ": error: " ++ e.message ++ "\n"

example : (Arguments.read ["--conf", "a", "--o"]).toOption = some (.run (some "a") true) := by decide +kernel
example : (Arguments.read ["-c", "-1"]).toOption = some (.run (some "-1") false) := by decide +kernel
example : (Arguments.read ["-c", "-neg"]).toOption = none := by decide +kernel
example : (Arguments.read ["-hch"]).toOption = some .help := by decide +kernel
example : (Arguments.read ["--help=h"]).toOption = none := by decide +kernel

end MetricDocs.Cli
