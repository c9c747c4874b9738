/-
  Loading a configuration.

  A configuration file is read as one YAML document.  Then the environment has its say, the settings
  are checked, and last the static fields are unfolded.

  * `Environment` holds the two variables that count, `Environment.overrides` the fields they set;
  * `override` puts what the environment says into a document, `configuration` is the document of a file
    under an environment;
  * `Settings.load` gives the settings that a path leads to.
-/
import MetricDocs.Config.Unfolding
import MetricDocs.FileTree

namespace MetricDocs

/-! ## The environment -/

/-- The variables that override a configuration; an empty one counts as not set. -/
structure Environment where
  logLevel : String
  emitInterval : String
  deriving DecidableEq, Repr

/-- An environment that overrides nothing. -/
def Environment.empty : Environment := ⟨"", ""⟩

/-- The global fields that an environment sets, with their texts. -/
def Environment.overrides (e : Environment) : List (String × String) :=
  [("log_level", e.logLevel), ("emit_interval_s", e.emitInterval)].filter fun o => o.2 ≠ ""

/-! ## The document of a file -/

def withTexts (texts : List (String × String)) (fields : List (Key × Yaml.Part)) :
    List (Key × Yaml.Part) :=
  texts.foldl (fun fields o => Fields.put fields (.text o.1) (.value (.text o.2))) fields

/-- The key of the global part of a configuration. -/
def globalKey : Key := .text "global"

/-- Puts texts into the global part of a document, whose outermost mapping is given by number and
    fields.  Whatever else refers to that part sees them too.  The part is added if it is not there, and
    has to be a mapping if it is. -/
def override (d : Yaml.Document) (root : Nat) (fields : List (Key × Yaml.Part))
    (texts : List (String × String)) : Except Failure Yaml.Document :=
  match Fields.get? fields globalKey with
  | none =>
    let (n, d) := d.withMapping (withTexts texts [])
    .ok (d.withFields root (Fields.put fields globalKey (.collection n)))
  | some (.value v) => .error (.noAssignment v.kindName)
  | some (.collection n) =>
    match d.collections.collection n with
    | .mapping fields => .ok (d.withFields n (withTexts texts fields))
    | .set _ => .error (.noAssignment "set")
    | .list _ | .pairs _ => .error .textIndex

/-- The document of a configuration: one that says nothing counts as a mapping without fields, and any
    other has to be a mapping. -/
def configured (path : String) (d : Yaml.Document) : Except Failure Yaml.Document :=
  if d.rootFields?.isSome then .ok d
  else if d.collections.isVacant d.root then .ok .empty
  else .error (.rootNotMapping path)

/-- The document of a configuration under an environment. -/
def configuration (path : String) (s : Yaml.Source) (env : Environment) :
    Except Failure Yaml.Document := do
  let d ← configured path (← Yaml.parse s)
  match d.rootFields?, env.overrides with
  | some (root, fields), o :: os => override d root fields (o :: os)
  | _, _ => return d

/-! ## Settings -/

namespace Settings

def ofFile (path : String) (bytes : List UInt8) (env : Environment) :
    Except SettingsError Settings := do
  let d ← (configuration path (.ofFile bytes) env).mapError .failure
  Settings.ofDocument d (d.rootFields?.elim [] Prod.snd)

def load (look : String → Found) (path : String) (env : Environment) :
    Except SettingsError Settings :=
  match look path with
  | .nothing => .error (.failure (.fileMissing path))
  | .directory => .error (.failure (.isDirectory path))
  | .file bytes => ofFile path bytes env

end Settings

end MetricDocs
