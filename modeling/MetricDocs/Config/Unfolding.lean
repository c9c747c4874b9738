/-
  Settings in a document.

  A document may share its collections, and a collection may lie inside itself.  What does not matter to
  the settings is not looked into; the static fields are unfolded, and have to be such as a document of
  metrics can hold.

  * `Collections.opening` is how parts are looked into;
  * `unfold` is the value of a part, or the first failure in depth-first order, a key before its value;
  * `Settings.ofDocument` are the settings in a document.
-/
import MetricDocs.Config.Settings
import MetricDocs.Yaml.Document

namespace MetricDocs

namespace Yaml

/-- How the parts of a document are looked into. -/
def Collections.opening (cs : Collections) : Opening Part := ⟨cs.entries?, cs.bare⟩

def writable (v : Value) : Except Failure Value := (Json.encode .spaced v).map fun _ => v

def writableKey (k : Key) : Except Failure Key := (Json.keyLiteral k).map fun _ => k

/-- The value of a part inside the collections `path`, none of which may lie in it.  The first number
    bounds the depth. -/
def unfoldWithin (cs : Collections) : Nat → List Nat → Part → Except Failure Value
  | _, _, .value v => writable v
  | 0, _, .collection _ => .error .circular
  | fuel + 1, path, .collection n =>
    if n ∈ path then .error .circular
    else
      let inside := unfoldWithin cs fuel (n :: path)
      match cs.collection n with
      | .list parts => do return .list (← parts.mapM inside)
      | .pairs parts => do
        return .list (← parts.mapM fun p => return .tuple [← inside p.1, ← inside p.2])
      | .set _ => .error (.notEncodable "set")
      | .mapping fields => do
        return .mapping (← fields.mapM fun f => return (← writableKey f.1, ← inside f.2))

/-- The value of a part.  No way down is longer than the number of collections. -/
def unfold (cs : Collections) (p : Part) : Except Failure Value := unfoldWithin cs (cs.size + 1) [] p

/-- Entries with the values of their parts. -/
def unfoldFields (cs : Collections) (fields : List (Key × Part)) : Except Failure Fields :=
  fields.mapM fun f => return (← writableKey f.1, ← unfold cs f.2)

end Yaml

/-- The settings in a document with given outermost fields. -/
def Settings.ofDocument (d : Yaml.Document) (fields : List (Key × Yaml.Part)) :
    Except SettingsError Settings :=
  Settings.ofEntries d.collections.opening
    (fun entries => (Yaml.unfoldFields d.collections entries).mapError .staticFields) fields

end MetricDocs
