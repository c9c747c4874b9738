/-
  Static fields: what every document carries besides its metrics.

  * `StaticFields.default` names the service;
  * `StaticFields.encode` writes static fields as text once; what no document can hold is refused;
  * `StaticFields.decode` reads that text back, for every document anew.
-/
import MetricDocs.Json.Encode
import MetricDocs.Json.Decode

namespace MetricDocs.StaticFields

/-- The static fields of a configuration that names none. -/
def default : Fields := [(.text "@service", .text "benthos")]

def encode (fields : Value) : Except Failure String :=
  (Json.render .spaced fields).mapError .staticFields

/-- The fields in a text; a text that `encode` did not write counts as null. -/
def decode (text : String) : Value := (Json.decode? text).getD .null

end MetricDocs.StaticFields
