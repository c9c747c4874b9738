/-
  Tokens: the words of a document.

  Indentation is made explicit: a block of entries or pairs has a token where it begins and one
  where it ends.  A key and a value have a token in front of each, also where a document only writes
  the colon between them.

  * `Token` is a word; `TagName` is a tag as it is written;
  * `Tokens` are the words of a document, up to a failure if there is one.
-/
import MetricDocs.Failure
import MetricDocs.Text.Surrogates

namespace MetricDocs.Yaml

/-- A tag as written: in full, or by a handle and what follows it. -/
structure TagName where
  handle : Option String
  suffix : String
  deriving DecidableEq, Repr

/-- A word of a document. -/
inductive Token where
  | version (major : Nat)
  | tagHandle (handle start : String)
  | otherDirective
  | documentStart
  | documentEnd
  | blockSequenceStart
  | blockMappingStart
  | blockEnd
  | flowSequenceStart
  | flowSequenceEnd
  | flowMappingStart
  | flowMappingEnd
  | blockEntry
  | flowEntry
  | key
  | value
  | reference (name : String)
  | anchor (name : String)
  | tag (name : TagName)
  | scalar (plain : Bool) (text : Text.Escaped)
  deriving DecidableEq, Repr

/-- The words of a document.  If it cannot be read to its end, they are the words before, and
    `fault` is the failure behind them. -/
structure Tokens where
  words : List Token
  fault : Option Failure

end MetricDocs.Yaml
