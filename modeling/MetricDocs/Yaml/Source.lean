/-
  What can be read of a document.

  A document is read piece by piece, and no further than is needed to tell what it says.  A piece that
  cannot be read, or holds a character that no document may hold, is a failure once it is needed.

  * `isAllowed` says which characters a document may hold;
  * `Source` is a document as far as it can be read;
  * `Source.ofText` is a text at hand, `Source.ofFile` the content of a file.
-/
import MetricDocs.Failure
import MetricDocs.Text.Blocks

namespace MetricDocs.Yaml

/-- A character that a document may hold: no control character, and neither of the last two of the
    basic plane. -/
def isAllowed (c : Char) : Bool :=
  let n := c.toNat
  c = '\t' || c = '\n' || c = '\r' || c = '\x85' || (0x20 ≤ n && n ≤ 0x7e) ||
    (0xa0 ≤ n && n ≤ 0xfffd) || 0x10000 ≤ n

/-- A document as far as it can be read: its characters, and the failure behind them if there is
    one. -/
structure Source where
  text : List Char
  fault : Option Failure

namespace Source

/-- The document in pieces, with a failure behind the last one perhaps. -/
def ofPieces : List (List Char) → Option Failure → Source
  | [], fault => ⟨[], fault⟩
  | piece :: pieces, fault =>
    if piece.all isAllowed then
      let rest := ofPieces pieces fault
      ⟨piece ++ rest.text, rest.fault⟩
    else ⟨[], some .malformedYaml⟩

/-- A text at hand is a single piece. -/
def ofText (s : String) : Source := ofPieces [s.toList] none

/-- The number of characters that are read from a file at a time. -/
def pieceSize : Nat := 4096

/-- The document in a file.  The first two pieces are read together. -/
def ofFile (bytes : List UInt8) : Source :=
  let (pieces, malformed) := Text.Blocks.readAll pieceSize bytes
  let fault := malformed.map Failure.malformedUtf8
  match pieces with
  | first :: second :: pieces => ofPieces ((first ++ second) :: pieces) fault
  | _ => if fault.isSome then ⟨[], fault⟩ else ofPieces pieces none

end Source

end MetricDocs.Yaml
