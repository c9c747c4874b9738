/-
  Reading a file as text.

  The bytes of a file are taken block by block and decoded at once.  What the end of a block cuts off,
  a sequence or a line end of two characters, is completed by the next block.  So a bad sequence is
  found when its block is needed, and its place is counted from the begin of what is decoded then.

  * `Blocks` is a file on the way; `Blocks.next` decodes one more block;
  * `Blocks.read` reads a number of characters, or as many as there are;
  * `Blocks.readAll` reads a whole file, a number of characters at a time.
-/
import MetricDocs.Text.Utf8

namespace MetricDocs.Text

def plainLines : List Char → List Char
  | '\r' :: '\n' :: cs => '\n' :: plainLines cs
  | '\r' :: cs => '\n' :: plainLines cs
  | c :: cs => c :: plainLines cs
  | [] => []

/-- A file on the way: the bytes to come; those that begin a sequence, and whether a carriage return is
    held back because a newline may follow it; the characters that can be taken; and how many bytes and
    characters the last block had. -/
structure Blocks where
  bytes : List UInt8
  carried : List UInt8
  held : Bool
  ready : List Char
  lastBytes : Nat
  lastChars : Nat

namespace Blocks

def start (bytes : List UInt8) : Blocks := ⟨bytes, [], false, [], 0, 0⟩

/-- The least size of a block. -/
def leastSize : Nat := 8192

/-- The size of the next block, when a number of characters is asked for: by the last block, that many
    characters should be in it. -/
def size (b : Blocks) (count : Nat) : Nat :=
  max leastSize (if b.lastChars = 0 then count else max count (count * b.lastBytes / b.lastChars))

/-- Decodes the next block when `count` characters are asked for.  Behind the last one the end of the
    file is decoded. -/
def next (b : Blocks) (count : Nat) : Except Utf8.Malformed Blocks := do
  let block := b.bytes.take (b.size count)
  let ended := block.isEmpty
  let (cs, carried) ←
    if ended then (Utf8.decode b.carried).map fun cs => (cs, [])
    else Utf8.decodePart (b.carried ++ block)
  let joins := b.held && (ended || !cs.isEmpty)
  let cs := if joins then '\r' :: cs else cs
  let holds := !ended && cs.getLast? = some '\r'
  let ready := plainLines (if holds then cs.dropLast else cs)
  return ⟨b.bytes.drop block.length, carried, holds || (b.held && !joins), ready, block.length,
    ready.length⟩

/-- Reads `count` characters behind `seen`.  The first number bounds the blocks. -/
def readFrom : Nat → Nat → List Char → Blocks → Except Utf8.Malformed (List Char × Blocks)
  | 0, _, seen, b => .ok (seen, b)
  | fuel + 1, count, seen, b => do
    let taken := b.ready.take count
    let b := { b with ready := b.ready.drop count }
    let missing := count - taken.length
    if missing = 0 then return (seen ++ taken, b)
    let more ← b.next missing
    if b.bytes.isEmpty && more.ready.isEmpty then return (seen ++ taken, more)
    readFrom fuel missing (seen ++ taken) more

/-- Reads a number of characters, or as many as there are. -/
def read (b : Blocks) (count : Nat) : Except Utf8.Malformed (List Char × Blocks) :=
  readFrom (b.bytes.length + 3) count [] b

/-- Reads on until nothing comes: what was read each time, and the bad sequence that ended it if there
    is one.  The first number bounds the readings. -/
def readMore (count : Nat) : Nat → Blocks → List (List Char) × Option Utf8.Malformed
  | 0, _ => ([], none)
  | fuel + 1, b =>
    match b.read count with
    | .error m => ([], some m)
    | .ok (cs, b) =>
      if cs.isEmpty then ([], none)
      else
        let (more, m) := readMore count fuel b
        (cs :: more, m)

/-- A whole file, `count` characters at a time. -/
def readAll (count : Nat) (bytes : List UInt8) : List (List Char) × Option Utf8.Malformed :=
  readMore count (bytes.length + 2) (start bytes)

end Blocks

end MetricDocs.Text
