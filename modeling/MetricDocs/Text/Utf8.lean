/-
  Reading UTF-8.

  * `Malformed` says where the first bad sequence of a byte string is and what is wrong with it;
  * `decode` reads a whole byte string or names its first bad sequence;
  * `decodePart` reads the begin of one, and gives the sequence that its end cuts off.
-/
namespace MetricDocs.Text.Utf8

/-- What is wrong with a sequence of bytes. -/
inductive Fault where
  | startByte
  | continuation
  | truncated
  deriving DecidableEq, Repr

/-- A bad sequence: its place, its bytes and what is wrong with it. -/
structure Malformed where
  start : Nat
  bytes : List UInt8
  fault : Fault
  deriving DecidableEq, Repr

/-- The number of continuation bytes after a start byte, and the range of the first of them; no
    start byte gives an overlong form, a surrogate or a value beyond the last character. -/
def lead? (b : UInt8) : Option (Nat × Nat × Nat) :=
  let n := b.toNat
  if n < 0x80 then some (0, 0, 0)
  else if 0xc2 ≤ n ∧ n ≤ 0xdf then some (1, 0x80, 0xbf)
  else if n = 0xe0 then some (2, 0xa0, 0xbf)
  else if n = 0xed then some (2, 0x80, 0x9f)
  else if 0xe1 ≤ n ∧ n ≤ 0xef then some (2, 0x80, 0xbf)
  else if n = 0xf0 then some (3, 0x90, 0xbf)
  else if n = 0xf4 then some (3, 0x80, 0x8f)
  else if 0xf1 ≤ n ∧ n ≤ 0xf3 then some (3, 0x80, 0xbf)
  else none

/-- The sequence being read: its place, its bytes, the value of its bits, how many bytes are still
    to come, and the range of the next of them. -/
structure Pending where
  start : Nat
  bytes : List UInt8
  value : Nat
  missing : Nat
  low : Nat
  high : Nat

/-- The value bits of a start byte that announces `count` continuation bytes. -/
def leadBits (b : UInt8) (count : Nat) : Nat :=
  b.toNat % Nat.pow 2 (6 - count)

/-- Reads on at a place after the characters `acc` (last first). -/
def decodeFrom : List UInt8 → Nat → Option Pending → List Char → Except Malformed (List Char)
  | [], _, none, acc => .ok acc.reverse
  | [], _, some p, _ => .error ⟨p.start, p.bytes, .truncated⟩
  | b :: bs, place, none, acc =>
    match lead? b with
    | none => .error ⟨place, [b], .startByte⟩
    | some (0, _, _) => decodeFrom bs (place + 1) none (Char.ofNat b.toNat :: acc)
    | some (count, low, high) =>
      decodeFrom bs (place + 1) (some ⟨place, [b], leadBits b count, count, low, high⟩) acc
  | b :: bs, place, some p, acc =>
    if p.low ≤ b.toNat ∧ b.toNat ≤ p.high then
      let value := p.value * 64 + b.toNat % 64
      if p.missing ≤ 1 then decodeFrom bs (place + 1) none (Char.ofNat value :: acc)
      else
        decodeFrom bs (place + 1)
          (some ⟨p.start, p.bytes ++ [b], value, p.missing - 1, 0x80, 0xbf⟩) acc
    else .error ⟨p.start, p.bytes, .continuation⟩

def decode (bs : List UInt8) : Except Malformed (List Char) := decodeFrom bs 0 none []

/-- Whether two bytes begin to write a surrogate.  That is told to be bad by the third byte only. -/
def beginsSurrogate : List UInt8 → Bool
  | [b, c] => b.toNat = 0xed && 0xa0 ≤ c.toNat && c.toNat ≤ 0xbf
  | _ => false

/-- The characters at the begin of a longer byte string, and the bytes at its end that begin a sequence
    and do not complete it. -/
def decodePart (bs : List UInt8) : Except Malformed (List Char × List UInt8) :=
  match decode bs with
  | .ok cs => .ok (cs, [])
  | .error m =>
    let rest := bs.drop m.start
    if m.fault = .truncated || beginsSurrogate rest then
      (decode (bs.take m.start)).map fun cs => (cs, rest)
    else .error m

def Fault.message : Fault → String
  | .startByte => "invalid start byte"
  | .continuation => "invalid continuation byte"
  | .truncated => "unexpected end of data"

end MetricDocs.Text.Utf8
