/-
  JSON strings.

  A string is written in ASCII: the quote and the backslash behind a backslash, five control
  characters by letter, every other character outside space to tilde by its UTF-16 units in four
  hex digits each.

  * `literal` writes a string with its quotes;
  * `scan` reads a string behind its opening quote and gives what follows the closing one;
  * `pointsLiteral` and `scanPoints` do the same for texts in which surrogates stand.
-/
import MetricDocs.Text.Surrogates

namespace MetricDocs.Json

/-! ## Writing -/

/-- One UTF-16 unit by its hex digits. -/
def unitEscape (n : Nat) : List Char := '\\' :: 'u' :: Text.hexDigits 4 n

/-- A character by its UTF-16 units: one, or a pair from 0x10000 on. -/
def codeEscape (n : Nat) : List Char :=
  if n < 0x10000 then unitEscape n
  else unitEscape (0xd800 + (n - 0x10000) / 0x400) ++ unitEscape (0xdc00 + (n - 0x10000) % 0x400)

/-- A character as it stands in a string. -/
def escape (c : Char) : List Char :=
  if c = '"' then ['\\', '"']
  else if c = '\\' then ['\\', '\\']
  else if c = '\n' then ['\\', 'n']
  else if c = '\r' then ['\\', 'r']
  else if c = '\t' then ['\\', 't']
  else if c = '\x08' then ['\\', 'b']
  else if c = '\x0c' then ['\\', 'f']
  else if 0x20 ≤ c.toNat ∧ c.toNat < 0x7f then [c]
  else codeEscape c.toNat

def literal (s : String) : List Char :=
  '"' :: s.toList.flatMap escape ++ ['"']

/-- A code point as it stands in a string; a surrogate is a unit of its own. -/
def escapePoint (n : Nat) : List Char :=
  if Text.isSurrogate n then unitEscape n else escape (Char.ofNat n)

/-- Code points as a string with its quotes. -/
def pointsLiteral (ps : List Nat) : List Char := '"' :: ps.flatMap escapePoint ++ ['"']

/-! ## Reading -/

def hexValue? (c : Char) : Option Nat :=
  if c.isDigit then some (c.toNat - 0x30)
  else if 'a' ≤ c ∧ c ≤ 'f' then some (c.toNat - 0x57)
  else if 'A' ≤ c ∧ c ≤ 'F' then some (c.toNat - 0x37)
  else none

/-- The UTF-16 unit that four hex digits denote. -/
def unit? (a b c d : Char) : Option Nat :=
  match hexValue? a, hexValue? b, hexValue? c, hexValue? d with
  | some a, some b, some c, some d => some (((a * 16 + b) * 16 + c) * 16 + d)
  | _, _, _, _ => none

/-- The character that a letter behind a backslash stands for. -/
def shortEscape? : Char → Option Char
  | '"' => some '"'
  | '\\' => some '\\'
  | '/' => some '/'
  | 'b' => some '\x08'
  | 'f' => some '\x0c'
  | 'n' => some '\n'
  | 'r' => some '\r'
  | 't' => some '\t'
  | _ => none

/-- Puts a character in front of a string that was read. -/
def consChar (c : Char) (r : Option (List Char × List Char)) : Option (List Char × List Char) :=
  r.map fun p => (c :: p.1, p.2)

/-- Reads a string up to its closing quote: its characters and what follows. -/
def scan : List Char → Option (List Char × List Char)
  | [] => none
  | '"' :: r => some ([], r)
  | '\\' :: 'u' :: a :: b :: c :: d :: '\\' :: 'u' :: e :: f :: g :: h :: r =>
    match unit? a b c d with
    | none => none
    | some n =>
      if 0xd800 ≤ n ∧ n < 0xdc00 then
        match unit? e f g h with
        | none => none
        | some m =>
          if 0xdc00 ≤ m ∧ m < 0xe000 then
            consChar (Char.ofNat (0x10000 + (n - 0xd800) * 0x400 + (m - 0xdc00))) (scan r)
          else none
      else if 0xdc00 ≤ n ∧ n < 0xe000 then none
      else consChar (Char.ofNat n) (scan ('\\' :: 'u' :: e :: f :: g :: h :: r))
  | '\\' :: 'u' :: a :: b :: c :: d :: r =>
    match unit? a b c d with
    | none => none
    | some n => if 0xd800 ≤ n ∧ n < 0xe000 then none else consChar (Char.ofNat n) (scan r)
  | '\\' :: c :: r =>
    match shortEscape? c with
    | none => none
    | some c => consChar c (scan r)
  | c :: r => if c.toNat < 0x20 ∨ c = '\\' then none else consChar c (scan r)

/-- Reads a string up to its closing quote by code points; two escapes that are the halves of one
    character stand for it. -/
def scanPoints : List Char → Option (List Nat × List Char)
  | [] => none
  | '"' :: r => some ([], r)
  | '\\' :: 'u' :: a :: b :: c :: d :: r =>
    match unit? a b c d with
    | none => none
    | some n => (scanPoints r).map fun p => (Text.joinHalf n p.1, p.2)
  | '\\' :: c :: r =>
    match shortEscape? c with
    | none => none
    | some c => (scanPoints r).map fun p => (c.toNat :: p.1, p.2)
  | c :: r =>
    if c.toNat < 0x20 ∨ c = '\\' then none else (scanPoints r).map fun p => (c.toNat :: p.1, p.2)

/-- Reads a string up to its closing quote, surrogates or not. -/
def scanEscaped (cs : List Char) : Option (Text.Escaped × List Char) :=
  match scan cs with
  | some p => some (.string (String.ofList p.1), p.2)
  | none => (scanPoints cs).map fun p => (.ofPoints p.1, p.2)

example : scan ("a\\n\\ud83d\\ude80\\u00e9\"x".toList) = some ("a\n🚀é".toList, ['x']) := by
  decide +kernel
example : literal "a\"\x7f🚀" = "\"a\\\"\\u007f\\ud83d\\ude80\"".toList := by decide +kernel

end MetricDocs.Json
