import CommentSieve.Text.ByteRanges

/-!
# JSON from bytes

A file with JSON in it may hold bytes that belong to no character. They do no harm in a
string that is skipped, and are a fault everywhere else. The escape of half a surrogate
pair has just this property, so such bytes are read as if they were written that way.
-/

namespace CommentSieve.Json

open Text

/-- The number of bytes of a character whose first byte is given. -/
def byteCount (lead : Nat) : Nat :=
  if lead < 0x80 then 1 else if lead < 0xE0 then 2 else if lead < 0xF0 then 3 else 4

/-- The code point whose bytes are given, if they are bytes of one. -/
def codeOfBytes (bytes : List Nat) : Nat :=
  match bytes with
  | [] => 0
  | lead :: more =>
    let bits := if more.isEmpty then lead else lead % Nat.pow 2 (6 - more.length)
    more.foldl (fun n b => n * 0x40 + b % 0x40) bits

/-- The character at the front of some bytes. -/
def charAt? (bytes : List UInt8) : Option Char :=
  match bytes with
  | [] => none
  | lead :: _ =>
    let taken := (bytes.take (byteCount lead.toNat)).map (·.toNat)
    let c := Char.ofNat (codeOfBytes taken)
    if utf8Bytes c.toNat = taken then some c else none

/-- A byte that belongs to no character, as text: half of a pair, or what spoils an
escape if a backslash is open before it. -/
def strayText (escaped : Bool) : List Char :=
  if escaped then ['\x01'] else ['\\', 'u', 'd', 'c', '0', '0']

/-- Bytes as text. `escaped` says that a backslash is open, and `skip` is the number of
bytes that belong to the last character. -/
def ofBytesFrom (escaped : Bool) (skip : Nat) : List UInt8 → List Char
  | [] => []
  | b :: bytes =>
    match skip with
    | skip + 1 => ofBytesFrom escaped skip bytes
    | 0 =>
      match charAt? (b :: bytes) with
      | some c => c :: ofBytesFrom (!escaped && c == '\\') (c.utf8Size - 1) bytes
      | none => strayText escaped ++ ofBytesFrom false 0 bytes

/-- Bytes as text. -/
def ofBytes (bytes : List UInt8) : List Char := ofBytesFrom false 0 bytes

end CommentSieve.Json
