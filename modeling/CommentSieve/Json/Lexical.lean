import CommentSieve.Double
import CommentSieve.Text.Utf8

/-!
# JSON: blanks, words, strings and numbers

JSON is read from left to right, and the first fault met decides what is wrong with
a text. Values that are wanted are read in full; values that are not are skipped,
which is more lenient about surrogates and the size of numbers.
-/

namespace CommentSieve.Json

/-- What is wrong with a text. -/
inductive Fault
  /-- The text ends too early. -/
  | unfinished
  /-- The text is not JSON, or a number is too large to be read. -/
  | malformed
  /-- The text is JSON, but not for a value of the type that is wanted. -/
  | mismatch
  deriving Repr, DecidableEq

/-- Reads a value off the front of a text. -/
abbrev Read (α : Type) := List Char → Except Fault (α × List Char)

/-- The blanks that may stand between the parts of a text. -/
def isSpace (c : Char) : Bool := c == ' ' || c == '\n' || c == '\t' || c == '\r'

/-- Drops blanks. -/
def skipSpace (text : List Char) : List Char := text.dropWhile isSpace

/-- Reads the rest of a word whose first letter has been read. -/
def word : (letters : List Char) → List Char → Except Fault (List Char)
  | [], text => .ok text
  | _ :: _, [] => .error .unfinished
  | l :: letters, c :: text => if l = c then word letters text else .error .malformed

/-! ## Strings -/

/-- The value of a hexadecimal digit. -/
def hexDigit? (c : Char) : Option Nat :=
  if '0' ≤ c ∧ c ≤ '9' then some (c.toNat - '0'.toNat)
  else if 'a' ≤ c ∧ c ≤ 'f' then some (c.toNat - 'a'.toNat + 10)
  else if 'A' ≤ c ∧ c ≤ 'F' then some (c.toNat - 'A'.toNat + 10)
  else none

/-- Reads the four digits of a `\u` escape. With fewer than four bytes left the text
counts as unfinished, whatever they are. -/
def hexUnit (text : List Char) : Except Fault (Nat × List Char) :=
  if Text.byteLength (text.take 4) < 4 then .error .unfinished
  else match text with
    | a :: b :: c :: d :: text =>
      match hexDigit? a, hexDigit? b, hexDigit? c, hexDigit? d with
      | some a, some b, some c, some d => .ok (((a * 16 + b) * 16 + c) * 16 + d, text)
      | _, _, _, _ => .error .malformed
    | _ => .error .malformed

/-- The character that a letter stands for after a backslash. -/
def shortEscape? : Char → Option Char
  | '"' => some '"'
  | '\\' => some '\\'
  | '/' => some '/'
  | 'b' => some '\x08'
  | 'f' => some '\x0c'
  | 'n' => some '\n'
  | 'r' => some '\r'
  | 't' => some '\t'
  | _ => none

/-- A unit that starts a surrogate pair. -/
def isLeading (n : Nat) : Bool := 0xD800 ≤ n && n ≤ 0xDBFF

/-- A unit that ends a surrogate pair. -/
def isTrailing (n : Nat) : Bool := 0xDC00 ≤ n && n ≤ 0xDFFF

/-- Reads the character that a `\u` escape stands for, after its letter. A character
outside the first plane takes two escapes. -/
def unicodeEscape (text : List Char) : Except Fault (Char × List Char) := do
  let (n, text) ← hexUnit text
  if isTrailing n then .error .malformed
  else if isLeading n then
    match text with
    | [] => .error .unfinished
    | '\\' :: [] => .error .unfinished
    | '\\' :: 'u' :: text =>
      let (m, text) ← hexUnit text
      if isTrailing m then
        return (Char.ofNat ((n - 0xD800) * 0x400 + (m - 0xDC00) + 0x10000), text)
      else .error .malformed
    | _ => .error .malformed
  else return (Char.ofNat n, text)

/-- Reads an escape, after its backslash. -/
def escape (text : List Char) : Except Fault (Char × List Char) :=
  match text with
  | [] => .error .unfinished
  | 'u' :: text => unicodeEscape text
  | c :: text =>
    match shortEscape? c with
    | some d => .ok (d, text)
    | none => .error .malformed

/-- Reads a string, after its opening quote. `read` holds what was read, last
character first. Each step uses up a character, so that `fuel` need only exceed the
length of the text. -/
def stringBody (read : List Char) : (fuel : Nat) → List Char → Except Fault (List Char × List Char)
  | 0, _ => .error .unfinished
  | _ + 1, [] => .error .unfinished
  | fuel + 1, c :: text =>
    if c = '"' then .ok (read.reverse, text)
    else if c = '\\' then
      match escape text with
      | .ok (d, text) => stringBody (d :: read) fuel text
      | .error fault => .error fault
    else if c.toNat < 0x20 then .error .malformed
    else stringBody (c :: read) fuel text

/-- Reads a string, after its opening quote. -/
def string : Read String := fun text => do
  let (chars, text) ← stringBody [] (text.length + 1) text
  return (String.ofList chars, text)

/-- Skips a string, after its opening quote. Escapes only have to look right. -/
def skipString : (fuel : Nat) → List Char → Except Fault (List Char)
  | 0, _ => .error .unfinished
  | _ + 1, [] => .error .unfinished
  | fuel + 1, c :: text =>
    if c = '"' then .ok text
    else if c = '\\' then
      match text with
      | [] => .error .unfinished
      | 'u' :: text =>
        match hexUnit text with
        | .ok (_, text) => skipString fuel text
        | .error fault => .error fault
      | d :: text =>
        if (shortEscape? d).isSome then skipString fuel text else .error .malformed
    else if c.toNat < 0x20 then .error .malformed
    else skipString fuel text

/-! ## Numbers -/

/-- A number that was read. Numbers written with a point or an exponent are not
integers, nor are those too large for a word, nor is `-0`. -/
inductive Number
  | integer (n : Int)
  | other
  deriving Repr, DecidableEq

/-- The greatest unsigned word. -/
def maxUnsigned : Nat := 18446744073709551615

/-- The greatest number whose negative fits in a signed word. -/
def maxNegated : Nat := 9223372036854775808

/-- The leading digits of a number that fit in a word, and how many were left. -/
structure Significand where
  value : Nat
  /-- The power of ten that the digits not taken stand for. -/
  exponent : Int
  deriving Repr, DecidableEq

/-- Takes digits in as long as the value fits in a word. `weight` is added to the
exponent for a digit that is taken, `lost` for one that is not. -/
def Significand.take (weight lost : Int) (full : Bool) (s : Significand) : List Char → Significand
  | [] => s
  | c :: digits =>
    let value := s.value * 10 + (c.toNat - '0'.toNat)
    if full || maxUnsigned < value then
      Significand.take weight lost true { s with exponent := s.exponent + lost } digits
    else Significand.take weight lost false ⟨value, s.exponent + weight⟩ digits

/-- Whether a number is too large for a double: the digits and the power of ten are
rounded, and so is their product. -/
def Significand.isTooLarge (s : Significand) : Bool :=
  s.value != 0 && (308 < s.exponent || (0 ≤ s.exponent &&
    Double.infinite ≤ Double.round s.value * Double.round (Nat.pow 10 s.exponent.toNat)))

/-- The greatest exponent that is read. -/
def maxExponent : Nat := 2147483647

/-- A number that is no integer, if it is not too large. -/
def finishOther (s : Significand) (text : List Char) : Except Fault (Number × List Char) :=
  if s.isTooLarge then .error .malformed else .ok (.other, text)

/-- Reads an exponent, after its letter. -/
def exponentPart (s : Significand) (text : List Char) : Except Fault (Number × List Char) :=
  let (positive, text) := match text with
    | '+' :: text => (true, text)
    | '-' :: text => (false, text)
    | text => (true, text)
  let digits := text.takeWhile Char.isDigit
  let rest := text.dropWhile Char.isDigit
  match digits, rest with
  | [], [] => .error .unfinished
  | [], _ => .error .malformed
  | digits, rest =>
    let exponent := digits.foldl (fun n c => n * 10 + (c.toNat - '0'.toNat)) 0
    -- Far too large, unless there is nothing to multiply.
    if maxExponent < exponent then
      if s.value != 0 && positive then .error .malformed else .ok (.other, rest)
    else
      let shift : Int := if positive then exponent else -exponent
      finishOther { s with exponent := s.exponent + shift } rest

/-- Reads a fraction, after its point. -/
def fractionPart (s : Significand) (text : List Char) : Except Fault (Number × List Char) :=
  let digits := text.takeWhile Char.isDigit
  let rest := text.dropWhile Char.isDigit
  match digits, rest with
  | [], [] => .error .unfinished
  | [], _ => .error .malformed
  | digits, rest =>
    let s := s.take (-1) 0 false digits
    match rest with
    | 'e' :: rest | 'E' :: rest => exponentPart s rest
    | rest => finishOther s rest

/-- Reads a number, after its minus sign if it has one. -/
def number (negative : Bool) (text : List Char) : Except Fault (Number × List Char) :=
  let digits := text.takeWhile Char.isDigit
  let rest := text.dropWhile Char.isDigit
  match digits, rest with
  | [], [] => .error .unfinished
  | [], _ => .error .malformed
  | '0' :: _ :: _, _ => .error .malformed
  | digits, '.' :: rest => fractionPart (Significand.take 0 1 false ⟨0, 0⟩ digits) rest
  | digits, 'e' :: rest | digits, 'E' :: rest =>
    exponentPart (Significand.take 0 1 false ⟨0, 0⟩ digits) rest
  | digits, rest =>
    let n := digits.foldl (fun n c => n * 10 + (c.toNat - '0'.toNat)) 0
    -- What does not fit in a word is read like a number with an exponent.
    if maxUnsigned < n then finishOther (Significand.take 0 1 false ⟨0, 0⟩ digits) rest
    else if negative then
      if n = 0 ∨ maxNegated < n then .ok (.other, rest) else .ok (.integer (-n), rest)
    else .ok (.integer n, rest)

/-- Skips the digits that have to follow a point or an exponent sign. -/
def skipDigits (text : List Char) : Except Fault (List Char) :=
  match text with
  | c :: _ => if c.isDigit then .ok (text.dropWhile Char.isDigit) else .error .malformed
  | [] => .error .malformed

/-- Skips an exponent, if there is one. -/
def skipExponent : List Char → Except Fault (List Char)
  | 'e' :: text | 'E' :: text =>
    match text with
    | '+' :: text | '-' :: text => skipDigits text
    | text => skipDigits text
  | text => .ok text

/-- Skips a number, after its minus sign if it has one. Its size does not matter. -/
def skipNumber (text : List Char) : Except Fault (List Char) := do
  match text with
  | '0' :: c :: _ => if c.isDigit then .error .malformed
  | _ => pure ()
  match ← skipDigits text with
  | '.' :: text => skipExponent (← skipDigits text)
  | text => skipExponent text

end CommentSieve.Json
