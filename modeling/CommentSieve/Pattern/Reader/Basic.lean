import CommentSieve.Pattern.Basic

/-!
# Reading patterns: flags, blanks, numbers

Patterns are written in the usual notation of regular expressions. What a
character means can depend on flags, which are set inside the pattern.
-/

namespace CommentSieve.Pattern

/-- Why a text is not a pattern. -/
inductive Rejection
  | unclosedGroup
  | unopenedGroup
  | lookAround
  | badGroupName
  | repeatedGroupName
  | badFlags
  | nothingToRepeat
  | badCount
  | badEscape
  | badCodePoint
  | unclosedClass
  | badClassRange
  | badClassItem
  | unknownProperty
  /-- Properties were asked for with Unicode switched off. -/
  | unicodeOnly
  /-- With Unicode switched off, something could match part of a character. -/
  | partialCharacter
  | tooDeep
  | tooLarge
  deriving Repr, DecidableEq

namespace Reader

open Text

/-- The settings that a pattern can change. -/
structure Flags where
  ignoreCase : Bool := false
  /-- `^` and `$` stand for line starts and line ends. -/
  multiLine : Bool := false
  /-- `.` stands for line feeds too. -/
  dotAll : Bool := false
  /-- Repetitions are lazy unless marked. -/
  swapGreed : Bool := false
  unicode : Bool := true
  /-- Carriage returns end lines too. -/
  anyLine : Bool := false
  /-- Blanks and comments in the pattern mean nothing. -/
  verbose : Bool := false
  deriving Repr, DecidableEq

/-- Sets the flag that a letter stands for. -/
def Flags.set? (f : Flags) (letter : Char) (value : Bool) : Option Flags :=
  match letter with
  | 'i' => some { f with ignoreCase := value }
  | 'm' => some { f with multiLine := value }
  | 's' => some { f with dotAll := value }
  | 'U' => some { f with swapGreed := value }
  | 'u' => some { f with unicode := value }
  | 'R' => some { f with anyLine := value }
  | 'x' => some { f with verbose := value }
  | _ => none

/-- Drops what means nothing in front of a text: in verbose patterns, blanks, and
comments from `#` through the line end. -/
def skipSpace (verbose : Bool) (text : List Char) : List Char :=
  if verbose then go false text else text
where
  /-- `comment` says whether a comment is being dropped. -/
  go (comment : Bool) : List Char → List Char
    | [] => []
    | c :: cs =>
      if comment then go (c != '\n') cs
      else if isBlank c then go false cs
      else if c = '#' then go true cs
      else c :: cs

/-- Whether the characters after the first mean that a hyphen is no range: in a
verbose pattern blanks are passed over first, and the sign of a comment once. -/
def peekSpace (verbose : Bool) (text : List Char) : Option Char :=
  if verbose then (go false text).or text.head? else text.head?
where
  /-- `comment` says whether the sign of a comment was passed over. -/
  go (comment : Bool) : List Char → Option Char
    | [] => none
    | c :: cs =>
      if isBlank c then go comment cs
      else if !comment && c == '#' then go true cs
      else some c

/-! ## Numbers -/

/-- The value of a hexadecimal digit. -/
def hexValue? (c : Char) : Option Nat :=
  if '0' ≤ c ∧ c ≤ '9' then some (c.toNat - '0'.toNat)
  else if 'a' ≤ c ∧ c ≤ 'f' then some (c.toNat - 'a'.toNat + 10)
  else if 'A' ≤ c ∧ c ≤ 'F' then some (c.toNat - 'A'.toNat + 10)
  else none

/-- The character with a code point. -/
def codePoint (n : Nat) : Except Rejection Char :=
  if n < 0xD800 ∨ (0xDFFF < n ∧ n < 0x110000) then .ok (Char.ofNat n) else .error .badCodePoint

/-- Reads exactly `count` hexadecimal digits. -/
def readHexFixed (verbose : Bool) : (count value : Nat) → List Char →
    Except Rejection (Nat × List Char)
  | 0, value, text => .ok (value, text)
  | _ + 1, _, [] => .error .badEscape
  | count + 1, value, c :: text =>
    match hexValue? c with
    | some digit => readHexFixed verbose count (value * 16 + digit) (skipSpace verbose text)
    | none => .error .badEscape

/-- Reads hexadecimal digits up to a closing brace; there has to be one at least. -/
def readHexBraced (verbose : Bool) (text : List Char) : Except Rejection (Nat × List Char) :=
  go none (text.length + 1) (skipSpace verbose text)
where
  /-- `value` is the number read so far. Each step uses up a character. -/
  go (value : Option Nat) : (fuel : Nat) → List Char → Except Rejection (Nat × List Char)
    | 0, _ => .error .badEscape
    | _ + 1, [] => .error .badEscape
    | fuel + 1, c :: text =>
      if c = '}' then
        match value with
        | some value => .ok (value, skipSpace verbose text)
        | none => .error .badEscape
      else
        match hexValue? c with
        | some digit => go (some (value.getD 0 * 16 + digit)) fuel (skipSpace verbose text)
        | none => .error .badEscape

/-- The greatest repetition count. -/
def maxCount : Nat := 4294967295

/-- Reads a decimal number with blanks around it. No number is given if there are
no digits. -/
def readDecimal (verbose : Bool) (text : List Char) : Except Rejection (Option Nat × List Char) :=
  let text := text.dropWhile isBlank
  let (value, text) := go none text.length text
  match value with
  | some n => if n ≤ maxCount then .ok (value, text.dropWhile isBlank) else .error .badCount
  | none => .ok (none, text.dropWhile isBlank)
where
  /-- `value` is the number read so far. Each step uses up a character. -/
  go (value : Option Nat) : (fuel : Nat) → List Char → Option Nat × List Char
    | fuel + 1, c :: text =>
      if '0' ≤ c ∧ c ≤ '9' then
        go (some (value.getD 0 * 10 + (c.toNat - '0'.toNat))) fuel (skipSpace verbose text)
      else (value, c :: text)
    | _, text => (value, text)

/-- Bounds of a repetition, whether it is greedy, and the text after it. -/
structure Count where
  min : Nat
  max : Option Nat
  greedy : Bool
  rest : List Char

/-- Reads the text after the brace of a counted repetition. -/
def readCount (verbose : Bool) (text : List Char) : Except Rejection Count := do
  let (low, text) ← readDecimal verbose (skipSpace verbose text)
  let (min, max, text) ← match text with
    | ',' :: text =>
      match skipSpace verbose text with
      | [] => .error .badCount
      | '}' :: text =>
        match low with
        | some min => .ok (min, Option.none, '}' :: text)
        | none => .error .badCount
      | text => do
        let (high, text) ← readDecimal verbose text
        match low, high with
        | some min, some max =>
          if min ≤ max then .ok (min, some max, text) else .error .badCount
        | _, _ => .error .badCount
    | text =>
      match low with
      | some min => .ok (min, some min, text)
      | none => .error .badCount
  match text with
  | '}' :: text =>
    match skipSpace verbose text with
    | '?' :: text => .ok ⟨min, max, false, text⟩
    | text => .ok ⟨min, max, true, text⟩
  | _ => .error .badCount

end Reader

end CommentSieve.Pattern
