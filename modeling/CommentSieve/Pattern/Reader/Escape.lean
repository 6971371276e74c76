import CommentSieve.Pattern.Reader.Basic
import CommentSieve.Text.Property
import CommentSieve.Text.Search

/-!
# Reading patterns: escapes and single characters

A backslash takes the meaning from a sign, and gives one to a letter: a character by
number, a class, a condition, or a property of characters that is called by its name.
-/

namespace CommentSieve.Pattern.Reader

open Text

/-- The smallest things a pattern consists of. -/
inductive Atom
  /-- A character. `byte` marks one that was written as a two-digit number. -/
  | char (c : Char) (byte : Bool)
  /-- One of the classes with a letter of their own. -/
  | class (s : CharSet) (negated : Bool)
  /-- The characters with a property, or those without it. -/
  | property (s : CharSet) (negated : Bool)
  | look (l : Look)
  deriving Repr, DecidableEq

/-- Characters that can be escaped because they mean something. -/
def isMeta (c : Char) : Bool :=
  ['\\', '.', '+', '*', '?', '(', ')', '|', '[', ']', '{', '}', '^', '$', '#', '&', '-',
    '~'].contains c

/-- Characters that stand for themselves after a backslash: all ASCII characters but
letters, digits and angle brackets. -/
def escapesToItself (c : Char) : Bool :=
  isMeta c || (c.toNat < 0x80 && !c.isAlphanum && c != '<' && c != '>')

/-- The word edge with a name. -/
def wordEdge? : String → Option WordEdge
  | "start" => some .start
  | "end" => some .stop
  | "start-half" => some .startHalf
  | "end-half" => some .stopHalf
  | _ => none

/-- Reads the name of a word edge up to its brace. -/
def readEdgeName (verbose : Bool) (name : List Char) : (fuel : Nat) → List Char →
    Except Rejection (WordEdge × List Char)
  | fuel + 1, c :: text =>
    if c.isAlpha || c == '-' then readEdgeName verbose (c :: name) fuel (skipSpace verbose text)
    else if c = '}' then
      match wordEdge? (String.ofList name.reverse) with
      | some edge => .ok (edge, text)
      | none => .error .badEscape
    else .error .badEscape
  | _, _ => .error .badEscape

/-- Reads what may follow `\b`: the name of an edge in braces. Braces with anything
else in them are a repetition, and left alone. -/
def readBoundary (flags : Flags) (text : List Char) : Except Rejection (Atom × List Char) :=
  let plain := .ok (.look (.word .boundary (!flags.unicode)), text)
  match text with
  | '{' :: inner =>
    match skipSpace flags.verbose inner with
    | [] => .error .badEscape
    | c :: more =>
      if c.isAlpha || c == '-' then do
        let (edge, text) ← readEdgeName flags.verbose [] (inner.length + 1) (c :: more)
        return (.look (.word edge (!flags.unicode)), text)
      else plain
  | _ => plain

/-- The number of digits of an escape without braces. -/
def hexDigits? : Char → Option Nat
  | 'x' => some 2
  | 'u' => some 4
  | 'U' => some 8
  | _ => none

/-- Reads a character given by number, after the letter of its escape. -/
def readHex (verbose : Bool) (digits : Nat) (text : List Char) :
    Except Rejection (Atom × List Char) := do
  match skipSpace verbose text with
  | '{' :: text =>
    let (n, text) ← readHexBraced verbose text
    return (.char (← codePoint n) false, text)
  | text =>
    let (n, text) ← readHexFixed verbose digits 0 text
    return (.char (← codePoint n) (digits == 2), text)

/-! ## Properties of characters -/

/-- Reads the name of a property up to its brace. Each step uses up a character. -/
def readPropertyName (verbose : Bool) (name : List Char) : (fuel : Nat) → List Char →
    Except Rejection (List Char × List Char)
  | fuel + 1, c :: text =>
    if c = '}' then .ok (name.reverse, text)
    else readPropertyName verbose (c :: name) fuel (skipSpace verbose text)
  | _, _ => .error .badEscape

/-- The set that the name of a property stands for. A value is set off by one of three
signs, of which the first in this order counts; inequality has no meaning of its own. -/
def namedProperty? (name : List Char) : Option Intervals :=
  let signs := [['!', '='], [':'], ['=']]
  match signs.findSome? (splitAround? · name) with
  | some (property, value) =>
    Property.valued? (Property.looseName property) (Property.looseName value)
  | none => Property.plain? (Property.looseName name)

/-- The atom for a property, which only patterns over all of Unicode can ask for. -/
def propertyAtom (flags : Flags) (negated : Bool) (name : List Char) : Except Rejection Atom :=
  if !flags.unicode then .error .unicodeOnly
  else match namedProperty? name with
    | some s => .ok (.property (.listed s) negated)
    | none => .error .unknownProperty

/-- Reads a property, after the letter of its escape: a name in braces, or a name that
is one letter. -/
def readProperty (flags : Flags) (negated : Bool) (text : List Char) :
    Except Rejection (Atom × List Char) := do
  match skipSpace flags.verbose text with
  | [] | '\\' :: _ => .error .badEscape
  | '{' :: text =>
    let (name, text) ←
      readPropertyName flags.verbose [] (text.length + 1) (skipSpace flags.verbose text)
    return (← propertyAtom flags negated name, text)
  | c :: text => return (← propertyAtom flags negated [c], text)

/-! ## Letters -/

/-- The class that a letter stands for. -/
def letterClass? (unicode : Bool) : Char → Option (CharSet × Bool)
  | 'd' => some (if unicode then .digit else .asciiDigit, false)
  | 's' => some (if unicode then .blank else .asciiBlank, false)
  | 'w' => some (if unicode then .word else .asciiWord, false)
  | 'D' => some (if unicode then .digit else .asciiDigit, true)
  | 'S' => some (if unicode then .blank else .asciiBlank, true)
  | 'W' => some (if unicode then .word else .asciiWord, true)
  | _ => none

/-- The control character that a letter stands for. -/
def letterControl? : Char → Option Char
  | 'a' => some '\x07'
  | 'f' => some '\x0c'
  | 't' => some '\t'
  | 'n' => some '\n'
  | 'r' => some '\r'
  | 'v' => some '\x0b'
  | _ => none

/-- The condition that a character stands for, `\b` apart. -/
def letterLook? (unicode : Bool) : Char → Option Look
  | 'A' => some .textStart
  | 'z' => some .textEnd
  | 'B' => some (.word .interior (!unicode))
  | '<' => some (.word .start (!unicode))
  | '>' => some (.word .stop (!unicode))
  | _ => none

/-- Reads an escape, after its backslash. -/
def readEscape (flags : Flags) : List Char → Except Rejection (Atom × List Char)
  | [] => .error .badEscape
  | c :: text =>
    if escapesToItself c then .ok (.char c false, text)
    else if c = 'b' then readBoundary flags text
    else if c = 'p' ∨ c = 'P' then readProperty flags (c == 'P') text
    else match hexDigits? c, letterClass? flags.unicode c, letterControl? c,
        letterLook? flags.unicode c with
      | some digits, _, _, _ => readHex flags.verbose digits text
      | _, some (s, negated), _, _ => .ok (.class s negated, text)
      | _, _, some control, _ => .ok (.char control false, text)
      | _, _, _, some l => .ok (.look l, text)
      | none, none, none, none => .error .badEscape

end CommentSieve.Pattern.Reader
