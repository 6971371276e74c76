import Mathlib.Data.List.Forall2

/-!
# The grammar of JSON

What a text of JSON is, said apart from how it is read. Strings and the values of a record
are related to the texts that stand for them; a value that nobody asks for only has to be
well formed. Blanks may stand around each part of a text, and characters can be written in
several ways.

* `IsText` — the texts that stand for a string.
* `IsValue` — the texts that stand for any value.
* `Enclosed` — parts in brackets, with commas between them and blanks around them.
* `IsObject` — the texts that stand for a record: its fields in any order, each at most once,
  those left out that have their default, and any others between them.
-/

namespace CommentSieve.Json

/-- Blanks, as many as one likes. -/
def IsBlank (w : List Char) : Prop := ∀ c ∈ w, c ∈ [' ', '\n', '\t', '\r']

/-! ## Strings -/

/-- A hexadecimal digit and its value. -/
def IsHexDigit (n : Nat) (c : Char) : Prop :=
  "0123456789abcdef".toList[n]? = some c ∨ "0123456789ABCDEF".toList[n]? = some c

/-- A number of 16 bits, with four digits. -/
inductive IsHexUnit : Nat → List Char → Prop
  | digits {a b c d : Nat} {w x y z : Char} (ha : IsHexDigit a w) (hb : IsHexDigit b x)
    (hc : IsHexDigit c y) (hd : IsHexDigit d z) :
    IsHexUnit (((a * 16 + b) * 16 + c) * 16 + d) [w, x, y, z]

/-- The letters that may follow a backslash, and the characters they stand for. -/
def letterEscapes : List (Char × Char) :=
  [('"', '"'), ('\\', '\\'), ('/', '/'), ('b', '\x08'), ('f', '\x0c'), ('n', '\n'), ('r', '\r'),
    ('t', '\t')]

/-- A character that stands for itself in a string. -/
def IsPlain (c : Char) : Prop := 0x20 ≤ c.toNat ∧ c ≠ '"' ∧ c ≠ '\\'

/-- The ways to write a character in a string. One beyond the first 65536 is written as two
numbers, or as itself. -/
inductive IsSpelledChar : Char → List Char → Prop
  | plain {c : Char} (h : IsPlain c) : IsSpelledChar c [c]
  | letter {l c : Char} (h : (l, c) ∈ letterEscapes) : IsSpelledChar c ['\\', l]
  | unit {c : Char} {digits : List Char} (h : IsHexUnit c.toNat digits) :
    IsSpelledChar c ('\\' :: 'u' :: digits)
  | pair {c : Char} {n m : Nat} {first second : List Char} (hn : IsHexUnit n first)
    (hm : IsHexUnit m second) (hLeading : 0xD800 ≤ n ∧ n ≤ 0xDBFF)
    (hTrailing : 0xDC00 ≤ m ∧ m ≤ 0xDFFF)
    (hChar : c.toNat = 0x10000 + (n - 0xD800) * 0x400 + (m - 0xDC00)) :
    IsSpelledChar c ('\\' :: 'u' :: (first ++ '\\' :: 'u' :: second))

/-- The ways to write some characters. -/
inductive IsSpelled : List Char → List Char → Prop
  | nil : IsSpelled [] []
  | cons {c : Char} {cs t ts : List Char} (hc : IsSpelledChar c t) (hcs : IsSpelled cs ts) :
    IsSpelled (c :: cs) (t ++ ts)

/-- The texts that stand for a string. -/
def IsText (s : String) (t : List Char) : Prop :=
  ∃ body, IsSpelled s.toList body ∧ t = '"' :: (body ++ ['"'])

/-- The inside of any string. Its numbers need not be those of characters. -/
inductive IsStringBody : List Char → Prop
  | nil : IsStringBody []
  | plain {c : Char} {t : List Char} (h : IsPlain c) (ht : IsStringBody t) : IsStringBody (c :: t)
  | letter {l c : Char} {t : List Char} (h : (l, c) ∈ letterEscapes) (ht : IsStringBody t) :
    IsStringBody ('\\' :: l :: t)
  | unit {n : Nat} {digits t : List Char} (h : IsHexUnit n digits) (ht : IsStringBody t) :
    IsStringBody ('\\' :: 'u' :: (digits ++ t))

/-- A string with its quotes. -/
def IsString (t : List Char) : Prop := ∃ body, IsStringBody body ∧ t = '"' :: (body ++ ['"'])

/-! ## Numbers -/

/-- One digit or more. -/
def IsDigits (t : List Char) : Prop := t ≠ [] ∧ ∀ c ∈ t, c.isDigit = true

/-- What may follow the digits of a number after a point. -/
inductive IsFraction : List Char → Prop
  | none : IsFraction []
  | digits {t : List Char} (h : IsDigits t) : IsFraction ('.' :: t)

/-- What may follow a number as its power of ten. -/
inductive IsExponent : List Char → Prop
  | none : IsExponent []
  | digits {e : Char} {sign t : List Char} (he : e ∈ ['e', 'E']) (hSign : sign ∈ [[], ['+'], ['-']])
    (h : IsDigits t) : IsExponent (e :: (sign ++ t))

/-- A number. A zero in front stands alone. -/
inductive IsNumber : List Char → Prop
  | mk {sign whole fraction exponent : List Char} (hSign : sign ∈ [[], ['-']])
    (hWhole : IsDigits whole) (hZero : whole.head? = some '0' → whole = ['0'])
    (hFraction : IsFraction fraction) (hExponent : IsExponent exponent) :
    IsNumber (sign ++ (whole ++ (fraction ++ exponent)))

/-! ## Arrays and objects -/

/-- Parts with commas between them and blanks around them. -/
inductive Separated : List (List Char) → List Char → Prop
  | one {v t w : List Char} (hv : IsBlank v) (hw : IsBlank w) : Separated [t] (v ++ (t ++ w))
  | more {v t w text : List Char} {ts : List (List Char)} (hv : IsBlank v) (hw : IsBlank w)
    (h : Separated ts text) : Separated (t :: ts) (v ++ (t ++ (w ++ ',' :: text)))

/-- Parts in brackets. -/
inductive Enclosed (opening closing : Char) : List (List Char) → List Char → Prop
  | none {w : List Char} (hw : IsBlank w) :
    Enclosed opening closing [] (opening :: (w ++ [closing]))
  | some {ts : List (List Char)} {text : List Char} (h : Separated ts text) :
    Enclosed opening closing ts (opening :: (text ++ [closing]))

/-- A name and a value with a colon between them. -/
inductive IsPair (key value : List Char) : List Char → Prop
  | mk {v w : List Char} (hv : IsBlank v) (hw : IsBlank w) :
    IsPair key value (key ++ (v ++ ':' :: (w ++ value)))

/-- The texts that stand for a value, whatever it is. -/
inductive IsValue : List Char → Prop
  | null : IsValue ['n', 'u', 'l', 'l']
  | true : IsValue ['t', 'r', 'u', 'e']
  | false : IsValue ['f', 'a', 'l', 's', 'e']
  | number {t : List Char} (h : IsNumber t) : IsValue t
  | string {t : List Char} (h : IsString t) : IsValue t
  | array {items : List (List Char)} {t : List Char} (hItems : ∀ item ∈ items, IsValue item)
    (ht : Enclosed '[' ']' items t) : IsValue t
  | object {pairs : List (List Char × List Char)} {parts : List (List Char)} {t : List Char}
    (hKeys : ∀ p ∈ pairs, IsString p.1) (hValues : ∀ p ∈ pairs, IsValue p.2)
    (hParts : List.Forall₂ (fun p part => IsPair p.1 p.2 part) pairs parts)
    (ht : Enclosed '{' '}' parts t) : IsValue t

/-- The texts that stand for a list. -/
def IsList {α : Type} (P : α → List Char → Prop) (as : List α) (t : List Char) : Prop :=
  ∃ items, List.Forall₂ P as items ∧ Enclosed '[' ']' items t

/-! ## Values of a known type -/

/-- The texts that stand for a Boolean. -/
def IsBool (b : Bool) (t : List Char) : Prop :=
  t = if b then ['t', 'r', 'u', 'e'] else ['f', 'a', 'l', 's', 'e']

/-- The text that stands for a signed integer of 32 bits. -/
def IsInt32 (n : Int) (t : List Char) : Prop :=
  -2147483648 ≤ n ∧ n ≤ 2147483647 ∧ t = (toString n).toList

/-- The text that stands for an unsigned word. -/
def IsUnsigned (n : Nat) (t : List Char) : Prop :=
  n ≤ 18446744073709551615 ∧ t = (toString n).toList

/-- The texts that stand for a value that may be absent. -/
def IsNullable {α : Type} (P : α → List Char → Prop) : Option α → List Char → Prop
  | none, t => t = ['n', 'u', 'l', 'l']
  | some a, t => P a t

/-! ## Records -/

/-- A field of a record: its name, where it stands in the record, the texts that stand for
its value, and the value it has if it is left out. Without such a value it has to be there. -/
structure FieldSpec (σ : Type) where
  name : String
  Carrier : Type
  get : σ → Carrier
  Spells : Carrier → List Char → Prop
  default? : Option Carrier

/-- A field that has to be there. -/
def FieldSpec.required {σ α : Type} (name : String) (get : σ → α) (Spells : α → List Char → Prop) :
    FieldSpec σ where
  name
  Carrier := α
  get
  Spells
  default? := none

/-- A field that can be left out. -/
def FieldSpec.optional {σ α : Type} (name : String) (get : σ → α) (Spells : α → List Char → Prop)
    (default : α) : FieldSpec σ where
  name
  Carrier := α
  get
  Spells
  default? := some default

/-- A name and a value that may stand in an object for a record: a field of the record with
its value, or another name with any value. -/
def Fits {σ : Type} (fields : List (FieldSpec σ)) (r : σ) (name : String) (value : List Char) :
    Prop :=
  (∃ f ∈ fields, f.name = name ∧ f.Spells (f.get r) value) ∨
    (∀ f ∈ fields, f.name ≠ name) ∧ IsValue value

/-- What an object for a record lists: each field at most once, and all that do not have their
default. -/
structure Lists {σ : Type} (fields : List (FieldSpec σ)) (r : σ)
    (pairs : List (String × List Char)) : Prop where
  fits : ∀ p ∈ pairs, Fits fields r p.1 p.2
  once : ∀ f ∈ fields, (pairs.map (·.1)).count f.name ≤ 1
  omits : ∀ f ∈ fields, f.name ∉ pairs.map (·.1) → f.default? = some (f.get r)

/-- The texts that stand for a record. -/
def IsObject {σ : Type} (fields : List (FieldSpec σ)) (r : σ) (t : List Char) : Prop :=
  ∃ pairs parts, Lists fields r pairs ∧
    List.Forall₂ (fun p part => ∃ key, IsText p.1 key ∧ IsPair key p.2 part) pairs parts ∧
    Enclosed '{' '}' parts t

end CommentSieve.Json
