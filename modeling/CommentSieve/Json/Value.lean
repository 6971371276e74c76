/-!
# JSON: writing values

Values are written without blanks, the fields of an object in the order given. In
strings only the quote, the backslash and control characters are escaped.
-/

namespace CommentSieve.Json

/-- A value to be written. -/
inductive Value
  | null
  | bool (b : Bool)
  | int (n : Int)
  | string (text : String)
  | array (items : List Value)
  | object (fields : List (String × Value))
  deriving Repr

/-- A digit of a lower-case hexadecimal number. -/
def hexDigit (n : Nat) : Char :=
  if n < 10 then Char.ofNat ('0'.toNat + n) else Char.ofNat ('a'.toNat + n - 10)

/-- A character as it is written inside a string. -/
def escapeChar (c : Char) : List Char :=
  if c = '"' then ['\\', '"']
  else if c = '\\' then ['\\', '\\']
  else if c = '\x08' then ['\\', 'b']
  else if c = '\t' then ['\\', 't']
  else if c = '\n' then ['\\', 'n']
  else if c = '\x0c' then ['\\', 'f']
  else if c = '\r' then ['\\', 'r']
  else if c.toNat < 0x20 then
    ['\\', 'u', '0', '0', hexDigit (c.toNat / 16), hexDigit (c.toNat % 16)]
  else [c]

/-- A text as it is written, with its quotes. -/
def quoted (text : String) : List Char := '"' :: text.toList.flatMap escapeChar ++ ['"']

/-- Texts with commas between them. -/
def commaSeparated : List (List Char) → List Char
  | [] => []
  | [text] => text
  | text :: more => text ++ ',' :: commaSeparated more

mutual

/-- The characters of a value. -/
def Value.write : Value → List Char
  | .null => "null".toList
  | .bool true => "true".toList
  | .bool false => "false".toList
  | .int n => (toString n).toList
  | .string text => quoted text
  | .array items => '[' :: commaSeparated (writeItems items) ++ [']']
  | .object fields => '{' :: commaSeparated (writeFields fields) ++ ['}']

/-- The characters of each value of an array. -/
def writeItems : List Value → List (List Char)
  | [] => []
  | item :: items => item.write :: writeItems items

/-- The characters of each field of an object. -/
def writeFields : List (String × Value) → List (List Char)
  | [] => []
  | (name, value) :: fields => (quoted name ++ ':' :: value.write) :: writeFields fields

end

/-- A value as a line of text. -/
def Value.render (v : Value) : String := String.ofList v.write

end CommentSieve.Json
