import CommentSieve.Json.Skip

/-!
# JSON: reading values of a known type

The type that is wanted drives the reading. A record may be written as an object, with
its fields in any order and with further fields between them, or as an array of its
fields in order, of which the last may be left out.
-/

namespace CommentSieve.Json

/-- The fault of a text whose value is not of the type that is wanted. The value is
read as far as it is a single word; if that fails, its own fault counts. -/
def wrongType (text : List Char) : Fault :=
  let outcome : Except Fault Unit := match text with
    | 'n' :: text => (word ['u', 'l', 'l'] text).map fun _ => ()
    | 't' :: text => (word ['r', 'u', 'e'] text).map fun _ => ()
    | 'f' :: text => (word ['a', 'l', 's', 'e'] text).map fun _ => ()
    | '-' :: text => (number true text).map fun _ => ()
    | '"' :: text => (string text).map fun _ => ()
    | '[' :: _ | '{' :: _ => .ok ()
    | c :: text =>
      if c.isDigit then (number false (c :: text)).map fun _ => () else .error .malformed
    | [] => .error .unfinished
  match outcome with
  | .ok () => .mismatch
  | .error fault => fault

/-! ## Single values -/

/-- Reads a Boolean. -/
def bool : Read Bool := fun text =>
  match skipSpace text with
  | 't' :: text => (word ['r', 'u', 'e'] text).map fun text => (true, text)
  | 'f' :: text => (word ['a', 'l', 's', 'e'] text).map fun text => (false, text)
  | text => .error (wrongType text)

/-- Reads a string. -/
def text : Read String := fun input =>
  match skipSpace input with
  | '"' :: input => string input
  | input => .error (wrongType input)

/-- Reads an integer between two bounds. -/
def integer (low high : Int) : Read Int := fun text => do
  let (n, rest) ← match skipSpace text with
    | '-' :: text => number true text
    | [] => .error .unfinished
    | c :: text => if c.isDigit then number false (c :: text) else .error (wrongType (c :: text))
  match n with
  | .integer n => if low ≤ n ∧ n ≤ high then return (n, rest) else .error .mismatch
  | .other => .error .mismatch

/-- Reads a signed 32-bit integer. -/
def int32 : Read Int := integer (-2147483648) 2147483647

/-- Reads an unsigned word. -/
def unsigned : Read Nat := fun text =>
  (integer 0 maxUnsigned text).map fun (n, rest) => (n.toNat, rest)

/-- Reads a value or `null`. -/
def nullable {α : Type} (value : Read α) : Read (Option α) := fun text =>
  match skipSpace text with
  | 'n' :: text => (word ['u', 'l', 'l'] text).map fun text => (none, text)
  | _ => (value text).map fun (a, rest) => (some a, rest)

/-! ## Lists -/

/-- Goes on to the next element of an array: the text from it on, or nothing if the
array ends here, with the closing bracket left in place. -/
def nextElement (first : Bool) (text : List Char) : Except Fault (Option (List Char)) :=
  match skipSpace text with
  | [] => .error .unfinished
  | ']' :: _ => .ok none
  | c :: text =>
    if first then .ok (some (c :: text))
    else if c = ',' then
      match skipSpace text with
      | [] => .error .unfinished
      | ']' :: _ => .error .malformed
      | text => .ok (some text)
    else .error .malformed

/-- Closes an array. -/
def closeArray (text : List Char) : Except Fault (List Char) :=
  match skipSpace text with
  | [] => .error .unfinished
  | ']' :: text => .ok text
  | _ => .error .malformed

/-- Reads the elements of an array. `read` holds what was read, last element first.
Each step uses up a character, so that `fuel` need only exceed the length of the
text. -/
def elements {α : Type} (value : Read α) (read : List α) : (fuel : Nat) → (first : Bool) →
    List Char → Except Fault (List α × List Char)
  | 0, _, _ => .error .unfinished
  | fuel + 1, first, text => do
    match ← nextElement first text with
    | none => return (read.reverse, ← closeArray text)
    | some text =>
      let (a, text) ← value text
      elements value (a :: read) fuel false text

/-- Reads a list. -/
def list {α : Type} (value : Read α) : Read (List α) := fun text =>
  match skipSpace text with
  | '[' :: text => elements value [] (text.length + 1) true text
  | text => .error (wrongType text)

/-! ## Records -/

/-- A field of a record: its name, how its value is read into the record, and whether
it has to be there. -/
structure Member (σ : Type) where
  name : String
  read : σ → Read σ
  required : Bool := false

/-- A field that sets a part of a record. -/
def Member.of {σ α : Type} (name : String) (value : Read α) (set : σ → α → σ) : Member σ where
  name
  read := fun record text => (value text).map fun (a, rest) => (set record a, rest)

/-- Goes on to the next key of an object: the text after its quote, or nothing if the
object ends here, with the closing brace left in place. -/
def nextKey (first : Bool) (text : List Char) : Except Fault (Option (List Char)) :=
  match skipSpace text with
  | [] => .error .unfinished
  | '}' :: _ => .ok none
  | c :: text =>
    if first then (if c = '"' then .ok (some text) else .error .malformed)
    else if c = ',' then
      match skipSpace text with
      | [] => .error .unfinished
      | '"' :: text => .ok (some text)
      | _ => .error .malformed
    else .error .malformed

/-- Reads the colon after a key. -/
def colon (text : List Char) : Except Fault (List Char) :=
  match skipSpace text with
  | [] => .error .unfinished
  | ':' :: text => .ok text
  | _ => .error .malformed

/-- Reads the fields of an object into a record. A field of the record may occur once,
any other is skipped. `seen` lists the fields that have occurred. -/
def members {σ : Type} (fields : List (Member σ)) : (fuel : Nat) → (first : Bool) →
    (seen : List String) → σ → List Char → Except Fault (List String × σ × List Char)
  | 0, _, _, _, _ => .error .unfinished
  | fuel + 1, first, seen, record, text => do
    match ← nextKey first text with
    | none => return (seen, record, (skipSpace text).drop 1)
    | some text =>
      let (key, text) ← string text
      match fields.find? (·.name == key) with
      | none =>
        let text ← skipValue (← colon text)
        members fields fuel false seen record text
      | some field =>
        -- Refused before its value is looked at.
        if seen.contains key then .error .mismatch
        else
          let (record, text) ← field.read record (← colon text)
          members fields fuel false (key :: seen) record text

/-- Reads the fields of a record from an array, in order. -/
def positional {σ : Type} : (fields : List (Member σ)) → (first : Bool) → σ → List Char →
    Except Fault (σ × List Char)
  | [], _, record, text => do return (record, ← closeArray text)
  | field :: fields, first, record, text => do
    match ← nextElement first text with
    | none =>
      if (field :: fields).any (·.required) then .error .mismatch
      else return (record, ← closeArray text)
    | some text =>
      let (record, text) ← field.read record text
      positional fields false record text

/-- Reads a record. Fields that are missing keep the value they have in `initial`. -/
def record {σ : Type} (initial : σ) (fields : List (Member σ)) : Read σ := fun text => do
  match skipSpace text with
  | '{' :: text =>
    let (seen, record, text) ← members fields (text.length + 1) true [] initial text
    if fields.all fun field => !field.required || seen.contains field.name then
      return (record, text)
    else .error .mismatch
  | '[' :: text => positional fields true initial text
  | text => .error (wrongType text)

/-- Reads a text that holds one value and nothing else but blanks. -/
def whole {α : Type} (value : Read α) (text : List Char) : Except Fault α := do
  let (a, rest) ← value text
  if (skipSpace rest).isEmpty then return a else .error .malformed

end CommentSieve.Json
