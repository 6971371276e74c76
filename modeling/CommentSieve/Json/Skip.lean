import CommentSieve.Json.Lexical

/-!
# JSON: skipping values

A value that is not wanted is skipped whatever it is. Arrays and objects may be
nested to any depth.
-/

namespace CommentSieve.Json

/-- What a value is nested in. -/
inductive Enclosure
  | array
  | object
  deriving Repr, DecidableEq

/-- Reads a key and its colon, up to the value; blanks before the key are dropped. -/
def skipKey (text : List Char) : Except Fault (List Char) := do
  match skipSpace text with
  | [] => .error .unfinished
  | '"' :: text =>
    let text ← skipString (text.length + 1) text
    match skipSpace text with
    | [] => .error .unfinished
    | ':' :: text => return text
    | _ => .error .malformed
  | _ => .error .malformed

/-- Goes on after a value or an opening bracket. `after` says which: only after a value
may a comma follow. Gives the text from the next value on and what it is nested in,
or the text after the outermost value. -/
def leave (after : Bool) : List Enclosure → List Char →
    Except Fault (List Enclosure × List Char)
  | [], text => .ok ([], text)
  | e :: outer, text =>
    match e, skipSpace text with
    | _, [] => .error .unfinished
    | .array, ']' :: text => leave true outer text
    | .object, '}' :: text => leave true outer text
    | .array, c :: text =>
      if after then (if c = ',' then .ok (e :: outer, text) else .error .malformed)
      else .ok (e :: outer, c :: text)
    | .object, c :: text =>
      if after then
        (if c = ',' then (skipKey text).map fun text => (e :: outer, text) else .error .malformed)
      else (skipKey (c :: text)).map fun text => (e :: outer, text)

/-- Skips the value at the front of a text, and all that it is nested in. -/
def skipNested : (fuel : Nat) → List Enclosure → List Char → Except Fault (List Char)
  | 0, _, _ => .error .unfinished
  | fuel + 1, enclosures, text => do
    let (after, enclosures, text) ← match skipSpace text with
      | [] => .error .unfinished
      | 'n' :: text => pure (true, enclosures, ← word ['u', 'l', 'l'] text)
      | 't' :: text => pure (true, enclosures, ← word ['r', 'u', 'e'] text)
      | 'f' :: text => pure (true, enclosures, ← word ['a', 'l', 's', 'e'] text)
      | '"' :: text => pure (true, enclosures, ← skipString (text.length + 1) text)
      | '[' :: text => pure (false, .array :: enclosures, text)
      | '{' :: text => pure (false, .object :: enclosures, text)
      | '-' :: text => pure (true, enclosures, ← skipNumber text)
      | c :: text =>
        if c.isDigit then pure (true, enclosures, ← skipNumber (c :: text)) else .error .malformed
    match ← leave after enclosures text with
    | ([], text) => return text
    | (enclosures, text) => skipNested fuel enclosures text

/-- Skips one value. -/
def skipValue (text : List Char) : Except Fault (List Char) := skipNested (text.length + 1) [] text

end CommentSieve.Json
