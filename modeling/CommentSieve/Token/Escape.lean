import CommentSieve.Token.Reading

/-!
# Escape sequences

A backslash escapes the character after it. Three forms take more: `\xHH` up to
two hexadecimal digits, `\uHHHH` up to four, and `\u{H…}` any number and, if
there is one, the closing brace. Escapes are only skipped, never interpreted.

Main result:

* `length_after_le` — an escape leaves no more text than it was given.
-/

namespace CommentSieve.Escape

/-- Which characters an escape takes. -/
inductive Form
  /-- The three long forms are taken whole. -/
  | extended
  /-- An escape is always the backslash and one character. -/
  | single
  deriving Repr, DecidableEq

/-- A digit of a hexadecimal number. -/
def isHex (c : Char) : Bool := c.isDigit || ('a' ≤ c && c ≤ 'f') || ('A' ≤ c && c ≤ 'F')

/-- Splits up to `limit` hexadecimal digits off a text. -/
def splitHex : (limit : Nat) → List Char → List Char × List Char
  | 0, cs => ([], cs)
  | _ + 1, [] => ([], [])
  | limit + 1, c :: cs =>
    if isHex c then
      let pieces := splitHex limit cs
      (c :: pieces.1, pieces.2)
    else ([], c :: cs)

/-- The part of `\u{…}` after the opening brace. -/
def splitBraced (cs : List Char) : List Char × List Char :=
  let digits := cs.takeWhile isHex
  match cs.dropWhile isHex with
  | '}' :: rest => (digits ++ ['}'], rest)
  | rest => (digits, rest)

/-- Splits the text after a backslash into what the escape takes and the rest. -/
def split (form : Form) : List Char → List Char × List Char
  | [] => ([], [])
  | c :: cs =>
    match form, c, cs with
    | .extended, 'x', cs => let pieces := splitHex 2 cs; ('x' :: pieces.1, pieces.2)
    | .extended, 'u', '{' :: cs => let pieces := splitBraced cs; ('u' :: '{' :: pieces.1, pieces.2)
    | .extended, 'u', cs => let pieces := splitHex 4 cs; ('u' :: pieces.1, pieces.2)
    | _, c, cs => ([c], cs)

/-- The text after an escape, given the text after its backslash. -/
def after (form : Form) (cs : List Char) : List Char := (split form cs).2

/-- Recognises one escape, backslash included. A backslash at the very end of a
text escapes nothing. -/
def recognise : List Char → Recognised
  | '\\' :: [] =>
    .error [⟨1, .anyCharacter⟩, ⟨1, .alternative⟩, ⟨0, .construct "escape sequence"⟩]
  | '\\' :: cs => let pieces := split .extended cs; .ok ('\\' :: pieces.1, pieces.2)
  | _ => .error [⟨0, .character '\\'⟩, ⟨0, .construct "escape sequence"⟩]

/-! ## Nothing is lost -/

/-- Splitting off hexadecimal digits loses nothing. -/
theorem splitHex_append (limit : Nat) (cs : List Char) :
    (splitHex limit cs).1 ++ (splitHex limit cs).2 = cs := by
  fun_induction splitHex limit cs with
  | case1 => rfl
  | case2 => rfl
  | case3 limit c cs hex pieces ih => simpa using ih
  | case4 => rfl

/-- Splitting off a braced group loses nothing. -/
theorem splitBraced_append (cs : List Char) :
    (splitBraced cs).1 ++ (splitBraced cs).2 = cs := by
  have h := List.takeWhile_append_dropWhile (p := isHex) (l := cs)
  simp only [splitBraced]
  split
  · rename_i rest hrest
    rw [hrest] at h
    simpa using h
  · exact h

/-- Splitting off an escape loses nothing. -/
theorem split_append (form : Form) (cs : List Char) :
    (split form cs).1 ++ (split form cs).2 = cs := by
  cases cs with
  | nil => rfl
  | cons c cs =>
    simp only [split]
    split
    · simp [splitHex_append]
    · simp [splitBraced_append]
    · simp [splitHex_append]
    · rfl

/-- What follows an escape is not longer than the text. -/
theorem length_after_le (form : Form) (cs : List Char) : (after form cs).length ≤ cs.length := by
  have h := congrArg List.length (split_append form cs)
  simp only [List.length_append] at h
  simp only [after]
  omega

end CommentSieve.Escape
