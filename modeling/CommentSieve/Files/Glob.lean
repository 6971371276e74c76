import CommentSieve.Files.Path

/-!
# Wildcard patterns

`?` stands for any character, `*` for any characters, `[…]` for one of several and
`[!…]` for none of them. `**` stands for any directories and has to be a whole part of
a path. A pattern matches a whole text; slashes are characters like any other.
-/

namespace CommentSieve.Files.Glob

/-! ## Patterns -/

/-- Characters listed in brackets: one, or a range. -/
structure Span where
  first : Char
  last : Char
  deriving Repr, DecidableEq

/-- What a pattern consists of. -/
inductive Token
  | char (c : Char)
  | anyChar
  | anySequence
  | anyDirectories
  | within (spans : List Span)
  | except (spans : List Span)
  deriving Repr, DecidableEq

/-- What can be wrong with a pattern. -/
inductive Mistake
  | wildcards
  | recursive
  | range
  deriving Repr, DecidableEq

/-- A mistake and the index of the character near it. -/
structure Misread where
  index : Nat
  mistake : Mistake
  deriving Repr, DecidableEq

/-- The words for a mistake. -/
def Mistake.message : Mistake → String
  | wildcards => "wildcards are either regular `*` or recursive `**`"
  | recursive => "recursive wildcards must form a single path component"
  | range => "invalid range pattern"

/-- The words for a mistake and its place. -/
def Misread.message (e : Misread) : String :=
  "Pattern syntax error near position " ++ toString e.index ++ ": " ++ e.mistake.message

/-- Reads the characters listed in brackets. -/
def spans : List Char → List Span
  | first :: '-' :: last :: cs => ⟨first, last⟩ :: spans cs
  | c :: cs => ⟨c, c⟩ :: spans cs
  | [] => []

/-- Splits a list in brackets, given from after the bracket and the exclamation mark, off
a text. The first character belongs to the list whatever it is. -/
def splitBrackets? : List Char → Option (List Char × List Char)
  | [] => none
  | first :: cs =>
    match cs.dropWhile (· != ']') with
    | [] => none
    | _ :: rest => some (first :: cs.takeWhile (· != ']'), rest)

/-- Reads a pattern from `index` on, after the character `before`. `read` holds the tokens
so far, last first. Each step uses up a character, so that `fuel` need only exceed the
length of the text. -/
def tokensFrom (read : List Token) (index : Nat) (before : Option Char) : (fuel : Nat) →
    List Char → Except Misread (List Token)
  | 0, _ => .ok read.reverse
  | _ + 1, [] => .ok read.reverse
  | fuel + 1, '?' :: cs => tokensFrom (.anyChar :: read) (index + 1) (some '?') fuel cs
  | fuel + 1, '*' :: cs =>
    let stars := 1 + (cs.takeWhile (· == '*')).length
    let rest := cs.dropWhile (· == '*')
    -- The index of a mistake points before, into or after the stars, by its kind.
    if stars = 1 then tokensFrom (.anySequence :: read) (index + 1) (some '*') fuel rest
    else if 2 < stars then .error ⟨index + 2, .wildcards⟩
    else if before != none && before != some '/' then .error ⟨index - 1, .recursive⟩
    else match rest with
      | [] => tokensFrom (.anyDirectories :: read) (index + 2) (some '*') fuel []
      | '/' :: rest => tokensFrom (.anyDirectories :: read) (index + 3) (some '/') fuel rest
      | _ => .error ⟨index + 2, .recursive⟩
  | fuel + 1, '[' :: '!' :: cs =>
    match splitBrackets? cs with
    | some (listed, rest) =>
      tokensFrom (.except (spans listed) :: read) (index + listed.length + 3) (some ']') fuel rest
    | none => .error ⟨index, .range⟩
  | fuel + 1, '[' :: cs =>
    match splitBrackets? cs with
    | some (listed, rest) =>
      tokensFrom (.within (spans listed) :: read) (index + listed.length + 2) (some ']') fuel rest
    | none => .error ⟨index, .range⟩
  | fuel + 1, c :: cs => tokensFrom (.char c :: read) (index + 1) (some c) fuel cs

/-- Reads a pattern. -/
def tokens (text : List Char) : Except Misread (List Token) :=
  tokensFrom [] 0 none (text.length + 1) text

/-! ## Matching -/

/-- How a text compares with a pattern. -/
inductive Verdict
  | hit
  | miss
  /-- The text is too short, so that no part of it can match either. -/
  | tooShort
  deriving Repr, DecidableEq

/-- Whether a character is listed. -/
def listed (spans : List Span) (c : Char) : Bool := spans.any fun s => s.first ≤ c && c ≤ s.last

/-- The first verdict but a miss on a text and what is left of it after each of its
characters. -/
def anywhere (judge : List Char → Verdict) : List Char → Verdict
  | [] => judge []
  | c :: cs =>
    match judge (c :: cs) with
    | .miss => anywhere judge cs
    | verdict => verdict

/-- The first verdict but a miss on what is left of a text after each of its slashes, and
at its end. -/
def afterSlashes (judge : List Char → Verdict) : List Char → Verdict
  | [] => judge []
  | c :: cs =>
    if c = '/' then
      match judge cs with
      | .miss => afterSlashes judge cs
      | verdict => verdict
    else afterSlashes judge cs

/-- Compares a text with a pattern. -/
def judge : List Token → List Char → Verdict
  | [], [] => .hit
  | [], _ :: _ => .miss
  | .anySequence :: ts, cs => anywhere (judge ts) cs
  | .anyDirectories :: ts, cs =>
    match judge ts cs with
    | .miss => afterSlashes (judge ts) cs
    | verdict => verdict
  | .char _ :: _, [] | .anyChar :: _, [] | .within _ :: _, [] | .except _ :: _, [] => .tooShort
  | .char d :: ts, c :: cs => if c = d then judge ts cs else .miss
  | .anyChar :: ts, _ :: cs => judge ts cs
  | .within spans :: ts, c :: cs => if listed spans c then judge ts cs else .miss
  | .except spans :: ts, c :: cs => if listed spans c then .miss else judge ts cs

/-- Whether a pattern matches a text. -/
def isMatch (tokens : List Token) (text : List Char) : Bool := judge tokens text == .hit

/-- The text that a pattern without wildcards stands for. -/
def plainText? : List Token → Option (List Char)
  | [] => some []
  | .char c :: ts => (plainText? ts).map (c :: ·)
  | _ => none

end CommentSieve.Files.Glob
