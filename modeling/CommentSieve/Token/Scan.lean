import CommentSieve.Text.Blank
import CommentSieve.Token.Comment
import CommentSieve.Token.Literal
import CommentSieve.Token.Options
import CommentSieve.Token.RegexLiteral

/-!
# Splitting a text into tokens

Tokens are read off the front of a text one after the other. The first characters
decide how a token is read; a slash that opens no comment needs the text before
it as well. Reading goes on to the end of the text or until as many tokens as the
ceiling allows have been read.

The loop trusts no reader: where nothing was read it goes on by one character, and
where something was read that is not the front of the text it gives up and makes one
token of everything.
-/

namespace CommentSieve.Scan

open Text

/-! ## Code -/

/-- Whether something other than plain code starts here. -/
def startsConstruct : List Char → Bool
  | [] => false
  | c :: cs =>
    c == '\'' || c == '"' || c == '`' || c == '/' || startsWith Comment.Style.html.opening (c :: cs)

/-- Splits off code up to the next construct or through the next blank. `passed`
holds what was read, last character first. -/
def splitCode (passed : List Char) : List Char → List Char × List Char
  | [] => (passed, [])
  | c :: cs =>
    if startsConstruct (c :: cs) then (passed, c :: cs)
    else if isBlank c then (c :: passed, cs)
    else splitCode (c :: passed) cs

/-- Reads a run of code. Its first character belongs to it whatever it is, and a
blank there is a run of its own. -/
def readCode (c : Char) (cs : List Char) : Reading :=
  if isBlank c then { context := .code, text := [c], rest := cs }
  else
    let (passed, rest) := splitCode [c] cs
    { context := .code, text := passed.reverse, rest }

/-! ## One token -/

/-- Reads the token that starts with `c` at byte `offset`, between the text `before`
it, given last character first, and the text `cs` after `c`. -/
def readToken (form : Escape.Form) (o : Options) (before : List Char) (offset : Nat)
    (c : Char) (cs : List Char) : Reading :=
  let text := c :: cs
  -- A comment wins over a regular expression, which would be empty or start with a star.
  if c = '\'' ∨ c = '"' then Literal.readString form o.maxDepth offset c cs
  else if c = '`' then Literal.readTemplate form o.maxDepth offset cs
  else if startsWith Comment.Style.block.opening text then Comment.read .block offset text
  else if startsWith Comment.lineOpening text then Comment.readLine text
  else if startsWith Comment.Style.html.opening text then Comment.read .html offset text
  else if c = '/' ∧ RegexLiteral.opensAfter o.maxLookback before then RegexLiteral.read offset text
  else readCode c cs

/-! ## All tokens -/

/-- Tokens and findings of a text. -/
structure Result where
  tokens : List Token
  findings : List Finding
  deriving Repr, DecidableEq

/-- A text that is being split. -/
structure State where
  /-- The text already split, last character first. -/
  before : List Char := []
  /-- The byte offset of the rest. -/
  offset : Nat := 0
  rest : List Char
  /-- Newest first. -/
  tokens : List Token := []
  /-- Newest first. -/
  findings : List Finding := []

/-- Moves a reading from the rest to the tokens. -/
def State.take (s : State) (r : Reading) : State :=
  { before := r.text.reverse ++ s.before
    offset := s.offset + byteLength r.text
    rest := r.rest
    tokens := ⟨r.context, r.text, s.offset⟩ :: s.tokens
    findings := r.findings.reverse ++ s.findings }

/-- What was read, in order. -/
def State.result (s : State) : Result := ⟨s.tokens.reverse, s.findings.reverse⟩

/-- The whole text as one token of code, after a reading that is not the front of the
rest. -/
def State.giveUp (s : State) (r : Reading) : Result where
  tokens := [⟨.code, s.before.reverse ++ s.rest, 0⟩]
  findings := s.findings.reverse ++ r.findings ++
    [.offBoundary s.offset (s.offset + byteLength r.text)]

/-- A reading that takes something: the first character `c` if it took nothing. -/
def atLeastOne (offset : Nat) (c : Char) (r : Reading) : Reading :=
  if r.text.isEmpty then { r with text := [c], findings := r.findings ++ [.stalled offset] }
  else r

/-- Reads at most `budget` more tokens; `ceiling` is what the budget was at first. -/
def loop (form : Escape.Form) (o : Options) (ceiling : Nat) : (budget : Nat) → State → Result
  | budget, s =>
    match s.rest with
    | [] => s.result
    | c :: cs =>
      match budget with
      -- Text is left, but no more tokens may be read.
      | 0 => { s with findings := .ceilingReached ceiling s.offset :: s.findings }.result
      | budget + 1 =>
        let r := atLeastOne s.offset c (readToken form o s.before s.offset c cs)
        match stripStart? r.text (c :: cs) with
        | some rest => loop form o ceiling budget (s.take { r with rest })
        | none => s.giveUp r

/-- Splits a text, reading escapes in the given form. -/
def scanWith (form : Escape.Form) (o : Options) (content : List Char) : Result :=
  let ceiling := o.ceiling (byteLength content)
  loop form o ceiling ceiling { rest := content }

/-- Splits a text into tokens. -/
def scan (o : Options) (content : List Char) : Result := scanWith .extended o content

end CommentSieve.Scan
