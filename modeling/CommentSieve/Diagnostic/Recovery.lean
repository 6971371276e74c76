import CommentSieve.Diagnostic.Log
import CommentSieve.Text.Blank
import CommentSieve.Text.Search

/-!
# Recovery from malformed constructs

Given a malformed construct that starts at some offset, recovery picks the place
where reading could go on, by a fixed rule for each category, and names the rule
it used.
-/

namespace CommentSieve

namespace Recovery

open Text

/-- The rule by which a place to go on was picked. -/
inductive Strategy
  | closeString (quote : Char)
  | endStringAtLine
  | endStringAtEnd
  | closeTemplate
  | endTemplateAtQuote
  | endTemplateAtEnd
  | closeRegex
  | endRegexAtDelimiter
  | endRegexAtEnd
  | endCommentAt (terminator : String)
  | endCommentAtEnd
  | skipCharacter
  deriving Repr, DecidableEq

/-- The words for a rule. A comment's terminator is shown in quotes, a line feed
as its escape. -/
def Strategy.describe : Strategy → String
  | closeString quote => "closed string at next " ++ quote.toString ++ " quote"
  | endStringAtLine => "ended string at next line break"
  | endStringAtEnd => "ended string at end of input"
  | closeTemplate => "closed template at next back-tick"
  | endTemplateAtQuote => "ended template at next quote"
  | endTemplateAtEnd => "ended template at end of input"
  | closeRegex => "closed regex at next unescaped slash"
  | endRegexAtDelimiter => "ended regex at next delimiter"
  | endRegexAtEnd => "ended regex at end of input"
  | endCommentAt terminator =>
    "ended comment at \"" ++ (if terminator == "\n" then "\\n" else terminator) ++ "\""
  | endCommentAtEnd => "ended comment at end of input"
  | skipCharacter => "skipped one character"

/-- A place to go on, as a number of bytes after the start of the construct. -/
structure Plan where
  advance : Nat
  strategy : Strategy
  deriving Repr, DecidableEq

/-! ## The rule for each category

Each rule sees the text from the start of the construct on. The character it
starts with is never searched again. -/

/-- The bytes of the first character. -/
def firstSize : List Char → Nat
  | [] => 0
  | c :: _ => c.utf8Size

/-- After the next quote of the same kind, else at the line end, else at the end. -/
def planString (text : List Char) : Plan :=
  let opening := firstSize text
  let body := text.drop 1
  let close : Option (Char × List Char) := match text.head? with
    | some quote =>
      if quote = '"' ∨ quote = '\'' then
        (splitBefore? (· == quote) body).map fun pieces => (quote, pieces.1)
      else none
    | none => none
  -- Without a quote in front there is nothing to close.
  match close with
  | some (quote, before) =>
    ⟨opening + byteLength before + quote.utf8Size, .closeString quote⟩
  | none =>
    match splitBefore? (· == '\n') body with
    | some (before, _) => ⟨opening + byteLength before, .endStringAtLine⟩
    | none => ⟨byteLength text, .endStringAtEnd⟩

/-- After the next back-tick, else at the next quote, else at the end. -/
def planTemplate (text : List Char) : Plan :=
  let opening := firstSize text
  let body := text.drop 1
  match splitBefore? (· == '`') body with
  | some (before, _) => ⟨opening + byteLength before + 1, .closeTemplate⟩
  | none =>
    match splitBefore? (fun c => c == '"' || c == '\'') body with
    | some (before, _) => ⟨opening + byteLength before, .endTemplateAtQuote⟩
    | none => ⟨byteLength text, .endTemplateAtEnd⟩

/-- The bytes up to and including the first slash that no backslash escapes. -/
def unescapedSlash? (seen : Nat) : List Char → Option Nat
  | [] => none
  | '\\' :: [] => none
  | '\\' :: c :: cs => unescapedSlash? (seen + 1 + c.utf8Size) cs
  | c :: cs => if c = '/' then some (seen + 1) else unescapedSlash? (seen + c.utf8Size) cs

/-- Characters at which a broken regular expression is taken to end. -/
def endsRegex (c : Char) : Bool := isBlank c || c == ';' || c == ',' || c == ')' || c == '}'

/-- After the next unescaped slash, else at the next delimiter, else at the end. -/
def planRegex (text : List Char) : Plan :=
  let opening := firstSize text
  let body := text.drop 1
  match unescapedSlash? opening body with
  | some advance => ⟨advance, .closeRegex⟩
  | none =>
    match splitBefore? endsRegex body with
    | some (before, _) => ⟨opening + byteLength before, .endRegexAtDelimiter⟩
    | none => ⟨byteLength text, .endRegexAtEnd⟩

/-- A way to write comments, with what ends it and whether the end belongs to it. -/
structure CommentShape where
  opener : String
  terminator : String
  includesTerminator : Bool

/-- The three ways to write comments. -/
def commentShapes : List CommentShape :=
  [⟨"/*", "*/", true⟩, ⟨"<!--", "-->", true⟩, ⟨"//", "\n", false⟩]

/-- Past the terminator of the comment that starts here, before the line feed of
a line comment, else at the end. -/
def planComment (text : List Char) : Plan :=
  let atEnd : Plan := ⟨byteLength text, .endCommentAtEnd⟩
  match commentShapes.find? fun shape => startsWith shape.opener.toList text with
  | none => atEnd
  | some shape =>
    match splitAround? shape.terminator.toList (text.drop shape.opener.length) with
    | none => atEnd
    | some (body, _) =>
      let stop := byteLength shape.opener.toList + byteLength body
      let stop :=
        if shape.includesTerminator then stop + byteLength shape.terminator.toList else stop
      ⟨stop, .endCommentAt shape.terminator⟩

/-- The plan for a construct of the given category. -/
def plan (category : Diagnostic.Category) (text : List Char) : Plan :=
  match category with
  | .stringHandling => planString text
  | .templateLiteral => planTemplate text
  | .regex => planRegex text
  | .commentDetection => planComment text
  | _ => ⟨firstSize text, .skipCharacter⟩

/-! ## Outcomes -/

/-- What came of a recovery. -/
inductive Outcome
  /-- Recovery is switched off; the problem stands. -/
  | declined (problem : Diagnostic)
  /-- Reading can go on at the byte offset `resume`. -/
  | resumed (resume : Nat) (strategy : Strategy)
  deriving Repr, DecidableEq

namespace Outcome

/-- The rule that was used. -/
def strategy? : Outcome → Option Strategy
  | declined _ => none
  | resumed _ strategy => some strategy

/-- The byte offset at which reading can go on. -/
def resume? : Outcome → Option Nat
  | declined _ => none
  | resumed resume _ => some resume

/-- Whether the end of the construct was guessed, and not just one character
skipped. -/
def usedGuess : Outcome → Bool
  | declined _ => false
  | resumed _ strategy => strategy != .skipCharacter

/-- Problems that recovery did not solve. -/
def errors : Outcome → List Diagnostic
  | declined problem => [problem]
  | resumed _ _ => []

/-- What to warn about: every guess, named. -/
def warnings (outcome : Outcome) : List String :=
  match outcome with
  | declined _ => []
  | resumed _ strategy =>
    if outcome.usedGuess then ["Recovery: " ++ strategy.describe] else []

end Outcome

/-- Tries to recover from `problem`, met at a byte offset of `content`. An offset
inside a character counts as the start of that character, one past the end as the
end. -/
def attempt (log : Log) (problem : Diagnostic) (content : List Char) (position : Nat) : Outcome :=
  if log.recover then
    let pieces := cut content position
    let plan := plan problem.category pieces.2
    .resumed (byteLength pieces.1 + plan.advance) plan.strategy
  else .declined problem

end Recovery

end CommentSieve
