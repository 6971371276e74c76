import CommentSieve.Diagnostic.Recovery
import CommentSieve.Diagnostic.Snippet
import CommentSieve.Token.Coverage
import CommentSieve.Token.Scan

/-!
# The tokenizer

A tokenizer can be used for one text after another. It keeps its options and a
log to which every text adds; the line index always belongs to the last text.
-/

namespace CommentSieve

/-- A tokenizer between two texts. -/
structure Tokenizer where
  options : Options
  log : Log
  lines : LineIndex
  deriving Repr, DecidableEq

namespace Tokenizer

/-- A tokenizer with an empty log. -/
def new (options : Options) : Tokenizer :=
  { options, log := { recover := options.recover }, lines := {} }

/-- Empties the log. -/
def clear (t : Tokenizer) : Tokenizer := { t with log := t.log.clear }

/-! ## From findings to the log -/

/-- A diagnostic with its place in the text. -/
def located (t : Tokenizer) (content : List Char) (category : Diagnostic.Category)
    (severity : Diagnostic.Severity) (message : String) (position : Nat) :
    Diagnostic × Tokenizer :=
  let (location, lines) := t.lines.locate content position
  let diagnostic := {
    category, severity, message
    position := some position
    location := some location
    snippet := some (Snippet.around content position t.options.snippetRadius) }
  (diagnostic, { t with lines })

/-- Records a diagnostic. -/
def record (t : Tokenizer) (d : Diagnostic) : Tokenizer := { t with log := t.log.record d }

/-- Records a warning. -/
def warn (t : Tokenizer) (message : String) : Tokenizer := { t with log := t.log.warn message }

/-- Records an unfinished construct together with the recovery from it. -/
def reportMalformed (t : Tokenizer) (content : List Char) (what : Malformed) (position : Nat) :
    Tokenizer :=
  let (diagnostic, t) := t.located content what.category .medium what.message position
  -- Recovery only describes: the token has been read already.
  let outcome := Recovery.attempt t.log diagnostic content position
  let t := outcome.warnings.foldl warn t
  t.record { diagnostic with recovery := outcome.strategy?.map (·.describe) }

/-- Records one finding. -/
def note (t : Tokenizer) (content : List Char) : Finding → Tokenizer
  | .depthExceeded limit offset =>
    let message := "Context depth limit of " ++ toString limit ++
      " exceeded; nested literal read as plain content"
    let (diagnostic, t) := t.located content .templateLiteral .medium message offset
    t.record diagnostic
  | .brokenNested offset =>
    t.warn ("Unterminated string inside template interpolation at offset " ++ toString offset)
  | .unwound count =>
    t.warn ("Context stack unwound by " ++ toString count ++ " frame(s) at end of input")
  | .malformed what offset => t.reportMalformed content what offset
  | .ceilingReached limit offset =>
    let message := "Iteration ceiling of " ++ toString limit ++ " reached; scanning stopped"
    let (diagnostic, t) := t.located content .tokenization .high message offset
    t.record diagnostic
  | .stalled offset =>
    let message := "Scanner made no progress; forced advancement by one character"
    let (diagnostic, t) := t.located content .tokenization .medium message offset
    t.record { diagnostic with recovery := some "forced advancement" }
  | .offBoundary start stop =>
    let message := "token boundary " ++ toString start ++ ".." ++ toString stop ++
      " does not fall on a character boundary"
    t.record {
      category := .tokenization, severity := .critical, message
      recovery := some "degraded to a single code token" }

/-- Records a failure of the tokens to cover their text. -/
def noteViolation (t : Tokenizer) (violation : Coverage.Violation) : Tokenizer :=
  t.record { category := .tokenization, severity := .medium, message := violation.message }

/-! ## Tokenizing -/

/-- Splits a text, reading escapes in the given form, and logs what was found. -/
def tokenizeWith (form : Escape.Form) (t : Tokenizer) (content : List Char) :
    List Token × Tokenizer :=
  let result := Scan.scanWith form t.options content
  let t := result.findings.foldl (note · content) { t with lines := {} }
  let violations := Coverage.violations result.tokens (Text.byteLength content)
  (result.tokens, violations.foldl noteViolation t)

/-- Splits a text into tokens and logs what was found. -/
def tokenize (t : Tokenizer) (content : List Char) : List Token × Tokenizer :=
  tokenizeWith .extended t content

end Tokenizer

end CommentSieve
