import CommentSieve.Config.Text
import CommentSieve.Fallback.Strip
import CommentSieve.Token.Tokenizer

/-!
# Removing comments

A text is split into tokens, every comment is classified, and the tokens that are kept
are put together again. If the tokens do not account for the whole text, comments are
found by the pattern of the file's dialect instead; if that is switched off, or there is
no dialect for the file, the text is returned as it was. In no case is anything but a
comment lost.
-/

namespace CommentSieve

/-- What came of one text. -/
structure Removal where
  content : List Char
  /-- Whether the content differs from the text. -/
  modified : Bool
  removed : Nat
  preserved : Nat
  errors : List Diagnostic
  warnings : List String
  /-- The text could not be processed; the content is the text. -/
  failed : Bool
  /-- A severe problem was met, or the tokenizer was not trusted. -/
  degraded : Bool
  usedFallback : Bool
  deriving Repr, DecidableEq

/-- Counts over many removals. -/
structure Summary where
  files : Nat := 0
  modified : Nat := 0
  removed : Nat := 0
  preserved : Nat := 0
  errors : Nat := 0
  warnings : Nat := 0
  degraded : Nat := 0
  fallback : Nat := 0
  failed : Nat := 0
  deriving Repr, DecidableEq

namespace Summary

/-- Adds a removal to the counts. -/
def record (s : Summary) (r : Removal) : Summary where
  files := s.files + 1
  modified := s.modified + r.modified.toNat
  removed := s.removed + r.removed
  preserved := s.preserved + r.preserved
  errors := s.errors + r.errors.length
  warnings := s.warnings + r.warnings.length
  degraded := s.degraded + r.degraded.toNat
  fallback := s.fallback + r.usedFallback.toNat
  failed := s.failed + r.failed.toNat

/-- Whether any text could not be processed. -/
def hasFailures (s : Summary) : Bool := 0 < s.failed

end Summary

/-- A configured remover. -/
structure Remover where
  config : Config
  tokenizer : Tokenizer
  engine : Engine
  deriving Repr, DecidableEq

namespace Remover

/-! ## Building a remover -/

/-- The categories with their switches. -/
def toggles (c : Config.Categories) : List (Rule.Category × Bool) :=
  [(.framework, c.framework), (.tooling, c.tooling), (.documentation, c.documentation),
    (.development, c.development)]

/-- Adds a rule for each text to keep; the first is called `keep-pattern-1`. -/
def addKept (priority : Int) : (number : Nat) → List String → Engine → Except Rule.Refusal Engine
  | _, [], e => .ok e
  | number, text :: more, e => do
    let e ← e.addLiteral ("keep-pattern-" ++ toString number) text priority
    addKept priority (number + 1) more e

/-- Adds the user's rules. -/
def addCustom (priority : Int) : List Config.CustomRule → Engine → Except Rule.Refusal Engine
  | [], e => .ok e
  | rule :: more, e => do
    let e ← e.addCustom rule.name rule.pattern (rule.priority.getD priority)
    addCustom priority more e

/-- The engine that a configuration asks for. -/
def engineFor (c : Config) : Except Rule.Refusal Engine := do
  let e := (toggles c.categories).foldl
    (fun e (category, enabled) => e.setEnabled category enabled) Engine.default
  let e ← addKept c.customPriority 1 c.keepPatterns e
  addCustom c.customPriority c.customRules e

/-- A remover for a configuration. -/
def make (config : Config) : Except Rule.Refusal Remover := do
  return { config, tokenizer := .new config.options, engine := ← engineFor config }

/-! ## Processing a text -/

/-- The result for a text that is left as it was. -/
def unmodified (content : List Char) (errors : List Diagnostic) (warnings : List String) :
    Removal where
  content
  modified := false
  removed := 0
  preserved := 0
  errors
  warnings
  failed := true
  degraded := true
  usedFallback := false

/-- Whether a token goes into the output. -/
def keepsToken (e : Engine) (t : Token) : Bool := !t.isComment || (e.classify t.text).keep

/-- Puts the tokens that are kept together. -/
def reassemble (e : Engine) (content : List Char) (tokens : List Token) (log : Log) : Removal :=
  let judged := tokens.map fun t => (t, keepsToken e t)
  let output := (judged.filter (·.2)).flatMap (·.1.text)
  { content := output
    modified := output != content
    removed := judged.countP fun (_, kept) => !kept
    preserved := judged.countP fun (t, kept) => t.isComment && kept
    errors := log.errors
    warnings := log.warnings
    failed := false
    degraded := log.errors.any (·.isDegrading)
    usedFallback := false }

/-- Finds comments by the pattern of the dialect for an extension. -/
def fallBack (r : Remover) (content : List Char) (extension : String) (log : Log) : Removal :=
  if !r.config.fallback then
    unmodified content log.errors
      (log.warnings ++ ["Fallback disabled; content left unmodified"])
  else
    match Dialect.ofExtension extension with
    | .error unsupported =>
      let problem : Diagnostic := {
        category := .fileProcessing
        severity := .critical
        message := unsupported.message
        recovery := some "content left unmodified" }
      unmodified content (log.errors ++ [problem]) log.warnings
    | .ok dialect =>
      let s := Fallback.strip dialect r.engine content
      { content := s.content
        modified := s.content != content
        removed := s.removed
        preserved := s.preserved
        errors := log.errors
        warnings := log.warnings ++ ["Processed with " ++ dialect.name ++ " fallback stripper"]
        failed := false
        degraded := true
        usedFallback := true }

/-- Removes comments from a text. The extension only matters where the tokens are not
trusted. -/
def process (r : Remover) (content : List Char) (extension : String) : Removal × Remover :=
  let (tokens, tokenizer) := r.tokenizer.clear.tokenize content
  let length := Text.byteLength content
  let (complete, log) :=
    tokenizer.log.validate length (Token.totalLength tokens) tokens.length
  -- The entries of the log leave with the result.
  let r := { r with tokenizer := { tokenizer with log := log.clear } }
  if Coverage.covers 0 length tokens && complete && !log.hasCritical then
    (reassemble r.engine content tokens log, r)
  else (r.fallBack content extension log, r)

end Remover

end CommentSieve
