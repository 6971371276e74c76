import CommentSieve.Pattern.Read

/-!
# Comment dialects

Where the tokenizer cannot be trusted, comments are found by a pattern that knows
only quoted texts and the comments of a dialect. The file extension chooses the
dialect.
-/

namespace CommentSieve

/-- A way to write comments. -/
inductive Dialect
  /-- `//` and `/* */`. -/
  | cStyle
  /-- `<!-- -->`, and C-style comments inside scripts and styles. -/
  | markup
  /-- `#`. -/
  | hash
  deriving Repr, DecidableEq

namespace Dialect

/-- The name of a dialect. -/
def name : Dialect → String
  | cStyle => "cstyle"
  | markup => "markup"
  | hash => "hash"

/-- An extension for which no dialect is known. -/
structure Unsupported where
  extension : String
  deriving Repr, DecidableEq

/-- The words for an unknown extension. -/
def Unsupported.message (u : Unsupported) : String :=
  "No comment dialect known for extension: " ++ u.extension

/-- The extensions of a dialect, in lower case and without a dot. -/
def extensions : Dialect → List String
  | cStyle => ["js", "jsx", "ts", "tsx", "mjs", "cjs", "mts", "cts"]
  | markup => ["vue", "svelte", "html", "htm", "xml"]
  | hash => ["sh", "bash", "py", "rb", "yml", "yaml", "toml", "pl", "r"]

/-- The dialect for a file extension. Leading dots and the case of ASCII letters do
not matter. -/
def ofExtension (extension : String) : Except Unsupported Dialect :=
  let normal := (extension.toList.dropWhile (· == '.')).map Char.toLower
  match [cStyle, markup, hash].find? fun d => d.extensions.any (·.toList == normal) with
  | some dialect => .ok dialect
  | none => .error ⟨extension⟩

/-! ## Patterns -/

/-- Texts in double or single quotes, on one line unless a backslash hides its end. -/
def quotedSource : String := "\"(?:[^\"\\\\\\n]|\\\\[\\s\\S])*\"|'(?:[^'\\\\\\n]|\\\\[\\s\\S])*'"

/-- Texts in back-ticks. -/
def templateSource : String := r"`(?:[^`\\]|\\[\s\S])*`"

/-- C-style comments. -/
def cCommentSource : String := r"/\*[\s\S]*?\*/|//[^\n]*"

/-- The pattern of a dialect: quoted texts are named `string`, comments `comment`. -/
def source : Dialect → String
  | cStyle =>
    "(?P<string>" ++ quotedSource ++ "|" ++ templateSource ++ ")|(?P<comment>" ++
      cCommentSource ++ ")"
  | markup =>
    "(?P<string>" ++ quotedSource ++ "|" ++ templateSource ++ ")|(?P<comment>" ++
      r"<!--[\s\S]*?-->|" ++ cCommentSource ++ ")"
  | hash => "(?P<string>" ++ quotedSource ++ ")|(?P<comment>" ++ r"#[^\n]*" ++ ")"

/-- The pattern that the source of a dialect stands for. -/
def pattern (d : Dialect) : Pattern :=
  match Pattern.read false d.source.toList with
  | .ok pattern => pattern
  | .error _ => .never

end Dialect

end CommentSieve
