import CommentSieve.Text.Utf8

/-!
# Tokens

A text is split into labelled pieces. The label says how the piece was read; it
fixes the kind of the token and carries what is known about it: the quote of a
string, the interpolation depth of a template.
-/

namespace CommentSieve

/-- How characters are being read. -/
inductive Context
  | code
  | string (quote : Char)
  /-- For a literal being read, the number of open braces in the current
  interpolation, zero in template text. For a token, the deepest nesting of
  interpolations inside it. -/
  | template (interpolation : Nat)
  | regex
  | comment
  deriving Repr, DecidableEq

namespace Context

/-- Strings and templates, which can be nested in each other. -/
def isLiteral : Context → Bool
  | string _ | template _ => true
  | code | regex | comment => false

/-- A template whose interpolation is open. -/
def interpolates : Context → Bool
  | template (_ + 1) => true
  | _ => false

end Context

namespace Token

/-- The kinds of token. -/
inductive Kind
  | string
  | template
  | regex
  | comment
  | code
  deriving Repr, DecidableEq

end Token

/-- The kind of a token read in a context. -/
def Context.kind : Context → Token.Kind
  | code => .code
  | string _ => .string
  | template _ => .template
  | regex => .regex
  | comment => .comment

/-- A piece of the input, with the byte offset at which it starts. -/
structure Token where
  context : Context
  text : List Char
  start : Nat
  deriving Repr, DecidableEq

namespace Token

/-- The kind of a token. -/
def kind (t : Token) : Kind := t.context.kind

/-- The number of bytes of a token. -/
def length (t : Token) : Nat := Text.byteLength t.text

/-- The byte offset just after a token. -/
def stop (t : Token) : Nat := t.start + t.length

/-- The number of bytes of all tokens. -/
def totalLength (tokens : List Token) : Nat := tokens.foldr (fun t n => t.length + n) 0

/-- Whether a token is a comment. -/
def isComment (t : Token) : Bool := t.kind == .comment

end Token

end CommentSieve
