import CommentSieve.Diagnostic.Location

/-!
# Diagnostics

What is recorded when a text is malformed or a run cannot be trusted: the part of
the work concerned, how bad it is, a message, and as much about the place as is
known.
-/

namespace CommentSieve

namespace Diagnostic

/-- The part of the work a diagnostic is about. -/
inductive Category
  | parsing
  | tokenization
  | regex
  | stringHandling
  | templateLiteral
  | commentDetection
  | preservation
  | fileProcessing
  deriving Repr, DecidableEq

/-- How bad a problem is; from `high` on, the result as a whole is degraded. -/
inductive Severity
  | low
  | medium
  | high
  | critical
  deriving Repr, DecidableEq

namespace Category

/-- All categories, in declaration order. -/
def all : List Category :=
  [parsing, tokenization, regex, stringHandling, templateLiteral, commentDetection,
    preservation, fileProcessing]

/-- The name under which a category is shown. -/
def name : Category → String
  | parsing => "Parsing"
  | tokenization => "Tokenization"
  | regex => "Regex"
  | stringHandling => "StringHandling"
  | templateLiteral => "TemplateLiteral"
  | commentDetection => "CommentDetection"
  | preservation => "Preservation"
  | fileProcessing => "FileProcessing"

/-- The category with exactly this name. -/
def ofName? (text : String) : Option Category := all.find? (·.name == text)

end Category

namespace Severity

/-- All severities, mildest first. -/
def all : List Severity := [low, medium, high, critical]

/-- Severities as numbers, so that worse is greater. -/
def rank : Severity → Nat
  | low => 0
  | medium => 1
  | high => 2
  | critical => 3

/-- The name under which a severity is shown. -/
def name : Severity → String
  | low => "Low"
  | medium => "Medium"
  | high => "High"
  | critical => "Critical"

/-- The severity with exactly this name. -/
def ofName? (text : String) : Option Severity := all.find? (·.name == text)

/-- The worse of two severities. -/
def worse (a b : Severity) : Severity := if a.rank < b.rank then b else a

end Severity

end Diagnostic

/-- One problem met while reading or processing a text. -/
structure Diagnostic where
  category : Diagnostic.Category
  severity : Diagnostic.Severity
  message : String
  /-- Byte offset of the problem. -/
  position : Option Nat := none
  location : Option Location := none
  /-- The text around the problem. -/
  snippet : Option String := none
  /-- What was done about it. -/
  recovery : Option String := none
  deriving Repr, DecidableEq

namespace Diagnostic

/-- Nothing produced after such a problem can be used. -/
def isCritical (d : Diagnostic) : Bool := d.severity == .critical

/-- The result is usable but not fully trusted. -/
def isDegrading (d : Diagnostic) : Bool := Severity.high.rank ≤ d.severity.rank

/-- Category, severity and message on one line. -/
def summary (d : Diagnostic) : String :=
  "[" ++ d.category.name ++ "/" ++ d.severity.name ++ "] " ++ d.message

/-- The place of a problem: line and column if known, else the byte offset. -/
def place (d : Diagnostic) : String :=
  match d.location, d.position with
  | some l, _ => " at " ++ toString l.line ++ ":" ++ toString l.column
  | none, some p => " at offset " ++ toString p
  | none, none => ""

/-- The summary followed by the place and by what was done. -/
def detailed (d : Diagnostic) : String :=
  let action := match d.recovery with
    | some action => " (recovery: " ++ action ++ ")"
    | none => ""
  d.summary ++ d.place ++ action

end Diagnostic

end CommentSieve
