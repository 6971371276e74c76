import CommentSieve.Diagnostic.Basic
import CommentSieve.Double

/-!
# The log of a run

Diagnostics and plain warnings, each in the order in which they were recorded,
and the final check that a run has accounted for its input.
-/

namespace CommentSieve

/-- What has been recorded so far. `recover` says whether malformed constructs
are described together with the way scanning goes on after them. -/
structure Log where
  recover : Bool := true
  errors : List Diagnostic := []
  warnings : List String := []
  deriving Repr, DecidableEq

namespace Log

/-- Adds a diagnostic at the end. -/
def record (log : Log) (d : Diagnostic) : Log := { log with errors := log.errors ++ [d] }

/-- Adds a warning at the end. -/
def warn (log : Log) (message : String) : Log :=
  { log with warnings := log.warnings ++ [message] }

/-- Forgets all entries. -/
def clear (log : Log) : Log := { log with errors := [], warnings := [] }

/-- Whether any diagnostic is critical. -/
def hasCritical (log : Log) : Bool := log.errors.any (·.isCritical)

/-- The worst severity recorded. -/
def worst? (log : Log) : Option Diagnostic.Severity :=
  match log.errors with
  | [] => none
  | d :: ds => some (ds.foldl (fun worst d => worst.worse d.severity) d.severity)

/-- The diagnostics of one category. -/
def ofCategory (log : Log) (category : Diagnostic.Category) : List Diagnostic :=
  log.errors.filter (·.category == category)

/-! ## Completeness of a run -/

/-- What is wrong with a run that turned `length` bytes into `tokens` tokens of
`processed` bytes, if anything is: no tokens at all for a text that is not
empty, or a length that is off by more than half of the text. Lengths are compared
as doubles. -/
def incompleteness? (length processed tokens : Nat) : Option Diagnostic :=
  if length > 0 ∧ tokens = 0 then
    some {
      category := .parsing, severity := .critical
      message := "No tokens produced for " ++ toString length ++ " bytes of input" }
  else
    let drift := (length - processed) + (processed - length)
    if 2 * Double.round drift > Double.round length then
      some {
        category := .parsing, severity := .high
        message := "Processed length " ++ toString processed ++
          " differs from original length " ++ toString length ++ " by more than half" }
    else none

/-- Checks that a run is complete, and records the problem if it is not. -/
def validate (log : Log) (length processed tokens : Nat) : Bool × Log :=
  match incompleteness? length processed tokens with
  | some d => (false, log.record d)
  | none => (true, log)

end Log

end CommentSieve
