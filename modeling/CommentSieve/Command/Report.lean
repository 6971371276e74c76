import CommentSieve.Json.Value
import CommentSieve.Remover

/-!
# Reports

What the program prints: a line of JSON for each file, or a line of text for all.
-/

namespace CommentSieve.Command

open Json (Value)

/-- A field that is left out if there is nothing to say. -/
def optionalField {α : Type} (name : String) (write : α → Value) : Option α → List (String × Value)
  | some a => [(name, write a)]
  | none => []

/-- A diagnostic as JSON. -/
def diagnosticValue (d : Diagnostic) : Value :=
  .object <|
    [("category", .string d.category.name), ("severity", .string d.severity.name),
      ("message", .string d.message)] ++
    optionalField "position" (fun n : Nat => .int n) d.position ++
    optionalField "line" (fun l : Location => .int l.line) d.location ++
    optionalField "column" (fun l : Location => .int l.column) d.location ++
    optionalField "context" .string d.snippet ++
    optionalField "recovery_action" .string d.recovery

/-- What came of a file, as JSON. -/
def removalValue (path : String) (r : Removal) : Value :=
  .object [("path", .string path), ("modified", .bool r.modified), ("removed", .int r.removed),
    ("preserved", .int r.preserved), ("errors", .array (r.errors.map diagnosticValue)),
    ("warnings", .array (r.warnings.map .string)), ("has_critical_errors", .bool r.failed),
    ("degraded", .bool r.degraded), ("used_fallback", .bool r.usedFallback)]

/-- The counts over all files, as JSON. -/
def summaryValue (s : Summary) : Value :=
  .object [("files", .int s.files), ("modified", .int s.modified), ("removed", .int s.removed),
    ("preserved", .int s.preserved), ("errors", .int s.errors), ("warnings", .int s.warnings),
    ("degraded", .int s.degraded), ("fallback", .int s.fallback), ("failed", .int s.failed)]

/-- The counts over all files, in words. -/
def summaryLine (s : Summary) : String :=
  toString s.files ++ " file(s): " ++ toString s.modified ++ " modified, " ++
    toString s.removed ++ " comment(s) removed, " ++ toString s.preserved ++ " preserved, " ++
    toString s.failed ++ " failed"

end CommentSieve.Command
