import CommentSieve.Config.Basic
import CommentSieve.Json.Decode
import CommentSieve.Json.Value

/-!
# Configuration as JSON

Settings are read from JSON and can be written as JSON. When reading, a field that is
missing has its default.
-/

namespace CommentSieve.Config

open Json (Member Value)

/-! ## Reading -/

/-- The fields of a user's rule. -/
def CustomRule.fields : List (Member CustomRule) :=
  [{ Member.of "name" Json.text (fun r name => { r with name }) with required := true },
    { Member.of "pattern" Json.text (fun r pattern => { r with pattern }) with required := true },
    .of "priority" (Json.nullable Json.int32) (fun r priority => { r with priority })]

/-- Reads a user's rule. -/
def CustomRule.decode : Json.Read CustomRule :=
  Json.record { name := "", pattern := "" } CustomRule.fields

/-- The fields that select built-in rules. -/
def Categories.fields : List (Member Categories) :=
  [.of "framework" Json.bool (fun c framework => { c with framework }),
    .of "tooling" Json.bool (fun c tooling => { c with tooling }),
    .of "documentation" Json.bool (fun c documentation => { c with documentation }),
    .of "development" Json.bool (fun c development => { c with development })]

/-- Reads which built-in rules are used. -/
def Categories.decode : Json.Read Categories := Json.record {} Categories.fields

/-- The fields of the tokenizer's limits. -/
def Limits.fields : List (Member Limits) :=
  [.of "iteration_factor" Json.unsigned (fun l iterationFactor => { l with iterationFactor }),
    .of "max_context_depth" Json.unsigned (fun l maxDepth => { l with maxDepth }),
    .of "max_whitespace_lookback" Json.unsigned (fun l maxLookback => { l with maxLookback }),
    .of "context_radius" Json.unsigned (fun l snippetRadius => { l with snippetRadius })]

/-- Reads the tokenizer's limits. -/
def Limits.decode : Json.Read Limits := Json.record {} Limits.fields

/-- The fields of the settings. -/
def fields : List (Member Config) :=
  [.of "keep_patterns" (Json.list Json.text) (fun c keepPatterns => { c with keepPatterns }),
    .of "custom_rules" (Json.list CustomRule.decode)
      (fun c customRules => { c with customRules }),
    .of "custom_priority" Json.int32 (fun c customPriority => { c with customPriority }),
    .of "categories" Categories.decode (fun c categories => { c with categories }),
    .of "enable_recovery" Json.bool (fun c recover => { c with recover }),
    .of "enable_fallback" Json.bool (fun c fallback => { c with fallback }),
    .of "tokenizer" Limits.decode (fun c limits => { c with limits })]

/-- Reads settings from a text. -/
def parse (text : List Char) : Except Json.Fault Config := Json.whole (Json.record {} fields) text

/-! ## Writing -/

/-- A user's rule as JSON. -/
def CustomRule.encode (r : CustomRule) : Value :=
  .object [("name", .string r.name), ("pattern", .string r.pattern),
    ("priority", match r.priority with
      | some n => .int n
      | none => .null)]

/-- The selection of built-in rules as JSON. -/
def Categories.encode (c : Categories) : Value :=
  .object [("framework", .bool c.framework), ("tooling", .bool c.tooling),
    ("documentation", .bool c.documentation), ("development", .bool c.development)]

/-- The tokenizer's limits as JSON. -/
def Limits.encode (l : Limits) : Value :=
  .object [("iteration_factor", .int l.iterationFactor), ("max_context_depth", .int l.maxDepth),
    ("max_whitespace_lookback", .int l.maxLookback), ("context_radius", .int l.snippetRadius)]

/-- Settings as JSON. -/
def encode (c : Config) : Value :=
  .object [("keep_patterns", .array (c.keepPatterns.map Value.string)),
    ("custom_rules", .array (c.customRules.map CustomRule.encode)),
    ("custom_priority", .int c.customPriority),
    ("categories", c.categories.encode),
    ("enable_recovery", .bool c.recover),
    ("enable_fallback", .bool c.fallback),
    ("tokenizer", c.limits.encode)]

end CommentSieve.Config
