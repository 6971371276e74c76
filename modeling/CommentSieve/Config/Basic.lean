import CommentSieve.Token.Options

/-!
# Configuration

What a user can set: which comments to keep beyond the built-in rules, which built-in
rules to use, and how to deal with malformed texts.
-/

namespace CommentSieve

namespace Config

/-- A user's rule: comments in which a pattern occurs are kept. -/
structure CustomRule where
  name : String
  pattern : String
  /-- The common priority if not given. -/
  priority : Option Int := none
  deriving Repr, DecidableEq

/-- Which of the built-in rules are used. -/
structure Categories where
  framework : Bool := true
  tooling : Bool := true
  documentation : Bool := true
  development : Bool := true
  deriving Repr, DecidableEq

/-- Limits of the tokenizer. -/
structure Limits where
  iterationFactor : Nat := ({} : Options).iterationFactor
  maxDepth : Nat := ({} : Options).maxDepth
  maxLookback : Nat := ({} : Options).maxLookback
  snippetRadius : Nat := ({} : Options).snippetRadius
  deriving Repr, DecidableEq

end Config

/-- A user's settings. -/
structure Config where
  /-- Comments that contain one of these texts are kept. -/
  keepPatterns : List String := []
  customRules : List Config.CustomRule := []
  /-- The priority of kept texts, and of rules without one. -/
  customPriority : Int := 50
  categories : Config.Categories := {}
  /-- Describe, for malformed constructs, how reading goes on after them. -/
  recover : Bool := true
  /-- Strip by pattern where the tokenizer cannot be trusted. -/
  fallback : Bool := true
  limits : Config.Limits := {}
  deriving Repr, DecidableEq

namespace Config

/-- The options that the settings give the tokenizer. -/
def options (c : Config) : Options where
  recover := c.recover
  iterationFactor := c.limits.iterationFactor
  maxDepth := c.limits.maxDepth
  maxLookback := c.limits.maxLookback
  snippetRadius := c.limits.snippetRadius

end Config

end CommentSieve
