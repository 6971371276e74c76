import CommentSieve.Rule.Builtin

/-!
# The rule engine

An engine holds rules with distinct names, by descending priority; rules of one
priority stand in the order in which they were added. The first rule that matches a
comment, among those whose category is switched on, classifies it. A comment that no
rule matches is not worth keeping.

Main result:

* `Engine.keep_classify` — the two ways to ask about a comment agree.
-/

namespace CommentSieve

/-- Rules in the order in which they are tried, and the categories switched off. -/
structure Engine where
  rules : List Rule := []
  disabled : List Rule.Category := []
  deriving Repr, DecidableEq

/-- What an engine says about a comment. -/
structure Classification where
  category : Rule.Category
  /-- The name of the rule that matches. -/
  rule : Option String
  keep : Bool
  metadata : Rule.Metadata
  deriving Repr, DecidableEq

namespace Engine

/-- An engine without rules. -/
def empty : Engine := {}

/-- An engine with the built-in rules. -/
def default : Engine := { rules := Rule.Builtin.all }

/-- Puts a rule after all rules of its priority or a better one. -/
def insert (r : Rule) (rules : List Rule) : List Rule :=
  rules.takeWhile (r.priority ≤ ·.priority) ++ r :: rules.dropWhile (r.priority ≤ ·.priority)

/-- Adds a rule, unless its name is taken. -/
def add (e : Engine) (r : Rule) : Except Rule.Refusal Engine :=
  if e.rules.any (·.name == r.name) then .error (.duplicate r.name)
  else .ok { e with rules := insert r e.rules }

/-- Adds a user's rule with a pattern. -/
def addCustom (e : Engine) (name pattern : String) (priority : Int) : Except Rule.Refusal Engine :=
  do e.add (← Rule.custom name pattern priority)

/-- Adds a user's rule for a text. -/
def addLiteral (e : Engine) (name text : String) (priority : Int) : Except Rule.Refusal Engine :=
  do e.add (← Rule.literal name text priority)

/-- Whether a rule has a name. -/
def has (e : Engine) (name : String) : Bool := e.rules.any (·.name == name)

/-- Removes the rule with a name, if there is one. -/
def remove (e : Engine) (name : String) : Engine :=
  { e with rules := e.rules.filter (·.name != name) }

/-- Removes all rules; categories stay as they are. -/
def clear (e : Engine) : Engine := { e with rules := [] }

/-- Whether the rules of a category are tried. -/
def isEnabled (e : Engine) (category : Rule.Category) : Bool := !e.disabled.contains category

/-- Switches a category on or off. -/
def setEnabled (e : Engine) (category : Rule.Category) (enabled : Bool) : Engine :=
  let others := e.disabled.filter (· != category)
  { e with disabled := if enabled then others else category :: others }

/-- The rules of a category. -/
def rulesOf (e : Engine) (category : Rule.Category) : List Rule :=
  e.rules.filter (·.category == category)

/-- Whether a rule is tried and matches. -/
def selects (e : Engine) (text : List Char) (r : Rule) : Bool :=
  e.isEnabled r.category && r.applies text

/-- Classifies a comment. -/
def classify (e : Engine) (text : List Char) : Classification :=
  match e.rules.find? (e.selects text) with
  | some r => ⟨r.category, some r.name, true, r.metadata text⟩
  | none => ⟨.regular, none, false, .nothing⟩

/-- Whether a comment is worth keeping. -/
def keeps (e : Engine) (text : List Char) : Bool := e.rules.any (e.selects text)

/-- The two ways to ask an engine about a comment agree. -/
theorem keep_classify (e : Engine) (text : List Char) :
    (e.classify text).keep = e.keeps text := by
  have hAny : (e.rules.find? (e.selects text)).isSome = e.keeps text := List.isSome_find?
  rw [← hAny, classify]
  cases e.rules.find? (e.selects text) <;> rfl

end Engine

end CommentSieve
