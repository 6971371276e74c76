import CommentSieve.Pattern.Read
import CommentSieve.Pattern.Search
import CommentSieve.Text.Search
import CommentSieve.Text.Uppercase

/-!
# Rules

A rule marks comments as worth keeping: those in which its pattern occurs. It also
says what to note about them. Rules have names, and priorities that decide which of
several matching rules classifies a comment.
-/

namespace CommentSieve

namespace Rule

/-- What a comment is kept for. -/
inductive Category
  | framework
  | tooling
  | documentation
  | development
  | custom
  /-- For nothing: no rule matches. -/
  | regular
  deriving Repr, DecidableEq

namespace Category

/-- All categories, in declaration order. -/
def all : List Category := [framework, tooling, documentation, development, custom, regular]

/-- The name under which a category is shown. -/
def name : Category → String
  | framework => "framework"
  | tooling => "tooling"
  | documentation => "documentation"
  | development => "development"
  | custom => "custom"
  | regular => "regular"

/-- The category with a name, the case of ASCII letters apart. -/
def ofName? (text : String) : Option Category :=
  let lowered := text.toList.map Char.toLower
  all.find? fun category => category.name.toList == lowered

end Category

/-! ## Metadata -/

/-- Frameworks whose directives are recognised. -/
inductive Framework
  | svelte
  | vue
  | react
  | typeScript
  | webpack
  deriving Repr, DecidableEq

/-- The name of a framework. -/
def Framework.name : Framework → String
  | svelte => "Svelte"
  | vue => "Vue"
  | react => "React"
  | typeScript => "TypeScript"
  | webpack => "Webpack"

/-- Tools whose directives are recognised. -/
inductive Tool
  | esLint
  | prettier
  | typeScript
  | coverage
  deriving Repr, DecidableEq

/-- The name of a tool. -/
def Tool.name : Tool → String
  | esLint => "ESLint"
  | prettier => "Prettier"
  | typeScript => "TypeScript"
  | coverage => "Coverage"

/-- What is noted about a comment. -/
inductive Metadata
  | nothing
  /-- For Svelte directives also the rule they name. -/
  | framework (which : Framework) (rule : Option String)
  | tool (which : Tool)
  /-- Every documentation tag, in order. -/
  | tags (items : List String)
  | keyword (word : String)
  /-- The pattern as its user wrote it. -/
  | pattern (source : String)
  deriving Repr, DecidableEq

/-- A value of a metadata entry. -/
inductive Value
  | text (text : String)
  | list (items : List String)
  deriving Repr, DecidableEq

/-- Metadata as entries with keys. -/
def Metadata.entries : Metadata → List (String × Value)
  | nothing => []
  | framework f rule =>
    ("framework", .text f.name) :: (rule.map fun rule => ("rule", Value.text rule)).toList
  | tool t => [("tool", .text t.name)]
  | tags items => [("tags", .list items)]
  | keyword word => [("keyword", .text word)]
  | pattern source => [("pattern", .text source)]

/-- How metadata is drawn from a comment. -/
inductive Extractor
  | framework
  | tooling
  | documentation
  | development
  | custom (pattern : String)
  deriving Repr, DecidableEq

/-- The framework that the run found belongs to, by its first characters. -/
def frameworkOf (found : List Char) : Framework :=
  let found := found.map Char.toLower
  if Text.startsWith "svelte-ignore".toList found then .svelte
  else if Text.startsWith "<!--".toList found then .vue
  else if Text.startsWith "@jsx".toList found then .react
  else if Text.startsWith "///".toList found then .typeScript
  else .webpack

/-- The tool that the run found belongs to, by its first characters. -/
def toolOf (found : List Char) : Tool :=
  let found := found.map Char.toLower
  if Text.startsWith "eslint".toList found then .esLint
  else if Text.startsWith "prettier".toList found then .prettier
  else if Text.startsWith "@ts-".toList found then .typeScript
  else .coverage

/-- Draws metadata from a text in which a pattern is looked for. -/
def Extractor.extract (e : Extractor) (p : Pattern) (text : List Char) : Metadata :=
  match e with
  | framework =>
    match p.capture? text with
    | none => .nothing
    | some found =>
      let framework := frameworkOf (found.text text)
      let rule := match framework with
        | .svelte => (found.group? "svelte_rule" text).map String.ofList
        | _ => none
      .framework framework rule
  | tooling =>
    match p.find? text with
    | none => .nothing
    | some found => .tool (toolOf (found.text text))
  | documentation =>
    .tags ((p.findAll text).filterMap fun found => (found.group? "tag" text).map String.ofList)
  | development =>
    match p.find? text with
    | none => .nothing
    | some found => .keyword (String.ofList (Text.upper (found.text text)))
  | custom pattern => .pattern pattern

end Rule

/-! ## Rules -/

/-- A named, prioritised pattern that marks comments as worth keeping. -/
structure Rule where
  name : String
  /-- The pattern as a text. -/
  source : String
  pattern : Pattern
  priority : Int
  category : Rule.Category
  extractor : Rule.Extractor
  deriving Repr, DecidableEq

namespace Rule

/-- Why a rule is refused. -/
inductive Refusal
  | duplicate (name : String)
  | invalidPattern (name : String) (cause : Pattern.Rejection)
  deriving Repr, DecidableEq

/-- The words for a refusal. -/
def Refusal.message : Refusal → String
  | duplicate name => "Rule already registered: " ++ name
  | invalidPattern name .tooLarge =>
    "Invalid pattern for rule " ++ name ++ ": Compiled regex exceeds size limit of " ++
      toString Pattern.maxWeight ++ " bytes."
  | invalidPattern name _ => "Invalid pattern for rule " ++ name

/-- Makes a rule of a pattern that is read without regard to case. -/
def make (name source : String) (priority : Int) (category : Category) (extractor : Extractor) :
    Except Refusal Rule :=
  match Pattern.read true source.toList with
  | .ok pattern => .ok { name, source, pattern, priority, category, extractor }
  | .error cause => .error (.invalidPattern name cause)

/-- A user's rule with a pattern. -/
def custom (name pattern : String) (priority : Int) : Except Refusal Rule :=
  make name pattern priority .custom (.custom pattern)

/-- A user's rule for a text that is looked for as it stands. -/
def literal (name text : String) (priority : Int) : Except Refusal Rule :=
  make name (String.ofList (Pattern.quote text.toList)) priority .custom (.custom text)

/-- Whether a rule matches a comment. -/
def applies (r : Rule) (text : List Char) : Bool := r.pattern.occursIn text

/-- What a rule notes about a comment. -/
def metadata (r : Rule) (text : List Char) : Metadata := r.extractor.extract r.pattern text

end Rule

end CommentSieve
