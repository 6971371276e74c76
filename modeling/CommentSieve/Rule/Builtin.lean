import CommentSieve.Rule.Basic

/-!
# Built-in rules

| priority | rule | keeps |
|---|---|---|
| 900 | `framework` | Svelte, Vue, React, TypeScript and webpack pragmas |
| 800 | `tooling` | linter, formatter, type checker and coverage directives |
| 750 | `documentation` | documentation tags |
| 700 | `development` | attention keywords such as `TODO` |
-/

namespace CommentSieve.Rule.Builtin

/-- The pattern that a source text stands for. The sources below are all patterns. -/
def patternOf (source : String) : Pattern :=
  match Pattern.read true source.toList with
  | .ok pattern => pattern
  | .error _ => .never

/-- A rule from a source text that is a pattern. -/
def rule (name source : String) (priority : Int) (category : Category) (extractor : Extractor) :
    Rule :=
  { name, source, pattern := patternOf source, priority, category, extractor }

/-- Directives of frameworks. -/
def frameworkSource : String :=
  r"svelte-ignore\s+(?P<svelte_rule>[\w-]+)" ++
  r"|<!--\s*eslint-disable" ++
  r"|@jsx\s+[\w.]+" ++
  r"|///\s*<reference\s+(?:path|types|lib|no-default-lib)\s*=" ++
  r"|webpack(?:ChunkName|Mode|Prefetch|Preload|Ignore|Include|Exclude|Exports)\s*:"

/-- Directives of tools. -/
def toolingSource : String :=
  r"eslint-(?:disable|enable)(?:-next-line)?" ++
  r"|prettier-ignore" ++
  r"|@ts-(?:ignore|expect-error|nocheck)" ++
  r"|(?:istanbul|c8)\s+ignore"

/-- Words that are documentation tags after an `@`. Common words such as `type` are
among them, so that prose with such a tag is kept too. -/
def documentationTags : List String :=
  ["abstract", "access", "alias", "async", "augments", "author", "borrows", "callback", "class",
    "classdesc", "constant", "constructor", "constructs", "copyright", "default", "deprecated",
    "description", "enum", "event", "example", "exports", "extends", "external", "file",
    "fileoverview", "fires", "function", "generator", "global", "hideconstructor", "ignore",
    "implements", "inheritdoc", "inner", "instance", "interface", "kind", "lends", "license",
    "listens", "member", "memberof", "mixes", "mixin", "module", "name", "namespace", "override",
    "package", "param", "private", "property", "protected", "public", "readonly", "requires",
    "return", "returns", "see", "since", "static", "summary", "template", "this", "throws", "todo",
    "tutorial", "type", "typedef", "variation", "version", "yields"]

/-- A tag that no word character and no further `@` precedes, as a whole word. -/
def documentationSource : String :=
  r"(?:^|[^\w@])(?P<tag>@(?:" ++ String.intercalate "|" documentationTags ++ r"))\b"

/-- Attention keywords, as whole words. -/
def developmentSource : String := r"\b(?:TODO|FIXME|HACK|NOTE|XXX|BUG|WARN|WARNING)\b"

/-- Keeps directives of frameworks. -/
def framework : Rule :=
  rule "framework-directives" frameworkSource 900 .framework .framework

/-- Keeps directives of tools. -/
def tooling : Rule := rule "tooling-directives" toolingSource 800 .tooling .tooling

/-- Keeps documentation. -/
def documentation : Rule :=
  rule "jsdoc-tags" documentationSource 750 .documentation .documentation

/-- Keeps notes to developers. -/
def development : Rule :=
  rule "development-keywords" developmentSource 700 .development .development

/-- The built-in rules, best priority first. -/
def all : List Rule := [framework, tooling, documentation, development]

end CommentSieve.Rule.Builtin
