/-!
# Command line arguments

Options may stand anywhere before `--`. Short options can be written together; the value
of an option follows it, joined to it or as the next argument. An option that does not
repeat may be given once.
-/

namespace CommentSieve.Command

/-- What the user asks for. -/
structure Arguments where
  /-- Patterns of files to process. -/
  patterns : List String := []
  /-- Patterns of files to leave out. -/
  excludes : List String := []
  config : Option String := none
  /-- Report what would change without writing files. -/
  dryRun : Bool := false
  /-- Report each file as JSON. -/
  json : Bool := false
  verbose : Bool := false
  deriving Repr, DecidableEq

namespace Arguments

/-- The options of the program. -/
inductive Opt
  | exclude
  | config
  | dryRun
  | json
  | verbose
  deriving Repr, DecidableEq

namespace Opt

/-- Whether an option has a value. -/
def takesValue : Opt → Bool
  | exclude | config => true
  | dryRun | json | verbose => false

/-- The option with a long name. -/
def ofLong? : List Char → Option Opt
  | name =>
    match String.ofList name with
    | "exclude" => some exclude
    | "config" => some config
    | "dry-run" => some dryRun
    | "json" => some json
    | "verbose" => some verbose
    | _ => none

/-- The option with a letter. -/
def ofShort? : Char → Option Opt
  | 'e' => some exclude
  | 'c' => some config
  | 'v' => some verbose
  | _ => none

end Opt

/-- Sets a switch, which may be set once. -/
def setSwitch (a : Arguments) : Opt → Option Arguments
  | .dryRun => if a.dryRun then none else some { a with dryRun := true }
  | .json => if a.json then none else some { a with json := true }
  | .verbose => if a.verbose then none else some { a with verbose := true }
  | .exclude | .config => none

/-- Gives an option its value. The configuration is a path, which is not empty. -/
def setValue (a : Arguments) (o : Opt) (value : List Char) : Option Arguments :=
  match o with
  | .exclude => some { a with excludes := a.excludes ++ [String.ofList value] }
  | .config =>
    if a.config.isSome || value.isEmpty then none
    else some { a with config := some (String.ofList value) }
  | .dryRun | .json | .verbose => none

/-- Reads an argument after two hyphens. Gives the option that waits for its value. -/
def readLong (a : Arguments) (text : List Char) : Option (Arguments × Option Opt) :=
  let name := text.takeWhile (· != '=')
  match Opt.ofLong? name, text.dropWhile (· != '=') with
  | none, _ => none
  | some o, [] => if o.takesValue then some (a, some o) else (a.setSwitch o).map (·, none)
  | some o, _ :: value => if o.takesValue then (a.setValue o value).map (·, none) else none

/-- Reads an argument after one hyphen. Gives the option that waits for its value. -/
def readShort (a : Arguments) : List Char → Option (Arguments × Option Opt)
  | [] => some (a, none)
  | c :: more =>
    match Opt.ofShort? c with
    | none => none
    | some o =>
      if o.takesValue then
        match more with
        | [] => some (a, some o)
        | '=' :: value => (a.setValue o value).map (·, none)
        | value => (a.setValue o value).map (·, none)
      else match a.setSwitch o with
        | none => none
        | some a => readShort a more

/-- Adds a pattern. -/
def addPattern (a : Arguments) (text : String) : Arguments :=
  { a with patterns := a.patterns ++ [text] }

/-- Reads arguments; `waiting` is the option whose value comes next. -/
def readAll (a : Arguments) (waiting : Option Opt) : List String → Option Arguments
  | [] => if waiting.isSome then none else some a
  | text :: more =>
    match text.toList, waiting with
    | '-' :: '-' :: [], none => some (more.foldl addPattern a)
    | '-' :: '-' :: name, none => do
      let (a, waiting) ← a.readLong name
      readAll a waiting more
    | '-' :: c :: letters, none => do
      let (a, waiting) ← a.readShort (c :: letters)
      readAll a waiting more
    -- A value that looks like an option has to be joined to its option.
    | '-' :: _ :: _, some _ => none
    | value, some o => do readAll (← a.setValue o value) none more
    | _, none => readAll (a.addPattern text) none more

/-- Reads the arguments of the program, or nothing if they cannot be understood. At least
one pattern has to be given. -/
def parse (texts : List String) : Option Arguments :=
  match readAll {} none texts with
  | some a => if a.patterns.isEmpty then none else some a
  | none => none

end Arguments

end CommentSieve.Command
