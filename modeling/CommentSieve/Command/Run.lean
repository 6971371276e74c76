import CommentSieve.Command.Arguments
import CommentSieve.Command.Report
import CommentSieve.Files.Walk
import CommentSieve.Json.Bytes

/-!
# Running the program

The configuration is read, the files are chosen, and each is processed and written back
in turn. A file that cannot be read or written ends the run; what was done before it
stays.
-/

namespace CommentSieve.Command

open Files

/-- Why a run ends early. -/
inductive Failure
  | configFile (path : Path) (trouble : Trouble)
  | configText (cause : Option Json.Fault)
  | rule (refusal : Rule.Refusal)
  | excludePattern (pattern : String) (misread : Glob.Misread)
  | filePattern (pattern : String) (misread : Glob.Misread)
  | reading (path : Path) (trouble : Trouble)
  | writing (path : Path) (trouble : Trouble)
  deriving Repr, DecidableEq

/-- The words for a failure. -/
def Failure.message : Failure → String
  | configFile path trouble =>
    "Config error: Failed to open config file " ++ String.ofList path ++ ": " ++ trouble.message
  | configText _ => "Config error: Failed to parse config"
  | rule refusal => "Rule error: " ++ refusal.message
  | excludePattern pattern misread =>
    "Internal error: Invalid exclude pattern " ++ pattern ++ ": " ++ misread.message
  | filePattern pattern misread =>
    "Internal error: Invalid pattern " ++ pattern ++ ": " ++ misread.message
  | reading path trouble =>
    "Internal error: Failed to read " ++ String.ofList path ++ ": " ++ trouble.message
  | writing path trouble =>
    "Internal error: Failed to write " ++ String.ofList path ++ ": " ++ trouble.message

/-- What a run leaves behind, files apart. -/
structure Outcome where
  code : Nat
  /-- The lines printed. -/
  output : List String := []
  /-- The line printed as an error. -/
  error : Option String := none
  deriving Repr, DecidableEq

variable {m : Type → Type} [Monad m]

/-! ## Configuration -/

/-- Reads the configuration; without a file, all settings have their defaults. A
directory can be opened like a file, and then counts as one with a bad text. -/
def loadConfig (d : Disk m) (path : Option String) : m (Except Failure Config) := do
  match path with
  | none => return .ok {}
  | some path =>
    match ← d.read path.toList with
    | .ok body =>
      let text := match body with
        | .text text => text
        | .binary bytes => Json.ofBytes bytes
      return (Config.parse text).mapError fun fault => .configText (some fault)
    | .error .isDirectory => return .error (.configText none)
    | .error trouble => return .error (.configFile path.toList trouble)

/-! ## Choosing files -/

/-- Adds the paths that lead to files, are not left out and are not chosen yet. -/
def chooseFiles (d : Disk m) (excludes : List (List Glob.Token)) (chosen : List Path) :
    List Path → m (List Path)
  | [] => pure chosen
  | path :: paths => do
    let take := (← d.isFile path) && !excludes.any (Glob.isMatch · path) &&
      !chosen.any (path.same ·)
    chooseFiles d excludes (if take then chosen ++ [path] else chosen) paths

/-- Chooses files for one pattern after the other. -/
def chooseByPatterns (d : Disk m) (excludes : List (List Glob.Token)) (chosen : List Path) :
    List String → m (Except Failure (List Path))
  | [] => pure (.ok chosen)
  | pattern :: patterns => do
    match Glob.readPath pattern.toList with
    | .error misread => return .error (.filePattern pattern misread)
    | .ok p =>
      let chosen ← chooseFiles d excludes chosen (← Glob.find d p)
      chooseByPatterns d excludes chosen patterns

/-- Reads the patterns of files to leave out. -/
def readExcludes : List String → Except Failure (List (List Glob.Token))
  | [] => .ok []
  | pattern :: patterns => do
    match Glob.tokens pattern.toList with
    | .error misread => .error (.excludePattern pattern misread)
    | .ok tokens => return tokens :: (← readExcludes patterns)

/-- The files to process, in order. -/
def selectFiles (d : Disk m) (a : Arguments) : m (Except Failure (List Path)) := do
  match readExcludes a.excludes with
  | .error failure => return .error failure
  | .ok excludes => chooseByPatterns d excludes [] a.patterns

/-! ## Processing files -/

/-- A run between two files. -/
structure Progress where
  remover : Remover
  summary : Summary := {}
  /-- Lines printed, last first. -/
  output : List String := []

/-- Processes one file. -/
def processFile (d : Disk m) (a : Arguments) (p : Progress) (path : Path) :
    m (Progress × Option Failure) := do
  match ← d.read path with
  | .error trouble => return (p, some (.reading path trouble))
  | .ok (.binary _) => return (p, some (.reading path .notText))
  | .ok (.text content) =>
    let extension := String.ofList (path.extension?.getD [])
    let (removal, remover) := p.remover.process content extension
    -- Counted before it is written, so that a failure to write does not matter here.
    let p := { p with remover, summary := p.summary.record removal }
    let written ← if removal.modified && !a.dryRun then d.write path removal.content
      else pure (.ok ())
    match written with
    | .error trouble => return (p, some (.writing path trouble))
    | .ok () =>
      if a.json then
        let line := (removalValue (String.ofList path) removal).render
        return ({ p with output := line :: p.output }, none)
      else return (p, none)

/-- Processes files until one fails. -/
def processFiles (d : Disk m) (a : Arguments) (p : Progress) : List Path →
    m (Progress × Option Failure)
  | [] => pure (p, none)
  | path :: paths => do
    match ← processFile d a p path with
    | (p, none) => processFiles d a p paths
    | (p, some failure) => return (p, some failure)

/-! ## The whole program -/

/-- The outcome of a run that ended early. -/
def failed (output : List String) (failure : Failure) : Outcome :=
  { code := 1, output, error := some ("Error: " ++ failure.message) }

/-- The outcome of a run to the end. -/
def finished (a : Arguments) (p : Progress) : Outcome :=
  let line := if a.json then (summaryValue p.summary).render else summaryLine p.summary
  { code := if p.summary.hasFailures then 1 else 0, output := (line :: p.output).reverse }

/-- Runs the program with arguments that were understood. -/
def runWith (d : Disk m) (a : Arguments) : m Outcome := do
  match ← loadConfig d a.config with
  | .error failure => return failed [] failure
  | .ok config =>
    match Remover.make config with
    | .error refusal => return failed [] (.rule refusal)
    | .ok remover =>
      match ← selectFiles d a with
      | .error failure => return failed [] failure
      | .ok paths =>
        match ← processFiles d a { remover } paths with
        | (p, none) => return finished a p
        | (p, some failure) => return failed p.output.reverse failure

/-- Runs the program. Arguments that cannot be understood end it with code 2. -/
def run (d : Disk m) (arguments : List String) : m Outcome :=
  match Arguments.parse arguments with
  | some a => runWith d a
  | none => pure { code := 2 }

end CommentSieve.Command
