import CommentSieve.Files.Disk
import CommentSieve.Files.Glob

/-!
# Finding files by pattern

A pattern is compared with paths part by part, so that `*` and `?` stay within a part.
Parts without wildcards are looked up, others are compared with the names in a directory,
in ascending order. `**` goes through all directories below; as the last part it stands
for the directories themselves.
-/

namespace CommentSieve.Files.Glob

/-- A pattern for a whole path. -/
structure PathPattern where
  /-- One pattern for each part. -/
  parts : List (List Token)
  /-- A slash at the end asks for a directory. -/
  onlyDirectories : Bool
  /-- The directory in which the first part is looked up. -/
  origin : Path
  deriving Repr, DecidableEq

/-- The parts of a pattern between its slashes; a slash at the end ends the last part. -/
def splitParts (text : List Char) : List (List Char) :=
  match (Path.split text).reverse with
  | [] :: parts => parts.reverse
  | parts => parts.reverse

/-- Reads a pattern for a path. It has to be right as a whole and in each of its parts. -/
def readPath (text : List Char) : Except Misread PathPattern := do
  let _ ← tokens text
  let absolute := Path.isAbsolute text
  let below := if absolute then text.dropWhile (· == '/') else text
  let parts ← (splitParts below).mapM tokens
  return {
    parts := if below.isEmpty then parts ++ [[]] else parts
    onlyDirectories := text.getLast? == some '/'
    origin := if absolute then ['/'] else Path.here }

/-- Whether a part stands for any directories. -/
def isRecursive (part : List Token) : Bool := part.contains .anyDirectories

/-- Ascending order of names. -/
def sortNames (names : List (List Char)) : List (List Char) :=
  names.mergeSort fun a b => !(b < a)

variable {m : Type → Type} [Monad m]

/-- Results of several searches, in order. -/
def collect {α β : Type} (search : α → m (List β)) : List α → m (List β)
  | [] => pure []
  | a :: more => do
    let found ← search a
    return found ++ (← collect search more)

mutual

/-- The paths below `path` that fit the parts of a pattern. `fuel` bounds the length of
paths. -/
def below (d : Disk m) (onlyDirectories : Bool) : (fuel : Nat) → List (List Token) → Path →
    m (List Path)
  | 0, _, _ => pure []
  | _ + 1, [], _ => pure []
  | fuel + 1, part :: parts, path => do
    let isDirectory ← d.isDirectory path
    let current := path.parts == [Path.here]
    let child (name : List Char) : Path := if current then name else path.join name
    match plainText? part with
    | some name =>
      let next := child name
      -- `.` and `..` exist in every directory.
      let there ← if name == Path.here || name == Path.up then pure isDirectory else d.exists? next
      if there then onward d onlyDirectories fuel parts next else return []
    | none =>
      if !isDirectory then return []
      else match ← d.list path with
        | none => return []
        | some names =>
          -- A directory does not list `.` and `..`; they have to be asked for by a dot.
          let special := if part.head? == some (.char '.') then
              [Path.up, Path.here].filter (isMatch part)
            else []
          let aside ← collect
            (fun name => onward d onlyDirectories fuel parts (path.join name)) special
          let inside ← collect
            (fun name => visit d onlyDirectories fuel (part :: parts) (child name))
            (sortNames names)
          return aside ++ inside

/-- Goes on with the remaining parts from a path that fits so far. -/
def onward (d : Disk m) (onlyDirectories : Bool) : (fuel : Nat) → List (List Token) → Path →
    m (List Path)
  | 0, _, _ => pure []
  | _ + 1, [], path => do
    if onlyDirectories then return (if ← d.isDirectory path then [path] else [])
    else return [path]
  | fuel + 1, parts, path => below d onlyDirectories fuel parts path

/-- The paths that fit, for an entry of a directory that is to be compared with the first
part. -/
def visit (d : Disk m) (onlyDirectories : Bool) : (fuel : Nat) → List (List Token) → Path →
    m (List Path)
  | 0, _, _ => pure []
  | fuel + 1, parts, path => do
    -- Several `**` in a row are one.
    let rest := parts.dropWhile isRecursive
    let compare : m (List Path) :=
      match rest, path.fileName? with
      | part :: parts, some name =>
        if isMatch part name then onward d onlyDirectories fuel parts path else pure []
      | _, _ => pure []
    match parts.takeWhile isRecursive with
    | [] => compare
    | recursive :: _ =>
      if ← d.isDirectory path then
        let found ← if rest.isEmpty then pure [path] else compare
        return found ++ (← below d onlyDirectories fuel (recursive :: rest) path)
      else if rest.isEmpty then return []
      else compare

end

/-- No path is longer than this, so that no search goes deeper. -/
def maxPathLength : Nat := 4096

/-- All paths that fit a pattern. -/
def find (d : Disk m) (p : PathPattern) : m (List Path) :=
  below d p.onlyDirectories (2 * (maxPathLength + p.parts.length)) p.parts p.origin

end CommentSieve.Files.Glob
