import CommentSieve.Files.Disk
import CommentSieve.Text.Utf8

/-!
# A tree of files in memory

Files and directories below one directory, which is the current one. Outside of it there
are the directories above, in which nothing else is to be found, and the device that is
always empty.
-/

namespace CommentSieve.Files

/-- Where a path leads, whether something is there or not. -/
inductive Place
  /-- Below the current directory. -/
  | inside (names : List (List Char))
  /-- A directory above the current one. -/
  | above
  /-- Below the root. -/
  | outside (names : List (List Char))
  deriving Repr, DecidableEq

namespace Place

/-- The directory that a place lies in. The root lies in itself. -/
def parent : Place → Place
  | inside [] => above
  | inside names => inside names.dropLast
  | above => above
  | outside names => outside names.dropLast

/-- The place of a name in a directory; nothing is known of the directories above. -/
def child? : Place → List Char → Option Place
  | inside names, name => some (inside (names ++ [name]))
  | above, _ => none
  | outside names, name => some (outside (names ++ [name]))

end Place

/-- Files and directories, by the names that lead to them. -/
structure Tree where
  files : List (List (List Char) × Body) := []
  /-- All directories but the current one. -/
  directories : List (List (List Char)) := []
  deriving Repr, DecidableEq

namespace Tree

/-- The names of the device that is always empty, and of the directories it lies in. -/
def emptyDevice : List (List Char) := ["dev".toList, "null".toList]

/-- What is at a place. -/
def lookup (t : Tree) : Place → Option Status
  | .inside names =>
    if names.isEmpty || t.directories.contains names then some .directory
    else if (t.files.lookup names).isSome then some .file
    else none
  | .above => some .directory
  | .outside names =>
    if names == emptyDevice then some .device
    else if names.isPrefixOf emptyDevice then some .directory
    else none

/-- Follows the parts of a path from a place. A part other than the last has to lead to a
directory. -/
def follow (t : Tree) (place : Place) : (parts : List (List Char)) → Except Trouble Place
  | [] => .ok place
  | part :: parts =>
    match t.lookup place with
    | none => .error .missing
    | some .file | some .device => .error .notDirectory
    | some .directory =>
      if part.isEmpty || part == Path.here then follow t place parts
      else if part == Path.up then follow t place.parent parts
      else if Path.maxNameBytes < Text.byteLength part then .error .nameTooLong
      else
        match place.child? part with
        | some place => follow t place parts
        | none => .error .missing

/-- The place that a path leads to, and what is there. -/
def resolve (t : Tree) (p : Path) : Except Trouble (Place × Status) := do
  if Path.maxBytes < Text.byteLength p then .error .nameTooLong
  else if p.isEmpty then .error .missing
  else
    let place ← t.follow (if p.isAbsolute then .outside [] else .inside []) p.split
    match t.lookup place with
    | some status => return (place, status)
    | none => .error .missing

/-- The names in a directory. -/
def children (t : Tree) : Place → List (List Char)
  | .inside names =>
    let below := (t.files.map (·.1) ++ t.directories).filter fun other => other.dropLast == names
    (below.filterMap (·.getLast?)).eraseDups
  | _ => []

/-- What a file holds. -/
def read (t : Tree) (p : Path) : Except Trouble Body := do
  match ← t.resolve p with
  | (_, .directory) => .error .isDirectory
  | (.inside names, .file) =>
    match t.files.lookup names with
    | some body => return body
    | none => .error .missing
  | _ => return .text []

/-- Replaces what a file holds. A device keeps nothing. -/
def write (t : Tree) (p : Path) (content : List Char) : Except Trouble Tree := do
  match ← t.resolve p with
  | (_, .directory) => .error .isDirectory
  | (.inside names, .file) =>
    let files := t.files.map fun (other, body) =>
      if other == names then (other, .text content) else (other, body)
    return { t with files }
  | _ => return t

/-- All lists of names that start a list of names, shortest first. -/
def ancestors (names : List (List Char)) : List (List (List Char)) :=
  (List.range names.length).map fun n => names.take (n + 1)

/-- Adds an empty directory and the directories it lies in. -/
def addDirectory (t : Tree) (names : List (List Char)) : Tree :=
  let missing := (ancestors names).filter fun names => !t.directories.contains names
  { t with directories := t.directories ++ missing }

/-- Adds a file and the directories it lies in. -/
def addFile (t : Tree) (names : List (List Char)) (body : Body) : Tree :=
  let t := t.addDirectory names.dropLast
  { t with files := t.files ++ [(names, body)] }

/-- A tree as a disk. -/
def disk : Disk (StateM Tree) where
  status p := do
    match (← get).resolve p with
    | .ok (_, status) => return some status
    | .error _ => return none
  list p := do
    let t ← get
    match t.resolve p with
    | .ok (place, .directory) => return some (t.children place)
    | _ => return none
  read p := return (← get).read p
  write p content := do
    match (← get).write p content with
    | .ok t => do set t; return .ok ()
    | .error trouble => return .error trouble

end Tree

end CommentSieve.Files
