/-!
# Paths

A path is kept as it was written, since it is shown to the user. Its parts are the
names between slashes; parts that do not change where a path leads are left out when
paths are compared.
-/

namespace CommentSieve.Files

/-- A path as written. -/
abbrev Path := List Char

namespace Path

/-- Splits a path at its slashes. There is one part more than there are slashes. -/
def split : Path → List (List Char)
  | [] => [[]]
  | c :: cs =>
    if c = '/' then [] :: split cs
    else
      match split cs with
      | [] => [[c]]
      | part :: parts => (c :: part) :: parts

/-- Whether a path starts at the root. -/
def isAbsolute (p : Path) : Bool := p.head? == some '/'

/-- The greatest number of bytes of a path. -/
def maxBytes : Nat := 4095

/-- The greatest number of bytes of a name. -/
def maxNameBytes : Nat := 255

/-- The current directory. -/
def here : Path := ['.']

/-- The directory above. -/
def up : Path := ['.', '.']

/-- A name below a path. A name that starts at the root stands alone. -/
def join (p name : Path) : Path :=
  if isAbsolute name then name
  else if p.isEmpty || p.getLast? == some '/' then p ++ name
  else p ++ '/' :: name

/-- The parts of a path that count: empty parts do not, and `.` only in front. The root
is written as a part of its own. -/
def parts (p : Path) : List (List Char) :=
  match p.split with
  | [] => []
  | first :: more =>
    let more := more.filter fun part => part != [] && part != here
    if p.isAbsolute then ['/'] :: more
    else if first.isEmpty then more
    else first :: more

/-- Whether two paths have the same parts. -/
def same (p q : Path) : Bool := p.parts == q.parts

/-- The last part of a path, if it is a name. -/
def fileName? (p : Path) : Option (List Char) :=
  match p.parts.getLast? with
  | none => none
  | some name => if name == here || name == up || name == ['/'] then none else some name

/-- The part of a name after its last dot. A dot in front does not count. -/
def extension? (p : Path) : Option (List Char) := do
  let name ← p.fileName?
  let reversed := name.reverse
  match reversed.dropWhile (· != '.') with
  | [] => none
  | [_] => none
  | _ :: _ :: _ => some (reversed.takeWhile (· != '.')).reverse

end Path

end CommentSieve.Files
