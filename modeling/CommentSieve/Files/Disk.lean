import CommentSieve.Files.Path

/-!
# Disks

What the program needs of a file system. It is given as a record of operations in some
monad, so that the same program runs on the files of the machine and on a tree held in
memory.
-/

namespace CommentSieve.Files

/-- What a path leads to. -/
inductive Status
  | file
  | directory
  /-- Neither of them. -/
  | device
  deriving Repr, DecidableEq

/-- What a file holds. -/
inductive Body
  | text (content : List Char)
  /-- Bytes that are not UTF-8. -/
  | binary (bytes : List UInt8)
  deriving Repr, DecidableEq

/-- Bytes as text, if they are UTF-8. -/
def Body.ofBytes (bytes : List UInt8) : Body :=
  match String.fromUTF8? ⟨bytes.toArray⟩ with
  | some content => text content.toList
  | none => binary bytes

/-- Why a file cannot be read or written. -/
inductive Trouble
  | missing
  | notDirectory
  | isDirectory
  | nameTooLong
  /-- The file does not hold UTF-8. -/
  | notText
  | other (message : String)
  deriving Repr, DecidableEq

/-- The words for a trouble. -/
def Trouble.message : Trouble → String
  | missing => "No such file or directory (os error 2)"
  | notDirectory => "Not a directory (os error 20)"
  | isDirectory => "Is a directory (os error 21)"
  | nameTooLong => "File name too long (os error 36)"
  | notText => "stream did not contain valid UTF-8"
  | other message => message

/-- Access to files. -/
structure Disk (m : Type → Type) where
  /-- What a path leads to, if anything. -/
  status : Path → m (Option Status)
  /-- The names in a directory, in any order, if it can be read. -/
  list : Path → m (Option (List (List Char)))
  read : Path → m (Except Trouble Body)
  write : Path → List Char → m (Except Trouble Unit)

namespace Disk

variable {m : Type → Type} [Monad m]

/-- Whether a path leads to a directory. -/
def isDirectory (d : Disk m) (p : Path) : m Bool := return (← d.status p) == some .directory

/-- Whether a path leads to a file. -/
def isFile (d : Disk m) (p : Path) : m Bool := return (← d.status p) == some .file

/-- Whether a path leads anywhere. -/
def exists? (d : Disk m) (p : Path) : m Bool := return (← d.status p).isSome

end Disk

end CommentSieve.Files
