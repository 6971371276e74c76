import CommentSieve.Command.Run

/-!
# The program

Runs the command on the files of the machine and prints what it reports.
-/

namespace CommentSieve

open Files

/-- The trouble that an error of the machine stands for. -/
def troubleOf : IO.Error → Trouble
  | .noFileOrDirectory .. => .missing
  | .inappropriateType _ 20 _ => .notDirectory
  | .invalidArgument _ 36 _ => .nameTooLong
  | error => .other (toString error)

/-- The files of the machine, seen from the current directory. -/
def machine : Disk IO where
  status p := do
    match ← (IO.FS.DirEntry.mk "." (String.ofList p)).path.metadata.toBaseIO with
    | .error _ => return none
    | .ok data =>
      match data.type with
      | .dir => return some .directory
      | .file => return some .file
      | _ => return some .device
  list p := do
    match ← (IO.FS.DirEntry.mk "." (String.ofList p)).path.readDir.toBaseIO with
    | .error _ => return none
    | .ok entries => return some (entries.toList.map (·.fileName.toList))
  read p := do
    let place := (IO.FS.DirEntry.mk "." (String.ofList p)).path
    if ← place.isDir then return .error .isDirectory
    match ← (IO.FS.readBinFile place).toBaseIO with
    | .error error => return .error (troubleOf error)
    | .ok bytes => return .ok (.ofBytes bytes.toList)
  write p content := do
    let place := (IO.FS.DirEntry.mk "." (String.ofList p)).path
    match ← (IO.FS.writeFile place (String.ofList content)).toBaseIO with
    | .error error => return .error (troubleOf error)
    | .ok () => return .ok ()

end CommentSieve

/-- Runs the program with its arguments. -/
def main (arguments : List String) : IO UInt32 := do
  let outcome ← CommentSieve.Command.run CommentSieve.machine arguments
  outcome.output.forM fun line => IO.println line
  match outcome.error with
  | some line => IO.eprintln line
  | none => pure ()
  return outcome.code.toUInt32
