import CommentSieve.Text.Utf8

/-!
# Lines and columns

A location counts lines and columns from one, columns in characters. There are
two ways to find the location of a byte offset: `locate` reads the text from its
start, and a `LineIndex` remembers where lines start and where the last question
was answered, so that questions in ascending order walk the text once in all.
-/

namespace CommentSieve

/-- A place in a text, as a person would name it. -/
structure Location where
  line : Nat
  column : Nat
  deriving Repr, DecidableEq

namespace Location

/-- The first character of a text. -/
def first : Location := ⟨1, 1⟩

/-- The location after reading `c`: a line feed starts a line, all else a column. -/
def after (l : Location) (c : Char) : Location :=
  if c = '\n' then ⟨l.line + 1, 1⟩ else ⟨l.line, l.column + 1⟩

end Location

/-- The location of a byte offset, by reading every character that starts before
it. An offset past the end is the location after the last character. -/
def locate (content : List Char) (position : Nat) : Location := go .first 0 content
where
  /-- `pos` is the byte offset of the characters still to read. -/
  go (here : Location) (pos : Nat) : List Char → Location
    | [] => here
    | c :: cs => if position ≤ pos then here else go (here.after c) (pos + c.utf8Size) cs

/-! ## Incremental lookup -/

/-- A byte offset and its location. -/
structure Mark where
  offset : Nat
  location : Location
  deriving Repr, DecidableEq

/-- Line starts of one text, the last answer, and the number of bytes walked to
count columns. Empty until the first question is asked. -/
structure LineIndex where
  starts : List Nat := []
  last : Option Mark := none
  scanned : Nat := 0
  deriving Repr, DecidableEq

/-- The byte offsets at which the lines of a text start. -/
def lineStarts (content : List Char) : List Nat := 0 :: go 0 content
where
  /-- The line starts after `pos`, where the remaining characters begin. -/
  go (pos : Nat) : List Char → List Nat
    | [] => []
    | c :: cs =>
      let next := pos + c.utf8Size
      if c = '\n' then next :: go next cs else go next cs

namespace LineIndex

/-- Where counting columns may start for an offset on the line that starts at
`lineStart`: at the last answer if it lies on that line and not past the offset,
else at the line start. -/
def origin (index : LineIndex) (line lineStart position : Nat) : Mark :=
  match index.last with
  | some mark =>
    if mark.location.line = line ∧ lineStart ≤ mark.offset ∧ mark.offset ≤ position then mark
    else ⟨lineStart, line, 1⟩
  | none => ⟨lineStart, line, 1⟩

/-- The location of a byte offset, and the index with that answer remembered.
Every question until a reset has to be about the same text. -/
def locate (index : LineIndex) (content : List Char) (position : Nat) : Location × LineIndex :=
  let starts := if index.starts.isEmpty then lineStarts content else index.starts
  let position := Text.ceilBoundary content (min position (Text.byteLength content))
  -- The first line starts at 0, so at least one line start is passed.
  let passed := starts.takeWhile (· ≤ position)
  let line := passed.length
  let origin := index.origin line (passed.getLastD 0) position
  let walked := (Text.slice content origin.offset position).length
  let location := ⟨line, origin.location.column + walked⟩
  (location,
    { starts, last := some ⟨position, location⟩,
      scanned := index.scanned + (position - origin.offset) })

end LineIndex

end CommentSieve
