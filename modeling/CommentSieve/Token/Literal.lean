import CommentSieve.Text.Utf8
import CommentSieve.Token.Escape
import CommentSieve.Token.Frames

/-!
# Strings and templates

A literal is read character by character under the control of the stack of open
literals: the innermost one decides what a character means. A string ends at its
quote, and is broken by a line end. Template text ends at a back-tick or goes over
into an interpolation at `${`; inside the interpolation braces are counted, and
strings and templates open literals of their own. The outermost literal is
finished when the stack is empty.

Main results:

* `consumes_or_closes` — a step takes nothing only where a line end breaks a string.
* `measure_step` — every step uses up input or closes a literal, so that reading
  ends.
-/

namespace CommentSieve.Literal

open Text

/-- A literal that is being read. -/
structure State where
  frames : Frames
  /-- The characters read so far, last first. -/
  passed : List Char
  rest : List Char
  /-- The deepest nesting of interpolations so far. -/
  nesting : Nat := 0
  /-- Newest first. -/
  findings : List Finding := []
  deriving Repr, DecidableEq

namespace State

/-- The byte offset of the rest, for a literal that starts at byte `start`. -/
def offset (s : State) (start : Nat) : Nat := start + byteLength s.passed

/-- Moves one character over. -/
def advance (s : State) : State :=
  match s.rest with
  | [] => s
  | c :: cs => { s with passed := c :: s.passed, rest := cs }

/-- Moves an escape over; the rest starts with its backslash. -/
def skipEscape (form : Escape.Form) (s : State) : State :=
  match s.rest with
  | [] => s
  | c :: cs =>
    { s with
      passed := (Escape.split form cs).1.reverse ++ c :: s.passed
      rest := Escape.after form cs }

/-- Closes the innermost literal. -/
def close (s : State) : State := { s with frames := s.frames.pop }

/-- Notes something. -/
def note (s : State) (finding : Finding) : State := { s with findings := finding :: s.findings }

/-- Opens a literal at the current offset, or notes that the limit forbids it. -/
def openLiteral (start : Nat) (context : Context) (s : State) : State :=
  match s.frames.push? context with
  | some frames => { s with frames }
  | none => s.note (.depthExceeded s.frames.limit (s.offset start))

/-- Goes from template text into an interpolation. -/
def enterInterpolation (s : State) : State :=
  let frames := s.frames.setTop (.template 1)
  { s with frames, nesting := max s.nesting frames.nesting }

/-- Sets the number of open braces of the interpolation. -/
def setBraces (s : State) (braces : Nat) : State :=
  { s with frames := s.frames.setTop (.template braces) }

end State

/-! ## One step -/

/-- A character in a string. A line end is not taken: it breaks the string, and if
that was inside an interpolation, belongs to the expression around it. -/
def stepString (form : Escape.Form) (start : Nat) (quote c : Char) (s : State) : State :=
  if c = '\\' then s.skipEscape form
  else if c = '\n' then
    -- Only the outermost literal is a token, so only it is reported as malformed.
    if s.frames.depth = 1 then s.close.note (.malformed .string start)
    else s.close.note (.brokenNested (s.offset start))
  else if c = quote then s.close.advance
  else s.advance

/-- A character in template text, followed by `next`. -/
def stepTemplate (form : Escape.Form) (c : Char) (next : List Char) (s : State) : State :=
  if c = '\\' then s.skipEscape form
  else if c = '`' then s.close.advance
  else if c = '$' ∧ next.head? = some '{' then s.enterInterpolation.advance.advance
  else s.advance

/-- A character in an interpolation with `braces + 1` braces open. -/
def stepInterpolation (start braces : Nat) (c : Char) (s : State) : State :=
  if c = '{' then (s.setBraces (braces + 2)).advance
  else if c = '}' then (s.setBraces braces).advance
  else if c = '\'' ∨ c = '"' then (s.openLiteral start (.string c)).advance
  else if c = '`' then (s.openLiteral start (.template 0)).advance
  else s.advance

/-- One step of reading the literal that starts at byte `start`; nothing when no
literal is open or the input has ended. -/
def step (form : Escape.Form) (start : Nat) (s : State) : Option State :=
  match s.frames.top?, s.rest with
  | none, _ => none
  | _, [] => none
  | some (.string quote), c :: _ => some (stepString form start quote c s)
  | some (.template 0), c :: cs => some (stepTemplate form c cs s)
  | some (.template (braces + 1)), c :: _ => some (stepInterpolation start braces c s)
  -- Never on the stack; closing them keeps the step total.
  | some .code, _ :: _ | some .regex, _ :: _ | some .comment, _ :: _ => some s.close

/-! ## Reading ends -/

namespace State

theorem length_advance {s : State} {c : Char} {cs : List Char} (h : s.rest = c :: cs) :
    s.advance.rest.length < s.rest.length := by
  simp [advance, h]

/-- Passing an escape leaves less text. -/
theorem length_skipEscape {s : State} {c : Char} {cs : List Char} (form : Escape.Form)
    (h : s.rest = c :: cs) : (s.skipEscape form).rest.length < s.rest.length := by
  have := Escape.length_after_le form cs
  simp only [skipEscape, h, List.length_cons]
  omega

theorem length_advance_le (s : State) : s.advance.rest.length ≤ s.rest.length := by
  unfold advance
  split <;> simp_all

@[simp] theorem rest_openLiteral (start : Nat) (context : Context) (s : State) :
    (s.openLiteral start context).rest = s.rest := by
  unfold openLiteral
  split <;> rfl

/-- Closing a frame makes the stack shallower. -/
theorem depth_close {s : State} {context : Context} (h : s.frames.top? = some context) :
    s.close.frames.depth < s.frames.depth := by
  rcases s with ⟨⟨limit, _ | ⟨top, outer⟩⟩, _, _, _, _⟩
  · simp [Frames.top?] at h
  · simp [close, Frames.pop, Frames.depth]

end State

/-- Progress: less input, or the same input and fewer open literals. -/
def Progress (s t : State) : Prop :=
  t.rest.length < s.rest.length ∨
    (t.rest.length = s.rest.length ∧ t.frames.depth < s.frames.depth)

/-- A step uses up input, or it closes the innermost literal and takes nothing. For the literals
that are ever open the latter means that a line end breaks a string. -/
theorem consumes_or_closes {form : Escape.Form} {start : Nat} {s t : State}
    (h : step form start s = some t) :
    t.rest.length < s.rest.length ∨
      (t.rest = s.rest ∧ t.frames = s.close.frames ∧
        ∃ context c cs, s.frames.top? = some context ∧ s.rest = c :: cs ∧
          (context.isLiteral = true → (∃ quote, context = .string quote) ∧ c = '\n')) := by
  unfold step at h
  split at h
  · simp at h
  · simp at h
  · rename_i quote c cs htop hrest
    obtain rfl := Option.some.inj h
    unfold stepString
    split
    · exact .inl (State.length_skipEscape form hrest)
    · split
      · rename_i hLine
        -- Only the end of a line closes a literal without being passed.
        have hBroken : (Context.string quote).isLiteral = true →
            (∃ quote', Context.string quote = .string quote') ∧ c = '\n' :=
          fun _ => ⟨⟨quote, rfl⟩, hLine⟩
        split
        · exact .inr ⟨rfl, rfl, _, c, cs, htop, hrest, hBroken⟩
        · exact .inr ⟨rfl, rfl, _, c, cs, htop, hrest, hBroken⟩
      · split
        · exact .inl (State.length_advance (s := s.close) hrest)
        · exact .inl (State.length_advance hrest)
  · rename_i c cs htop hrest
    obtain rfl := Option.some.inj h
    unfold stepTemplate
    split
    · exact .inl (State.length_skipEscape form hrest)
    · split
      · exact .inl (State.length_advance (s := s.close) hrest)
      · split
        · have h₁ := State.length_advance (s := s.enterInterpolation) hrest
          have h₂ := State.length_advance_le s.enterInterpolation.advance
          exact .inl (Nat.lt_of_le_of_lt h₂ h₁)
        · exact .inl (State.length_advance hrest)
  · rename_i braces c cs htop hrest
    obtain rfl := Option.some.inj h
    unfold stepInterpolation
    repeat' split
    · exact .inl (State.length_advance (s := s.setBraces _) hrest)
    · exact .inl (State.length_advance (s := s.setBraces _) hrest)
    · have h₁ := State.length_advance (s := s.openLiteral start (.string c)) (by simpa using hrest)
      exact .inl (by simpa using h₁)
    · have h₁ := State.length_advance (s := s.openLiteral start (.template 0))
        (by simpa using hrest)
      exact .inl (by simpa using h₁)
    · exact .inl (State.length_advance hrest)
  all_goals
    rename_i htop hrest
    obtain rfl := Option.some.inj h
    exact .inr ⟨rfl, rfl, _, _, _, htop, hrest, fun hLiteral => absurd hLiteral (by decide)⟩

/-- Every step passes text or, where it passes none, closes a frame. -/
theorem measure_step {form : Escape.Form} {start : Nat} {s t : State}
    (h : step form start s = some t) : Progress s t := by
  rcases consumes_or_closes h with hLess | ⟨hRest, hFrames, context, c, cs, hTop, -⟩
  · exact .inl hLess
  · refine .inr ⟨congrArg List.length hRest, ?_⟩
    rw [hFrames]
    exact State.depth_close hTop

/-- Reads on until no step is possible. -/
def run (form : Escape.Form) (start : Nat) (s : State) : State :=
  match _h : step form start s with
  | none => s
  | some t => run form start t
termination_by (s.rest.length, s.frames.depth)
decreasing_by
  rcases measure_step _h with h' | ⟨h', h''⟩
  · exact Prod.Lex.left _ _ h'
  · rw [h']
    exact Prod.Lex.right _ h''

/-! ## Whole literals -/

/-- The findings for a literal that the input end leaves open: how many literals
were open, if more than the outermost, and the outermost as malformed. -/
def findingsAtEnd (start : Nat) (frames : Frames) : List Finding :=
  match frames.frame? 0 with
  | none => []
  | some outermost =>
    let unwound := if frames.depth > 1 then [Finding.unwound frames.depth] else []
    let what := match outermost with
      | .string _ => Malformed.stringAtEnd
      | _ => Malformed.templateAtEnd
    unwound ++ [.malformed what start]

/-- Everything found once reading has stopped, in order. -/
def State.allFindings (s : State) (start : Nat) : List Finding :=
  s.findings.reverse ++ findingsAtEnd start s.frames

/-- Reads a string where no literal may be opened: up to its quote, a line end or
the end of the input. Tells whether the quote was found. -/
def splitFlat (form : Escape.Form) (quote : Char) (passed : List Char) :
    List Char → Bool × List Char × List Char
  | [] => (false, passed, [])
  | c :: cs =>
    if c = '\\' then
      splitFlat form quote ((Escape.split form cs).1.reverse ++ c :: passed) (Escape.after form cs)
    else if c = '\n' then (false, passed, c :: cs)
    else if c = quote then (true, c :: passed, cs)
    else splitFlat form quote (c :: passed) cs
termination_by cs => cs.length
decreasing_by
  all_goals simp_wf
  have := Escape.length_after_le form cs
  omega

/-- Reads the string that starts with `quote` at byte `start`, given the text after
the quote. -/
def readString (form : Escape.Form) (limit start : Nat) (quote : Char) (cs : List Char) : Reading :=
  match Frames.push? { limit } (.string quote) with
  | some frames =>
    let s := run form start { frames, passed := [quote], rest := cs }
    { context := .string quote
      text := s.passed.reverse
      rest := s.rest
      findings := s.allFindings start }
  | none =>
    let (closed, passed, rest) := splitFlat form quote [quote] cs
    let broken := if closed then [] else [Finding.malformed .string start]
    { context := .string quote
      text := passed.reverse
      rest
      findings := .depthExceeded limit start :: broken }

/-- Reads the template that starts at byte `start`, given the text after the
back-tick. Where no literal may be opened it takes the rest of the input. -/
def readTemplate (form : Escape.Form) (limit start : Nat) (cs : List Char) : Reading :=
  match Frames.push? { limit } (.template 0) with
  | some frames =>
    let s := run form start { frames, passed := ['`'], rest := cs }
    { context := .template s.nesting
      text := s.passed.reverse
      rest := s.rest
      findings := s.allFindings start }
  | none =>
    { context := .template 0
      text := '`' :: cs
      rest := []
      findings := [.depthExceeded limit start] }

end CommentSieve.Literal
