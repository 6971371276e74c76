import CommentSieve.Diagnostic.Location
import Mathlib.Data.List.Infix

/-!
# Looking up lines by an index

A location can be found by reading the text from its start, or from an index of the line
starts and the place of the last answer. Both give the location after some front of the
text (`Location.reading`), the shortest that reaches the offset. The index finds it from
the last line start in that front, or from the last answer if no line ends between: there
every character is one more column.

Main results:

* `exists_front_of_locate` — a location is where reading a front of the text leads.
* `exists_lastLine` — it counts the line starts, and the characters since the last one.
* `LineIndex.locate_eq` — the index gives the same location as reading from the start, and
  stays right for its text.
* `LineIndex.answers_eq_readings` — so it does in every run of questions, whatever their order.
-/

namespace CommentSieve

open Text

/-- Where reading `cs` from the start of a text leads. -/
def Location.reading (cs : List Char) : Location := cs.foldl Location.after Location.first

@[simp] theorem Location.reading_concat (cs : List Char) (c : Char) :
    reading (cs ++ [c]) = (reading cs).after c := by
  rw [reading, List.foldl_append]
  rfl

/-- Without a line end every character is one more column. -/
theorem Location.reading_append {z : List Char} (h : '\n' ∉ z) (w : List Char) :
    reading (w ++ z) = ⟨(reading w).line, (reading w).column + z.length⟩ := by
  induction z using List.reverseRecOn with
  | nil => simp
  | append_singleton z c ih =>
    have hFirst : '\n' ∉ z := fun hz => h (List.mem_append_left _ hz)
    have hLast : c ≠ '\n' := by
      rintro rfl
      exact h (List.mem_append_right _ (List.mem_singleton_self _))
    rw [← List.append_assoc, reading_concat, ih hFirst, after, if_neg hLast, List.length_append]
    rfl

/-- Every line end starts a line. -/
theorem Location.line_reading_append (w z : List Char) :
    (reading (w ++ z)).line = (reading w).line + z.count '\n' := by
  induction z using List.reverseRecOn with
  | nil => simp
  | append_singleton z c ih =>
    rw [← List.append_assoc, reading_concat, after, List.count_append, ← Nat.add_assoc, ← ih]
    by_cases hEnd : c = '\n'
    · simp [hEnd]
    · simp [hEnd]

/-! ## The front of a text up to an offset -/

/-- A location is where reading a front of the text leads, the one that ends at the least
boundary not below the offset. -/
theorem exists_front_of_locate (content : List Char) (position : Nat) :
    ∃ u v, content = u ++ v ∧ ceilBoundary content position = byteLength u ∧
      locate content position = .reading u := by
  suffices hGo : ∀ here pos, ∃ u v, content = u ++ v ∧
      ceilBoundary.go position pos content = pos + byteLength u ∧
      locate.go position here pos content = u.foldl Location.after here by
    obtain ⟨u, v, hContent, hCeil, hLocate⟩ := hGo .first 0
    exact ⟨u, v, hContent, by rw [ceilBoundary, hCeil, Nat.zero_add], hLocate⟩
  induction content with
  | nil =>
    intro here pos
    exact ⟨[], [], rfl, rfl, rfl⟩
  | cons c cs ih =>
    intro here pos
    rw [ceilBoundary.go, locate.go]
    split
    · exact ⟨[], c :: cs, rfl, rfl, rfl⟩
    · obtain ⟨u, v, hContent, hCeil, hLocate⟩ := ih (here.after c) (pos + c.utf8Size)
      refine ⟨c :: u, v, by rw [hContent, List.cons_append], ?_, hLocate⟩
      rw [hCeil, byteLength_cons, Nat.add_assoc]

/-- Where a front of the text ends, the location is where reading it leads. -/
theorem locate_append (u v : List Char) : locate (u ++ v) (byteLength u) = .reading u := by
  suffices hGo : ∀ here pos, locate.go (pos + byteLength u) here pos (u ++ v) =
      u.foldl Location.after here by
    have hStart := hGo .first 0
    rwa [Nat.zero_add] at hStart
  induction u with
  | nil =>
    intro here pos
    cases v with
    | nil => rfl
    | cons c cs => exact if_pos (Nat.le_refl pos)
  | cons c u ih =>
    intro here pos
    have hPos := c.utf8Size_pos
    have hBefore : ¬ pos + byteLength (c :: u) ≤ pos := by
      rw [byteLength_cons]
      omega
    have hMore := ih (here.after c) (pos + c.utf8Size)
    rw [Nat.add_assoc, ← byteLength_cons] at hMore
    rw [List.cons_append, locate.go, if_neg hBefore, hMore, List.foldl_cons]

/-- Past the end of a text every offset means its end. -/
theorem ceilBoundary_min (content : List Char) (position : Nat) :
    ceilBoundary content (min position (byteLength content)) = ceilBoundary content position := by
  suffices hGo : ∀ pos, ceilBoundary.go (min position (pos + byteLength content)) pos content =
      ceilBoundary.go position pos content by
    have hStart := hGo 0
    rwa [Nat.zero_add] at hStart
  induction content with
  | nil =>
    intro pos
    rfl
  | cons c cs ih =>
    intro pos
    have hPos := c.utf8Size_pos
    have hSame : min position (pos + byteLength (c :: cs)) ≤ pos ↔ position ≤ pos := by
      rw [byteLength_cons]
      omega
    have hMore := ih (pos + c.utf8Size)
    rw [Nat.add_assoc, ← byteLength_cons] at hMore
    rw [ceilBoundary.go, ceilBoundary.go]
    simp only [hSame, hMore]

/-- Of two fronts of a text, the one with fewer bytes is a front of the other. -/
theorem prefix_of_byteLength_le {w u content : List Char} (hw : w <+: content)
    (hu : u <+: content) (hLe : byteLength w ≤ byteLength u) : w <+: u := by
  rcases List.prefix_or_prefix_of_prefix hw hu with h | ⟨z, rfl⟩
  · exact h
  · have hEmpty : z = [] := by
      by_contra hNe
      have hPos := byteLength_pos hNe
      rw [byteLength_append] at hLe
      omega
    rw [hEmpty, List.append_nil]

/-! ## Line starts -/

/-- The line starts of a text are those of its front and those after it. -/
theorem lineStarts_go_append (pos : Nat) (u v : List Char) :
    lineStarts.go pos (u ++ v) = lineStarts.go pos u ++ lineStarts.go (pos + byteLength u) v := by
  induction u generalizing pos with
  | nil => rfl
  | cons c u ih =>
    have hMore := ih (pos + c.utf8Size)
    rw [Nat.add_assoc] at hMore
    rw [List.cons_append, lineStarts.go, lineStarts.go, byteLength_cons, hMore]
    split
    · rw [List.cons_append]
    · rfl

/-- A line starts after a character of the text. -/
theorem bounds_of_mem_lineStarts_go {pos start : Nat} {cs : List Char}
    (h : start ∈ lineStarts.go pos cs) : pos < start ∧ start ≤ pos + byteLength cs := by
  induction cs generalizing pos with
  | nil => simp [lineStarts.go] at h
  | cons c cs ih =>
    have hPos := c.utf8Size_pos
    rw [lineStarts.go] at h
    rw [byteLength_cons]
    split at h
    · rcases List.mem_cons.mp h with rfl | h
      · omega
      · have hBounds := ih h
        omega
    · have hBounds := ih h
      omega

/-- The lines that start in a front of a text are those that start up to its end. -/
theorem takeWhile_lineStarts (u v : List Char) :
    (lineStarts (u ++ v)).takeWhile (· ≤ byteLength u) = lineStarts u := by
  have hSplit : lineStarts (u ++ v) = lineStarts u ++ lineStarts.go (byteLength u) v := by
    rw [lineStarts, lineStarts_go_append, Nat.zero_add]
    rfl
  have hWithin : ∀ start ∈ lineStarts u, decide (start ≤ byteLength u) = true := by
    intro start hStart
    rcases List.mem_cons.mp hStart with rfl | hStart
    · simp
    · have hBounds := bounds_of_mem_lineStarts_go hStart
      simpa using hBounds.2
  -- a line that starts in the rest starts after its first character
  have hBeyond : (lineStarts.go (byteLength u) v).takeWhile (· ≤ byteLength u) = [] := by
    cases hStarts : lineStarts.go (byteLength u) v with
    | nil => rfl
    | cons start starts =>
      have hMem : start ∈ lineStarts.go (byteLength u) v := by simp [hStarts]
      have hBounds := bounds_of_mem_lineStarts_go hMem
      rw [List.takeWhile_cons_of_neg]
      simpa using hBounds.1
  rw [hSplit, List.takeWhile_append_of_pos hWithin, hBeyond, List.append_nil]

/-- A text is its whole lines and then a part of a line: the location after it counts the
line starts, and the characters since the last of them. -/
theorem exists_lastLine (u : List Char) :
    ∃ x y, u = x ++ y ∧ '\n' ∉ y ∧ byteLength x = (lineStarts u).getLastD 0 ∧
      Location.reading u = ⟨(lineStarts u).length, y.length + 1⟩ := by
  induction u using List.reverseRecOn with
  | nil => exact ⟨[], [], rfl, by simp, rfl, rfl⟩
  | append_singleton u c ih =>
    obtain ⟨x, y, hu, hLine, hStart, hReading⟩ := ih
    have hStarts : lineStarts (u ++ [c]) =
        lineStarts u ++ if c = '\n' then [byteLength (u ++ [c])] else [] := by
      rw [lineStarts, lineStarts_go_append, Nat.zero_add, byteLength_append]
      rfl
    rw [hStarts, Location.reading_concat, hReading, Location.after]
    split
    · -- a new line starts here, with nothing on it yet
      exact ⟨u ++ [c], [], by simp, by simp, by simp, by simp⟩
    · rename_i hc
      refine ⟨x, y ++ [c], by rw [hu, List.append_assoc], ?_, ?_, ?_⟩
      · simpa using ⟨hLine, Ne.symm hc⟩
      · rw [List.append_nil, hStart]
      · simp

/-! ## The index -/

/-- A mark that is right for a text. -/
def Mark.IsRight (content : List Char) (mark : Mark) : Prop :=
  ∃ w, w <+: content ∧ byteLength w = mark.offset ∧ mark.location = .reading w

namespace LineIndex

/-- What an index holds after questions about one text. -/
structure Valid (content : List Char) (index : LineIndex) : Prop where
  starts : index.starts = [] ∨ index.starts = lineStarts content
  last : ∀ mark ∈ index.last, mark.IsRight content

theorem Valid.empty (content : List Char) : Valid content {} := ⟨.inl rfl, by simp⟩

/-- Where columns are counted from: a place on the line of the offset, in front of it. -/
theorem exists_of_origin {content u : List Char} {index : LineIndex} (hu : u <+: content)
    (hIndex : index.Valid content) :
    ∃ w z, u = w ++ z ∧ '\n' ∉ z ∧
      (index.origin (lineStarts u).length ((lineStarts u).getLastD 0) (byteLength u)).offset =
        byteLength w ∧
      (index.origin (lineStarts u).length ((lineStarts u).getLastD 0)
        (byteLength u)).location.column = (Location.reading w).column := by
  obtain ⟨x, y, rfl, hLine, hStart, hReading⟩ := exists_lastLine u
  -- The start of the line always serves.
  have hFallback : ∃ w z, x ++ y = w ++ z ∧ '\n' ∉ z ∧
      (lineStarts (x ++ y)).getLastD 0 = byteLength w ∧ 1 = (Location.reading w).column := by
    refine ⟨x, y, rfl, hLine, hStart.symm, ?_⟩
    have hColumn := congrArg Location.column hReading
    rw [Location.reading_append hLine] at hColumn
    simp only at hColumn
    omega
  unfold origin
  cases hLast : index.last with
  | none => exact hFallback
  | some mark =>
    dsimp only
    split
    · rename_i hOn
      obtain ⟨-, hFrom, hTo⟩ := hOn
      obtain ⟨w, hw, hOffset, hLocation⟩ := hIndex.last mark hLast
      -- The last answer lies between the start of the line and the offset.
      have hx : x <+: w := by
        apply prefix_of_byteLength_le ((List.prefix_append x y).trans hu) hw
        rw [hStart, hOffset]
        exact hFrom
      have hxy : w <+: x ++ y := prefix_of_byteLength_le hw hu (hOffset ▸ hTo)
      obtain ⟨z, hz⟩ := hxy
      refine ⟨w, z, hz.symm, ?_, hOffset.symm, by rw [hLocation]⟩
      obtain ⟨y', rfl⟩ := hx
      rw [List.append_assoc] at hz
      have hy := List.append_cancel_left hz
      exact fun hMem => hLine (hy ▸ List.mem_append_right _ hMem)
    · exact hFallback

/-- **The index gives the same locations as reading from the start**, whatever it was asked
before about the same text, and for offsets inside a character or past the end as well. -/
theorem locate_eq {content : List Char} {index : LineIndex} (hIndex : index.Valid content)
    (position : Nat) :
    (index.locate content position).1 = CommentSieve.locate content position ∧
      (index.locate content position).2.Valid content := by
  obtain ⟨u, v, rfl, hCeil, hLocate⟩ := exists_front_of_locate content position
  have hStarts : (if index.starts.isEmpty then lineStarts (u ++ v) else index.starts) =
      lineStarts (u ++ v) := by
    rcases hIndex.starts with hNone | hAll
    · simp [hNone]
    · simp [hAll]
  have hu := List.prefix_append u v
  obtain ⟨w, z, rfl, hLine, hOffset, hColumn⟩ := exists_of_origin hu hIndex
  have hReading := Location.reading_append hLine w
  have hLines : (lineStarts (w ++ z)).length = (Location.reading w).line := by
    obtain ⟨_, _, -, -, -, hCount⟩ := exists_lastLine (w ++ z)
    rw [hReading] at hCount
    exact (congrArg Location.line hCount).symm
  -- only the part after the origin is read again
  have hWalked : slice (w ++ z ++ v) (byteLength w) (byteLength (w ++ z)) = z := by
    rw [List.append_assoc, byteLength_append]
    exact slice_append w z v
  have hAnswer : (index.locate (w ++ z ++ v) position).1 = .reading (w ++ z) := by
    simp only [locate, hStarts, ceilBoundary_min, hCeil, takeWhile_lineStarts, hOffset, hColumn,
      hWalked]
    rw [hReading, hLines]
  refine ⟨hAnswer.trans hLocate.symm, ?_, ?_⟩
  · right
    exact hStarts
  · -- the answer is the next mark
    intro mark hMark
    obtain rfl := Option.some.inj hMark
    refine ⟨w ++ z, hu, ?_, hAnswer⟩
    simp only [ceilBoundary_min, hCeil]

/-! ## Runs of questions -/

/-- What an index is asked for: the location of a byte offset in its text, or to begin with
another text. -/
inductive Request
  | locate (position : Nat)
  | reset (content : List Char)
  deriving Repr, DecidableEq

/-- The answers of an index that belongs to the text `content`. -/
def answers (index : LineIndex) (content : List Char) : List Request → List Location
  | [] => []
  | .locate position :: requests =>
    let (location, index) := index.locate content position
    location :: index.answers content requests
  | .reset content :: requests => answers {} content requests

/-- The answers that reading the text from its start each time would give. -/
def readings (content : List Char) : List Request → List Location
  | [] => []
  | .locate position :: requests =>
    CommentSieve.locate content position :: readings content requests
  | .reset content :: requests => readings content requests

/-- An index that is right for its text gives the right answers from there on. -/
theorem Valid.answers_eq {content : List Char} {index : LineIndex}
    (hIndex : index.Valid content) (requests : List Request) :
    index.answers content requests = readings content requests := by
  induction requests generalizing content index with
  | nil => rfl
  | cons request requests ih =>
    cases request with
    | locate position =>
      -- one answer, and an index that is still right
      obtain ⟨hLocation, hNext⟩ := locate_eq hIndex position
      show (index.locate content position).1 ::
          (index.locate content position).2.answers content requests = _
      rw [hLocation, ih hNext]
      rfl
    | reset content' => exact ih (.empty content')

/-- **Looking up lines by an index gives the same locations as reading from the start**, for
every run of questions, in any order and with offsets anywhere, and whenever the index is
given another text to begin with. -/
theorem answers_eq_readings (content : List Char) (requests : List Request) :
    ({} : LineIndex).answers content requests = readings content requests :=
  (Valid.empty content).answers_eq requests

end LineIndex

end CommentSieve
