import CommentSieve.Diagnostic.Snippet
import CommentSieve.Proofs.LookupCost
import CommentSieve.Proofs.ResumePoints

/-!
# What a snippet shows

A snippet is cut out of a text around an offset, with `radius` bytes on either side. The offset may
be inside of a character or past the end, and either side may end inside of a character or go past
an end. The offset and the start are rounded down and the end is rounded up, so that nothing is cut
inside of a character and no side is too short. A character has at most four bytes, so no side is
too long by more than three.

The same snippet is found by walking from an offset over the bytes to where a character starts, with
sums that stop at the greatest word and with cuts that are refused inside of a character
(`aroundByBytes?`). No cut is refused.

Main results:

* `isCeil_ceilBoundary` — the first place between two characters that is not before an offset.
* `IsFloor.near`, `IsCeil.near` — rounding moves an offset by at most three bytes.
* `betweenCharacters_iff` — the byte at an offset tells whether a character starts there.
* `window_of_rounded` — where a snippet starts and ends, from how the offsets are rounded.
* `Snippet.around_eq_slices` — a snippet is two slices of the text with the marker between them.
-/

namespace CommentSieve

open Text

variable {content : List Char} {offset place start middle stop : Nat}

/-! ## Rounding an offset -/

/-- The first place between two characters of a text that is not before an offset. -/
structure Text.IsCeil (content : List Char) (offset place : Nat) : Prop where
  boundary : IsBoundary content place
  ge : offset ≤ place
  first : ∀ other, IsBoundary content other → offset ≤ other → place ≤ other

theorem Text.IsCeil.unique {other : Nat} (h : IsCeil content offset place)
    (hOther : IsCeil content offset other) : place = other :=
  Nat.le_antisymm (h.first other hOther.boundary hOther.ge) (hOther.first place h.boundary h.ge)

/-- A boundary does not lie beyond the end of the text. -/
theorem Text.IsBoundary.le_byteLength (h : IsBoundary content place) :
    place ≤ byteLength content := by
  obtain ⟨u, v, rfl, rfl⟩ := h
  rw [byteLength_append]
  exact Nat.le_add_right ..

/-- A place between two characters is not rounded. -/
theorem Text.IsFloor.of_isBoundary (h : IsBoundary content place) : IsFloor content place place :=
  ⟨h, Nat.le_refl place, fun _ _ hOther => hOther⟩

theorem Text.IsCeil.of_isBoundary (h : IsBoundary content place) : IsCeil content place place :=
  ⟨h, Nat.le_refl place, fun _ _ hOther => hOther⟩

/-- Rounding up leaves a boundary where it is. -/
theorem Text.ceilBoundary_of_isBoundary (h : IsBoundary content place) :
    ceilBoundary content place = place := by
  obtain ⟨u, v, rfl, rfl⟩ := h
  suffices hGo : ∀ pos, ceilBoundary.go (pos + byteLength u) pos (u ++ v) = pos + byteLength u by
    have hStart := hGo 0
    rwa [Nat.zero_add] at hStart
  induction u with
  | nil =>
    intro pos
    cases v with
    | nil => rfl
    | cons c cs => exact if_pos (Nat.le_refl _)
  | cons c u ih =>
    intro pos
    have hPos := c.utf8Size_pos
    have hMore := ih (pos + c.utf8Size)
    rw [List.cons_append, ceilBoundary.go, byteLength_cons, if_neg (by omega), ← Nat.add_assoc]
    exact hMore

/-- Rounding up an offset inside the text does not lower it. -/
theorem Text.le_ceilBoundary (h : offset ≤ byteLength content) :
    offset ≤ ceilBoundary content offset := by
  suffices hGo : ∀ pos, offset ≤ pos + byteLength content →
      offset ≤ ceilBoundary.go offset pos content from hGo 0 (by omega)
  clear h
  induction content with
  | nil =>
    intro pos hRoom
    exact hRoom
  | cons c cs ih =>
    intro pos hRoom
    rw [byteLength_cons] at hRoom
    rw [ceilBoundary.go]
    split
    · assumption
    · exact ih (pos + c.utf8Size) (by omega)

/-- Rounding up gives the next boundary above an offset inside the text. -/
theorem Text.isCeil_ceilBoundary (h : offset ≤ byteLength content) :
    IsCeil content offset (ceilBoundary content offset) := by
  refine ⟨?_, le_ceilBoundary h, ?_⟩
  · obtain ⟨u, v, hContent, hCeil, -⟩ := exists_front_of_locate content offset
    exact ⟨u, v, hContent, hCeil.symm⟩
  · -- Rounding keeps the order, and leaves the other place where it is.
    intro other hOther hLe
    rw [← ceilBoundary_of_isBoundary hOther]
    exact ceilBoundary_mono content hLe

theorem Text.isFloor_floorBoundary (h : offset ≤ byteLength content) :
    IsFloor content offset (floorBoundary content offset) := by
  have hFloor := isFloor_cut content offset
  rwa [byteLength_cut, Nat.min_eq_left h] at hFloor

/-- The character in which an offset lies starts at most three bytes before it. -/
theorem Text.IsFloor.near (h : IsFloor content offset place) (hEnd : offset ≤ byteLength content) :
    offset ≤ place + 3 := by
  obtain ⟨u, v, rfl, rfl⟩ := h.boundary
  cases v with
  | nil =>
    rw [List.append_nil] at hEnd
    omega
  | cons c cs =>
    -- The place after the next character is too far on, or it would have been the last one.
    by_contra hFar
    have hSize := c.utf8Size_le_four
    have hPos := c.utf8Size_pos
    have hNext : IsBoundary (u ++ c :: cs) (byteLength u + c.utf8Size) :=
      ⟨u ++ [c], cs, by rw [List.append_assoc]; rfl, by rw [byteLength_append]; rfl⟩
    have hLast := h.last _ hNext (by omega)
    omega

/-- The character in which an offset lies ends at most three bytes after it. -/
theorem Text.IsCeil.near (h : IsCeil content offset place) : place ≤ offset + 3 := by
  obtain ⟨u, v, rfl, rfl⟩ := h.boundary
  rcases List.eq_nil_or_concat' u with rfl | ⟨w, c, rfl⟩
  · rw [byteLength_nil]
    exact Nat.zero_le _
  · -- The place before the last character is too far back, or it would have been the first one.
    by_contra hFar
    have hSize := c.utf8Size_le_four
    have hPos := c.utf8Size_pos
    have hPlace : byteLength (w ++ [c]) = byteLength w + c.utf8Size := byteLength_append ..
    have hBefore : IsBoundary (w ++ [c] ++ v) (byteLength w) :=
      ⟨w, [c] ++ v, List.append_assoc .., rfl⟩
    have hFirst := h.first _ hBefore (by omega)
    omega

/-! ## Cutting between characters -/

/-- A cut at a byte offset succeeds exactly where the text splits into a first part of that length
and a rest. -/
theorem Text.cutExactly?_eq_some_iff {u v : List Char} :
    cutExactly? content offset = some (u, v) ↔ content = u ++ v ∧ byteLength u = offset := by
  constructor
  · intro h
    obtain ⟨hExact, hPieces⟩ := Option.ite_none_right_eq_some.mp h
    have hWhole := cut_append content offset
    rw [Option.some.inj hPieces] at hExact hWhole
    exact ⟨hWhole.symm, hExact⟩
  · rintro ⟨rfl, rfl⟩
    simp only [cutExactly?, cut_append_left, if_true]

/-- The characters from one offset up to another. Refused if one of the two is inside of a
character or past the end, or if the second is before the first. -/
def Text.sliceExactly? (content : List Char) (start stop : Nat) : Option (List Char) :=
  if start ≤ stop then do
    let pieces ← cutExactly? content start
    let inner ← cutExactly? pieces.2 (stop - start)
    return inner.1
  else none

/-- What is cut out of a text stands in it between the two offsets. -/
theorem Text.sliceExactly?_eq_some_iff {piece : List Char} :
    sliceExactly? content start stop = some piece ↔
      ∃ before after, content = before ++ (piece ++ after) ∧ byteLength before = start ∧
        start + byteLength piece = stop := by
  constructor
  · -- A slice is two cuts, each of which is at a boundary or fails.
    intro h
    obtain ⟨hLe, h⟩ := Option.ite_none_right_eq_some.mp h
    obtain ⟨⟨before, rest⟩, hBefore, h⟩ := Option.bind_eq_some_iff.mp h
    obtain ⟨⟨inner, after⟩, hInner, h⟩ := Option.bind_eq_some_iff.mp h
    obtain rfl := Option.some.inj h
    obtain ⟨rfl, hStart⟩ := cutExactly?_eq_some_iff.mp hBefore
    obtain ⟨rfl, hLength⟩ := cutExactly?_eq_some_iff.mp hInner
    refine ⟨before, after, rfl, hStart, ?_⟩
    rw [hLength, Nat.add_sub_cancel' hLe]
  · rintro ⟨before, after, rfl, rfl, rfl⟩
    have hBefore : cutExactly? (before ++ (piece ++ after)) (byteLength before) =
        some (before, piece ++ after) := cutExactly?_eq_some_iff.mpr ⟨rfl, rfl⟩
    have hPiece : cutExactly? (piece ++ after) (byteLength piece) = some (piece, after) :=
      cutExactly?_eq_some_iff.mpr ⟨rfl, rfl⟩
    simp only [sliceExactly?, Nat.le_add_right, if_true, hBefore, Nat.add_sub_cancel_left,
      Option.bind_eq_bind, Option.bind_some, hPiece]
    rfl

/-- Between two characters no cut is refused. -/
theorem Text.sliceExactly?_eq_slice (hStart : IsBoundary content start)
    (hStop : IsBoundary content stop) (hLe : start ≤ stop) :
    sliceExactly? content start stop = some (slice content start stop) := by
  obtain ⟨before, rest, rfl, rfl⟩ := hStart
  obtain ⟨front, after, hContent, rfl⟩ := hStop
  have hFront : before <+: front := prefix_of_byteLength_le (List.prefix_append before rest)
    (hContent ▸ List.prefix_append front after) hLe
  obtain ⟨piece, rfl⟩ := hFront
  rw [List.append_assoc] at hContent
  rw [hContent, byteLength_append, slice_append]
  exact sliceExactly?_eq_some_iff.mpr ⟨before, after, rfl, rfl, rfl⟩

/-! ## Walking over bytes -/

/-- Whether a character starts or the text ends at an offset, as the byte there tells. -/
def Text.betweenCharacters (content : List Char) (offset : Nat) : Bool :=
  match (Recovery.bytes content)[offset]? with
  | some b => decide b.IsUTF8FirstByte
  | none => offset == (Recovery.bytes content).length

/-- The boundaries of a text are its start and those of its tail, moved by the first character. -/
theorem Text.isBoundary_cons_iff {c : Char} {cs : List Char} :
    IsBoundary (c :: cs) offset ↔
      offset = 0 ∨ c.utf8Size ≤ offset ∧ IsBoundary cs (offset - c.utf8Size) := by
  constructor
  · rintro ⟨u, v, hContent, rfl⟩
    cases u with
    | nil => exact .inl rfl
    | cons d u =>
      obtain ⟨rfl, rfl⟩ := List.cons.inj hContent
      rw [byteLength_cons, Nat.add_sub_cancel_left]
      exact .inr ⟨Nat.le_add_right .., u, v, rfl, rfl⟩
  · rintro (rfl | ⟨hSize, u, v, rfl, hLength⟩)
    · exact ⟨[], c :: cs, rfl, rfl⟩
    · exact ⟨c :: u, v, rfl, by rw [byteLength_cons, hLength]; omega⟩

/-- Of the bytes of a character the first one tells that a character starts. -/
theorem Text.betweenCharacters_cons {c : Char} {cs : List Char} :
    betweenCharacters (c :: cs) offset = true ↔
      offset = 0 ∨ c.utf8Size ≤ offset ∧ betweenCharacters cs (offset - c.utf8Size) = true := by
  have hPos := c.utf8Size_pos
  have hLength := String.length_utf8EncodeChar c
  have hBytes : Recovery.bytes (c :: cs) = String.utf8EncodeChar c ++ Recovery.bytes cs :=
    List.flatMap_cons
  unfold betweenCharacters
  rw [hBytes, List.length_append, hLength]
  by_cases hInside : offset < c.utf8Size
  · -- The byte is one of the character.
    have hByte : offset < (String.utf8EncodeChar c).length := hLength ▸ hInside
    rw [List.getElem?_append_left hByte, List.getElem?_eq_getElem hByte]
    dsimp only
    rw [decide_eq_true_iff, UInt8.isUTF8FirstByte_getElem_utf8EncodeChar]
    omega
  · -- The byte is one of those after the character, or the text ends there.
    rw [List.getElem?_append_right (by omega), hLength]
    have hOffset : (offset == c.utf8Size + (Recovery.bytes cs).length) =
        (offset - c.utf8Size == (Recovery.bytes cs).length) := by
      rw [Bool.eq_iff_iff, beq_iff_eq, beq_iff_eq]
      omega
    rw [hOffset]
    constructor
    · intro h
      exact .inr ⟨by omega, h⟩
    · rintro (rfl | ⟨-, h⟩)
      · omega
      · exact h

/-- **The byte at an offset tells whether a character starts there.** -/
theorem Text.betweenCharacters_iff :
    betweenCharacters content offset = true ↔ IsBoundary content offset := by
  induction content generalizing offset with
  | nil =>
    show (offset == 0) = true ↔ _
    rw [beq_iff_eq]
    constructor
    · rintro rfl
      exact ⟨[], [], rfl, rfl⟩
    · intro h
      exact Nat.le_zero.mp h.le_byteLength
  | cons c cs ih => rw [betweenCharacters_cons, isBoundary_cons_iff, ih]

/-- The walk from an offset back to a place between two characters, byte by byte. -/
def Text.walkDown (content : List Char) : Nat → Nat
  | 0 => 0
  | offset + 1 =>
    if betweenCharacters content (offset + 1) then offset + 1 else walkDown content offset

/-- The walk from an offset on to a place between two characters, byte by byte. -/
def Text.walkUp (content : List Char) (offset : Nat) : Nat :=
  if offset < byteLength content ∧ betweenCharacters content offset = false then
    walkUp content (offset + 1)
  else offset
termination_by byteLength content - offset

/-- Walking down byte by byte ends at the last boundary below. -/
theorem Text.isFloor_walkDown (content : List Char) (offset : Nat) :
    IsFloor content offset (walkDown content offset) := by
  induction offset with
  | zero => exact .of_isBoundary ⟨[], content, rfl, rfl⟩
  | succ offset ih =>
    rw [walkDown]
    split
    · rename_i hBetween
      exact .of_isBoundary (betweenCharacters_iff.mp hBetween)
    · rename_i hInside
      refine ⟨ih.boundary, Nat.le_succ_of_le ih.le, ?_⟩
      intro other hBoundary hOther
      have hNe : other ≠ offset + 1 := by
        rintro rfl
        exact hInside (betweenCharacters_iff.mpr hBoundary)
      exact ih.last other hBoundary (by omega)

/-- Walking up byte by byte ends at the next boundary above. -/
theorem Text.isCeil_walkUp (h : offset ≤ byteLength content) :
    IsCeil content offset (walkUp content offset) := by
  fun_induction walkUp content offset with
  | case1 offset hInside ih =>
    have hMore := ih hInside.1
    refine ⟨hMore.boundary, Nat.le_of_succ_le hMore.ge, ?_⟩
    -- No place is at the offset itself, so that all others are not before the next one.
    intro other hBoundary hOther
    have hNe : offset ≠ other := by
      rintro rfl
      rw [betweenCharacters_iff.mpr hBoundary] at hInside
      exact absurd hInside.2 (by decide)
    exact hMore.first other hBoundary (by omega)
  | case2 offset hStop =>
    refine .of_isBoundary ?_
    -- The walk ends between two characters or at the end of the text.
    by_cases hEnd : offset < byteLength content
    · apply betweenCharacters_iff.mp
      simpa [hEnd] using hStop
    · exact ⟨content, [], (List.append_nil content).symm, by omega⟩

/-! ## Snippets -/

namespace Snippet

/-- A snippet by walks over bytes. No sum exceeds the greatest word, and there is no snippet if
something is cut inside of a character. -/
def aroundByBytes? (content : List Char) (position radius : Nat) : Option String := do
  let length := byteLength content
  let middle := walkDown content (min position length)
  let start := walkDown content (middle - radius)
  let stop := walkUp content (min (min (middle + radius) maxWord) length)
  let left ← sliceExactly? content start middle
  let right ← sliceExactly? content middle stop
  return String.ofList left ++ marker ++ String.ofList right

/-- Where a snippet starts, where its marker stands and where it ends. -/
structure Window (content : List Char) (position radius start middle stop : Nat) : Prop where
  /-- The marker stands at the offset, rounded down if it is inside of a character. -/
  middle_floor : IsFloor content (min position (byteLength content)) middle
  start_boundary : IsBoundary content start
  stop_boundary : IsBoundary content stop
  start_le : start ≤ middle
  le_stop : middle ≤ stop
  /-- Before the marker there are `radius` bytes, or all there are, and what rounding adds. -/
  left_ge : min radius middle ≤ middle - start
  left_le : middle - start ≤ min radius middle + 3
  /-- So there are after it. -/
  right_ge : min radius (byteLength content - middle) ≤ stop - middle
  right_le : stop - middle ≤ min radius (byteLength content - middle) + 3

variable {position radius : Nat}

/-- Three rounded offsets make a window around the position. -/
theorem window_of_rounded (hMiddle : IsFloor content (min position (byteLength content)) middle)
    (hStart : IsFloor content (middle - radius) start)
    (hStop : IsCeil content (min (middle + radius) (byteLength content)) stop) :
    Window content position radius start middle stop := by
  have hEnd := hMiddle.boundary.le_byteLength
  -- Each side is rounded away from the marker, by three bytes at most.
  have hLeft := hStart.le
  have hLeftNear := hStart.near (Nat.le_trans (Nat.sub_le ..) hEnd)
  have hRight := hStop.ge
  have hRightNear := hStop.near
  refine ⟨hMiddle, hStart.boundary, hStop.boundary, ?_, ?_, ?_, ?_, ?_, ?_⟩
  all_goals omega

/-- **A snippet is two slices of the text with the marker between them.** Whatever the text, the
offset and the radius, the three places of a snippet are between characters and in order; the
marker stands at the offset, which is taken as the end if it is past it and rounded down if it is
inside of a character; and each side has as many bytes as asked for, or as there are, and at most
three more. The walks over bytes with sums of words find the same snippet, and none of their cuts
is refused. -/
theorem around_eq_slices (content : List Char) (position radius : Nat)
    (hWord : byteLength content ≤ maxWord) :
    ∃ start middle stop left right,
      Window content position radius start middle stop ∧
      sliceExactly? content start middle = some left ∧
      sliceExactly? content middle stop = some right ∧
      around content position radius = String.ofList left ++ marker ++ String.ofList right ∧
      aroundByBytes? content position radius = some (around content position radius) := by
  let middle := floorBoundary content (min position (byteLength content))
  let start := floorBoundary content (middle - radius)
  let stop := ceilBoundary content (min (middle + radius) (byteLength content))
  have hMiddle : IsFloor content (min position (byteLength content)) middle :=
    isFloor_floorBoundary (Nat.min_le_right ..)
  have hEnd : middle ≤ byteLength content := hMiddle.boundary.le_byteLength
  have hStart : IsFloor content (middle - radius) start :=
    isFloor_floorBoundary (Nat.le_trans (Nat.sub_le ..) hEnd)
  have hStop : IsCeil content (min (middle + radius) (byteLength content)) stop :=
    isCeil_ceilBoundary (Nat.min_le_right ..)
  have hWindow := window_of_rounded hMiddle hStart hStop
  have hLeft := sliceExactly?_eq_slice hStart.boundary hMiddle.boundary hWindow.start_le
  have hRight := sliceExactly?_eq_slice hMiddle.boundary hStop.boundary hWindow.le_stop
  refine ⟨start, middle, stop, _, _, hWindow, hLeft, hRight, rfl, ?_⟩
  -- The walks end at the same places. A sum that stops at the greatest word is past the end.
  have hSum : min (min (middle + radius) maxWord) (byteLength content) =
      min (middle + radius) (byteLength content) := by omega
  have hWalkMiddle : walkDown content (min position (byteLength content)) = middle :=
    (isFloor_walkDown content _).unique hMiddle
  have hWalkStart : walkDown content (middle - radius) = start :=
    (isFloor_walkDown content _).unique hStart
  have hWalkStop : walkUp content (min (middle + radius) (byteLength content)) = stop :=
    (isCeil_walkUp (Nat.min_le_right ..)).unique hStop
  simp only [aroundByBytes?, hWalkMiddle, hWalkStart, hSum, hWalkStop, hLeft, hRight]
  rfl

/-- An offset inside of a character, and the greatest radius. -/
theorem around_eq_slices_inside :
    let content := ['é', '😀', 'x']
    byteLength content ≤ maxWord ∧
    (∃ start middle stop, Window content 4 maxWord start middle stop) ∧
    aroundByBytes? content 4 maxWord = some "é<<<ERROR>>>😀x" := by
  intro content
  have hWord : byteLength content ≤ maxWord := by decide
  obtain ⟨start, middle, stop, left, right, hWindow, -, -, -, hBytes⟩ :=
    around_eq_slices content 4 maxWord hWord
  refine ⟨hWord, ⟨start, middle, stop, hWindow⟩, ?_⟩
  rw [hBytes]
  decide

example : around ['é', '😀', 'x'] 4 1 = "é<<<ERROR>>>😀" := by decide

end Snippet

end CommentSieve
