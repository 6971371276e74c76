/-!
# Byte offsets in a text

A text is a list of characters; offsets into it count the bytes of its UTF-8
form. An offset is a *boundary* when it falls between two characters, or at
either end. Offsets that come from outside may fall inside a character or past
the end, so they are rounded before a text is cut.

Main results:

* `cut_append` — cutting a text loses nothing.
* `byteLength_cut` — what is cut off ends at the boundary below the offset.
* `slice_append` — the characters between two boundaries are the piece between them.
-/

namespace CommentSieve.Text

/-- The number of bytes a text takes in UTF-8. -/
def byteLength (cs : List Char) : Nat := cs.foldr (fun c n => c.utf8Size + n) 0

@[simp] theorem byteLength_nil : byteLength [] = 0 := rfl

@[simp] theorem byteLength_cons (c : Char) (cs : List Char) :
    byteLength (c :: cs) = c.utf8Size + byteLength cs := rfl

@[simp] theorem byteLength_append (as bs : List Char) :
    byteLength (as ++ bs) = byteLength as + byteLength bs := by
  induction as with
  | nil => simp
  | cons a as ih => simp [ih, Nat.add_assoc]

@[simp] theorem byteLength_reverse (cs : List Char) :
    byteLength cs.reverse = byteLength cs := by
  induction cs with
  | nil => rfl
  | cons c cs ih => simp [ih, Nat.add_comm]

/-- A text has at least one byte for each character. -/
theorem length_le_byteLength (cs : List Char) : cs.length ≤ byteLength cs := by
  induction cs with
  | nil => simp
  | cons c cs ih =>
    have hPos := c.utf8Size_pos
    rw [List.length_cons, byteLength_cons]
    omega

theorem byteLength_pos {cs : List Char} (h : cs ≠ []) : 0 < byteLength cs :=
  Nat.lt_of_lt_of_le (List.length_pos_iff.mpr h) (length_le_byteLength cs)

/-- An offset that falls between two characters of a text, or at one of its ends. -/
def IsBoundary (cs : List Char) (offset : Nat) : Prop :=
  ∃ before after, cs = before ++ after ∧ byteLength before = offset

/-! ## Rounding an offset to a boundary -/

/-- The greatest boundary not above `offset`. -/
def floorBoundary (cs : List Char) (offset : Nat) : Nat := go 0 cs
where
  /-- Walks from the boundary `pos` while the next character ends in time. -/
  go (pos : Nat) : List Char → Nat
    | [] => pos
    | c :: cs => if offset < pos + c.utf8Size then pos else go (pos + c.utf8Size) cs

/-- The least boundary not below `offset`; the end of the text if there is none. -/
def ceilBoundary (cs : List Char) (offset : Nat) : Nat := go 0 cs
where
  /-- Walks from the boundary `pos` until `offset` is reached. -/
  go (pos : Nat) : List Char → Nat
    | [] => pos
    | c :: cs => if offset ≤ pos then pos else go (pos + c.utf8Size) cs

/-! ## Cutting -/

/-- The longest run of whole characters that fits in `bytes` bytes, and the rest. -/
def cut (cs : List Char) (bytes : Nat) : List Char × List Char := go [] bytes cs
where
  /-- `taken` holds what was cut off so far, last character first. -/
  go (taken : List Char) (bytes : Nat) : List Char → List Char × List Char
    | [] => (taken.reverse, [])
    | c :: cs =>
      if c.utf8Size ≤ bytes then go (c :: taken) (bytes - c.utf8Size) cs
      else (taken.reverse, c :: cs)

/-- Cuts at `offset`, or refuses if that is not a boundary. -/
def cutExactly? (cs : List Char) (offset : Nat) : Option (List Char × List Char) :=
  let pieces := cut cs offset
  if byteLength pieces.1 = offset then some pieces else none

/-- The characters between two boundaries. -/
def slice (cs : List Char) (start stop : Nat) : List Char :=
  (cut (cut cs start).2 (stop - start)).1

/-- A cut loses nothing. -/
theorem cut_go_append (taken : List Char) (bytes : Nat) (cs : List Char) :
    (cut.go taken bytes cs).1 ++ (cut.go taken bytes cs).2 = taken.reverse ++ cs := by
  induction cs generalizing taken bytes with
  | nil => simp [cut.go]
  | cons c cs ih =>
    by_cases h : c.utf8Size ≤ bytes
    · simp [cut.go, h, ih]
    · simp [cut.go, h]

/-- The two pieces of a cut put together are the text. -/
theorem cut_append (cs : List Char) (bytes : Nat) : (cut cs bytes).1 ++ (cut cs bytes).2 = cs := by
  simpa [cut] using cut_go_append [] bytes cs

/-- A cut is made at the offset rounded down. -/
theorem byteLength_cut_go (taken : List Char) (bytes : Nat) (cs : List Char) :
    byteLength (cut.go taken bytes cs).1 =
      floorBoundary.go (byteLength taken + bytes) (byteLength taken) cs := by
  induction cs generalizing taken bytes with
  | nil => simp [cut.go, floorBoundary.go]
  | cons c cs ih =>
    by_cases h : c.utf8Size ≤ bytes
    · have h' : ¬ byteLength taken + bytes < byteLength taken + c.utf8Size := by omega
      have hsum : byteLength (c :: taken) + (bytes - c.utf8Size) = byteLength taken + bytes := by
        simp; omega
      simp only [cut.go, h, if_true, ih, hsum, floorBoundary.go, h', if_false]
      simp [Nat.add_comm]
    · have h' : byteLength taken + bytes < byteLength taken + c.utf8Size := by omega
      simp [cut.go, h, floorBoundary.go, h']

/-- A cut at the length of a first part gives that part back. -/
theorem cut_go_append_left (taken as bs : List Char) :
    cut.go taken (byteLength as) (as ++ bs) = (taken.reverse ++ as, bs) := by
  induction as generalizing taken with
  | nil =>
    cases bs with
    | nil => simp [cut.go]
    | cons b bs =>
      have hPos := b.utf8Size_pos
      have hLarge : ¬ b.utf8Size ≤ 0 := by omega
      simp [cut.go, hLarge]
  | cons a as ih => simp [cut.go, ih]

/-- A cut at a boundary. -/
theorem cut_append_left (as bs : List Char) : cut (as ++ bs) (byteLength as) = (as, bs) :=
  cut_go_append_left [] as bs

/-- The characters between two boundaries are the piece between them. -/
theorem slice_append (as bs cs : List Char) :
    slice (as ++ (bs ++ cs)) (byteLength as) (byteLength as + byteLength bs) = bs := by
  rw [slice, cut_append_left, Nat.add_sub_cancel_left, cut_append_left]

/-- What is cut off ends at the greatest boundary not above the offset. -/
theorem byteLength_cut (cs : List Char) (bytes : Nat) :
    byteLength (cut cs bytes).1 = floorBoundary cs bytes := by
  simpa [cut, floorBoundary] using byteLength_cut_go [] bytes cs

end CommentSieve.Text
