import CommentSieve.Proofs.Steps

/-!
# Where a string ends

A string ends at its quote, before a line end, or with the text, and a backslash takes the
meaning from the character after it. This can be said of the text alone: a character is
escaped if it directly follows a backslash that is not escaped itself, and the first quote
and the first line end that are not escaped decide.

Reading goes another way. It takes an escape as a whole, with all the digits and braces that
a long form has and however early it is cut short, and it goes on with the stack of open
literals or, where the limit forbids to open one, without. All of this comes to the same end.

Main results:

* `isEscaped_append` — after a front of the text that ends outside of an escape, what is
  escaped does not depend on the front.
* `splitFlat_eq` — a string that is read without the stack ends where the text says.
* `readString_ends` — so does every string, at every limit.
-/

namespace CommentSieve.Literal

/-! ## Escaped characters -/

/-- Whether the character at an index is escaped: it directly follows a backslash that is not
escaped itself. -/
def isEscaped (cs : List Char) : (index : Nat) → Bool
  | 0 => false
  | index + 1 => cs[index]? == some '\\' && ! isEscaped cs index

/-- Whether `c` stands at an index and is not escaped there. -/
def stands (c : Char) (cs : List Char) (index : Nat) : Bool :=
  cs[index]? == some c && ! isEscaped cs index

/-- The index of the first `c` that is not escaped. -/
def firstUnescaped? (c : Char) (cs : List Char) : Option Nat :=
  (List.range cs.length).find? (stands c cs)

/-- The number of characters that belong to a string after its opening quote: through the
first quote that is not escaped, if that comes before every line end that is not, else up to
the first such line end, else all. -/
def lengthOfString (quote : Char) (cs : List Char) : Nat :=
  match firstUnescaped? quote cs, firstUnescaped? '\n' cs with
  | some closing, some line => if closing < line then closing + 1 else line
  | some closing, none => closing + 1
  | none, some line => line
  | none, none => cs.length

/-! ## A front of the text -/

/-- After a front that ends outside of an escape, what is escaped does not depend on the
front. -/
theorem isEscaped_append {u v : List Char} (hOutside : isEscaped (u ++ v) u.length = false)
    (index : Nat) : isEscaped (u ++ v) (u.length + index) = isEscaped v index := by
  induction index with
  | zero => exact hOutside
  | succ index ih =>
    -- the character before it is the same, and escaped or not alike
    show isEscaped (u ++ v) (u.length + index + 1) = isEscaped v (index + 1)
    rw [isEscaped, isEscaped, ih, List.getElem?_append_right (Nat.le_add_right _ _),
      Nat.add_sub_cancel_left]

/-- A stretch without a standing `c` that ends outside an escape only moves the place of the first
one. -/
theorem firstUnescaped?_append {c : Char} {u v : List Char}
    (hOutside : isEscaped (u ++ v) u.length = false)
    (hNone : ∀ index < u.length, stands c (u ++ v) index = false) :
    firstUnescaped? c (u ++ v) = (firstUnescaped? c v).map (u.length + ·) := by
  have hFront : (List.range u.length).find? (stands c (u ++ v)) = none := by
    rw [List.find?_eq_none]
    intro index hIndex
    simpa using hNone index (List.mem_range.mp hIndex)
  -- behind the front the same characters stand, each further on by its length
  have hBehind : stands c (u ++ v) ∘ (u.length + ·) = stands c v := by
    funext index
    show stands c (u ++ v) (u.length + index) = stands c v index
    rw [stands, stands, isEscaped_append hOutside,
      List.getElem?_append_right (Nat.le_add_right _ _), Nat.add_sub_cancel_left]
  rw [firstUnescaped?, List.length_append, List.range_add, List.find?_append, hFront,
    Option.none_or, List.find?_map, hBehind, firstUnescaped?]

/-- A front without an end of the string belongs to it. -/
theorem lengthOfString_append {quote : Char} {u v : List Char}
    (hOutside : isEscaped (u ++ v) u.length = false)
    (hQuote : ∀ index < u.length, stands quote (u ++ v) index = false)
    (hLine : ∀ index < u.length, stands '\n' (u ++ v) index = false) :
    lengthOfString quote (u ++ v) = u.length + lengthOfString quote v := by
  rw [lengthOfString, lengthOfString, firstUnescaped?_append hOutside hQuote,
    firstUnescaped?_append hOutside hLine]
  cases firstUnescaped? quote v with
  | none =>
    cases firstUnescaped? '\n' v with
    | none => exact List.length_append
    | some line => rfl
  | some closing =>
    cases firstUnescaped? '\n' v with
    | none => rfl
    | some line =>
      simp only [Option.map_some, Nat.add_lt_add_iff_left]
      split
      · omega
      · rfl

/-! ## One character more -/

/-- A front of one character that escapes nothing ends outside of an escape. -/
theorem isEscaped_plain {c : Char} (hEscape : c ≠ '\\') (cs : List Char) :
    isEscaped ([c] ++ cs) [c].length = false := by
  simp [isEscaped, hEscape]

/-- So does an escape. If its second character is a backslash, that is escaped, and so escapes
nothing. -/
theorem isEscaped_escape (c : Char) (cs : List Char) :
    isEscaped (['\\', c] ++ cs) ['\\', c].length = false := by
  simp [isEscaped]

/-- No `d` stands in one other character. -/
theorem stands_plain {c d : Char} (hOther : c ≠ d) (cs : List Char) :
    ∀ index < [c].length, stands d ([c] ++ cs) index = false := by
  intro index hIndex
  obtain rfl : index = 0 := Nat.lt_one_iff.mp hIndex
  simp [stands, hOther]

/-- No `d` stands in an escape, its second character included. -/
theorem stands_escape {d : Char} (hEscape : d ≠ '\\') (c : Char) (cs : List Char) :
    ∀ index < ['\\', c].length, stands d (['\\', c] ++ cs) index = false := by
  intro index hIndex
  match index, hIndex with
  | 0, _ => simp [stands, Ne.symm hEscape]
  | 1, _ => simp [stands, isEscaped]

theorem firstUnescaped?_plain {c d : Char} (hEscape : c ≠ '\\') (hOther : c ≠ d)
    (cs : List Char) : firstUnescaped? d (c :: cs) = (firstUnescaped? d cs).map (1 + ·) :=
  firstUnescaped?_append (isEscaped_plain hEscape cs) (stands_plain hOther cs)

theorem firstUnescaped?_escape {d : Char} (hEscape : d ≠ '\\') (c : Char) (cs : List Char) :
    firstUnescaped? d ('\\' :: c :: cs) = (firstUnescaped? d cs).map (2 + ·) :=
  firstUnescaped?_append (isEscaped_escape c cs) (stands_escape hEscape c cs)

theorem firstUnescaped?_lone {d : Char} (hEscape : d ≠ '\\') :
    firstUnescaped? d ['\\'] = none := by
  simp [firstUnescaped?, stands, Ne.symm hEscape]

theorem firstUnescaped?_self (c : Char) (cs : List Char) :
    firstUnescaped? c (c :: cs) = some 0 := by
  rw [firstUnescaped?, List.length_cons, List.range_succ_eq_map, List.find?_cons_of_pos]
  simp [stands, isEscaped]

/-- A character that ends nothing and escapes nothing. -/
theorem lengthOfString_plain {quote c : Char} (hEscape : c ≠ '\\') (hLine : c ≠ '\n')
    (hQuote : c ≠ quote) (cs : List Char) :
    lengthOfString quote (c :: cs) = 1 + lengthOfString quote cs :=
  lengthOfString_append (isEscaped_plain hEscape cs) (stands_plain hQuote cs)
    (stands_plain hLine cs)

/-- An escape takes its character along, be it a quote, a backslash or a line end. -/
theorem lengthOfString_escape {quote : Char} (hEscape : quote ≠ '\\') (c : Char)
    (cs : List Char) :
    lengthOfString quote ('\\' :: c :: cs) = 2 + lengthOfString quote cs :=
  lengthOfString_append (isEscaped_escape c cs) (stands_escape hEscape c cs)
    (stands_escape (by decide) c cs)

/-- A backslash that is the last character. -/
theorem lengthOfString_lone {quote : Char} (hEscape : quote ≠ '\\') :
    lengthOfString quote ['\\'] = 1 := by
  have hLine : firstUnescaped? '\n' ['\\'] = none := firstUnescaped?_lone (by decide)
  rw [lengthOfString, firstUnescaped?_lone hEscape, hLine]
  rfl

/-- A string is over where its line ends. -/
theorem lengthOfString_line (quote : Char) (cs : List Char) :
    lengthOfString quote ('\n' :: cs) = 0 := by
  rw [lengthOfString, firstUnescaped?_self]
  cases firstUnescaped? quote ('\n' :: cs) with
  | none => rfl
  | some closing => rfl

/-- A string is over past its quote. -/
theorem lengthOfString_closed {quote : Char} (hLine : quote ≠ '\n') (cs : List Char) :
    lengthOfString quote (quote :: cs) = 1 := by
  rw [lengthOfString, firstUnescaped?_self]
  cases hNext : firstUnescaped? '\n' (quote :: cs) with
  | none => rfl
  | some line =>
    -- the line does not end at the quote, so it ends after it
    have hStands := List.find?_some hNext
    have hPos : 0 < line := by
      rw [Nat.pos_iff_ne_zero]
      rintro rfl
      simp [stands, hLine] at hStands
    exact if_pos hPos

/-! ## Reading -/

/-- A string that is read without the stack ends where the text says. -/
theorem splitFlat_eq {quote : Char} (hEscape : quote ≠ '\\') (hLine : quote ≠ '\n')
    (passed cs : List Char) :
    (splitFlat .single quote passed cs).2 =
      ((cs.take (lengthOfString quote cs)).reverse ++ passed,
        cs.drop (lengthOfString quote cs)) := by
  fun_induction splitFlat .single quote passed cs with
  | case1 passed => rfl
  | case2 passed cs ih =>
    cases cs with
    | nil =>
      rw [ih, lengthOfString_lone hEscape]
      rfl
    | cons c cs =>
      -- the escape as a whole on both sides
      have hAfter : Escape.after .single (c :: cs) = cs := rfl
      have hTaken : (Escape.split .single (c :: cs)).1 = [c] := rfl
      rw [ih, hAfter, hTaken, lengthOfString_escape hEscape, Nat.add_comm 2]
      simp
  | case3 passed cs =>
    -- the line end stays with what is left
    rw [lengthOfString_line]
    rfl
  | case4 passed cs _ _ =>
    rw [lengthOfString_closed hLine]
    rfl
  | case5 passed c cs hPlain hOn hOpen ih =>
    rw [ih, lengthOfString_plain hPlain hOn hOpen, Nat.add_comm 1]
    simp

/-- **A string ends where the text says**, at the first quote, line end or end of the text
that counts, whatever the limit. What is read and what is left make up the text, so that this
is where the string ends. Reading with the stack of open literals leads there, and so does
reading without it. -/
theorem readString_ends {quote : Char} (hQuote : quote = '\'' ∨ quote = '"')
    (form : Escape.Form) (limit start : Nat) (cs : List Char) :
    ((readString form limit start quote cs).text = quote :: cs.take (lengthOfString quote cs) ∧
      (readString form limit start quote cs).rest = cs.drop (lengthOfString quote cs)) ∧
    (run form start { frames := ⟨limit, [.string quote]⟩, passed := [quote], rest := cs }).rest =
      cs.drop (lengthOfString quote cs) ∧
    (splitFlat form quote [quote] cs).2.2 = cs.drop (lengthOfString quote cs) := by
  obtain ⟨hEscape, hLine⟩ := quote_ne hQuote
  -- long escapes are read like short ones, and with short ones it is the text that says
  have hFlat : (splitFlat form quote [quote] cs).2 =
      ((cs.take (lengthOfString quote cs)).reverse ++ [quote],
        cs.drop (lengthOfString quote cs)) := by
    rw [← splitFlat_eq hEscape hLine]
    cases form with
    | single => rfl
    | extended => rw [splitFlat_extended hQuote]
  obtain ⟨hText, hRest⟩ := readString_extent form limit start quote cs
  refine ⟨⟨?_, ?_⟩, ?_, ?_⟩
  · rw [hText, hFlat, List.reverse_append, List.reverse_reverse]
    rfl
  · rw [hRest, hFlat]
  · rw [run_string form start rfl, rest_stringEnd]
    show (splitFlat form quote [quote] cs).2.2 = _
    rw [hFlat]
  · rw [hFlat]

/-- A long escape that the quote cuts short, where no literal may be opened. -/
theorem readString_ends_in_escape :
    ('"' = '\'' ∨ '"' = '"') ∧
    (readString .extended 0 3 '"' ['\\', 'u', '{', '4', '"', 'é']).text =
      ['"', '\\', 'u', '{', '4', '"'] ∧
    (readString .extended 0 3 '"' ['\\', 'u', '{', '4', '"', 'é']).rest = ['é'] := by
  have hQuote : '"' = '\'' ∨ '"' = '"' := .inr rfl
  have hLength : lengthOfString '"' ['\\', 'u', '{', '4', '"', 'é'] = 5 := by decide
  have hEnds := readString_ends hQuote .extended 0 3 ['\\', 'u', '{', '4', '"', 'é']
  rw [hLength] at hEnds
  exact ⟨hQuote, hEnds.1⟩

end CommentSieve.Literal
