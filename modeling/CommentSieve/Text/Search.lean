/-!
# Searching a text

Splitting a text at the first character of a kind, or around the first
occurrence of a given run of characters.

Main results:

* `eq_append_of_stripStart?` — what is stripped off is the given run.
* `eq_append_of_splitAround?` — a split text is the part before, the run, and
  the part after.
* `splitAround?_cons_of_none` — where the run does not start it is looked for from the
  next character on.
-/

namespace CommentSieve.Text

/-- Removes `start` from the front of a text that begins with it. -/
def stripStart? : (start text : List Char) → Option (List Char)
  | [], text => some text
  | _ :: _, [] => none
  | s :: start, c :: text => if s = c then stripStart? start text else none

/-- Whether a text begins with `start`. -/
def startsWith (start text : List Char) : Bool := (stripStart? start text).isSome

/-- The text before the first character that satisfies `p`, and the text from it on. -/
def splitBefore? (p : Char → Bool) (text : List Char) : Option (List Char × List Char) :=
  match text.dropWhile (! p ·) with
  | [] => none
  | found => some (text.takeWhile (! p ·), found)

/-- The text before the first occurrence of `run`, and the text after it. -/
def splitAround? (run text : List Char) : Option (List Char × List Char) := go [] text
where
  /-- `passed` holds the characters gone by, last first. -/
  go (passed : List Char) : List Char → Option (List Char × List Char)
    | [] => (stripStart? run []).map fun after => (passed.reverse, after)
    | c :: text =>
      match stripStart? run (c :: text) with
      | some after => some (passed.reverse, after)
      | none => go (c :: passed) text

/-- What is left after a prefix is stripped is the rest of the text. -/
theorem eq_append_of_stripStart? {start text rest : List Char}
    (h : stripStart? start text = some rest) : text = start ++ rest := by
  induction start generalizing text with
  | nil => simpa [stripStart?] using h
  | cons s start ih =>
    cases text with
    | nil => simp [stripStart?] at h
    | cons c text =>
      by_cases hc : s = c
      · simp only [stripStart?, hc, if_true] at h
        simp [hc, ih h]
      · simp [stripStart?, hc] at h

/-- The pieces around a run, with what was passed before, are the text. -/
theorem eq_append_of_splitAround_go {run passed text before after : List Char}
    (h : splitAround?.go run passed text = some (before, after)) :
    passed.reverse ++ text = before ++ run ++ after := by
  induction text generalizing passed with
  | nil =>
    simp only [splitAround?.go, Option.map_eq_some_iff] at h
    obtain ⟨rest, hrest, hpair⟩ := h
    obtain ⟨rfl, rfl⟩ := Prod.mk.inj hpair
    rw [eq_append_of_stripStart? hrest, List.append_assoc]
  | cons c text ih =>
    simp only [splitAround?.go] at h
    split at h
    · rename_i rest hrest
      obtain ⟨rfl, rfl⟩ := Prod.mk.inj (Option.some.inj h)
      rw [eq_append_of_stripStart? hrest, List.append_assoc]
    · simpa using ih h

theorem eq_append_of_splitAround? {run text before after : List Char}
    (h : splitAround? run text = some (before, after)) : text = before ++ run ++ after := by
  simpa using eq_append_of_splitAround_go h

/-- A prefix that is there is stripped. -/
theorem stripStart?_append (start rest : List Char) :
    stripStart? start (start ++ rest) = some rest := by
  induction start with
  | nil => rfl
  | cons s start ih => rw [List.cons_append, stripStart?, if_pos rfl, ih]

/-! ## Going on by one character -/

/-- The text passed only stands before the first piece. -/
theorem splitAround_go_eq (run passed text : List Char) :
    splitAround?.go run passed text =
      (splitAround? run text).map fun pieces => (passed.reverse ++ pieces.1, pieces.2) := by
  rw [splitAround?]
  induction text generalizing passed with
  | nil => cases hFound : stripStart? run [] <;> simp [splitAround?.go, hFound]
  | cons c text ih =>
    rw [splitAround?.go, splitAround?.go]
    cases stripStart? run (c :: text) with
    | some after => simp
    | none =>
      dsimp only
      rw [ih (c :: passed), ih [c], Option.map_map]
      congr 1
      funext pieces
      simp

/-- Where a run does not start, it is sought one character further. -/
theorem splitAround?_cons_of_none {run : List Char} {c : Char} {cs : List Char}
    (h : stripStart? run (c :: cs) = none) :
    splitAround? run (c :: cs) =
      (splitAround? run cs).map fun pieces => (c :: pieces.1, pieces.2) := by
  rw [splitAround?, splitAround?.go, h]
  exact splitAround_go_eq run [c] cs

theorem splitAround?_of_some {run cs rest : List Char} (h : stripStart? run cs = some rest) :
    splitAround? run cs = some ([], rest) := by
  cases cs <;> rw [splitAround?, splitAround?.go, h] <;> rfl

end CommentSieve.Text
