import CommentSieve.Proofs.Reading
import CommentSieve.Token.Coverage

/-!
# All pieces of a text

The loop that splits a text reads at most as many tokens as its ceiling allows. Here
the text is split without a ceiling (`pieces`), which gives one list of tokens for
every text, each with what was found while it was read. The loop returns the first of
these, as many as it may read, and adds one finding if it had to leave some out.

Main results:

* `textOf_pieces` — the pieces put together are the text.
* `exists_read_of_mem_pieces` — every piece is a token read at its place.
* `length_pieces_le` — there are no more pieces than characters.
* `loop_eq` — the loop returns the first pieces, up to its budget.
* `scanWith_of_le` — under a ceiling that is not reached it returns all of them.
* `length_pieces_le_ceiling` — with one token for every byte allowed the ceiling is not reached.
-/

namespace CommentSieve

open Text

namespace Scan

/-- A token, and what was found while it was read. -/
structure Piece where
  token : Token
  findings : List Finding
  deriving Repr, DecidableEq

/-- All pieces of the text from byte `offset` on, given the text `before` it with the last
character first. -/
def pieces (form : Escape.Form) (o : Options) (before : List Char) (offset : Nat) :
    List Char → List Piece
  | [] => []
  | c :: cs =>
    let r := readToken form o before offset c cs
    ⟨⟨r.context, r.text, offset⟩, r.findings⟩ ::
      pieces form o (r.text.reverse ++ before) (offset + byteLength r.text) r.rest
termination_by cs => cs.length
decreasing_by exact (readToken_splits ..).length_lt

/-- The characters of some pieces, put together. -/
def textOf (ps : List Piece) : List Char := ps.flatMap (·.token.text)

/-- The tokens of some pieces. -/
def tokensOf (ps : List Piece) : List Token := ps.map (·.token)

/-- The findings of some pieces, in order. -/
def findingsOf (ps : List Piece) : List Finding := ps.flatMap (·.findings)

@[simp] theorem textOf_nil : textOf [] = [] := rfl

@[simp] theorem textOf_cons (p : Piece) (ps : List Piece) :
    textOf (p :: ps) = p.token.text ++ textOf ps := rfl

@[simp] theorem tokensOf_nil : tokensOf [] = [] := rfl

@[simp] theorem tokensOf_cons (p : Piece) (ps : List Piece) :
    tokensOf (p :: ps) = p.token :: tokensOf ps := rfl

@[simp] theorem findingsOf_nil : findingsOf [] = [] := rfl

@[simp] theorem findingsOf_cons (p : Piece) (ps : List Piece) :
    findingsOf (p :: ps) = p.findings ++ findingsOf ps := rfl

variable (form : Escape.Form) (o : Options)

@[simp] theorem pieces_nil (before : List Char) (offset : Nat) :
    pieces form o before offset [] = [] := by
  rw [pieces]

/-- The first piece is one token, and the others start after it. -/
theorem pieces_cons (before : List Char) (offset : Nat) (c : Char) (cs : List Char) :
    pieces form o before offset (c :: cs) =
      ⟨⟨(readToken form o before offset c cs).context,
          (readToken form o before offset c cs).text, offset⟩,
        (readToken form o before offset c cs).findings⟩ ::
      pieces form o ((readToken form o before offset c cs).text.reverse ++ before)
        (offset + byteLength (readToken form o before offset c cs).text)
        (readToken form o before offset c cs).rest := by
  rw [pieces]

/-- Induction over the pieces of a text: what holds at the end, and before a token if it
holds after it, holds for every text and wherever it stands. -/
theorem pieces_induction {motive : List Char → Nat → List Char → Prop}
    (nil : ∀ before offset, motive before offset [])
    (cons : ∀ before offset c cs,
      motive ((readToken form o before offset c cs).text.reverse ++ before)
        (offset + byteLength (readToken form o before offset c cs).text)
        (readToken form o before offset c cs).rest →
      motive before offset (c :: cs))
    (before : List Char) (offset : Nat) (cs : List Char) : motive before offset cs := by
  fun_induction pieces form o before offset cs with
  | case1 before offset => exact nil before offset
  | case2 before offset c cs r ih => exact cons before offset c cs ih

/-! ## What the pieces are -/

/-- The pieces put together are the text. -/
theorem textOf_pieces (before : List Char) (offset : Nat) (cs : List Char) :
    textOf (pieces form o before offset cs) = cs := by
  induction before, offset, cs using pieces_induction form o with
  | nil before offset => rw [pieces_nil, textOf_nil]
  | cons before offset c cs ih =>
    rw [pieces_cons, textOf_cons, ih]
    exact (readToken_splits ..).append

/-- No piece is empty. -/
theorem text_ne_nil_of_mem_pieces {form : Escape.Form} {o : Options} {before : List Char}
    {offset : Nat} {cs : List Char} {p : Piece} (h : p ∈ pieces form o before offset cs) :
    p.token.text ≠ [] := by
  induction before, offset, cs using pieces_induction form o with
  | nil before offset => simp at h
  | cons before offset c cs ih =>
    rw [pieces_cons, List.mem_cons] at h
    rcases h with rfl | h
    · exact (readToken_splits ..).ne_nil
    · exact ih h

/-- Every piece is a token read at its place, between the text before it and the text after
it. -/
theorem exists_read_of_mem_pieces {form : Escape.Form} {o : Options} {before : List Char}
    {offset : Nat} {cs : List Char} {p : Piece} (h : p ∈ pieces form o before offset cs) :
    ∃ v c tail r, cs = v ++ c :: tail ∧
      r = readToken form o (v.reverse ++ before) (offset + byteLength v) c tail ∧
      p = ⟨⟨r.context, r.text, offset + byteLength v⟩, r.findings⟩ := by
  induction before, offset, cs using pieces_induction form o with
  | nil before offset => simp at h
  | cons before offset c cs ih =>
    rw [pieces_cons, List.mem_cons] at h
    rcases h with rfl | h
    · exact ⟨[], c, cs, _, rfl, rfl, rfl⟩
    · obtain ⟨v, d, tail, r, hRest, hr, hp⟩ := ih h
      have hAppend := (readToken_splits form o before offset c cs).append
      refine ⟨(readToken form o before offset c cs).text ++ v, d, tail, r, ?_, ?_, ?_⟩
      · rw [← hAppend, hRest, List.append_assoc]
      · rw [hr, List.reverse_append, List.append_assoc, byteLength_append, Nat.add_assoc]
      · rw [hp, byteLength_append, Nat.add_assoc]

/-- There are no more pieces than characters. -/
theorem length_pieces_le (before : List Char) (offset : Nat) (cs : List Char) :
    (pieces form o before offset cs).length ≤ cs.length := by
  induction before, offset, cs using pieces_induction form o with
  | nil before offset => simp
  | cons before offset c cs ih =>
    have hLt := (readToken_splits form o before offset c cs).length_lt
    rw [pieces_cons, List.length_cons]
    omega

/-- Each piece starts where the one before it stops. -/
theorem covers_pieces (before : List Char) (offset : Nat) (cs : List Char) :
    Coverage.covers offset (offset + byteLength cs) (tokensOf (pieces form o before offset cs)) =
      true := by
  induction before, offset, cs using pieces_induction form o with
  | nil before offset => simp [Coverage.covers]
  | cons before offset c cs ih =>
    have hLength : byteLength (c :: cs) =
        byteLength (readToken form o before offset c cs).text +
          byteLength (readToken form o before offset c cs).rest := by
      rw [← byteLength_append, (readToken_splits ..).append]
    rw [pieces_cons, tokensOf_cons, Coverage.covers, beq_self_eq_true, Bool.true_and, hLength,
      ← Nat.add_assoc]
    exact ih

/-! ## What the loop returns -/

/-- What the loop finds when it stops after `budget` pieces: that it stopped, if there
are more. -/
def findingAtCeiling (ceiling budget offset : Nat) (ps : List Piece) : List Finding :=
  if ps.length ≤ budget then []
  else [.ceilingReached ceiling (offset + byteLength (textOf (ps.take budget)))]

/-- The loop returns the first pieces, up to its budget. -/
theorem loop_eq (ceiling budget : Nat) (s : State) :
    loop form o ceiling budget s =
      { tokens := s.tokens.reverse ++
          tokensOf ((pieces form o s.before s.offset s.rest).take budget)
        findings := s.findings.reverse ++
          findingsOf ((pieces form o s.before s.offset s.rest).take budget) ++
          findingAtCeiling ceiling budget s.offset (pieces form o s.before s.offset s.rest) } := by
  induction budget generalizing s with
  | zero =>
    -- With nothing left to spend, a piece that is left is the one that was not read.
    unfold loop
    cases hRest : s.rest with
    | nil => simp [State.result, findingAtCeiling]
    | cons c cs => simp [State.result, findingAtCeiling, pieces_cons]
  | succ budget ih =>
    cases hRest : s.rest with
    | nil =>
      unfold loop
      simp [hRest, State.result, findingAtCeiling]
    | cons c cs =>
      rw [loop_cons hRest, ih, pieces_cons]
      simp [State.take, findingAtCeiling, Nat.add_assoc]

/-- The tokens are those of the pieces before the ceiling. -/
theorem scanWith_tokens (content : List Char) :
    (scanWith form o content).tokens =
      tokensOf ((pieces form o [] 0 content).take (o.ceiling (byteLength content))) := by
  rw [scanWith, loop_eq]
  rfl

/-- What is found is what is found about these, and the ceiling if it is reached. -/
theorem scanWith_findings (content : List Char) :
    (scanWith form o content).findings =
      findingsOf ((pieces form o [] 0 content).take (o.ceiling (byteLength content))) ++
        findingAtCeiling (o.ceiling (byteLength content)) (o.ceiling (byteLength content)) 0
          (pieces form o [] 0 content) := by
  rw [scanWith, loop_eq]
  rfl

/-- With one token for every byte allowed, the ceiling is out of reach. The length of the
text is a machine word: for a longer text the ceiling would stop short of it. -/
theorem length_pieces_le_ceiling {o : Options} {content : List Char}
    (hFactor : 1 ≤ o.iterationFactor) (hWord : byteLength content ≤ maxWord) :
    (pieces form o [] 0 content).length ≤ o.ceiling (byteLength content) := by
  have hPieces := length_pieces_le form o [] 0 content
  have hBytes := length_le_byteLength content
  have hProduct : byteLength content ≤ o.iterationFactor * byteLength content :=
    Nat.le_mul_of_pos_left _ hFactor
  unfold Options.ceiling
  omega

/-- Splitting under a ceiling that is not reached gives all pieces. -/
theorem scanWith_of_le {o : Options} {content : List Char}
    (hLe : (pieces form o [] 0 content).length ≤ o.ceiling (byteLength content)) :
    scanWith form o content =
      ⟨tokensOf (pieces form o [] 0 content), findingsOf (pieces form o [] 0 content)⟩ := by
  rw [scanWith, loop_eq, List.take_of_length_le hLe]
  simp [findingAtCeiling, hLe]

/-- Of the options only two have an influence on the pieces of a text. -/
theorem pieces_congr {o o' : Options} (hDepth : o.maxDepth = o'.maxDepth)
    (hLookback : o.maxLookback = o'.maxLookback) (before : List Char) (offset : Nat)
    (cs : List Char) : pieces form o before offset cs = pieces form o' before offset cs := by
  induction before, offset, cs using pieces_induction form o' with
  | nil before offset => rw [pieces_nil, pieces_nil]
  | cons before offset c cs ih =>
    have hRead : readToken form o before offset c cs = readToken form o' before offset c cs := by
      simp only [readToken, hDepth, hLookback]
    rw [pieces_cons, pieces_cons, hRead, ih]

/-- The pieces of a text do not depend on how many of them may be read. -/
theorem pieces_iterationFactor (factor : Nat) (before : List Char) (offset : Nat)
    (cs : List Char) :
    pieces form { o with iterationFactor := factor } before offset cs =
      pieces form o before offset cs := by
  apply pieces_congr <;> rfl

end Scan

end CommentSieve
