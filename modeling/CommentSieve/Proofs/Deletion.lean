import CommentSieve.Proofs.DialectPattern
import CommentSieve.Proofs.Partition
import CommentSieve.Proofs.Runs
import CommentSieve.Remover

/-!
# Nothing but rejected comments is lost

A text is processed in one of three ways: its tokens are put together again without the
comments that are dropped, or the runs of a pattern are cut out of it, or it is returned as
it was. In each the text is cut into parts (`Part`), some of which are comments, and every
part is kept or dropped; so the argument is made once, for parts (`Layout.deletes`), and
each way only has to say what its parts are.

What it means to lose nothing else is said without parts, by the offsets of the comments:
the output is the text without the characters that stand in one of the comments dropped
(`erase`), whose offsets are boundaries and which do not overlap.

Main results:

* `Layout.erase_eq` — putting the kept parts together erases the spans of the others.
* `layout_tokens`, `layout_segments` — tokens that cover a text, and a text cut along the
  runs of a pattern, are such parts.
* `Remover.process_deletes` — processing a text erases comments that the engine does not
  keep, and nothing else.
-/

namespace CommentSieve

open Text

/-! ## Erasing spans -/

/-- The bytes from one offset up to another. -/
structure Span where
  start : Nat
  stop : Nat
  deriving Repr, DecidableEq

namespace Span

/-- Whether the byte at an offset lies in a span. -/
def holds (s : Span) (offset : Nat) : Bool := decide (s.start ≤ offset ∧ offset < s.stop)

/-- The characters of a text in a span. -/
def text (s : Span) (content : List Char) : List Char := slice content s.start s.stop

/-- A span of at least one character, with boundaries for its ends. -/
def IsPiece (s : Span) (content : List Char) : Prop :=
  s.start < s.stop ∧ IsBoundary content s.start ∧ IsBoundary content s.stop

end Span

/-- The text from byte `offset` on without the characters that start in one of the spans. -/
def eraseFrom (spans : List Span) (offset : Nat) : List Char → List Char
  | [] => []
  | c :: cs =>
    if spans.any (·.holds offset) then eraseFrom spans (offset + c.utf8Size) cs
    else c :: eraseFrom spans (offset + c.utf8Size) cs

/-- A text without the characters in some spans. -/
def erase (spans : List Span) (content : List Char) : List Char := eraseFrom spans 0 content

/-- Spans are erased from one part of a text and then from the other. -/
theorem eraseFrom_append (spans : List Span) (offset : Nat) (as bs : List Char) :
    eraseFrom spans offset (as ++ bs) =
      eraseFrom spans offset as ++ eraseFrom spans (offset + byteLength as) bs := by
  induction as generalizing offset with
  | nil => rfl
  | cons a as ih =>
    rw [List.cons_append, eraseFrom, eraseFrom, ih, byteLength_cons, Nat.add_assoc]
    split <;> rfl

/-- What stands in one of the spans disappears. -/
theorem eraseFrom_eq_nil {spans : List Span} {s : Span} (hs : s ∈ spans) {offset : Nat}
    {cs : List Char} (hStart : s.start ≤ offset) (hStop : offset + byteLength cs ≤ s.stop) :
    eraseFrom spans offset cs = [] := by
  induction cs generalizing offset with
  | nil => rfl
  | cons c cs ih =>
    have hPos := c.utf8Size_pos
    rw [byteLength_cons] at hStop
    have hHolds : spans.any (·.holds offset) = true :=
      List.any_eq_true.mpr ⟨s, hs, decide_eq_true ⟨hStart, by omega⟩⟩
    rw [eraseFrom, if_pos hHolds]
    exact ih (by omega) (by omega)

/-- What stands outside all spans stays. -/
theorem eraseFrom_eq_self {spans : List Span} {offset : Nat} {cs : List Char}
    (h : ∀ s ∈ spans, s.stop ≤ offset ∨ offset + byteLength cs ≤ s.start) :
    eraseFrom spans offset cs = cs := by
  induction cs generalizing offset with
  | nil => rfl
  | cons c cs ih =>
    have hPos := c.utf8Size_pos
    have hOutside : ¬ spans.any (·.holds offset) = true := by
      rw [List.any_eq_true]
      rintro ⟨s, hs, hHolds⟩
      have hHolds := of_decide_eq_true hHolds
      have hs := h s hs
      rw [byteLength_cons] at hs
      omega
    rw [eraseFrom, if_neg hOutside, ih]
    intro s hs
    have hs := h s hs
    rw [byteLength_cons] at hs
    omega

/-! ## Parts of a text -/

/-- A part of a text: the byte at which it starts, its characters, whether it is a comment
and whether it goes into the output. -/
structure Part where
  start : Nat
  text : List Char
  isComment : Bool
  kept : Bool

namespace Part

/-- The byte offset just after a part. -/
def stop (p : Part) : Nat := p.start + byteLength p.text

/-- Where a part stands. -/
def span (p : Part) : Span := ⟨p.start, p.stop⟩

/-- The characters of some parts, put together. -/
def textOf (ps : List Part) : List Char := ps.flatMap (·.text)

@[simp] theorem textOf_nil : textOf [] = [] := rfl

@[simp] theorem textOf_cons (p : Part) (ps : List Part) :
    textOf (p :: ps) = p.text ++ textOf ps := rfl

/-- Each part starts where the one before it stops. -/
def Follow : (offset : Nat) → List Part → Prop
  | _, [] => True
  | offset, p :: ps => p.start = offset ∧ Follow p.stop ps

/-- A part starts after the texts of the parts before it. -/
theorem start_of_follow {offset : Nat} {pre post : List Part} {p : Part}
    (h : Follow offset (pre ++ p :: post)) : p.start = offset + byteLength (textOf pre) := by
  induction pre generalizing offset with
  | nil => exact h.1
  | cons q pre ih =>
    rw [ih h.2, stop, h.1, textOf_cons, byteLength_append, Nat.add_assoc]

/-- Parts that follow each other start at the offset or later. -/
theorem le_start_of_follow {offset : Nat} {ps : List Part} (h : Follow offset ps) :
    ∀ p ∈ ps, offset ≤ p.start := by
  intro p hp
  obtain ⟨pre, post, rfl⟩ := List.append_of_mem hp
  have hStart := start_of_follow h
  omega

/-- Parts that follow one another do not overlap. -/
theorem pairwise_of_follow {offset : Nat} {ps : List Part} (h : Follow offset ps) :
    ps.Pairwise fun p q => p.stop ≤ q.start := by
  induction ps generalizing offset with
  | nil => exact .nil
  | cons p ps ih => exact .cons (le_start_of_follow h.2) (ih h.2)

end Part

/-- A text cut into parts, of which only comments are dropped. -/
structure Layout (content : List Char) (ps : List Part) : Prop where
  follow : Part.Follow 0 ps
  joins : Part.textOf ps = content
  nonempty : ∀ p ∈ ps, p.isComment = true → p.text ≠ []
  onlyComments : ∀ p ∈ ps, p.kept = false → p.isComment = true

namespace Layout

variable {content : List Char} {ps : List Part}

/-- The spans of the parts that are dropped. -/
def dropped (ps : List Part) : List Span := (ps.filter (!·.kept)).map Part.span

/-- The spans of the comments. -/
def found (ps : List Part) : List Span := (ps.filter (·.isComment)).map Part.span

/-- Around a part the text splits into the parts before it, it, and the parts after it. -/
theorem around (h : Layout content ps) {p : Part} (hp : p ∈ ps) :
    ∃ before after, content = before ++ (p.text ++ after) ∧ byteLength before = p.start := by
  obtain ⟨pre, post, rfl⟩ := List.append_of_mem hp
  refine ⟨Part.textOf pre, Part.textOf post, ?_, ?_⟩
  · rw [← h.joins, Part.textOf, List.flatMap_append, List.flatMap_cons]
    rfl
  · rw [Part.start_of_follow h.follow, Nat.zero_add]

/-- The span of a comment is that of a piece of the text. -/
theorem isPiece_span (h : Layout content ps) {p : Part} (hp : p ∈ ps)
    (hComment : p.isComment = true) : p.span.IsPiece content := by
  obtain ⟨before, after, hContent, hStart⟩ := h.around hp
  have hPos := byteLength_pos (h.nonempty p hp hComment)
  refine ⟨?_, ⟨before, _, hContent, hStart⟩, before ++ p.text, after, ?_, ?_⟩
  · show p.start < p.start + byteLength p.text
    omega
  · rw [hContent, List.append_assoc]
  · rw [byteLength_append, hStart]
    rfl

/-- A span has the text of its part. -/
theorem text_span (h : Layout content ps) {p : Part} (hp : p ∈ ps) :
    p.span.text content = p.text := by
  obtain ⟨before, after, hContent, hStart⟩ := h.around hp
  rw [Span.text, Part.span, Part.stop, hContent, ← hStart]
  exact slice_append ..

theorem pairwise_found (h : Layout content ps) :
    (found ps).Pairwise fun s t => s.stop ≤ t.start :=
  List.pairwise_map.mpr ((Part.pairwise_of_follow h.follow).filter _)

/-- What is dropped are some of the comments, in order. -/
theorem sublist_dropped (h : Layout content ps) : (dropped ps).Sublist (found ps) := by
  -- What is dropped is a comment, so that it may be looked for among the comments.
  have hBoth : ps.filter (!·.kept) = (ps.filter (·.isComment)).filter (!·.kept) := by
    rw [List.filter_filter]
    apply List.filter_congr
    intro p hp
    cases hKept : p.kept with
    | true => rfl
    | false => simp [h.onlyComments p hp hKept]
  rw [dropped, hBoth]
  exact List.filter_sublist.map _

/-- Erasing spans before a text and those of its parts that are dropped leaves the parts
that are kept. -/
theorem eraseFrom_eq {offset : Nat} (h : Part.Follow offset ps) (earlier : List Span)
    (hEarlier : ∀ s ∈ earlier, s.stop ≤ offset) :
    eraseFrom (earlier ++ dropped ps) offset (Part.textOf ps) =
      Part.textOf (ps.filter (·.kept)) := by
  induction ps generalizing offset earlier with
  | nil => rfl
  | cons p ps ih =>
    obtain ⟨rfl, hRest⟩ := h
    have hLater : ∀ s ∈ dropped ps, p.stop ≤ s.start := by
      intro s hs
      obtain ⟨q, hq, rfl⟩ := List.mem_map.mp hs
      exact Part.le_start_of_follow hRest q (List.mem_of_mem_filter hq)
    have hLe : p.start ≤ p.stop := Nat.le_add_right ..
    rw [Part.textOf_cons, eraseFrom_append]
    cases hKept : p.kept with
    | true =>
      -- No span touches a part that is kept: each lies before it or after it.
      have hDropped : dropped (p :: ps) = dropped ps := by simp [dropped, hKept]
      have hOutside : ∀ s ∈ earlier ++ dropped ps,
          s.stop ≤ p.start ∨ p.start + byteLength p.text ≤ s.start := by
        intro s hs
        rcases List.mem_append.mp hs with hs | hs
        · exact .inl (hEarlier s hs)
        · exact .inr (hLater s hs)
      rw [hDropped, List.filter_cons_of_pos hKept, Part.textOf_cons, eraseFrom_eq_self hOutside]
      congr 1
      refine ih hRest earlier fun s hs => ?_
      exact Nat.le_trans (hEarlier s hs) hLe
    | false =>
      have hDropped : dropped (p :: ps) = p.span :: dropped ps := by simp [dropped, hKept]
      have hGone : eraseFrom (earlier ++ p.span :: dropped ps) p.start p.text = [] :=
        eraseFrom_eq_nil (List.mem_append_right _ (List.mem_cons_self ..)) (Nat.le_refl p.start)
          (Nat.le_refl p.stop)
      rw [hDropped, List.filter_cons_of_neg (by simp [hKept]), hGone, List.nil_append]
      -- The span of this part now lies before the text.
      have hShift := ih hRest (earlier ++ [p.span]) fun s hs => by
        rcases List.mem_append.mp hs with hs | hs
        · exact Nat.le_trans (hEarlier s hs) hLe
        · obtain rfl := List.mem_singleton.mp hs
          exact Nat.le_refl _
      rwa [List.append_assoc] at hShift

/-- Putting the kept parts together erases the spans of the others. -/
theorem erase_eq (h : Layout content ps) :
    erase (dropped ps) content = Part.textOf (ps.filter (·.kept)) := by
  rw [← h.joins]
  exact eraseFrom_eq h.follow [] (by simp)

/-- The output is shorter by the bytes of what was dropped. -/
theorem byteLength_kept (ps : List Part) :
    byteLength (Part.textOf (ps.filter (·.kept))) +
      byteLength (Part.textOf (ps.filter (!·.kept))) = byteLength (Part.textOf ps) := by
  induction ps with
  | nil => rfl
  | cons p ps ih =>
    cases hKept : p.kept <;>
      simp only [List.filter_cons, hKept, Part.textOf_cons, byteLength_append, Bool.not_true,
        Bool.not_false, if_true, if_false, Bool.false_eq_true] <;>
      omega

/-- A text becomes shorter exactly if a part of it is dropped. -/
theorem length_lt_iff (h : Layout content ps) :
    0 < ps.countP (!·.kept) ↔
      byteLength (Part.textOf (ps.filter (·.kept))) < byteLength content := by
  have hBytes := byteLength_kept ps
  rw [h.joins] at hBytes
  constructor
  · intro hPos
    obtain ⟨p, hp, hDropped⟩ := List.countP_pos_iff.mp hPos
    have hNe := h.nonempty p hp (h.onlyComments p hp (by simpa using hDropped))
    have hText : Part.textOf (ps.filter (!·.kept)) ≠ [] := by
      intro hNil
      exact hNe (List.flatMap_eq_nil_iff.mp hNil p (List.mem_filter.mpr ⟨hp, hDropped⟩))
    have := byteLength_pos hText
    omega
  · intro hLt
    rw [List.countP_eq_length_filter, List.length_pos_iff]
    intro hNil
    rw [hNil] at hBytes
    have hZero : byteLength (Part.textOf []) = 0 := rfl
    omega

end Layout

/-! ## What a removal has to be -/

/-- Whether a comment is an interpreter line: at the very start, and with its marks. -/
def Span.IsInterpreterLine (s : Span) (content : List Char) : Prop :=
  s.start = 0 ∧ startsWith ['#', '!'] (s.text content) = true

/-- A removal that erases some of the comments found in a text and nothing else: those
that the engine keeps stay. -/
structure Removal.Deletes (out : Removal) (e : Engine) (content : List Char)
    (found : List Span) : Prop where
  pieces : ∀ s ∈ found, s.IsPiece content
  disjoint : found.Pairwise fun s t => s.stop ≤ t.start
  erases : ∃ dropped : List Span, dropped.Sublist found ∧ dropped.length = out.removed ∧
    (∀ s ∈ dropped,
      e.keeps (s.text content) = false ∧ (e.classify (s.text content)).keep = false) ∧
    (∀ s ∈ found, s ∈ dropped ∨ e.keeps (s.text content) = true ∨
      out.usedFallback = true ∧ s.IsInterpreterLine content) ∧
    out.content = erase dropped content
  counts : out.removed + out.preserved = found.length
  modified : out.modified = true ↔ 0 < out.removed
  shorter : 0 < out.removed ↔ byteLength out.content < byteLength content

/-- Every comment is either dropped or kept. -/
theorem Layout.counts {content : List Char} {ps : List Part} (h : Layout content ps) :
    ps.countP (!·.kept) + ps.countP (fun p => p.isComment && p.kept) = (found ps).length := by
  rw [found, List.length_map, ← List.countP_eq_length_filter,
    List.countP_eq_countP_filter_add ps (·.isComment) (!·.kept), List.countP_filter,
    List.countP_filter]
  congr 1
  · apply List.countP_congr
    intro p hp
    cases hKept : p.kept <;> simp [h.onlyComments p hp, hKept]
  · apply List.countP_congr
    intro p hp
    simp

/-- A removal that puts together the parts that are kept, dropping just what the engine
does not want. -/
theorem Layout.deletes {content : List Char} {ps : List Part} (h : Layout content ps)
    {e : Engine} {out : Removal} (hContent : out.content = Part.textOf (ps.filter (·.kept)))
    (hModified : out.modified = (out.content != content))
    (hRemoved : out.removed = ps.countP (!·.kept))
    (hPreserved : out.preserved = ps.countP fun p => p.isComment && p.kept)
    (hDropped : ∀ p ∈ ps, p.kept = false → e.keeps p.text = false)
    (hKept : ∀ p ∈ ps, p.isComment = true → p.kept = true → e.keeps p.text = true ∨
      out.usedFallback = true ∧ p.start = 0 ∧ startsWith ['#', '!'] p.text = true) :
    out.Deletes e content (Layout.found ps) := by
  have hShorter : 0 < out.removed ↔ byteLength out.content < byteLength content := by
    rw [hRemoved, hContent]
    exact h.length_lt_iff
  refine ⟨?_, h.pairwise_found, ⟨dropped ps, h.sublist_dropped, ?_, ?_, ?_, ?_⟩, ?_, ?_, hShorter⟩
  -- What was found are pieces of the text.
  · intro s hs
    obtain ⟨p, hp, rfl⟩ := List.mem_map.mp hs
    obtain ⟨hp, hComment⟩ := List.mem_filter.mp hp
    exact h.isPiece_span hp hComment
  · rw [hRemoved, dropped, List.length_map, ← List.countP_eq_length_filter]
  -- What was dropped the engine does not want; what was kept it wants, or it is an
  -- interpreter line.
  · intro s hs
    obtain ⟨p, hp, rfl⟩ := List.mem_map.mp hs
    obtain ⟨hp, hNot⟩ := List.mem_filter.mp hp
    rw [Engine.keep_classify, and_self, h.text_span hp]
    exact hDropped p hp (by simpa using hNot)
  · intro s hs
    obtain ⟨p, hp, rfl⟩ := List.mem_map.mp hs
    obtain ⟨hp, hComment⟩ := List.mem_filter.mp hp
    cases hVerdict : p.kept with
    | true =>
      right
      rw [Span.IsInterpreterLine, h.text_span hp]
      exact hKept p hp hComment hVerdict
    | false =>
      left
      exact List.mem_map.mpr ⟨p, List.mem_filter.mpr ⟨hp, by simp [hVerdict]⟩, rfl⟩
  · rw [hContent, h.erase_eq]
  · rw [hRemoved, hPreserved, h.counts]
  · rw [hModified, bne_iff_ne, hShorter]
    constructor
    · intro hNe
      -- Nothing is dropped only if all parts are kept, which gives back the text.
      by_contra hNot
      have hNone : ps.countP (!·.kept) = 0 := by
        have := mt hShorter.mp hNot
        omega
      have hAll : ps.filter (·.kept) = ps := by
        rw [List.filter_eq_self]
        intro p hp
        simpa using List.countP_eq_zero.mp hNone p hp
      rw [hContent, hAll, h.joins] at hNe
      exact hNe rfl
    · intro hLt hEq
      rw [hEq] at hLt
      exact Nat.lt_irrefl _ hLt

/-! ## Tokens as parts -/

namespace Token

/-- Where a token stands. -/
def span (t : Token) : Span := ⟨t.start, t.stop⟩

/-- A token as a part, as an engine wants it. -/
def part (e : Engine) (t : Token) : Part := ⟨t.start, t.text, t.isComment, Remover.keepsToken e t⟩

end Token

/-- Tokens that cover a text follow one another in it. -/
theorem Coverage.follow_of_covers {start stop : Nat} {tokens : List Token}
    (h : covers start stop tokens = true) (e : Engine) :
    Part.Follow start (tokens.map (Token.part e)) := by
  induction tokens generalizing start with
  | nil => trivial
  | cons t tokens ih =>
    obtain ⟨hStart, hRest⟩ := covers_cons.mp h
    exact ⟨hStart, ih hRest⟩

/-- Pieces that cover a text as far as they were read are all of its pieces. -/
theorem textOf_take_of_covers {o : Options} {content : List Char} {budget : Nat}
    (h : Coverage.covers 0 (byteLength content)
      (Scan.tokensOf ((Scan.pieces .extended o [] 0 content).take budget)) = true) :
    Scan.textOf ((Scan.pieces .extended o [] 0 content).take budget) = content := by
  have hText := Scan.textOf_pieces .extended o [] 0 content
  generalize Scan.pieces .extended o [] 0 content = all at h hText ⊢
  have hSplit : Scan.textOf (all.take budget) ++ Scan.textOf (all.drop budget) = content := by
    rw [Scan.textOf, Scan.textOf, ← List.flatMap_append, List.take_append_drop]
    exact hText
  have hBytes := Coverage.byteLength_of_covers h
  rw [Scan.tokensOf, List.flatMap_map, Nat.zero_add] at hBytes
  -- As many bytes are covered as there are, so that none are left.
  have hRest : Scan.textOf (all.drop budget) = [] := by
    by_contra hNe
    have hPos := byteLength_pos hNe
    have hLength := congrArg byteLength hSplit
    rw [byteLength_append, Scan.textOf, hBytes] at hLength
    omega
  rwa [hRest, List.append_nil] at hSplit

/-- The tokens of any tokenizer, if they cover the text, are parts of it. -/
theorem layout_tokens (t : Tokenizer) (e : Engine) {content : List Char}
    (hCovers : Coverage.covers 0 (byteLength content) (t.tokenize content).1 = true) :
    Layout content ((t.tokenize content).1.map (Token.part e)) := by
  rw [Tokenizer.tokens_tokenize] at hCovers ⊢
  have hJoins := textOf_take_of_covers hCovers
  refine ⟨Coverage.follow_of_covers hCovers e, ?_, ?_, ?_⟩
  · refine Eq.trans ?_ hJoins
    rw [Part.textOf, Scan.tokensOf, List.map_map, List.flatMap_map]
    rfl
  · intro p hp _
    obtain ⟨u, hu, rfl⟩ := List.mem_map.mp hp
    obtain ⟨piece, hPiece, rfl⟩ := List.mem_map.mp hu
    exact Scan.text_ne_nil_of_mem_pieces (List.mem_of_mem_take hPiece)
  · intro p hp hKept
    obtain ⟨u, -, rfl⟩ := List.mem_map.mp hp
    have hBoth : u.isComment = true ∧ (e.classify u.text).keep = false := by
      simpa [Token.part, Remover.keepsToken] using hKept
    exact hBoth.1

theorem found_tokens (e : Engine) (tokens : List Token) :
    Layout.found (tokens.map (Token.part e)) = (tokens.filter (·.isComment)).map Token.span := by
  rw [Layout.found, List.filter_map, List.map_map]
  rfl

/-! ## Runs of a pattern as parts -/

open Pattern (Segment Found Ascending segmentsFrom)

/-- Whether a run that was found is a comment. -/
def Pattern.Found.isComment (f : Found) : Bool := (f.groups.lookup "comment").isSome

/-- Where a run stands, in bytes. -/
def Pattern.Found.span (f : Found) (content : List Char) : Span :=
  ⟨byteLength (content.take f.start), byteLength (content.take f.stop)⟩

/-- The comments that the pattern of a dialect finds. -/
def Dialect.comments (d : Dialect) (content : List Char) : List Span :=
  ((d.pattern.findAll content).filter (·.isComment)).map (·.span content)

theorem Dialect.ascending_findAll (d : Dialect) (content : List Char) :
    Ascending 0 (0 + content.length) (d.pattern.findAll content) := by
  rw [Pattern.findAll, d.searcher_pattern]
  exact Pattern.ascending_findAllFrom d.nullable_pattern none 0 none content

namespace Fallback

/-- A segment as a part that starts at byte `offset`. -/
def part (d : Dialect) (e : Engine) (offset : Nat) : Segment → Part
  | .plain text => ⟨offset, text, false, true⟩
  | .run f text =>
    ⟨offset, text, f.isComment,
      !f.isComment || (isInterpreterLine d f.start text || e.keeps text)⟩

/-- Segments as parts, the first of which starts at byte `offset`. -/
def partsFrom (d : Dialect) (e : Engine) : (offset : Nat) → List Segment → List Part
  | _, [] => []
  | offset, s :: more => part d e offset s :: partsFrom d e (offset + byteLength s.text) more

variable (d : Dialect) (e : Engine)

theorem text_part (offset : Nat) (s : Segment) : (part d e offset s).text = s.text := by
  cases s <;> rfl

theorem start_part (offset : Nat) (s : Segment) : (part d e offset s).start = offset := by
  cases s <;> rfl

/-- One step of stripping, by the part that it takes. -/
theorem step_eq (offset : Nat) (s : Stripped) (segment : Segment) :
    s.step d e segment =
      { content := (if (part d e offset segment).kept then segment.text.reverse else []) ++
          s.content
        removed := s.removed + (!(part d e offset segment).kept).toNat
        preserved := s.preserved +
          ((part d e offset segment).isComment && (part d e offset segment).kept).toNat } := by
  cases segment with
  | plain text => rfl
  | run f text =>
    cases hGroup : f.groups.lookup "comment" with
    | none => simp [Stripped.step, Stripped.copy, part, Found.isComment, hGroup, Segment.text]
    | some _ =>
      cases hKeeps : isInterpreterLine d f.start text || e.keeps text <;>
        simp [Stripped.step, Stripped.copy, part, Found.isComment, hGroup, hKeeps, Segment.text]

/-- Stripping puts the parts that are kept together and counts the comments. -/
theorem foldl_step (offset : Nat) (s : Stripped) (segments : List Segment) :
    segments.foldl (Stripped.step d e) s =
      { content := (Part.textOf ((partsFrom d e offset segments).filter (·.kept))).reverse ++
          s.content
        removed := s.removed + (partsFrom d e offset segments).countP (!·.kept)
        preserved := s.preserved +
          (partsFrom d e offset segments).countP fun p => p.isComment && p.kept } := by
  induction segments generalizing offset s with
  | nil => rfl
  | cons segment segments ih =>
    rw [List.foldl_cons, ih (offset + byteLength segment.text), step_eq d e offset, partsFrom]
    cases hKept : (part d e offset segment).kept <;>
      cases hComment : (part d e offset segment).isComment <;>
        simp [hKept, hComment, text_part, Nat.add_assoc, Nat.add_comm 1]

/-- Segments follow one another. -/
theorem follow_partsFrom (offset : Nat) (segments : List Segment) :
    Part.Follow offset (partsFrom d e offset segments) := by
  induction segments generalizing offset with
  | nil => trivial
  | cons s segments ih =>
    refine ⟨start_part .., ?_⟩
    rw [Part.stop, start_part, text_part]
    exact ih _

/-- The parts have the text of the segments. -/
theorem textOf_partsFrom (offset : Nat) (segments : List Segment) :
    Part.textOf (partsFrom d e offset segments) = segments.flatMap Segment.text := by
  induction segments generalizing offset with
  | nil => rfl
  | cons s segments ih => rw [partsFrom, Part.textOf_cons, text_part, ih, List.flatMap_cons]

variable {d e}

/-- Only comments are dropped. -/
theorem isComment_of_mem_partsFrom {offset : Nat} {segments : List Segment} :
    ∀ p ∈ partsFrom d e offset segments, p.kept = false → p.isComment = true := by
  induction segments generalizing offset with
  | nil => simp [partsFrom]
  | cons s segments ih =>
    intro p hp hKept
    rcases List.mem_cons.mp hp with rfl | hp
    · cases s with
      | plain text => exact absurd hKept (by simp [part])
      | run f text =>
        have hAll : f.isComment = true ∧
            isInterpreterLine d f.start text = false ∧ e.keeps text = false := by
          simpa [part] using hKept
        exact hAll.1
    · exact ih p hp hKept

/-- A comment among the parts is not empty, and is kept only if the engine wants it or it
is an interpreter line. -/
theorem comment_of_mem_partsFrom {fs : List Found} (before text : List Char)
    (h : Ascending before.length (before.length + text.length) fs) {p : Part}
    (hp : p ∈ partsFrom d e (byteLength before) (segmentsFrom before.length text fs))
    (hComment : p.isComment = true) :
    p.text ≠ [] ∧ (p.kept = false → e.keeps p.text = false) ∧ (p.kept = true →
      e.keeps p.text = true ∨ p.start = 0 ∧ startsWith ['#', '!'] p.text = true) := by
  induction fs generalizing before text with
  | nil =>
    obtain rfl : p = ⟨byteLength before, text, false, true⟩ := by
      simpa [segmentsFrom, partsFrom, part] using hp
    exact absurd hComment Bool.false_ne_true
  | cons f fs ih =>
    obtain ⟨gap, body, rest, rfl, hGap, hBody, hNe, hSegments, hMore⟩ :=
      Pattern.segmentsFrom_cons h
    rw [hSegments, partsFrom, partsFrom, List.mem_cons, List.mem_cons] at hp
    rcases hp with rfl | rfl | hp
    · exact absurd hComment Bool.false_ne_true
    · have hCommentRun : f.isComment = true := hComment
      refine ⟨hNe, ?_, ?_⟩
      · intro hDropped
        have hBoth : isInterpreterLine d f.start body = false ∧ e.keeps body = false := by
          simpa [part, hCommentRun] using hDropped
        exact hBoth.2
      · intro hKept
        have hEither : isInterpreterLine d f.start body = true ∨ e.keeps body = true := by
          simpa [part, hCommentRun] using hKept
        rcases hEither with hLine | hKeeps
        · -- Nothing stands before a run at index zero.
          right
          simp only [isInterpreterLine, Bool.and_eq_true, beq_iff_eq] at hLine
          have hBefore : before = [] := List.length_eq_zero_iff.mp (by omega)
          have hNoGap : gap = [] := List.length_eq_zero_iff.mp (by omega)
          exact ⟨by rw [start_part, hBefore, hNoGap]; rfl, hLine.2⟩
        · exact .inl hKeeps
    · have hLength : f.stop = (before ++ gap ++ body).length := by
        simp only [List.length_append]
        omega
      rw [hLength] at hMore hp
      refine ih (before ++ gap ++ body) rest hMore ?_
      rw [byteLength_append, byteLength_append]
      exact hp

/-- The comments among the parts stand where the runs were found. -/
theorem found_partsFrom {fs : List Found} (before text : List Char)
    (h : Ascending before.length (before.length + text.length) fs) :
    Layout.found (partsFrom d e (byteLength before) (segmentsFrom before.length text fs)) =
      (fs.filter (·.isComment)).map (·.span (before ++ text)) := by
  induction fs generalizing before text with
  | nil => rfl
  | cons f fs ih =>
    obtain ⟨gap, body, rest, rfl, hGap, hBody, hNe, hSegments, hMore⟩ :=
      Pattern.segmentsFrom_cons h
    have hLength : f.stop = (before ++ gap ++ body).length := by
      simp only [List.length_append]
      omega
    have hStart : f.start = (before ++ gap).length := by
      rw [List.length_append]
      omega
    rw [hLength] at hMore
    have hRest := ih (before ++ gap ++ body) rest hMore
    have hText : before ++ (gap ++ (body ++ rest)) = before ++ gap ++ body ++ rest := by
      simp only [List.append_assoc]
    -- The run itself stands between what comes before it and what comes after it.
    have hSpan : f.span (before ++ gap ++ body ++ rest) =
        (part d e (byteLength before + byteLength gap) (.run f body)).span := by
      rw [Found.span, hLength, List.take_left, hStart, List.append_assoc (before ++ gap),
        List.take_left, byteLength_append (before ++ gap), byteLength_append before]
      rfl
    rw [hSegments, partsFrom, partsFrom, hText]
    rw [byteLength_append, byteLength_append] at hRest
    rw [Layout.found] at hRest ⊢
    rw [List.filter_cons_of_neg (by simp [part])]
    cases hComment : f.isComment with
    | true =>
      rw [List.filter_cons_of_pos (by exact hComment), List.filter_cons_of_pos hComment,
        List.map_cons, List.map_cons, hSpan, ← hRest, hLength]
      rfl
    | false =>
      rw [List.filter_cons_of_neg (by simp [part, hComment]),
        List.filter_cons_of_neg (by simp [hComment]), ← hRest, hLength]
      rfl

end Fallback

/-- A text cut along the runs of the pattern of a dialect. -/
theorem layout_segments (d : Dialect) (e : Engine) (content : List Char) :
    Layout content (Fallback.partsFrom d e 0 (d.pattern.segments content)) := by
  have hRuns := d.ascending_findAll content
  refine ⟨Fallback.follow_partsFrom .., ?_, ?_, ?_⟩
  · rw [Fallback.textOf_partsFrom, Pattern.segments, Pattern.flatMap_text_segmentsFrom]
  · intro p hp hComment
    exact (Fallback.comment_of_mem_partsFrom [] content hRuns hp hComment).1
  · exact Fallback.isComment_of_mem_partsFrom

theorem found_segments (d : Dialect) (e : Engine) (content : List Char) :
    Layout.found (Fallback.partsFrom d e 0 (d.pattern.segments content)) = d.comments content :=
  Fallback.found_partsFrom [] content (d.ascending_findAll content)

/-! ## The three ways to process a text -/

namespace Remover

/-- The result for a text that was stripped by the pattern of a dialect. -/
def stripped (d : Dialect) (e : Engine) (content : List Char) (errors : List Diagnostic)
    (warnings : List String) : Removal where
  content := (Fallback.strip d e content).content
  modified := (Fallback.strip d e content).content != content
  removed := (Fallback.strip d e content).removed
  preserved := (Fallback.strip d e content).preserved
  errors
  warnings
  failed := false
  degraded := true
  usedFallback := true

/-- Where tokens are not trusted, a text is returned as it was if there is no pattern to go by,
and stripped if there is. -/
theorem fallBack_cases (r : Remover) (content : List Char) (extension : String) (log : Log) :
    ((r.config.fallback = false ∨ ∃ why, Dialect.ofExtension extension = .error why) ∧
      ∃ errors warnings,
        r.fallBack content extension log = unmodified content errors warnings) ∨
    (r.config.fallback = true ∧ ∃ d errors warnings, Dialect.ofExtension extension = .ok d ∧
      r.fallBack content extension log = stripped d r.engine content errors warnings) := by
  unfold fallBack
  dsimp only
  split
  · rename_i hOff
    exact .inl ⟨.inl (by simpa using hOff), _, _, rfl⟩
  · rename_i hOn
    split
    · rename_i why hDialect
      exact .inl ⟨.inr ⟨why, hDialect⟩, _, _, rfl⟩
    · rename_i d hDialect
      exact .inr ⟨by simpa using hOn, d, _, _, hDialect, rfl⟩

/-- A text is put together from tokens that cover it, or returned as it was, or stripped. -/
theorem process_cases (r : Remover) (content : List Char) (extension : String) :
    (∃ log, Coverage.covers 0 (byteLength content) (r.tokenizer.clear.tokenize content).1 = true ∧
      (r.process content extension).1 =
        reassemble r.engine content (r.tokenizer.clear.tokenize content).1 log) ∨
    (∃ errors warnings, (r.process content extension).1 = unmodified content errors warnings) ∨
    (∃ d errors warnings, Dialect.ofExtension extension = .ok d ∧
      (r.process content extension).1 = stripped d r.engine content errors warnings) := by
  unfold process
  dsimp only
  split
  · rename_i hTrusted
    simp only [Bool.and_eq_true] at hTrusted
    exact .inl ⟨_, hTrusted.1.1, rfl⟩
  · rcases fallBack_cases _ content extension _ with ⟨-, hLeft⟩ | ⟨-, hStripped⟩
    · exact .inr (.inl hLeft)
    · exact .inr (.inr hStripped)

/-- The comments found in a text on the way by which it was processed. -/
def commentsFound (r : Remover) (content : List Char) (extension : String) : List Span :=
  let out := (r.process content extension).1
  if out.failed then []
  else if out.usedFallback then
    match Dialect.ofExtension extension with
    | .ok dialect => dialect.comments content
    | .error _ => []
  else ((r.tokenizer.clear.tokenize content).1.filter (·.isComment)).map Token.span

/-- A text that is left as it was. -/
theorem unmodified_deletes (e : Engine) (content : List Char) (errors : List Diagnostic)
    (warnings : List String) : (unmodified content errors warnings).Deletes e content [] := by
  refine ⟨by simp, .nil, ⟨[], .slnil, rfl, by simp, by simp, ?_⟩, rfl, ?_, ?_⟩
  · exact (eraseFrom_eq_self (by simp)).symm
  · simp [unmodified]
  · simp [unmodified]

/-- Tokens put together again. -/
theorem reassemble_deletes (t : Tokenizer) (e : Engine) {content : List Char} (log : Log)
    (hCovers : Coverage.covers 0 (byteLength content) (t.tokenize content).1 = true) :
    (reassemble e content (t.tokenize content).1 log).Deletes e content
      (((t.tokenize content).1.filter (·.isComment)).map Token.span) := by
  have hLayout := layout_tokens t e hCovers
  rw [← found_tokens e]
  generalize (t.tokenize content).1 = tokens at hLayout ⊢
  refine hLayout.deletes ?_ rfl ?_ ?_ ?_ ?_
  · simp only [reassemble, Part.textOf, List.filter_map, List.flatMap_map]
    rfl
  · simp only [reassemble, List.countP_map]
    rfl
  · simp only [reassemble, List.countP_map]
    rfl
  · -- What is dropped is a comment that no rule keeps, what is kept one that a rule keeps.
    intro p hp hDropped
    obtain ⟨u, -, rfl⟩ := List.mem_map.mp hp
    have hBoth : u.isComment = true ∧ (e.classify u.text).keep = false := by
      simpa [Token.part, keepsToken] using hDropped
    rw [← Engine.keep_classify]
    exact hBoth.2
  · intro p hp hComment hKept
    obtain ⟨u, -, rfl⟩ := List.mem_map.mp hp
    have hComment : u.isComment = true := hComment
    left
    rw [← Engine.keep_classify]
    simpa [Token.part, keepsToken, hComment] using hKept

/-- A text stripped by the pattern of a dialect. -/
theorem stripped_deletes (d : Dialect) (e : Engine) (content : List Char)
    (errors : List Diagnostic) (warnings : List String) :
    (stripped d e content errors warnings).Deletes e content (d.comments content) := by
  have hStrip := Fallback.foldl_step d e 0 {} (d.pattern.segments content)
  have hRuns := d.ascending_findAll content
  rw [← found_segments d e]
  refine (layout_segments d e content).deletes ?_ rfl ?_ ?_ ?_ ?_
  · rw [stripped, Fallback.strip, hStrip]
    simp
  · rw [stripped, Fallback.strip, hStrip]
    exact Nat.zero_add _
  · rw [stripped, Fallback.strip, hStrip]
    exact Nat.zero_add _
  · intro p hp hDropped
    have hComment := Fallback.isComment_of_mem_partsFrom p hp hDropped
    exact (Fallback.comment_of_mem_partsFrom [] content hRuns hp hComment).2.1 hDropped
  · intro p hp hComment hKept
    have hWhy := (Fallback.comment_of_mem_partsFrom [] content hRuns hp hComment).2.2 hKept
    exact hWhy.imp_right fun hLine => ⟨rfl, hLine⟩

/-- **Nothing but rejected comments is lost.** Whatever the remover, the text and its
extension: the output is the text without some of the comments found in it, as many as the
result says were removed, all of which the engine does not want to keep. The comments found
are the removed and the preserved ones. If the text could not be processed, none are found.
The output differs from the text just if something was removed, and is shorter then. -/
theorem process_deletes (r : Remover) (content : List Char) (extension : String) :
    (r.process content extension).1.Deletes r.engine content (r.commentsFound content extension) ∧
    ((r.process content extension).1.failed = true →
      (r.process content extension).1.removed = 0 ∧
      (r.process content extension).1.preserved = 0 ∧
      (r.process content extension).1.content = content) := by
  unfold commentsFound
  rcases r.process_cases content extension with
    ⟨log, hCovers, hOut⟩ | ⟨errors, warnings, hOut⟩ | ⟨d, errors, warnings, hDialect, hOut⟩
  · rw [hOut]
    exact ⟨reassemble_deletes _ _ log hCovers, fun hFailed => absurd hFailed (by simp [reassemble])⟩
  · rw [hOut]
    exact ⟨unmodified_deletes .., fun _ => ⟨rfl, rfl, rfl⟩⟩
  · rw [hOut, hDialect]
    exact ⟨stripped_deletes .., fun hFailed => absurd hFailed (by simp [stripped])⟩

end Remover

end CommentSieve
