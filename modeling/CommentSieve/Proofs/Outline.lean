import CommentSieve.Proofs.Agreement
import CommentSieve.Proofs.Extents
import CommentSieve.Proofs.RegexGrammar
import CommentSieve.Proofs.Trust

/-!
# The outline of a text

What a remover makes of a text does not depend on where its runs of code are cut, or on how
many letters a regular expression takes as its flags. The outline leaves these out: it is
what an engine leaves of the text, and what was found in it. So it can be told construct by
construct, as the text is read.

Main results:

* `Scan.outlineFrom_code`, `Scan.outlineFrom_plain` — code is left as it is.
* `Scan.outlineFrom_comment` — a comment is judged.
* `Scan.outlineFrom_closed`, `Scan.outlineFrom_broken` — a regular expression is left as it
  is, and found if the line ends in it.
* `Remover.process_outline` — a remover returns what the outline leaves, and notes what was
  found.
-/

namespace CommentSieve

open Text Fallback

/-- What is left of a text, and what was found in it. -/
structure Outline where
  left : Stripped := {}
  findings : List Finding := []

namespace Outline

/-- The outline of a text and of the text after it. -/
def followedBy (a b : Outline) : Outline :=
  ⟨a.left.followedBy b.left, a.findings ++ b.findings⟩

theorem followedBy_assoc (a b c : Outline) :
    (a.followedBy b).followedBy c = a.followedBy (b.followedBy c) := by
  simp [followedBy, Stripped.followedBy_assoc]

/-- Text that is left as it is, and in which nothing is found. -/
def plain (text : List Char) : Outline := ⟨copied text, []⟩

@[simp] theorem plain_nil_followedBy (a : Outline) : (plain []).followedBy a = a := by
  simp [plain, followedBy, copied, Stripped.followedBy]

theorem plain_append (text more : List Char) :
    plain (text ++ more) = (plain text).followedBy (plain more) := by
  simp [plain, followedBy, copied, Stripped.followedBy]

/-- The outline of some pieces. -/
def ofPieces (e : Engine) (ps : List Scan.Piece) : Outline :=
  ⟨sifted e (Scan.tokensOf ps), Scan.findingsOf ps⟩

/-- The outline is told piece by piece. -/
theorem ofPieces_cons (e : Engine) (p : Scan.Piece) (ps : List Scan.Piece) :
    ofPieces e (p :: ps) =
      (⟨judged p.token.text p.token.isComment (wanted e p.token.isComment p.token.text),
        p.findings⟩ : Outline).followedBy (ofPieces e ps) := by
  rw [ofPieces, Scan.tokensOf_cons, Scan.findingsOf_cons, sifted_cons]
  rfl

/-- All but comments is left as it is. -/
theorem ofPieces_cons_of_ne (e : Engine) {p : Scan.Piece} (h : p.token.kind ≠ .comment)
    (ps : List Scan.Piece) :
    ofPieces e (p :: ps) =
      (⟨copied p.token.text, p.findings⟩ : Outline).followedBy (ofPieces e ps) := by
  have hOther : p.token.isComment = false := by simpa [Token.isComment] using h
  rw [ofPieces_cons, hOther]
  rfl

end Outline

namespace Scan

/-- The outline of the text from byte `offset` on, given the text `before` it with the last
character first. -/
def outlineFrom (e : Engine) (o : Options) (before : List Char) (offset : Nat)
    (cs : List Char) : Outline :=
  .ofPieces e (pieces .extended o before offset cs)

variable (e : Engine) {o : Options} {before : List Char} (offset : Nat)

@[simp] theorem outlineFrom_nil : outlineFrom e o before offset [] = .plain [] := by
  rw [outlineFrom, pieces_nil]
  rfl

/-- Where reading stands, one token is read and the outline goes on after it. -/
theorem outlineFrom_cons (c : Char) (cs : List Char) :
    outlineFrom e o before offset (c :: cs) =
      .ofPieces e (⟨⟨(readToken .extended o before offset c cs).context,
          (readToken .extended o before offset c cs).text, offset⟩,
          (readToken .extended o before offset c cs).findings⟩ ::
        pieces .extended o ((readToken .extended o before offset c cs).text.reverse ++ before)
          (offset + byteLength (readToken .extended o before offset c cs).text)
          (readToken .extended o before offset c cs).rest) := by
  rw [outlineFrom, pieces_cons]

/-! ## Code -/

/-- A character of code is left as it is, and the outline goes on after it. -/
theorem outlineFrom_code {c : Char} {cs : List Char} (hQuote : isQuote c = false)
    (hPlain : opensComment (c :: cs) = false)
    (hDivides : c = '/' → RegexLiteral.opensAfter o.maxLookback before = false) :
    outlineFrom e o before offset (c :: cs) =
      (Outline.plain [c]).followedBy
        (outlineFrom e o (c :: before) (offset + c.utf8Size) cs) := by
  have hCode : ∀ text start ps, Outline.ofPieces e (⟨⟨.code, text, start⟩, []⟩ :: ps) =
      (Outline.plain text).followedBy (.ofPieces e ps) := fun text start ps =>
    Outline.ofPieces_cons_of_ne e (by simp [Token.kind, Context.kind]) ps
  obtain ⟨more, ps, hHere, hNext⟩ := pieces_code offset hQuote hPlain hDivides
  rw [outlineFrom, outlineFrom, hHere, hCode]
  rcases hNext with ⟨rfl, hNext⟩ | hNext
  · rw [hNext]
  · rw [hNext, hCode, ← Outline.followedBy_assoc, ← Outline.plain_append, List.singleton_append]

/-- Nothing but code starts with such a character. -/
def isPlainChar (c : Char) : Bool := !isQuote c && c != '/' && c != '<'

/-- No comment opens with a plain character. -/
theorem opensComment_of_isPlainChar {c : Char} (h : isPlainChar c = true) (cs : List Char) :
    opensComment (c :: cs) = false := by
  simp only [isPlainChar, Bool.and_eq_true, bne_iff_ne] at h
  obtain ⟨⟨-, hSlash⟩, hAngle⟩ := h
  exact opensComment_of_ne hSlash hAngle cs

/-- A text of plain characters is left as it is. -/
theorem outlineFrom_plain {text : List Char} (h : ∀ c ∈ text, isPlainChar c = true)
    (cs : List Char) :
    outlineFrom e o before offset (text ++ cs) =
      (Outline.plain text).followedBy
        (outlineFrom e o (text.reverse ++ before) (offset + byteLength text) cs) := by
  induction text generalizing before offset with
  | nil => simp
  | cons c text ih =>
    obtain ⟨hFirst, hOthers⟩ := List.forall_mem_cons.mp h
    have hPlain := opensComment_of_isPlainChar hFirst (text ++ cs)
    simp only [isPlainChar, Bool.and_eq_true, bne_iff_ne, Bool.not_eq_true'] at hFirst
    obtain ⟨⟨hQuote, hSlash⟩, -⟩ := hFirst
    have hMore := Outline.plain_append [c] text
    rw [List.singleton_append] at hMore
    rw [List.cons_append, outlineFrom_code e offset hQuote hPlain fun h => absurd h hSlash,
      ih _ hOthers, hMore, Outline.followedBy_assoc]
    simp [Nat.add_assoc]

/-! ## Comments -/

/-- A comment with its terminator is judged. -/
theorem outlineFrom_comment (style : Comment.Style) {inner rest : List Char}
    (hSplit : splitAround? style.terminator (inner ++ (style.terminator ++ rest)) =
      some (inner, rest)) :
    let text := style.opening ++ (inner ++ style.terminator)
    outlineFrom e o before offset (text ++ rest) =
      (⟨judged text true (e.keeps text), []⟩ : Outline).followedBy
        (outlineFrom e o (text.reverse ++ before) (offset + byteLength text) rest) := by
  intro text
  have hText : text ++ rest = style.opening ++ (inner ++ (style.terminator ++ rest)) := by
    simp [text]
  have hStarts : startsWith style.opening (text ++ rest) = true := by
    rw [hText]
    exact Comment.startsWith_append ..
  have hRead : Comment.read style offset (text ++ rest) = { context := .comment, text, rest } := by
    rw [hText]
    exact Comment.read_closed hSplit offset
  -- A token is read at a first character, which every opening has.
  obtain ⟨c, cs, hCons⟩ : ∃ c cs, text ++ rest = c :: cs :=
    List.exists_cons_of_ne_nil (by cases style <;> simp [text, Comment.Style.opening])
  rw [hCons] at hStarts hRead ⊢
  rw [outlineFrom_cons, readToken_of_delimited .extended o before offset hStarts, hRead,
    Outline.ofPieces_cons]
  rfl

/-! ## Regular expressions -/

/-- A regular expression is left as it is, with what is found about it. -/
theorem outlineFrom_regex {inner : List Char} (hPlain : opensComment ('/' :: inner) = false)
    (hOpens : RegexLiteral.opensAfter o.maxLookback before = true) :
    let r := RegexLiteral.read offset ('/' :: inner)
    outlineFrom e o before offset ('/' :: inner) =
      (⟨copied r.text, r.findings⟩ : Outline).followedBy
        (outlineFrom e o (r.text.reverse ++ before) (offset + byteLength r.text) r.rest) := by
  intro r
  have hOther : (⟨⟨r.context, r.text, offset⟩, r.findings⟩ : Piece).token.kind ≠ .comment := by
    simp [r, Token.kind, Context.kind]
  rw [outlineFrom_cons, readToken_of_regex .extended offset hPlain hOpens,
    Outline.ofPieces_cons_of_ne e hOther]
  rfl

end Scan

namespace RegexLiteral

/-- A character that stands for itself in the body of a literal. -/
def isBodyChar (c : Char) : Bool := c != '\\' && c != '[' && c != '/' && c != '\n'

/-- Characters that stand for themselves are a body. -/
theorem body_of_isBodyChar {w : List Char} (h : ∀ c ∈ w, isBodyChar c = true) : Body w := by
  induction w with
  | nil => exact .nil
  | cons c w ih =>
    obtain ⟨hFirst, hOthers⟩ := List.forall_mem_cons.mp h
    simp only [isBodyChar, Bool.and_eq_true, bne_iff_ne] at hFirst
    obtain ⟨⟨⟨hEscape, hClass⟩, hSlash⟩, hLine⟩ := hFirst
    exact .plain ⟨hEscape, hClass, hSlash, hLine⟩ (ih hOthers)

/-- A literal with both slashes is read with its flags. -/
theorem read_closed {w : List Char} (h : Body w) (offset : Nat) (rest : List Char) :
    read offset ('/' :: (w ++ '/' :: rest)) =
      { context := .regex
        text := '/' :: (w ++ '/' :: rest.takeWhile isFlag)
        rest := rest.dropWhile isFlag } := by
  have hBody := splitBody_body h ['/'] rest
  rw [← List.reverse_cons] at hBody
  rw [read, recognise_of_splitBody hBody]

/-- Where the line ends in a literal, it is found to be unfinished. -/
theorem read_broken {w rest : List Char} (h : ∀ c ∈ w, isBodyChar c = true)
    (hEnd : rest = [] ∨ rest.head? = some '\n') (offset : Nat) :
    read offset ('/' :: (w ++ rest)) =
      { context := .regex, text := '/' :: w, rest, findings := [.malformed .regex offset] } := by
  -- The body goes on to the end of the line, where it fails.
  have hRun : ∀ passed, splitBody passed (w ++ rest) = (w.reverse ++ passed, rest) := by
    induction w with
    | nil =>
      intro passed
      rw [List.nil_append, splitBody.eq_def]
      rcases hEnd with rfl | hLine
      · rfl
      · obtain ⟨x, rfl⟩ := List.head?_eq_some_iff.mp hLine
        rfl
    | cons c w ih =>
      intro passed
      obtain ⟨hFirst, hOthers⟩ := List.forall_mem_cons.mp h
      simp only [isBodyChar, Bool.and_eq_true, bne_iff_ne] at hFirst
      obtain ⟨⟨⟨hEscape, hClass⟩, hSlash⟩, hLine⟩ := hFirst
      rw [List.cons_append, splitBody_plain hEscape hClass (by simp [hSlash, hLine]),
        ih hOthers, List.reverse_cons, List.append_assoc]
      rfl
  have hLine : ∀ c ∈ '/' :: w, (c != '\n') = true := by
    intro c hc
    rcases List.mem_cons.mp hc with rfl | hc
    · rfl
    · have hBody := h c hc
      simp only [isBodyChar, Bool.and_eq_true] at hBody
      exact hBody.2
  have hStops : rest.takeWhile (· != '\n') = [] ∧ rest.dropWhile (· != '\n') = rest := by
    rcases hEnd with rfl | hFirst
    · exact ⟨rfl, rfl⟩
    · obtain ⟨x, rfl⟩ := List.head?_eq_some_iff.mp hFirst
      exact ⟨rfl, rfl⟩
  have hFails : ∃ complaints, recognise ('/' :: (w ++ rest)) = .error complaints := by
    simp only [recognise, hRun]
    rcases hEnd with rfl | hFirst
    · exact ⟨_, rfl⟩
    · obtain ⟨x, rfl⟩ := List.head?_eq_some_iff.mp hFirst
      exact ⟨_, rfl⟩
  obtain ⟨complaints, hError⟩ := hFails
  -- What fails takes its line, which is the slash and the body.
  rw [read, hError]
  rw [← List.cons_append, List.takeWhile_append_of_pos hLine, List.dropWhile_append_of_pos hLine,
    hStops.1, hStops.2, List.append_nil]

end RegexLiteral

namespace Scan

variable (e : Engine) {o : Options} {before : List Char} (offset : Nat)

/-- A literal with both slashes is left as it is. The letters after it are, too, whether they
are flags or not. -/
theorem outlineFrom_closed {w rest : List Char} (hBody : RegexLiteral.Body w)
    (hPlain : opensComment ('/' :: (w ++ '/' :: rest)) = false)
    (hOpens : RegexLiteral.opensAfter o.maxLookback before = true) :
    let text := '/' :: (w ++ ['/'])
    outlineFrom e o before offset (text ++ rest) =
      (Outline.plain text).followedBy
        (outlineFrom e o (text.reverse ++ before) (offset + byteLength text) rest) := by
  intro text
  -- Whether letters after the slash are flags or code, the outline is the same.
  have hFlags : ∀ c ∈ rest.takeWhile RegexLiteral.isFlag, isPlainChar c = true := by
    intro c hc
    obtain ⟨hQuote, hSlash, hAngle⟩ := code_of_isFlag (List.mem_takeWhile_imp hc)
    simp [isPlainChar, hQuote, hSlash, hAngle]
  have hAfter : outlineFrom e o (text.reverse ++ before) (offset + byteLength text)
      (rest.takeWhile RegexLiteral.isFlag ++ rest.dropWhile RegexLiteral.isFlag) = _ :=
    outlineFrom_plain e _ hFlags _
  rw [List.takeWhile_append_dropWhile] at hAfter
  have hText : text ++ rest = '/' :: (w ++ '/' :: rest) := by simp [text]
  have hWhole : '/' :: (w ++ '/' :: rest.takeWhile RegexLiteral.isFlag) =
      text ++ rest.takeWhile RegexLiteral.isFlag := by simp [text]
  rw [hText, outlineFrom_regex e offset hPlain hOpens, RegexLiteral.read_closed hBody, hAfter,
    ← Outline.followedBy_assoc, ← Outline.plain_append]
  dsimp only
  rw [hWhole]
  simp [Outline.plain, Nat.add_assoc]

/-- A literal in which the line ends is left as it is, and found to be unfinished. -/
theorem outlineFrom_broken {w rest : List Char}
    (hBody : ∀ c ∈ w, RegexLiteral.isBodyChar c = true)
    (hEnd : rest = [] ∨ rest.head? = some '\n')
    (hPlain : opensComment ('/' :: (w ++ rest)) = false)
    (hOpens : RegexLiteral.opensAfter o.maxLookback before = true) :
    outlineFrom e o before offset ('/' :: (w ++ rest)) =
      (⟨copied ('/' :: w), [.malformed .regex offset]⟩ : Outline).followedBy
        (outlineFrom e o (('/' :: w).reverse ++ before) (offset + byteLength ('/' :: w)) rest) := by
  rw [outlineFrom_regex e offset hPlain hOpens, RegexLiteral.read_broken hBody hEnd]

end Scan

/-- What a remover makes of a text with the tokens of a complete reading. -/
theorem Remover.process_outline {r : Remover} {content : List Char}
    (hFactor : 1 ≤ r.tokenizer.options.iterationFactor) (hWord : byteLength content ≤ maxWord)
    (extension : String) :
    let outline := Scan.outlineFrom r.engine r.tokenizer.options [] 0 content
    let result := (r.process content extension).1
    (⟨result.content, result.removed, result.preserved⟩ : Stripped) = outline.left ∧
      result.errors =
        (outline.findings.foldl (Tokenizer.note · content)
          { r.tokenizer.clear with lines := {} }).log.errors := by
  intro outline result
  have hResult : result = _ := process_eq_reassemble hFactor hWord extension
  have hRead := Tokenizer.tokenize_of_le (t := r.tokenizer.clear)
    (Scan.length_pieces_le_ceiling .extended hFactor hWord)
  rw [hResult]
  refine ⟨reassemble_eq_sifted r.engine content _ _, ?_⟩
  rw [reassemble, hRead]
  rfl

end CommentSieve
