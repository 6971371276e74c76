import CommentSieve.Proofs.Partition
import CommentSieve.Proofs.RegexGrammar

/-!
# Regular expression literals, one character at a time

A literal is recognised by its parts: escapes, classes and runs of plain characters, as many
as there are, and then a slash. A class that is not closed is given up as a whole, after its
inside has been read, and what is left then starts with its bracket.

The same literals are found by a scan that never goes back. It looks at every character once
and only knows whether it is in a class and whether a backslash came just before. Between the
two stands the grammar: in each phase, what leads the scan back to the body is a part of the
grammar that is still open there (`Phase.Leads`).

Main results:

* `leads_of_foldl`, `foldl_body` — the scan gets through a text exactly if that is a body.
* `newline_not_mem_read` — what is read as a literal lies on one line.
* `literal_by_phases` — what is recognised is what the scan says; the rest of the line is read
  where it fails.
-/

namespace CommentSieve.RegexLiteral

open Text

/-! ## The scan -/

/-- Where the scan of a literal is. -/
inductive Phase
  /-- In the body, outside of character classes. -/
  | plain
  /-- In a character class. -/
  | bracketed
  /-- Just behind a backslash. -/
  | escaped (inClass : Bool)
  /-- Behind the slash that closes the literal. -/
  | closed
  /-- Behind a line end, where no literal goes. -/
  | failed
  deriving Repr, DecidableEq

namespace Phase

/-- What one character does. -/
def after : Phase → Char → Phase
  | plain, c =>
    if c = '\n' then failed
    else if c = '\\' then escaped false
    else if c = '[' then bracketed
    else if c = '/' then closed
    else plain
  | bracketed, c =>
    if c = '\n' then failed
    else if c = '\\' then escaped true
    else if c = ']' then plain
    else bracketed
  | escaped inClass, c =>
    if c = '\n' then failed
    else if inClass then bracketed
    else plain
  | closed, _ => closed
  | failed, _ => failed

/-! ## The grammar in each phase -/

/-- The rest of a class, and more of the body behind it. -/
def RestOfClass (w : List Char) : Prop := ∃ v u, w = v ++ u ∧ Inside v ∧ Body u

/-- What leads from a phase back to the body, by the grammar. -/
def Leads : Phase → List Char → Prop
  | plain, w => Body w
  | bracketed, w => RestOfClass w
  | escaped inClass, w =>
    ∃ c u, w = c :: u ∧ c ≠ '\n' ∧ if inClass then RestOfClass u else Body u
  | closed, _ | failed, _ => False

/-- A character that means nothing in the body. -/
theorem after_plain {c : Char} (hEscape : c ≠ '\\') (hClass : c ≠ '[') (hSlash : c ≠ '/')
    (hLine : c ≠ '\n') : plain.after c = plain := by
  simp [after, hLine, hEscape, hClass, hSlash]

/-- A character that means nothing in a class. -/
theorem after_bracketed {c : Char} (hClose : c ≠ ']') (hEscape : c ≠ '\\') (hLine : c ≠ '\n') :
    bracketed.after c = bracketed := by
  simp [after, hLine, hEscape, hClose]

theorem after_escaped {c : Char} (hLine : c ≠ '\n') (inClass : Bool) :
    (escaped inClass).after c = if inClass then bracketed else plain := if_neg hLine

/-- One character more in front: what leads on from the next phase leads on from this one. -/
theorem Leads.cons {phase : Phase} {c : Char} {w : List Char} (h : (phase.after c).Leads w) :
    phase.Leads (c :: w) := by
  by_cases hLine : c = '\n'
  · subst hLine
    cases phase <;> exact False.elim h
  cases phase with
  | plain =>
    show Body (c :: w)
    by_cases hEscape : c = '\\'
    · -- the next character belongs to the escape
      subst hEscape
      obtain ⟨d, u, rfl, hd, hBody⟩ := h
      exact .escape hd hBody
    by_cases hClass : c = '['
    · -- the class ends somewhere, and the body goes on
      subst hClass
      obtain ⟨v, u, rfl, hInside, hBody⟩ := h
      exact .bracketed hInside hBody
    by_cases hSlash : c = '/'
    · subst hSlash
      exact False.elim h
    rw [after_plain hEscape hClass hSlash hLine] at h
    exact .plain ⟨hEscape, hClass, hSlash, hLine⟩ h
  | bracketed =>
    show RestOfClass (c :: w)
    by_cases hEscape : c = '\\'
    · subst hEscape
      obtain ⟨d, u, rfl, hd, v, x, rfl, hInside, hBody⟩ := h
      exact ⟨'\\' :: d :: v, x, rfl, .escape hd hInside, hBody⟩
    by_cases hClose : c = ']'
    · -- the class ends here
      subst hClose
      exact ⟨[']'], w, rfl, .close, h⟩
    rw [after_bracketed hClose hEscape hLine] at h
    obtain ⟨v, u, rfl, hInside, hBody⟩ := h
    exact ⟨c :: v, u, rfl, .plain ⟨hClose, hEscape, hLine⟩ hInside, hBody⟩
  | escaped inClass =>
    rw [after_escaped hLine] at h
    refine ⟨c, w, rfl, hLine, ?_⟩
    cases inClass with
    | false => exact h
    | true => exact h
  -- nothing leads back from behind the slash or a line end
  | closed => exact False.elim h
  | failed => exact False.elim h

/-- What the scan gets through is a part of the grammar. -/
theorem leads_of_foldl {w : List Char} {phase : Phase} (h : w.foldl after phase = plain) :
    phase.Leads w := by
  -- The phase changes along the text, so the induction is for all phases at once.
  induction w generalizing phase with
  | nil =>
    obtain rfl : phase = plain := h
    exact .nil
  | cons c w ih => exact (ih h).cons

/-! ## The grammar leads through the scan -/

/-- The inside of a class leads back to the body. -/
theorem foldl_inside {w : List Char} (h : Inside w) : w.foldl after bracketed = plain := by
  induction h with
  | close => rfl
  | @escape c w hc _ ih =>
    -- behind the backslash every character but a line end leads back into the class
    show w.foldl after ((escaped true).after c) = plain
    rw [after_escaped hc]
    exact ih
  | @plain c w hc _ ih =>
    obtain ⟨hClose, hEscape, hLine⟩ := hc
    rw [List.foldl_cons, after_bracketed hClose hEscape hLine, ih]

/-- So does a body. -/
theorem foldl_body {w : List Char} (h : Body w) : w.foldl after plain = plain := by
  induction h with
  | nil => rfl
  | @escape c w hc _ ih =>
    show w.foldl after ((escaped false).after c) = plain
    rw [after_escaped hc]
    exact ih
  | @bracketed v w hInside _ ih =>
    -- the bracket opens the class, and its inside ends with the one that closes it
    show (v ++ w).foldl after .bracketed = plain
    rw [List.foldl_append, foldl_inside hInside, ih]
  | @plain c w hc _ ih =>
    obtain ⟨hEscape, hClass, hSlash, hLine⟩ := hc
    rw [List.foldl_cons, after_plain hEscape hClass hSlash hLine, ih]

theorem foldl_eq_plain_iff {w : List Char} : w.foldl after plain = plain ↔ Body w :=
  ⟨leads_of_foldl, foldl_body⟩

end Phase

/-! ## What is recognised -/

/-- A literal is recognised exactly if the scan comes from a slash to a slash outside of all
classes. -/
theorem recognise_eq_ok_iff {input text rest : List Char} :
    recognise input = .ok (text, rest) ↔
      ∃ body after, input = '/' :: (body ++ '/' :: after) ∧
        body.foldl Phase.after .plain = .plain ∧
        text = '/' :: (body ++ '/' :: after.takeWhile isFlag) ∧
        rest = after.dropWhile isFlag := by
  simp only [Phase.foldl_eq_plain_iff]
  constructor
  · intro h
    -- without a slash in front nothing is recognised
    obtain ⟨inner, rfl⟩ : ∃ inner, input = '/' :: inner := by
      unfold recognise at h
      split at h
      · exact ⟨_, rfl⟩
      · simp at h
    obtain ⟨body, after, rfl, hBody, hText, hRest⟩ := exists_body_of_recognise h
    exact ⟨body, after, rfl, hBody, hText, hRest⟩
  · rintro ⟨body, after, rfl, hBody, rfl, rfl⟩
    exact recognise_body hBody after

/-! ## On one line -/

/-- No line ends in a class. -/
theorem newline_not_mem_inside {w : List Char} (h : Inside w) : '\n' ∉ w := by
  induction h with
  | close => simp
  | escape hc _ ih => simp [ih, Ne.symm hc]
  | plain hc _ ih => simp [ih, Ne.symm hc.2.2]

/-- No line ends in a body. -/
theorem newline_not_mem_body {w : List Char} (h : Body w) : '\n' ∉ w := by
  induction h with
  | nil => simp
  | escape hc _ ih => simp [ih, Ne.symm hc]
  | bracketed hInside _ ih => simp [ih, newline_not_mem_inside hInside]
  | plain hc _ ih => simp [ih, Ne.symm hc.2.2.2]

/-- What is read as a literal lies on one line, whether it is finished there or not. -/
theorem newline_not_mem_read (offset : Nat) (inner : List Char) :
    '\n' ∉ (read offset ('/' :: inner)).text := by
  cases hRead : recognise ('/' :: inner) with
  | ok pieces =>
    obtain ⟨text, rest⟩ := pieces
    obtain ⟨body, after, -, hBody, rfl, -⟩ := exists_body_of_recognise hRead
    have hFlags : '\n' ∉ after.takeWhile isFlag := by
      intro hMem
      exact absurd (List.mem_takeWhile_imp hMem) (by decide)
    simp [read, hRead, newline_not_mem_body hBody, hFlags]
  | error complaints =>
    -- the rest of the line, up to its end
    intro hMem
    simp only [read, hRead] at hMem
    simpa using List.mem_takeWhile_imp hMem

/-- Every token that is a regular expression lies on one line. -/
theorem newline_not_mem_token (t : Tokenizer) {content : List Char} {token : Token}
    (hToken : token ∈ (t.tokenize content).1) (hKind : token.kind = .regex) :
    '\n' ∉ token.text := by
  rw [Tokenizer.tokens_tokenize] at hToken
  obtain ⟨p, hp, rfl⟩ := List.mem_map.mp hToken
  obtain ⟨v, c, cs, r, -, hRead, rfl⟩ :=
    Scan.exists_read_of_mem_pieces (List.mem_of_mem_take hp)
  have hBranch := Scan.readToken_branch .extended t.options (v.reverse ++ [])
    (0 + byteLength v) c cs
  rw [← hRead] at hBranch
  -- only one of the readers reads regular expressions
  cases hBranch with
  | regex hSlash =>
    subst hSlash
    exact newline_not_mem_read (0 + byteLength v) cs
  | string => simp [Token.kind, Context.kind] at hKind
  | template => simp [Token.kind] at hKind
  | delimited => simp [Token.kind, Context.kind] at hKind
  | line => simp [Token.kind, Context.kind] at hKind
  | code => simp [Token.kind, Context.kind] at hKind

/-- **A literal is what one scan over its characters says.** It is recognised exactly if a
scan that starts behind a slash comes to another slash in the body, outside of all classes,
and then with all the flags that follow; what is recognised and what is left make up the
text. Otherwise the rest of the line is read. No token that is a regular expression goes past
the end of its line. -/
theorem literal_by_phases (input : List Char) :
    (∀ text rest, recognise input = .ok (text, rest) ↔
      ∃ body after, input = '/' :: (body ++ '/' :: after) ∧
        body.foldl Phase.after .plain = .plain ∧
        text = '/' :: (body ++ '/' :: after.takeWhile isFlag) ∧
        rest = after.dropWhile isFlag) ∧
    (∀ text rest, recognise input = .ok (text, rest) → text ++ rest = input) ∧
    (∀ offset complaints, recognise input = .error complaints →
      (read offset input).text = input.takeWhile (· != '\n') ∧
        (read offset input).rest = input.dropWhile (· != '\n')) ∧
    ∀ (t : Tokenizer), ∀ token ∈ (t.tokenize input).1, token.kind = .regex →
      '\n' ∉ token.text := by
  refine ⟨fun text rest => recognise_eq_ok_iff, ?_, ?_, ?_⟩
  · intro text rest h
    exact (recognise_append h).1
  · intro offset complaints h
    simp [read, h]
  · intro t token hToken hKind
    exact newline_not_mem_token t hToken hKind

/-- A slash in a class does not close the literal, and one in a class that is not closed on its
line closes nothing either. -/
theorem literal_by_phases_class :
    recognise ['/', '[', '/', ']', '/', 'g', ';'] =
      .ok (['/', '[', '/', ']', '/', 'g'], [';']) ∧
    recognise ['/', '[', '/', '\n', ']', '/'] =
      .error [⟨1, .character '/'⟩, ⟨0, .construct "regex literal"⟩] ∧
    (read 0 ['/', '[', '/', '\n', ']', '/']).text = ['/', '[', '/'] ∧
    (⟨.regex, ['/', '[', '/'], 0⟩ : Token) ∈
      ((Tokenizer.new {}).tokenize ['/', '[', '/', '\n', ']', '/']).1 ∧
    '\n' ∉ ['/', '[', '/'] := by
  have hClosed := literal_by_phases ['/', '[', '/', ']', '/', 'g', ';']
  have hOpen := literal_by_phases ['/', '[', '/', '\n', ']', '/']
  have hScan : ['[', '/', ']'].foldl Phase.after .plain = .plain := by decide
  have hFails : recognise ['/', '[', '/', '\n', ']', '/'] =
      .error [⟨1, .character '/'⟩, ⟨0, .construct "regex literal"⟩] := by
    decide +kernel
  have hToken : (⟨.regex, ['/', '[', '/'], 0⟩ : Token) ∈
      ((Tokenizer.new {}).tokenize ['/', '[', '/', '\n', ']', '/']).1 := by
    decide +kernel
  refine ⟨?_, hFails, (hOpen.2.2.1 0 _ hFails).1, hToken, hOpen.2.2.2 (.new {}) _ hToken rfl⟩
  exact (hClosed.1 _ _).mpr ⟨['[', '/', ']'], ['g', ';'], rfl, hScan, rfl, rfl⟩

end CommentSieve.RegexLiteral
