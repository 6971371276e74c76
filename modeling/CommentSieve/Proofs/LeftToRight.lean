import CommentSieve.Proofs.Extents
import CommentSieve.Proofs.OnePass

/-!
# Stripping from left to right

What stripping does is told here without a pattern. A scan stands at a character. If a literal
starts there, it is copied as a whole; if not, but a comment starts there, the comment is kept
or dropped as a whole; and if neither starts there, the character is copied and the scan goes on
at the next one. Which literals and comments there are is said by what stands between their
ends: no loop is greedy or lazy in it, and nothing is tried twice.

A text in signs has only one end, as every character of it is plain or hidden behind a
backslash, and a comment ends with its first terminator. So at most one thing starts at a
character, and a scan has one outcome. Where an end is missing nothing starts at all. The
opening is then text like any other, and what stands after it is looked at on its own.

Main results:

* `Dialect.enclosedAt?_eq_some_iff`, `Dialect.commentAt?_eq_some_iff` — the patterns find
  literals and comments.
* `Fallback.scans_iff` — a scan from any place has the outcome that stripping has.
* `Fallback.strip_by_scanning` — stripping is one scan from left to right.
-/

namespace CommentSieve

open Text

namespace Dialect

/-! ## Literals -/

/-- What may stand between two signs: characters other than the sign, which have to be `onLine`
if the text has, and characters that a backslash hides. -/
inductive IsBody (sign : Char) (onLine : Bool) : List Char → Prop
  | nil : IsBody sign onLine []
  | plain {c : Char} {cs : List Char} (hSign : c ≠ sign) (hEscape : c ≠ '\\')
    (hLine : onLine = true → c ≠ '\n') (more : IsBody sign onLine cs) : IsBody sign onLine (c :: cs)
  | escape (c : Char) {cs : List Char} (more : IsBody sign onLine cs) :
    IsBody sign onLine ('\\' :: c :: cs)

/-- The literals of a dialect: texts in quotes that end on their line, and texts in back-ticks
where these quote. -/
inductive IsLiteral (d : Dialect) : List Char → Prop
  | quoted {quote : Char} {body : List Char} (hQuote : quote = '"' ∨ quote = '\'')
    (hBody : IsBody quote true body) : IsLiteral d (quote :: (body ++ [quote]))
  | ticked {body : List Char} (hDialect : d ≠ .hash) (hBody : IsBody '`' false body) :
    IsLiteral d ('`' :: (body ++ ['`']))

/-- Whether a literal stands at the front of a text. -/
def StartsLiteral (d : Dialect) (cs : List Char) : Prop :=
  ∃ literal after, cs = literal ++ after ∧ d.IsLiteral literal

section Signs

variable {sign : Char} {onLine : Bool}

/-- What stands before the closing sign is closed by it. -/
theorem closing?_of_isBody (hSign : sign ≠ '\\') {body : List Char}
    (h : IsBody sign onLine body) (after : List Char) :
    closing? sign onLine (body ++ sign :: after) = some (body.length + 1) := by
  induction h with
  | nil => rw [List.nil_append, closing?_cons sign onLine hSign, if_pos rfl, List.length_nil]
  | @plain c _ hOther hEscape hLine _ ih =>
    have hOnLine : ¬ (onLine && c == '\n') = true := by
      rw [Bool.and_eq_true, beq_iff_eq]
      exact fun h => hLine h.1 h.2
    rw [List.cons_append, closing?_cons sign onLine hEscape, if_neg hOther, if_neg hOnLine, ih]
    rfl
  | escape c _ ih =>
    rw [List.cons_append, List.cons_append, closing?_escape, ih]
    rfl

/-- The closing sign is the first one that no backslash hides. -/
theorem isBody_of_closing? {cs : List Char} {n : Nat} (h : closing? sign onLine cs = some n) :
    ∃ body after, cs = body ++ sign :: after ∧ IsBody sign onLine body ∧ n = body.length + 1 := by
  -- Only where the sign was found there is a case left: behind a backslash, here, or later.
  fun_induction closing? sign onLine cs generalizing n with
  | case1 => cases h
  | case2 => cases h
  | case3 c cs ih =>
    obtain ⟨m, hm, rfl⟩ := Option.map_eq_some_iff.mp h
    obtain ⟨body, after, rfl, hBody, rfl⟩ := ih hm
    exact ⟨'\\' :: c :: body, after, rfl, .escape c hBody, rfl⟩
  | case4 cs =>
    obtain rfl := Option.some.inj h
    exact ⟨[], cs, rfl, .nil, rfl⟩
  | case5 => cases h
  | case6 c cs hEscape hOther hOnLine ih =>
    obtain ⟨m, hm, rfl⟩ := Option.map_eq_some_iff.mp h
    obtain ⟨body, after, rfl, hBody, rfl⟩ := ih hm
    refine ⟨c :: body, after, rfl, .plain hOther hEscape ?_ hBody, rfl⟩
    rintro hLine rfl
    exact hOnLine (by simp [hLine])

/-- A quoted text is a sign, a body and the sign again. -/
theorem enclosedLength?_eq_some_iff (hSign : sign ≠ '\\') {cs : List Char} {n : Nat} :
    enclosedLength? sign onLine cs = some n ↔
      ∃ body after, cs = sign :: (body ++ [sign]) ++ after ∧ IsBody sign onLine body ∧
        n = (sign :: (body ++ [sign])).length := by
  rw [enclosedLength?, Option.bind_eq_some_iff]
  constructor
  · rintro ⟨rest, hRest, hClosing⟩
    obtain ⟨m, hm, rfl⟩ := Option.map_eq_some_iff.mp hClosing
    obtain ⟨body, after, rfl, hBody, rfl⟩ := isBody_of_closing? hm
    refine ⟨body, after, ?_, hBody, ?_⟩
    · rw [eq_append_of_stripStart? hRest]
      simp
    · simp only [List.length_cons, List.length_append, List.length_nil]
      omega
  · -- In a body of this kind the sign is not found, so that the one after it is the first.
    rintro ⟨body, after, rfl, hBody, rfl⟩
    refine ⟨body ++ sign :: after, ?_, ?_⟩
    · have hText : sign :: (body ++ [sign]) ++ after = [sign] ++ (body ++ sign :: after) := by simp
      rw [hText, stripStart?_append]
    · rw [closing?_of_isBody hSign hBody, Option.map_some]
      simp only [List.length_cons, List.length_append, List.length_nil]
      congr 1
      omega

end Signs

theorem enclosedLength?_of_ne {sign c : Char} (h : sign ≠ c) (onLine : Bool) (cs : List Char) :
    enclosedLength? sign onLine (c :: cs) = none := by
  rw [enclosedLength?, stripStart?, if_neg h]
  rfl

/-- The pattern for literals finds the literals. -/
theorem enclosedAt?_eq_some_iff (d : Dialect) {cs : List Char} {n : Nat} :
    d.enclosedAt? cs = some n ↔
      ∃ literal after, cs = literal ++ after ∧ d.IsLiteral literal ∧ literal.length = n := by
  constructor
  · -- Whichever sign it was found by, the text in it is a literal.
    have hQuoted : ∀ quote : Char, quote = '"' ∨ quote = '\'' →
        enclosedLength? quote true cs = some n →
        ∃ literal after, cs = literal ++ after ∧ d.IsLiteral literal ∧ literal.length = n := by
      intro quote hQuote h
      have hSign : quote ≠ '\\' := by rcases hQuote with rfl | rfl <;> decide
      obtain ⟨body, after, hCs, hBody, hLength⟩ := (enclosedLength?_eq_some_iff hSign).mp h
      exact ⟨_, after, hCs, .quoted hQuote hBody, hLength.symm⟩
    have hTicked : d ≠ .hash → enclosedLength? '`' false cs = some n →
        ∃ literal after, cs = literal ++ after ∧ d.IsLiteral literal ∧ literal.length = n := by
      intro hDialect h
      have hSign : '`' ≠ '\\' := by decide
      obtain ⟨body, after, hCs, hBody, hLength⟩ := (enclosedLength?_eq_some_iff hSign).mp h
      exact ⟨_, after, hCs, .ticked hDialect hBody, hLength.symm⟩
    intro h
    cases d with
    | cStyle | markup =>
      rcases Option.or_eq_some_iff.mp h with h | ⟨-, h⟩
      · exact hQuoted '"' (.inl rfl) h
      · rcases Option.or_eq_some_iff.mp h with h | ⟨-, h⟩
        · exact hQuoted '\'' (.inr rfl) h
        · exact hTicked (by decide) h
    | hash =>
      rcases Option.or_eq_some_iff.mp h with h | ⟨-, h⟩
      · exact hQuoted '"' (.inl rfl) h
      · exact hQuoted '\'' (.inr rfl) h
  · rintro ⟨literal, after, rfl, hLiteral, rfl⟩
    -- The first character tells which sign it is, so that the others find nothing.
    cases hLiteral with
    | @quoted quote body hQuote hBody =>
      have hSign : quote ≠ '\\' := by rcases hQuote with rfl | rfl <;> decide
      have hFound : enclosedLength? quote true (quote :: (body ++ [quote]) ++ after) =
          some (quote :: (body ++ [quote])).length :=
        (enclosedLength?_eq_some_iff hSign).mpr ⟨body, after, rfl, hBody, rfl⟩
      rcases hQuote with rfl | rfl
      · cases d <;> rw [enclosedAt?, hFound, Option.some_or]
      · have hDouble : enclosedLength? '"' true ('\'' :: (body ++ ['\'']) ++ after) = none :=
          enclosedLength?_of_ne (by decide) ..
        cases d <;> simp only [enclosedAt?, hDouble, hFound, Option.none_or, Option.some_or]
    | @ticked body hDialect hBody =>
      have hFound : enclosedLength? '`' false ('`' :: (body ++ ['`']) ++ after) =
          some ('`' :: (body ++ ['`'])).length :=
        (enclosedLength?_eq_some_iff (by decide)).mpr ⟨body, after, rfl, hBody, rfl⟩
      have hDouble : enclosedLength? '"' true ('`' :: (body ++ ['`']) ++ after) = none :=
        enclosedLength?_of_ne (by decide) ..
      have hSingle : enclosedLength? '\'' true ('`' :: (body ++ ['`']) ++ after) = none :=
        enclosedLength?_of_ne (by decide) ..
      cases d with
      | cStyle | markup => simp only [enclosedAt?, hDouble, hSingle, hFound, Option.none_or]
      | hash => exact absurd rfl hDialect

/-! ## Comments -/

/-- The comments with a terminator that a dialect has. -/
def styles : Dialect → List Comment.Style
  | cStyle => [.block]
  | markup => [.html, .block]
  | hash => []

/-- What opens a comment that goes to the end of the line. -/
def lineMark : Dialect → List Char
  | cStyle | markup => ['/', '/']
  | hash => ['#']

/-- The comments of a dialect, given the text after them. -/
inductive IsComment (d : Dialect) : (text after : List Char) → Prop
  /-- Through the first terminator after the opening. -/
  | closed {style : Comment.Style} {inner after : List Char} (hStyle : style ∈ d.styles)
    (hFirst : ∀ u v, inner ++ (style.terminator ++ after) = u ++ (style.terminator ++ v) →
      inner.length ≤ u.length) :
    IsComment d (style.opening ++ (inner ++ style.terminator)) after
  /-- Up to the end of the line. -/
  | line {body after : List Char} (hBody : '\n' ∉ body)
    (hEnd : after = [] ∨ after.head? = some '\n') : IsComment d (d.lineMark ++ body) after

/-- Whether a comment stands at the front of a text. -/
def StartsComment (d : Dialect) (cs : List Char) : Prop :=
  ∃ text after, cs = text ++ after ∧ d.IsComment text after

/-- A comment ends with the first terminator after its opening. -/
theorem delimitedLength?_eq_some_iff {style : Comment.Style} {cs : List Char} {n : Nat} :
    delimitedLength? style cs = some n ↔
      ∃ inner after, cs = style.opening ++ (inner ++ style.terminator) ++ after ∧
        (∀ u v, inner ++ (style.terminator ++ after) = u ++ (style.terminator ++ v) →
          inner.length ≤ u.length) ∧
        n = (style.opening ++ (inner ++ style.terminator)).length := by
  have hLengths : ∀ inner : List Char, style.opening.length +
      (inner.length + style.terminator.length) =
        (style.opening ++ (inner ++ style.terminator)).length := by
    intro inner
    rw [List.length_append, List.length_append]
  -- The opening is stripped, and the text split around the first terminator.
  rw [delimitedLength?, Option.bind_eq_some_iff]
  constructor
  · rintro ⟨body, hBody, hSplit⟩
    obtain ⟨⟨inner, after⟩, hFound, rfl⟩ := Option.map_eq_some_iff.mp hSplit
    obtain ⟨rfl, hFirst⟩ := splitAround?_eq_some_iff.mp hFound
    refine ⟨inner, after, ?_, hFirst, hLengths inner⟩
    rw [eq_append_of_stripStart? hBody, List.append_assoc, List.append_assoc]
  · rintro ⟨inner, after, rfl, hFirst, rfl⟩
    refine ⟨inner ++ (style.terminator ++ after), ?_, ?_⟩
    · rw [List.append_assoc, List.append_assoc, stripStart?_append]
    · rw [splitAround?_eq_some_iff.mpr ⟨rfl, hFirst⟩, Option.map_some, hLengths]

/-- A line comment ends where its line does. -/
theorem lineLength?_eq_some_iff {opening cs : List Char} {n : Nat} :
    lineLength? opening cs = some n ↔
      ∃ body after, cs = opening ++ body ++ after ∧ '\n' ∉ body ∧
        (after = [] ∨ after.head? = some '\n') ∧ n = (opening ++ body).length := by
  rw [lineLength?, Option.map_eq_some_iff]
  constructor
  · rintro ⟨text, hText, rfl⟩
    refine ⟨text.takeWhile (· != '\n'), text.dropWhile (· != '\n'), ?_, ?_,
      line_cases text, List.length_append.symm⟩
    · rw [List.append_assoc, List.takeWhile_append_dropWhile, eq_append_of_stripStart? hText]
    · intro hMem
      simpa using List.mem_takeWhile_imp (p := (· != '\n')) hMem
  · rintro ⟨body, after, rfl, hBody, hEnd, rfl⟩
    refine ⟨body ++ after, by rw [List.append_assoc, stripStart?_append], ?_⟩
    -- The line ends with the body, since the text after it is on the next one.
    have hLine : (body ++ after).takeWhile (· != '\n') = body := by
      rw [List.takeWhile_append_of_pos fun c hc => by
        rw [bne_iff_ne]
        rintro rfl
        exact hBody hc]
      rcases hEnd with rfl | hEnd
      · simp
      · cases after with
        | nil => cases hEnd
        | cons c after =>
          obtain rfl : c = '\n' := Option.some.inj hEnd
          simp
    rw [hLine, List.length_append]

theorem delimitedLength?_of_ne {style : Comment.Style} {cs : List Char}
    (h : stripStart? style.opening cs = none) : delimitedLength? style cs = none := by
  rw [delimitedLength?, h, Option.bind_none]

/-- The pattern for comments finds the comments. -/
theorem commentAt?_eq_some_iff (d : Dialect) {cs : List Char} {n : Nat} :
    d.commentAt? cs = some n ↔
      ∃ text after, cs = text ++ after ∧ d.IsComment text after ∧ text.length = n := by
  constructor
  · have hClosed : ∀ style ∈ d.styles, delimitedLength? style cs = some n →
        ∃ text after, cs = text ++ after ∧ d.IsComment text after ∧ text.length = n := by
      intro style hStyle h
      obtain ⟨inner, after, hCs, hFirst, hLength⟩ := delimitedLength?_eq_some_iff.mp h
      exact ⟨_, after, hCs, .closed hStyle hFirst, hLength.symm⟩
    have hLine : lineLength? d.lineMark cs = some n →
        ∃ text after, cs = text ++ after ∧ d.IsComment text after ∧ text.length = n := by
      intro h
      obtain ⟨body, after, hCs, hBody, hEnd, hLength⟩ := lineLength?_eq_some_iff.mp h
      exact ⟨_, after, hCs, .line hBody hEnd, hLength.symm⟩
    intro h
    cases d with
    | cStyle =>
      rcases Option.or_eq_some_iff.mp h with h | ⟨-, h⟩
      · exact hClosed .block (List.mem_singleton_self _) h
      · exact hLine h
    | markup =>
      rcases Option.or_eq_some_iff.mp h with h | ⟨-, h⟩
      · exact hClosed .html (by decide) h
      · rcases Option.or_eq_some_iff.mp h with h | ⟨-, h⟩
        · exact hClosed .block (by decide) h
        · exact hLine h
    | hash => exact hLine h
  · rintro ⟨text, after, rfl, hComment, rfl⟩
    -- By its opening a comment is of one kind only.
    cases hComment with
    | @closed style inner _ hStyle hFirst =>
      have hFound := delimitedLength?_eq_some_iff.mpr ⟨inner, after, rfl, hFirst, rfl⟩
      cases d with
      | cStyle =>
        obtain rfl := List.mem_singleton.mp hStyle
        rw [commentAt?, hFound, Option.some_or]
      | markup =>
        cases style with
        | html => rw [commentAt?, hFound, Option.some_or]
        | block =>
          have hHtml : delimitedLength? .html
              (Comment.Style.block.opening ++ (inner ++ Comment.Style.block.terminator) ++ after) =
                none := delimitedLength?_of_ne rfl
          rw [commentAt?, hHtml, hFound, Option.none_or, Option.some_or]
      | hash => cases hStyle
    | @line body _ hBody hEnd =>
      have hFound : lineLength? d.lineMark (d.lineMark ++ body ++ after) =
          some (d.lineMark ++ body).length :=
        lineLength?_eq_some_iff.mpr ⟨body, after, rfl, hBody, hEnd, rfl⟩
      cases d with
      | cStyle =>
        have hBlock : delimitedLength? .block (cStyle.lineMark ++ body ++ after) = none :=
          delimitedLength?_of_ne rfl
        rw [commentAt?, hBlock, Option.none_or]
        exact hFound
      | markup =>
        have hBlock : delimitedLength? .block (markup.lineMark ++ body ++ after) = none :=
          delimitedLength?_of_ne rfl
        have hHtml : delimitedLength? .html (markup.lineMark ++ body ++ after) = none :=
          delimitedLength?_of_ne rfl
        rw [commentAt?, hHtml, hBlock, Option.none_or, Option.none_or]
        exact hFound
      | hash => exact hFound

/-! ## What starts at a character -/

variable {d : Dialect} {cs : List Char}

/-- What finds no quoted text is told by the grammar. -/
theorem enclosedAt?_eq_none_iff : d.enclosedAt? cs = none ↔ ¬ d.StartsLiteral cs := by
  rw [Option.eq_none_iff_forall_ne_some]
  constructor
  · rintro h ⟨literal, after, hCs, hLiteral⟩
    exact h literal.length (d.enclosedAt?_eq_some_iff.mpr ⟨literal, after, hCs, hLiteral, rfl⟩)
  · rintro h n hn
    obtain ⟨literal, after, hCs, hLiteral, -⟩ := d.enclosedAt?_eq_some_iff.mp hn
    exact h ⟨literal, after, hCs, hLiteral⟩

/-- What finds no comment is told by the grammar. -/
theorem commentAt?_eq_none_iff : d.commentAt? cs = none ↔ ¬ d.StartsComment cs := by
  rw [Option.eq_none_iff_forall_ne_some]
  constructor
  · rintro h ⟨text, after, hCs, hComment⟩
    exact h text.length (d.commentAt?_eq_some_iff.mpr ⟨text, after, hCs, hComment, rfl⟩)
  · rintro h n hn
    obtain ⟨text, after, hCs, hComment, -⟩ := d.commentAt?_eq_some_iff.mp hn
    exact h ⟨text, after, hCs, hComment⟩

theorem IsLiteral.length_pos {literal : List Char} (h : d.IsLiteral literal) :
    0 < literal.length := by
  cases h <;> exact Nat.succ_pos _

theorem IsComment.length_pos {text after : List Char} (h : d.IsComment text after) :
    0 < text.length := by
  cases h with
  | @closed style inner after hStyle hFirst => cases style <;> exact Nat.succ_pos _
  | line => cases d <;> exact Nat.succ_pos _

theorem front?_of_isLiteral {literal : List Char} (h : d.IsLiteral literal) (after : List Char) :
    d.front? (literal ++ after) = some (false, literal.length) := by
  rw [front?, d.enclosedAt?_eq_some_iff.mpr ⟨literal, after, rfl, h, rfl⟩]
  rfl

/-- A comment is found as one, with its length, where no literal starts. -/
theorem front?_of_isComment {text after : List Char} (hNone : ¬ d.StartsLiteral (text ++ after))
    (h : d.IsComment text after) : d.front? (text ++ after) = some (true, text.length) := by
  rw [front?, enclosedAt?_eq_none_iff.mpr hNone,
    d.commentAt?_eq_some_iff.mpr ⟨text, after, rfl, h, rfl⟩]
  rfl

theorem front?_of_neither (hLiteral : ¬ d.StartsLiteral cs) (hComment : ¬ d.StartsComment cs) :
    d.front? cs = none := by
  rw [front?, enclosedAt?_eq_none_iff.mpr hLiteral, commentAt?_eq_none_iff.mpr hComment]
  rfl

end Dialect

namespace Fallback

open Dialect

/-! ## Scanning -/

/-- Whether a comment that starts at an index is kept: the engine keeps it, or it is an
interpreter line, which only a text can start with. -/
def Stays (d : Dialect) (e : Engine) (index : Nat) (comment : List Char) : Prop :=
  e.keeps comment = true ∨ d = .hash ∧ index = 0 ∧ ['#', '!'] <+: comment

/-- A scan of the rest of a text from left to right, `index` characters of which have gone by. -/
inductive Scans (d : Dialect) (e : Engine) : (index : Nat) → (cs : List Char) → Stripped → Prop
  | done (index : Nat) : Scans d e index [] {}
  /-- A literal is copied as a whole. -/
  | literal {index : Nat} {text after : List Char} {out : Stripped} (hLiteral : d.IsLiteral text)
    (more : Scans d e (index + text.length) after out) :
    Scans d e index (text ++ after) { out with content := text ++ out.content }
  | kept {index : Nat} {text after : List Char} {out : Stripped}
    (hNone : ¬ d.StartsLiteral (text ++ after)) (hComment : d.IsComment text after)
    (hStays : Stays d e index text) (more : Scans d e (index + text.length) after out) :
    Scans d e index (text ++ after)
      { out with content := text ++ out.content, preserved := out.preserved + 1 }
  | dropped {index : Nat} {text after : List Char} {out : Stripped}
    (hNone : ¬ d.StartsLiteral (text ++ after)) (hComment : d.IsComment text after)
    (hGoes : ¬ Stays d e index text) (more : Scans d e (index + text.length) after out) :
    Scans d e index (text ++ after) { out with removed := out.removed + 1 }
  /-- Where neither starts, one character is copied. -/
  | copied {index : Nat} {c : Char} {after : List Char} {out : Stripped}
    (hLiteral : ¬ d.StartsLiteral (c :: after)) (hComment : ¬ d.StartsComment (c :: after))
    (more : Scans d e (index + 1) after out) :
    Scans d e index (c :: after) { out with content := c :: out.content }

variable {d : Dialect} {e : Engine}

theorem stays_iff {index : Nat} {comment : List Char} :
    Stays d e index comment ↔ (isInterpreterLine d index comment || e.keeps comment) = true := by
  rw [Stays, isInterpreterLine, Bool.or_eq_true, Bool.and_eq_true, Bool.and_eq_true, beq_iff_eq,
    beq_iff_eq, startsWith_iff_prefix, or_comm, and_assoc]

/-- A literal is left as it is. -/
theorem leftFrom_of_isLiteral {text : List Char} (h : d.IsLiteral text) (index : Nat)
    (after : List Char) :
    leftFrom d e index (text ++ after) =
      { leftFrom d e (index + text.length) after with
        content := text ++ (leftFrom d e (index + text.length) after).content } := by
  rw [leftFrom_of_some d e index (front?_of_isLiteral h after), List.take_left, List.drop_left]
  simp [leftOfRun, judged, Stripped.followedBy]

/-- A comment that stays is left and counted. -/
theorem leftFrom_of_stays {text after : List Char} {index : Nat}
    (hNone : ¬ d.StartsLiteral (text ++ after)) (h : d.IsComment text after)
    (hStays : Stays d e index text) :
    leftFrom d e index (text ++ after) =
      { leftFrom d e (index + text.length) after with
        content := text ++ (leftFrom d e (index + text.length) after).content
        preserved := (leftFrom d e (index + text.length) after).preserved + 1 } := by
  rw [leftFrom_of_some d e index (front?_of_isComment hNone h), List.take_left, List.drop_left,
    leftOfRun, stays_iff.mp hStays]
  simp [judged, Stripped.followedBy, Nat.add_comm]

/-- One that goes is only counted. -/
theorem leftFrom_of_goes {text after : List Char} {index : Nat}
    (hNone : ¬ d.StartsLiteral (text ++ after)) (h : d.IsComment text after)
    (hGoes : ¬ Stays d e index text) :
    leftFrom d e index (text ++ after) =
      { leftFrom d e (index + text.length) after with
        removed := (leftFrom d e (index + text.length) after).removed + 1 } := by
  rw [leftFrom_of_some d e index (front?_of_isComment hNone h), List.take_left, List.drop_left,
    leftOfRun, Bool.eq_false_iff.mpr (mt stays_iff.mpr hGoes)]
  simp [judged, Stripped.followedBy, Nat.add_comm]

/-- A character that starts neither a literal nor a comment is left. -/
theorem leftFrom_of_neither {c : Char} {after : List Char}
    (hLiteral : ¬ d.StartsLiteral (c :: after)) (hComment : ¬ d.StartsComment (c :: after))
    (index : Nat) :
    leftFrom d e index (c :: after) =
      { leftFrom d e (index + 1) after with
        content := c :: (leftFrom d e (index + 1) after).content } := by
  rw [leftFrom_of_none d e index (front?_of_neither hLiteral hComment)]
  simp [Fallback.copied, Stripped.followedBy]

/-- A scan leaves what stripping leaves. -/
theorem leftFrom_of_scans {index : Nat} {cs : List Char} {out : Stripped}
    (h : Scans d e index cs out) : out = leftFrom d e index cs := by
  -- Each step of the scan is an equation of stripping.
  induction h with
  | done index => exact (leftFrom_nil d e index).symm
  | literal hLiteral _ ih => rw [leftFrom_of_isLiteral hLiteral, ← ih]
  | kept hNone hComment hStays _ ih => rw [leftFrom_of_stays hNone hComment hStays, ← ih]
  | dropped hNone hComment hGoes _ ih => rw [leftFrom_of_goes hNone hComment hGoes, ← ih]
  | copied hLiteral hComment _ ih => rw [leftFrom_of_neither hLiteral hComment, ← ih]

/-- What stripping leaves is left by a scan. -/
theorem scans_leftFrom (index : Nat) (cs : List Char) :
    Scans d e index cs (leftFrom d e index cs) := by
  -- On the length of the text: whatever starts at a character is not empty.
  induction hLength : cs.length using Nat.strong_induction_on generalizing index cs with
  | _ n ih =>
    have hMore : ∀ {text after : List Char}, cs = text ++ after → 0 < text.length →
        Scans d e (index + text.length) after (leftFrom d e (index + text.length) after) := by
      intro text after hCs hPos
      rw [hCs, List.length_append] at hLength
      exact ih after.length (by omega) _ after rfl
    by_cases hLiteral : d.StartsLiteral cs
    · obtain ⟨literal, after, rfl, hText⟩ := hLiteral
      rw [leftFrom_of_isLiteral hText]
      exact .literal hText (hMore rfl hText.length_pos)
    · by_cases hComment : d.StartsComment cs
      · obtain ⟨text, after, rfl, hText⟩ := hComment
        by_cases hStays : Stays d e index text
        · rw [leftFrom_of_stays hLiteral hText hStays]
          exact .kept hLiteral hText hStays (hMore rfl hText.length_pos)
        · rw [leftFrom_of_goes hLiteral hText hStays]
          exact .dropped hLiteral hText hStays (hMore rfl hText.length_pos)
      · cases cs with
        | nil =>
          rw [leftFrom_nil]
          exact .done index
        | cons c after =>
          rw [leftFrom_of_neither hLiteral hComment]
          exact .copied hLiteral hComment (hMore (List.singleton_append ..).symm Nat.one_pos)

/-- **A scan from any place has the outcome that stripping has**, and no other one. -/
theorem scans_iff {index : Nat} {cs : List Char} {out : Stripped} :
    Scans d e index cs out ↔ out = leftFrom d e index cs := by
  constructor
  · exact leftFrom_of_scans
  · rintro rfl
    exact scans_leftFrom index cs

/-! ## Openings without an end -/

/-- A text that starts with an opening whose end is missing. -/
inductive Unterminated : List Char → Prop
  | quote {quote : Char} {cs : List Char} (hQuote : quote = '"' ∨ quote = '\'')
    (hOpen : ∀ body after, cs = body ++ quote :: after → ¬ IsBody quote true body) :
    Unterminated (quote :: cs)
  | tick {cs : List Char}
    (hOpen : ∀ body after, cs = body ++ '`' :: after → ¬ IsBody '`' false body) :
    Unterminated ('`' :: cs)
  | comment {style : Comment.Style} {cs : List Char} (hOpen : ¬ style.terminator <:+: cs) :
    Unterminated (style.opening ++ cs)

/-- A literal ends where its body does. -/
theorem Unterminated.not_startsLiteral {cs : List Char} (h : Unterminated cs) :
    ¬ d.StartsLiteral cs := by
  rintro ⟨literal, after, hCs, hLiteral⟩
  cases h with
  | quote hQuote hOpen =>
    cases hLiteral with
    | quoted _ hBody =>
      obtain ⟨rfl, hRest⟩ := List.cons.inj hCs
      exact hOpen _ _ (hRest.trans (List.append_assoc ..)) hBody
    | ticked =>
      obtain ⟨rfl, -⟩ := List.cons.inj hCs
      revert hQuote
      decide
  | tick hOpen =>
    cases hLiteral with
    | quoted hQuote _ =>
      obtain ⟨rfl, -⟩ := List.cons.inj hCs
      revert hQuote
      decide
    | ticked _ hBody =>
      obtain ⟨-, hRest⟩ := List.cons.inj hCs
      exact hOpen _ _ (hRest.trans (List.append_assoc ..)) hBody
  | @comment style cs hOpen =>
    -- No comment opens with a sign.
    cases hLiteral with
    | quoted hQuote _ =>
      cases style <;>
      · obtain ⟨rfl, -⟩ := List.cons.inj hCs
        revert hQuote
        decide
    | ticked => cases style <;> exact absurd (List.cons.inj hCs).1 (by decide)

/-- A comment with a terminator contains it, and its opening is not that of another one. -/
theorem Unterminated.not_startsComment {cs : List Char} (h : Unterminated cs) :
    ¬ d.StartsComment cs := by
  rintro ⟨text, after, hCs, hComment⟩
  -- The first character tells a comment from a text in signs.
  have hFirst : text.head? = some '/' ∨ text.head? = some '<' ∨ text.head? = some '#' := by
    cases hComment with
    | @closed style => cases style <;> simp [Comment.Style.opening]
    | line => cases d <;> simp [lineMark]
  have hHead : cs.head? = text.head? := by
    rw [hCs]
    cases text with
    | nil => simp at hFirst
    | cons c text => rfl
  cases h with
  | quote hQuote _ =>
    rw [← hHead] at hFirst
    rcases hQuote with rfl | rfl <;> simp at hFirst
  | tick _ =>
    rw [← hHead] at hFirst
    simp at hFirst
  | @comment style cs hOpen =>
    cases hComment with
    | @closed style' inner after =>
      by_cases hSame : style = style'
      · -- The terminator would stand where there is none.
        subst hSame
        refine hOpen ⟨inner, after, ?_⟩
        rw [List.append_assoc, List.append_assoc] at hCs
        rw [List.append_cancel_left hCs, List.append_assoc]
      · cases style <;> cases style' <;> simp [Comment.Style.opening] at hSame hCs
    | line => cases style <;> cases d <;> simp [Comment.Style.opening, lineMark] at hCs

/-- **Stripping is one scan from left to right.** For every dialect, engine and text, what is
left by stripping is left by a scan, and a scan leaves nothing else. Where the end of a quoted
text, of a text in back-ticks or of a comment is missing, the first character of the opening is
copied and the scan goes on at the next one. -/
theorem strip_by_scanning (d : Dialect) (e : Engine) :
    (∀ content out, Scans d e 0 content out ↔ out = strip d e content) ∧
    ∀ index c cs out, Unterminated (c :: cs) →
      (Scans d e index (c :: cs) out ↔
        ∃ more, Scans d e (index + 1) cs more ∧
          out = { more with content := c :: more.content }) := by
  refine ⟨fun content out => ?_, fun index c cs out hOpen => ?_⟩
  · rw [scans_iff, strip_eq_leftFrom]
  · simp only [scans_iff, leftFrom_of_neither hOpen.not_startsLiteral hOpen.not_startsComment]
    constructor
    · rintro rfl
      exact ⟨_, rfl, rfl⟩
    · rintro ⟨_, rfl, rfl⟩
      rfl

/-- A string with a hidden quote and what looks like a comment, a comment, and a quote without an
end, which does not hide the comment after it. -/
theorem strip_by_scanning_quote :
    let rest := ['/', '*', 'c', '*', '/']
    Unterminated ('\'' :: rest) ∧
    Scans .cStyle .empty 0 ("\"\\\"//\"/*b*/".toList ++ '\'' :: rest)
      { content := "\"\\\"//\"'".toList, removed := 2 } ∧
    ∀ out, Scans .cStyle .empty 11 ('\'' :: rest) out →
      ∃ more, Scans .cStyle .empty 12 rest more ∧ out.content = '\'' :: more.content := by
  intro rest
  have hOpen : Unterminated ('\'' :: rest) := by
    refine .quote (.inr rfl) fun body after hRest _ => ?_
    have hMem : '\'' ∈ rest := hRest ▸ List.mem_append_right _ (List.mem_cons_self ..)
    revert hMem
    decide
  have hStrip : strip .cStyle .empty ("\"\\\"//\"/*b*/".toList ++ '\'' :: rest) =
      { content := "\"\\\"//\"'".toList, removed := 2 } := by decide +kernel
  obtain ⟨hAll, hResume⟩ := strip_by_scanning .cStyle .empty
  refine ⟨hOpen, (hAll _ _).mpr hStrip.symm, fun out hScan => ?_⟩
  obtain ⟨more, hMore, rfl⟩ := (hResume 11 _ _ _ hOpen).mp hScan
  exact ⟨more, hMore, rfl⟩

end Fallback

end CommentSieve
