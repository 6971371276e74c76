import CommentSieve.Text.Utf8
import CommentSieve.Text.Word
import CommentSieve.Text.Blank
import CommentSieve.Text.Search
import CommentSieve.Token.Reading

/-!
# Regular expression literals

A slash in code either divides or opens a regular expression. Without a grammar
this is decided by what comes before it: after an operand it divides, after an
operator or a keyword such as `return` it opens. Only the nearest characters are
looked at: a bounded run of blanks, and then a window in which a keyword must fit.

A literal runs to the first slash that is neither escaped nor inside a character
class, and takes the flags that follow. It never crosses a line end.
-/

namespace CommentSieve.RegexLiteral

open Text

/-! ## Does a slash open a literal? -/

/-- Keywords after which an expression is expected. -/
def keywords : List String :=
  ["return", "throw", "case", "in", "of", "delete", "void", "typeof", "new", "instanceof",
    "yield", "await"]

/-- Characters after which an expression is expected. -/
def operators : List Char :=
  ['=', ',', '(', '{', '[', ';', ':', '!', '&', '|', '?', '+', '-', '*', '/', '%', '^', '~', '<',
    '>']

/-- Bytes in which a keyword is looked for. -/
def keywordWindow : Nat := 32

/-- Characters that can stand in a name. -/
def isNameChar (c : Char) : Bool := isWord c || c == '$'

/-- Characters with which an operand can end. -/
def endsOperand (c : Char) : Bool :=
  isAlphanumeric c || c == '_' || c == '$' || c == ')' || c == ']' || c == '}'

/-- The characters nearest to the end of a text given last character first, until
`bytes` bytes are filled. -/
def window : (bytes : Nat) → List Char → List Char
  | 0, _ => []
  | _ + 1, [] => []
  | bytes + 1, c :: cs => c :: window (bytes + 1 - c.utf8Size) cs

/-- Whether a text, given last character first, ends in the keyword and no more of
a name. -/
def endsInKeyword (before : List Char) (keyword : String) : Bool :=
  match stripStart? keyword.toList.reverse before with
  | none => false
  | some [] => true
  | some (c :: _) => ! isNameChar c

/-- The text before a run of blanks, last character first, or nothing if more than
`limit` blanks have to be skipped. -/
def skipBlanks? : (limit : Nat) → List Char → Option (List Char)
  | _, [] => some []
  | limit, c :: cs =>
    if isBlank c then
      match limit with
      | 0 => none
      | limit + 1 => skipBlanks? limit cs
    else some (c :: cs)

/-- Whether a slash after the text `before`, given last character first, opens a
regular expression. A run of more than `maxLookback` blanks counts as division. -/
def opensAfter (maxLookback : Nat) (before : List Char) : Bool :=
  match skipBlanks? maxLookback before with
  | none => false
  | some [] => true
  | some (c :: cs) =>
    if endsOperand c then
      -- A word can also be a keyword, after which no operand has been seen.
      let near := window keywordWindow (c :: cs)
      keywords.any (endsInKeyword near)
    else operators.contains c

/-- Whether the slash at byte `position` of a text opens a regular expression;
nothing if there is no character boundary there. -/
def opensAt? (content : List Char) (position maxLookback : Nat) : Option Bool :=
  (cutExactly? content position).map fun pieces => opensAfter maxLookback pieces.1.reverse

/-! ## The extent of a literal -/

/-- The characters that can be flags. -/
def isFlag (c : Char) : Bool :=
  c == 'g' || c == 'i' || c == 'm' || c == 's' || c == 'u' || c == 'y' || c == 'v' || c == 'd'

/-- Splits the inside of a character class, given from after its bracket, off the
front of a text. `passed` holds what was read, last character first. -/
def splitClass (passed : List Char) : List Char → Option (List Char × List Char)
  | [] => none
  | '\\' :: c :: cs => if c = '\n' then none else splitClass (c :: '\\' :: passed) cs
  | c :: cs =>
    if c = ']' then some (c :: passed, cs)
    else if c = '\\' ∨ c = '\n' then none
    else splitClass (c :: passed) cs

/-- Splitting off a class leaves less text. -/
theorem length_splitClass_lt {passed cs passed' rest : List Char}
    (h : splitClass passed cs = some (passed', rest)) : rest.length < cs.length := by
  fun_induction splitClass passed cs with
  | case1 => simp at h
  | case2 => simp at h
  | case3 passed c cs _ ih => have := ih h; simp only [List.length_cons]; omega
  | case4 =>
    obtain ⟨-, rfl⟩ := Prod.mk.inj (Option.some.inj h)
    simp
  | case5 => simp at h
  | case6 passed c cs _ _ _ ih => have := ih h; simp only [List.length_cons]; omega

/-- Splits the body of a literal off the front of a text: as many escapes, classes
and plain characters as there are. `passed` holds what was read, last character
first. -/
def splitBody (passed : List Char) : List Char → List Char × List Char
  | [] => (passed, [])
  | c :: cs =>
    if c = '\\' then
      match cs with
      | [] => (passed, ['\\'])
      | d :: ds => if d = '\n' then (passed, c :: cs) else splitBody (d :: c :: passed) ds
    else if c = '[' then
      match _h : splitClass (c :: passed) cs with
      | some (passed', rest) => splitBody passed' rest
      -- A class that is not closed on this line ends the body before its bracket.
      | none => (passed, c :: cs)
    else if c = '/' ∨ c = '\n' then (passed, c :: cs)
    else splitBody (c :: passed) cs
termination_by cs => cs.length
decreasing_by
  · exact Nat.lt_succ_of_lt (Nat.lt_succ_self _)
  · exact Nat.lt_succ_of_lt (length_splitClass_lt _h)
  · exact Nat.lt_succ_self _

/-- Recognises a whole literal with its flags. -/
def recognise (cs : List Char) : Recognised :=
  match cs with
  | '/' :: inner =>
    match splitBody ['/'] inner with
    | (passed, '/' :: rest) =>
      .ok (passed.reverse ++ '/' :: rest.takeWhile isFlag, rest.dropWhile isFlag)
    | (passed, _) =>
      .error [⟨byteLength passed, .character '/'⟩, ⟨0, .construct "regex literal"⟩]
  | _ => .error [⟨0, .character '/'⟩, ⟨0, .construct "regex literal"⟩]

/-- Reads the literal at the front of a text that starts at byte `offset`. An
unfinished literal takes the rest of its line. -/
def read (offset : Nat) (cs : List Char) : Reading :=
  match recognise cs with
  | .ok (text, rest) => { context := .regex, text, rest }
  | .error _ =>
    { context := .regex
      text := cs.takeWhile (· != '\n')
      rest := cs.dropWhile (· != '\n')
      findings := [.malformed .regex offset] }

end CommentSieve.RegexLiteral
