import CommentSieve.Proofs.Escapes
import CommentSieve.Token.Tokenizer

/-!
# Two forms of escapes, one reading

A long escape may be cut short anywhere: after any digit, before its closing brace, by the end
of the text. What it takes beyond the backslash and one character are digits and braces all the
same, and none of the signs at which a literal changes begins with one of these. So a sign that
a short escape leaves standing is left standing by a long one, and a tokenizer that takes only
short escapes returns the same tokens and writes the same log.

Main results:

* `Escape.suffix_after_of_startsSign` — no sign is lost in a long escape.
* `Tokenizer.long_escapes_hide_nothing` — the form of escapes makes no difference.
-/

namespace CommentSieve

namespace Escape

/-- Whether a text begins with something that ends a literal or opens an interpolation. -/
def startsSign : List Char → Bool
  | '\'' :: _ | '"' :: _ | '`' :: _ | '\n' :: _ => true
  | '$' :: '{' :: _ => true
  | _ => false

/-- A sign does not begin with a digit or a brace. -/
theorem isInert_of_startsSign {c : Char} {cs : List Char} (h : startsSign (c :: cs) = true) :
    isInert c = false := by
  unfold startsSign at h
  split at h
  -- one case for each of the signs, which tells the character
  all_goals first
    | (rename_i hText; rw [(List.cons.inj hText).1]; rfl)
    | cases h

/-- **No sign is lost in a long escape.** Wherever one stands in the text that a short escape
leaves, it stands in what the long one leaves. -/
theorem suffix_after_of_startsSign {cs u v : List Char} (hShort : after .single cs = u ++ v)
    (hSign : startsSign v = true) : v <:+ after .extended cs := by
  obtain ⟨extra, -, hAfter, hInert⟩ := exists_extra cs
  rw [hAfter] at hShort
  -- The sign starts after what the long escape takes, or inside of it.
  rcases List.append_eq_append_iff.mp hShort with ⟨w, -, hRest⟩ | ⟨w, hExtra, hv⟩
  · exact ⟨w, hRest.symm⟩
  · cases w with
    | nil =>
      rw [hv]
      exact List.suffix_rfl
    | cons c w =>
      have hMem : c ∈ extra := by
        rw [hExtra]
        exact List.mem_append_right _ (List.mem_cons_self ..)
      rw [hv] at hSign
      have hSigned := isInert_of_startsSign hSign
      rw [hInert c hMem] at hSigned
      cases hSigned

end Escape

namespace Tokenizer

/-- **Long escapes hide nothing.** If an escape is always the backslash and the one character
after it, or a backslash at the end alone, a tokenizer returns the same tokens, errors and
warnings, whatever its options and its log. And what a long escape takes in addition hides no
quote, back-tick or line end, and no `$` before a brace. -/
theorem long_escapes_hide_nothing (t : Tokenizer) (content : List Char) :
    (Escape.split .single [] = ([], []) ∧
      ∀ c cs, Escape.split .single (c :: cs) = ([c], cs)) ∧
    t.tokenizeWith .single content = t.tokenize content ∧
    ∀ cs u v, Escape.after .single cs = u ++ v → Escape.startsSign v = true →
      v <:+ Escape.after .extended cs := by
  refine ⟨⟨rfl, ?_⟩, ?_, ?_⟩
  · intro c cs
    simp [Escape.split]
  · rw [tokenize, tokenizeWith, tokenizeWith, Scan.scanWith_extended]
  · intro cs u v hShort hSign
    exact Escape.suffix_after_of_startsSign hShort hSign

/-- A long escape that the quote cuts short, in a string before code: the quote is left, and
either form ends the string there. -/
theorem long_escapes_hide_nothing_quote :
    Escape.after .single ['u', '{', '4', '"', '}'] = ['{', '4'] ++ ['"', '}'] ∧
    Escape.startsSign ['"', '}'] = true ∧
    ['"', '}'] <:+ Escape.after .extended ['u', '{', '4', '"', '}'] ∧
    ((new {}).tokenize ['"', '\\', 'u', '{', '4', '"', '}']).1 =
      [⟨.string '"', ['"', '\\', 'u', '{', '4', '"'], 0⟩, ⟨.code, ['}'], 6⟩] := by
  have hShort : Escape.after .single ['u', '{', '4', '"', '}'] = ['{', '4'] ++ ['"', '}'] := rfl
  have hSign : Escape.startsSign ['"', '}'] = true := rfl
  obtain ⟨-, hSame, hLeft⟩ :=
    long_escapes_hide_nothing (new {}) ['"', '\\', 'u', '{', '4', '"', '}']
  -- With short escapes the string is read in four steps.
  have hRun : Literal.run .single 0
      { frames := ⟨64, [.string '"']⟩, passed := ['"'], rest := ['\\', 'u', '{', '4', '"', '}'] } =
      { frames := ⟨64, []⟩, passed := ['"', '4', '{', 'u', '\\', '"'], rest := ['}'] } := by
    rw [Literal.run_of_step rfl, Literal.run_of_step rfl, Literal.run_of_step rfl,
      Literal.run_of_step rfl, Literal.run_of_stuck rfl]
    rfl
  have hString : Scan.readToken .single {} [] 0 '"' ['\\', 'u', '{', '4', '"', '}'] =
      { context := .string '"', text := ['"', '\\', 'u', '{', '4', '"'], rest := ['}'] } := by
    have hPush : Frames.push? { limit := 64 } (.string '"') = some ⟨64, [.string '"']⟩ := rfl
    show Literal.readString .single 64 0 '"' _ = _
    rw [Literal.readString, hPush]
    dsimp only
    rw [hRun]
    rfl
  have hBrace : ∀ before, Scan.readToken .single {} before 6 '}' [] =
      { context := .code, text := ['}'], rest := [] } := fun before => rfl
  have hPieces : Scan.pieces .single {} [] 0 ['"', '\\', 'u', '{', '4', '"', '}'] =
      [⟨⟨.string '"', ['"', '\\', 'u', '{', '4', '"'], 0⟩, []⟩, ⟨⟨.code, ['}'], 6⟩, []⟩] := by
    rw [Scan.pieces_cons, hString]
    show _ :: Scan.pieces _ _ ['"', '4', '{', 'u', '\\', '"'] 6 ['}'] = _
    rw [Scan.pieces_cons, hBrace, Scan.pieces_nil]
  refine ⟨hShort, hSign, hLeft _ _ _ hShort hSign, ?_⟩
  rw [← hSame]
  show (Scan.scanWith .single {} _).tokens = _
  rw [Scan.scanWith_tokens, hPieces]
  rfl

end Tokenizer

end CommentSieve
