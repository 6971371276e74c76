import CommentSieve.Proofs.Locality

/-!
# The grammar of regular expression literals

A literal is a body between two slashes, and then flags. In the body a slash stands only
behind a backslash or inside of a character class; a class goes on to its bracket, and a
bracket that opens means nothing inside of it. All of this lies on one line.

Reading tries to follow this grammar and takes the rest of the line where it cannot. So the
text of a token tells whether its literal was finished.

Main results:

* `splitBody_body`, `exists_body_of_splitBody` — a body is read as far as the grammar goes.
* `recognise_body`, `exists_body_of_recognise` — what is recognised is a body between slashes,
  with the flags after it.
* `recognise_whole`, `whole_of_recognise` — what is recognised are the whole literals.
* `read_cases` — a reading is a whole literal without a finding, or none with one.
-/

namespace CommentSieve.RegexLiteral

open Text

/-! ## The grammar -/

/-- The inside of a character class, through its closing bracket. -/
inductive Inside : List Char → Prop
  | close : Inside [']']
  | escape {c : Char} {w : List Char} (hc : c ≠ '\n') : Inside w → Inside ('\\' :: c :: w)
  | plain {c : Char} {w : List Char} (hc : c ≠ ']' ∧ c ≠ '\\' ∧ c ≠ '\n') :
      Inside w → Inside (c :: w)

/-- The body of a literal. -/
inductive Body : List Char → Prop
  | nil : Body []
  | escape {c : Char} {w : List Char} (hc : c ≠ '\n') : Body w → Body ('\\' :: c :: w)
  | bracketed {v w : List Char} : Inside v → Body w → Body ('[' :: (v ++ w))
  | plain {c : Char} {w : List Char} (hc : c ≠ '\\' ∧ c ≠ '[' ∧ c ≠ '/' ∧ c ≠ '\n') :
      Body w → Body (c :: w)

/-- A literal that is finished, with its flags. -/
inductive Whole : List Char → Prop
  | mk {body flags : List Char} (hBody : Body body) (hFlags : ∀ c ∈ flags, isFlag c = true) :
      Whole ('/' :: (body ++ '/' :: flags))

/-! ## What is read follows the grammar -/

/-- What is taken as a class is one by the grammar. -/
theorem exists_inside_of_splitClass {passed cs passed' rest : List Char}
    (h : splitClass passed cs = some (passed', rest)) :
    ∃ w, Inside w ∧ cs = w ++ rest ∧ passed' = w.reverse ++ passed := by
  fun_induction splitClass passed cs with
  | case1 => simp at h
  | case2 => simp at h
  | case3 passed c cs hc ih =>
    -- an escape takes the character after it along, a bracket too
    obtain ⟨w, hInside, rfl, rfl⟩ := ih h
    exact ⟨'\\' :: c :: w, .escape hc hInside, rfl, by simp⟩
  | case4 passed cs =>
    obtain ⟨rfl, rfl⟩ := Prod.mk.inj (Option.some.inj h)
    exact ⟨[']'], .close, rfl, rfl⟩
  | case5 => simp at h
  | case6 passed c cs _ hClose hStop ih =>
    rw [not_or] at hStop
    obtain ⟨w, hInside, rfl, rfl⟩ := ih h
    exact ⟨c :: w, .plain ⟨hClose, hStop.1, hStop.2⟩ hInside, rfl, by simp⟩

/-- What is taken as a body is one by the grammar. -/
theorem exists_body_of_splitBody (passed cs : List Char) :
    ∃ w, Body w ∧ cs = w ++ (splitBody passed cs).2 ∧
      (splitBody passed cs).1 = w.reverse ++ passed := by
  fun_induction splitBody passed cs with
  | case1 => exact ⟨[], .nil, rfl, rfl⟩
  | case2 => exact ⟨[], .nil, rfl, rfl⟩
  | case3 => exact ⟨[], .nil, rfl, rfl⟩
  | case4 passed d ds hd ih =>
    obtain ⟨w, hBody, hRest, hPassed⟩ := ih
    refine ⟨'\\' :: d :: w, .escape hd hBody, ?_, ?_⟩
    · rw [List.cons_append, List.cons_append, ← hRest]
    · rw [hPassed]
      simp
  | case5 passed cs _ passed' rest hClass ih =>
    -- a slash in a class does not end the body
    obtain ⟨v, hInside, rfl, rfl⟩ := exists_inside_of_splitClass hClass
    obtain ⟨w, hBody, hRest, hPassed⟩ := ih
    refine ⟨'[' :: (v ++ w), .bracketed hInside hBody, ?_, ?_⟩
    · rw [List.cons_append, List.append_assoc, ← hRest]
    · rw [hPassed]
      simp
  -- the body ends at a class that is not closed, at a slash and at a line end
  | case6 => exact ⟨[], .nil, rfl, rfl⟩
  | case7 => exact ⟨[], .nil, rfl, rfl⟩
  | case8 passed c cs hEscape hClass hStop ih =>
    rw [not_or] at hStop
    obtain ⟨w, hBody, hRest, hPassed⟩ := ih
    refine ⟨c :: w, .plain ⟨hEscape, hClass, hStop.1, hStop.2⟩ hBody, ?_, ?_⟩
    · rw [List.cons_append, ← hRest]
    · rw [hPassed]
      simp

/-! ## Words of the grammar are read -/

/-- A class of the grammar is taken up to its bracket. -/
theorem splitClass_inside {w : List Char} (h : Inside w) (passed rest : List Char) :
    splitClass passed (w ++ rest) = some (w.reverse ++ passed, rest) := by
  induction h generalizing passed with
  | close => simp [splitClass]
  | @escape c w hc _ ih =>
    rw [List.cons_append, List.cons_append, splitClass, if_neg hc, ih]
    simp
  | @plain c w hc _ ih =>
    obtain ⟨hClose, hEscape, hLine⟩ := hc
    rw [List.cons_append, splitClass_plain hClose (by simp [hEscape, hLine]), ih]
    simp

/-- A body of the grammar is taken up to the slash. -/
theorem splitBody_body {w : List Char} (h : Body w) (passed rest : List Char) :
    splitBody passed (w ++ '/' :: rest) = (w.reverse ++ passed, '/' :: rest) := by
  induction h generalizing passed with
  | nil =>
    -- here the slash stops the body
    rw [List.nil_append, splitBody.eq_def]
    rfl
  | @escape c w hc _ ih =>
    rw [List.cons_append, List.cons_append, splitBody_escape hc, ih]
    simp
  | @bracketed v w hInside _ ih =>
    have hClass := splitClass_inside hInside ('[' :: passed) (w ++ '/' :: rest)
    rw [List.cons_append, List.append_assoc, splitBody_class hClass, ih]
    simp
  | @plain c w hc _ ih =>
    obtain ⟨hEscape, hClass, hSlash, hLine⟩ := hc
    rw [List.cons_append, splitBody_plain hEscape hClass (by simp [hSlash, hLine]), ih]
    simp

/-! ## Whole literals -/

/-- What is recognised is a body between two slashes, and the flags that follow. -/
theorem exists_body_of_recognise {inner text rest : List Char}
    (h : recognise ('/' :: inner) = .ok (text, rest)) :
    ∃ body after, inner = body ++ '/' :: after ∧ Body body ∧
      text = '/' :: (body ++ '/' :: after.takeWhile isFlag) ∧ rest = after.dropWhile isFlag := by
  obtain ⟨v, after, rfl, hBody, hText, hRest⟩ := recognise_ok h
  obtain ⟨w, hGrammar, -, hPassed⟩ := exists_body_of_splitBody ['/'] (v ++ '/' :: after)
  -- the characters passed over tell the body
  have hSame : v = w := by
    rw [hBody, List.reverse_cons] at hPassed
    exact List.reverse_inj.mp (List.append_cancel_right hPassed)
  exact ⟨v, after, rfl, hSame ▸ hGrammar, hText, hRest⟩

/-- A body between two slashes is recognised, and takes the flags that follow. -/
theorem recognise_body {body : List Char} (h : Body body) (after : List Char) :
    recognise ('/' :: (body ++ '/' :: after)) =
      .ok ('/' :: (body ++ '/' :: after.takeWhile isFlag), after.dropWhile isFlag) := by
  have hSplit : splitBody ['/'] (body ++ '/' :: after) =
      (('/' :: body).reverse, '/' :: after) := by
    rw [splitBody_body h, List.reverse_cons]
  exact recognise_of_splitBody hSplit

theorem whole_of_recognise {inner text rest : List Char}
    (h : recognise ('/' :: inner) = .ok (text, rest)) : Whole text := by
  obtain ⟨body, after, -, hBody, rfl, -⟩ := exists_body_of_recognise h
  exact .mk hBody fun c hc => List.mem_takeWhile_imp hc

/-- A whole literal is recognised whatever follows it; it takes the flags that do. -/
theorem recognise_whole {text : List Char} (h : Whole text) (rest : List Char) :
    recognise (text ++ rest) = .ok (text ++ rest.takeWhile isFlag, rest.dropWhile isFlag) := by
  cases h with
  | @mk body flags hBody hFlags =>
    have hRecognised := recognise_body hBody (flags ++ rest)
    rw [List.takeWhile_append_of_pos hFlags, List.dropWhile_append_of_pos hFlags] at hRecognised
    simpa using hRecognised

/-- A reading is a whole literal, or its text is none and that is found. -/
theorem read_cases (offset : Nat) (inner : List Char) :
    (Whole (read offset ('/' :: inner)).text ∧ (read offset ('/' :: inner)).findings = []) ∨
    (¬ Whole (read offset ('/' :: inner)).text ∧
      (read offset ('/' :: inner)).findings = [.malformed .regex offset]) := by
  have hAppend := (read_splits offset inner).append
  cases hRead : recognise ('/' :: inner) with
  | ok pieces =>
    obtain ⟨text, rest⟩ := pieces
    have hWhole := whole_of_recognise hRead
    left
    simpa [read, hRead] using hWhole
  | error complaints =>
    right
    refine ⟨?_, by simp [read, hRead]⟩
    intro hWhole
    -- a whole literal would have been recognised
    have hFound := recognise_whole hWhole (read offset ('/' :: inner)).rest
    rw [hAppend, hRead] at hFound
    simp at hFound

end CommentSieve.RegexLiteral
