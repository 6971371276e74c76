import CommentSieve.Proofs.JsonReading

/-!
# Skipping what nobody asked for

A value that is not wanted is skipped, however deep it is nested and however it is written.
The skipper works through a text with a list of the brackets that are open. It is at the end
of a value when it would go on as if the value had not been there: `resume` is what it does
from there, and the length of the value bounds the number of steps it took.

Main results:

* `skipNumber_append` — a number is skipped to its end.
* `skips_value` — so is any value.
-/

namespace CommentSieve.Json

/-! ## Numbers -/

/-- Digits are skipped up to the first character that is none. -/
theorem skipDigits_append {t rest : List Char} (ht : IsDigits t)
    (hRest : ∀ c ∈ rest.head?, c.isDigit = false) : skipDigits (t ++ rest) = .ok rest := by
  obtain ⟨hSome, hDigits⟩ := ht
  obtain ⟨c, cs, rfl⟩ := List.exists_cons_of_ne_nil hSome
  have hDrop := (takeWhile_digits hDigits hRest).2
  show (if c.isDigit then _ else _) = _
  rw [if_pos (hDigits c List.mem_cons_self)]
  exact congrArg Except.ok hDrop

/-- An exponent is skipped, or nothing where there is none. -/
theorem skipExponent_append {t rest : List Char} (ht : IsExponent t) (hRest : EndsNumber rest) :
    skipExponent (t ++ rest) = .ok rest := by
  cases ht with
  | none =>
    rw [List.nil_append]
    unfold skipExponent
    split
    · exact absurd (hRest _ rfl).2 (by decide)
    · exact absurd (hRest _ rfl).2 (by decide)
    · rfl
  | @digits e sign t he hSign h =>
    have hDigits := skipDigits_append h fun c hc => (hRest c hc).1
    simp only [List.mem_cons, List.not_mem_nil, or_false] at he hSign
    have hLetter : skipExponent (e :: (sign ++ t) ++ rest) =
        skipExponent ('e' :: (sign ++ (t ++ rest))) := by
      rw [List.cons_append, List.append_assoc]
      rcases he with rfl | rfl <;> rfl
    rw [hLetter]
    rcases hSign with rfl | rfl | rfl
    · -- Without a sign the digits follow at once, and a digit is no sign.
      obtain ⟨c, cs, rfl⟩ := List.exists_cons_of_ne_nil h.1
      have hNoSign : ∀ s text, s.isDigit = false → c :: cs ++ rest ≠ s :: text := by
        intro s text hs hText
        exact ne_of_isDigit (h.2 c List.mem_cons_self) hs (List.cons.inj hText).1
      rw [List.nil_append, skipExponent, hDigits]
      · exact fun text => hNoSign '+' text rfl
      · exact fun text => hNoSign '-' text rfl
    · exact hDigits
    · exact hDigits

/-- The power of ten goes on with neither the digits before it nor a fraction. -/
theorem head_exponent {t rest : List Char} (ht : IsExponent t) (hRest : EndsNumber rest) :
    ∀ c ∈ (t ++ rest).head?, c.isDigit = false ∧ c ≠ '.' := by
  intro c hc
  cases ht with
  | none =>
    obtain ⟨hDigit, hMark⟩ := hRest c hc
    exact ⟨hDigit, fun hPoint => hMark (hPoint ▸ List.mem_cons_self)⟩
  | @digits e sign t he hSign h =>
    obtain rfl : e = c := Option.some.inj hc
    simp only [List.mem_cons, List.not_mem_nil, or_false] at he
    rcases he with rfl | rfl <;> decide

/-- A number is skipped part by part. -/
theorem skipNumber_append {whole fraction exponent rest : List Char} (hWhole : IsDigits whole)
    (hZero : whole.head? = some '0' → whole = ['0']) (hFraction : IsFraction fraction)
    (hExponent : IsExponent exponent) (hRest : EndsNumber rest) :
    skipNumber (whole ++ (fraction ++ (exponent ++ rest))) = .ok rest := by
  have hExponentEnds := head_exponent hExponent hRest
  have hFractionEnds : ∀ c ∈ (fraction ++ (exponent ++ rest)).head?, c.isDigit = false := by
    cases hFraction with
    | none => exact fun c hc => (hExponentEnds c hc).1
    | digits h =>
      intro c hc
      obtain rfl : '.' = c := Option.some.inj hc
      decide
  -- A zero in front is alone, so that no digit follows it.
  have hAlone : ∀ c cs, whole ++ (fraction ++ (exponent ++ rest)) = '0' :: c :: cs →
      c.isDigit = false := by
    intro c cs hText
    obtain ⟨d, ds, rfl⟩ := List.exists_cons_of_ne_nil hWhole.1
    obtain ⟨rfl, hTail⟩ := List.cons.inj hText
    obtain rfl : ds = [] := (List.cons.inj (hZero rfl)).2
    have hFollows : fraction ++ (exponent ++ rest) = c :: cs := hTail
    exact hFractionEnds c (by rw [hFollows]; rfl)
  have hExponentRest := skipExponent_append hExponent hRest
  unfold skipNumber
  dsimp only
  split
  on_goal 1 =>
    rename_i c cs hText
    rw [hAlone c cs hText, if_neg Bool.false_ne_true]
  -- Both ways the digits are skipped, then the fraction and the power of ten.
  all_goals
    rw [skipDigits_append hWhole hFractionEnds]
    dsimp only [bind, Except.bind]
    cases hFraction with
    | none =>
      rw [List.nil_append]
      split
      · rename_i heq
        exact absurd rfl (hExponentEnds '.' (by rw [heq]; rfl)).2
      · exact hExponentRest
    | @digits t h =>
      simp only [List.cons_append, skipDigits_append h fun c hc => (hExponentEnds c hc).1]
      exact hExponentRest

/-! ## What comes after a value -/

/-- Goes on after a value, or after an opening bracket. -/
def resume (after : Bool) (fuel : Nat) (enclosures : List Enclosure) (text : List Char) :
    Except Fault (List Char) := do
  match ← leave after enclosures text with
  | ([], text) => return text
  | (enclosures, text) => skipNested fuel enclosures text

/-- The brackets of an enclosure. -/
def Enclosure.brackets : Enclosure → Char × Char
  | .array => ('[', ']')
  | .object => ('{', '}')

variable {fuel : Nat} {enclosures : List Enclosure}

/-- A bracket closes the innermost enclosure. -/
theorem resume_close (k : Enclosure) (after : Bool) {w : List Char} (hw : IsBlank w)
    (rest : List Char) :
    resume after fuel (k :: enclosures) (w ++ k.brackets.2 :: rest) =
      resume true fuel enclosures rest := by
  have hLeave : leave after (k :: enclosures) (w ++ k.brackets.2 :: rest) =
      leave true enclosures rest := by
    rw [leave.eq_def]
    dsimp only
    rw [skipSpace_blank hw]
    cases k <;> rfl
  rw [resume, hLeave]
  rfl

/-- In an array the next element is skipped. -/
theorem resume_array {v t rest input : List Char} {first : Bool} (hv : IsBlank v)
    (ht : HasFront t) (h : Enters (v ++ (t ++ rest)) first input) :
    ∃ v', IsBlank v' ∧ resume (!first) fuel (.array :: enclosures) input =
      skipNested fuel (.array :: enclosures) (v' ++ (t ++ rest)) := by
  cases h with
  | first =>
    refine ⟨[], isBlank_nil, ?_⟩
    -- The element does not start with a bracket that closes, so that the array is not left.
    have hLeave : leave false (.array :: enclosures) (v ++ (t ++ rest)) =
        .ok (.array :: enclosures, t ++ rest) := by
      rw [leave.eq_def]
      dsimp only
      rw [skipSpace_eq hv ht]
      obtain ⟨c, cs, rfl, -, hArray, -⟩ := ht
      rw [List.cons_append]
      split
      · contradiction
      · rename_i heq
        exact absurd (List.cons.inj heq).1 hArray
      · contradiction
      · rename_i heq
        rw [if_neg Bool.false_ne_true, heq]
      · contradiction
    rw [resume, Bool.not_true, hLeave]
    rfl
  | @more u hu =>
    refine ⟨v, hv, ?_⟩
    have hLeave : leave true (.array :: enclosures) (u ++ ',' :: (v ++ (t ++ rest))) =
        .ok (.array :: enclosures, v ++ (t ++ rest)) := by
      rw [leave.eq_def]
      dsimp only
      rw [skipSpace_blank hu]
      rfl
    rw [resume, Bool.not_false, hLeave]
    rfl

/-- A key is skipped with its colon. -/
theorem skipKey_append {v key w : List Char} (hKey : IsString key) (hv : IsBlank v)
    (hw : IsBlank w) (rest : List Char) :
    skipKey (v ++ (key ++ (w ++ ':' :: rest))) = .ok rest := by
  obtain ⟨body, hBody, rfl⟩ := hKey
  have hFront : HasFront ('"' :: (body ++ ['"'])) := ⟨_, _, rfl, by decide⟩
  have hString : skipString ((body ++ ['"'] ++ (w ++ ':' :: rest)).length + 1)
      (body ++ ['"'] ++ (w ++ ':' :: rest)) = .ok (w ++ ':' :: rest) := by
    rw [List.append_assoc]
    exact skipString_append hBody (length_lt_fuel ..) (w ++ ':' :: rest)
  rw [skipKey, skipSpace_eq hv hFront]
  show (skipString ((body ++ ['"'] ++ (w ++ ':' :: rest)).length + 1)
    (body ++ ['"'] ++ (w ++ ':' :: rest)) >>= _) = _
  rw [hString]
  dsimp only [bind, Except.bind]
  rw [skipSpace_blank hw]
  rfl

/-- In an object the value of the next pair is skipped. -/
theorem resume_object {v key value pair rest input : List Char} {first : Bool} (hv : IsBlank v)
    (hKey : IsString key) (hPair : IsPair key value pair)
    (h : Enters (v ++ (pair ++ rest)) first input) :
    ∃ v', IsBlank v' ∧ resume (!first) fuel (.object :: enclosures) input =
      skipNested fuel (.object :: enclosures) (v' ++ (value ++ rest)) := by
  obtain ⟨hw, hw'⟩ := hPair
  rename_i w w'
  simp only [List.append_assoc, List.cons_append] at h
  refine ⟨w', hw', ?_⟩
  have hLeave : leave (!first) (.object :: enclosures) input =
      .ok (.object :: enclosures, w' ++ (value ++ rest)) := by
    cases h with
    | first =>
      -- The blanks before the first key are skipped before it is seen to be one.
      have hSkip := skipKey_append hKey isBlank_nil hw (w' ++ (value ++ rest))
      obtain ⟨body, -, rfl⟩ := hKey
      have hFront : HasFront ('"' :: (body ++ ['"'])) := ⟨_, _, rfl, by decide⟩
      rw [leave.eq_def]
      dsimp only
      rw [skipSpace_eq hv hFront]
      show (if false = true then _ else (skipKey _).map _) = _
      rw [if_neg Bool.false_ne_true]
      exact congrArg _ hSkip
    | @more u hu =>
      -- After a comma they are skipped with the key.
      have hSkip := skipKey_append hKey hv hw (w' ++ (value ++ rest))
      rw [leave.eq_def]
      dsimp only
      rw [skipSpace_blank hu]
      show (if true = true then if ',' = ',' then (skipKey _).map _ else _ else _) = _
      rw [if_pos rfl, if_pos rfl, hSkip]
      rfl
  rw [resume, hLeave]
  rfl

/-! ## Values -/

/-- Blanks before a value do not matter. -/
theorem skipNested_blank {w : List Char} (hw : IsBlank w) (text : List Char) :
    skipNested fuel enclosures (w ++ text) = skipNested fuel enclosures text := by
  cases fuel with
  | zero => rfl
  | succ fuel => rw [skipNested, skipSpace_blank hw, skipNested]

/-- A text that is skipped, in no more steps than it has characters. -/
structure Skips (t : List Char) : Prop where
  front : HasFront t
  skip_eq : ∀ (fuel : Nat) (enclosures : List Enclosure) (rest : List Char), EndsNumber rest →
    t.length ≤ fuel → ∃ fuel', fuel ≤ fuel' + t.length ∧
      skipNested fuel enclosures (t ++ rest) = resume true fuel' enclosures rest

/-- A value without parts is skipped in one step. -/
theorem Skips.of_step {t : List Char} (hFront : HasFront t)
    (h : ∀ (fuel : Nat) (enclosures : List Enclosure) (rest : List Char), EndsNumber rest →
      skipNested (fuel + 1) enclosures (t ++ rest) = resume true fuel enclosures rest) :
    Skips t := by
  refine ⟨hFront, fun fuel enclosures rest hRest hFuel => ?_⟩
  have hPos := hFront.length_pos
  obtain ⟨fuel, rfl⟩ : ∃ n, fuel = n + 1 := ⟨fuel - 1, by omega⟩
  exact ⟨fuel, by omega, h fuel enclosures rest hRest⟩

/-- A word is skipped as a value. -/
theorem skips_word {l : Char} {letters : List Char} (hFront : HasFront (l :: letters))
    (hWord : ∀ (fuel : Nat) (enclosures : List Enclosure) (text : List Char),
      skipNested (fuel + 1) enclosures (l :: text) =
        (word letters text >>= resume true fuel enclosures)) :
    Skips (l :: letters) := by
  refine .of_step hFront fun fuel enclosures rest _ => ?_
  rw [List.cons_append, hWord, word_append]
  rfl

/-- A string is skipped as a value. -/
theorem skips_string {t : List Char} (h : IsString t) : Skips t := by
  obtain ⟨body, hBody, rfl⟩ := h
  refine .of_step ⟨_, _, rfl, by decide⟩ fun fuel enclosures rest _ => ?_
  rw [List.cons_append, List.append_assoc]
  show (skipString ((body ++ '"' :: rest).length + 1) (body ++ '"' :: rest) >>=
    resume true fuel enclosures) = _
  rw [skipString_append hBody (length_lt_fuel ..)]
  rfl

/-- What starts with a digit is skipped as a number. -/
theorem skipNested_digit {c : Char} (hc : c.isDigit = true) (cs : List Char) :
    skipNested (fuel + 1) enclosures (c :: cs) =
      (skipNumber (c :: cs) >>= resume true fuel enclosures) := by
  rw [skipNested, (hasFront_of_isDigit hc cs).skipSpace_eq]
  -- A digit is none of the characters that begin another value.
  split
  case h_9 =>
    rename_i heq
    obtain ⟨rfl, rfl⟩ := List.cons.inj heq
    rw [if_pos hc]
    rfl
  case h_1 => contradiction
  all_goals
    rename_i heq
    exact absurd (List.cons.inj heq).1 (ne_of_isDigit hc (by decide))

/-- A number is skipped as a value, with or without its sign. -/
theorem skips_number {t : List Char} (h : IsNumber t) : Skips t := by
  obtain ⟨hSign, hWhole, hZero, hFraction, hExponent⟩ := h
  rename_i sign whole fraction exponent
  obtain ⟨c, cs, rfl⟩ := List.exists_cons_of_ne_nil hWhole.1
  have hc := hWhole.2 c List.mem_cons_self
  simp only [List.mem_cons, List.not_mem_nil, or_false] at hSign
  rcases hSign with rfl | rfl
  · refine .of_step (hasFront_of_isDigit hc _) fun fuel enclosures rest hRest => ?_
    have hNumber := skipNumber_append hWhole hZero hFraction hExponent hRest
    simp only [List.nil_append, List.cons_append, List.append_assoc] at hNumber ⊢
    rw [skipNested_digit hc, hNumber]
    rfl
  · refine .of_step ⟨_, _, rfl, by decide⟩ fun fuel enclosures rest hRest => ?_
    have hNumber := skipNumber_append hWhole hZero hFraction hExponent hRest
    simp only [List.append_assoc]
    show (skipNumber (c :: cs ++ (fraction ++ (exponent ++ rest))) >>=
      resume true fuel enclosures) = _
    rw [hNumber]
    rfl

/-! ## Arrays and objects -/

/-- A part of an array or object that is skipped. -/
def Passes (k : Enclosure) (t : List Char) : Prop :=
  ∀ (fuel : Nat) (enclosures : List Enclosure) (v rest input : List Char) (first : Bool),
    IsBlank v → Enters (v ++ (t ++ rest)) first input → EndsNumber rest → t.length ≤ fuel →
    ∃ fuel', fuel ≤ fuel' + t.length ∧
      resume (!first) fuel (k :: enclosures) input = resume true fuel' (k :: enclosures) rest

/-- An array is passed element by element. -/
theorem passes_item {t : List Char} (h : Skips t) : Passes .array t := by
  intro fuel enclosures v rest input first hv hEnters hRest hFuel
  obtain ⟨v', hv', hResume⟩ := resume_array hv h.front hEnters
  rw [hResume, skipNested_blank hv']
  exact h.skip_eq fuel _ rest hRest hFuel

/-- An object is passed pair by pair. -/
theorem passes_pair {key value t : List Char} (hKey : IsString key) (hValue : Skips value)
    (hPair : IsPair key value t) : Passes .object t := by
  intro fuel enclosures v rest input first hv hEnters hRest hFuel
  obtain ⟨v', hv', hResume⟩ := resume_object hv hKey hPair hEnters
  have hLength : value.length ≤ t.length := by
    cases hPair
    simp only [List.length_append, List.length_cons]
    omega
  obtain ⟨fuel', hFuel', hSkip⟩ := hValue.skip_eq fuel (.object :: enclosures) rest hRest
    (Nat.le_trans hLength hFuel)
  refine ⟨fuel', by omega, ?_⟩
  rw [hResume, skipNested_blank hv', hSkip]

/-- All parts of an array or object are skipped, up to and with the closing bracket. -/
theorem resume_separated {k : Enclosure} {ts : List (List Char)} {text : List Char}
    (h : Separated ts text) (hPasses : ∀ t ∈ ts, Passes k t) (hFuel : text.length ≤ fuel)
    (enclosures : List Enclosure) {first : Bool} {rest input : List Char}
    (hEnters : Enters (text ++ k.brackets.2 :: rest) first input) :
    ∃ fuel', fuel ≤ fuel' + text.length ∧
      resume (!first) fuel (k :: enclosures) input = resume true fuel' enclosures rest := by
  have hClosing : k.brackets.2 ∈ [',', ']', '}', ' ', '\n', '\t', '\r'] := by
    cases k <;> decide
  -- Each part uses up no more fuel than it has characters, which leaves enough for the rest.
  induction h generalizing fuel first input with
  | @one v t w hv hw =>
    simp only [List.length_append] at hFuel ⊢
    simp only [List.append_assoc] at hEnters
    have hRest := endsNumber_blank hw (endsNumber_of_mem hClosing rest)
    obtain ⟨fuel', hFuel', hPass⟩ := hPasses t List.mem_cons_self fuel enclosures v _ input first
      hv hEnters hRest (by omega)
    refine ⟨fuel', by omega, ?_⟩
    rw [hPass, resume_close k true hw]
  | @more v t w text ts hv hw hMore ih =>
    simp only [List.length_append, List.length_cons] at hFuel ⊢
    simp only [List.append_assoc, List.cons_append] at hEnters
    have hRest : EndsNumber (w ++ ',' :: (text ++ k.brackets.2 :: rest)) :=
      endsNumber_blank hw (endsNumber_of_mem (by decide) _)
    obtain ⟨fuel₁, hFuel₁, hPass⟩ := hPasses t List.mem_cons_self fuel enclosures v _ input first
      hv hEnters hRest (by omega)
    have hLeft : text.length ≤ fuel₁ := by omega
    obtain ⟨fuel₂, hFuel₂, hTail⟩ := ih (fun t ht => hPasses t (List.mem_cons_of_mem _ ht))
      hLeft (.more hw)
    refine ⟨fuel₂, by omega, ?_⟩
    rw [hPass]
    exact hTail

/-- An array or an object is skipped as a whole, if its items are. -/
theorem skips_enclosed {k : Enclosure} {ts : List (List Char)} {t : List Char}
    (h : Enclosed k.brackets.1 k.brackets.2 ts t) (hPasses : ∀ t ∈ ts, Passes k t) : Skips t := by
  have hFront : HasFront t := by
    cases k <;> cases h <;> exact ⟨_, _, rfl, by decide⟩
  -- The opening bracket costs one unit of fuel.
  have hOpen : ∀ (fuel : Nat) (enclosures : List Enclosure) (text : List Char),
      skipNested (fuel + 1) enclosures (k.brackets.1 :: text) =
        resume false fuel (k :: enclosures) text := by
    cases k <;> exact fun _ _ _ => rfl
  refine ⟨hFront, fun fuel enclosures rest hRest hFuel => ?_⟩
  cases h with
  | @none w hw =>
    simp only [List.length_append, List.length_cons] at hFuel ⊢
    obtain ⟨fuel, rfl⟩ : ∃ n, fuel = n + 1 := ⟨fuel - 1, by omega⟩
    refine ⟨fuel, by omega, ?_⟩
    rw [List.cons_append, hOpen, List.append_assoc]
    exact resume_close k false hw rest
  | @some _ text hSeparated =>
    simp only [List.length_append, List.length_cons] at hFuel ⊢
    obtain ⟨fuel, rfl⟩ : ∃ n, fuel = n + 1 := ⟨fuel - 1, by omega⟩
    have hInside : text.length ≤ fuel := by omega
    have hEnters : Enters (text ++ k.brackets.2 :: rest) true (text ++ k.brackets.2 :: rest) :=
      .first
    obtain ⟨fuel', hFuel', hSkip⟩ :=
      resume_separated hSeparated hPasses hInside enclosures hEnters
    refine ⟨fuel', by omega, ?_⟩
    rw [List.cons_append, hOpen, List.append_assoc]
    exact hSkip

/-- **Any value is skipped**, in no more steps than it has characters. -/
theorem skips_value {t : List Char} (h : IsValue t) : Skips t := by
  induction h with
  | null => exact skips_word ⟨_, _, rfl, by decide⟩ fun _ _ _ => rfl
  | true => exact skips_word ⟨_, _, rfl, by decide⟩ fun _ _ _ => rfl
  | false => exact skips_word ⟨_, _, rfl, by decide⟩ fun _ _ _ => rfl
  | number h => exact skips_number h
  | string h => exact skips_string h
  | array _ hText ih => exact skips_enclosed (k := .array) hText fun t ht => passes_item (ih t ht)
  | object hKeys _ hParts hText ih =>
    refine skips_enclosed (k := .object) hText fun t ht => ?_
    obtain ⟨p, hp, hPair⟩ := exists_mem_of_forall₂ hParts ht
    exact passes_pair (hKeys p hp) (ih p hp) hPair

/-- Any value is skipped, with the blanks before it. -/
theorem skipValue_append {w t rest : List Char} (ht : IsValue t) (hw : IsBlank w)
    (hRest : EndsNumber rest) : skipValue (w ++ (t ++ rest)) = .ok rest := by
  have hFuel : t.length ≤ (w ++ (t ++ rest)).length + 1 := by
    simp only [List.length_append]
    omega
  obtain ⟨fuel, -, hSkip⟩ := (skips_value ht).skip_eq _ [] rest hRest hFuel
  rw [skipValue, skipNested_blank hw, hSkip]
  rfl

end CommentSieve.Json
