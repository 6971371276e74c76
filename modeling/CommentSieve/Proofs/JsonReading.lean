import CommentSieve.Json.Decode
import CommentSieve.Proofs.JsonGrammar

/-!
# Reading what the grammar allows

Each reader gives the value that a text stands for, and leaves what comes after the text. A
number has no mark at its end, so that what comes after it must not go on with it.

Main results:

* `string_append`, `skipString_append` — strings are read, or skipped, however they are written.
* `number_append` — digits are read as the number they stand for.
* `reads_bool`, `reads_text`, `reads_int32`, `reads_unsigned`, `reads_nullable`, `reads_list` —
  values of each type that settings have are read from all texts that stand for them.
-/

namespace CommentSieve.Json

/-! ## Blanks and words -/

theorem isBlank_nil : IsBlank [] := fun _ hc => nomatch hc

/-- Blanks are skipped. -/
theorem skipSpace_blank {w : List Char} (hw : IsBlank w) (text : List Char) :
    skipSpace (w ++ text) = skipSpace text := by
  refine List.dropWhile_append_of_pos fun c hc => ?_
  have hBlank := hw c hc
  simp only [List.mem_cons, List.not_mem_nil, or_false] at hBlank
  rcases hBlank with rfl | rfl | rfl | rfl <;> decide

/-- The front of a value: neither a blank nor a closing bracket. -/
def HasFront (t : List Char) : Prop :=
  ∃ c cs, t = c :: cs ∧ isSpace c = false ∧ c ≠ ']' ∧ c ≠ '}'

theorem HasFront.append {t : List Char} (h : HasFront t) (rest : List Char) :
    HasFront (t ++ rest) := by
  obtain ⟨c, cs, rfl, hFront⟩ := h
  exact ⟨c, cs ++ rest, rfl, hFront⟩

theorem HasFront.length_pos {t : List Char} (h : HasFront t) : 0 < t.length := by
  obtain ⟨c, cs, rfl, -⟩ := h
  exact Nat.succ_pos _

theorem HasFront.skipSpace_eq {t : List Char} (h : HasFront t) : skipSpace t = t := by
  obtain ⟨c, cs, rfl, hc, -⟩ := h
  exact List.dropWhile_cons_of_neg (by simp [hc])

theorem skipSpace_eq {w t : List Char} (hw : IsBlank w) (ht : HasFront t) (rest : List Char) :
    skipSpace (w ++ (t ++ rest)) = t ++ rest := by
  rw [skipSpace_blank hw, (ht.append rest).skipSpace_eq]

/-- The fuel that a reader takes for a text is enough for any part at its front. -/
theorem length_lt_fuel (t rest : List Char) : t.length < (t ++ rest).length + 1 := by
  rw [List.length_append]
  omega

theorem word_append (letters rest : List Char) : word letters (letters ++ rest) = .ok rest := by
  induction letters with
  | nil => cases rest <;> rfl
  | cons l letters ih => rw [List.cons_append, word, if_pos rfl, ih]

/-! ## Strings -/

/-- A hexadecimal digit has its value. -/
theorem hexDigit?_of_isHexDigit {n : Nat} {c : Char} (h : IsHexDigit n c) :
    hexDigit? c = some n := by
  have hTable : ∀ i : Fin 16, hexDigit? ("0123456789abcdef".toList.get i) = some i.1 ∧
      hexDigit? ("0123456789ABCDEF".toList.get i) = some i.1 := by decide
  rcases h with h | h
  · obtain ⟨hn, rfl⟩ := List.getElem?_eq_some_iff.mp h
    exact (hTable ⟨n, hn⟩).1
  · obtain ⟨hn, rfl⟩ := List.getElem?_eq_some_iff.mp h
    exact (hTable ⟨n, hn⟩).2

/-- Four hexadecimal digits are read as their number. -/
theorem hexUnit_append {n : Nat} {digits : List Char} (h : IsHexUnit n digits)
    (rest : List Char) : hexUnit (digits ++ rest) = .ok (n, rest) := by
  cases h with
  | @digits a b c d w x y z ha hb hc hd =>
    -- Each character has a byte at least, so that the text is not too short.
    have hLong : ¬ Text.byteLength [w, x, y, z] < 4 := by
      have hLength := Text.length_le_byteLength [w, x, y, z]
      simpa using hLength
    simp only [hexUnit, List.cons_append, List.nil_append, hexDigit?_of_isHexDigit ha,
      hexDigit?_of_isHexDigit hb, hexDigit?_of_isHexDigit hc, hexDigit?_of_isHexDigit hd]
    exact if_neg hLong

theorem shortEscape?_of_mem {l c : Char} (h : (l, c) ∈ letterEscapes) :
    shortEscape? l = some c ∧ l ≠ 'u' := by
  have hTable : ∀ p ∈ letterEscapes, shortEscape? p.1 = some p.2 ∧ p.1 ≠ 'u' := by decide
  exact hTable (l, c) h

/-- A character is never half of a pair. -/
theorem not_surrogate (c : Char) : isTrailing c.toNat = false ∧ isLeading c.toNat = false := by
  have hValid : c.toNat < 0xD800 ∨ 0xDFFF < c.toNat ∧ c.toNat < 0x110000 := c.valid
  simp only [isTrailing, isLeading, Bool.and_eq_false_iff, decide_eq_false_iff_not]
  omega

/-- An escape by a letter of its own is read as its character. -/
theorem escape_letter {l c : Char} (h : (l, c) ∈ letterEscapes) (rest : List Char) :
    escape (l :: rest) = .ok (c, rest) := by
  obtain ⟨hShort, hLetter⟩ := shortEscape?_of_mem h
  unfold escape
  split
  · contradiction
  · rename_i heq
    exact absurd (List.cons.inj heq).1 hLetter
  · rename_i heq
    obtain ⟨rfl, rfl⟩ := List.cons.inj heq
    rw [hShort]

/-- A character by one number is read. -/
theorem unicodeEscape_unit {c : Char} {digits : List Char} (h : IsHexUnit c.toNat digits)
    (rest : List Char) : unicodeEscape (digits ++ rest) = .ok (c, rest) := by
  obtain ⟨hTrailing, hLeading⟩ := not_surrogate c
  rw [unicodeEscape, hexUnit_append h]
  show (if isTrailing c.toNat then _ else if isLeading c.toNat then _ else _) = _
  rw [hTrailing, hLeading, if_neg Bool.false_ne_true, if_neg Bool.false_ne_true, Char.ofNat_toNat]
  rfl

/-- A character by a pair of numbers is read. -/
theorem unicodeEscape_pair {c : Char} {n m : Nat} {first second : List Char}
    (hn : IsHexUnit n first) (hm : IsHexUnit m second) (hLeading : 0xD800 ≤ n ∧ n ≤ 0xDBFF)
    (hTrailing : 0xDC00 ≤ m ∧ m ≤ 0xDFFF)
    (hChar : c.toNat = 0x10000 + (n - 0xD800) * 0x400 + (m - 0xDC00)) (rest : List Char) :
    unicodeEscape (first ++ '\\' :: 'u' :: (second ++ rest)) = .ok (c, rest) := by
  have hFirst : isTrailing n = false ∧ isLeading n = true := by
    simp only [isTrailing, isLeading, Bool.and_eq_false_iff, decide_eq_false_iff_not,
      Bool.and_eq_true, decide_eq_true_iff]
    omega
  have hSecond : isTrailing m = true := by
    simp only [isTrailing, Bool.and_eq_true, decide_eq_true_iff]
    exact hTrailing
  have hCode : (n - 0xD800) * 0x400 + (m - 0xDC00) + 0x10000 = c.toNat := by omega
  rw [unicodeEscape, hexUnit_append hn]
  show (if isTrailing n then _ else if isLeading n then (hexUnit (second ++ rest) >>= fun _ => _)
    else _) = _
  rw [hFirst.1, hFirst.2, if_neg Bool.false_ne_true, if_pos rfl, hexUnit_append hm]
  show (if isTrailing m then _ else _) = _
  rw [if_pos hSecond, hCode, Char.ofNat_toNat]
  rfl

/-- A character as it is written is read back. -/
theorem stringBody_char {c : Char} {t : List Char} (h : IsSpelledChar c t) (read : List Char)
    (fuel : Nat) (rest : List Char) :
    stringBody read (fuel + 1) (t ++ rest) = stringBody (c :: read) fuel rest := by
  -- One case for each way to spell a character, each of which one round of the loop reads.
  cases h with
  | plain h =>
    obtain ⟨hControl, hQuote, hSlash⟩ := h
    show stringBody read (fuel + 1) (c :: rest) = _
    rw [stringBody, if_neg hQuote, if_neg hSlash, if_neg (by omega)]
  | letter h =>
    rename_i l
    show stringBody read (fuel + 1) ('\\' :: (l :: rest)) = _
    rw [stringBody, if_neg (by decide), if_pos rfl, escape_letter h]
  | unit h =>
    rename_i digits
    show stringBody read (fuel + 1) ('\\' :: ('u' :: (digits ++ rest))) = _
    rw [stringBody, if_neg (by decide), if_pos rfl, escape, unicodeEscape_unit h]
  | pair hn hm hLeading hTrailing hChar =>
    rename_i n m first second
    have hText : '\\' :: 'u' :: (first ++ '\\' :: 'u' :: second) ++ rest =
        '\\' :: ('u' :: (first ++ '\\' :: 'u' :: (second ++ rest))) := by simp
    rw [hText, stringBody, if_neg (by decide), if_pos rfl, escape,
      unicodeEscape_pair hn hm hLeading hTrailing hChar]

theorem IsSpelledChar.length_pos {c : Char} {t : List Char} (h : IsSpelledChar c t) :
    0 < t.length := by
  cases h <;> simp

/-- Characters are read in whichever way they are spelled, up to the closing quote. -/
theorem stringBody_append {cs body : List Char} (h : IsSpelled cs body) (read : List Char)
    {fuel : Nat} (hFuel : body.length < fuel) (rest : List Char) :
    stringBody read fuel (body ++ '"' :: rest) = .ok (read.reverse ++ cs, rest) := by
  induction h generalizing read fuel with
  | nil =>
    obtain ⟨fuel, rfl⟩ := Nat.exists_eq_add_one_of_ne_zero (Nat.ne_of_gt hFuel)
    rw [List.nil_append, stringBody, if_pos rfl, List.append_nil]
  | @cons c cs t ts hc hcs ih =>
    obtain ⟨fuel, rfl⟩ := Nat.exists_eq_add_one_of_ne_zero (Nat.ne_zero_of_lt hFuel)
    have hPos := hc.length_pos
    rw [List.length_append] at hFuel
    rw [List.append_assoc, stringBody_char hc, ih (c :: read) (by omega), List.reverse_cons,
      List.append_assoc, List.singleton_append]

theorem string_append {s : String} {body : List Char} (h : IsSpelled s.toList body)
    (rest : List Char) : string (body ++ '"' :: rest) = .ok (s, rest) := by
  rw [string, stringBody_append h [] (length_lt_fuel ..)]
  show Except.ok (String.ofList s.toList, rest) = _
  rw [String.ofList_toList]

/-- A string that is skipped only has to look right. -/
theorem skipString_append {body : List Char} (h : IsStringBody body) {fuel : Nat}
    (hFuel : body.length < fuel) (rest : List Char) :
    skipString fuel (body ++ '"' :: rest) = .ok rest := by
  -- One round of the loop for each character or escape of the body.
  induction h generalizing fuel with
  | nil =>
    obtain ⟨fuel, rfl⟩ := Nat.exists_eq_add_one_of_ne_zero (Nat.ne_zero_of_lt hFuel)
    rfl
  | @plain c t hPlain _ ih =>
    obtain ⟨hControl, hQuote, hSlash⟩ := hPlain
    obtain ⟨fuel, rfl⟩ := Nat.exists_eq_add_one_of_ne_zero (Nat.ne_zero_of_lt hFuel)
    rw [List.length_cons] at hFuel
    have hStep : skipString (fuel + 1) (c :: (t ++ '"' :: rest)) =
        skipString fuel (t ++ '"' :: rest) := by
      rw [skipString.eq_def]
      dsimp only
      rw [if_neg hQuote, if_neg hSlash, if_neg (by omega)]
    exact hStep.trans (ih (by omega))
  | @letter l c t hLetter _ ih =>
    obtain ⟨hShort, hNotUnit⟩ := shortEscape?_of_mem hLetter
    obtain ⟨fuel, rfl⟩ := Nat.exists_eq_add_one_of_ne_zero (Nat.ne_zero_of_lt hFuel)
    simp only [List.length_cons] at hFuel
    have hStep : skipString (fuel + 1) ('\\' :: l :: (t ++ '"' :: rest)) =
        skipString fuel (t ++ '"' :: rest) := by
      rw [skipString.eq_def]
      dsimp only
      rw [if_neg (by decide), if_pos rfl]
      split
      · contradiction
      · rename_i heq
        exact absurd (List.cons.inj heq).1 hNotUnit
      · rename_i heq
        obtain ⟨rfl, rfl⟩ := List.cons.inj heq
        rw [hShort, Option.isSome_some, if_pos rfl]
    exact hStep.trans (ih (by omega))
  | @unit n digits t hUnit _ ih =>
    obtain ⟨fuel, rfl⟩ := Nat.exists_eq_add_one_of_ne_zero (Nat.ne_zero_of_lt hFuel)
    simp only [List.length_cons, List.length_append] at hFuel
    have hStep : skipString (fuel + 1) ('\\' :: 'u' :: (digits ++ (t ++ '"' :: rest))) =
        skipString fuel (t ++ '"' :: rest) := by
      rw [skipString, if_neg (by decide), if_pos rfl, hexUnit_append hUnit]
    rw [List.cons_append, List.cons_append, List.append_assoc, hStep, ih (by omega)]

/-! ## Numbers -/

/-- What comes after a number must not go on with it. -/
def EndsNumber (rest : List Char) : Prop :=
  ∀ c ∈ rest.head?, c.isDigit = false ∧ c ∉ ['.', 'e', 'E']

/-- Digits are read up to the first character that is none. -/
theorem takeWhile_digits {t rest : List Char} (ht : ∀ c ∈ t, c.isDigit = true)
    (hRest : ∀ c ∈ rest.head?, c.isDigit = false) :
    (t ++ rest).takeWhile Char.isDigit = t ∧ (t ++ rest).dropWhile Char.isDigit = rest := by
  have hStop : rest.takeWhile Char.isDigit = [] ∧ rest.dropWhile Char.isDigit = rest := by
    cases rest with
    | nil => exact ⟨rfl, rfl⟩
    | cons c rest =>
      have hc := hRest c rfl
      exact ⟨List.takeWhile_cons_of_neg (by simp [hc]), List.dropWhile_cons_of_neg (by simp [hc])⟩
  rw [List.takeWhile_append_of_pos ht, List.dropWhile_append_of_pos ht, hStop.1, hStop.2,
    List.append_nil]
  exact ⟨rfl, rfl⟩

/-- A number without a fraction and an exponent is read as the integer it stands for. -/
theorem number_append {t rest : List Char} (ht : IsDigits t)
    (hZero : t.head? = some '0' → t = ['0']) (hRest : EndsNumber rest) (negative : Bool)
    (hFits : Nat.ofDigitChars 10 t 0 ≤ maxUnsigned) :
    number negative (t ++ rest) =
      if negative then
        if Nat.ofDigitChars 10 t 0 = 0 ∨ maxNegated < Nat.ofDigitChars 10 t 0 then
          .ok (.other, rest)
        else .ok (.integer (-Nat.ofDigitChars 10 t 0), rest)
      else .ok (.integer (Nat.ofDigitChars 10 t 0), rest) := by
  obtain ⟨hTake, hDrop⟩ := takeWhile_digits ht.2 fun c hc => (hRest c hc).1
  unfold number
  rw [hTake, hDrop]
  dsimp only
  -- There are digits, no zero in front of others, and neither a point nor an exponent after them.
  split
  · exact absurd rfl ht.1
  · exact absurd rfl ht.1
  · cases hZero rfl
  · exact absurd (hRest _ rfl).2 (by decide)
  · exact absurd (hRest _ rfl).2 (by decide)
  · exact absurd (hRest _ rfl).2 (by decide)
  · have hValue : t.foldl (fun n c => n * 10 + (c.toNat - '0'.toNat)) 0 =
        Nat.ofDigitChars 10 t 0 := by
      simp only [Nat.ofDigitChars, Nat.mul_comm]
    rw [hValue, if_neg (Nat.not_lt.mpr hFits)]

theorem isDigits_toDigits (n : Nat) : IsDigits (Nat.toDigits 10 n) :=
  ⟨Nat.toDigits_ne_nil, fun _ hc => Nat.isDigit_of_mem_toDigits (by decide) (by decide) hc⟩

/-- Only zero is written with a zero in front. -/
theorem toDigits_head_zero {n : Nat} (h : (Nat.toDigits 10 n).head? = some '0') :
    Nat.toDigits 10 n = ['0'] := by
  have hPos : ∀ n, 0 < n → (Nat.toDigits 10 n).head? ≠ some '0' := by
    intro n
    -- The first digit of a number is that of its tenth, down to a number of one digit.
    induction n using Nat.strongRecOn with
    | ind n ih =>
      intro hn
      rw [Nat.toDigits_eq_if (by decide)]
      split
      · rename_i hSmall
        have hTable : ∀ i : Fin 10, 0 < i.1 → [i.1.digitChar].head? ≠ some '0' := by decide
        exact hTable ⟨n, hSmall⟩ hn
      · rename_i hLarge
        rw [List.head?_append_of_ne_nil _ Nat.toDigits_ne_nil]
        exact ih (n / 10) (Nat.div_lt_self hn (by decide)) (by omega)
  rcases Nat.eq_zero_or_pos n with rfl | hn
  · rfl
  · exact absurd h (hPos n hn)

/-! ## Values of a known type -/

/-- A reader that gives a value for a text, whatever blanks come before it and whatever comes
after it. -/
structure Reads {α : Type} (value : Read α) (a : α) (t : List Char) : Prop where
  front : HasFront t
  read_eq : ∀ w rest, IsBlank w → EndsNumber rest → value (w ++ (t ++ rest)) = .ok (a, rest)

/-- Truth values are read as they are denoted. -/
theorem reads_bool {b : Bool} {t : List Char} (h : IsBool b t) : Reads bool b t := by
  cases b with
  | true =>
    obtain rfl : t = ['t', 'r', 'u', 'e'] := h
    have hFront : HasFront ['t', 'r', 'u', 'e'] := ⟨_, _, rfl, by decide⟩
    refine ⟨hFront, fun w rest hw _ => ?_⟩
    rw [bool, skipSpace_eq hw hFront]
    show (word ['r', 'u', 'e'] (['r', 'u', 'e'] ++ rest)).map _ = _
    rw [word_append]
    rfl
  | false =>
    obtain rfl : t = ['f', 'a', 'l', 's', 'e'] := h
    have hFront : HasFront ['f', 'a', 'l', 's', 'e'] := ⟨_, _, rfl, by decide⟩
    refine ⟨hFront, fun w rest hw _ => ?_⟩
    rw [bool, skipSpace_eq hw hFront]
    show (word ['a', 'l', 's', 'e'] (['a', 'l', 's', 'e'] ++ rest)).map _ = _
    rw [word_append]
    rfl

/-- Strings are read as they are denoted. -/
theorem reads_text {s : String} {t : List Char} (h : IsText s t) : Reads text s t := by
  obtain ⟨body, hBody, rfl⟩ := h
  have hFront : HasFront ('"' :: (body ++ ['"'])) := ⟨_, _, rfl, by decide⟩
  refine ⟨hFront, fun w rest hw _ => ?_⟩
  rw [text, skipSpace_eq hw hFront]
  show string (body ++ ['"'] ++ rest) = _
  rw [List.append_assoc]
  exact string_append hBody rest

theorem ne_of_isDigit {c d : Char} (hc : c.isDigit = true) (hd : d.isDigit = false) : c ≠ d := by
  rintro rfl
  rw [hc] at hd
  cases hd

/-- A number can start with any digit. -/
theorem hasFront_of_isDigit {c : Char} (h : c.isDigit = true) (cs : List Char) :
    HasFront (c :: cs) := by
  refine ⟨c, cs, rfl, ?_, ne_of_isDigit h (by decide), ne_of_isDigit h (by decide)⟩
  simp only [isSpace, Bool.or_eq_false_iff, beq_eq_false_iff_ne]
  exact ⟨⟨⟨ne_of_isDigit h (by decide), ne_of_isDigit h (by decide)⟩,
    ne_of_isDigit h (by decide)⟩, ne_of_isDigit h (by decide)⟩

theorem toDigits_eq_cons (n : Nat) :
    ∃ c cs, Nat.toDigits 10 n = c :: cs ∧ c.isDigit = true := by
  obtain ⟨c, cs, hText⟩ := List.exists_cons_of_ne_nil (Nat.toDigits_ne_nil (n := n) (b := 10))
  exact ⟨c, cs, hText, (isDigits_toDigits n).2 c (hText ▸ List.mem_cons_self)⟩

/-- A number that is not negative is read back. -/
theorem reads_integer_ofNat {low high : Int} {n : Nat} (hLow : low ≤ n) (hHigh : (n : Int) ≤ high)
    (hWord : n ≤ maxUnsigned) : Reads (integer low high) n (Nat.toDigits 10 n) := by
  obtain ⟨c, cs, hText, hDigit⟩ := toDigits_eq_cons n
  have hFront : HasFront (Nat.toDigits 10 n) := hText ▸ hasFront_of_isDigit hDigit cs
  refine ⟨hFront, fun w rest hw hRest => ?_⟩
  have hNumber : number false (Nat.toDigits 10 n ++ rest) = .ok (.integer n, rest) := by
    have hValue := Nat.ofDigitChars_ten_toDigits (n := n)
    rw [number_append (isDigits_toDigits n) toDigits_head_zero hRest false (by rwa [hValue]),
      if_neg Bool.false_ne_true, hValue]
  rw [integer, skipSpace_eq hw hFront]
  rw [hText, List.cons_append] at hNumber ⊢
  split
  · rename_i heq
    exact absurd (List.cons.inj heq).1 (ne_of_isDigit hDigit (by decide))
  · contradiction
  · rename_i heq
    obtain ⟨rfl, rfl⟩ := List.cons.inj heq
    rw [if_pos hDigit, hNumber]
    exact if_pos ⟨hLow, hHigh⟩

/-- A negative number is read back. -/
theorem reads_integer_neg {low high : Int} {n : Nat} (hPos : 0 < n) (hLow : low ≤ -n)
    (hHigh : -(n : Int) ≤ high) (hWord : n ≤ maxNegated) :
    Reads (integer low high) (-n) ('-' :: Nat.toDigits 10 n) := by
  have hFront : HasFront ('-' :: Nat.toDigits 10 n) := ⟨_, _, rfl, by decide⟩
  refine ⟨hFront, fun w rest hw hRest => ?_⟩
  have hNumber : number true (Nat.toDigits 10 n ++ rest) = .ok (.integer (-n), rest) := by
    have hValue := Nat.ofDigitChars_ten_toDigits (n := n)
    have hUnsigned : n ≤ maxUnsigned := Nat.le_trans hWord (by decide)
    rw [number_append (isDigits_toDigits n) toDigits_head_zero hRest true (by rwa [hValue]),
      if_pos rfl, hValue, if_neg (by omega)]
  rw [integer, skipSpace_eq hw hFront]
  show (number true (Nat.toDigits 10 n ++ rest) >>= _) = _
  rw [hNumber]
  exact if_pos ⟨hLow, hHigh⟩

/-- An integer is written with a sign if it is negative. -/
theorem toList_toString_int (n : Int) :
    (toString n).toList =
      if 0 ≤ n then Nat.toDigits 10 n.toNat else '-' :: Nat.toDigits 10 (-n).toNat := by
  rw [Int.toString_eq_repr, Int.repr_eq_if]
  split
  · exact Nat.toList_repr
  · rw [String.toList_append, Nat.toList_repr]
    rfl

/-- Signed numbers are read as they are denoted, up to their bounds. -/
theorem reads_int32 {n : Int} {t : List Char} (h : IsInt32 n t) : Reads int32 n t := by
  obtain ⟨hLow, hHigh, rfl⟩ := h
  rw [toList_toString_int]
  split
  · rename_i hPos
    have hReads : Reads int32 n.toNat (Nat.toDigits 10 n.toNat) :=
      reads_integer_ofNat (by omega) (by omega) (by unfold maxUnsigned; omega)
    rwa [Int.toNat_of_nonneg hPos] at hReads
  · rename_i hNeg
    have hReads : Reads int32 (-(-n).toNat) ('-' :: Nat.toDigits 10 (-n).toNat) :=
      reads_integer_neg (by omega) (by omega) (by omega) (by unfold maxNegated; omega)
    rwa [Int.toNat_of_nonneg (by omega), Int.neg_neg] at hReads

/-- A number does not start like the word for nothing. -/
theorem head_ne_of_isInt32 {n : Int} {t : List Char} (h : IsInt32 n t) : t.head? ≠ some 'n' := by
  obtain ⟨-, -, rfl⟩ := h
  rw [toList_toString_int]
  split
  · obtain ⟨c, cs, hText, hDigit⟩ := toDigits_eq_cons n.toNat
    rw [hText]
    exact fun hHead => ne_of_isDigit hDigit (by decide) (Option.some.inj hHead)
  · simp

/-- Numbers without a sign are read as they are denoted. -/
theorem reads_unsigned {n : Nat} {t : List Char} (h : IsUnsigned n t) : Reads unsigned n t := by
  obtain ⟨hHigh, rfl⟩ := h
  have hReads : Reads (integer 0 maxUnsigned) n (Nat.toDigits 10 n) :=
    reads_integer_ofNat (Int.natCast_nonneg n) (by unfold maxUnsigned; omega) hHigh
  have hText : (toString n).toList = Nat.toDigits 10 n := Nat.toList_repr
  rw [hText]
  refine ⟨hReads.front, fun w rest hw hRest => ?_⟩
  rw [unsigned, hReads.read_eq w rest hw hRest]
  rfl

/-- A value that may be absent is read, or the word for nothing. -/
theorem reads_nullable {α : Type} {P : α → List Char → Prop} {value : Read α}
    (hReads : ∀ a t, P a t → Reads value a t) (hNull : ∀ a t, P a t → t.head? ≠ some 'n')
    {a? : Option α} {t : List Char} (h : IsNullable P a? t) : Reads (nullable value) a? t := by
  cases a? with
  | none =>
    obtain rfl : t = ['n', 'u', 'l', 'l'] := h
    have hFront : HasFront ['n', 'u', 'l', 'l'] := ⟨_, _, rfl, by decide⟩
    refine ⟨hFront, fun w rest hw _ => ?_⟩
    rw [nullable, skipSpace_eq hw hFront]
    show (word ['u', 'l', 'l'] (['u', 'l', 'l'] ++ rest)).map _ = _
    rw [word_append]
    rfl
  | some a =>
    have hRead := hReads a t h
    refine ⟨hRead.front, fun w rest hw hRest => ?_⟩
    obtain ⟨c, cs, rfl, -⟩ := hRead.front
    -- Without the letter of `null` in front, the value is read, with the blanks before it.
    have hc : c ≠ 'n' := fun hc => hNull a _ h (congrArg some hc)
    rw [nullable, skipSpace_eq hw hRead.front]
    split
    · rename_i heq
      exact absurd (List.cons.inj heq).1 hc
    · rw [hRead.read_eq w rest hw hRest]
      rfl

/-! ## Lists -/

/-- What is related to a list entry by entry has a partner for every entry. -/
theorem exists_mem_of_forall₂ {α β : Type*} {R : α → β → Prop} {as : List α} {bs : List β}
    (h : List.Forall₂ R as bs) {b : β} (hb : b ∈ bs) : ∃ a ∈ as, R a b := by
  induction h with
  | nil => cases hb
  | cons hR _ ih =>
    rcases List.mem_cons.mp hb with rfl | hMore
    · exact ⟨_, List.mem_cons_self, hR⟩
    · obtain ⟨a, ha, hab⟩ := ih hMore
      exact ⟨a, List.mem_cons_of_mem _ ha, hab⟩

/-- A number ends before a separator, a bracket or a blank. -/
theorem endsNumber_of_mem {c : Char} (hc : c ∈ [',', ']', '}', ' ', '\n', '\t', '\r'])
    (rest : List Char) : EndsNumber (c :: rest) := by
  intro d hd
  obtain rfl : c = d := Option.some.inj hd
  simp only [List.mem_cons, List.not_mem_nil, or_false] at hc
  rcases hc with rfl | rfl | rfl | rfl | rfl | rfl | rfl <;> decide

/-- A number ends before blanks, if it ends before what follows them. -/
theorem endsNumber_blank {w rest : List Char} (hw : IsBlank w) (hRest : EndsNumber rest) :
    EndsNumber (w ++ rest) := by
  cases w with
  | nil => exact hRest
  | cons c w =>
    refine endsNumber_of_mem ?_ (w ++ rest)
    have hc := hw c List.mem_cons_self
    simp only [List.mem_cons] at hc ⊢
    tauto

/-- How the parts of an array or object begin: the first as it stands, the others after a
comma. -/
inductive Enters (text : List Char) : (first : Bool) → List Char → Prop
  | first : Enters text true text
  | more {u : List Char} (hu : IsBlank u) : Enters text false (u ++ ',' :: text)

/-- Where the text goes on with an element, the next element is found. -/
theorem nextElement_enters {v t rest input : List Char} {first : Bool} (hv : IsBlank v)
    (ht : HasFront t) (h : Enters (v ++ (t ++ rest)) first input) :
    nextElement first input = .ok (some (t ++ rest)) := by
  obtain ⟨c, cs, rfl, hc, hArray, hObject⟩ := ht
  have hFront : HasFront (c :: cs) := ⟨c, cs, rfl, hc, hArray, hObject⟩
  cases h with
  | first =>
    -- What follows is no closing bracket, since an element does not start with one.
    rw [nextElement, skipSpace_eq hv hFront, List.cons_append]
    split
    · contradiction
    · rename_i heq
      exact absurd (List.cons.inj heq).1 hArray
    · rename_i heq
      rw [if_pos rfl, heq]
  | @more u hu =>
    -- The comma is there, and the blanks after it are skipped.
    rw [nextElement, skipSpace_blank hu]
    show (if _ then _ else if ',' = ',' then _ else _) = _
    rw [if_neg Bool.false_ne_true, if_pos rfl, skipSpace_eq hv hFront, List.cons_append]
    split
    · contradiction
    · rename_i heq
      exact absurd (List.cons.inj heq).1 hArray
    · rfl

/-- At the bracket all elements have been read. -/
theorem elements_close {α : Type} (value : Read α) (read : List α) (fuel : Nat) (first : Bool)
    {w : List Char} (hw : IsBlank w) (rest : List Char) :
    elements value read (fuel + 1) first (w ++ ']' :: rest) = .ok (read.reverse, rest) := by
  have hNext : nextElement first (w ++ ']' :: rest) = .ok none := by
    rw [nextElement, skipSpace_blank hw]
    rfl
  have hClose : closeArray (w ++ ']' :: rest) = .ok rest := by
    rw [closeArray, skipSpace_blank hw]
    rfl
  rw [elements, hNext]
  show (closeArray (w ++ ']' :: rest) >>= _) = _
  rw [hClose]
  rfl

/-- One more element is read. -/
theorem elements_step {α : Type} {value : Read α} {a : α} {t : List Char} (h : Reads value a t)
    {first : Bool} {input rest : List Char}
    (hNext : nextElement first input = .ok (some (t ++ rest))) (hRest : EndsNumber rest)
    (read : List α) (fuel : Nat) :
    elements value read (fuel + 1) first input = elements value (a :: read) fuel false rest := by
  have hValue := h.read_eq [] rest isBlank_nil hRest
  rw [List.nil_append] at hValue
  rw [elements, hNext]
  show (value (t ++ rest) >>= _) = _
  rw [hValue]
  rfl

/-- The elements of an array are read one after the other. -/
theorem elements_separated {α : Type} {value : Read α} {ts : List (List Char)} {text : List Char}
    (h : Separated ts text) {as : List α} (hReads : List.Forall₂ (Reads value) as ts)
    {read : List α} {fuel : Nat} (hFuel : text.length < fuel) {first : Bool}
    {rest input : List Char} (hEnters : Enters (text ++ ']' :: rest) first input) :
    elements value read fuel first input = .ok (read.reverse ++ as, rest) := by
  -- The induction is on the parts. Only the first is entered without a comma, and each uses up
  -- more characters than fuel.
  induction h generalizing as read fuel first input with
  | @one v t w hv hw =>
    obtain ⟨a, _, hRead, hNone, rfl⟩ := List.forall₂_cons_right_iff.mp hReads
    obtain rfl := List.forall₂_nil_right_iff.mp hNone
    have hPos := hRead.front.length_pos
    simp only [List.length_append] at hFuel
    obtain ⟨fuel, rfl⟩ : ∃ n, fuel = n + 2 := ⟨fuel - 2, by omega⟩
    simp only [List.append_assoc] at hEnters
    rw [elements_step hRead (nextElement_enters hv hRead.front hEnters)
      (endsNumber_blank hw (endsNumber_of_mem (by decide) rest)), elements_close _ _ _ _ hw,
      List.reverse_cons]
  | @more v t w text ts hv hw hMore ih =>
    obtain ⟨a, as, hRead, hTail, rfl⟩ := List.forall₂_cons_right_iff.mp hReads
    simp only [List.length_append, List.length_cons] at hFuel
    obtain ⟨fuel, rfl⟩ : ∃ n, fuel = n + 1 := ⟨fuel - 1, by omega⟩
    simp only [List.append_assoc, List.cons_append] at hEnters
    rw [elements_step hRead (nextElement_enters hv hRead.front hEnters)
      (endsNumber_blank hw (endsNumber_of_mem (by decide) _)), ih hTail (by omega) (.more hw),
      List.reverse_cons, List.append_assoc, List.singleton_append]

/-- Lists are read as they are denoted. -/
theorem reads_list {α : Type} {P : α → List Char → Prop} {value : Read α}
    (hReads : ∀ a t, P a t → Reads value a t) {as : List α} {t : List Char} (h : IsList P as t) :
    Reads (list value) as t := by
  obtain ⟨items, hItems, hText⟩ := h
  have hFront : HasFront t := by
    cases hText <;> exact ⟨_, _, rfl, by decide⟩
  refine ⟨hFront, fun w rest hw _ => ?_⟩
  rw [list, skipSpace_eq hw hFront]
  cases hText with
  | @none v hv =>
    cases hItems
    show elements value [] ((v ++ [']'] ++ rest).length + 1) true (v ++ [']'] ++ rest) = _
    rw [List.append_assoc]
    exact elements_close value [] _ true hv rest
  | @some _ text hSeparated =>
    show elements value [] ((text ++ [']'] ++ rest).length + 1) true (text ++ [']'] ++ rest) = _
    rw [List.append_assoc]
    exact elements_separated hSeparated (hItems.imp hReads) (length_lt_fuel ..) .first

end CommentSieve.Json
