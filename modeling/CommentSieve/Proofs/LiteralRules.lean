import CommentSieve.Proofs.PlainText
import CommentSieve.Rule.Basic

/-!
# Rules for a text as it stands

A rule for a text is made of the text with everything escaped that would mean something in a
pattern. Read again, every character of it stands for itself: nothing in it is taken for an
operator, a class, a group or a repetition, and what is read is the pattern for the text.

Main results:

* `Reader.readOn_quote` — an escaped text is read character by character.
* `read_quote` — an escaped text is the pattern for the text, if that is not too heavy.
* `tooHeavy_upToCase` — texts of up to 11,650 characters are not.
* `Rule.literal_matches_spellings` — a rule for a text keeps what contains a spelling of it.
-/

namespace CommentSieve

open Text

namespace Pattern

/-! ## Reading an escaped text -/

namespace Reader

/-- The flags with which the patterns of rules are read. -/
def ruleFlags : Flags := { ignoreCase := true }

/-- The element for a character that stands for itself. -/
def plainItem (c : Char) : Item := .node ⟨ofSet (.alike c), 0⟩

/-- The flags of rules make a character stand for its spellings. -/
theorem charPattern_ruleFlags (c : Char) :
    charPattern ruleFlags c false = .ok (ofSet (.alike c)) := rfl

/-- A character that would mean something is read as itself after a backslash. -/
theorem readElement_meta {c : Char} (hc : isMeta c = true) (rest : List Char) :
    readElement ruleFlags ('\\' :: c :: rest) = .ok (ofSet (.alike c), rest) := by
  have hSelf : escapesToItself c = true := by rw [escapesToItself, hc, Bool.true_or]
  have hEscape : readEscape ruleFlags (c :: rest) = .ok (.char c false, rest) := by
    rw [readEscape, if_pos hSelf]
  rw [readElement, hEscape]
  rfl

theorem readElement_plain {c : Char} (hc : isMeta c = false) (rest : List Char) :
    readElement ruleFlags (c :: rest) = .ok (ofSet (.alike c), rest) := by
  unfold readElement
  split <;> simp_all [isMeta, charPattern_ruleFlags, pure, Except.pure, bind, Except.bind]

/-- The characters that are more than elements at the start of one. -/
def opensMore (c : Char) : Bool := [')', '|', '(', '[', '?', '*', '+', '{'].contains c

/-- Where nothing else starts, an element is read and added. -/
theorem readOn_element {w : Work} (hFlags : w.flags = ruleFlags) {c : Char} {text : List Char}
    (hc : opensMore c = false) {p : Pattern} {rest : List Char}
    (h : readElement ruleFlags (c :: text) = .ok (p, rest)) (fuel : Nat) :
    readOn (fuel + 1) { w with rest := c :: text } = readOn fuel (w.add (.node ⟨p, 0⟩) rest) := by
  obtain ⟨_, flags, groups, names, items, branches⟩ := w
  obtain rfl : flags = ruleFlags := hFlags
  have hText : skipSpace ruleFlags.verbose (c :: text) = c :: text := rfl
  rw [readOn]
  simp only [hText]
  split
  -- Every other branch starts with a character of its own.
  case h_10 =>
    rw [h]
    rfl
  case h_1 hNil => cases hNil
  all_goals
    rename_i hStart
    obtain ⟨rfl, -⟩ := List.cons.inj hStart
    simp [opensMore] at hc

theorem readOn_nil {w : Work} (fuel : Nat) :
    readOn (fuel + 1) { w with rest := [] } = .ok { w with rest := [] } := by
  rw [readOn]
  cases w.flags.verbose <;> rfl

/-- A character, escaped if it would mean something, is one element. -/
theorem readOn_char {w : Work} (hFlags : w.flags = ruleFlags) (c : Char) (rest : List Char)
    (fuel : Nat) :
    readOn (fuel + 1) { w with rest := quote [c] ++ rest } =
      readOn fuel (w.add (plainItem c) rest) := by
  by_cases hc : isMeta c = true
  · have hQuote : quote [c] = ['\\', c] := by simp [quote, hc]
    rw [hQuote]
    exact readOn_element hFlags rfl (readElement_meta hc rest) fuel
  · have hc : isMeta c = false := by simpa using hc
    have hQuote : quote [c] = [c] := by simp [quote, hc]
    have hPlain : opensMore c = false := by
      simp [isMeta] at hc
      simp [opensMore, hc]
    rw [hQuote]
    exact readOn_element hFlags hPlain (readElement_plain hc rest) fuel

/-- An escaped text is read character by character. -/
theorem readOn_quote {w : Work} (hFlags : w.flags = ruleFlags) (cs : List Char) {fuel : Nat}
    (hFuel : cs.length < fuel) :
    readOn fuel { w with rest := quote cs } =
      .ok { w with rest := [], items := (cs.map plainItem).reverse ++ w.items } := by
  -- On the text, with any elements read before; each character takes one unit of fuel.
  induction cs generalizing w fuel with
  | nil =>
    obtain ⟨fuel, rfl⟩ : ∃ n, fuel = n + 1 := ⟨fuel - 1, by omega⟩
    exact readOn_nil fuel
  | cons c cs ih =>
    rw [List.length_cons] at hFuel
    obtain ⟨fuel, rfl⟩ : ∃ n, fuel = n + 1 := ⟨fuel - 1, by omega⟩
    have hQuote : quote (c :: cs) = quote [c] ++ quote cs := by simp [quote]
    have hShort : cs.length < fuel := by omega
    have hMore := ih (w := w.add (plainItem c) (quote cs)) hFlags hShort
    rw [hQuote, readOn_char hFlags]
    refine Eq.trans hMore ?_
    simp [Work.add]

/-- Elements that are not nested are nested to depth one together. -/
theorem joinDepth_le_one {depths : List Nat} (h : ∀ d ∈ depths, d = 0) : joinDepth depths ≤ 1 := by
  have hFold : depths.foldl max 0 = 0 := by
    rw [List.eq_replicate_of_mem h]
    generalize depths.length = n
    induction n with
    | zero => rfl
    | succ n ih => simpa [List.replicate_succ] using ih
  unfold joinDepth
  split
  · exact Nat.zero_le _
  · rw [h _ (List.mem_singleton_self _)]
    exact Nat.zero_le _
  · exact Nat.le_of_eq (by rw [hFold])

end Reader

/-- Escaping makes no text shorter. -/
theorem length_le_length_quote (cs : List Char) : cs.length ≤ (quote cs).length := by
  induction cs with
  | nil => exact Nat.zero_le _
  | cons c cs ih =>
    have hQuote : quote (c :: cs) = quote [c] ++ quote cs := by simp [quote]
    have hPos : 0 < (quote [c]).length := by
      simp only [quote, List.flatMap_singleton]
      split <;> simp
    rw [hQuote, List.length_append, List.length_cons]
    omega

open Reader in
/-- An escaped text is the pattern for the text, if that is not too heavy. -/
theorem read_quote (cs : List Char) :
    read true (quote cs) =
      if (upToCase cs).tooHeavy then .error .tooLarge else .ok (upToCase cs) := by
  have hFuel : cs.length < (quote cs).length + 1 := Nat.lt_succ_of_le (length_le_length_quote cs)
  have hRead : readOn ((quote cs).length + 1) { rest := quote cs, flags := ruleFlags } =
      .ok { rest := [], flags := ruleFlags, items := (cs.map plainItem).reverse ++ [] } :=
    readOn_quote (w := { rest := [], flags := ruleFlags }) rfl cs hFuel
  have hPattern : (sequence (cs.map plainItem).reverse).pattern = upToCase cs := by
    simp [Reader.sequence, upToCase, plainItem, Item.pattern, Function.comp_def]
  have hDepth : (sequence (cs.map plainItem).reverse).depth ≤ 1 := by
    refine joinDepth_le_one fun d hd => ?_
    obtain ⟨item, hItem, rfl⟩ := List.mem_map.mp hd
    obtain ⟨c, -, rfl⟩ := List.mem_map.mp (List.mem_reverse.mp hItem)
    rfl
  -- Nothing is nested, so that the other limit is not reached.
  have hShallow : ¬ (sequence (cs.map plainItem).reverse).depth > maxDepth := by
    have hMax : maxDepth = 250 := rfl
    omega
  rw [read]
  change (readOn ((quote cs).length + 1) { rest := quote cs, flags := ruleFlags } >>= _) = _
  rw [hRead, List.append_nil]
  change (if (sequence (cs.map plainItem).reverse).depth > maxDepth then _ else
    if (sequence (cs.map plainItem).reverse).pattern.tooHeavy then _ else
      Except.ok (sequence (cs.map plainItem).reverse).pattern) = _
  rw [if_neg hShallow, hPattern]

/-! ## The size of a pattern for a text -/

/-- A bound on the weight of a character up to case. -/
theorem partBound_ofSet_alike (c : Char) : (ofSet (.alike c)).partBound ≤ 900 := by
  rw [ofSet_alike]
  split
  · simp [partBound]
  · rw [partBound, setBound]
    split <;> omega

/-- The bounds of several parts together. -/
def partsBound : List Pattern → Nat
  | [] => 0
  | p :: ps => p.partBound + partsBound ps

/-- Joining characters leaves the bound as it is. -/
theorem partsBound_joinChars (ps : List Pattern) : partsBound (joinChars ps) = partsBound ps := by
  fun_induction joinChars ps with
  | case1 => rfl
  | case2 cs more ds rest hMore ih =>
    rw [hMore] at ih
    simp only [partsBound, partBound, List.length_append] at ih ⊢
    omega
  | case3 cs more _ ih => simp only [partsBound, ih]
  | case4 p more _ ih => simp only [partsBound, ih]

/-- A sequence weighs little more than its parts. -/
theorem partBound_seqs_le (ps : List Pattern) : (seqs ps).partBound ≤ 32 + partsBound ps := by
  induction ps with
  | nil => exact Nat.le_refl _
  | cons p ps ih =>
    cases ps with
    | nil =>
      rw [seqs, partsBound, partsBound]
      omega
    | cons q qs =>
      show p.partBound + (seqs (q :: qs)).partBound ≤ 32 + (p.partBound + partsBound (q :: qs))
      omega

/-- Texts of up to 11,650 characters are not too heavy. -/
theorem tooHeavy_upToCase {cs : List Char} (h : cs.length ≤ 11650) :
    (upToCase cs).tooHeavy = false := by
  have hSum : partsBound (cs.map fun c => ofSet (.alike c)) ≤ 900 * cs.length := by
    clear h
    induction cs with
    | nil => exact Nat.le_refl _
    | cons c cs ih =>
      have hOne := partBound_ofSet_alike c
      rw [List.map_cons, partsBound, List.length_cons]
      omega
  have hBound : (upToCase cs).partBound ≤ 32 + 900 * cs.length := by
    rw [upToCase, concat_eq_seqs (isText_of_mem_map_alike cs)]
    refine Nat.le_trans (partBound_seqs_le _) ?_
    rw [partsBound_joinChars]
    omega
  have hMax : maxWeight = 10485760 := rfl
  rw [tooHeavy, decide_eq_false (by omega), Bool.false_and]

end Pattern

/-! ## Rules for a text -/

namespace Rule

/-- The rule that is made for a text. -/
def plain (name text : String) (priority : Int) : Rule where
  name
  source := String.ofList (Pattern.quote text.toList)
  pattern := Pattern.upToCase text.toList
  priority
  category := .custom
  extractor := .custom text

/-- A rule for a text is refused only if it is too heavy. -/
theorem literal_eq (name text : String) (priority : Int) :
    literal name text priority =
      if (Pattern.upToCase text.toList).tooHeavy then .error (.invalidPattern name .tooLarge)
      else .ok (plain name text priority) := by
  rw [literal, make, String.toList_ofList, Pattern.read_quote]
  by_cases hHeavy : (Pattern.upToCase text.toList).tooHeavy = true
  · rw [if_pos hHeavy, if_pos hHeavy]
  · rw [if_neg hHeavy, if_neg hHeavy]
    rfl

/-- A rule for a text that is not too large can be made. It matches what contains a spelling of
the text, character by character, and notes the text. -/
theorem literal_matches_spellings (name text : String) (priority : Int)
    (hSize : (Pattern.upToCase text.toList).tooHeavy = false) :
    ∃ r, literal name text priority = .ok r ∧
      (∀ comment, r.applies comment = true ↔
        ∃ before run after, comment = before ++ run ++ after ∧ Alike text.toList run) ∧
      ∀ comment, (r.metadata comment).entries = [("pattern", .text text)] := by
  refine ⟨plain name text priority, ?_, Pattern.occursIn_upToCase text.toList, fun _ => rfl⟩
  rw [literal_eq, hSize, if_neg Bool.false_ne_true]

/-- A text of operators, which would match much more if it were read as a pattern. -/
theorem literal_operators :
    (Pattern.upToCase "(c) [K].*|^\\é#".toList).tooHeavy = false ∧
      ∃ r, literal "legal" "(c) [K].*|^\\é#" 650 = .ok r ∧
        (∀ comment, r.applies comment = true ↔
          ∃ before run after, comment = before ++ run ++ after ∧
            Alike "(c) [K].*|^\\é#".toList run) ∧
        ∀ comment, (r.metadata comment).entries = [("pattern", .text "(c) [K].*|^\\é#")] :=
  ⟨Pattern.tooHeavy_upToCase (by decide),
    literal_matches_spellings _ _ _ (Pattern.tooHeavy_upToCase (by decide))⟩

end Rule

end CommentSieve
