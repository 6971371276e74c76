import CommentSieve.Config.Text
import CommentSieve.Proofs.JsonRecords
import Mathlib.Tactic.SplitIfs

/-!
# Texts that stand for settings

Settings can be written in many ways: fields in any order, fields with their defaults left
out, at all three levels, names and strings with any escapes, blanks anywhere, and fields of
which this program knows nothing. Whatever way is chosen, the settings are read back. What
the program writes itself is one of these ways.

Main results:

* `implements_fields` — the readers for the fields of the settings do what the fields ask for.
* `isObject_write` — a record written with all its fields stands for the record.
* `parse_denoted` — a text that stands for settings is read as these settings.
-/

namespace CommentSieve

namespace Json

/-! ## Readers that set a field -/

variable {σ α : Type} {initial : σ} {fields : List (FieldSpec σ)} {name : String} {get : σ → α}
  {P : α → List Char → Prop} {value : Read α} {set : σ → α → σ}

/-- A member of a record reads its value into its own field and leaves the others alone. -/
theorem Member.reads_of (hReads : ∀ a t, P a t → Reads value a t) (hGet : ∀ r a, get (set r a) = a)
    (hOthers : ∀ g ∈ fields, g.name ≠ name → ∀ r a, g.get (set r a) = g.get r) (record : σ) (a : α)
    (t : List Char) (h : P a t) :
    ∃ record', Reads ((Member.of name value set).read record) record' t ∧ get record' = a ∧
      ∀ g ∈ fields, g.name ≠ name → g.get record' = g.get record := by
  have hRead := hReads a t h
  refine ⟨set record a, ⟨hRead.front, fun w rest hw hRest => ?_⟩, hGet record a,
    fun g hg hName => hOthers g hg hName record a⟩
  show (value (w ++ (t ++ rest))).map _ = _
  rw [hRead.read_eq w rest hw hRest]
  rfl

/-- A member that may be left out does what its specification says. -/
theorem Member.implements_optional {default : α} (hReads : ∀ a t, P a t → Reads value a t)
    (hGet : ∀ r a, get (set r a) = a) (hInitial : get initial = default)
    (hOthers : ∀ g ∈ fields, g.name ≠ name → ∀ r a, g.get (set r a) = g.get r) :
    (Member.of name value set).Implements initial fields (.optional name get P default) where
  name_eq := rfl
  required_eq := rfl
  default_eq _ ha := hInitial.trans (Option.some.inj ha)
  reads := Member.reads_of hReads hGet hOthers

/-- A member that has to be there does what its specification says. -/
theorem Member.implements_required (hReads : ∀ a t, P a t → Reads value a t)
    (hGet : ∀ r a, get (set r a) = a)
    (hOthers : ∀ g ∈ fields, g.name ≠ name → ∀ r a, g.get (set r a) = g.get r) :
    ({ Member.of name value set with required := true } : Member σ).Implements initial fields
      (.required name get P) where
  name_eq := rfl
  required_eq := rfl
  default_eq _ ha := nomatch ha
  reads := Member.reads_of hReads hGet hOthers

/-! ## What is written -/

theorem isHexDigit_hexDigit {n : Nat} (h : n < 16) : IsHexDigit n (hexDigit n) := by
  have hTable : ∀ i : Fin 16, "0123456789abcdef".toList[i.1]? = some (hexDigit i.1) := by decide
  exact .inl (hTable ⟨n, h⟩)

/-- A character is written in one of the ways in which it can be. -/
theorem isSpelledChar_escapeChar (c : Char) : IsSpelledChar c (escapeChar c) := by
  unfold escapeChar
  split_ifs with hQuote hSlash hBackspace hTab hLine hPage hReturn hControl
  · subst hQuote
    exact .letter (by decide)
  · subst hSlash
    exact .letter (by decide)
  · subst hBackspace
    exact .letter (by decide)
  · subst hTab
    exact .letter (by decide)
  · subst hLine
    exact .letter (by decide)
  · subst hPage
    exact .letter (by decide)
  · subst hReturn
    exact .letter (by decide)
  · -- Control characters have numbers below 32, so that the first two digits are zero.
    have hZero : IsHexDigit 0 '0' := .inl (by decide)
    have hUnit := IsHexUnit.digits hZero hZero
      (isHexDigit_hexDigit (show c.toNat / 16 < 16 by omega))
      (isHexDigit_hexDigit (show c.toNat % 16 < 16 by omega))
    have hValue : ((0 * 16 + 0) * 16 + c.toNat / 16) * 16 + c.toNat % 16 = c.toNat := by omega
    rw [hValue] at hUnit
    exact .unit hUnit
  · exact .plain ⟨by omega, hQuote, hSlash⟩

/-- What is written for a string is a text for it. -/
theorem isText_quoted (s : String) : IsText s (quoted s) := by
  have hSpelled : ∀ cs : List Char, IsSpelled cs (cs.flatMap escapeChar) := by
    intro cs
    induction cs with
    | nil => exact .nil
    | cons c cs ih =>
      rw [List.flatMap_cons]
      exact .cons (isSpelledChar_escapeChar c) ih
  exact ⟨_, hSpelled s.toList, rfl⟩

/-- Parts with commas between them, and no blanks. -/
theorem separated_commaSeparated (t : List Char) (ts : List (List Char)) :
    Separated (t :: ts) (commaSeparated (t :: ts)) := by
  induction ts generalizing t with
  | nil =>
    have hOne : Separated [t] ([] ++ (t ++ [])) := .one isBlank_nil isBlank_nil
    rwa [List.nil_append, List.append_nil] at hOne
  | cons t' ts ih =>
    have hMore : Separated (t :: t' :: ts)
        ([] ++ (t ++ ([] ++ ',' :: commaSeparated (t' :: ts)))) :=
      .more isBlank_nil isBlank_nil (ih t')
    exact hMore

/-- Texts with commas between them and brackets around them are a list. -/
theorem enclosed_commaSeparated (opening closing : Char) (ts : List (List Char)) :
    Enclosed opening closing ts (opening :: commaSeparated ts ++ [closing]) := by
  cases ts with
  | nil => exact .none isBlank_nil
  | cons t ts => exact .some (separated_commaSeparated t ts)

/-- What is written for an array is a text for its elements. -/
theorem isList_write {P : α → List Char → Prop} {encode : α → Value} {as : List α}
    (h : ∀ a ∈ as, P a (encode a).write) : IsList P as (Value.array (as.map encode)).write := by
  have hItems : writeItems (as.map encode) = as.map fun a => (encode a).write := by
    induction as with
    | nil => rfl
    | cons a as ih =>
      rw [List.map_cons, writeItems, ih fun a ha => h a (List.mem_cons_of_mem _ ha), List.map_cons]
  refine ⟨as.map fun a => (encode a).write, ?_, ?_⟩
  · rw [List.forall₂_map_right_iff, List.forall₂_same]
    exact h
  · rw [← hItems]
    exact enclosed_commaSeparated ..

/-- A record written with all its fields stands for the record. -/
theorem isObject_write {r : σ} {entries : List (String × Value)}
    (h : List.Forall₂ (fun f (e : String × Value) => f.name = e.1 ∧ f.Spells (f.get r) e.2.write)
      fields entries) (hNames : (fields.map (·.name)).Nodup) :
    IsObject fields r (Value.object entries).write := by
  have hParts : writeFields entries = entries.map fun e => quoted e.1 ++ ':' :: e.2.write := by
    clear h
    induction entries with
    | nil => rfl
    | cons e entries ih => rw [writeFields, ih, List.map_cons]
  have hListed : (entries.map fun e => (e.1, e.2.write)).map (·.1) = fields.map (·.name) := by
    rw [List.map_map]
    clear hParts hNames
    induction h with
    | nil => rfl
    | cons hEntry _ ih => rw [List.map_cons, List.map_cons, ih, hEntry.1, Function.comp_apply]
  refine ⟨entries.map fun e => (e.1, e.2.write),
    entries.map fun e => quoted e.1 ++ ':' :: e.2.write, ⟨?_, ?_, ?_⟩, ?_, ?_⟩
  · intro p hp
    obtain ⟨e, he, rfl⟩ := List.mem_map.mp hp
    obtain ⟨f, hf, hName, hSpells⟩ := exists_mem_of_forall₂ h he
    exact .inl ⟨f, hf, hName, hSpells⟩
  · intro f _
    rw [hListed]
    exact List.nodup_iff_count_le_one.mp hNames f.name
  · intro f hf hMissing
    rw [hListed] at hMissing
    exact absurd (List.mem_map_of_mem hf) hMissing
  · rw [List.forall₂_map_left_iff, List.forall₂_map_right_iff, List.forall₂_same]
    exact fun e _ => ⟨quoted e.1, isText_quoted e.1, .mk isBlank_nil isBlank_nil⟩
  · -- The parts are written with commas between them.
    rw [← hParts]
    exact enclosed_commaSeparated ..

end Json

namespace Config

open Json

/-! ## The fields of the settings -/

/-- The fields of a user's rule. -/
def CustomRule.spec : List (FieldSpec CustomRule) :=
  [.required "name" (·.name) IsText,
    .required "pattern" (·.pattern) IsText,
    .optional "priority" (·.priority) (IsNullable IsInt32) none]

/-- The fields that select built-in rules. -/
def Categories.spec : List (FieldSpec Categories) :=
  [.optional "framework" (·.framework) IsBool ({} : Categories).framework,
    .optional "tooling" (·.tooling) IsBool ({} : Categories).tooling,
    .optional "documentation" (·.documentation) IsBool ({} : Categories).documentation,
    .optional "development" (·.development) IsBool ({} : Categories).development]

/-- The fields of the tokenizer's limits. -/
def Limits.spec : List (FieldSpec Limits) :=
  [.optional "iteration_factor" (·.iterationFactor) IsUnsigned ({} : Limits).iterationFactor,
    .optional "max_context_depth" (·.maxDepth) IsUnsigned ({} : Limits).maxDepth,
    .optional "max_whitespace_lookback" (·.maxLookback) IsUnsigned ({} : Limits).maxLookback,
    .optional "context_radius" (·.snippetRadius) IsUnsigned ({} : Limits).snippetRadius]

/-- The fields of the settings. Their defaults are those of settings that nobody has made. -/
def spec : List (FieldSpec Config) :=
  [.optional "keep_patterns" (·.keepPatterns) (IsList IsText) ({} : Config).keepPatterns,
    .optional "custom_rules" (·.customRules) (IsList (IsObject CustomRule.spec))
      ({} : Config).customRules,
    .optional "custom_priority" (·.customPriority) IsInt32 ({} : Config).customPriority,
    .optional "categories" (·.categories) (IsObject Categories.spec) ({} : Config).categories,
    .optional "enable_recovery" (·.recover) IsBool ({} : Config).recover,
    .optional "enable_fallback" (·.fallback) IsBool ({} : Config).fallback,
    .optional "tokenizer" (·.limits) (IsObject Limits.spec) ({} : Config).limits]

/-- The texts that stand for settings: an object, with blanks around it. -/
def Denotes (text : List Char) (c : Config) : Prop :=
  ∃ v t w, IsBlank v ∧ IsBlank w ∧ IsObject spec c t ∧ text = v ++ (t ++ w)

/-! ## Reading them -/

/-- The fields of a custom rule are read as specified. -/
theorem CustomRule.implements_fields :
    Implements { name := "", pattern := "" } CustomRule.fields CustomRule.spec where
  each := by
    have hPriority : ∀ (n? : Option Int) t, IsNullable IsInt32 n? t →
        Reads (nullable int32) n? t := fun _ _ =>
      reads_nullable (fun _ _ => reads_int32) fun _ _ => head_ne_of_isInt32
    refine .cons (Member.implements_required (fun _ _ => reads_text) (fun _ _ => rfl) ?_) <|
      .cons (Member.implements_required (fun _ _ => reads_text) (fun _ _ => rfl) ?_) <|
      .cons (Member.implements_optional hPriority (fun _ _ => rfl) rfl ?_) .nil
    all_goals simp [spec, FieldSpec.required, FieldSpec.optional]
  names := by decide
  ext := by
    rintro ⟨⟩ ⟨⟩ h
    simpa [spec, FieldSpec.required, FieldSpec.optional] using h

/-- The fields of the categories are read as specified. -/
theorem Categories.implements_fields : Implements {} Categories.fields Categories.spec where
  each := by
    refine .cons (Member.implements_optional (fun _ _ => reads_bool) (fun _ _ => rfl) rfl ?_) <|
      .cons (Member.implements_optional (fun _ _ => reads_bool) (fun _ _ => rfl) rfl ?_) <|
      .cons (Member.implements_optional (fun _ _ => reads_bool) (fun _ _ => rfl) rfl ?_) <|
      .cons (Member.implements_optional (fun _ _ => reads_bool) (fun _ _ => rfl) rfl ?_) .nil
    all_goals simp [spec, FieldSpec.optional]
  names := by decide
  ext := by
    rintro ⟨⟩ ⟨⟩ h
    simpa [spec, FieldSpec.optional] using h

/-- The settings of the tokenizer are read as specified. -/
theorem Limits.implements_fields : Implements {} Limits.fields Limits.spec where
  each := by
    refine .cons (Member.implements_optional (fun _ _ => reads_unsigned) (fun _ _ => rfl) rfl ?_) <|
      .cons (Member.implements_optional (fun _ _ => reads_unsigned) (fun _ _ => rfl) rfl ?_) <|
      .cons (Member.implements_optional (fun _ _ => reads_unsigned) (fun _ _ => rfl) rfl ?_) <|
      .cons (Member.implements_optional (fun _ _ => reads_unsigned) (fun _ _ => rfl) rfl ?_) .nil
    all_goals simp [spec, FieldSpec.optional]
  names := by decide
  ext := by
    rintro ⟨⟩ ⟨⟩ h
    simpa [spec, FieldSpec.optional] using h

/-- The fields of a whole config are read as specified. -/
theorem implements_fields : Implements {} fields spec where
  each := by
    -- The parts that are lists or records themselves are read by what was shown for those.
    have hTexts : ∀ (texts : List String) t, IsList IsText texts t →
        Reads (list text) texts t := fun _ _ => reads_list fun _ _ => reads_text
    have hRules : ∀ (rules : List CustomRule) t, IsList (IsObject CustomRule.spec) rules t →
        Reads (list CustomRule.decode) rules t := fun _ _ =>
      reads_list fun _ _ => reads_object CustomRule.implements_fields
    have hCategories : ∀ (c : Categories) t, IsObject Categories.spec c t →
        Reads Categories.decode c t := fun _ _ => reads_object Categories.implements_fields
    have hLimits : ∀ (l : Limits) t, IsObject Limits.spec l t → Reads Limits.decode l t :=
      fun _ _ => reads_object Limits.implements_fields
    refine .cons (Member.implements_optional hTexts (fun _ _ => rfl) rfl ?_) <|
      .cons (Member.implements_optional hRules (fun _ _ => rfl) rfl ?_) <|
      .cons (Member.implements_optional (fun _ _ => reads_int32) (fun _ _ => rfl) rfl ?_) <|
      .cons (Member.implements_optional hCategories (fun _ _ => rfl) rfl ?_) <|
      .cons (Member.implements_optional (fun _ _ => reads_bool) (fun _ _ => rfl) rfl ?_) <|
      .cons (Member.implements_optional (fun _ _ => reads_bool) (fun _ _ => rfl) rfl ?_) <|
      .cons (Member.implements_optional hLimits (fun _ _ => rfl) rfl ?_) .nil
    all_goals simp [spec, FieldSpec.optional]
  names := by decide
  ext := by
    rintro ⟨⟩ ⟨⟩ h
    simpa [spec, FieldSpec.optional] using h

/-- A text that stands for settings is read as these settings. -/
theorem parse_of_denotes {text : List Char} {c : Config} (h : Denotes text c) :
    parse text = .ok c := by
  obtain ⟨v, t, w, hv, hw, hObject, rfl⟩ := h
  have hEnd : skipSpace w = [] := by
    rw [← List.append_nil w, skipSpace_blank hw]
    rfl
  have hRest : EndsNumber w := by
    rw [← List.append_nil w]
    exact endsNumber_blank hw fun _ hc => nomatch hc
  have hRead := (reads_object implements_fields hObject).read_eq v w hv hRest
  rw [parse, whole, hRead]
  show (if (skipSpace w).isEmpty then _ else _) = _
  rw [hEnd]
  rfl

/-! ## Writing them -/

/-- Settings with numbers that fit: priorities in 32 bits, limits in a word. -/
structure InRange (c : Config) : Prop where
  customPriority : -2147483648 ≤ c.customPriority ∧ c.customPriority ≤ 2147483647
  priorities : ∀ rule ∈ c.customRules, ∀ n ∈ rule.priority, -2147483648 ≤ n ∧ n ≤ 2147483647
  limits : ∀ n ∈ [c.limits.iterationFactor, c.limits.maxDepth, c.limits.maxLookback,
    c.limits.snippetRadius], n ≤ 18446744073709551615

theorem isBool_write (b : Bool) : IsBool b (Value.bool b).write := by
  cases b <;> rfl

/-- What is written for a custom rule is a text for it. -/
theorem CustomRule.isObject_encode {rule : CustomRule}
    (h : ∀ n ∈ rule.priority, -2147483648 ≤ n ∧ n ≤ 2147483647) :
    IsObject CustomRule.spec rule rule.encode.write := by
  refine isObject_write (.cons ⟨rfl, isText_quoted _⟩ <| .cons ⟨rfl, isText_quoted _⟩ <|
    .cons ⟨rfl, ?_⟩ .nil) CustomRule.implements_fields.names
  show IsNullable IsInt32 rule.priority _
  cases hPriority : rule.priority with
  | none => rfl
  | some n =>
    have hRange := h n hPriority
    exact ⟨hRange.1, hRange.2, rfl⟩

/-- What is written for the categories is a text for them. -/
theorem Categories.isObject_encode (c : Categories) :
    IsObject Categories.spec c c.encode.write :=
  isObject_write (.cons ⟨rfl, isBool_write _⟩ <| .cons ⟨rfl, isBool_write _⟩ <|
    .cons ⟨rfl, isBool_write _⟩ <| .cons ⟨rfl, isBool_write _⟩ .nil)
    Categories.implements_fields.names

/-- What is written for the settings of the tokenizer, which are machine words, is a text for
them. -/
theorem Limits.isObject_encode {l : Limits}
    (h : ∀ n ∈ [l.iterationFactor, l.maxDepth, l.maxLookback, l.snippetRadius],
      n ≤ 18446744073709551615) : IsObject Limits.spec l l.encode.write := by
  refine isObject_write (.cons ⟨rfl, h _ ?_, rfl⟩ <| .cons ⟨rfl, h _ ?_, rfl⟩ <|
    .cons ⟨rfl, h _ ?_, rfl⟩ <| .cons ⟨rfl, h _ ?_, rfl⟩ .nil) Limits.implements_fields.names
  all_goals simp [FieldSpec.optional]

/-- What the program writes for settings stands for them. -/
theorem denotes_encode {c : Config} (h : c.InRange) : Denotes c.encode.write c := by
  have hObject : IsObject spec c c.encode.write := by
    refine isObject_write (.cons ⟨rfl, isList_write fun _ _ => isText_quoted _⟩ <|
      .cons ⟨rfl, isList_write fun rule hRule =>
        CustomRule.isObject_encode (h.priorities rule hRule)⟩ <|
      .cons ⟨rfl, h.customPriority.1, h.customPriority.2, rfl⟩ <|
      .cons ⟨rfl, Categories.isObject_encode _⟩ <| .cons ⟨rfl, isBool_write _⟩ <|
      .cons ⟨rfl, isBool_write _⟩ <| .cons ⟨rfl, Limits.isObject_encode h.limits⟩ .nil)
      implements_fields.names
  refine ⟨[], c.encode.write, [], isBlank_nil, isBlank_nil, hObject, ?_⟩
  rw [List.nil_append, List.append_nil]

/-- **Settings are read from every text that stands for them.** Fields may come in any order and
at any level be left out if they have their defaults, blanks may stand anywhere, characters may
be escaped in any way, and names that are not known may come with any values. What is written
for settings is such a text, so that they are read back. -/
theorem parse_denoted (c : Config) :
    (∀ text, Denotes text c → parse text = .ok c) ∧
      (c.InRange → parse c.encode.write = .ok c) :=
  ⟨fun _ => parse_of_denotes, fun h => parse_of_denotes (denotes_encode h)⟩

/-- A name that is not known, blanks, and a field that is given; and settings written and read
back. -/
theorem parse_denoted_unknown_name :
    parse " \x7b\"x\":[],\"enable_fallback\": false\x7d".toList = .ok { fallback := false } ∧
      parse ({} : Config).encode.write = .ok {} := by
  have hBlank : IsBlank [' '] := by
    intro c hc
    obtain rfl := List.mem_singleton.mp hc
    exact List.mem_cons_self
  have hArray : IsValue ['[', ']'] := by
    have hNone : ∀ item ∈ ([] : List (List Char)), IsValue item := by simp
    exact .array hNone (.none isBlank_nil)
  have hObject : IsObject spec { fallback := false }
      "\x7b\"x\":[],\"enable_fallback\": false\x7d".toList := by
    refine ⟨[("x", ['[', ']']), ("enable_fallback", ['f', 'a', 'l', 's', 'e'])],
      ["\"x\":[]".toList, "\"enable_fallback\": false".toList], ⟨?_, ?_, ?_⟩, ?_, ?_⟩
    · intro p hp
      rcases List.mem_cons.mp hp with rfl | hSecond
      · -- No field has the name of the first pair.
        exact .inr ⟨by decide, hArray⟩
      · obtain rfl := List.mem_singleton.mp hSecond
        exact .inl ⟨_, .tail _ (.tail _ (.tail _ (.tail _ (.tail _ (.head _))))), rfl, rfl⟩
    · decide
    · simp [spec, FieldSpec.optional]
    · exact .cons ⟨_, isText_quoted "x", .mk isBlank_nil isBlank_nil⟩
        (.cons ⟨_, isText_quoted "enable_fallback", .mk isBlank_nil hBlank⟩ .nil)
    · exact .some (.more isBlank_nil isBlank_nil (.one isBlank_nil isBlank_nil))
  have hDenotes : Denotes " \x7b\"x\":[],\"enable_fallback\": false\x7d".toList
      { fallback := false } := ⟨[' '], _, [], hBlank, isBlank_nil, hObject, rfl⟩
  have hRange : ({} : Config).InRange := ⟨by decide, by decide, by decide⟩
  exact ⟨(parse_denoted _).1 _ hDenotes, (parse_denoted {}).2 hRange⟩

end Config

end CommentSieve
