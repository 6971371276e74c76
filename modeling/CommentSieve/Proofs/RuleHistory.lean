import CommentSieve.Rule.Engine

/-!
# The history of an engine

An engine keeps its rules in the order in which they are tried, and every operation puts this
order right again. What the rules should be is said more simply by the history of the
engine: the rules that are live, in the order in which they were added, and the categories
that are switched on. Here the operations are carried out on both, side by side. The rules
are always those of the history, ranked by priority, and every question is answered as the
history says.

Main results:

* `Rule.Ranked.foremost` — the first rule in the order is the best one of the history.
* `Engine.Follows.perform` — one operation on an engine does what it does on its history.
* `Engine.follows_history` — so after any operations an engine answers from its history.
-/

namespace CommentSieve

namespace Rule

/-! ## Ranking -/

/-- The rules of a list by descending priority; rules of one priority keep their order. -/
structure Ranked (live rules : List Rule) : Prop where
  perm : rules.Perm live
  descending : rules.Pairwise fun a b => b.priority ≤ a.priority
  stable : ∀ p, rules.filter (·.priority == p) = live.filter (·.priority == p)

/-- The best rule of a list among those wanted: none of them has a better priority, and those
of the same priority come later. -/
def Foremost (wanted : Rule → Bool) (live : List Rule) (r : Rule) : Prop :=
  wanted r ∧ ∃ earlier later, live = earlier ++ r :: later ∧
    (∀ q ∈ earlier, wanted q → q.priority < r.priority) ∧
    ∀ q ∈ later, wanted q → q.priority ≤ r.priority

namespace Ranked

variable {live rules : List Rule}

theorem of_descending (h : rules.Pairwise fun a b => b.priority ≤ a.priority) :
    Ranked rules rules := ⟨.refl _, h, fun _ => rfl⟩

/-- Where the rules of a better priority end, only those of a worse one follow. -/
theorem lt_of_mem_dropWhile {p : Int} {q : Rule}
    (h : rules.Pairwise fun a b => b.priority ≤ a.priority)
    (hq : q ∈ rules.dropWhile (p ≤ ·.priority)) : q.priority < p := by
  induction rules with
  | nil => simp at hq
  | cons a rules ih =>
    obtain ⟨hFirst, hOthers⟩ := List.pairwise_cons.mp h
    by_cases ha : p ≤ a.priority
    · rw [List.dropWhile_cons_of_pos (by simpa using ha)] at hq
      exact ih hOthers hq
    · rw [List.dropWhile_cons_of_neg (by simpa using ha)] at hq
      rcases List.mem_cons.mp hq with rfl | hq
      · omega
      · have hLess := hFirst q hq
        omega

/-- A rule that is put in its place is the last of its priority. -/
theorem insert (h : Ranked live rules) (r : Rule) :
    Ranked (live ++ [r]) (Engine.insert r rules) := by
  have hSplit : rules.takeWhile (r.priority ≤ ·.priority) ++
      rules.dropWhile (r.priority ≤ ·.priority) = rules := List.takeWhile_append_dropWhile
  have hBetter : ∀ q ∈ rules.takeWhile (r.priority ≤ ·.priority), r.priority ≤ q.priority :=
    fun q hq => by simpa using List.all_eq_true.mp List.all_takeWhile q hq
  have hWorse : ∀ q ∈ rules.dropWhile (r.priority ≤ ·.priority), q.priority < r.priority :=
    fun q hq => lt_of_mem_dropWhile h.descending hq
  obtain ⟨hPerm, hDescending, hStable⟩ := h
  unfold Engine.insert
  -- From here on only this counts: where the rules are cut, the new one fits in between.
  generalize rules.takeWhile (r.priority ≤ ·.priority) = better at hSplit hBetter ⊢
  generalize rules.dropWhile (r.priority ≤ ·.priority) = worse at hSplit hWorse ⊢
  subst hSplit
  refine ⟨?_, ?_, fun p => ?_⟩
  · have hLast : (r :: (better ++ worse)).Perm (live ++ [r]) :=
      (List.Perm.cons r hPerm).trans (List.perm_append_singleton r live).symm
    exact List.perm_middle.trans hLast
  · obtain ⟨hb, hw, hCross⟩ := List.pairwise_append.mp hDescending
    refine List.pairwise_append.mpr ⟨hb, List.pairwise_cons.mpr ⟨?_, hw⟩, ?_⟩
    · exact fun q hq => Int.le_of_lt (hWorse q hq)
    · intro a ha b hb
      rcases List.mem_cons.mp hb with rfl | hb
      · exact hBetter a ha
      · exact hCross a ha b hb
  · have hp := hStable p
    by_cases hr : r.priority = p
    · -- All others of this priority stand before the new rule.
      have hNone : worse.filter (·.priority == p) = [] := by
        rw [List.filter_eq_nil_iff]
        intro q hq hSame
        have hLess := hWorse q hq
        have hSame : q.priority = p := by simpa using hSame
        omega
      rw [List.filter_append, hNone, List.append_nil] at hp
      rw [List.filter_append, List.filter_append, List.filter_cons_of_pos (by simpa using hr),
        List.filter_cons_of_pos (by simpa using hr), hNone, hp, List.filter_nil]
    · -- Of another priority there are the same rules as before.
      rw [List.filter_append, List.filter_append, List.filter_cons_of_neg (by simpa using hr),
        List.filter_cons_of_neg (by simpa using hr), List.filter_nil, List.append_nil, ← hp,
        List.filter_append]

/-- Dropping rules keeps the others ranked. -/
theorem filter (h : Ranked live rules) (wanted : Rule → Bool) :
    Ranked (live.filter wanted) (rules.filter wanted) where
  perm := h.perm.filter wanted
  descending := h.descending.filter wanted
  stable p := by
    have hSwap : ∀ rs : List Rule, (rs.filter wanted).filter (·.priority == p) =
        (rs.filter (·.priority == p)).filter wanted := by
      intro rs
      simp only [List.filter_filter, Bool.and_comm]
    rw [hSwap, hSwap, h.stable]

/-- **The first rule in the order is the best one**, as far as it is wanted. -/
theorem foremost (h : Ranked live rules) {wanted : Rule → Bool} {r : Rule}
    (hFind : rules.find? wanted = some r) : Foremost wanted live r := by
  obtain ⟨hr, before, after, hRules, hBefore⟩ := List.find?_eq_some_iff_append.mp hFind
  -- What is not wanted can be left out on both sides; then the rule is the first of all.
  have hNone : before.filter wanted = [] := by
    rw [List.filter_eq_nil_iff]
    exact fun q hq => by simpa using hBefore q hq
  have hWanted : rules.filter wanted = r :: after.filter wanted := by
    rw [hRules, List.filter_append, hNone, List.filter_cons_of_pos hr, List.nil_append]
  have hRanked := h.filter wanted
  rw [hWanted] at hRanked
  have hBest : ∀ q ∈ live, wanted q → q.priority ≤ r.priority := by
    intro q hq hw
    have hMem := hRanked.perm.mem_iff.mpr (List.mem_filter.mpr ⟨hq, hw⟩)
    rcases List.mem_cons.mp hMem with rfl | hAfter
    · exact Int.le_refl _
    · exact (List.pairwise_cons.mp hRanked.descending).1 q hAfter
  -- Of the rules of its priority it was added first, as they stand in the order of the list.
  have hFirst := hRanked.stable r.priority
  rw [List.filter_cons_of_pos (by simp), List.filter_filter (l := live)] at hFirst
  obtain ⟨earlier, later, rfl, hEarlier, -, -⟩ := List.filter_eq_cons_iff.mp hFirst.symm
  refine ⟨hr, earlier, later, rfl, fun q hq hw => ?_, fun q hq hw => ?_⟩
  · have hLe := hBest q (by simp [hq]) hw
    have hNe : q.priority ≠ r.priority := by simpa [hw] using hEarlier q hq
    omega
  · exact hBest q (by simp [hq]) hw

end Ranked

end Rule

/-! ## Operations -/

namespace Engine

open Rule

/-- What can be done to an engine. -/
inductive Operation
  | add (r : Rule)
  | addCustom (name pattern : String) (priority : Int)
  | addLiteral (name text : String) (priority : Int)
  | remove (name : String)
  | clear
  | reset
  | setEnabled (category : Category) (enabled : Bool)
  deriving Repr, DecidableEq

/-- What an operation answers. -/
inductive Answer
  | done
  | refused (why : Refusal)
  /-- Whether a rule was removed. -/
  | removed (any : Bool)
  deriving Repr, DecidableEq

/-- Goes over to what an attempt gives; if it is refused, everything stays as it was. -/
def accept {σ : Type} (s : σ) : Except Refusal σ → Answer × σ
  | .ok s' => (.done, s')
  | .error why => (.refused why, s)

/-- Carries out an operation. -/
def perform (e : Engine) : Operation → Answer × Engine
  | .add r => accept e (e.add r)
  | .addCustom name pattern priority => accept e (e.addCustom name pattern priority)
  | .addLiteral name text priority => accept e (e.addLiteral name text priority)
  -- Removing tells from the number of rules whether there was one.
  | .remove name => (.removed (e.rules.length != (e.remove name).rules.length), e.remove name)
  | .clear => (.done, e.clear)
  | .reset => (.done, .default)
  | .setEnabled category enabled => (.done, e.setEnabled category enabled)

/-- The engine after some operations. -/
def after (e : Engine) (ops : List Operation) : Engine :=
  ops.foldl (fun e op => (e.perform op).2) e

/-- Rules in the order in which they were added, as far as they are still there, and the
categories that are switched on. -/
structure History where
  live : List Rule := []
  enabled : Category → Bool := fun _ => true

namespace History

/-- Adds a rule after all others, unless its name is taken. -/
def add (h : History) (r : Rule) : Except Refusal History :=
  if r.name ∈ h.live.map (·.name) then .error (.duplicate r.name)
  else .ok { h with live := h.live ++ [r] }

/-- The built-in rules, added one after the other; every category is switched on. -/
def builtin : History :=
  Builtin.all.foldl (fun h r => (accept h (h.add r)).2) {}

/-- What an operation does to the history, and what it should answer. -/
def perform (h : History) : Operation → Answer × History
  | .add r => accept h (h.add r)
  | .addCustom name pattern priority => accept h (custom name pattern priority >>= h.add)
  | .addLiteral name text priority => accept h (literal name text priority >>= h.add)
  | .remove name =>
    (.removed (name ∈ h.live.map (·.name)), { h with live := h.live.filter (·.name != name) })
  | .clear => (.done, { h with live := [] })
  | .reset => (.done, builtin)
  | .setEnabled category enabled =>
    (.done, { h with enabled := fun c => if c = category then enabled else h.enabled c })

/-- The history after some operations. -/
def after (h : History) (ops : List Operation) : History :=
  ops.foldl (fun h op => (h.perform op).2) h

/-- Whether a rule is switched on and matches. -/
def wants (h : History) (text : List Char) (r : Rule) : Bool :=
  h.enabled r.category && r.applies text

end History

/-! ## Engines follow their history -/

/-- An engine is what its history makes of it. -/
structure Follows (e : Engine) (h : History) : Prop where
  ranked : Ranked h.live e.rules
  distinct : (h.live.map (·.name)).Nodup
  enabled : ∀ c, e.isEnabled c = h.enabled c

/-- The number of rules changes if there was a rule of the name. -/
theorem length_remove (e : Engine) (name : String) :
    (e.rules.length != (e.remove name).rules.length) = e.has name := by
  have hAll : (e.remove name).rules.length = e.rules.length ↔ e.has name = false := by
    rw [remove, List.length_filter_eq_length_iff, has, List.any_eq_false]
    simp
  cases hHas : e.has name with
  | false => simp [hAll.mpr hHas]
  | true =>
    have hFewer : (e.remove name).rules.length ≠ e.rules.length := by simp [hAll, hHas]
    simpa using hFewer.symm

/-- Switching a category changes that category only. -/
theorem isEnabled_setEnabled (e : Engine) (category c : Category) (enabled : Bool) :
    (e.setEnabled category enabled).isEnabled c =
      if c = category then enabled else e.isEnabled c := by
  unfold isEnabled Engine.setEnabled
  by_cases hc : c = category
  · cases enabled <;> simp [hc]
  · cases enabled <;> simp [hc]

variable {e : Engine} {h : History}

theorem live_builtin : History.builtin = { live := Builtin.all } := rfl

/-- The usual engine has the built-in rules, ranked. -/
theorem follows_default : Follows .default .builtin := by
  have hDescending : Builtin.all.Pairwise fun a b => b.priority ≤ a.priority := by
    simp [Builtin.all, Builtin.framework, Builtin.tooling, Builtin.documentation,
      Builtin.development, Builtin.rule]
  have hNames : (Builtin.all.map (·.name)).Nodup := by decide
  rw [live_builtin]
  exact ⟨.of_descending hDescending, hNames, fun _ => rfl⟩

namespace Follows

/-- A name is taken exactly if a live rule has it. -/
theorem mem_names_iff (hFollows : Follows e h) {name : String} :
    name ∈ h.live.map (·.name) ↔ e.has name = true := by
  have hSame := (hFollows.ranked.perm.map (·.name)).mem_iff (a := name)
  rw [← hSame, has, List.any_eq_true]
  simp

/-- An attempt to add a rule succeeds on both sides or on none. It may have failed before,
when its pattern was read. -/
theorem add (hFollows : Follows e h) (attempt : Except Refusal Rule) :
    (accept e (attempt >>= e.add)).1 = (accept h (attempt >>= h.add)).1 ∧
      Follows (accept e (attempt >>= e.add)).2 (accept h (attempt >>= h.add)).2 := by
  cases attempt with
  | error why => exact ⟨rfl, hFollows⟩
  | ok r =>
    show (accept e (e.add r)).1 = (accept h (h.add r)).1 ∧
      Follows (accept e (e.add r)).2 (accept h (h.add r)).2
    have hTaken : r.name ∈ h.live.map (·.name) ↔ e.has r.name = true := hFollows.mem_names_iff
    -- A name is taken in the engine just if it is in the history.
    by_cases hName : e.has r.name
    · have hEngine : e.add r = .error (.duplicate r.name) := if_pos hName
      have hHistory : h.add r = .error (.duplicate r.name) := if_pos (hTaken.mpr hName)
      rw [hEngine, hHistory]
      exact ⟨rfl, hFollows⟩
    · have hEngine : e.add r = .ok { e with rules := Engine.insert r e.rules } := if_neg hName
      have hHistory : h.add r = .ok { h with live := h.live ++ [r] } :=
        if_neg (mt hTaken.mp hName)
      rw [hEngine, hHistory]
      refine ⟨rfl, hFollows.ranked.insert r, ?_, hFollows.enabled⟩
      show ((h.live ++ [r]).map (·.name)).Nodup
      rw [List.map_append, List.nodup_append]
      refine ⟨hFollows.distinct, by simp, ?_⟩
      rintro a ha b hb rfl
      obtain rfl : a = r.name := by simpa using hb
      exact hName (hTaken.mp ha)

/-- **One operation on an engine does what it does on its history**, and answers the same. -/
theorem perform (hFollows : Follows e h) (op : Operation) :
    (e.perform op).1 = (h.perform op).1 ∧ Follows (e.perform op).2 (h.perform op).2 := by
  cases op with
  | add r => exact hFollows.add (.ok r)
  | addCustom name pattern priority => exact hFollows.add (custom name pattern priority)
  | addLiteral name text priority => exact hFollows.add (literal name text priority)
  | remove name =>
    constructor
    · simp only [Engine.perform, History.perform, length_remove, hFollows.mem_names_iff,
        Bool.decide_eq_true]
    · exact ⟨hFollows.ranked.filter _, hFollows.distinct.sublist (List.filter_sublist.map _),
        hFollows.enabled⟩
  | clear => exact ⟨rfl, .of_descending .nil, .nil, hFollows.enabled⟩
  | reset => exact ⟨rfl, follows_default⟩
  | setEnabled category enabled =>
    refine ⟨rfl, hFollows.ranked, hFollows.distinct, fun c => ?_⟩
    show (e.setEnabled category enabled).isEnabled c = if c = category then enabled else h.enabled c
    rw [isEnabled_setEnabled, hFollows.enabled]

/-- And so do all operations, one after the other. -/
theorem after (hFollows : Follows e h) (ops : List Operation) :
    Follows (e.after ops) (h.after ops) := by
  induction ops generalizing e h with
  | nil => exact hFollows
  | cons op ops ih => exact ih (hFollows.perform op).2

/-- Comments are classified as the history says. -/
theorem classify (hFollows : Follows e h) (text : List Char) :
    (∃ r, e.rules.find? (h.wants text) = some r ∧ Foremost (h.wants text) h.live r ∧
      e.classify text = ⟨r.category, some r.name, true, r.metadata text⟩) ∨
    ((∀ r ∈ h.live, h.wants text r = false) ∧
      e.classify text = ⟨.regular, none, false, .nothing⟩) := by
  -- The engine looks for the same rules, as it has the same categories switched on.
  have hSelects : e.selects text = h.wants text := by
    funext r
    rw [selects, History.wants, hFollows.enabled]
  rw [Engine.classify, hSelects]
  cases hFind : e.rules.find? (h.wants text) with
  | some r => exact .inl ⟨r, rfl, hFollows.ranked.foremost hFind, rfl⟩
  | none =>
    refine .inr ⟨fun r hr => ?_, rfl⟩
    have hRule : r ∈ e.rules := hFollows.ranked.perm.mem_iff.mpr hr
    simpa using List.find?_eq_none.mp hFind r hRule

end Follows

end Engine

end CommentSieve
