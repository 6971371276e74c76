import CommentSieve.Token.Tokenizer

/-!
# The log of a tokenizer

Whatever a tokenizer finds it writes to its log, and it never reads there. So there is an
entry for each finding, and what is written does not depend on what was written before:
with other entries in front (`after`) every operation does the same, and the entries stay in
front.

Main results:

* `Tokenizer.note_after`, `Tokenizer.tokenize_after` — earlier entries change nothing.
* `Tokenizer.log_foldl_note_eq_iff` — a log that has not changed means that nothing was
  found.
-/

namespace CommentSieve

/-! ## Entries in front of a log -/

/-- A log with the entries of another one in front of its own. -/
def Log.after (log prior : Log) : Log :=
  { log with errors := prior.errors ++ log.errors, warnings := prior.warnings ++ log.warnings }

namespace Tokenizer

/-- A tokenizer with the entries of a log in front of its own. -/
def after (t : Tokenizer) (prior : Log) : Tokenizer := { t with log := t.log.after prior }

variable (t : Tokenizer) (prior : Log) (content : List Char)

theorem record_after (d : Diagnostic) : (t.after prior).record d = (t.record d).after prior := by
  simp [record, after, Log.record, Log.after]

theorem warn_after (message : String) :
    (t.after prior).warn message = (t.warn message).after prior := by
  simp [warn, after, Log.warn, Log.after]

theorem foldl_warn_after (messages : List String) :
    messages.foldl warn (t.after prior) = (messages.foldl warn t).after prior := by
  induction messages generalizing t with
  | nil => rfl
  | cons message messages ih => rw [List.foldl_cons, warn_after, ih, List.foldl_cons]

/-- The place of a problem is found without a look at the entries. -/
theorem located_after (category : Diagnostic.Category) (severity : Diagnostic.Severity)
    (message : String) (position : Nat) :
    (t.after prior).located content category severity message position =
      ((t.located content category severity message position).1,
        (t.located content category severity message position).2.after prior) := rfl

/-- So is the recovery from it. -/
theorem reportMalformed_after (what : Malformed) (position : Nat) :
    (t.after prior).reportMalformed content what position =
      (t.reportMalformed content what position).after prior := by
  generalize hPlace : t.located content what.category .medium what.message position = place
  have hRecovery : Recovery.attempt (place.2.after prior).log place.1 content position =
      Recovery.attempt place.2.log place.1 content position := rfl
  rw [reportMalformed, reportMalformed, located_after, hPlace]
  dsimp only
  rw [hRecovery, foldl_warn_after, record_after]

/-- What is recorded does not depend on what was recorded before. -/
theorem note_after (f : Finding) :
    (t.after prior).note content f = (t.note content f).after prior := by
  cases f with
  | malformed what offset => exact reportMalformed_after ..
  | brokenNested offset => exact warn_after ..
  | unwound count => exact warn_after ..
  | offBoundary start stop => exact record_after ..
  | depthExceeded | ceilingReached | stalled => simp only [note, located_after, record_after]

theorem foldl_note_after (fs : List Finding) :
    fs.foldl (note · content) (t.after prior) = (fs.foldl (note · content) t).after prior := by
  induction fs generalizing t with
  | nil => rfl
  | cons f fs ih => rw [List.foldl_cons, note_after, ih, List.foldl_cons]

/-- Violations one after the other leave what was recorded before in front. -/
theorem foldl_noteViolation_after (vs : List Coverage.Violation) :
    vs.foldl noteViolation (t.after prior) = (vs.foldl noteViolation t).after prior := by
  induction vs generalizing t with
  | nil => rfl
  | cons v vs ih =>
    have hOne : (t.after prior).noteViolation v = (t.noteViolation v).after prior :=
      record_after ..
    rw [List.foldl_cons, hOne, ih, List.foldl_cons]

/-- What was recorded before changes neither the tokens nor what is recorded about a text. -/
theorem tokenize_after :
    (t.after prior).tokenize content =
      ((t.tokenize content).1, (t.tokenize content).2.after prior) := by
  have hReset : ({ t.after prior with lines := {} } : Tokenizer) =
      ({ t with lines := {} } : Tokenizer).after prior := rfl
  have hOptions : (t.after prior).options = t.options := rfl
  rw [tokenize, tokenize, tokenizeWith, tokenizeWith]
  dsimp only
  rw [hReset, hOptions, foldl_note_after, foldl_noteViolation_after]

end Tokenizer

/-! ## Every finding is recorded -/

/-- The number of entries. -/
def Log.size (log : Log) : Nat := log.errors.length + log.warnings.length

namespace Tokenizer

variable (t : Tokenizer) (content : List Char)

theorem size_record (d : Diagnostic) : (t.record d).log.size = t.log.size + 1 := by
  simp only [record, Log.record, Log.size, List.length_append, List.length_singleton]
  omega

theorem size_warn (message : String) : (t.warn message).log.size = t.log.size + 1 := by
  simp only [warn, Log.warn, Log.size, List.length_append, List.length_singleton]
  omega

/-- Warnings add one entry each. -/
theorem size_foldl_warn (messages : List String) :
    (messages.foldl warn t).log.size = t.log.size + messages.length := by
  induction messages generalizing t with
  | nil => rfl
  | cons message messages ih =>
    rw [List.foldl_cons, ih, size_warn, List.length_cons]
    omega

/-- Every finding leaves a trace. -/
theorem size_lt_note (f : Finding) : t.log.size < (t.note content f).log.size := by
  cases f with
  | malformed what offset =>
    rw [note, reportMalformed]
    dsimp only
    rw [size_record, size_foldl_warn]
    -- Finding the place leaves the log as it was.
    show t.log.size < t.log.size + _ + 1
    omega
  | brokenNested | unwound =>
    rw [note, size_warn]
    omega
  | depthExceeded | ceilingReached | stalled | offBoundary =>
    simp only [note, size_record]
    exact Nat.lt_succ_self _

/-- The log only grows. -/
theorem size_le_foldl_note (fs : List Finding) :
    t.log.size ≤ (fs.foldl (note · content) t).log.size := by
  induction fs generalizing t with
  | nil => exact Nat.le_refl _
  | cons f fs ih =>
    have hFirst := t.size_lt_note content f
    have hOthers := ih (t.note content f)
    rw [List.foldl_cons]
    omega

/-- A log that has not changed means that nothing was found. -/
theorem log_foldl_note_eq_iff {t : Tokenizer} {content : List Char} {fs : List Finding} :
    (fs.foldl (note · content) t).log = t.log ↔ fs = [] := by
  constructor
  · intro hSame
    cases fs with
    | nil => rfl
    | cons f fs =>
      have hFirst := t.size_lt_note content f
      have hOthers := (t.note content f).size_le_foldl_note content fs
      rw [List.foldl_cons] at hSame
      rw [hSame] at hOthers
      omega
  · rintro rfl
    rfl

end Tokenizer

end CommentSieve
