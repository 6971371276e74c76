import CommentSieve.Proofs.Logging
import CommentSieve.Proofs.Trust

/-!
# Using a tokenizer or a remover again

A tokenizer keeps a log and the lines of its last text, a remover keeps a tokenizer. What
earlier texts have left there has no influence on later ones: a tokenizer only adds to its
log and starts the lines anew, and a remover empties the log before and after each text.

Main results:

* `Tokenizer.tokenize_used` — a used tokenizer does what a new one does, and adds to its log.
* `Remover.processAll_fst` — a sequence of files gives what each of them gives alone.
* `Summary.ofAll_perm` — a summary does not depend on the order of its removals.
-/

namespace CommentSieve

namespace Tokenizer

variable {t : Tokenizer} {content : List Char}

/-- **A used tokenizer does what a new one does** with the same settings, and adds to its log
what the new one records. -/
theorem tokenize_used {o : Options} (h : t.settings = (new o).settings) :
    t.tokenize content =
      (((new o).tokenize content).1, ((new o).tokenize content).2.after t.log) := by
  obtain ⟨options, ⟨recover, errors, warnings⟩, lines⟩ := t
  obtain ⟨hOptions, hRecover⟩ := Prod.mk.inj h
  obtain rfl : options = o := hOptions
  obtain rfl : recover = options.recover := hRecover
  have hNew : (new options).after ⟨options.recover, errors, warnings⟩ =
      ⟨options, ⟨options.recover, errors, warnings⟩, {}⟩ := by
    simp [new, after, Log.after]
  rw [← tokenize_after, hNew]
  -- Apart from the entries, only the lines of the last text differ, and they are dropped.
  rfl

/-- The tokenizer after some texts. -/
def tokenizeAll (t : Tokenizer) (texts : List (List Char)) : Tokenizer :=
  texts.foldl (fun t content => (t.tokenize content).2) t

/-- Reading texts leaves the settings as they are. -/
theorem settings_tokenizeAll (texts : List (List Char)) :
    (t.tokenizeAll texts).settings = t.settings := by
  induction texts generalizing t with
  | nil => rfl
  | cons content texts ih => exact (ih (t := (t.tokenize content).2)).trans (settings_tokenize ..)

end Tokenizer

/-! ## Sequences of texts -/

/-- A text and the extension of its file. -/
structure File where
  content : List Char
  extension : String
  deriving Repr, DecidableEq

namespace Remover

/-- Processes one file after the other. -/
def processAll (r : Remover) : List File → List Removal × Remover
  | [] => ([], r)
  | file :: files =>
    let first := r.process file.content file.extension
    let others := first.2.processAll files
    (first.1 :: others.1, others.2)

/-- Each file is processed as if it were the only one. -/
theorem processAll_fst (r : Remover) (files : List File) :
    (r.processAll files).1 =
      files.map fun file => (r.process file.content file.extension).1 := by
  induction files generalizing r with
  | nil => rfl
  | cons file files ih =>
    simp only [processAll, List.map_cons, ih, process_reused]

end Remover

namespace Summary

/-- The counts of some removals. -/
def ofAll (removals : List Removal) : Summary := removals.foldl record {}

theorem record_comm (s : Summary) (a b : Removal) :
    (s.record a).record b = (s.record b).record a := by
  simp only [record, Nat.add_right_comm]

theorem ofAll_perm {removals removals' : List Removal} (h : removals.Perm removals') :
    ofAll removals = ofAll removals' :=
  h.foldl_eq' (fun a _ b _ s => record_comm s a b) {}

end Summary

/-- **What came before leaves no trace.** A remover that processes a sequence of files gives
for each of them what the remover just built gives for that file alone, so that the summary
of the files does not depend on their order. A tokenizer that has split any texts splits a
text as a new one does, and adds to its log the entries that the new one records. -/
theorem results_independent_of_history :
    (∀ config fresh, Remover.make config = .ok fresh → ∀ files : List File,
      (fresh.processAll files).1 =
        files.map (fun file => (fresh.process file.content file.extension).1) ∧
      ∀ files' : List File, files.Perm files' →
        Summary.ofAll (fresh.processAll files).1 = Summary.ofAll (fresh.processAll files').1) ∧
    ∀ (o : Options) (texts : List (List Char)) (content : List Char),
      let used := (Tokenizer.new o).tokenizeAll texts
      let fresh := (Tokenizer.new o).tokenize content
      (used.tokenize content).1 = fresh.1 ∧
      (used.tokenize content).2.log.errors = used.log.errors ++ fresh.2.log.errors ∧
      (used.tokenize content).2.log.warnings = used.log.warnings ++ fresh.2.log.warnings := by
  constructor
  · intro config fresh _ files
    refine ⟨fresh.processAll_fst files, fun files' hPerm => ?_⟩
    rw [fresh.processAll_fst, fresh.processAll_fst]
    exact Summary.ofAll_perm (hPerm.map _)
  · intro o texts content used fresh
    -- A tokenization adds to the log and reads nothing from it.
    have hUsed : used.tokenize content = (fresh.1, fresh.2.after used.log) :=
      Tokenizer.tokenize_used (Tokenizer.settings_tokenizeAll texts)
    rw [hUsed]
    exact ⟨rfl, rfl, rfl⟩

/-- A file that ends inside of a comment, and one with a string that the line end breaks: each
gives what it gives alone, and the summary is that of the files in the other order. -/
theorem results_independent_of_malformed_files :
    ∃ fresh, Remover.make {} = .ok fresh ∧
      [⟨['/', '*'], "js"⟩, ⟨['\'', '\n'], "js"⟩].Perm
        [⟨['\'', '\n'], "js"⟩, (⟨['/', '*'], "js"⟩ : File)] ∧
      (fresh.processAll [⟨['/', '*'], "js"⟩, ⟨['\'', '\n'], "js"⟩]).1 =
        [(fresh.process ['/', '*'] "js").1, (fresh.process ['\'', '\n'] "js").1] ∧
      Summary.ofAll (fresh.processAll [⟨['/', '*'], "js"⟩, ⟨['\'', '\n'], "js"⟩]).1 =
        Summary.ofAll (fresh.processAll [⟨['\'', '\n'], "js"⟩, ⟨['/', '*'], "js"⟩]).1 := by
  have hPerm : [⟨['/', '*'], "js"⟩, ⟨['\'', '\n'], "js"⟩].Perm
      [⟨['\'', '\n'], "js"⟩, (⟨['/', '*'], "js"⟩ : File)] := List.Perm.swap ..
  have hMake : ∃ fresh, Remover.make {} = .ok fresh := ⟨_, rfl⟩
  obtain ⟨fresh, hMake⟩ := hMake
  obtain ⟨hAlone, hOrder⟩ := results_independent_of_history.1 {} fresh hMake
    [⟨['/', '*'], "js"⟩, ⟨['\'', '\n'], "js"⟩]
  exact ⟨fresh, hMake, hPerm, hAlone, hOrder _ hPerm⟩

end CommentSieve
