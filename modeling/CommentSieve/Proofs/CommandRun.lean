import CommentSieve.Command.Run
import CommentSieve.Proofs.Deletion
import CommentSieve.Proofs.Disks
import CommentSieve.Proofs.Reuse

/-!
# What a run does to the files

The program works through the files one after the other, with one remover, on a disk that
changes under it. What comes of a file is nevertheless what a new remover makes of the
content that the file had at the start: the files are distinct, so that writing one does not
show in another, and a remover forgets what it has seen. A file that cannot be read or
written ends the run between two files, and none of those after it has been touched.

Main results:

* `selectFiles_eq` — the files to process: all that were matched and are not left out, each
  at its first match.
* `Stage.step` — what processing one more file does, and the three ways in which it ends.
* `run_processes_each_file` — what a whole run prints, returns and leaves on the disk.
-/

namespace CommentSieve

/-! ## What a result says about its content -/

namespace Remover

/-- A removal says that a text was modified exactly if another text is returned. -/
theorem process_modified (r : Remover) (content : List Char) (extension : String) :
    (r.process content extension).1.modified =
      ((r.process content extension).1.content != content) := by
  rcases r.process_cases content extension with
    ⟨log, -, h⟩ | ⟨errors, warnings, h⟩ | ⟨d, errors, warnings, -, h⟩
  · rw [h]; rfl
  · rw [h]; simp [unmodified]
  · rw [h]; rfl

/-- Where processing failed the text is returned as it was. -/
theorem content_of_failed {r : Remover} {content : List Char} {extension : String}
    (hFailed : (r.process content extension).1.failed = true) :
    (r.process content extension).1.content = content := by
  rcases r.process_cases content extension with
    ⟨log, -, h⟩ | ⟨errors, warnings, h⟩ | ⟨d, errors, warnings, -, h⟩
  · rw [h] at hFailed; cases hFailed
  · rw [h]; rfl
  · rw [h] at hFailed; cases hFailed

end Remover

namespace Summary

/-- The summary counts the failed removals. -/
theorem failed_foldl (removals : List Removal) (s : Summary) :
    (removals.foldl record s).failed = s.failed + removals.countP (·.failed) := by
  induction removals generalizing s with
  | nil => rfl
  | cons r removals ih =>
    rw [List.foldl_cons, ih, List.countP_cons, record]
    cases r.failed
    · simp
    · simp only [Bool.toNat_true, if_true]
      omega

/-- A summary tells of failures if one of its removals has failed. -/
theorem hasFailures_ofAll (removals : List Removal) :
    (ofAll removals).hasFailures = removals.any (·.failed) := by
  rw [Bool.eq_iff_iff, hasFailures, ofAll, failed_foldl, decide_eq_true_iff, List.any_eq_true]
  show 0 < 0 + _ ↔ _
  rw [Nat.zero_add, List.countP_pos_iff]

end Summary

namespace Command

open Files

variable {σ ι : Type} {d : Disk (StateM σ)} {leads : σ → Path → ι} {s : σ}

/-! ## The files to process -/

/-- The paths that patterns lead to, in the order in which they are found. -/
def matched (d : Disk (StateM σ)) (s : σ) (patterns : List Glob.PathPattern) : List Path :=
  patterns.flatMap fun pattern => (Glob.find d pattern s).1

/-- Whether a path leads to a file and is not left out. -/
def isWanted (d : Disk (StateM σ)) (s : σ) (excludes : List (List Glob.Token)) (path : Path) :
    Bool :=
  (d.isFile path s).1 && !excludes.any (Glob.isMatch · path)

/-- The files to process: of paths that are the same only the first is kept. -/
def selection (d : Disk (StateM σ)) (s : σ) (excludes : List (List Glob.Token))
    (patterns : List Glob.PathPattern) : List Path :=
  ((matched d s patterns).filter (isWanted d s excludes)).eraseDupsBy Path.same

/-- From a list of paths the wanted ones are chosen, each once. -/
theorem chooseFiles_eq (hd : d.Lawful leads) (excludes : List (List Glob.Token))
    (chosen paths : List Path) :
    chooseFiles d excludes chosen paths s =
      (List.eraseDupsBy.loop Path.same (paths.filter (isWanted d s excludes)) chosen.reverse,
        s) := by
  induction paths generalizing chosen with
  | nil =>
    rw [chooseFiles, List.filter_nil, List.eraseDupsBy.loop, List.reverse_reverse]
    rfl
  | cons path paths ih =>
    rw [chooseFiles, (hd.isFile_looks path).bind_eq, ih, List.filter_cons]
    have hTake : ((d.isFile path s).1 && !excludes.any (Glob.isMatch · path) &&
        !chosen.any (path.same ·)) = (isWanted d s excludes path && !chosen.any path.same) := rfl
    rw [hTake]
    cases isWanted d s excludes path with
    | false => rfl
    | true =>
      rw [Bool.true_and, if_pos rfl, List.eraseDupsBy.loop, List.any_reverse]
      cases chosen.any path.same <;> simp

/-- Dropping what is the same goes on over a second list from where it has got to. -/
theorem eraseDupsBy_loop_append {α : Type} (r : α → α → Bool) (as as' bs : List α) :
    List.eraseDupsBy.loop r (as ++ as') bs =
      List.eraseDupsBy.loop r as' (List.eraseDupsBy.loop r as bs).reverse := by
  induction as generalizing bs with
  | nil => rw [List.nil_append, List.eraseDupsBy.loop, List.reverse_reverse]
  | cons a as ih =>
    rw [List.cons_append, List.eraseDupsBy.loop, List.eraseDupsBy.loop]
    split
    · exact ih _
    · exact ih _

/-- The files chosen by patterns are the distinct ones among the paths that the patterns match. -/
theorem chooseByPatterns_eq (hd : d.Lawful leads) (excludes : List (List Glob.Token))
    {texts : List String} {patterns : List Glob.PathPattern}
    (hPatterns : texts.mapM (fun text => Glob.readPath text.toList) = .ok patterns)
    (chosen : List Path) :
    chooseByPatterns d excludes chosen texts s =
      (.ok (List.eraseDupsBy.loop Path.same
        ((matched d s patterns).filter (isWanted d s excludes)) chosen.reverse), s) := by
  induction texts generalizing patterns chosen with
  | nil =>
    obtain rfl : [] = patterns := Except.ok.inj hPatterns
    rw [chooseByPatterns, matched, List.flatMap_nil, List.filter_nil, List.eraseDupsBy.loop,
      List.reverse_reverse]
    rfl
  | cons text texts ih =>
    rw [List.mapM_cons] at hPatterns
    cases hRead : Glob.readPath text.toList with
    | error misread =>
      rw [hRead] at hPatterns
      cases hPatterns
    | ok pattern =>
      rw [hRead] at hPatterns
      cases hMore : texts.mapM (fun text => Glob.readPath text.toList) with
      | error misread =>
        rw [hMore] at hPatterns
        cases hPatterns
      | ok more =>
        rw [hMore] at hPatterns
        cases hPatterns
        rw [chooseByPatterns, hRead]
        dsimp only
        rw [(Glob.looks_find hd pattern).bind_eq]
        -- Finding the files of one pattern leaves the state, and chooses in front of the others.
        show chooseByPatterns d excludes
          (chooseFiles d excludes chosen (Glob.find d pattern s).1 s).1 texts
          (chooseFiles d excludes chosen (Glob.find d pattern s).1 s).2 = _
        have hMatched : matched d s (pattern :: more) =
            (Glob.find d pattern s).1 ++ matched d s more := List.flatMap_cons
        rw [chooseFiles_eq hd, ih hMore, hMatched, List.filter_append, eraseDupsBy_loop_append]

/-- The files to process are all that were matched and are not left out, each at its first
match. -/
theorem selectFiles_eq (hd : d.Lawful leads) {a : Arguments} {excludes : List (List Glob.Token)}
    {patterns : List Glob.PathPattern} (hExcludes : readExcludes a.excludes = .ok excludes)
    (hPatterns : a.patterns.mapM (fun text => Glob.readPath text.toList) = .ok patterns) :
    selectFiles d a s = (.ok (selection d s excludes patterns), s) := by
  rw [selectFiles, hExcludes]
  exact chooseByPatterns_eq hd excludes hPatterns []

/-- Nothing is chosen that was not in the list or chosen before. -/
theorem mem_of_mem_eraseDupsBy_loop {α : Type} {r : α → α → Bool} {a : α} :
    ∀ {as bs : List α}, a ∈ List.eraseDupsBy.loop r as bs → a ∈ as ∨ a ∈ bs
  | [], bs, h => .inr (List.mem_reverse.mp h)
  | b :: as, bs, h => by
    rw [List.eraseDupsBy.loop] at h
    split at h
    · exact (mem_of_mem_eraseDupsBy_loop h).imp_left (List.mem_cons_of_mem b)
    · rcases mem_of_mem_eraseDupsBy_loop h with hMore | hFirst
      · exact .inl (List.mem_cons_of_mem b hMore)
      · rcases List.mem_cons.mp hFirst with rfl | hEarlier
        · exact .inl List.mem_cons_self
        · exact .inr hEarlier

/-- What is selected is a file. -/
theorem status_of_mem_selection (hd : d.Lawful leads) {excludes : List (List Glob.Token)}
    {patterns : List Glob.PathPattern} {path : Path}
    (h : path ∈ selection d s excludes patterns) : (d.status path s).1 = some .file := by
  have hWanted : path ∈ (matched d s patterns).filter (isWanted d s excludes) :=
    (mem_of_mem_eraseDupsBy_loop h).resolve_right List.not_mem_nil
  have hFile := (Bool.and_eq_true_iff.mp (List.mem_filter.mp hWanted).2).1
  rw [hd.isFile_eq] at hFile
  exact beq_iff_eq.mp hFile

/-- Loading a config leaves the disk as it is. -/
theorem loadConfig_looks (hd : d.Lawful leads) (path : Option String) :
    Looks (loadConfig d path) := by
  cases path with
  | none => exact .pure _
  | some path =>
    refine (hd.read_looks _).bind fun body => ?_
    split
    · exact .pure _
    · exact .pure _
    · exact .pure _

/-! ## What comes of a file -/

/-- The extension of a path, or nothing if there is none. -/
def extensionOf (path : Path) : String := String.ofList (path.extension?.getD [])

/-- What a remover makes of a file, if the file can be read as text. -/
def resultOf (d : Disk (StateM σ)) (s : σ) (r : Remover) (path : Path) :
    Except Trouble Removal :=
  match (d.read path s).1 with
  | .ok (.text content) => .ok (r.process content (extensionOf path)).1
  | .ok (.binary _) => .error .notText
  | .error trouble => .error trouble

/-- A removal is reported for a file that could be read, and for its content. -/
theorem resultOf_eq_ok {r : Remover} {path : Path} {removal : Removal}
    (h : resultOf d s r path = .ok removal) :
    ∃ content, (d.read path s).1 = .ok (.text content) ∧
      removal = (r.process content (extensionOf path)).1 := by
  unfold resultOf at h
  split at h
  · rename_i content hRead
    exact ⟨content, hRead, (Except.ok.inj h).symm⟩
  · cases h
  · cases h

/-- The lines printed about files. -/
def reports (a : Arguments) (done : List (Path × Removal)) : List String :=
  if a.json then done.map fun x => (removalValue (String.ofList x.1) x.2).render else []

/-- The line printed at the end. -/
def lastLine (a : Arguments) (summary : Summary) : String :=
  if a.json then (summaryValue summary).render else summaryLine summary

/-- The report of a removal comes after those of the removals before it. -/
theorem reports_concat (a : Arguments) (done : List (Path × Removal)) (path : Path)
    (removal : Removal) :
    (reports a (done ++ [(path, removal)])).reverse =
      if a.json then (removalValue (String.ofList path) removal).render :: (reports a done).reverse
      else (reports a done).reverse := by
  unfold reports
  cases a.json <;> simp

/-- The disk after some files were processed. In a trial run it is as it was. Otherwise each
of the files holds its new content; and nothing else was touched, but for the file at which
writing failed, if there is one. -/
structure Rewritten (d : Disk (StateM σ)) (leads : σ → Path → ι) (a : Arguments) (s : σ)
    (done : List (Path × Removal)) (broken : Option Path) (s' : σ) : Prop where
  trial : a.dryRun = true → s' = s
  written : a.dryRun = false → ∀ x ∈ done, (d.read x.1 s').1 = .ok (.text x.2.content)
  elsewhere : ∀ q, (∀ x ∈ done, leads s q ≠ leads s x.1) → (∀ p ∈ broken, leads s q ≠ leads s p) →
    (d.read q s').1 = (d.read q s).1

/-- A run between two files. What is left of it: the lines printed, the counts, and a remover
that works like a new one. -/
structure Stage (d : Disk (StateM σ)) (leads : σ → Path → ι) (a : Arguments) (fresh : Remover)
    (s : σ) (done : List (Path × Removal)) (p : Progress) (s' : σ) : Prop where
  remover : ∀ content extension,
    (p.remover.process content extension).1 = (fresh.process content extension).1
  summary : p.summary = Summary.ofAll (done.map (·.2))
  output : p.output = (reports a done).reverse
  results : ∀ x ∈ done, resultOf d s fresh x.1 = .ok x.2
  leads_eq : leads s' = leads s
  status_eq : ∀ q, (d.status q s').1 = (d.status q s).1
  files : Rewritten d leads a s done none s'

/-- Before the first file nothing was done. -/
theorem Stage.start (a : Arguments) (fresh : Remover) :
    Stage d leads a fresh s [] { remover := fresh } s where
  remover _ _ := rfl
  summary := rfl
  output := by simp [reports]
  results x hx := absurd hx List.not_mem_nil
  leads_eq := rfl
  status_eq _ := rfl
  files := ⟨fun _ => rfl, fun _ x hx => absurd hx List.not_mem_nil, fun _ _ _ => rfl⟩

/-- A run after a file was processed and written, or not. -/
def Progress.after (a : Arguments) (p : Progress) (path : Path) (out : Removal × Remover) :
    Except Trouble Unit → Progress × Option Failure
  | .error trouble =>
    ({ p with remover := out.2, summary := p.summary.record out.1 }, some (.writing path trouble))
  | .ok () =>
    ({ remover := out.2
       summary := p.summary.record out.1
       output := if a.json then (removalValue (String.ofList path) out.1).render :: p.output
         else p.output }, none)

/-- A file that holds text is processed, and written if that changes it. -/
theorem processFile_text (hd : d.Lawful leads) (a : Arguments) (p : Progress) {path : Path}
    {content : List Char} (hRead : (d.read path s).1 = .ok (.text content)) :
    let out := p.remover.process content (extensionOf path)
    processFile d a p path s =
      if out.1.modified && !a.dryRun then
        (p.after a path out (d.write path out.1.content s).1, (d.write path out.1.content s).2)
      else (p.after a path out (.ok ()), s) := by
  intro out
  rw [processFile, (hd.read_looks path).bind_eq, hRead]
  -- Whether the file was written or not, the run goes on in the same way.
  have hAfter : ∀ (w : Except Trouble Unit) (s' : σ),
      ((match w with
        | .error trouble =>
          pure ({ p with remover := out.2, summary := p.summary.record out.1 },
            some (Failure.writing path trouble))
        | .ok () =>
          if a.json then
            pure ({ remover := out.2, summary := p.summary.record out.1, output :=
              (removalValue (String.ofList path) out.1).render :: p.output }, none)
          else pure ({ p with remover := out.2, summary := p.summary.record out.1 }, none) :
            StateM σ (Progress × Option Failure)) s') = (p.after a path out w, s') := by
    intro w s'
    cases w with
    | error trouble => rfl
    | ok u =>
      unfold Progress.after
      cases a.json <;> rfl
  by_cases hWrite : (out.1.modified && !a.dryRun) = true
  · rw [if_pos hWrite, ← hAfter]
    exact congrFun (if_pos hWrite) s
  · rw [if_neg hWrite, ← hAfter]
    exact congrFun (if_neg hWrite) s

/-! ## One more file -/

section

variable {a : Arguments} {fresh : Remover} {done : List (Path × Removal)} {s' : σ} {path : Path}

/-- Writing to a file that was not written to before rewrites that file only. -/
theorem Rewritten.write (hd : d.Lawful leads) (h : Rewritten d leads a s done none s')
    (hLeads : leads s' = leads s) (hFile : (d.status path s').1 = some .file)
    (hNew : ∀ x ∈ done, leads s path ≠ leads s x.1) (hWrites : a.dryRun = false)
    (content : List Char) :
    Rewritten d leads a s done (some path) (d.write path content s').2 where
  trial hTrial := absurd (hWrites.symm.trans hTrial) Bool.false_ne_true
  written _ x hx := by
    have hOther : leads s' x.1 ≠ leads s' path := by
      rw [hLeads]
      exact (hNew x hx).symm
    rw [hd.read_elsewhere hFile hOther]
    exact h.written hWrites x hx
  elsewhere q hDone hBroken := by
    have hOther : leads s' q ≠ leads s' path := by
      rw [hLeads]
      exact hBroken path rfl
    rw [hd.read_elsewhere hFile hOther]
    exact h.elsewhere q hDone fun _ hp => nomatch hp

/-- A file counts as processed once it holds its new content. -/
theorem Rewritten.concat {removal : Removal} (h : Rewritten d leads a s done (some path) s')
    (hHolds : a.dryRun = false → (d.read path s').1 = .ok (.text removal.content)) :
    Rewritten d leads a s (done ++ [(path, removal)]) none s' where
  trial := h.trial
  written hWrites x hx := by
    rcases List.mem_append.mp hx with hEarlier | hLast
    · exact h.written hWrites x hEarlier
    · obtain rfl := List.mem_singleton.mp hLast
      exact hHolds hWrites
  elsewhere q hDone _ := by
    refine h.elsewhere q (fun x hx => hDone x (List.mem_append_left _ hx)) fun p hp => ?_
    obtain rfl : path = p := Option.some.inj hp
    exact hDone (path, removal) (List.mem_append_right _ List.mem_cons_self)

/-- A file that may have been written to need not have been. -/
theorem Rewritten.mono (h : Rewritten d leads a s done none s') :
    Rewritten d leads a s done (some path) s' where
  trial := h.trial
  written := h.written
  elsewhere q hDone _ := h.elsewhere q hDone fun _ hp => nomatch hp

/-- What a file that was processed adds to a run. -/
theorem Stage.concat {p : Progress} {s₁ : σ} {out : Removal × Remover} {content : List Char}
    (h : Stage d leads a fresh s done p s')
    (hOut : out = p.remover.process content (extensionOf path))
    (hResult : resultOf d s fresh path = .ok out.1) (hLeads : leads s₁ = leads s')
    (hStatus : ∀ q, (d.status q s₁).1 = (d.status q s').1)
    (hFiles : Rewritten d leads a s (done ++ [(path, out.1)]) none s₁) :
    Stage d leads a fresh s (done ++ [(path, out.1)]) (p.after a path out (.ok ())).1 s₁ where
  remover text extension := by
    -- A remover that has been used answers like the one before.
    show (out.2.process text extension).1 = _
    rw [hOut, Remover.process_reused]
    exact h.remover text extension
  summary := by
    rw [List.map_append, Summary.ofAll, List.foldl_append, ← Summary.ofAll, ← h.summary]
    rfl
  output := by
    rw [reports_concat, ← h.output]
    rfl
  results x hx := by
    rcases List.mem_append.mp hx with hEarlier | hLast
    · exact h.results x hEarlier
    · obtain rfl := List.mem_singleton.mp hLast
      exact hResult
  leads_eq := hLeads.trans h.leads_eq
  status_eq q := (hStatus q).trans (h.status_eq q)
  files := hFiles

/-- **One more file.** It is processed as by a new remover, from the content that it had at the
start; or it cannot be read, and the run ends before it; or it cannot be written. -/
theorem Stage.step (hd : d.Lawful leads) {p : Progress}
    (h : Stage d leads a fresh s done p s') (hFile : (d.status path s).1 = some .file)
    (hNew : ∀ x ∈ done, leads s path ≠ leads s x.1) :
    (∃ removal p₁ s₁, processFile d a p path s' = ((p₁, none), s₁) ∧
      Stage d leads a fresh s (done ++ [(path, removal)]) p₁ s₁) ∨
    (∃ trouble, resultOf d s fresh path = .error trouble ∧
      processFile d a p path s' = ((p, some (.reading path trouble)), s')) ∨
    ∃ removal trouble p₁ s₁, a.dryRun = false ∧ resultOf d s fresh path = .ok removal ∧
      d.write path removal.content s' = (.error trouble, s₁) ∧ p₁.output = p.output ∧
      processFile d a p path s' = ((p₁, some (.writing path trouble)), s₁) ∧
      Rewritten d leads a s done (some path) s₁ := by
  -- Nothing was written to the file before, so that it holds what it held at the start.
  have hSame : (d.read path s').1 = (d.read path s).1 :=
    h.files.elsewhere path hNew fun _ hp => nomatch hp
  have hFile' : (d.status path s').1 = some .file := (h.status_eq path).trans hFile
  cases hRead : (d.read path s).1 with
  | error trouble =>
    refine .inr (.inl ⟨trouble, by rw [resultOf, hRead], ?_⟩)
    rw [processFile, (hd.read_looks path).bind_eq, hSame, hRead]
    rfl
  | ok body =>
    cases body with
    | binary bytes =>
      refine .inr (.inl ⟨.notText, by rw [resultOf, hRead], ?_⟩)
      rw [processFile, (hd.read_looks path).bind_eq, hSame, hRead]
      rfl
    | text content =>
      have hProcess := processFile_text hd a p (hSame.trans hRead)
      generalize hOut : p.remover.process content (extensionOf path) = out at hProcess
      have hResult : resultOf d s fresh path = .ok out.1 := by
        rw [resultOf, hRead, ← hOut, h.remover]
      dsimp only at hProcess
      split at hProcess
      · rename_i hModified
        have hWrites : a.dryRun = false := by simpa using (Bool.and_eq_true_iff.mp hModified).2
        have hRest := h.files.write hd h.leads_eq hFile' hNew hWrites out.1.content
        cases hWrite : (d.write path out.1.content s').1 with
        | error trouble =>
          rw [hWrite] at hProcess
          exact .inr (.inr ⟨out.1, trouble, (p.after a path out (.error trouble)).1, _, hWrites,
            hResult, Prod.ext hWrite rfl, rfl, hProcess, hRest⟩)
        | ok u =>
          rw [hWrite] at hProcess
          refine .inl ⟨out.1, _, _, hProcess, h.concat hOut.symm hResult
            (hd.leads_write hFile' _) (hd.status_write hFile' _) (hRest.concat fun _ => ?_)⟩
          exact hd.read_written hFile' hWrite
      · rename_i hModified
        refine .inl ⟨out.1, _, _, hProcess, h.concat hOut.symm hResult rfl (fun _ => rfl)
          (h.files.mono.concat fun hWrites => ?_)⟩
        -- The file was not changed, so that it need not be written.
        have hUnchanged : out.1.content = content := by
          have hContent := p.remover.process_modified content (extensionOf path)
          rw [hOut] at hContent
          simpa [hContent, hWrites] using hModified
        rw [hSame, hRead, hUnchanged]

/-! ## A whole run -/

/-- How a run over files can end, when those in `done` were processed: with the last of them;
or at a file that cannot be read, the first of those in `rest`; or at a file that cannot be
written, which comes before `rest`. -/
inductive Ending (d : Disk (StateM σ)) (a : Arguments) (fresh : Remover) (s : σ)
    (done : List (Path × Removal)) : Option Path → List Path → Outcome → σ → Prop
  | finished {s' : σ} :
    Ending d a fresh s done none []
      { code := if done.any (·.2.failed) then 1 else 0
        output := reports a done ++ [lastLine a (Summary.ofAll (done.map (·.2)))] } s'
  | unreadable {path : Path} {trouble : Trouble} {rest : List Path} {s' : σ}
    (hResult : resultOf d s fresh path = .error trouble) :
    Ending d a fresh s done none (path :: rest)
      (failed (reports a done) (.reading path trouble)) s'
  | unwritable {path : Path} {removal : Removal} {trouble : Trouble} {rest : List Path}
    {s₁ s' : σ} (hWrites : a.dryRun = false) (hResult : resultOf d s fresh path = .ok removal)
    (hWrite : d.write path removal.content s₁ = (.error trouble, s')) :
    Ending d a fresh s done (some path) rest
      (failed (reports a done) (.writing path trouble)) s'

/-- The outcome of a run after its last file. -/
def conclude (a : Arguments) : Progress × Option Failure → Outcome
  | (p, none) => finished a p
  | (p, some failure) => failed p.output.reverse failure

/-- What is shown at the end sums up the removals that were done. -/
theorem Stage.finished {p : Progress} (h : Stage d leads a fresh s done p s') :
    Command.finished a p =
      { code := if done.any (·.2.failed) then 1 else 0
        output := reports a done ++ [lastLine a (Summary.ofAll (done.map (·.2)))] } := by
  rw [Command.finished, h.summary, h.output, Summary.hasFailures_ofAll, List.any_map,
    List.reverse_cons, List.reverse_reverse]
  rfl

/-- Files are processed one after the other, up to the first failure. -/
theorem processFiles_cons (p : Progress) (paths : List Path) :
    processFiles d a p (path :: paths) s' =
      match processFile d a p path s' with
      | ((p₁, none), s₁) => processFiles d a p₁ paths s₁
      | ((p₁, some failure), s₁) => ((p₁, some failure), s₁) := by
  rcases hFile : processFile d a p path s' with ⟨⟨p₁, _ | failure⟩, s₁⟩
  · rw [processFiles, bind_of_eq hFile]
  · rw [processFiles, bind_of_eq hFile]
    rfl

/-- A run over files processes them in order, up to its end or to the first that cannot be
read or written. -/
theorem Stage.run (hd : d.Lawful leads) {p : Progress} {paths : List Path}
    (h : Stage d leads a fresh s done p s')
    (hFiles : ∀ path ∈ paths, (d.status path s).1 = some .file)
    (hDistinct : (done.map (·.1) ++ paths).Pairwise (leads s · ≠ leads s ·)) :
    ∃ more broken rest, paths = more.map (·.1) ++ broken.toList ++ rest ∧
      (∀ x ∈ done ++ more, resultOf d s fresh x.1 = .ok x.2) ∧
      Rewritten d leads a s (done ++ more) broken (processFiles d a p paths s').2 ∧
      Ending d a fresh s (done ++ more) broken rest (conclude a (processFiles d a p paths s').1)
        (processFiles d a p paths s').2 := by
  induction paths generalizing done p s' with
  | nil =>
    refine ⟨[], none, [], rfl, ?_⟩
    rw [List.append_nil]
    refine ⟨h.results, h.files, ?_⟩
    show Ending d a fresh s done none [] (Command.finished a p) s'
    rw [h.finished]
    exact .finished
  | cons path paths ih =>
    have hNew : ∀ x ∈ done, leads s path ≠ leads s x.1 := by
      intro x hx
      exact ((List.pairwise_append.mp hDistinct).2.2 x.1 (List.mem_map_of_mem hx) path
        List.mem_cons_self).symm
    have hFile := hFiles path List.mem_cons_self
    rcases h.step hd hFile hNew with
      ⟨removal, p₁, s₁, hProcess, hStage⟩ | ⟨trouble, hResult, hProcess⟩ |
      ⟨removal, trouble, p₁, s₁, hWrites, hResult, hWrite, hOutput, hProcess, hRest⟩
    · -- The file joins those that were processed, and the run goes on from there.
      have hRun : processFiles d a p (path :: paths) s' = processFiles d a p₁ paths s₁ := by
        rw [processFiles_cons, hProcess]
      have hDistinct' : ((done ++ [(path, removal)]).map (·.1) ++ paths).Pairwise
          (leads s · ≠ leads s ·) := by simpa using hDistinct
      obtain ⟨more, broken, rest, hPaths, hResults, hRewritten, hEnding⟩ := ih hStage
        (fun q hq => hFiles q (List.mem_cons_of_mem path hq)) hDistinct'
      refine ⟨(path, removal) :: more, broken, rest, by rw [hPaths]; rfl, ?_⟩
      rw [hRun, List.append_cons]
      exact ⟨hResults, hRewritten, hEnding⟩
    · -- The file cannot be read: it is the first of those that were not touched.
      have hRun : processFiles d a p (path :: paths) s' =
          ((p, some (.reading path trouble)), s') := by
        rw [processFiles_cons, hProcess]
      refine ⟨[], none, path :: paths, rfl, ?_⟩
      rw [hRun, List.append_nil]
      refine ⟨h.results, h.files, ?_⟩
      rw [conclude, h.output, List.reverse_reverse]
      exact .unreadable hResult
    · -- The file cannot be written: nothing is known of its content.
      have hRun : processFiles d a p (path :: paths) s' =
          ((p₁, some (.writing path trouble)), s₁) := by
        rw [processFiles_cons, hProcess]
      refine ⟨[], some path, paths, rfl, ?_⟩
      rw [hRun, List.append_nil]
      refine ⟨h.results, hRest, ?_⟩
      rw [conclude, hOutput, h.output, List.reverse_reverse]
      exact .unwritable hWrites hResult hWrite

end

/-- Once the settings are read and the patterns are right, a run is a run over the files that
were selected. -/
theorem run_eq (hd : d.Lawful leads) {arguments : List String} {a : Arguments}
    (hArguments : Arguments.parse arguments = some a) {config : Config}
    (hConfig : (loadConfig d a.config s).1 = .ok config) {fresh : Remover}
    (hFresh : Remover.make config = .ok fresh) {excludes : List (List Glob.Token)}
    (hExcludes : readExcludes a.excludes = .ok excludes) {patterns : List Glob.PathPattern}
    (hPatterns : a.patterns.mapM (fun text => Glob.readPath text.toList) = .ok patterns) :
    run d arguments s =
      let out := processFiles d a { remover := fresh } (selection d s excludes patterns) s
      (conclude a out.1, out.2) := by
  -- Each of the preparations succeeds, and none of them changes the state.
  rw [run, hArguments]
  dsimp only
  rw [runWith, (loadConfig_looks hd a.config).bind_eq, hConfig]
  dsimp only
  rw [hFresh]
  dsimp only
  rw [bind_of_eq (selectFiles_eq hd hExcludes hPatterns)]
  dsimp only
  rcases hFiles : processFiles d a { remover := fresh } (selection d s excludes patterns) s with
    ⟨⟨p, _ | failure⟩, s'⟩
  · rw [bind_of_eq hFiles]
    rfl
  · rw [bind_of_eq hFiles]
    rfl

/-- **What a run does.** Let all selected files be distinct. A run processes each of them once
and in order, those in `done`, until it comes to a file that cannot be read or written. What
comes of a file is what a new remover makes of the content that it had at the start; unless
it is a trial run, the file then holds the content of this result, which is the old one if
the removal has failed. All other files are as they were, those that the run did not come to
among them. The run ends with code 1 exactly if a removal has failed or a file could not be
read or written. -/
theorem run_processes_each_file (hd : d.Lawful leads) {arguments : List String} {a : Arguments}
    (hArguments : Arguments.parse arguments = some a) {config : Config}
    (hConfig : (loadConfig d a.config s).1 = .ok config) {fresh : Remover}
    (hFresh : Remover.make config = .ok fresh) {excludes : List (List Glob.Token)}
    (hExcludes : readExcludes a.excludes = .ok excludes) {patterns : List Glob.PathPattern}
    (hPatterns : a.patterns.mapM (fun text => Glob.readPath text.toList) = .ok patterns)
    (hDistinct : (selection d s excludes patterns).Pairwise (leads s · ≠ leads s ·)) :
    ∃ outcome s', run d arguments s = (outcome, s') ∧
    ∃ done broken rest,
      selection d s excludes patterns = done.map (·.1) ++ broken.toList ++ rest ∧
      (∀ x ∈ done, resultOf d s fresh x.1 = .ok x.2) ∧
      Rewritten d leads a s done broken s' ∧
      (∀ x ∈ done, x.2.failed = true → (d.read x.1 s').1 = (d.read x.1 s).1) ∧
      (∀ path ∈ rest, (d.read path s').1 = (d.read path s).1) ∧
      Ending d a fresh s done broken rest outcome s' := by
  have hStart : Stage d leads a fresh s [] { remover := fresh } s := .start a fresh
  obtain ⟨done, broken, rest, hSelected, hResults, hFiles, hEnding⟩ := hStart.run hd
    (fun _ hPath => status_of_mem_selection hd hPath) hDistinct
  rw [List.nil_append] at hResults hFiles hEnding
  refine ⟨_, _, run_eq hd hArguments hConfig hFresh hExcludes hPatterns, done, broken, rest,
    hSelected, hResults, hFiles, ?_, ?_, hEnding⟩
  · -- A removal that has failed has the content of its file.
    intro x hx hFailed
    obtain ⟨content, hRead, hRemoval⟩ := resultOf_eq_ok (hResults x hx)
    cases hTrial : a.dryRun with
    | true => rw [hFiles.trial hTrial]
    | false =>
      rw [hFiles.written hTrial x hx, hRead]
      rw [hRemoval] at hFailed ⊢
      rw [Remover.content_of_failed hFailed]
  · -- The files are distinct, so that those left over are not among those touched.
    intro path hPath
    rw [hSelected] at hDistinct
    have hApart := (List.pairwise_append.mp hDistinct).2.2
    refine hFiles.elsewhere path (fun x hx => ?_) fun p hp => ?_
    · exact (hApart x.1 (List.mem_append_left _ (List.mem_map_of_mem hx)) path hPath).symm
    · exact (hApart p (List.mem_append_right _ (Option.mem_toList.mpr hp)) path hPath).symm

/-- A script, and a file that does not hold text. -/
def mixedTree : Tree where
  files := [(["a.js".toList], .text "f()//x".toList), (["b.js".toList], .binary [0xff])]

/-- The run stops at the file that does not hold text, with code 1, and leaves it alone. -/
theorem run_processes_each_file_until_binary :
    ∃ outcome t, run Tree.disk ["a.js", "b.js"] mixedTree = (outcome, t) ∧ outcome.code = 1 ∧
      t.read "b.js".toList = .ok (.binary [0xff]) := by
  obtain ⟨fresh, hFresh⟩ : ∃ fresh, Remover.make {} = .ok fresh := ⟨_, rfl⟩
  obtain ⟨patterns, hPatterns, hSelection⟩ : ∃ patterns,
      ["a.js", "b.js"].mapM (fun text => Glob.readPath text.toList) = .ok patterns ∧
        selection Tree.disk mixedTree [] patterns = ["a.js".toList, "b.js".toList] :=
    ⟨_, rfl, by decide +kernel⟩
  have hDistinct : (selection Tree.disk mixedTree [] patterns).Pairwise
      (mixedTree.resolve · ≠ mixedTree.resolve ·) := by
    rw [hSelection]
    decide +kernel
  have hArguments : Arguments.parse ["a.js", "b.js"] =
      some { patterns := ["a.js", "b.js"] } := by decide +kernel
  have hConfig : (loadConfig Tree.disk none mixedTree).1 = .ok {} := rfl
  have hExcludes : readExcludes [] = .ok [] := rfl
  obtain ⟨outcome, t, hRun, done, broken, rest, hSelected, hResults, -, -, hRest, hEnding⟩ :=
    run_processes_each_file Tree.disk_lawful hArguments hConfig hFresh hExcludes hPatterns
      hDistinct
  have hBinary : mixedTree.read "b.js".toList = .ok (.binary [0xff]) := by decide +kernel
  have hError : resultOf Tree.disk mixedTree fresh "b.js".toList = .error .notText := by
    rw [resultOf, Tree.disk_read, hBinary]
  -- It is neither among the files that were processed nor one that could not be written.
  have hLeft : "b.js".toList ∈ rest := by
    have hMem : "b.js".toList ∈ done.map (·.1) ++ broken.toList ++ rest := by
      rw [← hSelected, hSelection]
      exact List.mem_cons_of_mem _ List.mem_cons_self
    rcases List.mem_append.mp hMem with hEarlier | hLater
    · rcases List.mem_append.mp hEarlier with hDone | hBroken
      · obtain ⟨x, hx, hPath⟩ := List.mem_map.mp hDone
        have hOk := hResults x hx
        rw [hPath, hError] at hOk
        cases hOk
      · cases hEnding with
        | finished => cases hBroken
        | unreadable => cases hBroken
        | unwritable hWrites hOk hWrite =>
          obtain rfl := List.mem_singleton.mp hBroken
          rw [hError] at hOk
          cases hOk
    · exact hLater
  refine ⟨outcome, t, hRun, ?_, (hRest _ hLeft).trans hBinary⟩
  cases hEnding with
  | finished => cases hLeft
  | unreadable => rfl
  | unwritable => rfl

end Command

end CommentSieve
