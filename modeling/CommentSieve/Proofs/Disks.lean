import CommentSieve.Files.Tree
import CommentSieve.Files.Walk

/-!
# Disks that behave

What a program may rely on when it works with files: looking at them changes nothing, and
writing one leaves all others as they were. The tree in memory is such a disk, and finding
files by pattern only looks.

Main results:

* `Glob.looks_find` — a search by pattern leaves the disk as it was.
* `Tree.disk_lawful` — a tree in memory obeys the laws of a disk.
-/

namespace CommentSieve.Files

/-! ## Computations that only look -/

theorem bind_of_eq {σ α β : Type} {x : StateM σ α} {f : α → StateM σ β} {s s' : σ} {a : α}
    (hx : x s = (a, s')) : (x >>= f) s = f a s' := by
  show f (x s).1 (x s).2 = f a s'
  rw [hx]

/-- A computation that leaves the state as it was. -/
structure Looks {σ α : Type} (x : StateM σ α) : Prop where
  state_eq (s : σ) : (x s).2 = s

namespace Looks

variable {σ α β : Type} {x : StateM σ α} {f : α → StateM σ β}

theorem pure (a : α) : Looks (Pure.pure a : StateM σ α) := ⟨fun _ => rfl⟩

theorem bind_eq (hx : Looks x) (s : σ) : (x >>= f) s = f (x s).1 s :=
  bind_of_eq (Prod.ext rfl (hx.state_eq s))

theorem bind (hx : Looks x) (hf : ∀ a, Looks (f a)) : Looks (x >>= f) := by
  refine ⟨fun s => ?_⟩
  rw [hx.bind_eq]
  exact (hf _).state_eq s

/-- A choice between two steps that look only is one that looks only. -/
theorem ite {c : Prop} [Decidable c] {y : StateM σ α} (hx : Looks x) (hy : Looks y) :
    Looks (if c then x else y) := by
  split
  · exact hx
  · exact hy

end Looks

/-! ## What a program relies on -/

/-- A disk that behaves: looking changes nothing, a file that was written holds what was
written, and everything else stays as it was. `leads` says where a path leads; two paths can
lead to one file. Nothing is said about when reading or writing fails. -/
structure Disk.Lawful {σ ι : Type} (d : Disk (StateM σ)) (leads : σ → Path → ι) : Prop where
  status_looks (p : Path) : Looks (d.status p)
  list_looks (p : Path) : Looks (d.list p)
  read_looks (p : Path) : Looks (d.read p)
  leads_write {s : σ} {p : Path} (hFile : (d.status p s).1 = some .file) (content : List Char) :
    leads (d.write p content s).2 = leads s
  status_write {s : σ} {p : Path} (hFile : (d.status p s).1 = some .file) (content : List Char)
    (q : Path) : (d.status q (d.write p content s).2).1 = (d.status q s).1
  read_written {s : σ} {p : Path} (hFile : (d.status p s).1 = some .file) {content : List Char}
    (hOk : (d.write p content s).1 = .ok ()) :
    (d.read p (d.write p content s).2).1 = .ok (.text content)
  read_elsewhere {s : σ} {p q : Path} (hFile : (d.status p s).1 = some .file)
    (hOther : leads s q ≠ leads s p) (content : List Char) :
    (d.read q (d.write p content s).2).1 = (d.read q s).1

namespace Disk.Lawful

variable {σ ι : Type} {d : Disk (StateM σ)} {leads : σ → Path → ι} (h : d.Lawful leads)

include h

theorem isDirectory_looks (p : Path) : Looks (d.isDirectory p) :=
  (h.status_looks p).bind fun _ => .pure _

theorem isFile_looks (p : Path) : Looks (d.isFile p) := (h.status_looks p).bind fun _ => .pure _

theorem exists_looks (p : Path) : Looks (d.exists? p) := (h.status_looks p).bind fun _ => .pure _

theorem isFile_eq (p : Path) (s : σ) : (d.isFile p s).1 = ((d.status p s).1 == some .file) := by
  rw [isFile, (h.status_looks p).bind_eq]
  rfl

end Disk.Lawful

/-! ## Searching only looks -/

namespace Glob

variable {σ ι : Type} {d : Disk (StateM σ)} {leads : σ → Path → ι}

theorem looks_collect {α β : Type} {search : α → StateM σ (List β)} (h : ∀ a, Looks (search a)) :
    ∀ as, Looks (collect search as)
  | [] => .pure _
  | a :: as => (h a).bind fun _ => (looks_collect h as).bind fun _ => .pure _

/-- With enough fuel or without, no part of a search changes the disk. -/
theorem looks_search (h : d.Lawful leads) (onlyDirectories : Bool) (fuel : Nat) :
    (∀ parts path, Looks (below d onlyDirectories fuel parts path)) ∧
    (∀ parts path, Looks (onward d onlyDirectories fuel parts path)) ∧
    ∀ parts path, Looks (visit d onlyDirectories fuel parts path) := by
  induction fuel with
  | zero =>
    refine ⟨fun parts path => ?_, fun parts path => ?_, fun parts path => ?_⟩
    · rw [below]; exact .pure _
    · rw [onward]; exact .pure _
    · rw [visit]; exact .pure _
  | succ fuel ih =>
    obtain ⟨hBelow, hOnward, hVisit⟩ := ih
    refine ⟨fun parts path => ?_, fun parts path => ?_, fun parts path => ?_⟩
    · cases parts with
      | nil => rw [below]; exact .pure _
      | cons part parts =>
        rw [below]
        refine (h.isDirectory_looks path).bind fun isDirectory => ?_
        dsimp only
        split
        · split
          · exact .bind (.pure _) fun _ => .ite (hOnward ..) (.pure _)
          · exact .bind (h.exists_looks _) fun _ => .ite (hOnward ..) (.pure _)
        · refine .ite (.pure _) ((h.list_looks path).bind fun names? => ?_)
          split
          · exact .pure _
          · refine (looks_collect (fun _ => hOnward ..) _).bind fun _ => ?_
            exact (looks_collect (fun _ => hVisit ..) _).bind fun _ => .pure _
    · cases parts with
      | nil =>
        rw [onward]
        exact .ite ((h.isDirectory_looks path).bind fun _ => .pure _) (.pure _)
      | cons part parts =>
        rw [onward]
        · exact hBelow ..
        · simp
    · rw [visit]
      dsimp only
      split
      rotate_left
      refine (h.isDirectory_looks path).bind fun isDirectory =>
        .ite (.ite (.bind (.pure _) fun _ => (hBelow ..).bind fun _ => .pure _)
          (.bind ?_ fun _ => (hBelow ..).bind fun _ => .pure _)) (.ite (.pure _) ?_)
      -- What is left in all cases is the comparison with the first part that is not `**`.
      all_goals
        split
        · exact .ite (hOnward ..) (.pure _)
        · exact .pure _

/-- A search by pattern leaves the disk as it was. -/
theorem looks_find (h : d.Lawful leads) (p : PathPattern) : Looks (find d p) :=
  (looks_search h ..).1 ..

end Glob

/-! ## A tree in memory -/

namespace Tree

/-- The tree with other content in the file of a name. -/
def replace (t : Tree) (names : List (List Char)) (content : List Char) : Tree :=
  { t with files := t.files.map fun (other, body) =>
      if other == names then (other, .text content) else (other, body) }

/-- Replacing a content leaves all other files as they are. -/
theorem lookup_replace (t : Tree) (names other : List (List Char)) (content : List Char) :
    (t.replace names content).files.lookup other =
      if other = names then (t.files.lookup other).map fun _ => .text content
      else t.files.lookup other := by
  obtain ⟨files, directories⟩ := t
  show (files.map _).lookup other = _
  induction files with
  | nil => simp
  | cons file files ih =>
    obtain ⟨key, body⟩ := file
    rw [List.map_cons]
    by_cases hKey : other = key
    · subst hKey
      by_cases hName : other = names <;> simp [hName]
    · -- Whatever the first file holds, its name is not the one looked for.
      have hSkip : ∀ (body' : Body) rest,
          List.lookup other ((key, body') :: rest) = rest.lookup other := by
        intro body' rest
        rw [List.lookup_cons, beq_false_of_ne hKey]
      dsimp only
      split <;> simpa only [hSkip] using ih

/-- Nothing comes to be where nothing was, and files stay files. -/
theorem status_replace (t : Tree) (names : List (List Char)) (content : List Char) :
    (t.replace names content).lookup = t.lookup := by
  funext place
  cases place with
  | above => rfl
  | outside other => rfl
  | inside other =>
    have hSome : ((t.replace names content).files.lookup other).isSome =
        (t.files.lookup other).isSome := by
      rw [lookup_replace]
      split
      · exact Option.isSome_map
      · rfl
    simp only [lookup, hSome]
    rfl

/-- Replacing what a file holds leaves paths leading where they led. -/
theorem resolve_replace (t : Tree) (names : List (List Char)) (content : List Char) :
    (t.replace names content).resolve = t.resolve := by
  have hFollow : ∀ (parts : List (List Char)) (place : Place),
      (t.replace names content).follow place parts = t.follow place parts := by
    intro parts
    induction parts with
    | nil => exact fun _ => rfl
    | cons part parts ih =>
      intro place
      simp only [follow, status_replace, ih]
  funext p
  simp only [resolve, hFollow, status_replace]

/-- Only names below the current directory lead to files. -/
theorem inside_of_resolve {t : Tree} {p : Path} {place : Place}
    (h : t.resolve p = .ok (place, .file)) :
    ∃ names body, place = .inside names ∧ t.files.lookup names = some body := by
  -- Resolving ends with a look at the place that was reached.
  have hThere : t.lookup place = some .file := by
    unfold resolve at h
    split at h
    · cases h
    · split at h
      · cases h
      · cases hFollow : t.follow (if p.isAbsolute then .outside [] else .inside []) p.split with
        | error trouble =>
          rw [hFollow] at h
          cases h
        | ok reached =>
          rw [hFollow] at h
          simp only [bind, Except.bind] at h
          split at h
          · rename_i hLookup
            cases h
            exact hLookup
          · cases h
  cases place with
  | above => cases hThere
  | outside names =>
    simp only [lookup] at hThere
    split at hThere
    · cases hThere
    · split at hThere <;> cases hThere
  | inside names =>
    -- Of all places only one inside of the tree can be a file.
    simp only [lookup] at hThere
    split at hThere
    · cases hThere
    · split at hThere
      · rename_i hSome
        obtain ⟨body, hBody⟩ := Option.isSome_iff_exists.mp hSome
        exact ⟨names, body, rfl, hBody⟩
      · cases hThere

/-- The status of a path is that of the place that it leads to. -/
theorem disk_status (t : Tree) (p : Path) :
    disk.status p t = (match t.resolve p with
      | .ok (_, status) => some status
      | .error _ => none, t) := by
  show (match t.resolve p with
    | .ok (_, status) => (pure (some status) : StateM Tree (Option Status))
    | .error _ => pure none) t = _
  cases t.resolve p <;> rfl

/-- Directories list what is in them, and nothing else is listed. -/
theorem disk_list (t : Tree) (p : Path) :
    disk.list p t = (match t.resolve p with
      | .ok (place, .directory) => some (t.children place)
      | _ => none, t) := by
  show (match t.resolve p with
    | .ok (place, .directory) => (pure (some (t.children place)) : StateM Tree _)
    | _ => pure none) t = _
  split <;> simp_all <;> rfl

theorem disk_read (t : Tree) (p : Path) : disk.read p t = (t.read p, t) := rfl

/-- Writing succeeds or leaves the tree as it is. -/
theorem disk_write (t : Tree) (p : Path) (content : List Char) :
    disk.write p content t = (match t.write p content with
      | .ok t' => (.ok (), t')
      | .error trouble => (.error trouble, t)) := by
  show (match t.write p content with
    | .ok t' => (do set t'; return .ok () : StateM Tree (Except Trouble Unit))
    | .error trouble => pure (.error trouble)) t = _
  cases t.write p content <;> rfl

/-- A file can always be written. -/
theorem disk_write_file {t : Tree} {p : Path} (h : (disk.status p t).1 = some .file)
    (content : List Char) :
    ∃ names body, t.resolve p = .ok (.inside names, .file) ∧
      t.files.lookup names = some body ∧
      disk.write p content t = (.ok (), t.replace names content) := by
  rw [disk_status] at h
  cases hResolve : t.resolve p with
  | error trouble =>
    rw [hResolve] at h
    cases h
  | ok found =>
    obtain ⟨place, status⟩ := found
    rw [hResolve] at h
    obtain rfl : status = .file := Option.some.inj h
    obtain ⟨names, body, rfl, hBody⟩ := inside_of_resolve hResolve
    refine ⟨names, body, rfl, hBody, ?_⟩
    rw [disk_write, write, hResolve]
    rfl

/-- A path that leads to a file is read as its body. -/
theorem read_of_resolve {t : Tree} {p : Path} {names : List (List Char)} {body : Body}
    (h : t.resolve p = .ok (.inside names, .file)) (hBody : t.files.lookup names = some body) :
    t.read p = .ok body := by
  rw [read, h]
  simp only [bind, Except.bind, hBody]
  rfl

/-- Reading goes by where a path leads, and sees no file but that one. -/
theorem read_replace_of_ne {t : Tree} {q : Path} {names : List (List Char)}
    (h : t.resolve q ≠ .ok (.inside names, .file)) (content : List Char) :
    (t.replace names content).read q = t.read q := by
  rw [read, read, resolve_replace]
  cases hResolve : t.resolve q with
  | error trouble => rfl
  | ok found =>
    obtain ⟨place, status⟩ := found
    cases status with
    | directory => rfl
    | device => cases place <;> rfl
    | file =>
      obtain ⟨other, body, rfl, hBody⟩ := inside_of_resolve hResolve
      have hOther : other ≠ names := by
        rintro rfl
        exact h hResolve
      have hSame : (t.replace names content).files.lookup other = t.files.lookup other := by
        rw [lookup_replace, if_neg hOther]
      simp only [bind, Except.bind, hSame]

/-- **A tree in memory obeys the laws of a disk.** Two paths lead to the same place if they are
resolved in the same way. -/
theorem disk_lawful : disk.Lawful resolve where
  status_looks p := ⟨fun t => by rw [disk_status]⟩
  list_looks p := ⟨fun t => by rw [disk_list]⟩
  read_looks p := ⟨fun _ => rfl⟩
  leads_write hFile content := by
    obtain ⟨names, body, -, -, hWrite⟩ := disk_write_file hFile content
    rw [hWrite, resolve_replace]
  status_write hFile content q := by
    obtain ⟨names, body, -, -, hWrite⟩ := disk_write_file hFile content
    rw [hWrite, disk_status, disk_status, resolve_replace]
  read_written {t p} hFile {content} _ := by
    obtain ⟨names, body, hNames, hBody, hWrite⟩ := disk_write_file hFile content
    rw [hWrite, disk_read]
    refine read_of_resolve ((congrFun (resolve_replace ..) p).trans hNames) ?_
    rw [lookup_replace, if_pos rfl, hBody]
    rfl
  read_elsewhere {t p q} hFile hOther content := by
    obtain ⟨names, body, hNames, -, hWrite⟩ := disk_write_file hFile content
    rw [hWrite, disk_read, disk_read]
    refine read_replace_of_ne (fun hNames' => hOther ?_) content
    rw [hNames, hNames']

end Tree

end CommentSieve.Files
