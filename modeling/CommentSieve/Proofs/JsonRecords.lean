import CommentSieve.Proofs.JsonSkipping
import Mathlib.Data.List.Nodup

/-!
# Reading records

A record is read field by field into one that has its defaults. While this goes on, each field
has the value it is to have if it has been met, and its default if not; since the names of the
fields are distinct and each is met at most once, the order does not matter. Names that are
not fields are skipped with their values.

Main results:

* `members_separated` — what reading some fields and other names does to a record.
* `reads_object` — a text that stands for a record is read as that record.
-/

namespace CommentSieve.Json

variable {σ : Type}

/-- A reader for a field: it sets the field to the value that a text stands for, and leaves
all others alone. -/
structure Member.Implements (m : Member σ) (initial : σ) (fields : List (FieldSpec σ))
    (f : FieldSpec σ) : Prop where
  name_eq : m.name = f.name
  required_eq : m.required = f.default?.isNone
  default_eq : ∀ a ∈ f.default?, f.get initial = a
  reads : ∀ (record : σ) (a : f.Carrier) (t : List Char), f.Spells a t →
    ∃ record', Reads (m.read record) record' t ∧ f.get record' = a ∧
      ∀ g ∈ fields, g.name ≠ f.name → g.get record' = g.get record

/-- Readers for all fields of a record. Together the fields make up the record. -/
structure Implements (initial : σ) (ms : List (Member σ)) (fields : List (FieldSpec σ)) : Prop where
  each : List.Forall₂ (fun m f => m.Implements initial fields f) ms fields
  names : (fields.map (·.name)).Nodup
  ext : ∀ a b : σ, (∀ f ∈ fields, f.get a = f.get b) → a = b

variable {initial r : σ} {ms : List (Member σ)} {fields : List (FieldSpec σ)}

/-! ## Finding the reader for a name -/

/-- Every field is found under its name. -/
theorem find?_of_mem {fs : List (FieldSpec σ)}
    (h : List.Forall₂ (fun m f => m.Implements initial fields f) ms fs)
    (hNames : (fs.map (·.name)).Nodup) {f : FieldSpec σ} (hf : f ∈ fs) :
    ∃ m, ms.find? (·.name == f.name) = some m ∧ m.Implements initial fields f := by
  induction h with
  | nil => cases hf
  | @cons m g ms fs hm _ ih =>
    rw [List.map_cons, List.nodup_cons] at hNames
    rcases List.mem_cons.mp hf with rfl | hMore
    · exact ⟨m, List.find?_cons_of_pos (by simp [hm.name_eq]), hm⟩
    · have hOther : m.name ≠ f.name := by
        rw [hm.name_eq]
        intro hSame
        exact hNames.1 (hSame ▸ List.mem_map_of_mem hMore)
      obtain ⟨m', hFind, hm'⟩ := ih hNames.2 hMore
      refine ⟨m', ?_, hm'⟩
      rw [List.find?_cons_of_neg (by simpa using hOther), hFind]

/-- Nothing is found under another name. -/
theorem find?_of_not_mem (h : Implements initial ms fields) {name : String}
    (hName : ∀ f ∈ fields, f.name ≠ name) : ms.find? (·.name == name) = none := by
  rw [List.find?_eq_none]
  intro m hm
  obtain ⟨f, hf, hReads⟩ := exists_mem_of_forall₂ h.each.flip hm
  rw [beq_iff_eq, hReads.name_eq]
  exact hName f hf

/-! ## One name and its value -/

variable {v w rest input key value part : List Char} {first : Bool} {name : String}

/-- Where the text goes on with a pair, its key is found. -/
theorem nextKey_enters {body : List Char} (hv : IsBlank v)
    (h : Enters (v ++ ('"' :: body ++ rest)) first input) :
    nextKey first input = .ok (some (body ++ rest)) := by
  have hFront : HasFront ('"' :: body) := ⟨_, _, rfl, by decide⟩
  cases h with
  | first =>
    rw [nextKey, skipSpace_eq hv hFront]
    rfl
  | @more u hu =>
    rw [nextKey, skipSpace_blank hu]
    show (if _ then _ else if ',' = ',' then _ else _) = _
    rw [if_neg Bool.false_ne_true, if_pos rfl, skipSpace_eq hv hFront]
    rfl

/-- The name and the colon before a value are read. -/
theorem key_enters (hText : IsText name key) (hPair : IsPair key value part) (hv : IsBlank v)
    (hEnters : Enters (v ++ (part ++ rest)) first input) :
    ∃ text text' w', IsBlank w' ∧ nextKey first input = .ok (some text) ∧
      string text = .ok (name, text') ∧ colon text' = .ok (w' ++ (value ++ rest)) := by
  obtain ⟨body, hBody, rfl⟩ := hText
  obtain ⟨hw, hw'⟩ := hPair
  rename_i w w'
  simp only [List.append_assoc, List.cons_append] at hEnters
  refine ⟨_, _, w', hw', nextKey_enters hv hEnters, string_append hBody _, ?_⟩
  rw [List.nil_append, colon, skipSpace_blank hw]
  rfl

/-- At the brace all pairs have been read. -/
theorem members_close (fuel : Nat) (seen : List String) (record : σ) (hw : IsBlank w) :
    members ms (fuel + 1) first seen record (w ++ '}' :: rest) = .ok (seen, record, rest) := by
  have hNext : nextKey first (w ++ '}' :: rest) = .ok none := by
    rw [nextKey, skipSpace_blank hw]
    rfl
  rw [members, hNext]
  show Except.ok (seen, record, (skipSpace (w ++ '}' :: rest)).drop 1) = _
  rw [skipSpace_blank hw]
  rfl

/-- A record in the middle of being read: the fields that have been met have their values, the
others their defaults. -/
def HalfRead (fields : List (FieldSpec σ)) (initial r : σ) (seen : List String) (record : σ) :
    Prop :=
  ∀ f ∈ fields, f.get record = f.get (if f.name ∈ seen then r else initial)

/-- One name and its value. A field is set, another name is skipped. -/
theorem members_pair (h : Implements initial ms fields) (hFits : Fits fields r name value)
    (hText : IsText name key) (hPair : IsPair key value part) (hv : IsBlank v)
    (hEnters : Enters (v ++ (part ++ rest)) first input) (hRest : EndsNumber rest)
    {seen : List String} {record : σ} (hHalf : HalfRead fields initial r seen record)
    (hOnce : ∀ f ∈ fields, f.name = name → name ∉ seen) (fuel : Nat) :
    ∃ seen' record', HalfRead fields initial r seen' record' ∧
      members ms (fuel + 1) first seen record input = members ms fuel false seen' record' rest ∧
      ∀ f ∈ fields, ∀ names,
        (seen' ++ names).count f.name = (seen ++ name :: names).count f.name := by
  obtain ⟨text, text', w', hw', hNext, hString, hColon⟩ := key_enters hText hPair hv hEnters
  rcases hFits with ⟨f, hf, rfl, hSpells⟩ | ⟨hUnknown, hValue⟩
  · -- A field: it has its value from now on, and the others have what they had.
    obtain ⟨m, hFind, hm⟩ := find?_of_mem h.each h.names hf
    obtain ⟨record', hReads, hGet, hOthers⟩ := hm.reads record (f.get r) value hSpells
    have hSeen := hOnce f hf rfl
    refine ⟨f.name :: seen, record', ?_, ?_, ?_⟩
    · intro g hg
      by_cases hSame : g.name = f.name
      · obtain rfl : g = f := List.inj_on_of_nodup_map h.names hg hf hSame
        rw [hGet, if_pos List.mem_cons_self]
      · rw [hOthers g hg hSame, hHalf g hg]
        simp only [List.mem_cons, hSame, false_or]
    · rw [members, hNext]
      simp only [bind, Except.bind, hString, hFind, hColon, hReads.read_eq w' rest hw' hRest]
      exact if_neg (by simpa using hSeen)
    · intro g hg names
      exact List.perm_middle.symm.count_eq g.name
  · -- Another name: its value is skipped, and nothing is noted.
    refine ⟨seen, record, hHalf, ?_, ?_⟩
    · rw [members, hNext]
      simp only [bind, Except.bind, hString, find?_of_not_mem h hUnknown, hColon,
        skipValue_append hValue hw' hRest]
    · intro g hg names
      rw [List.count_append, List.count_append, List.count_cons_of_ne (hUnknown g hg).symm]

/-! ## All names and values -/

/-- Pairs are read one after the other, known and unknown ones, in any order. -/
theorem members_separated (h : Implements initial ms fields) {parts : List (List Char)}
    {text : List Char} (hSeparated : Separated parts text) {pairs : List (String × List Char)}
    (hParts : List.Forall₂ (fun p part => ∃ key, IsText p.1 key ∧ IsPair key p.2 part) pairs parts)
    (hFits : ∀ p ∈ pairs, Fits fields r p.1 p.2) {seen : List String} {record : σ}
    (hHalf : HalfRead fields initial r seen record)
    (hOnce : ∀ f ∈ fields, (seen ++ pairs.map (·.1)).count f.name ≤ 1) {fuel : Nat}
    (hFuel : text.length < fuel) (hEnters : Enters (text ++ '}' :: rest) first input) :
    ∃ seen' record', members ms fuel first seen record input = .ok (seen', record', rest) ∧
      HalfRead fields initial r seen' record' ∧
      ∀ f ∈ fields, seen'.count f.name = (seen ++ pairs.map (·.1)).count f.name := by
  -- A field that comes next has not been met before, or it would occur twice.
  have hNew : ∀ {p : String × List Char} {pairs : List (String × List Char)} {seen},
      (∀ f ∈ fields, (seen ++ (p :: pairs).map (·.1)).count f.name ≤ 1) →
      ∀ f ∈ fields, f.name = p.1 → p.1 ∉ seen := by
    intro p pairs seen hOnce f hf hName hSeen
    have hCount := hOnce f hf
    rw [← hName] at hSeen
    have hPos := List.count_pos_iff.mpr hSeen
    rw [List.map_cons, List.count_append, hName, List.count_cons_self, ← hName] at hCount
    omega
  induction hSeparated generalizing pairs seen record fuel first input with
  | @one v t w hv hw =>
    obtain ⟨p, _, ⟨key, hText, hPair⟩, hNone, rfl⟩ := List.forall₂_cons_right_iff.mp hParts
    obtain rfl := List.forall₂_nil_right_iff.mp hNone
    have hPos : 0 < t.length := by
      cases hPair
      simp only [List.length_append, List.length_cons]
      omega
    simp only [List.append_assoc] at hEnters
    simp only [List.length_append] at hFuel
    obtain ⟨fuel, rfl⟩ : ∃ n, fuel = n + 2 := ⟨fuel - 2, by omega⟩
    obtain ⟨seen₁, record₁, hHalf₁, hMembers, hCount⟩ := members_pair h
      (hFits p List.mem_cons_self) hText hPair hv hEnters
      (endsNumber_blank hw (endsNumber_of_mem (by decide) rest)) hHalf (hNew hOnce) (fuel + 1)
    refine ⟨seen₁, record₁, ?_, hHalf₁, fun f hf => ?_⟩
    · rw [hMembers, members_close _ _ _ hw]
    · rw [← List.append_nil seen₁, hCount f hf]
      rfl
  | @more v t w text ts hv hw hMore ih =>
    obtain ⟨p, pairs, ⟨key, hText, hPair⟩, hTail, rfl⟩ := List.forall₂_cons_right_iff.mp hParts
    simp only [List.append_assoc, List.cons_append] at hEnters
    simp only [List.length_append, List.length_cons] at hFuel
    obtain ⟨fuel, rfl⟩ : ∃ n, fuel = n + 1 := ⟨fuel - 1, by omega⟩
    obtain ⟨seen₁, record₁, hHalf₁, hMembers, hCount⟩ := members_pair h
      (hFits p List.mem_cons_self) hText hPair hv hEnters
      (endsNumber_blank hw (endsNumber_of_mem (by decide) _)) hHalf (hNew hOnce) fuel
    have hOnce₁ : ∀ f ∈ fields, (seen₁ ++ pairs.map (·.1)).count f.name ≤ 1 := by
      intro f hf
      rw [hCount f hf]
      exact hOnce f hf
    have hLeft : text.length < fuel := by omega
    obtain ⟨seen₂, record₂, hRest, hHalf₂, hCount₂⟩ := ih hTail
      (fun p hp => hFits p (List.mem_cons_of_mem _ hp)) hHalf₁ hOnce₁ hLeft (.more hw)
    refine ⟨seen₂, record₂, hMembers.trans hRest, hHalf₂, fun f hf => ?_⟩
    rw [hCount₂ f hf, hCount f hf]
    rfl

/-- Between its braces a record is read to its end: what was met are the names listed. -/
theorem members_enclosed (h : Implements initial ms fields) {pairs : List (String × List Char)}
    {parts : List (List Char)} {t : List Char} (hLists : Lists fields r pairs)
    (hParts : List.Forall₂ (fun p part => ∃ key, IsText p.1 key ∧ IsPair key p.2 part) pairs parts)
    (ht : Enclosed '{' '}' parts t) (rest : List Char) :
    ∃ text seen record, t ++ rest = '{' :: text ∧
      members ms (text.length + 1) true [] initial text = .ok (seen, record, rest) ∧
      HalfRead fields initial r seen record ∧
      ∀ f ∈ fields, f.name ∈ seen ↔ f.name ∈ pairs.map (·.1) := by
  -- Before the first pair no field has been seen, and the record is the initial one.
  have hStart : HalfRead fields initial r [] initial := by
    intro f _
    rw [if_neg List.not_mem_nil]
  cases ht with
  | @none w hw =>
    obtain rfl := List.forall₂_nil_right_iff.mp hParts
    refine ⟨w ++ '}' :: rest, [], initial, ?_, members_close _ _ _ hw, hStart, fun f _ => ?_⟩
    · rw [List.cons_append, List.append_assoc]
      rfl
    · rfl
  | @some _ text hSeparated =>
    obtain ⟨seen, record, hMembers, hHalf, hCount⟩ := members_separated h hSeparated hParts
      hLists.fits hStart hLists.once (length_lt_fuel ..) .first
    refine ⟨text ++ '}' :: rest, seen, record, ?_, hMembers, hHalf, fun f hf => ?_⟩
    · rw [List.cons_append, List.append_assoc]
      rfl
    · rw [← List.count_pos_iff, hCount f hf, List.count_pos_iff]
      rfl

/-- **A text that stands for a record is read as that record.** -/
theorem reads_object (h : Implements initial ms fields) {t : List Char}
    (ht : IsObject fields r t) : Reads (Json.record initial ms) r t := by
  obtain ⟨pairs, parts, hLists, hParts, hText⟩ := ht
  have hFront : HasFront t := by
    cases hText <;> exact ⟨_, _, rfl, by decide⟩
  refine ⟨hFront, fun w rest hw _ => ?_⟩
  obtain ⟨text, seen, record, hOpen, hMembers, hHalf, hSeen⟩ :=
    members_enclosed h hLists hParts hText rest
  -- A field that was not met has its default on both sides.
  have hRecord : record = r := by
    refine h.ext record r fun f hf => ?_
    rw [hHalf f hf]
    split
    · rfl
    · rename_i hMissing
      rw [hSeen f hf] at hMissing
      obtain ⟨m, -, hm⟩ := find?_of_mem h.each h.names hf
      exact hm.default_eq _ (hLists.omits f hf hMissing)
  have hComplete : (ms.all fun m => !m.required || seen.contains m.name) = true := by
    rw [List.all_eq_true]
    intro m hMember
    obtain ⟨f, hf, hm⟩ := exists_mem_of_forall₂ h.each.flip hMember
    rw [hm.required_eq, hm.name_eq]
    by_cases hMet : f.name ∈ pairs.map (·.1)
    · simp [(hSeen f hf).mpr hMet]
    · simp [hLists.omits f hf hMet]
  rw [Json.record, skipSpace_eq hw hFront, hOpen]
  show (members ms (text.length + 1) true [] initial text >>= _) = _
  rw [hMembers]
  show (if (ms.all fun m => !m.required || seen.contains m.name) = true then _ else _) = _
  rw [if_pos hComplete, hRecord]
  rfl

end CommentSieve.Json
