import CommentSieve.Proofs.CaseFolding
import CommentSieve.Text.Uppercase

/-!
# Lower and upper case of spellings

A text that agrees with an ASCII text up to case need not have the same lower case or upper
case: the long s has no other form in ASCII, and the sign for kelvins stays as it is in upper
case. What a text can become is one of few texts, which are computed from the ASCII text.

Main results:

* `flatMap_mem_images` — what a spelling becomes, character by character, is among the texts
  computed for it.
* `longS_mem_take_iff` — lower case keeps a long s where it is.
-/

namespace CommentSieve.Text

/-- The characters that agree with an ASCII character up to case. -/
def spellings (c : Char) : List Char :=
  [c.toLower, c.toUpper] ++ (if c.toLower = 's' then ['ſ'] else []) ++
    if c.toLower = 'k' then ['\u212A'] else []

theorem mem_spellings {c d : Char} (hAscii : c.toNat < 0x80) (h : sameFold c d = true) :
    d ∈ spellings c := by
  rcases spelling_of_sameFold hAscii h with rfl | rfl | ⟨hLower, rfl⟩ | ⟨hLower, rfl⟩ <;>
    simp [spellings, *]

/-- What a text can become that agrees with an ASCII text up to case, if each character is
replaced. -/
def images (f : Char → List Char) : List Char → List (List Char)
  | [] => [[]]
  | c :: cs => ((spellings c).map f).eraseDups.flatMap fun front => (images f cs).map (front ++ ·)

/-- A text of ASCII characters. -/
def isAscii (w : String) : Bool := w.toList.all fun c => decide (c.toNat < 0x80)

theorem toNat_lt_of_isAscii {w : String} (h : isAscii w = true) {c : Char} (hc : c ∈ w.toList) :
    c.toNat < 0x80 :=
  of_decide_eq_true (List.all_eq_true.mp h c hc)

/-- A text alike an ASCII word has its image among those listed for the word. -/
theorem flatMap_mem_images (f : Char → List Char) {w : String} {a : List Char}
    (hAscii : isAscii w = true) (h : Alike w.toList a) : a.flatMap f ∈ images f w.toList := by
  have hAscii : ∀ c ∈ w.toList, c.toNat < 0x80 := fun c hc => toNat_lt_of_isAscii hAscii hc
  generalize w.toList = w at hAscii h
  induction w generalizing a with
  | nil =>
    obtain rfl := alike_nil.mp h
    exact List.mem_singleton_self _
  | cons c cs ih =>
    obtain ⟨d, ds, rfl, hSame, hAlike⟩ := alike_cons.mp h
    obtain ⟨hFirst, hRest⟩ := List.forall_mem_cons.mp hAscii
    have hFront : f d ∈ ((spellings c).map f).eraseDups :=
      List.mem_eraseDups.mpr (List.mem_map_of_mem (mem_spellings hFirst hSame))
    exact List.mem_flatMap.mpr ⟨f d, hFront, List.mem_map_of_mem (ih hRest hAlike)⟩

/-- The lower case of the spellings of an ASCII text. -/
def lowered (w : String) : List (List Char) := images (fun c => [c.toLower]) w.toList

/-- A text alike an ASCII word is, in lower case, one of the word's listed forms. -/
theorem map_toLower_mem_lowered {w : String} {a : List Char} (hAscii : isAscii w = true)
    (h : Alike w.toList a) :
    a.map Char.toLower ∈ lowered w := by
  rw [List.map_eq_flatMap]
  exact flatMap_mem_images _ hAscii h

/-- Lowering makes no long s out of another character. -/
theorem toLower_eq_longS {c : Char} : c.toLower = 'ſ' ↔ c = 'ſ' := by
  unfold Char.toLower
  split
  · rename_i hUpper
    obtain ⟨hFirst, hLast⟩ := hUpper
    constructor
    · intro h
      have h := congrArg Char.val h
      simp [UInt32.le_iff_toNat_le, ← UInt32.toNat_inj] at hFirst hLast h
      omega
    · rintro rfl
      exact absurd hLast (by decide)
  · rfl

/-- Lower case keeps a long s where it is. -/
theorem longS_mem_take_iff (n : Nat) (cs : List Char) :
    'ſ' ∈ (cs.map Char.toLower).take n ↔ 'ſ' ∈ cs.take n := by
  rw [← List.map_take, List.mem_map]
  constructor
  · rintro ⟨c, hc, hLower⟩
    rwa [← toLower_eq_longS.mp hLower]
  · exact fun h => ⟨'ſ', h, rfl⟩

end CommentSieve.Text
