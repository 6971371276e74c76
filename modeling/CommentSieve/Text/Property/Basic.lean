import CommentSieve.Text.Intervals

/-!
# Tables of sets with names

The properties of characters are looked up by name. A table has one entry for each set,
with all names of it in loose spelling: in lower case and without separators. The ranges
of an entry are written as a text of hexadecimal code points, such as `41-5A AA B5`.
-/

namespace CommentSieve.Text.Property

/-- The value of a hexadecimal digit, whose letters are capitals. -/
def digit? (c : Char) : Option Nat :=
  if '0' ≤ c ∧ c ≤ '9' then some (c.toNat - '0'.toNat)
  else if 'A' ≤ c ∧ c ≤ 'F' then some (c.toNat - 'A'.toNat + 10)
  else none

/-- The ranges that a text lists. -/
def rangesOf (text : String) : List (Nat × Nat) := go none none text.toList
where
  /-- `first` is the number before a hyphen, `last` the number being read. -/
  go (first last : Option Nat) : List Char → List (Nat × Nat)
    | [] => range first last
    | c :: text =>
      match digit? c with
      | some digit => go first (some (16 * last.getD 0 + digit)) text
      | none => if c = '-' then go last none text else range first last ++ go none none text
  /-- The range that was read, if any; one number is a range of its own. -/
  range (first last : Option Nat) : List (Nat × Nat) :=
    (last.map fun last => (first.getD last, last)).toList

/-- The set that a text lists. -/
def setOf (text : String) : Intervals := .ofRanges (rangesOf text)

/-- A set of characters with its names. -/
structure NamedSet where
  names : List String
  ranges : String

/-- The set with a name. -/
def NamedSet.find? (table : List NamedSet) (name : String) : Option Intervals :=
  (table.find? (·.names.contains name)).map fun entry => setOf entry.ranges

/-- The union of the sets with some names. -/
def NamedSet.select (table : List NamedSet) (names : List String) : Intervals :=
  .unions (names.filterMap (find? table))

end CommentSieve.Text.Property
