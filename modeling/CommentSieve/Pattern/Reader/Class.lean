import CommentSieve.Pattern.Reader.Escape

/-!
# Reading patterns: bracketed classes

A class lists characters, ranges, named classes and further bracketed classes.
The lists can be combined by `&&`, `--` and `~~`, which bind equally and from the
left. With Unicode switched off a class has to stay within ASCII.
-/

namespace CommentSieve.Pattern.Reader

open Text

/-- A set as it was written, with the depth to which brackets and operators are
nested in it. -/
structure ClassNode where
  set : CharSet
  depth : Nat
  deriving Repr, DecidableEq

/-- The operators on sets. -/
inductive ClassOp
  | inter
  | diff
  | symmDiff
  deriving Repr, DecidableEq

/-- A class that is being read. -/
structure ClassWork where
  negated : Bool
  /-- Items since the last operator, newest first. -/
  items : List ClassNode := []
  /-- What stands left of the last operator. -/
  left : Option (ClassNode × ClassOp) := none

/-- Closure under case, if the flags ask for it. -/
def foldClass (flags : Flags) (s : CharSet) : CharSet :=
  if flags.ignoreCase then (if flags.unicode then .folded s else .foldedAscii s) else s

/-- The union of the items read since the last operator. -/
def ClassWork.union (w : ClassWork) : ClassNode :=
  match w.items with
  | [item] => item
  | [] => ⟨.none, 0⟩
  | items => ⟨.unions (items.reverse.map (·.set)), 1 + (items.map (·.depth)).foldl max 0⟩

/-- Everything read so far, the last operator applied. Both sides of an operator are
closed under case first. -/
def ClassWork.total (flags : Flags) (w : ClassWork) : ClassNode :=
  let right := w.union
  match w.left with
  | none => right
  | some (left, op) =>
    let a := foldClass flags left.set
    let b := foldClass flags right.set
    let set := match op with
      | .inter => CharSet.inter a b
      | .diff => CharSet.diff a b
      | .symmDiff => CharSet.symmDiff a b
    ⟨set, 1 + max left.depth right.depth⟩

/-- Adds an item. -/
def ClassWork.add (w : ClassWork) (item : ClassNode) : ClassWork :=
  { w with items := item :: w.items }

/-- Goes on to the right side of an operator. -/
def ClassWork.operate (flags : Flags) (w : ClassWork) (op : ClassOp) : ClassWork :=
  { w with items := [], left := some (w.total flags, op) }

/-- Closure under case and then the complement, which with Unicode switched off
would contain parts of characters. -/
def finishSet (flags : Flags) (negated : Bool) (s : CharSet) : Except Rejection CharSet :=
  let s := foldClass flags s
  if negated then (if flags.unicode then .ok (.compl s) else .error .partialCharacter) else .ok s

/-- The finished class. -/
def ClassWork.finish (flags : Flags) (w : ClassWork) : Except Rejection ClassNode := do
  let node := w.total flags
  return ⟨← finishSet flags w.negated node.set, node.depth + 1⟩

/-- Starts a class, after its bracket: a caret negates it, hyphens at the front are
plain, and so is a closing bracket at the very front. -/
def openClass (flags : Flags) (text : List Char) : Except Rejection (ClassWork × List Char) :=
  let (negated, text) := match skipSpace flags.verbose text with
    | '^' :: text => (true, skipSpace flags.verbose text)
    | text => (false, text)
  let (work, text) := hyphens { negated } text.length text
  match work.items, text with
  | _, [] => .error .unclosedClass
  | [], ']' :: text => .ok (work.add ⟨.single ']', 0⟩, text)
  | _, text => .ok (work, text)
where
  /-- Takes hyphens off the front; each step uses up a character. -/
  hyphens (work : ClassWork) : (fuel : Nat) → List Char → ClassWork × List Char
    | fuel + 1, '-' :: text =>
      hyphens (work.add ⟨.single '-', 0⟩) fuel (skipSpace flags.verbose text)
    | _, text => (work, text)

/-- Reads a class with a name, such as `[:alpha:]`, after its bracket. Anything else
is left for a nested class. -/
def readNamed? (text : List Char) : Option (CharSet × Bool × List Char) := do
  let .cons ':' text := text | failure
  let (negated, text) := match text with
    | '^' :: text => (true, text)
    | text => (false, text)
  let name := text.takeWhile (· != ':')
  let .cons ':' (.cons ']' text) := text.dropWhile (· != ':') | failure
  return (← CharSet.ofName? (String.ofList name), negated, text)

/-- Reads one item that may start a range. -/
def readClassAtom (flags : Flags) : List Char → Except Rejection (Atom × List Char)
  | [] => .error .unclosedClass
  | '\\' :: text => readEscape flags text
  | c :: text => .ok (.char c false, text)

/-- A character of a class; with Unicode switched off it has to be ASCII. -/
def classChar (flags : Flags) (c : Char) : Except Rejection Char :=
  if flags.unicode || c.toNat < 0x80 then .ok c else .error .partialCharacter

/-- The set that a single item stands for. -/
def atomSet (flags : Flags) : Atom → Except Rejection CharSet
  | .char c _ => return .single (← classChar flags c)
  | .class s negated =>
    if negated then (if flags.unicode then .ok (.compl s) else .error .partialCharacter)
    else .ok s
  | .property s negated => finishSet flags negated s
  | .look _ => .error .badClassItem

/-- Reads a character, an escape or a range. -/
def readClassRange (flags : Flags) (text : List Char) :
    Except Rejection (ClassNode × List Char) := do
  let (low, text) ← readClassAtom flags text
  match skipSpace flags.verbose text with
  | [] => .error .unclosedClass
  | '-' :: more =>
    let next := peekSpace flags.verbose more
    if next == some ']' || next == some '-' then
      return (⟨← atomSet flags low, 0⟩, '-' :: more)
    else
      match skipSpace flags.verbose more with
      | [] => .error .unclosedClass
      | more =>
        let (high, text) ← readClassAtom flags more
        match low, high with
        | .char first _, .char last _ =>
          let first' ← classChar flags first
          let last' ← classChar flags last
          if first ≤ last then return (⟨.range first' last', 0⟩, text)
          else .error .badClassRange
        | _, _ => .error .badClassRange
  | text => return (⟨← atomSet flags low, 0⟩, text)

/-- Reads a class up to its closing bracket. Each step uses up a character, so that
`fuel` need only exceed the length of the text. -/
def readClass (flags : Flags) : (fuel : Nat) → ClassWork → List Char →
    Except Rejection (ClassNode × List Char)
  | 0, _, _ => .error .unclosedClass
  | fuel + 1, w, text =>
    match skipSpace flags.verbose text with
    | [] => .error .unclosedClass
    | ']' :: text => return (← w.finish flags, text)
    | '&' :: '&' :: text => readClass flags fuel (w.operate flags .inter) text
    | '-' :: '-' :: text => readClass flags fuel (w.operate flags .diff) text
    | '~' :: '~' :: text => readClass flags fuel (w.operate flags .symmDiff) text
    | '[' :: text =>
      match readNamed? text with
      | some (s, negated, text) => do
        let s ← finishSet flags negated s
        readClass flags fuel (w.add ⟨s, 0⟩) text
      | none => do
        let (inner, text) ← openClass flags text
        let (node, text) ← readClass flags fuel inner text
        readClass flags fuel (w.add node) text
    | text => do
      let (item, text) ← readClassRange flags text
      readClass flags fuel (w.add item) text

/-- Reads a class, after its bracket. -/
def readWholeClass (flags : Flags) (text : List Char) :
    Except Rejection (ClassNode × List Char) := do
  let (work, text) ← openClass flags text
  readClass flags (text.length + 1) work text

end CommentSieve.Pattern.Reader
