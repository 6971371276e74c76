import CommentSieve.Pattern.Normal
import CommentSieve.Pattern.Reader.Class
import CommentSieve.Pattern.Weight

/-!
# Reading patterns: sequences, groups and repetitions

Main definition: `Pattern.read`, which accepts a text as a pattern or says why it is
none. Patterns may be nested to a limited depth and may not grow too large.
-/

namespace CommentSieve.Pattern

namespace Reader

open Text

/-- A pattern as it was read, with the depth to which it is nested. -/
structure Node where
  pattern : Pattern
  depth : Nat
  deriving Repr, DecidableEq

/-- An element of a sequence. A change of flags is an element that cannot be
repeated. -/
inductive Item
  | node (n : Node)
  | flags
  deriving Repr, DecidableEq

/-- The depth of an element. -/
def Item.depth : Item → Nat
  | node n => n.depth
  | flags => 0

/-- The pattern of an element. -/
def Item.pattern : Item → Pattern
  | node n => n.pattern
  | flags => .empty

/-- Several parts are nested one deeper than a single one. -/
def joinDepth (depths : List Nat) : Nat :=
  match depths with
  | [] => 0
  | [depth] => depth
  | depths => 1 + depths.foldl max 0

/-- A sequence, given last element first. -/
def sequence (items : List Item) : Node :=
  ⟨.concat (items.reverse.map (·.pattern)), joinDepth (items.map (·.depth))⟩

/-- Alternatives, given last alternative first. -/
def alternatives : List Node → Node
  | [branch] => branch
  | branches => ⟨.choice (branches.reverse.map (·.pattern)), joinDepth (branches.map (·.depth))⟩

/-- A pattern that is being read. -/
structure Work where
  rest : List Char
  flags : Flags
  /-- The number of groups opened so far, and the names given to them. -/
  groups : Nat := 0
  names : List String := []
  /-- The current sequence, last element first. -/
  items : List Item := []
  /-- The alternatives before it, last first. -/
  branches : List Node := []

/-- Everything read, as one pattern. -/
def Work.node (w : Work) : Node := alternatives (sequence w.items :: w.branches)

/-- Adds an element and goes on with the text after it. -/
def Work.add (w : Work) (item : Item) (rest : List Char) : Work :=
  { w with items := item :: w.items, rest }

/-! ## Elements -/

/-- The pattern for a character. -/
def charPattern (flags : Flags) (c : Char) (byte : Bool) : Except Rejection Pattern :=
  if !flags.unicode && byte && 0x80 ≤ c.toNat then .error .partialCharacter
  else if !flags.ignoreCase then .ok (.chars [c])
  else if flags.unicode then .ok (.ofSet (.alike c))
  else .ok (.ofSet (.foldedAscii (.single c)))

/-- The pattern for an escape. -/
def atomPattern (flags : Flags) : Atom → Except Rejection Pattern
  | .char c byte => charPattern flags c byte
  | .look l => .ok (.look l)
  | .class s negated => return .set (← atomSet flags (.class s negated))
  | .property s negated => return .ofSet (← atomSet flags (.property s negated))

/-- The pattern for a dot. -/
def dotPattern (flags : Flags) : Except Rejection Pattern :=
  if !flags.unicode then .error .partialCharacter
  else if flags.dotAll then .ok (.set (.compl .none))
  else if flags.anyLine then .ok (.set (.compl (.union (.single '\r') (.single '\n'))))
  else .ok (.set (.compl (.single '\n')))

/-- The pattern for a caret. -/
def caretPattern (flags : Flags) : Pattern :=
  .look (if flags.multiLine then (if flags.anyLine then .anyLineStart else .lineStart)
    else .textStart)

/-- The pattern for a dollar sign. -/
def dollarPattern (flags : Flags) : Pattern :=
  .look (if flags.multiLine then (if flags.anyLine then .anyLineEnd else .lineEnd) else .textEnd)

/-- Reads an element that is neither group, class nor repetition. -/
def readElement (flags : Flags) : List Char → Except Rejection (Pattern × List Char)
  | [] => .error .badEscape
  | '\\' :: text => do
    let (atom, text) ← readEscape flags text
    return (← atomPattern flags atom, text)
  | '.' :: text => return (← dotPattern flags, text)
  | '^' :: text => .ok (caretPattern flags, text)
  | '$' :: text => .ok (dollarPattern flags, text)
  | c :: text => return (← charPattern flags c false, text)

/-- Repeats the last element. -/
def Work.repeatLast (w : Work) (min : Nat) (max : Option Nat) (greedy : Bool) (rest : List Char) :
    Except Rejection Work :=
  match w.items with
  | .node n :: items =>
    let repeated := ⟨n.pattern.times min max (greedy != w.flags.swapGreed), n.depth + 1⟩
    .ok { w with items := .node repeated :: items, rest }
  | _ => .error .nothingToRepeat

/-- Repeats the last element as one of the signs `?`, `*` and `+` says; a question
mark right after it makes the repetition lazy. -/
def Work.repeatSign (w : Work) (min : Nat) (max : Option Nat) (rest : List Char) :
    Except Rejection Work :=
  match rest with
  | '?' :: rest => w.repeatLast min max false rest
  | rest => w.repeatLast min max true rest

/-! ## Groups -/

/-- What the text after an opening parenthesis announces. -/
inductive Opening
  | capture (name : Option String)
  /-- A group with flags of its own. -/
  | scoped (flags : Flags)
  /-- Flags for the rest of the enclosing group. -/
  | setFlags (flags : Flags)
  deriving Repr, DecidableEq

/-- Whether a character can stand in the name of a group. -/
def isNamePart (first : Bool) (c : Char) : Bool :=
  c == '_' ||
    (if first then isAlphabetic c else isAlphanumeric c || c == '.' || c == '[' || c == ']')

/-- Reads the name of a group through its closing angle bracket. -/
def readGroupName (text : List Char) : Except Rejection (String × List Char) :=
  let name := text.takeWhile (· != '>')
  match name, text.dropWhile (· != '>') with
  | c :: cs, _ :: rest =>
    if isNamePart true c && cs.all (isNamePart false) then .ok (String.ofList name, rest)
    else .error .badGroupName
  | _, _ => .error .badGroupName

/-- Reads flags up to the colon or parenthesis that ends them, which is returned as
the first character of the rest. Each flag and the minus sign may occur once, and
the minus sign not last. -/
def readFlags (flags : Flags) (seen : List Char) (negated dangling : Bool) : List Char →
    Except Rejection (Flags × List Char)
  | [] => .error .badFlags
  | c :: text =>
    if c = ':' ∨ c = ')' then if dangling then .error .badFlags else .ok (flags, c :: text)
    else if c = '-' then
      if negated then .error .badFlags else readFlags flags seen true true text
    else if seen.contains c then .error .badFlags
    else match flags.set? c (!negated) with
      | some flags => readFlags flags (c :: seen) negated false text
      | none => .error .badFlags

/-- Reads what follows an opening parenthesis. -/
def readOpening (flags : Flags) (text : List Char) : Except Rejection (Opening × List Char) :=
  match skipSpace flags.verbose text with
  | '?' :: '=' :: _ | '?' :: '!' :: _ | '?' :: '<' :: '=' :: _ | '?' :: '<' :: '!' :: _ =>
    .error .lookAround
  | '?' :: 'P' :: '<' :: text | '?' :: '<' :: text => do
    let (name, text) ← readGroupName text
    return (.capture (some name), text)
  | '?' :: ')' :: _ => .error .nothingToRepeat
  | '?' :: text => do
    let (flags, text) ← readFlags flags [] false false text
    match text with
    | ')' :: text => return (.setFlags flags, text)
    | text => return (.scoped flags, text.drop 1)
  | text => .ok (.capture none, text)

/-- Wraps what was read in a group; groups that remember are numbered. -/
def groupNode (opening : Opening) (index : Nat) (inner : Node) : Node :=
  match opening with
  | .capture name => ⟨.group index name inner.pattern, inner.depth + 1⟩
  | _ => ⟨inner.pattern, inner.depth + 1⟩

/-- The number of groups after an opening. -/
def Opening.count (groups : Nat) : Opening → Nat
  | .capture _ => groups + 1
  | _ => groups

/-! ## The whole -/

/-- Reads on until the text ends or a group is closed; the closing parenthesis is
left in place. Each step uses up a character, so that `fuel` need only exceed the
length of the text. -/
def readOn : (fuel : Nat) → Work → Except Rejection Work
  | 0, w => .ok w
  | fuel + 1, w =>
    match skipSpace w.flags.verbose w.rest with
    | [] => .ok { w with rest := [] }
    | ')' :: rest => .ok { w with rest := ')' :: rest }
    | '|' :: rest =>
      readOn fuel { w with items := [], branches := sequence w.items :: w.branches, rest }
    | '(' :: rest => do
      let (opening, rest) ← readOpening w.flags rest
      match opening with
      | .setFlags flags => readOn fuel { w.add .flags rest with flags }
      | _ =>
        let flags := match opening with
          | .scoped flags => flags
          | _ => w.flags
        let names ← match opening with
          | .capture (some name) =>
            if w.names.contains name then .error .repeatedGroupName else pure (name :: w.names)
          | _ => pure w.names
        -- Numbers and names belong to the whole pattern, flags only to the group.
        let groups := opening.count w.groups
        let inner ← readOn fuel { rest, flags, groups, names }
        match inner.rest with
        | ')' :: rest =>
          let node := groupNode opening groups inner.node
          readOn fuel { w.add (.node node) rest with groups := inner.groups, names := inner.names }
        | _ => .error .unclosedGroup
    | '[' :: rest => do
      let (c, rest) ← readWholeClass w.flags rest
      readOn fuel (w.add (.node ⟨.ofSet c.set, c.depth⟩) rest)
    | '?' :: rest => do readOn fuel (← w.repeatSign 0 (some 1) rest)
    | '*' :: rest => do readOn fuel (← w.repeatSign 0 none rest)
    | '+' :: rest => do readOn fuel (← w.repeatSign 1 none rest)
    | '{' :: rest => do
      let count ← readCount w.flags.verbose rest
      readOn fuel (← w.repeatLast count.min count.max count.greedy count.rest)
    | rest => do
      let (pattern, rest) ← readElement w.flags rest
      readOn fuel (w.add (.node ⟨pattern, 0⟩) rest)

/-- The greatest depth to which a pattern may be nested. -/
def maxDepth : Nat := 250

end Reader

/-- Reads a text as a pattern. -/
def read (ignoreCase : Bool) (source : List Char) : Except Rejection Pattern := do
  let work ← Reader.readOn (source.length + 1) { rest := source, flags := { ignoreCase } }
  match work.rest with
  | _ :: _ => .error .unopenedGroup
  | [] =>
    let node := work.node
    if node.depth > Reader.maxDepth then .error .tooDeep
    else if node.pattern.tooHeavy then .error .tooLarge
    else .ok node.pattern

/-- Escapes a text so that, read as a pattern, every character stands for itself. -/
def quote (text : List Char) : List Char :=
  text.flatMap fun c => if Reader.isMeta c then ['\\', c] else [c]

end CommentSieve.Pattern
