import CommentSieve.Token.Basic

/-!
# Open literals

Strings and templates can be opened inside the interpolations of a template, so
the literals open at a point form a stack. Its height is limited.

Main result: `depth_le_of_push?`, no push goes past the limit.
-/

namespace CommentSieve

/-- Open literals, innermost first, and how many may be open at once. -/
structure Frames where
  limit : Nat
  items : List Context := []
  deriving Repr, DecidableEq

namespace Frames

/-- The number of open literals. -/
def depth (f : Frames) : Nat := f.items.length

/-- The innermost literal. -/
def top? (f : Frames) : Option Context := f.items.head?

/-- The innermost literal; outside of all literals, text is code. -/
def current (f : Frames) : Context := f.top?.getD .code

/-- Opens a literal, unless the limit is reached. -/
def push? (f : Frames) (context : Context) : Option Frames :=
  if f.depth < f.limit then some { f with items := context :: f.items } else none

/-- Closes the innermost literal. -/
def pop (f : Frames) : Frames := { f with items := f.items.tail }

/-- Replaces the innermost literal; nothing happens when none is open. -/
def setTop (f : Frames) (context : Context) : Frames :=
  match f.items with
  | [] => f
  | _ :: outer => { f with items := context :: outer }

/-- The literal at a depth, counted from the outermost. -/
def frame? (f : Frames) (depth : Nat) : Option Context := f.items.reverse[depth]?

/-- Closes literals until at most `depth` are open. -/
def unwindTo (f : Frames) (depth : Nat) : Frames :=
  { f with items := f.items.drop (f.depth - depth) }

/-- The number of open interpolations. -/
def nesting (f : Frames) : Nat := f.items.countP Context.interpolates

/-- A frame is pushed only where the limit leaves room for it. -/
theorem depth_le_of_push? {f g : Frames} {context : Context} (h : f.push? context = some g) :
    g.depth ≤ g.limit := by
  unfold push? at h
  split at h
  · rename_i hlt
    obtain rfl := Option.some.inj h
    exact hlt
  · simp at h

@[simp] theorem depth_setTop (f : Frames) (context : Context) :
    (f.setTop context).depth = f.depth := by
  rcases f with ⟨limit, _ | ⟨top, outer⟩⟩ <;> rfl

theorem depth_pop (f : Frames) : f.pop.depth = f.depth - 1 := by
  simp [pop, depth]

end Frames

end CommentSieve
