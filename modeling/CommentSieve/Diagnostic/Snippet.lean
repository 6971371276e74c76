import CommentSieve.Text.Utf8

/-!
# Snippets

The text around an offset, with the offset marked, for display in a diagnostic.
-/

namespace CommentSieve.Snippet

/-- Stands at the offset a snippet is about. -/
def marker : String := "<<<ERROR>>>"

/-- Up to `radius` bytes on either side of an offset, widened to whole
characters, with the marker between them. -/
def around (content : List Char) (position radius : Nat) : String :=
  let length := Text.byteLength content
  let position := Text.floorBoundary content (min position length)
  let start := Text.floorBoundary content (position - radius)
  let stop := Text.ceilBoundary content (min (position + radius) length)
  String.ofList (Text.slice content start position) ++ marker ++
    String.ofList (Text.slice content position stop)

end CommentSieve.Snippet
