/-!
# The order of rows of texts

Texts are ordered by their characters, and rows of texts by the first text in which they differ.  A
row comes before every row that it begins.
-/

namespace RelationAuth.Text

/-- The order of lists of texts, by the first texts that differ. -/
def compareTexts : List String → List String → Ordering
  | [], [] => .eq
  | [], _ :: _ => .lt
  | _ :: _, [] => .gt
  | left :: lefts, right :: rights => (compare left right).then (compareTexts lefts rights)

end RelationAuth.Text
