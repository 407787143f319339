import DomainModel.Json.Document

/-! Reading a JSON text as a generic value. -/

namespace DomainModel.Json

/-- Lists and objects may be nested this deep in a value. -/
def maxDepth : Nat := 127

/-- The value that a text holds; none when the text is not JSON, has a number that is too large or
is nested too deeply. -/
def parse? (text : String) : Option Value :=
  match Document.ofText text with
  | (doc, true) => if doc.depth ≤ maxDepth then doc.toValue? else none
  | (_, false) => none

end DomainModel.Json
