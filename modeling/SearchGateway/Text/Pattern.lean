/-!
# Patterns with a final star

A pattern that ends in `*` covers every text that begins with the rest of the pattern. Any other
pattern covers itself alone; a star elsewhere has no meaning.
-/

namespace SearchGateway.Text

/-- What stands before the final star of a pattern. -/
def stem? (pattern : String) : Option (List Char) :=
  if pattern.toList.getLast? = some '*' then some pattern.toList.dropLast else none

/-- Whether `pattern` covers `text`. -/
def covers (pattern text : String) : Bool :=
  match stem? pattern with
  | some stem => stem.isPrefixOf text.toList
  | none => pattern == text

end SearchGateway.Text
