/-!
# Letter case

Only the letters of ASCII have a lower case here; every other character stays as it is.
-/

namespace SearchGateway.Text

/-- The text with its ASCII capitals in lower case. -/
def lowered (s : String) : String :=
  String.ofList (s.toList.map Char.toLower)

end SearchGateway.Text
