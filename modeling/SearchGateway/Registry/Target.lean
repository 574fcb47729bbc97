import SearchGateway.Text.Blank
import SearchGateway.Text.Split

/-!
# Target expressions

An expression names indices by tokens between commas. Blanks around a token are no part of it,
and a token of blanks only does not count.
-/

namespace SearchGateway.Registry

/-- The tokens of an expression in order. -/
def tokens (expression : String) : List String :=
  ((Text.splitAt ',' expression).map Text.trimmed).filter (· ≠ "")

/-- Whether a token selects every index. -/
def selectsAll (token : String) : Bool :=
  token == "_all" || token == "*"

end SearchGateway.Registry
