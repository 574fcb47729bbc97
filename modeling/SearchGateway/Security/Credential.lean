import SearchGateway.Http.Headers
import SearchGateway.Text.Base64
import SearchGateway.Text.Blank
import SearchGateway.Text.Split

/-!
# Credentials

A caller presents a key as `Bearer key`, or a name and a password as `Basic` with the base64 form
of the two with a colon between them.
-/

namespace SearchGateway.Security

/-- What a caller presents. -/
inductive Credential where
  | apiKey (key : String)
  | basic (user password : String)
deriving DecidableEq, Repr

namespace Credential

/-- The text for logs, which hides the secret. -/
def masked : Credential → String
  | .apiKey _ => "ApiKey(***)"
  | .basic user _ => s!"Basic({user}:***)"

/-- What follows the name of a scheme in a value, without blanks around it. -/
def schemeRest? (scheme : String) (value : List Char) : Option (List Char) :=
  (Text.after? scheme.toList value).map Text.trim

/-- The key of a value of the scheme `Bearer`; it is not empty. -/
def ofBearer? (key : List Char) : Option Credential :=
  if key = [] then none else some (.apiKey (String.ofList key))

/-- The name and the password of a value of the scheme `Basic`; the name is not empty. -/
def ofBasic? (encoded : List Char) : Option Credential := do
  let bytes ← Text.Base64.decodeChars? encoded
  let text ← Text.Utf8.decode? bytes
  let (user, password) ← Text.cut? (· == ':') text.toList
  if user = [] then none
  else some (.basic (String.ofList user) (String.ofList password))

/-- The credential of a header value. -/
def ofValue? (value : List Char) : Option Credential :=
  let value := Text.trim value
  match schemeRest? "Bearer " value with
  | some key => ofBearer? key
  | none => (schemeRest? "Basic " value).bind ofBasic?

/-- The credential in the first `Authorization` header. -/
def ofHeaders? (headers : Http.Headers) : Option Credential := do
  let value ← headers.first? "authorization"
  let text ← Http.visibleText? value
  ofValue? text.toList

end Credential

end SearchGateway.Security
