import SearchGateway.Settings.Basic
import SearchGateway.Text.Blank
import SearchGateway.Text.Numeral
import SearchGateway.Text.Quoted
import SearchGateway.Text.Utf8

/-!
# Validation of settings
-/

namespace SearchGateway

/-- Why settings are rejected. -/
inductive SettingsFlaw where
  | logFormat (value : String)
  | passwordDigest (user : String)
  | emptyPermission (role : String)
deriving DecidableEq, Repr

def SettingsFlaw.message : SettingsFlaw → String
  | .logFormat value =>
    "observability.log_format must be \"pretty\" or \"json\", got " ++ Text.Quoted.quote value
  | .passwordDigest user =>
    s!"security.users[{user}].password_sha256 must be 64 hex characters"
  | .emptyPermission role => s!"security.roles.{role} has an empty permission"

def logFormats : List String := ["pretty", "json"]

/-- Whether a text has the form of a digest: 64 hexadecimal digits. -/
def isDigest (text : String) : Bool :=
  text.toList.length == 64 && text.toList.all fun c => (Text.hexadecimal? c).isSome

namespace Settings

/-- The first flaw of the settings. -/
def flaw? (s : Settings) : Option SettingsFlaw :=
  if s.observability.logFormat ∉ logFormats then some (.logFormat s.observability.logFormat)
  else
    match s.security.users.find? (!isDigest ·.passwordDigest) with
    | some user => some (.passwordDigest user.name)
    | none =>
      (s.security.roles.entries.find? fun role => role.2.any Text.isBlankText).map
        (.emptyPermission ·.1)

/-- Rejects settings that the server could not run with. -/
def validate (s : Settings) : Except SettingsFlaw Unit :=
  match s.flaw? with
  | some flaw => .error flaw
  | none => .ok ()

end Settings

end SearchGateway
