import SearchGateway.Text.Numeral
import SearchGateway.Text.Split

/-!
# The command line

An option may be given once, with its value attached or as the next argument. An argument that is
no option and no value is not known.
-/

namespace SearchGateway.CommandLine

/-- What the command line says. -/
structure Arguments where
  config : Option String := none
  host : Option String := none
  port : Option Nat := none
deriving DecidableEq, Repr, Inhabited

/-- The file with the settings, unless the command line names another. -/
def Arguments.configFile (a : Arguments) : String :=
  a.config.getD "sift.toml"

/-- Why a command line does not start the server. -/
inductive Stop where
  | unknownArgument
  | missingValue
  | extraValue
  | badValue
  | repeated
  | help
  | version
deriving DecidableEq, Repr

/-- A setting that has a value. -/
inductive Setting where
  | config
  | host
  | port
deriving DecidableEq, Repr

/-- What an option stands for. -/
inductive Switch where
  | setting (name : Setting)
  | stop (reason : Stop)
deriving DecidableEq, Repr

/-- What the long name of an option stands for. -/
def Switch.ofName? : String → Option Switch
  | "config" => some (.setting .config)
  | "host" => some (.setting .host)
  | "port" => some (.setting .port)
  | "help" => some (.stop .help)
  | "version" => some (.stop .version)
  | _ => none

/-- What the letter of an option stands for. -/
def Switch.ofLetter? : Char → Option Switch
  | 'c' => some (.setting .config)
  | 'p' => some (.setting .port)
  | 'h' => some (.stop .help)
  | 'V' => some (.stop .version)
  | _ => none

/-- The port that a text names; zero may have a sign. -/
def port? (text : String) : Option Nat :=
  match text.toList with
  | '-' :: digits =>
    if digits.isEmpty then none else (Text.digits? 10 Text.decimal? digits).filter (· = 0)
  | _ => Text.unsigned? (Nat.pow 2 16) text

def Arguments.set (a : Arguments) (setting : Setting) (value : String) : Except Stop Arguments :=
  match setting with
  | .config => if a.config.isSome then .error .repeated else .ok { a with config := some value }
  | .host => if a.host.isSome then .error .repeated else .ok { a with host := some value }
  | .port =>
    if a.port.isSome then .error .repeated
    else
      match port? value with
      | some port => .ok { a with port := some port }
      | none => .error .badValue

/-- What has been read, and the option whose value has not been taken in yet. -/
structure Progress where
  arguments : Arguments := {}
  pending : Option (Setting × Option String) := none

namespace Progress

/-- Takes in the pending option. -/
def settle (p : Progress) : Except Stop Arguments :=
  match p.pending with
  | none => .ok p.arguments
  | some (_, none) => .error .missingValue
  | some (setting, some value) => p.arguments.set setting value

/-- Goes on with an option and the value attached to it. -/
def option (p : Progress) (switch : Option Switch) (attached : Option String) :
    Except Stop Progress :=
  match switch, attached with
  | none, _ => .error .unknownArgument
  | some (.stop _), some _ => .error .extraValue
  -- A pending value that is wrong goes before the request to stop.
  | some (.stop reason), none => do
    let _ ← p.settle
    throw reason
  | some (.setting setting), some value => do
    return { arguments := ← (← p.settle).set setting value }
  | some (.setting setting), none => do
    return { arguments := ← p.settle, pending := some (setting, none) }

/-- Goes on with an argument that is no option. -/
def plain (p : Progress) (argument : String) : Except Stop Progress :=
  match p.pending with
  | some (setting, none) => .ok { p with pending := some (setting, some argument) }
  | _ => .error .unknownArgument

end Progress

/-- The value attached to a letter. -/
def attachedToLetter : List Char → Option String
  | [] => none
  | '=' :: value => some (String.ofList value)
  | value => some (String.ofList value)

/-- Goes on with an option named by a letter; nothing can be attached to a request to stop. -/
def Progress.letter (p : Progress) (letter : Char) (rest : List Char) : Except Stop Progress :=
  match Switch.ofLetter? letter with
  | some (.stop reason) => p.option (some (.stop reason)) none
  | switch => p.option switch (attachedToLetter rest)

/-- Goes on with an option named by a name, with its value after an equals sign. -/
def Progress.name (p : Progress) (text : List Char) : Except Stop Progress :=
  let switch := Switch.ofName? (String.ofList (text.takeWhile (· != '=')))
  match text.dropWhile (· != '=') with
  | [] => p.option switch none
  | _ :: value => p.option switch (some (String.ofList value))

def step (p : Progress) (argument : String) : Except Stop Progress :=
  match argument.toList with
  | '-' :: '-' :: text => p.name text
  | '-' :: letter :: rest => p.letter letter rest
  | _ => p.plain argument

/-- Reads the arguments that are left. After `--` nothing is an option any more. -/
def readFrom (p : Progress) : List String → Except Stop Arguments
  | [] => p.settle
  | argument :: rest =>
    if argument = "--" then if rest.isEmpty then p.settle else .error .unknownArgument
    else do readFrom (← step p argument) rest

/-- Reads a command line whose first element is the name of the program. -/
def read (argv : List String) : Except Stop Arguments :=
  readFrom {} argv.tail

/-! ## The address to listen on -/

def defaultPort : String := "4080"

/-- The host and the port of an address, which are cut at its last colon. -/
def hostAndPort (address : String) : String × String :=
  match Text.cutLast? (· == ':') address.toList with
  | some (host, port) => (String.ofList host, String.ofList port)
  | none => (address, defaultPort)

/-- The configured address with the parts that the command line replaces. -/
def bindAddress (configured : String) (host : Option String) (port : Option Nat) : String :=
  let parts := hostAndPort configured
  host.getD parts.1 ++ ":" ++ (port.map toString).getD parts.2

end SearchGateway.CommandLine
