import SearchGateway.CommandLine
import SearchGateway.Gateway.Setup
import SearchGateway.Settings.File

/-!
# The program

The program reads its settings, sets a server up and says what it would serve and where.
-/

namespace SearchGateway.Program

def help : String := String.join [
  "sift API dispatch and compatibility server\n\n",
  "Usage: sift-server [OPTIONS]\n\n",
  "Options:\n",
  "  -c, --config <CONFIG>  Configuration file path [env: SIFT_CONFIG=] [default: sift.toml]\n",
  "      --host <HOST>      Host to bind to (overrides server.bind_addr)\n",
  "  -p, --port <PORT>      Port to listen on (overrides server.bind_addr)\n",
  "  -h, --help             Print help\n",
  "  -V, --version          Print version"]

/-- What is printed when a command line does not start the server, and the exit code. -/
def stopText : CommandLine.Stop → String × UInt32
  | .help => (help, 0)
  | .version => (s!"sift-server {Elastic.buildVersion}", 0)
  | .unknownArgument => ("error: unexpected argument found", 2)
  | .missingValue => ("error: a value is required for an argument but none was supplied", 2)
  | .extraValue => ("error: an argument takes no value", 2)
  | .badValue => ("error: invalid value for an argument", 2)
  | .repeated => ("error: an argument cannot be used multiple times", 2)

/-- The message for settings that cannot be loaded. -/
def fileErrorText : FileError → String
  | .unreadable => "Error: the configuration file is not valid UTF-8"
  | .unfit => "Error: the configuration file is not valid"
  | .invalid flaw => s!"Error: {flaw.message}"

/-- The handler in place of an engine that cannot be reached. -/
def unreachableHandler : Gateway.Handler := fun _ =>
  ⟨0, Gateway.Relay.outcome (.unreachable "no engine")⟩

/-- What a server under these settings serves and where. -/
def plan (settings : Settings) (arguments : CommandLine.Arguments) :
    Except Gateway.SetupError String := do
  let indices ← Gateway.seedIndices settings
  let guard ← Gateway.guardOf settings none
  let service := Gateway.Service.ofSettings settings unreachableHandler guard
  let server ← Gateway.Server.standard settings service settings.observability.metricsEnabled
  let address :=
    CommandLine.bindAddress settings.server.bindAddress arguments.host arguments.port
  let routes := server.router.table.routes.length
  return s!"{address}: {routes} routes, {indices.indices.toList.length} indices"

/-- Reads the file with the settings, or writes one with the defaults. -/
def loadFile (path : String) : IO (Except FileError Settings) := do
  let content ←
    try
      let content ← IO.FS.readBinFile path
      pure (some content.toList)
    catch _ => pure none
  let (settings, kept) := Settings.loadOrCreate content
  if content.isNone then
    if let some bytes := kept then
      try IO.FS.writeBinFile path ⟨bytes.toArray⟩
      catch _ => pure ()
  return settings

def run (arguments : List String) : IO UInt32 := do
  match CommandLine.read ("sift-server" :: arguments) with
  | .error stop =>
    let (text, code) := stopText stop
    if code = 0 then IO.println text else IO.eprintln text
    return code
  | .ok arguments =>
    let named ← IO.getEnv "SIFT_CONFIG"
    let path := (arguments.config.or named).getD arguments.configFile
    match ← loadFile path with
    | .error e =>
      IO.eprintln (fileErrorText e)
      return 1
    | .ok settings =>
      match plan settings arguments with
      | .error e =>
        IO.eprintln s!"Error: {e.message}"
        return 1
      | .ok text =>
        IO.println text
        return 0

end SearchGateway.Program

def main (arguments : List String) : IO UInt32 :=
  SearchGateway.Program.run arguments
