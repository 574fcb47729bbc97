import SearchGateway.Gateway.Exchange
import SearchGateway.Http.MediaNames
import SearchGateway.Text.Numeral

/-!
# The console

The console is an application in the browser whose files are served under `/ui/`. A path below it
that has no file is a place inside the application: the answer leads back to the console by a
relative location, so that it also holds behind a proxy that adds a path of its own.
-/

namespace SearchGateway.Gateway

open Http (Request Response)

/-- A file by its path. -/
abbrev Files := List (String × Bytes)

namespace Console

/-- The page that loads the application. -/
def indexPage : String := String.join [
  "<!doctype html>\n",
  "<html lang=\"en\">\n",
  "  <head>\n",
  "    <meta charset=\"utf-8\" />\n",
  "    <meta name=\"viewport\" content=\"width=device-width, initial-scale=1\" />\n",
  "    <title>sift</title>\n",
  "    <script type=\"module\" src=\"./app.js\"></script>\n",
  "  </head>\n",
  "  <body>\n",
  "    <div id=\"app\"></div>\n",
  "  </body>\n",
  "</html>\n"]

/-- The application, which shows the version of the server. -/
def application : String := String.join [
  "const root = document.getElementById(\"app\");\n",
  "\n",
  "fetch(\"../version\")\n",
  "  .then((res) => res.json())\n",
  "  .then((info) => \x7b\n",
  "    root.textContent = \x60sift $\x7binfo.version\x7d\x60;\n",
  "  \x7d)\n",
  "  .catch(() => \x7b\n",
  "    root.textContent = \"sift\";\n",
  "  \x7d);\n"]

/-- The files that are always there. -/
def bundled : Files := [
  ("index.html", Text.Utf8.encode indexPage),
  ("app.js", Text.Utf8.encode application)]

/-- What the paths of the console begin with. -/
def start : String := "/ui/"

/-! ## Files -/

/-- The names on the way to a file; empty names and single dots lead nowhere. -/
def fileNames (path : String) : List String :=
  (Text.splitAt '/' path).filter fun name => name ≠ "" ∧ name ≠ "."

/-- Whether a path can lead to a file: it ends in a name. -/
def endsInName (path : String) : Bool :=
  match (Text.splitAt '/' path).getLast? with
  | some name => name ≠ "" && name ≠ "."
  | none => false

/-- The file of a directory that a path leads to. -/
def fileAt? (files : Files) (path : String) : Option Bytes :=
  if endsInName path then
    -- Of several files with one path the last one counts.
    (files.reverse.find? fun file => fileNames file.1 == fileNames path).map (·.2)
  else none

/-- How long a bundled file may be kept. -/
def lifetime (path : String) : String :=
  if path.endsWith ".html" then "no-cache, must-revalidate"
  else if path.startsWith "assets/" || path.endsWith ".js" || path.endsWith ".css" then
    "public, max-age=31536000, immutable"
  else "public, max-age=3600"

def fileResponse (path lifetime : String) (content : Bytes) : Response where
  status := 200
  headers := [
    ("content-type", Text.Utf8.encode (Http.mediaNameOf path)),
    ("cache-control", Text.Utf8.encode lifetime)]
  body := content

/-- The path without the slashes that it begins with; the empty path is the page. -/
def filePath (path : String) : String :=
  match path.toList.dropWhile (· == '/') with
  | [] => "index.html"
  | rest => String.ofList rest

/-- The file that a path names. A file of the working directory goes before a bundled one, and no
path climbs out of the console. -/
def load? (files : Files) (path : String) : Option Response :=
  let path := filePath path
  if ".." ∈ Text.splitAt '/' path then none
  else
    match fileAt? files path with
    -- A file of the working directory may change at any time.
    | some content => some (fileResponse path "no-cache, no-store, must-revalidate" content)
    | none =>
      ((bundled.find? (·.1 == path)).map (·.2)).map fun content =>
        fileResponse path (lifetime path) content

/-! ## Places without a file -/

/-- The location of the console as seen from a place below it: one step up for each slash. -/
def wayBack (rest : String) : String :=
  "./" ++ String.join (List.replicate (rest.toList.count '/') "../")

/-- What follows the start of the console in a path. -/
def placeOf? (path : String) : Option String :=
  (Text.after? start.toList path.toList).map String.ofList

/-- The answer to a request that no route serves. -/
def unmatched (request : Request) : Exchange :=
  let isRead := request.method = .get ∨ request.method = .head
  let place? := if isRead then placeOf? request.path else none
  let response :=
    match place? with
    | some rest => Response.redirect 302 (wayBack rest)
    | none => .ofStatus 404
  .answered response [.unmatched request.method.name]

/-! ## Pages -/

/-- The pages of the console. -/
inductive Page where
  | door
  | index
  | file
deriving DecidableEq, Repr

def Page.path : Page → String
  | .door => "/ui"
  | .index => "/ui/"
  | .file => "/ui/*path"

def pages : List Page := [.door, .index, .file]

/-- The response to a path that is no text. -/
def badPath : Response where
  status := 400
  headers := [("content-type", Text.Utf8.encode "text/plain; charset=utf-8")]
  body := Text.Utf8.encode "Invalid URL: Invalid UTF-8 in \x60path\x60"

def serve (files : Files) (page : Page) (request : Request) (parameters : Option (Keyed String)) :
    Exchange :=
  match page with
  | .door => .answered (.redirect 301 "ui/")
  | .index => .answered ((load? files "index.html").getD (.ofStatus 404))
  | .file =>
    match parameters with
    | none => .answered badPath
    | some parameters =>
      match load? files ((parameters.get? "path").getD "") with
      | some response => .answered response
      | none => unmatched request

end Console

end SearchGateway.Gateway
