import SearchGateway.Text.Case
import SearchGateway.Text.Split

/-!
# Media types of files

The type of a file is told from the extension of its name.
-/

namespace SearchGateway.Http

/-- The types of the extensions that are known. -/
def mediaNames : List (String × String) := [
  ("avif", "image/avif"),
  ("bmp", "image/bmp"),
  ("css", "text/css"),
  ("csv", "text/csv"),
  ("eot", "application/vnd.ms-fontobject"),
  ("gif", "image/gif"),
  ("gz", "application/gzip"),
  ("htm", "text/html"),
  ("html", "text/html"),
  ("ico", "image/x-icon"),
  ("jpeg", "image/jpeg"),
  ("jpg", "image/jpeg"),
  ("js", "text/javascript"),
  ("json", "application/json"),
  ("log", "text/plain"),
  ("map", "application/json"),
  ("md", "text/markdown"),
  ("mjs", "text/javascript"),
  ("mp3", "audio/mpeg"),
  ("mp4", "video/mp4"),
  ("ogg", "audio/ogg"),
  ("otf", "font/otf"),
  ("pdf", "application/pdf"),
  ("png", "image/png"),
  ("svg", "image/svg+xml"),
  ("tar", "application/x-tar"),
  ("tif", "image/tiff"),
  ("tiff", "image/tiff"),
  ("toml", "text/x-toml"),
  ("ttf", "font/ttf"),
  ("txt", "text/plain"),
  ("wasm", "application/wasm"),
  ("wav", "audio/wav"),
  ("webm", "video/webm"),
  ("webmanifest", "application/manifest+json"),
  ("webp", "image/webp"),
  ("woff", "font/woff"),
  ("woff2", "font/woff2"),
  ("xhtml", "application/xhtml+xml"),
  ("xml", "text/xml"),
  ("yaml", "text/x-yaml"),
  ("yml", "text/x-yaml"),
  ("zip", "application/zip")]

/-- The extension of a file name: what follows its last dot, unless the name begins there. -/
def extension? (path : String) : Option String :=
  match Text.cutLast? (· == '.') ((Text.split (· == '/') path.toList).getLastD []) with
  | some ([], _) => none
  | some (_, extension) => some (String.ofList extension)
  | none => none

/-- The type of the file at a path; without a known extension it is a stream of bytes. -/
def mediaNameOf (path : String) : String :=
  match extension? path with
  | none => "application/octet-stream"
  | some extension =>
    ((mediaNames.find? (·.1 == Text.lowered extension)).map (·.2)).getD "application/octet-stream"

end SearchGateway.Http
