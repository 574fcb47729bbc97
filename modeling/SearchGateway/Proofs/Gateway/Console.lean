import SearchGateway.Proofs.Gateway.Selection
import SearchGateway.Proofs.Http.Headers

/-!
# Reading below the console

A request to read a path below `/ui/` is answered with a file or led back to the console, provided
that the path is text. If it is not, the answer is a bad request, and any other method finds nothing
there (`Server.reads_console_iff`).
-/

namespace SearchGateway.Gateway

open Http (Method Request Response)
open Routing (Fits Pattern)

namespace Console

variable {files : Files} {path rest : String} {request : Request} {response : Response}

/-! ## Files -/

/-- A response with the content of a file of the working directory or a bundled one. -/
def ShowsFile (files : Files) (response : Response) : Prop :=
  response.status = 200 ∧ ∃ file ∈ files ++ bundled, response.body = file.2

theorem exists_mem_of_fileAt? {content : Bytes} (h : fileAt? files path = some content) :
    ∃ file ∈ files, content = file.2 := by
  unfold fileAt? at h
  split at h
  · obtain ⟨file, hfile, rfl⟩ := Option.map_eq_some_iff.1 h
    exact ⟨file, List.mem_reverse.1 (List.mem_of_find?_eq_some hfile), rfl⟩
  · cases h

theorem showsFile_of_load? (h : load? files path = some response) : ShowsFile files response := by
  simp only [load?] at h
  split at h
  · cases h
  · split at h
    · rename_i content hcontent
      cases h
      obtain ⟨file, hfile, rfl⟩ := exists_mem_of_fileAt? hcontent
      exact ⟨rfl, file, List.mem_append_left _ hfile, rfl⟩
    · obtain ⟨content, hcontent, rfl⟩ := Option.map_eq_some_iff.1 h
      obtain ⟨file, hfile, rfl⟩ := Option.map_eq_some_iff.1 hcontent
      exact ⟨rfl, file, List.mem_append_right _ (List.mem_of_find?_eq_some hfile), rfl⟩

theorem isSome_load?_index (files : Files) : (load? files "index.html").isSome := by
  have hpath : filePath "index.html" = "index.html" := by decide
  have hclimb : ".." ∉ Text.splitAt '/' "index.html" := by decide
  have hbundled : (bundled.find? (·.1 == "index.html")).isSome := by decide
  simp only [load?, hpath, hclimb, if_false]
  split
  · rfl
  · simpa using hbundled

/-! ## Places -/

/-- A response that leads back to the console from a place below it. -/
def LeadsBack (rest : String) (response : Response) : Prop :=
  response.status = 302 ∧
    response.headers.values "location" = [Text.Utf8.encode (wayBack rest)]

theorem placeOf?_start (rest : String) : placeOf? (start ++ rest) = some rest := by
  have hafter : Text.after? start.toList (start ++ rest).toList = some rest.toList :=
    Text.after?_eq_some_iff.2 String.toList_append
  rw [placeOf?, hafter, Option.map_some, String.ofList_toList]

theorem unmatched_of_read (hpath : request.path = start ++ rest) (hread : request.method = .get) :
    unmatched request =
      .answered (.redirect 302 (wayBack rest)) [.unmatched request.method.name] := by
  simp [unmatched, hpath, hread, placeOf?_start]

theorem unmatched_of_not_read (hget : request.method ≠ .get) (hhead : request.method ≠ .head) :
    unmatched request = .answered (.ofStatus 404) [.unmatched request.method.name] := by
  simp [unmatched, hget, hhead]

theorem pieces?_start (rest : String) :
    Routing.pieces? (start ++ rest) = some ("ui" :: Text.splitAt '/' rest) := by
  have htext : (start ++ rest).toList = '/' :: 'u' :: 'i' :: '/' :: rest.toList :=
    String.toList_append
  simp [Routing.pieces?, Text.splitAt, htext, Text.split]

/-! ## Pages -/

/-- The page for a path below the console, by what follows the start. -/
def pageFor (rest : String) : Page :=
  if rest = "" then .index else .file

theorem splitAt_eq_singleton_iff : Text.splitAt '/' rest = [""] ↔ rest = "" := by
  constructor
  · intro h
    rw [← Text.joinWith_splitAt '/' rest, h]
    rfl
  · rintro rfl
    rfl

theorem fits_page_iff {page : Page} :
    Fits (Pattern.ofPath page.path) ("ui" :: Text.splitAt '/' rest) ↔ page = pageFor rest := by
  obtain ⟨piece, pieces, hpieces⟩ : ∃ piece pieces, Text.splitAt '/' rest = piece :: pieces :=
    List.exists_cons_of_ne_nil (by simp [Text.splitAt, Text.split_ne_nil])
  have hempty : piece = "" ∧ pieces = [] ↔ rest = "" := by
    simpa [hpieces] using @splitAt_eq_singleton_iff rest
  have hdoor : Pattern.ofPath Page.door.path = [.literal "ui"] := by decide +kernel
  have hindex : Pattern.ofPath Page.index.path = [.literal "ui", .literal ""] := by decide +kernel
  have hfile : Pattern.ofPath Page.file.path = [.literal "ui", .rest "path"] := by decide +kernel
  have hfits : Fits (Pattern.ofPath page.path) ("ui" :: piece :: pieces) ↔
      page = .index ∧ (piece = "" ∧ pieces = []) ∨ page = .file ∧ ¬ (piece = "" ∧ pieces = []) := by
    rw [← Routing.fits_iff]
    cases page with
    | door => simp [hdoor, Pattern.fits]
    | index => cases pieces <;> simp [hindex, Pattern.fits, @eq_comm _ "" piece]
    | file => simp [hfile, Pattern.fits, imp_iff_not_or]
  rw [hpieces, hfits, hempty, pageFor]
  by_cases hrest : rest = "" <;> simp [hrest]

theorem pathParameters_file (rest : String) :
    pathParameters (Pattern.ofPath Page.file.path) ("ui" :: Text.splitAt '/' rest) =
      (pieceText? rest).map fun text => .ofList [("path", text)] := by
  have hpattern : Pattern.ofPath Console.Page.file.path = [.literal "ui", .rest "path"] := by
    decide +kernel
  have hbind : (Pattern.ofPath Console.Page.file.path).bind ("ui" :: Text.splitAt '/' rest) =
      [("path", rest)] := by
    rw [hpattern]
    simp [Pattern.bind, Text.joinWith_splitAt]
  rw [pathParameters, hbind]
  cases htext : pieceText? rest <;> simp_all [pieceText?]

/-- The parameters of the page for a path below the console. -/
def parametersOf (rest : String) : Option (Keyed String) :=
  pathParameters (Pattern.ofPath (pageFor rest).path) ("ui" :: Text.splitAt '/' rest)

theorem response_serve_of_text {text : String} (files : Files)
    (hpath : request.path = start ++ rest) (hread : request.method = .get)
    (htext : pieceText? rest = some text) :
    ShowsFile files (serve files (pageFor rest) request (parametersOf rest)).response ∨
      LeadsBack rest (serve files (pageFor rest) request (parametersOf rest)).response := by
  by_cases hrest : rest = ""
  · obtain ⟨response, hresponse⟩ := Option.isSome_iff_exists.1 (isSome_load?_index files)
    simp only [pageFor, hrest, if_true, serve, hresponse]
    exact .inl (showsFile_of_load? hresponse)
  · simp only [parametersOf, pageFor, hrest, if_false, serve, pathParameters_file, htext,
      Option.map_some]
    cases hload : load? files (((Keyed.ofList [("path", text)]).get? "path").getD "") with
    | some response => exact .inl (showsFile_of_load? hload)
    | none =>
        simp only [unmatched_of_read hpath hread]
        exact .inr ⟨rfl, rfl⟩

theorem status_serve_of_not_text (files : Files) (request : Request)
    (htext : pieceText? rest = none) :
    (serve files (pageFor rest) request (parametersOf rest)).response.status = 400 := by
  have hrest : rest ≠ "" := by
    rintro rfl
    exact absurd htext (by decide +kernel)
  simp only [parametersOf, pageFor, hrest, if_false, serve, pathParameters_file, htext,
    Option.map_none]
  rfl

/-! ## Sending -/

theorem values_location_sent (origins : Http.OriginPolicy) (request : Request)
    (response : Response) (method : Method) :
    (asSent method (origins.stamp request response)).headers.values "location" =
      response.headers.values "location" := by
  have hlength (response : Response) :
      (asSent method response).headers.values "location" =
        response.headers.values "location" := by
    unfold asSent
    split_ifs <;> exact Response.values_withLength (by decide)
  rw [hlength, Http.OriginPolicy.values_stamp (by decide)]

theorem ShowsFile.sent {origins : Http.OriginPolicy} (h : ShowsFile files response) :
    ShowsFile files (asSent .get (origins.stamp request response)) := by
  obtain ⟨hstatus, file, hfile, hbody⟩ := h
  refine ⟨by simpa using hstatus, file, hfile, ?_⟩
  rw [asSent, if_neg (by decide), Response.body_withLength]
  exact hbody

theorem LeadsBack.sent {origins : Http.OriginPolicy} (h : LeadsBack rest response) :
    LeadsBack rest (asSent .get (origins.stamp request response)) :=
  ⟨by simpa using h.1, (values_location_sent origins request response .get).trans h.2⟩

end Console

namespace Server

variable {server : Server} {settings : Settings} {service : Service} {metrics : Bool}
  {request : Request} {rest : String}

theorem siteFor?_console (hserver : Server.standard settings service metrics = .ok server)
    (hpath : request.path = Console.start ++ rest) :
    siteFor? server.sites request.path =
      some (.page (Console.pageFor rest), "ui" :: Text.splitAt '/' rest) := by
  have hpieces : Routing.pieces? request.path = some ("ui" :: Text.splitAt '/' rest) :=
    hpath ▸ Console.pieces?_start rest
  have hpage : .page (Console.pageFor rest) ∈ server.sites :=
    List.mem_append_left _ (List.mem_append_right _ (List.mem_map.2 ⟨_, by
      cases Console.pageFor rest <;> decide, rfl⟩))
  obtain ⟨found, hfound⟩ := exists_siteFor? hpieces hpage (Console.fits_page_iff.2 rfl)
  obtain ⟨-, hmem, hfits, -⟩ := siteFor?_eq_some hfound
  rw [hfound]
  cases found with
  | page page => rw [Console.fits_page_iff.1 hfits]
  | metrics => exact absurd (head?_of_fits_metrics hfits) (by simp)
  | declared path => exact absurd hfits (not_fits_of_declared hserver hmem (.inl rfl))

/-- A request below the console that reads is served a page. -/
theorem route_console (hserver : Server.standard settings service metrics = .ok server)
    (hpath : request.path = Console.start ++ rest) (hmethod : request.method = .get)
    (world : World) :
    server.route world request =
      Console.serve world.files (Console.pageFor rest) request (Console.parametersOf rest) := by
  simp only [Server.route, siteFor?_console hserver hpath, serveAt, serveSite?, hmethod, true_or,
    if_true]
  rfl

/-- Other requests below the console than those that read or ask about other origins find nothing
there. -/
theorem route_console_of_not_read
    (hserver : Server.standard settings service metrics = .ok server)
    (hpath : request.path = Console.start ++ rest) (hget : request.method ≠ .get)
    (hhead : request.method ≠ .head) (world : World) :
    server.route world request =
      .answered ((Response.ofStatus 404).withHeader "allow" (allowValue [.get]))
        [.unmatched request.method.name] := by
  simp only [Server.route, siteFor?_console hserver hpath, serveAt, serveSite?, hget, hhead,
    or_self, if_false, Console.unmatched_of_not_read hget hhead]
  rfl

theorem serve_console (hserver : Server.standard settings service metrics = .ok server)
    (hpath : request.path = Console.start ++ rest) (hmethod : request.method = .get)
    (world : World) :
    (server.serve world request).response = asSent .get (server.origins.stamp request
      (Console.serve world.files (Console.pageFor rest) request
        (Console.parametersOf rest)).response) := by
  have hroute := route_console hserver hpath hmethod world
  rw [serve_of_route (by rw [hmethod]; decide) (by rw [hroute]; exact call_console), hroute,
    hmethod]
  rfl

theorem status_console_of_not_text
    (hserver : Server.standard settings service metrics = .ok server)
    (hpath : request.path = Console.start ++ rest) (hmethod : request.method = .get)
    (htext : pieceText? rest = none) (world : World) :
    (server.serve world request).response.status = 400 := by
  rw [serve_console hserver hpath hmethod world, status_asSent, status_stamp,
    Console.status_serve_of_not_text world.files request htext]

/-- Reading below the console of a server gives a file or leads back to the console exactly if what
follows the start of the path is text; if it is not, the request is a bad one. Any other request
there finds nothing, and is led nowhere. -/
theorem reads_console_iff (hserver : Server.standard settings service metrics = .ok server)
    (hpath : request.path = Console.start ++ rest) (world : World) :
    (request.method = .get →
      ((Console.ShowsFile world.files (server.serve world request).response ∨
          Console.LeadsBack rest (server.serve world request).response) ↔
        (pieceText? rest).isSome) ∧
      (pieceText? rest = none → (server.serve world request).response.status = 400)) ∧
    (request.method ∉ [.get, .head, .options] →
      (server.serve world request).response.status = 404 ∧
        (server.serve world request).response.headers.values "location" = []) := by
  refine ⟨fun hmethod => ⟨⟨fun h => ?_, fun htext => ?_⟩, fun htext =>
    status_console_of_not_text hserver hpath hmethod htext world⟩, fun hmethod => ?_⟩
  · by_contra htext
    have hstatus := status_console_of_not_text hserver hpath hmethod
      (Option.not_isSome_iff_eq_none.1 htext) world
    rcases h with h | h
    · exact absurd (hstatus.symm.trans h.1) (by decide)
    · exact absurd (hstatus.symm.trans h.1) (by decide)
  · obtain ⟨text, htext⟩ := Option.isSome_iff_exists.1 htext
    rw [serve_console hserver hpath hmethod world]
    exact (Console.response_serve_of_text world.files hpath hmethod htext).imp
      Console.ShowsFile.sent Console.LeadsBack.sent
  · simp only [List.mem_cons, List.not_mem_nil, or_false, not_or] at hmethod
    obtain ⟨hget, hhead, hoptions⟩ := hmethod
    have hroute := route_console_of_not_read hserver hpath hget hhead world
    rw [serve_of_route hoptions (by rw [hroute]; rfl), hroute]
    refine ⟨by simp [Exchange.finish, Exchange.mapResponse, Exchange.answered]; rfl, ?_⟩
    exact (Console.values_location_sent _ _ _ _).trans rfl

/-- A path below the console may be written with percent escapes and climb. -/
theorem reads_console_climbing :
    Server.standard default (idleService openGuard) true = .ok openGateway ∧
    (plainRequest .get "/ui/%C3%A4//../logs").path = Console.start ++ "%C3%A4//../logs" ∧
    (Console.ShowsFile logsWorld.files
        (openGateway.serve logsWorld (plainRequest .get "/ui/%C3%A4//../logs")).response ∨
      Console.LeadsBack "%C3%A4//../logs"
        (openGateway.serve logsWorld (plainRequest .get "/ui/%C3%A4//../logs")).response) := by
  have hserver : Server.standard default (idleService openGuard) true = .ok openGateway :=
    standard_eq_gateway default (idleService openGuard) true
  exact ⟨hserver, rfl, ((reads_console_iff hserver rfl logsWorld).1 rfl).1.2 (by decide +kernel)⟩

/-- A path below the console that is no text leads nowhere. -/
theorem bad_path_below_console :
    ¬ ∀ (settings : Settings) (service : Service) (metrics : Bool) (server : Server),
      Server.standard settings service metrics = .ok server →
      ∀ (request : Request) (rest : String), request.method = .get →
        request.path = Console.start ++ rest →
        ∀ world, Console.ShowsFile world.files (server.serve world request).response ∨
          Console.LeadsBack rest (server.serve world request).response := by
  intro hreads
  have hserver : Server.standard default (idleService openGuard) true = .ok openGateway :=
    standard_eq_gateway default (idleService openGuard) true
  have hpath : (plainRequest .get "/ui/%FF").path = Console.start ++ "%FF" := rfl
  have hstatus := status_console_of_not_text hserver hpath rfl (by decide +kernel) logsWorld
  rcases hreads _ _ _ _ hserver _ _ rfl hpath logsWorld with hshows | hleads
  · exact absurd (hstatus.symm.trans hshows.1) (by decide)
  · exact absurd (hstatus.symm.trans hleads.1) (by decide)

end Server

end SearchGateway.Gateway
