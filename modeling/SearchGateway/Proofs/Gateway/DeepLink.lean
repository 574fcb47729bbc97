import SearchGateway.Proofs.Gateway.Console
import SearchGateway.Proofs.Http.Reference

/-!
# The way back to the console

The location that leads back from a place of the console is a relative reference, so it works behind
a proxy as well: whatever path the console has there, a client that resolves the location is led to
the start of the console, gets the page there and is not sent on (`Server.way_back_lands`).
-/

namespace SearchGateway.Gateway

open Http (Request Response)
open Http.Reference (IsPath NoDots noDots_append resolve resolve_ups ups)

namespace Console

variable {files : Files} {path mount rest : String} {request : Request} {response : Response}

/-! ## Locations -/

theorem toList_wayBack (rest : String) :
    (wayBack rest).toList = '.' :: '/' :: ups (rest.toList.count '/') := by
  have hups (n : Nat) : (String.join (List.replicate n "../")).toList = ups n := by
    induction n with
    | zero => rfl
    | succ n ih => simp [List.replicate_succ, String.join_cons, ih, Http.Reference.ups_succ]
  rw [wayBack, String.toList_append, hups]
  rfl

theorem isPath_wayBack (rest : String) : IsPath (wayBack rest) := by
  constructor
  · rw [toList_wayBack]
    rintro ⟨_, h⟩
    cases h
  · intro c hc
    rw [toList_wayBack, ups] at hc
    have hdots : c = '.' ∨ c = '/' := by
      simp only [List.mem_cons, List.mem_flatten, List.mem_replicate] at hc
      grind
    rcases hdots with rfl | rfl <;> decide

/-- The way back leads to the start of the console, under whatever path it is mounted. -/
theorem resolve_wayBack (hmount : NoDots mount) (hrest : NoDots rest) :
    resolve (mount ++ start ++ rest) (wayBack rest) = mount ++ start := by
  have hstart : mount ++ start = mount ++ "/" ++ "ui" ++ "/" := by
    apply String.toList_injective
    simp [start]
  have hui : NoDots "ui" := by decide +kernel
  have hway : wayBack rest = String.ofList ('.' :: '/' :: ups (rest.toList.count '/')) := by
    rw [← toList_wayBack, String.ofList_toList]
  rw [hstart, hway]
  exact resolve_ups (noDots_append hmount hui) hrest

/-! ## Pages -/

theorem values_location_load? (h : load? files path = some response) :
    response.headers.values "location" = [] := by
  simp only [load?] at h
  split at h
  · cases h
  · split at h
    · cases h
      rfl
    · obtain ⟨content, -, rfl⟩ := Option.map_eq_some_iff.1 h
      rfl

/-- The page that loads the application, as it is in the working directory or bundled. -/
def pageOf (files : Files) : Bytes :=
  (fileAt? files "index.html").getD (Text.Utf8.encode indexPage)

/-- A response with the page, which sends the client nowhere. -/
structure ShowsPage (files : Files) (response : Response) : Prop where
  status : response.status = 200
  body : response.body = pageOf files
  location : response.headers.values "location" = []

theorem showsPage_of_load? (h : load? files "index.html" = some response) :
    ShowsPage files response := by
  refine ⟨(showsFile_of_load? h).1, ?_, values_location_load? h⟩
  have hpath : filePath "index.html" = "index.html" := by decide
  have hclimb : ".." ∉ Text.splitAt '/' "index.html" := by decide
  have hbundled : bundled.find? (·.1 == "index.html") =
      some ("index.html", Text.Utf8.encode indexPage) :=
    List.find?_cons_of_pos (by decide)
  unfold pageOf
  -- the content of the bundled page is not looked into
  generalize Text.Utf8.encode indexPage = page at hbundled ⊢
  simp only [load?, hpath, hclimb, if_false] at h
  cases hfile : fileAt? files "index.html" with
  | some content =>
      simp only [hfile] at h
      rw [← Option.some.inj h]
      rfl
  | none =>
      simp only [hfile] at h
      rw [hbundled, Option.map_some, Option.map_some] at h
      rw [Option.getD_none, ← Option.some.inj h]
      rfl

theorem ShowsPage.sent {origins : Http.OriginPolicy} (h : ShowsPage files response) :
    ShowsPage files (asSent .get (origins.stamp request response)) := by
  refine ⟨by simpa using h.status, ?_, (values_location_sent _ _ _ _).trans h.location⟩
  rw [asSent, if_neg (by decide), Response.body_withLength]
  exact h.body

theorem eq_wayBack_of_location {location : Bytes} (files : Files)
    (hpath : request.path = start ++ rest) (hread : request.method = .get)
    (h : location ∈
      (serve files (pageFor rest) request (parametersOf rest)).response.headers.values "location") :
    location = Text.Utf8.encode (wayBack rest) := by
  by_cases hrest : rest = ""
  · obtain ⟨response, hresponse⟩ := Option.isSome_iff_exists.1 (isSome_load?_index files)
    simp only [pageFor, hrest, if_true, serve, hresponse, Option.getD_some] at h
    rw [Exchange.answered, values_location_load? hresponse] at h
    cases h
  · simp only [pageFor, hrest, if_false, serve] at h
    split at h
    · cases h
    · split at h
      · rename_i hload
        rw [Exchange.answered, values_location_load? hload] at h
        cases h
      · rw [unmatched_of_read hpath hread] at h
        exact List.mem_singleton.1 h

end Console

namespace Server

open Console (ShowsPage start wayBack)

variable {server : Server} {settings : Settings} {service : Service} {metrics : Bool}
  {mount rest : String}

theorem showsPage_start (hserver : Server.standard settings service metrics = .ok server)
    {request : Request} (hmethod : request.method = .get) (hpath : request.path = start)
    (world : World) : ShowsPage world.files (server.serve world request).response := by
  have hstart : request.path = start ++ "" := by rw [hpath, String.append_empty]
  obtain ⟨response, hresponse⟩ :=
    Option.isSome_iff_exists.1 (Console.isSome_load?_index world.files)
  have hshown := Console.showsPage_of_load? hresponse
  rw [serve_console hserver hstart hmethod world]
  simp only [Console.pageFor, if_true, Console.serve, hresponse, Option.getD_some]
  exact hshown.sent

/-- The way back from a place of the console is a reference that leads to the start of the console,
whatever path the console is mounted under. A client that reads a place is sent nowhere else, and at
the start it gets the page and is not sent on. -/
theorem way_back_lands (hserver : Server.standard settings service metrics = .ok server)
    (hmount : NoDots mount) (hrest : NoDots rest) :
    IsPath (wayBack rest) ∧
    resolve (mount ++ start ++ rest) (wayBack rest) = mount ++ start ∧
    (∀ (world : World) (request : Request), request.method = .get →
      request.path = start ++ rest →
      ∀ location ∈ (server.serve world request).response.headers.values "location",
        location = Text.Utf8.encode (wayBack rest)) ∧
    ∀ (world : World) (request : Request), request.method = .get → request.path = start →
      ShowsPage world.files (server.serve world request).response := by
  refine ⟨Console.isPath_wayBack rest, Console.resolve_wayBack hmount hrest,
    fun world request hmethod hpath location hlocation => ?_,
    fun world request hmethod hpath => showsPage_start hserver hmethod hpath world⟩
  rw [serve_console hserver hpath hmethod world, Console.values_location_sent] at hlocation
  exact Console.eq_wayBack_of_location world.files hpath hmethod hlocation

/-- A place with empty segments and an escaped slash, behind a proxy. -/
theorem way_back_lands_proxied :
    Server.standard default (idleService openGuard) true = .ok openGateway ∧
    NoDots "/tools//search" ∧ NoDots "index//logs%2F/" ∧
    resolve "/tools//search/ui/index//logs%2F/" "./../../../" = "/tools//search/ui/" ∧
    ShowsPage logsWorld.files
      (openGateway.serve logsWorld (plainRequest .get "/ui/")).response := by
  have hserver : Server.standard default (idleService openGuard) true = .ok openGateway :=
    standard_eq_gateway default (idleService openGuard) true
  have hmount : NoDots "/tools//search" := by decide +kernel
  have hrest : NoDots "index//logs%2F/" := by decide +kernel
  obtain ⟨-, hlands, -, hshows⟩ := way_back_lands hserver hmount hrest
  have hpath : "/tools//search" ++ start ++ "index//logs%2F/" =
      "/tools//search/ui/index//logs%2F/" := by decide +kernel
  have hway : wayBack "index//logs%2F/" = "./../../../" := by decide +kernel
  rw [hpath, hway] at hlands
  exact ⟨hserver, hmount, hrest, hlands, hshows logsWorld (plainRequest .get "/ui/") rfl rfl⟩

end Server

end SearchGateway.Gateway
