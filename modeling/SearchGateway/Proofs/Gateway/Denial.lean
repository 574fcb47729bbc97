import SearchGateway.Proofs.Gateway.Authorization

/-!
# What denied callers learn

A denial is decided before the path, the query, the body or the registry is looked at. Two requests
that need the same permission are therefore denied alike (`Server.denial_reveals_nothing`).
-/

namespace SearchGateway.Gateway

open Http (Request)
open Routing (Route)
open Security (Operation)

/-- The request has been denied: the status says so, and it is not the handler's. -/
def Served.IsDenial (e : Served) : Prop :=
  e.call = none ∧ (e.response.status = 401 ∨ e.response.status = 403)

namespace Server

variable {s : Server} {request request' : Request} {route route' : Route}
  {pieces pieces' : List String} {operation : Operation}

/-! ## One run -/

theorem serve_of_denied (world : World) {denial : Security.Denial}
    (hmatched : s.matchedRoute? request = some (route, pieces))
    (hoperation : route.access.operation? = some operation)
    (hcheck : s.router.service.guard.check request.headers operation = .error denial) :
    s.serve world request =
      { response := asSent request.method
          (s.origins.stamp request (denialResponse route.access.dialect denial))
        events := [.denied operation (denialKind denial)]
        call := none
        finished := true } := by
  refine serve_of_answered world hmatched ?_
  rw [serveMatched, serveRoute_of_denied hoperation hcheck, render_ofDenial]

/-- Only the guard denies. -/
theorem denied_of_isDenial {world : World}
    (hmatched : s.matchedRoute? request = some (route, pieces))
    (hoperation : route.access.operation? = some operation)
    (hdenied : (s.serve world request).IsDenial) :
    ∃ denial, s.router.service.guard.check request.headers operation = .error denial := by
  cases hcheck : s.router.service.guard.check request.headers operation with
  | error denial => exact ⟨denial, rfl⟩
  | ok identity =>
      obtain ⟨hcall, hstatus⟩ := hdenied
      rw [call_serve_of_matched world hmatched] at hcall
      rw [status_serve_of_matched hmatched hcall] at hstatus
      have hadmitted := status_of_admitted hoperation hcheck hcall
      exact absurd (by simpa [serveMatched] using hstatus) hadmitted

/-! ## A caller without roles -/

/-- A server whose guard knows a caller without roles. -/
def strict : Server where
  router :=
    ⟨idleService ⟨true, fun _ => some ⟨"mallory", [], ""⟩, .empty, .ofTokens⟩, documentTable⟩
  origins := {}
  timeout := none
  metrics := false

/-- A request to store a document in an index that exists. -/
def plainCreation : Request where
  method := .post
  path := "/es/logs/_doc"
  query := ""
  headers := editorHeaders
  body := .ofBytes []

/-- A request to store a document under a name that is no text, with a stream that breaks. -/
def brokenCreation : Request where
  method := .post
  path := "/es/%FF/_create/9"
  query := "pretty"
  headers := editorHeaders
  body := ⟨[], some "reset"⟩

/-! ## Two runs -/

/-- If one of two requests with the same method and headers is denied at a route, so is the other
one at a route with the same operation and dialect, whatever else the requests hold and whatever the
registry is: the runs are equal, and each counts a denial and nothing else. -/
theorem denial_reveals_nothing (hmatched : s.matchedRoute? request = some (route, pieces))
    (hmatched' : s.matchedRoute? request' = some (route', pieces'))
    (hoperation : route.access.operation? = some operation)
    (hoperation' : route'.access.operation? = some operation)
    (hdialect : route'.access.dialect = route.access.dialect)
    (hmethod : request'.method = request.method) (hheaders : request'.headers = request.headers)
    {world : World} (hdenied : (s.serve world request).IsDenial) :
    (∀ world', (s.serve world' request').IsDenial ∧
      s.serve world' request' = s.serve world request) ∧
    (∀ world', s.serve world' request = s.serve world request) ∧
    ∃ kind, (s.serve world request).events = [.denied operation kind] := by
  obtain ⟨denial, hcheck⟩ := denied_of_isDenial hmatched hoperation hdenied
  have hrun (world') := serve_of_denied world' hmatched hoperation hcheck
  have hrun' (world') : s.serve world' request' = s.serve world request := by
    rw [serve_of_denied world' hmatched' hoperation' (hheaders ▸ hcheck), hrun, hmethod,
      stamp_congr hheaders, hdialect]
  exact ⟨fun world' => ⟨hrun' world' ▸ hdenied, hrun' world'⟩,
    fun world' => (hrun world').trans (hrun world).symm, denialKind denial, by rw [hrun]⟩

/-- A caller without roles cannot tell an index that exists from a name that is no text. -/
theorem denied_creations :
    strict.matchedRoute? plainCreation =
      some (⟨.post, "/es/:target/_doc", .resolving .documentCreateUpdate .create,
        .handler .documentCreateUpdate⟩, ["es", "logs", "_doc"]) ∧
    strict.matchedRoute? brokenCreation =
      some (⟨.post, "/es/:target/_create/:id", .resolving .documentCreateUpdate .create,
        .handler .documentCreateUpdate⟩, ["es", "%FF", "_create", "9"]) ∧
    (strict.serve logsWorld plainCreation).IsDenial ∧
    ∀ world, (strict.serve world brokenCreation).IsDenial ∧
      strict.serve world brokenCreation = strict.serve logsWorld plainCreation := by
  have hmatched : strict.matchedRoute? plainCreation =
      some (⟨.post, "/es/:target/_doc", .resolving .documentCreateUpdate .create,
        .handler .documentCreateUpdate⟩, ["es", "logs", "_doc"]) := by
    decide +kernel
  have hmatched' : strict.matchedRoute? brokenCreation =
      some (⟨.post, "/es/:target/_create/:id", .resolving .documentCreateUpdate .create,
        .handler .documentCreateUpdate⟩, ["es", "%FF", "_create", "9"]) := by
    decide +kernel
  have hcheck : strict.router.service.guard.check plainCreation.headers .documentCreateUpdate =
      .error (.forbidden .documentCreateUpdate "mallory") := by
    decide +kernel
  have hdenied : (strict.serve logsWorld plainCreation).IsDenial := by
    rw [serve_of_denied logsWorld hmatched rfl hcheck]
    exact ⟨rfl, .inr rfl⟩
  exact ⟨hmatched, hmatched', hdenied,
    (denial_reveals_nothing hmatched hmatched' rfl rfl rfl rfl rfl hdenied).1⟩

end Server

end SearchGateway.Gateway
