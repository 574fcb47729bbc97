import SearchGateway.Proofs.Elastic.MediaRanges
import SearchGateway.Proofs.Gateway.Accounting
import SearchGateway.Proofs.Gateway.ProductHeader
import SearchGateway.Proofs.Http.Headers

/-!
# Media types that are refused

The conventions check what a client sends and what it accepts before anything else. A list of types
that it accepts is refused by its first one and the parameters of all, so what becomes of it need
not be what its members deserve (`Server.refusesMediaType_iff`).
-/

namespace SearchGateway.Gateway

open Elastic (IsVendor PassesAsOne Refused)
open Http (Headers Request)
open Routing (Endpoint Route)

variable {headers : Headers} {request : Request}
  {name text : String} {failure : Elastic.Failure}

theorem type_of_checkMediaType (h : checkMediaType headers name = .error failure) :
    failure.type = "media_type_header_exception" := by
  unfold checkMediaType at h
  split at h
  · cases h
  · split at h
    · cases h
    · rename_i e _
      cases h
      cases e <;> rfl

theorem exists_error_checkMediaType_iff
    (hvalue : headers.first? name = some (Text.Utf8.encode text)) :
    (∃ failure, checkMediaType headers name = .error failure) ↔
      Http.ReadsAs (Text.Utf8.encode text) text ∧ Refused text := by
  rw [checkMediaType, hvalue, Option.bind_some]
  cases hread : Http.visibleText? (Text.Utf8.encode text) with
  | none =>
      have hnot : ¬ Http.ReadsAs (Text.Utf8.encode text) text := fun h =>
        absurd (hread.symm.trans (Http.visibleText?_eq_some_iff.2 h)) (by simp)
      simp [hnot]
  | some found =>
      have hreads := Http.visibleText?_eq_some_iff.1 hread
      obtain rfl := Text.Utf8.encode_injective hreads.bytes
      simp only [hreads, true_and, Refused]
      cases Elastic.plainType text <;> simp

/-- Only a media type is refused as one. -/
theorem exists_mediaType_keepConventions_iff (s : Service) (endpoint : Endpoint)
    (htype : checkMediaType request.headers "content-type" = .ok ()) :
    (∃ failure, keepConventions s endpoint request = .error failure ∧
      failure.type = "media_type_header_exception") ↔
        ∃ failure, checkMediaType request.headers "accept" = .error failure := by
  constructor
  · rintro ⟨failure, hkept, hfailure⟩
    unfold keepConventions at hkept
    simp only [htype, ok_bind, bind_eq_error_iff, mapError_eq_error_iff, pure_eq_ok, reduceCtorEq,
      and_false, exists_false, or_false] at hkept
    rcases hkept with h | ⟨_, _, ⟨e, _, rfl⟩ | ⟨_, _, ⟨e, _, rfl⟩ | ⟨_, _, e, _, rfl⟩⟩⟩
    · exact ⟨failure, h⟩
    · cases e <;> simp [Elastic.ParameterError.failure, Elastic.Failure.type] at hfailure
    · simp [Elastic.Failure.type] at hfailure
    · cases e <;> simp [Elastic.PayloadError.failure, Elastic.Failure.type] at hfailure
  · rintro ⟨failure, haccept⟩
    refine ⟨failure, ?_, type_of_checkMediaType haccept⟩
    simp only [keepConventions, htype, haccept, ok_bind, error_bind]

namespace Server

variable {server : Server} {world : World} {route : Route} {pieces : List String}
  {first : String} {rest : List String}

/-- A server turns a request away for one of its media types. -/
def RefusesMediaType (server : Server) (world : World) (request : Request) : Prop :=
  .refused "media_type_header_exception" ∈ (server.serve world request).events

theorem reachesStage_conventions (hmatched : server.matchedRoute? request = some (route, pieces))
    (hdialect : route.access.dialect = .elastic)
    (hadmitted : ¬ Denies server.router.service.guard route request) :
    server.ReachesStage world request route pieces .conventions := by
  refine ⟨hmatched, (route.access.operation?.map Routing.Stage.authorization).toList,
    (route.access.policy?.map Routing.Stage.targets).toList, ?_, ?_⟩
  · rw [Routing.Access.stages, if_pos hdialect, List.append_assoc, List.singleton_append]
  · intro earlier hearlier
    obtain ⟨operation, hoperation, rfl⟩ :=
      Option.map_eq_some_iff.1 (Option.mem_toList.1 hearlier)
    cases hcheck : server.router.service.guard.check request.headers operation with
    | ok identity => exact ⟨identity, hcheck⟩
    | error denial => exact absurd ⟨operation, denial, hoperation, hcheck⟩ hadmitted

theorem refusesMediaType_iff_error
    (hmatched : server.matchedRoute? request = some (route, pieces))
    (hdialect : route.access.dialect = .elastic)
    (hadmitted : ¬ Denies server.router.service.guard route request)
    (htype : checkMediaType request.headers "content-type" = .ok ()) :
    server.RefusesMediaType world request ↔
      ∃ failure, checkMediaType request.headers "accept" = .error failure := by
  rw [← exists_mediaType_keepConventions_iff server.router.service route.endpoint htype,
    RefusesMediaType, mem_events_iff]
  constructor
  · intro hcounts
    generalize hevent : Event.refused "media_type_header_exception" = e at hcounts
    cases hcounts with
    | refused hreaches hkept =>
        cases hmatched.symm.trans hreaches.1
        exact ⟨_, hkept, (Event.refused.inj hevent).symm⟩
    | _ => cases hevent
  · rintro ⟨failure, hkept, hfailure⟩
    exact hfailure ▸ .refused (reachesStage_conventions hmatched hdialect hadmitted) hkept

/-- A list of the types that a client accepts is refused exactly if it can be read and its first
range is one of the vendor's, unless the list passes as one range. So it is refused for a member
that is refused on its own, and for nothing else, exactly if that member is the first one, or if the
other members are such that the list does not pass. -/
theorem refusesMediaType_iff
    (hmatched : server.matchedRoute? request = some (route, pieces))
    (hdialect : route.access.dialect = .elastic)
    (hadmitted : ¬ Denies server.router.service.guard route request)
    (htype : checkMediaType request.headers "content-type" = .ok ())
    (htext : text = Text.joinWith ',' (first :: rest))
    (haccept : request.headers.first? "accept" = some (Text.Utf8.encode text)) (world : World) :
    (server.RefusesMediaType world request ↔ Http.ReadsAs (Text.Utf8.encode text) text ∧
      IsVendor first ∧ ¬ PassesAsOne first rest) ∧
    (Http.ReadsAs (Text.Utf8.encode text) text →
      ((server.RefusesMediaType world request ↔ ∃ range ∈ first :: rest, Refused range) ↔
        Refused first ∨
          (IsVendor first ∧ ¬ PassesAsOne first rest ↔ ∃ range ∈ rest, Refused range))) ∧
    (¬ Http.ReadsAs (Text.Utf8.encode text) text →
      ((server.RefusesMediaType world request ↔ ∃ range ∈ first :: rest, Refused range) ↔
        ∀ range ∈ first :: rest, ¬ Refused range)) := by
  have hrefuses : server.RefusesMediaType world request ↔
      Http.ReadsAs (Text.Utf8.encode text) text ∧ IsVendor first ∧ ¬ PassesAsOne first rest := by
    rw [refusesMediaType_iff_error hmatched hdialect hadmitted htype,
      exists_error_checkMediaType_iff haccept, htext, Elastic.refused_joinWith_iff]
  refine ⟨hrefuses, fun hreads => ?_, fun hreads => ?_⟩
  · have hfirst : Refused first → IsVendor first ∧ ¬ PassesAsOne first rest := by
      intro hrefused
      obtain ⟨hvendor, hplain⟩ := Elastic.refused_iff.1 hrefused
      exact ⟨hvendor, fun hpasses =>
        hplain ⟨hpasses.plain, hpasses.served first List.mem_cons_self⟩⟩
    rw [hrefuses, and_iff_right hreads, List.exists_mem_cons_iff]
    by_cases hrefused : Refused first
    · simp only [hrefused, hfirst hrefused, true_or, not_false_eq_true, and_self]
    · simp only [hrefused, false_or]
  · simp only [hrefuses, hreads, false_and, false_iff, not_exists, not_and]

def deletionAccepting (text : String) : Request :=
  deletion "/es/logs/_doc/1" [("accept", Text.Utf8.encode text)]

theorem matched_deletionAccepting (text : String) :
    openGateway.matchedRoute? (deletionAccepting text) =
      some (deletionRoute, ["es", "logs", "_doc", "1"]) := by
  have hmatched : openGateway.matchedRoute? (deletion "/es/logs/_doc/1" []) =
      some (deletionRoute, ["es", "logs", "_doc", "1"]) :=
    matched_deletion default (idleService openGuard)
  rw [← hmatched]
  exact matchedRoute?_congr rfl rfl

/-- A type of the vendor with a version and a weight, and a plain alternative. -/
def weightedType : String := "application/vnd.elasticsearch+json; compatible-with=8; q=1"

/-- A list of that type and a plain one. -/
def weightedList : String := Text.joinWith ',' [weightedType, " text/plain"]

/-- The weight stands between the version and the comma, so the list passes. -/
theorem refusesMediaType_iff_weighted :
    openGateway.matchedRoute? (deletionAccepting weightedList) =
      some (deletionRoute, ["es", "logs", "_doc", "1"]) ∧
    PassesAsOne weightedType [" text/plain"] ∧
    ¬ openGateway.RefusesMediaType logsWorld (deletionAccepting weightedList) := by
  have hmatched := matched_deletionAccepting weightedList
  have hplain : Elastic.plainType weightedList = .ok (some .json) := by decide +kernel
  have hvendor : IsVendor weightedType := ⟨"json", by decide +kernel⟩
  have hpasses : PassesAsOne weightedType [" text/plain"] := by
    by_contra hpasses
    obtain ⟨e, he⟩ := Elastic.refused_joinWith_iff.2 ⟨hvendor, hpasses⟩
    cases hplain.symm.trans he
  have htext : weightedList = Text.joinWith ',' (weightedType :: [" text/plain"]) := rfl
  have hiff := (refusesMediaType_iff hmatched rfl (not_denies_of_disabled rfl) rfl htext rfl
    logsWorld).1
  exact ⟨hmatched, hpasses, fun hrefuses => (hiff.1 hrefuses).2.2 hpasses⟩

/-- A type of the vendor with a version that is served. -/
def versionedType : String := "application/vnd.elasticsearch+json; compatible-with=8"

/-- A list of that type and a plain one. -/
def versionedList : String := Text.joinWith ',' [versionedType, " text/plain"]

/-- A list with a plain alternative after a version is refused, though none of its ranges is. -/
theorem refusesMediaType_of_no_range :
    ¬ ∀ (settings : Settings) (service : Service) (metrics : Bool) (server : Server)
      (world : World) (request : Request) (route : Route) (pieces : List String)
      (ranges : List String), Server.standard settings service metrics = .ok server →
      server.matchedRoute? request = some (route, pieces) → route.access.dialect = .elastic →
      ¬ Denies service.guard route request →
      checkMediaType request.headers "content-type" = .ok () →
      (∀ range ∈ ranges, ',' ∉ range.toList) → ranges ≠ [] →
      request.headers.first? "accept" = some (Text.Utf8.encode (Text.joinWith ',' ranges)) →
      (server.RefusesMediaType world request ↔ ∃ range ∈ ranges, Refused range) := by
  intro hall
  have hmatched := matched_deletionAccepting versionedList
  have hdenies : ¬ Denies openGateway.router.service.guard deletionRoute
      (deletionAccepting versionedList) := not_denies_of_disabled rfl
  have hnone : (checkMediaType (deletionAccepting versionedList).headers "accept").toOption =
      none := by
    decide +kernel
  have hrefuses : openGateway.RefusesMediaType logsWorld (deletionAccepting versionedList) := by
    rw [refusesMediaType_iff_error hmatched rfl hdenies rfl]
    cases hcheck : checkMediaType (deletionAccepting versionedList).headers "accept" with
    | ok _ => simp [hcheck, Except.toOption] at hnone
    | error failure => exact ⟨failure, rfl⟩
  have hserver : Server.standard default (idleService openGuard) true = .ok openGateway :=
    standard_eq_gateway default (idleService openGuard) true
  obtain ⟨range, hrange, e, he⟩ := (hall default (idleService openGuard) true openGateway logsWorld
    _ _ _ [versionedType, " text/plain"] hserver hmatched rfl hdenies rfl (by decide +kernel)
    (by simp) rfl).1 hrefuses
  have haccepted : ∀ range ∈ [versionedType, " text/plain"],
      (Elastic.plainType range).toOption.isSome := by
    decide +kernel
  have hsome := haccepted range hrange
  rw [he] at hsome
  cases hsome

end Server

end SearchGateway.Gateway
