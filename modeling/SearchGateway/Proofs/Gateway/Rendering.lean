import SearchGateway.Gateway.Failure
import SearchGateway.Proofs.Http.Headers
import SearchGateway.Proofs.Json.Depth

/-!
# The two looks of a failure

A failure declares a status, and each dialect shows the failure on its own. In the Elasticsearch
dialect the body is an envelope in which the failure stands twice, beside the status of the
response. That dialect has no failure for a body that is too long: it shows one as a body that
cannot be parsed, and with the status of that. Every other status is shown as it is declared
(`Failure.render_keeps_status_iff`).
-/

namespace SearchGateway

namespace Elastic

/-- A value has the type, the reason and the index of a failure. -/
structure Describes (value : Json) (f : Failure) : Prop where
  type : value.field? "type" = some (.string f.type)
  reason : value.field? "reason" = some (.string f.reason)
  index : value.field? "index" = f.index?.map .string

/-- A document is the envelope of a failure under a status; the only root cause repeats the
failure. -/
structure IsEnvelope (document : Json) (status : Nat) (f : Failure) : Prop where
  status : document.field? "status" = some (.int status)
  error : ∃ error cause, document.field? "error" = some error ∧ Describes error f ∧
    error.field? "root_cause" = some (.array [cause]) ∧ Describes cause f

variable {f : Failure} {value : Json}

theorem Describes.ordered (h : Describes value f) : Describes value.ordered f where
  type := by rw [Json.field?_ordered, h.type]; rfl
  reason := by rw [Json.field?_ordered, h.reason]; rfl
  index := by rw [Json.field?_ordered, h.index, Option.map_map]; rfl

namespace Failure

/-- The failure in its envelope, with its root cause. -/
def detail (f : Failure) : Json :=
  .object (("root_cause", .array [.object f.summary]) :: f.summary)

theorem describes_summary : Describes (.object f.summary) f := by
  constructor <;> cases f <;> simp [summary, index?, Json.field?]

/-- The root cause has a name of its own and hides nothing of the failure. -/
theorem describes_detail : Describes f.detail f := by
  constructor <;> cases f <;> simp [detail, summary, index?, Json.field?]

theorem rootCause_detail : f.detail.field? "root_cause" = some (.array [.object f.summary]) := by
  cases f <;> simp [detail, summary, index?, Json.field?]

theorem isEnvelope_envelope : IsEnvelope f.envelope.ordered f.status f where
  status := by rw [Json.field?_ordered]; rfl
  error := by
    refine ⟨f.detail.ordered, (Json.object f.summary).ordered, ?_, describes_detail.ordered, ?_,
      describes_summary.ordered⟩
    · rw [Json.field?_ordered]
      rfl
    · rw [Json.field?_ordered, rootCause_detail]
      rfl

/-! ## Reading the envelope -/

theorem isString_summary : ∀ e ∈ f.summary, ∃ text, e.2 = .string text := by
  cases f <;> simp [summary, index?]

theorem isExact_summary : Json.ExactFields f.summary :=
  Json.exactFields_iff.2 fun e he => by
    obtain ⟨text, htext⟩ := isString_summary e he
    rw [htext]
    trivial

theorem nesting_summary : Json.nestingFields f.summary = 0 :=
  Nat.le_zero.1 <| Json.nestingFields_le_iff.2 fun e he => by
    obtain ⟨text, htext⟩ := isString_summary e he
    rw [htext]
    exact Nat.le_refl 0

theorem isInt64_status : Json.IsInt64 f.status := by
  cases f <;> simp [status, Json.IsInt64]

theorem isExact_envelope : f.envelope.IsExact :=
  ⟨⟨⟨isExact_summary, trivial⟩, isExact_summary⟩, isInt64_status, trivial⟩

theorem nesting_envelope : f.envelope.nesting = 4 := by
  simp [envelope, Json.nesting, Json.nestingFields, Json.nestingItems, nesting_summary]

theorem read_response : Json.read f.response.body = .ok f.envelope.ordered := by
  have hnesting : f.envelope.nesting < Json.maxDepth := by
    rw [nesting_envelope]
    decide
  simp only [response, Http.Response.ofJson, Json.read_compact isExact_envelope hnesting]

end Failure

end Elastic

namespace Gateway.Failure

open Routing (Dialect)

variable {f : Failure} {dialect : Dialect} {error : HandlerError}

/-! ## The parts of a response -/

theorem render_eq_document (dialect : Dialect) (h : ∀ error, f ≠ .handler error) :
    (f.render dialect).status = (f.document dialect).status ∧
      (f.render dialect).body = (f.document dialect).body := by
  cases f with
  | handler error => exact absurd rfl (h error)
  | _ => exact ⟨rfl, rfl⟩

/-- The dialects declare one status, but for a body that is too long. -/
theorem status_toElastic_iff (h : ∀ error, f ≠ .handler error) :
    f.toElastic.status = f.status ↔ ¬ ∃ reason, f = .payloadTooLarge reason := by
  cases f with
  | handler error => exact absurd rfl (h error)
  | payloadTooLarge reason =>
      refine iff_of_false ?_ (not_not.2 ⟨reason, rfl⟩)
      simp [toElastic, status, Elastic.Failure.status]
  | _ => exact iff_of_true rfl (by simp)

theorem status_render_iff : (f.render dialect).status = f.status ↔
    ¬ (dialect = .elastic ∧ ∃ reason, f = .payloadTooLarge reason) := by
  by_cases h : ∃ error, f = .handler error
  · obtain ⟨error, rfl⟩ := h
    exact iff_of_true rfl (by simp)
  · rw [not_exists] at h
    rw [(render_eq_document dialect h).1]
    cases dialect with
    | native => exact iff_of_true rfl (by simp)
    | elastic =>
        have hstatus : (f.document .elastic).status = f.toElastic.status := rfl
        simpa only [hstatus, true_and] using status_toElastic_iff h

theorem isEnvelope_render (h : ∀ error, f ≠ .handler error) : ∃ document,
    Json.read (f.render .elastic).body = .ok document ∧
      Elastic.IsEnvelope document (f.render .elastic).status f.toElastic := by
  obtain ⟨hstatus, hbody⟩ := render_eq_document .elastic h
  rw [hstatus, hbody]
  exact ⟨_, Elastic.Failure.read_response, Elastic.Failure.isEnvelope_envelope⟩

theorem challenge_render_iff : (f.render dialect).headers.values "www-authenticate" ≠ [] ↔
    ∃ reason, f = .unauthenticated reason := by
  cases f with
  | unauthenticated reason =>
      refine iff_of_true ?_ ⟨reason, rfl⟩
      rw [render, Http.Response.withHeader, Http.Headers.values_set_self]
      simp
  | _ => cases dialect <;> exact iff_of_false (not_not.2 rfl) (by simp)

/-- A response has the declared status, except where the Elasticsearch dialect shows a body that is
too long. The envelope of that dialect states the status of the response and repeats the failure
as its only root cause. Only a caller without a known credential is asked for one, and a failure
of the handler is the same in both dialects, with its own status and its own body. -/
theorem render_keeps_status_iff (f : Failure) (dialect : Dialect) :
    ((f.render dialect).status = f.status ↔
      ¬ (dialect = .elastic ∧ ∃ reason, f = .payloadTooLarge reason)) ∧
    ((∀ error, f ≠ .handler error) → ∃ document,
      Json.read (f.render .elastic).body = .ok document ∧
        Elastic.IsEnvelope document (f.render .elastic).status f.toElastic) ∧
    ((f.render dialect).headers.values "www-authenticate" ≠ [] ↔
      ∃ reason, f = .unauthenticated reason) ∧
    (∀ error, f = .handler error →
      f.render .native = f.render .elastic ∧ (f.render dialect).status = error.status ∧
        (f.render dialect).body = Text.Utf8.encode error.body.compact) := by
  refine ⟨status_render_iff, isEnvelope_render, challenge_render_iff, ?_⟩
  rintro error rfl
  exact ⟨rfl, rfl, rfl⟩

/-- The body of a request is too long, and the response says that it cannot be parsed. -/
theorem status_render_too_long :
    ((ofBodyError .tooLong).render .elastic).status ≠ (ofBodyError .tooLong).status := by
  decide

/-- An index with a bad name is reported under the status that its failure declares. -/
theorem render_keeps_status_bad_name :
    ((Failure.badRequest (.invalidIndexName "Logs" "must be lowercase")).render .elastic).status =
        400 ∧
      ((Failure.badRequest (.invalidIndexName "Logs" "must be lowercase")).render
        .elastic).headers.values "www-authenticate" = [] ∧
      ∃ document, Json.read ((Failure.badRequest (.invalidIndexName "Logs"
          "must be lowercase")).render .elastic).body = .ok document ∧
        Elastic.IsEnvelope document 400 (.invalidIndexName "Logs" "must be lowercase") := by
  obtain ⟨hstatus, henvelope, hchallenge, -⟩ := render_keeps_status_iff
    (.badRequest (.invalidIndexName "Logs" "must be lowercase")) .elastic
  refine ⟨hstatus.2 (by simp), not_not.1 fun h => ?_, henvelope (by simp)⟩
  obtain ⟨reason, hreason⟩ := hchallenge.1 h
  cases hreason

end Gateway.Failure

end SearchGateway
