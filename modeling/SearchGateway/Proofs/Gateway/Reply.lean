import SearchGateway.Gateway.Relay
import SearchGateway.Proofs.Gateway.Presentation

/-!
# The engine's answer comes back

Whatever the engine answers, the client gets its status, in either dialect and with or without
indentation. The body comes back with the value it has, provided that it nests no deeper than the
reader goes: a deeper one becomes a text. An empty body stays empty if the status reports a success
or another place; a failure without a body comes back as `null` (`Server.reply_kept_iff`).
-/

namespace SearchGateway.Gateway

open Elastic (asksPretty)
open Http (Request)
open Json (DocumentOf Says)
open Routing (Dialect)

variable {status : Nat} {body : Bytes} {v : Json}

/-! ## The outcome of an answer -/

namespace Relay

@[simp] theorem status_outcome_answered :
    outcomeStatus (outcome (.answered status body)) = status := by
  simp only [outcome, answerOutcome]
  split <;> rfl

theorem document_outcome_answered (hstatus : status ∉ bodilessStatuses)
    (h : bodyDocument body = some v) : outcomeBody? (outcome (.answered status body)) = some v := by
  simp only [outcome, answerOutcome, if_neg hstatus, h]
  split <;> rfl

/-- For want of a body, a failure has the document `null`. -/
theorem document_outcome_empty (status : Nat) : outcomeBody? (outcome (.answered status [])) =
    if 200 ≤ status ∧ status < 400 then none else some .null := by
  have hnone : (if status ∈ bodilessStatuses then none else bodyDocument []) = none :=
    ite_self none
  simp only [outcome, answerOutcome, hnone]
  split <;> rfl

theorem bodyDocument_of_read (hne : body ≠ []) (h : Json.read body = .ok v) :
    bodyDocument body = some v := by
  simp [bodyDocument, hne, h]

theorem bodyDocument_of_unread {e : Json.SyntaxError} (hne : body ≠ [])
    (h : Json.read body = .error e) :
    bodyDocument body = some (.string (Text.Utf8.decodeLossy body)) := by
  simp [bodyDocument, hne, h]

end Relay

/-! ## What is shown of it -/

variable {outcome : Outcome} {dialect : Dialect} {query : String}

theorem body_shown_cases (dialect : Dialect) (query : String) (outcome : Outcome) :
    (shown dialect query outcome).body = compactBytes (outcomeBody? outcome) ∨
      (shown dialect query outcome).body = (indent (respondWith outcome)).body := by
  cases dialect with
  | native => exact .inl (body_shown_of_compact (.inl rfl))
  | elastic =>
      cases hpretty : asksPretty (plainQuery query) with
      | false => exact .inl (body_shown_of_compact (.inr hpretty))
      | true => exact .inr (body_shown_of_pretty hpretty)

theorem body_shown_of_none (h : outcomeBody? outcome = none) :
    (shown dialect query outcome).body = [] := by
  rcases body_shown_cases dialect query outcome with hbody | hbody
  · rw [hbody, h]
    rfl
  · rw [hbody, indent_respondWith_of_none h, body_respondWith, h]
    rfl

theorem documentOf_shown (h : outcomeBody? outcome = some v) (hordered : v.IsOrdered)
    (hexact : v.IsExact) (hdepth : v.nesting < Json.maxDepth) :
    DocumentOf v (shown dialect query outcome).body := by
  rcases body_shown_cases dialect query outcome with hbody | hbody
  · rw [hbody, h]
    exact Json.documentOf_compact v
  · rw [hbody, (body_indent_of_shallow h hexact hdepth).1, Json.ordered_of_isOrdered hordered]
    exact Json.documentOf_pretty v

namespace Server

variable {server : Server} {world : World} {request : Request}

theorem status_reply
    (h : Handled server world request dialect (Relay.outcome (.answered status body))) :
    (server.serve world request).response.status = status := by
  rw [status_of_handled h, Relay.status_outcome_answered]

theorem empty_reply_iff
    (h : Handled server world request dialect (Relay.outcome (.answered status []))) :
    (server.serve world request).response.body = [] ↔ 200 ≤ status ∧ status < 400 := by
  have hdocument := Relay.document_outcome_empty status
  rw [body_of_handled h]
  split at hdocument
  · rename_i hsuccess
    exact iff_of_true (body_shown_of_none hdocument) hsuccess
  · rename_i hfailure
    exact iff_of_false
      (documentOf_shown hdocument trivial trivial Json.maxDepth_pos).ne_nil hfailure

theorem documentOf_reply (hstatus : status ∉ Relay.bodilessStatuses)
    (h : Handled server world request dialect (Relay.outcome (.answered status body)))
    (hv : Relay.bodyDocument body = some v) (hordered : v.IsOrdered) (hexact : v.IsExact)
    (hdepth : v.nesting < Json.maxDepth) :
    DocumentOf v (server.serve world request).response.body := by
  rw [body_of_handled h]
  exact documentOf_shown (Relay.document_outcome_answered hstatus hv) hordered hexact hdepth

theorem says_reply (hstatus : status ∉ Relay.bodilessStatuses)
    (h : Handled server world request dialect (Relay.outcome (.answered status body)))
    (hv : DocumentOf v body) (hexact : v.IsExact) (hdepth : v.nesting < Json.maxDepth) :
    Says (server.serve world request).response.body v := by
  have hdocument := Relay.bodyDocument_of_read hv.ne_nil (hv.read_eq hexact hdepth)
  exact ⟨v.ordered, documentOf_reply hstatus h hdocument (Json.isOrdered_ordered v) hexact.ordered
    (Nat.lt_of_le_of_lt (Json.nesting_ordered_le v) hdepth), Json.ordered_ordered v⟩

theorem text_reply {e : Json.SyntaxError} (hstatus : status ∉ Relay.bodilessStatuses)
    (h : Handled server world request dialect (Relay.outcome (.answered status body)))
    (hne : body ≠ []) (hread : Json.read body = .error e) :
    DocumentOf (.string (Text.Utf8.decodeLossy body)) (server.serve world request).response.body :=
  documentOf_reply hstatus h (Relay.bodyDocument_of_unread hne hread) trivial trivial
    Json.maxDepth_pos

/-- A text is no longer the array or the object that nests too deep. -/
theorem not_says_reply_deep (hstatus : status ∉ Relay.bodilessStatuses)
    (h : Handled server world request dialect (Relay.outcome (.answered status body)))
    (hv : DocumentOf v body) (hdepth : Json.maxDepth ≤ v.nesting) :
    ¬ Says (server.serve world request).response.body v := by
  rintro ⟨v', hv', hsame⟩
  obtain ⟨e, he⟩ := hv.read_deep hdepth
  obtain ⟨s, rfl⟩ := hv'.eq_string (text_reply hstatus h hv.ne_nil he)
  have hleaf : v.nesting = 0 := by
    cases v with
    | array vs => cases hsame
    | object fs => cases hsame
    | _ => rfl
  rw [hleaf] at hdepth
  exact absurd hdepth (by decide)

/-- The client gets the status that the engine answers. A body with a value comes back with the
same value exactly if it nests no deeper than the reader goes. An empty body comes back empty
exactly if the status reports a success or another place. -/
theorem reply_kept_iff (hbodiless : status ∈ Relay.bodilessStatuses → body = [])
    (h : Handled server world request dialect (Relay.outcome (.answered status body))) :
    (server.serve world request).response.status = status ∧
    (∀ v, DocumentOf v body → v.IsExact →
      (Says (server.serve world request).response.body v ↔ v.nesting < Json.maxDepth)) ∧
    (body = [] →
      ((server.serve world request).response.body = [] ↔ 200 ≤ status ∧ status < 400)) := by
  refine ⟨status_reply h, fun v hv hexact => ?_, ?_⟩
  · have hstatus : status ∉ Relay.bodilessStatuses := fun hmem => hv.ne_nil (hbodiless hmem)
    refine ⟨fun hsaid => ?_, says_reply hstatus h hv hexact⟩
    by_contra hdepth
    exact not_says_reply_deep hstatus h hv (Nat.not_lt.1 hdepth) hsaid
  · rintro rfl
    exact empty_reply_iff h

/-! ## A deletion that the engine refuses -/

/-- The gateway before an engine that always answers the same. -/
def relayingGateway (status : Nat) (body : Bytes) : Server :=
  gateway default { idleService openGuard with
    handler _ := ⟨0, Relay.outcome (.answered status body)⟩ } true

theorem matched_relaying (status : Nat) (body : Bytes) : (relayingGateway status body).matchedRoute?
    (deletion "/es/logs/_doc/1" []) = some (deletionRoute, ["es", "logs", "_doc", "1"]) :=
  matched_deletion _ _

theorem handled_relaying (status : Nat) (body : Bytes)
    (hcall : (serveMatched (relayingGateway status body).router.service logsWorld
      (deletion "/es/logs/_doc/1" []) deletionRoute ["es", "logs", "_doc", "1"]).call.isSome)
    (hfinished : ((relayingGateway status body).serve logsWorld
      (deletion "/es/logs/_doc/1" [])).finished = true) :
    Handled (relayingGateway status body) logsWorld (deletion "/es/logs/_doc/1" []) .elastic
      (Relay.outcome (.answered status body)) :=
  handled_of_matched (by decide) (matched_relaying status body) (fun _ => rfl) hcall hfinished

/-- What an engine may say of a deletion that it refuses. -/
def conflictDocument : Json :=
  .object [("error", .string "version conflict")]

/-- The client is told of a conflict what the engine says of it. -/
theorem reply_kept_conflict :
    Handled (relayingGateway 409 (Text.Utf8.encode conflictDocument.compact)) logsWorld
      (deletion "/es/logs/_doc/1" []) .elastic
      (Relay.outcome (.answered 409 (Text.Utf8.encode conflictDocument.compact))) ∧
    ((relayingGateway 409 (Text.Utf8.encode conflictDocument.compact)).serve logsWorld
      (deletion "/es/logs/_doc/1" [])).response.status = 409 ∧
    Says ((relayingGateway 409 (Text.Utf8.encode conflictDocument.compact)).serve logsWorld
      (deletion "/es/logs/_doc/1" [])).response.body conflictDocument := by
  have hhandled := handled_relaying 409 (Text.Utf8.encode conflictDocument.compact)
    (by decide +kernel) (by
      rw [serve, exchange_of_matched _ (matched_relaying _ _)]
      decide +kernel)
  obtain ⟨hstatus, hsaid, -⟩ := reply_kept_iff (fun hmem => absurd hmem (by decide)) hhandled
  exact ⟨hhandled, hstatus, (hsaid conflictDocument (Json.documentOf_compact conflictDocument)
    ⟨trivial, trivial⟩).2 (by decide +kernel)⟩

/-- A failure without a body does not come back without one. -/
theorem reply_changed_not_found :
    ¬ ∀ (server : Server) (world : World) (request : Request) (dialect : Dialect) (status : Nat)
      (body : Bytes), (status ∈ Relay.bodilessStatuses → body = []) →
      Handled server world request dialect (Relay.outcome (.answered status body)) →
      (server.serve world request).response.status = status ∧
      (∀ v, DocumentOf v body → v.IsExact →
        Says (server.serve world request).response.body v) ∧
      (body = [] → (server.serve world request).response.body = []) := by
  intro hkept
  have hhandled := handled_relaying 404 [] (by decide +kernel) (by
    rw [serve, exchange_of_matched _ (matched_relaying _ _)]
    decide +kernel)
  obtain ⟨-, -, hempty⟩ := hkept _ _ _ _ _ _ (fun _ => rfl) hhandled
  exact absurd ((empty_reply_iff hhandled).1 (hempty rfl)) (by decide)

end Server

end SearchGateway.Gateway
