import SearchGateway.Gateway.Relay
import SearchGateway.Proofs.Json.Depth
import SearchGateway.Proofs.Lists
import SearchGateway.Proofs.Routing.Table
import SearchGateway.Proofs.Text.Base64

/-!
# The engine gets what it needs

From the document that is posted for a request, the request can be had back: everything but the hint
at the key of its caller, which no document has (`request?_document`).
-/

namespace SearchGateway

namespace Json

/-! ## Values as texts -/

def text? : Json → Option String
  | .string s => some s
  | _ => none

def texts? : Json → Option (List String)
  | .array items => items.mapM text?
  | _ => none

def textMap? : Json → Option (Keyed String)
  | .object fields =>
    (fields.mapM fun ((key, value) : String × Json) => value.text?.map (key, ·)).map Keyed.ofList
  | _ => none

variable {fields : List (String × Json)} {key : String}

theorem texts?_ofTexts (l : List String) : (ofTexts l).texts? = some l := by
  rw [ofTexts, texts?, mapM_eq_some_iff, List.forall₂_map_left_iff, List.forall₂_same]
  exact fun _ _ => rfl

theorem textMap?_ofKeyed (m : Keyed String) : (ofKeyed (m.map .string)).textMap? = some m := by
  have htexts : (m.map Json.string).entries.mapM
      (fun ((key, value) : String × Json) => value.text?.map (key, ·)) = some m.entries := by
    rw [mapM_eq_some_iff]
    simp only [Keyed.map, List.forall₂_map_left_iff, List.forall₂_same]
    exact fun _ _ => rfl
  rw [ofKeyed, textMap?, htexts, Option.map_some, Keyed.ofList_entries]

/-- If no key is repeated, the first field with a key is the last one. -/
theorem field?_object_of_nodup (hkeys : (fields.map (·.1)).Nodup) :
    (object fields).field? key = (fields.find? (·.1 == key)).map (·.2) := by
  have hreverse : (fields.reverse.map (·.1)).Nodup := by
    rwa [List.map_reverse, List.nodup_reverse]
  ext v
  simp only [field?, Option.map_eq_some_iff, find?_key_eq_some_iff hreverse,
    find?_key_eq_some_iff hkeys, List.mem_reverse]

end Json

namespace Gateway.Relay

variable {r r' : OperationRequest}

/-! ## Reading a document -/

/-- The identity that a value names, without a hint at the key. -/
def identity? (value : Json) : Option Security.Identity := do
  let name ← (value.field? "name").bind Json.text?
  let roles ← (value.field? "roles").bind Json.texts?
  return ⟨name, roles, ""⟩

/-- What a field that may be absent holds. -/
def optional? {α : Type} (read : Json → Option α) : Option Json → Option (Option α)
  | none => some none
  | some value => (read value).map some

/-- The bytes of the body: those that its text stands for in base64 if the document says so, and
otherwise the bytes of the text. -/
def body? (document : Json) : Option Bytes := do
  let text ← (document.field? "body").bind Json.text?
  if (document.field? "body_encoding").bind Json.text? = some "base64" then
    Text.Base64.decode? text
  else return Text.Utf8.encode text

/-- The request that a document is about. -/
def request? (document : Json) : Option OperationRequest := do
  let action ← ((document.field? "action").bind Json.text?).bind Routing.Action.ofToken?
  let method ← (document.field? "method").bind Json.text?
  let parameters ← (document.field? "params").bind Json.textMap?
  let query ← (document.field? "query").bind Json.textMap?
  let targets ← optional? Json.texts? (document.field? "targets")
  let identity ← optional? identity? (document.field? "identity")
  let body ← body? document
  return { action, method := ⟨method⟩, parameters, query, targets, identity, body }

/-- A request without the hint at the key of its caller. -/
def withoutHint (r : OperationRequest) : OperationRequest :=
  { r with identity := r.identity.map fun identity => { identity with keyHint := "" } }

/-! ## What is posted -/

def documentFields (r : OperationRequest) : List (String × Json) :=
  [("action", .string r.action.token),
      ("method", .string r.method.name),
      ("params", .ofKeyed (r.parameters.map .string)),
      ("query", .ofKeyed (r.query.map .string))] ++
    (r.targets.map fun targets => ("targets", Json.ofTexts targets)).toList ++
    (r.identity.map identityField).toList ++
    bodyFields r.body

theorem nodup_documentFields : ((documentFields r).map (·.1)).Nodup := by
  unfold documentFields bodyFields
  cases r.targets <;> cases r.identity <;> split <;> simp [identityField]

/-- A value of texts in sorted fields, no more than two levels deep. -/
structure IsPlain (v : Json) : Prop where
  ordered : v.IsOrdered
  exact : v.IsExact
  nesting : v.nesting ≤ 2

theorem isPlain_string (s : String) : IsPlain (.string s) :=
  ⟨trivial, trivial, Nat.zero_le 2⟩

theorem nesting_ofTexts_le (l : List String) : (Json.ofTexts l).nesting ≤ 1 := by
  refine Nat.succ_le_succ (Json.nestingItems_le_iff.2 fun v hv => ?_)
  obtain ⟨s, -, rfl⟩ := List.mem_map.1 hv
  exact Nat.le_refl 0

theorem isPlain_ofTexts (l : List String) : IsPlain (.ofTexts l) where
  ordered := Json.orderedItems_iff.2 fun v hv => by
    obtain ⟨s, -, rfl⟩ := List.mem_map.1 hv
    trivial
  exact := Json.exactItems_iff.2 fun v hv => by
    obtain ⟨s, -, rfl⟩ := List.mem_map.1 hv
    trivial
  nesting := Nat.le_trans (nesting_ofTexts_le l) (Nat.le_succ 1)

theorem isPlain_ofKeyed (m : Keyed String) : IsPlain (.ofKeyed (m.map .string)) where
  ordered := ⟨(m.map Json.string).sorted, Json.orderedFields_iff.2 fun e he => by
    obtain ⟨entry, -, rfl⟩ := List.mem_map.1 he
    trivial⟩
  exact := Json.exactFields_iff.2 fun e he => by
    obtain ⟨entry, -, rfl⟩ := List.mem_map.1 he
    trivial
  nesting := by
    refine Nat.succ_le_succ (Json.nestingFields_le_iff.2 fun e he => ?_)
    obtain ⟨entry, -, rfl⟩ := List.mem_map.1 he
    exact Nat.zero_le 1

theorem isPlain_identityField (identity : Security.Identity) :
    IsPlain (identityField identity).2 := by
  have hroles := isPlain_ofTexts identity.roles
  have hnesting := nesting_ofTexts_le identity.roles
  have hkeys : "name" < "roles" := by decide
  refine ⟨⟨List.pairwise_pair.2 hkeys, trivial, hroles.ordered, trivial⟩,
    ⟨trivial, hroles.exact, trivial⟩, ?_⟩
  simp only [identityField, Json.nesting, Json.nestingFields]
  omega

theorem isPlain_documentFields : ∀ e ∈ documentFields r, IsPlain e.2 := by
  intro e he
  simp only [documentFields, List.mem_append, Option.mem_toList, Option.map_eq_some_iff] at he
  rcases he with ((he | ⟨targets, -, rfl⟩) | ⟨identity, -, rfl⟩) | he
  · simp only [List.mem_cons, List.not_mem_nil, or_false] at he
    rcases he with rfl | rfl | rfl | rfl
    · exact isPlain_string _
    · exact isPlain_string _
    · exact isPlain_ofKeyed _
    · exact isPlain_ofKeyed _
  · exact isPlain_ofTexts targets
  · exact isPlain_identityField identity
  · unfold bodyFields at he
    split at he <;> simp only [List.mem_cons, List.not_mem_nil, or_false] at he
    · exact he ▸ isPlain_string _
    · rcases he with rfl | rfl <;> exact isPlain_string _

theorem read_document :
    Json.read (Text.Utf8.encode (document r).compact) = .ok (document r).ordered := by
  have hexact : (document r).IsExact :=
    Json.exactFields_iff.2 fun e he => (isPlain_documentFields e he).exact
  have hnesting : (document r).nesting ≤ 3 :=
    Nat.succ_le_succ (Json.nestingFields_le_iff.2 fun e he => (isPlain_documentFields e he).nesting)
  exact Json.read_compact hexact (Nat.lt_of_le_of_lt hnesting (by decide))

/-! ## What is read -/

theorem field?_document (key : String) : (document r).ordered.field? key =
    ((documentFields r).find? (·.1 == key)).map (·.2) := by
  have hfield : (document r).field? key = ((documentFields r).find? (·.1 == key)).map (·.2) :=
    Json.field?_object_of_nodup nodup_documentFields
  rw [Json.field?_ordered, hfield, Option.map_map]
  refine Option.map_congr fun e he => Json.ordered_of_isOrdered ?_
  exact (isPlain_documentFields e (List.mem_of_find?_eq_some he)).ordered

theorem targets_document : (document r).ordered.field? "targets" = r.targets.map Json.ofTexts := by
  rw [field?_document, documentFields, bodyFields]
  cases r.targets <;> cases r.identity <;> split <;> simp [identityField]

theorem identity_document : (document r).ordered.field? "identity" =
    r.identity.map fun identity => (identityField identity).2 := by
  rw [field?_document, documentFields, bodyFields]
  cases r.targets <;> cases r.identity <;> split <;> simp [identityField]

theorem body_document {key : String} (hkey : key = "body" ∨ key = "body_encoding") :
    (document r).ordered.field? key = ((bodyFields r.body).find? (·.1 == key)).map (·.2) := by
  rw [field?_document, documentFields]
  rcases hkey with rfl | rfl <;>
    cases r.targets <;> cases r.identity <;> simp [identityField]

theorem body?_document : body? (document r).ordered = some r.body := by
  -- A text may look like an encoding; the field about it is there for other bodies only.
  rw [body?, body_document (.inl rfl), body_document (.inr rfl), bodyFields]
  cases hbody : Text.Utf8.decode? r.body with
  | some text => simp [Json.text?, Text.Utf8.decode?_eq_some_iff.1 hbody]
  | none => simp [Json.text?, Text.Base64.decode?_encode]

theorem identity?_identityField (identity : Security.Identity) :
    identity? (identityField identity).2 = some { identity with keyHint := "" } := by
  simp [identity?, identityField, Json.field?, Json.text?, Json.texts?_ofTexts]

/-- From its document a request can be had back, but for the hint at the key of its caller. -/
theorem request?_document : request? (document r).ordered = some (withoutHint r) := by
  have haction : (document r).ordered.field? "action" = some (.string r.action.token) :=
    (field?_document _).trans rfl
  have hmethod : (document r).ordered.field? "method" = some (.string r.method.name) :=
    (field?_document _).trans rfl
  have hparameters : (document r).ordered.field? "params" =
      some (.ofKeyed (r.parameters.map .string)) :=
    (field?_document _).trans rfl
  have hquery : (document r).ordered.field? "query" = some (.ofKeyed (r.query.map .string)) :=
    (field?_document _).trans rfl
  have htargets : optional? Json.texts? (r.targets.map Json.ofTexts) = some r.targets := by
    cases r.targets <;> simp [optional?, Json.texts?_ofTexts]
  have hidentity : optional? identity? (r.identity.map fun identity => (identityField identity).2) =
      some (r.identity.map fun identity => { identity with keyHint := "" }) := by
    cases r.identity <;> simp [optional?, identity?_identityField]
  simp only [request?, haction, hmethod, hparameters, hquery, targets_document, identity_document,
    body?_document, htargets, hidentity]
  simp [Json.text?, Routing.Action.ofToken?_token, Json.textMap?_ofKeyed, withoutHint]

theorem location_injective {url : String} {action action' : Routing.Action}
    (h : location url action = location url action') : action = action' := by
  have htoken := congrArg String.toList h
  simp only [location, String.toList_append, List.append_assoc, List.append_cancel_left_eq]
    at htoken
  exact Routing.Action.token_injective (String.toList_inj.1 htoken)

/-- What is posted for a request determines the request but for the hint at the key of its caller,
and so no other request posts the same. The address it is posted to is that of the action which
the document names, and of no other action. -/
theorem posted_determines_request :
    (∀ r : OperationRequest,
      (Json.read (Text.Utf8.encode (document r).compact)).toOption.bind request? =
        some (withoutHint r)) ∧
    (∀ r r' : OperationRequest,
      Text.Utf8.encode (document r).compact = Text.Utf8.encode (document r').compact →
        withoutHint r = withoutHint r') ∧
    (∀ (url : String) (r : OperationRequest), ∃ posted token,
      Json.read (Text.Utf8.encode (document r).compact) = .ok posted ∧
        posted.field? "action" = some (.string token) ∧
        location url r.action = base url ++ "/_operations/" ++ token ∧
        ∀ action, location url action = location url r.action → action.token = token) := by
  have hback (r : OperationRequest) :
      (Json.read (Text.Utf8.encode (document r).compact)).toOption.bind request? =
        some (withoutHint r) := by
    rw [read_document]
    exact request?_document
  refine ⟨hback, fun r r' h => ?_, fun url r => ?_⟩
  · have hboth := hback r
    rw [h, hback r'] at hboth
    exact (Option.some.inj hboth).symm
  · refine ⟨_, _, read_document, (field?_document _).trans rfl, rfl, fun action h => ?_⟩
    rw [location_injective h]

end Gateway.Relay

end SearchGateway
