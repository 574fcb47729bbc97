import SearchGateway.Proofs.Gateway.Denial
import SearchGateway.Proofs.Gateway.Selection
import SearchGateway.Proofs.Http.Escape
import SearchGateway.Proofs.Registry.Name
import SearchGateway.Proofs.Routing.Filling

/-!
# Requests that name an index

Every text that may be the name of an index can be written in the path of a request: in any spelling
it leads to the route that it is written for, whatever words stand in the paths of other routes
(`Server.reaches_target`). What makes this true is that the words in the place of a target begin
with an underscore and names do not.
-/

namespace SearchGateway.Routing

/-- Whether a text cannot be a target for the sake of the words that stand in its place. -/
def isReserved (text : String) : Bool :=
  text == "" || text.toList.head? == some '_'

/-- Below `/es` only reserved words stand in the place of a target, and no words in the place of
what a document is identified by. -/
def Pattern.leavesRoom : Pattern → Bool
  | .literal surface :: .literal text :: _ => surface != "es" || isReserved text
  | .literal surface :: .parameter _ :: _ :: .literal _ :: _ => surface != "es"
  | _ => true

/-- A pattern below `/es` for a target, with what is done to it or with one of its documents. -/
def Pattern.isTargeted : Pattern → Bool
  | [.literal surface, .parameter target] => surface == "es" && target == "target"
  | [.literal surface, .parameter target, .literal _] => surface == "es" && target == "target"
  | [.literal surface, .parameter target, .literal _, .parameter id] =>
    surface == "es" && target == "target" && id == "id"
  | _ => false

variable {pattern other : Pattern} {value : String → String}

theorem Pattern.isTargeted_iff : pattern.isTargeted = true ↔
    pattern = [.literal "es", .parameter "target"] ∨
    (∃ word, pattern = [.literal "es", .parameter "target", .literal word]) ∨
    ∃ word, pattern = [.literal "es", .parameter "target", .literal word, .parameter "id"] := by
  unfold Pattern.isTargeted
  split <;> simp_all [and_assoc]

theorem Pattern.isBounded_of_isTargeted (h : pattern.isTargeted) : pattern.IsBounded := by
  rcases Pattern.isTargeted_iff.1 h with rfl | ⟨word, rfl⟩ | ⟨word, rfl⟩ <;>
    simp [Pattern.IsBounded, Segment.breadth]

theorem Pattern.names_of_isTargeted (h : pattern.isTargeted) :
    pattern.names = ["target"] ∨ pattern.names = ["target", "id"] := by
  rcases Pattern.isTargeted_iff.1 h with rfl | ⟨word, rfl⟩ | ⟨word, rfl⟩
  · exact .inl rfl
  · exact .inl rfl
  · exact .inr rfl

/-- At a path that is written from a pattern for a target, no pattern that leaves room for it goes
first. -/
theorem not_precedes_of_isTargeted (hpattern : pattern.isTargeted) (hother : other.leavesRoom)
    (hfits : Fits other (pattern.fill value)) (hvalue : isReserved (value "target") = false) :
    ¬ other.Precedes pattern := by
  obtain ⟨tail, rfl, htail⟩ : ∃ tail, pattern = .literal "es" :: .parameter "target" :: tail ∧
      (tail = [] ∨ (∃ word, tail = [.literal word]) ∨
        ∃ word, tail = [.literal word, .parameter "id"]) := by
    rcases Pattern.isTargeted_iff.1 hpattern with rfl | ⟨word, rfl⟩ | ⟨word, rfl⟩
    · exact ⟨_, rfl, .inl rfl⟩
    · exact ⟨_, rfl, .inr (.inl ⟨word, rfl⟩)⟩
    · exact ⟨_, rfl, .inr (.inr ⟨word, rfl⟩)⟩
  intro hprecedes
  -- the two patterns are alike up to the target, or a reserved word stands in its place
  cases hfits with
  | parameter | rest => simp [Segment.breadth] at hprecedes
  | literal hfits =>
      cases hfits with
      | literal hfits => simp [Pattern.leavesRoom, Segment.fill, hvalue] at hother
      | rest => simp [Segment.breadth] at hprecedes
      | parameter _ hfits =>
          rcases htail with rfl | ⟨word, rfl⟩ | ⟨word, rfl⟩
          · simp [Segment.breadth] at hprecedes
          · cases hfits with
            | literal hfits => simp [Segment.breadth] at hprecedes
            | parameter | rest => simp [Segment.breadth] at hprecedes
          · cases hfits with
            | parameter | rest => simp [Segment.breadth] at hprecedes
            | literal hfits =>
                cases hfits with
                | literal hfits => simp [Pattern.leavesRoom, Segment.fill] at hother
                | parameter | rest => simp [Segment.breadth] at hprecedes

theorem leavesRoom_of_mem_paths :
    ∀ path ∈ gatewayTable.paths, (Pattern.ofPath path).leavesRoom := by
  decide +kernel

theorem isTargeted_of_mem_routes :
    ∀ route ∈ gatewayTable.routes, route.access.policy?.isSome →
      .parameter "target" ∈ route.pattern → route.pattern.isTargeted := by
  decide +kernel

theorem method_ne_options : ∀ route ∈ gatewayTable.routes, route.method ≠ .options := by
  decide +kernel

end SearchGateway.Routing

namespace SearchGateway.Gateway

open Http (Request Spells)
open Registry (Policy)
open Routing (Pattern Route)
open Security (Operation)

variable {pattern : Pattern} {value : String → String} {target id name document : String}
  {route : Route}

/-! ## Parameters -/

theorem pieceText?_eq_some {piece text : String}
    (h : Spells piece.toList (Text.Utf8.encode text)) : pieceText? piece = some text := by
  rw [pieceText?, Text.Utf8.encode_eq_charBytes, h.percentDecode_eq]
  exact Text.Utf8.decode?_eq_some_iff.2 rfl

theorem textOnly_fill (hbounded : pattern.IsBounded)
    (h : ∀ name ∈ pattern.names, (pieceText? (value name)).isSome) :
    TextOnly pattern (pattern.fill value) := by
  intro bound hbound
  rw [Routing.bind_fill hbounded] at hbound
  obtain ⟨name, hname, rfl⟩ := List.mem_map.1 hbound
  exact h name hname

theorem parameterText?_fill (hbounded : pattern.IsBounded) (hname : name ∈ pattern.names) :
    parameterText? pattern (pattern.fill value) name = pieceText? (value name) := by
  have hfind : (pattern.names.map fun name => (name, value name)).find? (·.1 == name) =
      some (name, value name) := by
    have hmem : (name, value name) ∈ pattern.names.map fun name => (name, value name) :=
      List.mem_map.2 ⟨name, hname, rfl⟩
    obtain ⟨found, hfound⟩ := Option.isSome_iff_exists.1
      (List.find?_isSome (p := (·.1 == name)).2 ⟨_, hmem, beq_self_eq_true name⟩)
    obtain ⟨name', -, rfl⟩ := List.mem_map.1 (List.mem_of_find?_eq_some hfound)
    have heq : name' = name := by simpa using List.find?_some hfound
    rw [hfound, heq]
  rw [parameterText?, Routing.bind_fill hbounded, hfind, Option.bind_some]

/-! ## Addresses -/

/-- The piece in the place of a parameter: there are a target and what a document is identified
by. -/
def addressPiece (target id parameter : String) : String :=
  if parameter = "target" then target else id

/-- The path of a route with these pieces in the place of its parameters. -/
def addressOf (route : Route) (target id : String) : String :=
  route.pattern.path (addressPiece target id)

theorem isReserved_eq_false (hname : Registry.nameFlaw? name = none)
    (h : Spells target.toList (Text.Utf8.encode name)) : Routing.isReserved target = false := by
  have hempty : target ≠ "" := fun heq =>
    h.ne_nil (Registry.ne_empty_of_nameFlaw? hname) (by rw [heq]; rfl)
  have hhead : target.toList.head? ≠ some '_' := fun hhead =>
    Registry.head?_of_nameFlaw? hname (h.head?_eq (by decide) (by decide) hhead)
  simp [Routing.isReserved, hempty, hhead]

/-- Pieces of a path that spell a name and what a document is identified by. -/
structure IsAddress (target id name document : String) : Prop where
  target : Spells target.toList (Text.Utf8.encode name)
  id : Spells id.toList (Text.Utf8.encode document)
  name : Registry.nameFlaw? name = none
  document : document ≠ ""

theorem IsAddress.piece_ne_empty (h : IsAddress target id name document) (parameter : String) :
    addressPiece target id parameter ≠ "" := by
  unfold addressPiece
  split
  · exact fun heq => h.target.ne_nil (Registry.ne_empty_of_nameFlaw? h.name) (by rw [heq]; rfl)
  · exact fun heq => h.id.ne_nil h.document (by rw [heq]; rfl)

theorem IsAddress.slash_not_mem (h : IsAddress target id name document) (parameter : String) :
    '/' ∉ (addressPiece target id parameter).toList := by
  unfold addressPiece
  split
  · exact h.target.slash_not_mem
  · exact h.id.slash_not_mem

theorem IsAddress.exists_pathParameters (h : IsAddress target id name document)
    (hpattern : pattern.isTargeted) :
    ∃ parameters, pathParameters pattern (pattern.fill (addressPiece target id)) =
        some parameters ∧ parameters.get? "target" = some name ∧
      ("id" ∈ pattern.names → parameters.get? "id" = some document) := by
  have hbounded := Pattern.isBounded_of_isTargeted hpattern
  have hnames := Pattern.names_of_isTargeted hpattern
  have hfits : Routing.Fits pattern (pattern.fill (addressPiece target id)) :=
    Routing.fits_fill hbounded fun parameter _ => h.piece_ne_empty parameter
  have htarget : pieceText? (addressPiece target id "target") = some name :=
    pieceText?_eq_some h.target
  have hid : pieceText? (addressPiece target id "id") = some document := pieceText?_eq_some h.id
  have htext : TextOnly pattern (pattern.fill (addressPiece target id)) := by
    refine textOnly_fill hbounded fun parameter _ => ?_
    unfold addressPiece
    split
    · exact Option.isSome_of_eq_some (pieceText?_eq_some h.target)
    · exact Option.isSome_of_eq_some (pieceText?_eq_some h.id)
  obtain ⟨parameters, hparameters⟩ := Option.isSome_iff_exists.1 (isSome_pathParameters.2 htext)
  have hnodup : pattern.names.Nodup := by
    rcases hnames with hnames | hnames <;> simp [hnames]
  have hget {parameter : String} (hmem : parameter ∈ pattern.names) :
      parameters.get? parameter = pieceText? (addressPiece target id parameter) := by
    rw [get?_pathParameters hfits hnodup hparameters, parameterText?_fill hbounded hmem]
  refine ⟨parameters, hparameters, ?_, fun hmem => ?_⟩
  · rw [hget (by rcases hnames with hnames | hnames <;> simp [hnames]), htarget]
  · rw [hget hmem, hid]

namespace Server

variable {server : Server} {settings : Settings} {service : Service} {metrics : Bool}
  {request : Request} {operation : Operation} {policy : Policy}

theorem isTargeted_of_mem_table (hserver : Server.standard settings service metrics = .ok server)
    (hroute : route ∈ server.router.table.routes)
    (haccess : route.access = .resolving operation policy)
    (htarget : .parameter "target" ∈ route.pattern) : route.pattern.isTargeted :=
  Routing.isTargeted_of_mem_routes route (table_eq_gatewayTable hserver ▸ hroute)
    (by rw [haccess]; rfl) htarget

/-- A request written for a route takes it. -/
theorem matchedRoute?_of_address (hserver : Server.standard settings service metrics = .ok server)
    (hroute : route ∈ server.router.table.routes)
    (haccess : route.access = .resolving operation policy)
    (htarget : .parameter "target" ∈ route.pattern) (haddress : IsAddress target id name document)
    (hmethod : request.method = route.method) (hpath : request.path = addressOf route target id) :
    server.matchedRoute? request =
      some (route, route.pattern.fill (addressPiece target id)) := by
  have htable := table_eq_gatewayTable hserver
  have hpattern := isTargeted_of_mem_table hserver hroute haccess htarget
  have hpieces : Routing.pieces? request.path =
      some (route.pattern.fill (addressPiece target id)) := by
    rw [hpath]
    exact Routing.pieces?_path haddress.slash_not_mem
  have hoptions : request.method ≠ .options :=
    hmethod ▸ Routing.method_ne_options route (htable ▸ hroute)
  have hplace : OutsideConsole request.path (route.pattern.fill (addressPiece target id)) := by
    have hhead : (route.pattern.fill (addressPiece target id)).head? = some "es" := by
      rcases Pattern.isTargeted_iff.1 hpattern with h | ⟨word, h⟩ | ⟨word, h⟩ <;> rw [h] <;> rfl
    exact ⟨hpieces, by rw [hhead]; decide, by rw [hhead]; decide⟩
  rw [matchedRoute?_eq_some_iff hoptions hplace
    (path_eq_of_outline_eq (standard_eq_ok hserver).2)]
  refine ⟨hroute, .inl hmethod.symm, ?_, fun other hother hfits => ?_⟩
  · exact Routing.fits_fill (Pattern.isBounded_of_isTargeted hpattern) fun parameter _ =>
      haddress.piece_ne_empty parameter
  · have hpaths : other.path ∈ Routing.gatewayTable.paths :=
      List.mem_eraseDups.2 (List.mem_map.2 ⟨other, htable ▸ hother, rfl⟩)
    exact Routing.not_precedes_of_isTargeted hpattern
      (Routing.leavesRoom_of_mem_paths other.path hpaths) hfits
      (isReserved_eq_false haddress.name haddress.target)

/-- A request is served at a route and by its operation, and the handler is given a name as the
target and a text as what a document is identified by, if the route has one. -/
structure Reaches (server : Server) (request : Request) (route : Route) (operation : Operation)
    (policy : Policy) (name document : String) : Prop where
  taken : ∃ pieces, server.matchedRoute? request = some (route, pieces)
  denied : ∀ world denial,
    server.router.service.guard.check request.headers operation = .error denial →
      (server.serve world request).events = [.denied operation (denialKind denial)] ∧
        (server.serve world request).call = none
  passed : ∀ world identity kept targets,
    server.router.service.guard.check request.headers operation = .ok identity →
    keepConventions server.router.service route.endpoint request = .ok kept →
    world.indices.select policy name = .ok targets →
      ∃ r, (server.serve world request).call = some r
  called : ∀ world r, (server.serve world request).call = some r →
    route.endpoint = .handler r.action ∧
      server.router.service.guard.check request.headers operation = .ok r.identity ∧
      r.parameters.get? "target" = some name ∧
      ("id" ∈ route.pattern.names → r.parameters.get? "id" = some document)

/-- A request that is written for a route of the standard table with a target, with any text that
may be the name of an index in the place of the target and any text but the empty one in the place
of what a document is identified by, reaches this route. -/
theorem reaches_target (hserver : Server.standard settings service metrics = .ok server)
    (hroute : route ∈ server.router.table.routes)
    (haccess : route.access = .resolving operation policy)
    (htarget : .parameter "target" ∈ route.pattern) (haddress : IsAddress target id name document)
    (hmethod : request.method = route.method) (hpath : request.path = addressOf route target id) :
    server.Reaches request route operation policy name document := by
  have hmatched := matchedRoute?_of_address hserver hroute haccess htarget haddress hmethod hpath
  obtain ⟨action, hendpoint⟩ := endpoint_of_matched hserver hmatched haccess
  obtain ⟨parameters, hparameters, hname, hdocument⟩ := haddress.exists_pathParameters
    (isTargeted_of_mem_table hserver hroute haccess htarget)
  have hoperation : route.access.operation? = some operation := by
    rw [haccess]
    rfl
  have hcall (world : World) : (server.serve world request).call =
      (serveRoute server.router.service world.indices route request (some parameters)).call := by
    rw [call_serve_of_matched world hmatched, serveMatched]
    exact congrArg (fun p => (serveRoute _ world.indices route request p).call) hparameters
  constructor
  · exact ⟨_, hmatched⟩
  · intro world denial hcheck
    rw [serve_of_denied world hmatched hoperation hcheck]
    exact ⟨rfl, rfl⟩
  · rintro world identity ⟨query, body⟩ targets hcheck hkept hselect
    rw [hcall, call_of_admitted haccess hendpoint hcheck hkept]
    simp only [Option.bind_some, hname, hselect, Except.toOption, Option.map_some]
    exact ⟨_, rfl⟩
  · intro world r hr
    rw [hcall] at hr
    obtain ⟨identity, query, body, hcheck, hkept⟩ := admitted_of_call haccess hr
    rw [call_of_admitted haccess hendpoint hcheck hkept, Option.map_eq_some_iff] at hr
    obtain ⟨targets, -, rfl⟩ := hr
    exact ⟨hendpoint, hcheck, hname, hdocument⟩

/-- A name beyond ASCII and an identifier with a slash reach the route for deletions. -/
theorem reaches_target_deletion :
    Server.standard default (idleService openGuard) true = .ok openGateway ∧
    deletionRoute ∈ openGateway.router.table.routes ∧
    deletionRoute.access = .resolving .documentDelete .required ∧
    .parameter "target" ∈ deletionRoute.pattern ∧
    IsAddress (Http.percentEncode "журнал") (Http.percentEncode "_doc/1") "журнал" "_doc/1" ∧
    openGateway.Reaches
      (deletion "/es/%d0%b6%d1%83%d1%80%d0%bd%d0%b0%d0%bb/_doc/_doc%2f1" []) deletionRoute
      .documentDelete .required "журнал" "_doc/1" := by
  have hserver : Server.standard default (idleService openGuard) true = .ok openGateway :=
    standard_eq_gateway default (idleService openGuard) true
  have hroute : deletionRoute ∈ openGateway.router.table.routes := by decide +kernel
  have htarget : .parameter "target" ∈ deletionRoute.pattern := by decide +kernel
  have haddress : IsAddress (Http.percentEncode "журнал") (Http.percentEncode "_doc/1") "журнал"
      "_doc/1" :=
    ⟨Http.spells_percentEncode _, Http.spells_percentEncode _, by decide +kernel, by decide⟩
  have hpath : "/es/%d0%b6%d1%83%d1%80%d0%bd%d0%b0%d0%bb/_doc/_doc%2f1" =
      addressOf deletionRoute (Http.percentEncode "журнал") (Http.percentEncode "_doc/1") := by
    decide +kernel
  exact ⟨hserver, hroute, rfl, htarget, haddress,
    reaches_target hserver hroute rfl htarget haddress rfl hpath⟩

end Server

end SearchGateway.Gateway
