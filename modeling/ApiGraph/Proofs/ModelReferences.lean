import ApiGraph.Proofs.Responses

/-!
# References to models

A model is looked for in three places: lint looks at every database node, the document at what a
route is tagged with, and a handler at the query of its route. `missing_models_linted` says that
lint finds all that the other two miss: where it reports no database node, every tag is documented
by a reference and every query has its model.
-/

namespace ApiGraph

open Backend

namespace Resolve

/-- The database node of an endpoint: the first one in node order that an edge joins to its id. -/
def FirstDatabase (p : Project) (id : String) (n : Node) (d : DataAccess) : Prop :=
  ∃ before after, p.nodes = before ++ n :: after ∧ n.content.database? = some d ∧
    Graph.Joins p.edges id n.id ∧
    ∀ m ∈ before, m.content.database?.isSome → ¬ Graph.Joins p.edges id m.id

variable {p : Project} {e : String × Endpoint}

theorem mem_of_firstDatabase {id : String} {n : Node} {d : DataAccess}
    (first : FirstDatabase p id n d) : n ∈ p.nodes ∧ n.content.database? = some d := by
  obtain ⟨before, after, split, found, -⟩ := first
  exact ⟨by simp [split], found⟩

def accessOf (p : Project) (id : String) : Option DataAccess :=
  (surroundings p id).databases.head?.map (·.2)

theorem accessOf_eq_some_iff {id : String} {d : DataAccess} :
    accessOf p id = some d ↔ ∃ n, FirstDatabase p id n d := by
  rw [accessOf, ← List.head?_map, ← firstAccess_iff]
  exact exists_comm

theorem modelOf_eq_some_iff {id model : String} :
    modelOf (accessOf p id) = some model ↔
      model ≠ "" ∧ ∃ n d, FirstDatabase p id n d ∧ d.model = model := by
  rw [modelOf, Option.filter_eq_some_iff, Option.map_eq_some_iff, and_comm, decide_eq_true_eq]
  simp only [accessOf_eq_some_iff]
  constructor
  · rintro ⟨given, d, ⟨n, first⟩, named⟩
    exact ⟨given, n, d, first, named⟩
  · rintro ⟨given, n, d, first, named⟩
    exact ⟨given, d, ⟨n, first⟩, named⟩

theorem model_of_body {model : String} (tag : (p.routeOf e).bodyModel = some model) :
    modelOf (accessOf p e.1) = some model ∧ e.2.method.hasBody = true :=
  Option.filter_eq_some_iff.mp tag

theorem model_of_response {a : Response} {model : String} (answers : a ∈ (p.routeOf e).responses)
    (tag : a.model = some model) : modelOf (accessOf p e.1) = some model := by
  obtain ⟨r, -, rfl⟩ := List.mem_map.mp answers
  exact (Option.filter_eq_some_iff.mp tag).1

theorem tag_of_status {a b : Response} (left : a ∈ (p.routeOf e).responses)
    (right : b ∈ (p.routeOf e).responses) (same : a.status = b.status) :
    a.model = b.model ∧ a.isCollection = b.isCollection := by
  obtain ⟨r, -, rfl⟩ := List.mem_map.mp left
  obtain ⟨s, -, rfl⟩ := List.mem_map.mp right
  have success : r.isSuccess = s.isSuccess := by
    have status : r.status = s.status := same
    rw [DeclaredResponse.isSuccess, DeclaredResponse.isSuccess, status]
  simp [response, success]

theorem firstDatabase_of_query {q : Query} (asks : (p.routeOf e).query = some q) :
    ∃ n d, FirstDatabase p e.1 n d ∧ q = query d := by
  obtain ⟨d, access, rfl⟩ := Option.map_eq_some_iff.mp asks
  obtain ⟨n, first⟩ := accessOf_eq_some_iff.mp access
  exact ⟨n, d, first, rfl⟩

end Resolve

namespace Lint

variable {p : Project} {n : Node} {d : DataAccess}

theorem mem_lint_of_reference {w : Warning} (present : n ∈ p.nodes)
    (found : n.content.database? = some d) (reference : modelReference p n.id d = some w) :
    w ∈ lint p := by
  refine List.mem_append_right _ (List.mem_flatMap.mpr ⟨n, present, ?_⟩)
  simp only [database, found, reference]
  exact List.mem_cons_self

theorem reported_or_known (present : n ∈ p.nodes) (found : n.content.database? = some d) :
    (if Text.isBlank d.model then .emptyModelName n.id else .unknownModel n.id d.model) ∈ lint p ∨
      Text.isBlank d.model = false ∧ (p.model? d.model).isSome := by
  by_cases blank : Text.isBlank d.model = true
  · refine .inl (mem_lint_of_reference present found ?_)
    rw [modelReference, if_pos blank, if_pos blank]
  · by_cases missing : (p.model? d.model).isNone = true
    · refine .inl (mem_lint_of_reference present found ?_)
      rw [modelReference, if_neg blank, if_neg blank, if_pos missing]
    · exact .inr ⟨eq_false_of_ne_true blank, by simpa [Option.isSome_iff_ne_none] using missing⟩

end Lint

/-! ### The document -/

namespace OpenApi

variable {p : Project} {r : Route} {model : String}

theorem missing_bodyContent (missing : (bodyContent p r).missing = some model) :
    r.bodyModel = some model ∧ p.model? model = none := by
  unfold bodyContent at missing
  split at missing
  · cases missing
  · cases tag : r.bodyModel with
    | none => simp [tag] at missing
    | some m =>
      cases known : p.model? m with
      | some found => simp [tag, modelSchema, known] at missing
      | none =>
        cases bare : r.body.isEmpty with
        | true =>
          obtain rfl : m = model := by simpa [tag, modelSchema, known, bare] using missing
          exact ⟨rfl, known⟩
        | false => simp [tag, modelSchema, known, bare] at missing

theorem missing_responseContent {a : Response}
    (missing : (responseContent p a).missing = some model) :
    a.model = some model ∧ p.model? model = none := by
  cases tag : a.model with
  | none => simp [responseContent, tag] at missing
  | some m =>
    cases known : p.model? m with
    | some found => simp [responseContent, tag, modelSchema, known] at missing
    | none =>
      obtain rfl : m = model := by simpa [responseContent, tag, modelSchema, known] using missing
      exact ⟨rfl, known⟩

/-- What the document misses is a tag of the route, and no model of the project. -/
theorem tag_of_missing (missing : model ∈ missingModels p r) :
    (r.bodyModel = some model ∨ ∃ a ∈ r.responses, a.model = some model) ∧
      p.model? model = none := by
  rcases List.mem_append.mp missing with body | answers
  · obtain ⟨tag, absent⟩ := missing_bodyContent (Option.mem_toList.mp body)
    exact ⟨.inl tag, absent⟩
  · obtain ⟨a, declared, content⟩ := List.mem_filterMap.mp answers
    obtain ⟨tag, absent⟩ := missing_responseContent content
    exact ⟨.inr ⟨a, declared, tag⟩, absent⟩

theorem body_of_known (tag : r.bodyModel = some model) (hasBody : r.method.hasBody = true)
    (known : (p.model? model).isSome) : (bodyContent p r).schema = some (.reference model) := by
  simp [bodyContent, tag, hasBody, modelSchema, known]

theorem response_of_known {a : Response} (tag : a.model = some model)
    (known : (p.model? model).isSome) : (responseContent p a).schema =
      some (if a.isCollection then .array (.reference model) {} else .reference model) := by
  simp [responseContent, tag, modelSchema, known]

/-- The schema of the body of requests, as the document has it. -/
def Operation.requestBody? (o : Operation) : Option Json :=
  (o.toJson.get? "requestBody").bind bodyOf

theorem Operation.requestBody?_eq (o : Operation) : o.requestBody? = o.body.map Schema.toJson := by
  have shown : o.toJson.get? "requestBody" =
      o.body.map fun s => .obj [("required", .bool true), ("content", contentJson s)] := by
    unfold toJson
    refine (Json.get?_record ?_ "requestBody").trans rfl
    exact operationParts_nodup
  rw [requestBody?, shown]
  cases o.body with
  | none => rfl
  | some schema => simp [bodyOf, contentJson, Json.get?, Json.lookup_cons_eq]

/-- A reference to a model, as the document has it. -/
def refJson (model : String) : Json :=
  .obj [("$ref", .str ("#/components/schemas/" ++ model))]

/-- An array of what another schema describes, as the document has it. -/
def arrayJson (items : Json) : Json := .obj [("type", .str "array"), ("items", items)]

namespace Document

theorem mem_foldl_note {w : Warning} (found ws : List Warning) :
    w ∈ ws.foldl note found ↔ w ∈ found ∨ w ∈ ws := by
  induction ws generalizing found with
  | nil => simp
  | cons first rest ih =>
    rw [List.foldl_cons, ih, note]
    split
    · rename_i known
      rw [List.mem_cons, or_left_comm]
      refine ⟨.inr, fun h => h.elim (fun same => .inl (same ▸ known)) id⟩
    · rw [List.mem_append, List.mem_singleton, List.mem_cons, or_assoc]

theorem unknownModel_mem_warningsFrom {id : String} {kept : List Route}
    {seen : List (Method × String)}
    (known : ∀ r : Route, (kept.find? (entryKey · == entryKey r)).isSome ↔ r.operationKey ∈ seen)
    (found : List Warning) (routes : List Route) :
    .unknownModel id model ∈ warningsFrom p kept found routes ↔ .unknownModel id model ∈ found ∨
      ∃ r ∈ firstsFrom Route.operationKey seen routes, r.node = id ∧ model ∈ missingModels p r := by
  -- the walk remembers the routes that it kept, and `firstsFrom` only their keys
  induction routes generalizing kept seen found with
  | nil => simp [warningsFrom, firstsFrom]
  | cons r rs ih =>
    rw [warningsFrom, firstsFrom]
    cases first : kept.find? (entryKey · == entryKey r) with
    | some owner =>
      have old : r.operationKey ∈ seen := (known r).mp (by rw [first]; rfl)
      rw [if_pos old, ih known]
      simp
    | none =>
      have fresh : r.operationKey ∉ seen := fun old => by
        have some := (known r).mpr old
        rw [first] at some
        cases some
      have known' : ∀ s : Route, ((kept ++ [r]).find? (entryKey · == entryKey s)).isSome ↔
          s.operationKey ∈ r.operationKey :: seen := by
        intro s
        rw [List.find?_append, Option.isSome_or, Bool.or_eq_true, known, List.mem_cons, or_comm]
        refine or_congr_left ?_
        rw [List.find?_isSome]
        simp only [List.mem_singleton, exists_eq_left, beq_iff_eq, entryKey_eq_iff]
        exact eq_comm
      rw [if_neg fresh, ih known', mem_foldl_note, or_assoc]
      simp only [List.mem_cons, exists_eq_or_imp]
      refine or_congr_right (or_congr_left ?_)
      rw [List.mem_map]
      constructor
      · rintro ⟨m, missing, same⟩
        obtain ⟨node, rfl⟩ := Warning.unknownModel.inj same
        exact ⟨node, missing⟩
      · rintro ⟨rfl, missing⟩
        exact ⟨model, missing, rfl⟩

theorem unknownModel_mem_warnings_iff {id : String} {routes : List Route} :
    .unknownModel id model ∈ warnings p routes ↔
      ∃ r ∈ keptRoutes routes, r.node = id ∧ model ∈ missingModels p r := by
  let report : Warning := .unknownModel id model
  have walk : report ∈ warningsFrom p [] [] routes ↔ report ∈ [] ∨
      ∃ r ∈ keptRoutes routes, r.node = id ∧ model ∈ missingModels p r :=
    unknownModel_mem_warningsFrom (fun r => by simp) [] routes
  rwa [or_iff_right List.not_mem_nil] at walk

end Document

end OpenApi

namespace Backend

theorem query_of_unknownModel {p : Project} {routes : List Route} {id model : String}
    (reported : .unknownModel id model ∈ Backend.warnings p routes) :
    ∃ r ∈ keptRoutes routes, ∃ q, r.query = some q ∧ r.node = id ∧ q.model = model ∧
      ¬ (Text.isBlank model = false ∧ (p.model? model).isSome) := by
  rcases Handler.mem_foldl_report_iff.mp reported with renamed | ⟨r, kept, warned⟩
  · obtain ⟨m, -, collision⟩ := List.mem_filterMap.mp renamed
    obtain ⟨other, -, same⟩ := Option.map_eq_some_iff.mp collision
    cases same
  · refine ⟨r, kept, ?_⟩
    unfold Handler.warnings at warned
    split at warned
    · cases warned
    · rename_i q named
      have query : r.query = some q := (Option.filter_eq_some_iff.mp named).1
      split at warned
      · rename_i absent
        obtain ⟨rfl, rfl⟩ := Warning.unknownModel.inj
          (List.mem_singleton.mp (List.mem_of_mem_filter warned))
        refine ⟨q, query, rfl, rfl, fun known => ?_⟩
        rw [← find_namedModels_isSome_iff, absent] at known
        cases known
      · split at warned
        · obtain ⟨f, -, same⟩ := List.mem_map.mp warned
          cases same
        · cases warned

end Backend

/-! ### Agreement -/

namespace Project

variable {p : Project}

theorem endpoint_of_kept {r : Route} (kept : r ∈ keptRoutes (Resolve.routes p)) :
    ∃ e ∈ p.endpoints, p.routeOf e = r := List.mem_map.mp (mem_of_mem_firstsBy kept)

theorem firstDatabase_of_tag {e : String × Endpoint} {model : String}
    (tag : (p.routeOf e).bodyModel = some model ∨
      ∃ a ∈ (p.routeOf e).responses, a.model = some model) :
    ∃ n d, Resolve.FirstDatabase p e.1 n d ∧ d.model = model := by
  rcases tag with body | ⟨a, declared, answer⟩
  · exact (Resolve.modelOf_eq_some_iff.mp (Resolve.model_of_body body).1).2
  · exact (Resolve.modelOf_eq_some_iff.mp (Resolve.model_of_response declared answer)).2

/-- The database node behind a model that the document or the server misses. -/
theorem firstDatabase_of_unknownModel {id model : String}
    (reported : .unknownModel id model ∈ OpenApi.Document.warnings p (Resolve.routes p) ∨
      .unknownModel id model ∈ Backend.warnings p (Resolve.routes p)) :
    (∃ e ∈ p.endpoints, e.1 = id) ∧ (∃ n d, Resolve.FirstDatabase p id n d ∧ d.model = model) ∧
      ¬ (Text.isBlank model = false ∧ (p.model? model).isSome) := by
  rcases reported with document | server
  · obtain ⟨r, kept, rfl, missing⟩ := OpenApi.Document.unknownModel_mem_warnings_iff.mp document
    obtain ⟨e, present, rfl⟩ := endpoint_of_kept kept
    obtain ⟨tag, absent⟩ := OpenApi.tag_of_missing missing
    exact ⟨⟨e, present, rfl⟩, firstDatabase_of_tag tag, by simp [absent]⟩
  · obtain ⟨r, kept, q, asks, rfl, rfl, absent⟩ := Backend.query_of_unknownModel server
    obtain ⟨e, present, rfl⟩ := endpoint_of_kept kept
    obtain ⟨n, d, first, rfl⟩ := Resolve.firstDatabase_of_query asks
    exact ⟨⟨e, present, rfl⟩, ⟨n, d, first, rfl⟩, absent⟩

/-- The document and the server have every model that a route names. -/
structure ModelsFound (p : Project) (r : Route) : Prop where
  documented : ∃ o, (r.operationKey, o) ∈ p.compile.document.entries
  body : ∀ model, r.bodyModel = some model →
    ∀ o, (r.operationKey, o) ∈ p.compile.document.entries →
      o.body = some (.reference model) ∧ o.requestBody? = some (OpenApi.refJson model)
  responses : ∀ a ∈ r.responses, ∀ model, a.model = some model →
    ∀ o, (r.operationKey, o) ∈ p.compile.document.entries →
      (∃ answer, (a.status, answer) ∈ o.responses) ∧
      (∀ answer, (a.status, answer) ∈ o.responses → answer.content =
        some (if a.isCollection then .array (.reference model) {} else .reference model)) ∧
      (o.responseAt (toString a.status)).bind OpenApi.bodyOf =
        some (if a.isCollection then OpenApi.arrayJson (OpenApi.refJson model)
          else OpenApi.refJson model)
  handler : ∀ q, r.query = some q → ∃ m ∈ namedModels p, m.model.name = q.model ∧
    ((p.registrationOf r).handler = .stub ↔ q.operation ∈ recordOperations ∧
      (r.pathParams = [] ∨ recordKey p.settings.engine m.model = none))

theorem known_of_unreported
    (silent : ∀ id model, .unknownModel id model ∉ Lint.lint p ∧ .emptyModelName id ∉ Lint.lint p)
    {id : String} {n : Node} {d : DataAccess} (first : Resolve.FirstDatabase p id n d) :
    Text.isBlank d.model = false ∧ (p.model? d.model).isSome := by
  obtain ⟨present, found⟩ := Resolve.mem_of_firstDatabase first
  refine (Lint.reported_or_known present found).resolve_left fun reported => ?_
  obtain ⟨unknown, empty⟩ := silent n.id d.model
  split at reported
  · exact empty reported
  · exact unknown reported

/-- The last response of a status is documented, but all of them have one tag. -/
theorem content_of_tag {e : String × Endpoint} {a : Response} {model : String}
    (declared : a ∈ (p.routeOf e).responses) (tag : a.model = some model)
    (known : (p.model? model).isSome) :
    (OpenApi.answerOf p (p.routeOf e) a.status).content =
      some (if a.isCollection then .array (.reference model) {} else .reference model) := by
  obtain ⟨b, last⟩ : ∃ b, (p.routeOf e).responses.reverse.find? (·.status == a.status) = some b :=
    Option.isSome_iff_exists.mp
      (List.find?_isSome.mpr ⟨a, List.mem_reverse.mpr declared, beq_self_eq_true _⟩)
  have status : b.status = a.status := by simpa using List.find?_some last
  have present : b ∈ (p.routeOf e).responses :=
    List.mem_reverse.mp (List.mem_of_find?_eq_some last)
  obtain ⟨same, collection⟩ := Resolve.tag_of_status present declared status
  rw [OpenApi.answerOf, last]
  show (OpenApi.responseContent p b).schema = _
  rw [OpenApi.response_of_known (same.trans tag) known, collection]

theorem modelsFound {r : Route} (kept : r ∈ keptRoutes (Resolve.routes p))
    (known : ∀ id n d, Resolve.FirstDatabase p id n d →
      Text.isBlank d.model = false ∧ (p.model? d.model).isSome) : p.ModelsFound r := by
  obtain ⟨e, -, rfl⟩ := endpoint_of_kept kept
  constructor
  · obtain ⟨id, entry⟩ := OpenApi.Document.exists_entry (p := p) kept
    exact ⟨_, entry⟩
  · intro model tag o entry
    obtain ⟨id, rfl⟩ := OpenApi.Document.entry_ofRoute kept entry
    obtain ⟨n, d, first, rfl⟩ := firstDatabase_of_tag (.inl tag)
    have body : (OpenApi.Operation.ofRoute p (p.routeOf e) id).body =
        some (.reference d.model) :=
      OpenApi.body_of_known tag (Resolve.model_of_body tag).2 (known _ _ _ first).2
    refine ⟨body, ?_⟩
    rw [OpenApi.Operation.requestBody?_eq, body]
    rfl
  · intro a declared model tag o entry
    obtain ⟨id, rfl⟩ := OpenApi.Document.entry_ofRoute kept entry
    obtain ⟨n, d, first, rfl⟩ := firstDatabase_of_tag (.inr ⟨a, declared, tag⟩)
    have listed : a.status ∈ OpenApi.statuses (p.routeOf e) :=
      OpenApi.mem_statuses_iff.mpr (.inl (List.mem_map_of_mem declared))
    have content := content_of_tag declared tag (known _ _ _ first).2
    refine ⟨⟨_, List.mem_map_of_mem listed⟩, fun answer member => ?_, ?_⟩
    · obtain ⟨status, -, same⟩ := List.mem_map.mp member
      obtain ⟨rfl, rfl⟩ := Prod.mk.inj same
      exact content
    · rw [OpenApi.Operation.responseAt_ofRoute, if_pos listed, Option.bind_some,
        OpenApi.bodyOf_toJson, content]
      cases a.isCollection <;> rfl
  · intro q asks
    obtain ⟨n, d, first, rfl⟩ := Resolve.firstDatabase_of_query asks
    obtain ⟨m, found⟩ := Option.isSome_iff_exists.mp
      (find_namedModels_isSome_iff.mpr (known _ _ _ first))
    have name : m.model.name = d.model := by simpa using List.find?_some found
    refine ⟨m, List.mem_of_find?_eq_some found, name, ?_⟩
    exact (Handler.plan_eq_stub_iff asks (known _ _ _ first).1 found).trans
      Handler.action?_eq_none_iff

/-- Lint misses no model. What the document or the server reports as unknown is the model of the
database node that was chosen for the endpoint, and lint reports this node. So where lint is silent
about models, every body and response that is tagged with one is documented by a reference to it,
and only an operation on a record that cannot be addressed leaves a query without a handler. -/
theorem missing_models_linted (p : Project) :
    (∀ id model,
      (.unknownModel id model ∈ OpenApi.Document.warnings p (Resolve.routes p) ∨
        .unknownModel id model ∈ Backend.warnings p (Resolve.routes p)) →
      (∃ e ∈ p.endpoints, e.1 = id) ∧ ∃ n d, Resolve.FirstDatabase p id n d ∧ d.model = model ∧
        (if Text.isBlank model then .emptyModelName n.id else .unknownModel n.id model) ∈
          Lint.lint p) ∧
    ((∀ id model, .unknownModel id model ∉ Lint.lint p ∧ .emptyModelName id ∉ Lint.lint p) →
      ∀ r ∈ keptRoutes (Resolve.routes p), p.ModelsFound r) := by
  constructor
  · intro id model reported
    obtain ⟨endpoint, ⟨n, d, first, rfl⟩, unknown⟩ := firstDatabase_of_unknownModel reported
    obtain ⟨present, found⟩ := Resolve.mem_of_firstDatabase first
    exact ⟨endpoint, n, d, first, rfl, (Lint.reported_or_known present found).resolve_right unknown⟩
  · intro silent r kept
    exact modelsFound kept fun _ _ _ first => known_of_unreported silent first

def strayModels : Project where
  nodes :=
    [{ id := "ghosts", content := .endpoint { path := "/ghosts" } },
     { id := "blanks", content := .endpoint { path := "/blanks" } },
     { id := "ghost", content := .database { operation := .list, model := "Ghost" } },
     { id := "blank", content := .database { operation := .list, model := " " } }]
  edges :=
    [{ id := "a", source := "ghosts", target := "ghost" },
     { id := "b", source := "blanks", target := "blank" }]

/-- A project about whose models lint is silent. -/
def itemModels : Project where
  nodes :=
    [{ id := "create", content := .endpoint
        { method := .post, path := "/items", responses := [.ofStatus 201] } },
     { id := "item", content := .database { operation := .create, model := "Item" } }]
  edges := [{ id := "a", source := "create", target := "item" }]
  models := [{ name := "Item", fields := [{ name := "id", type := .string, isId := true }] }]

/-- Both reports of lint occur: of a model that nothing declares, and of a blank name. Where it
reports neither, the body and the response that are tagged with a model refer to it. -/
theorem strayModels_linted :
    (.unknownModel "ghosts" "Ghost" ∈ Backend.warnings strayModels (Resolve.routes strayModels) ∧
      ∃ n d, Resolve.FirstDatabase strayModels "ghosts" n d ∧ d.model = "Ghost" ∧
        .unknownModel n.id "Ghost" ∈ Lint.lint strayModels) ∧
    (.unknownModel "blanks" " " ∈
        OpenApi.Document.warnings strayModels (Resolve.routes strayModels) ∧
      ∃ n d, Resolve.FirstDatabase strayModels "blanks" n d ∧ d.model = " " ∧
        .emptyModelName n.id ∈ Lint.lint strayModels) ∧
    let r := itemModels.routeOf
      ("create", { method := .post, path := "/items", responses := [.ofStatus 201] })
    (∀ id model,
      .unknownModel id model ∉ Lint.lint itemModels ∧ .emptyModelName id ∉ Lint.lint itemModels) ∧
      r ∈ keptRoutes (Resolve.routes itemModels) ∧
      (∃ o, (r.operationKey, o) ∈ itemModels.compile.document.entries ∧
        o.requestBody? = some (OpenApi.refJson "Item") ∧
        (o.responseAt "201").bind OpenApi.bodyOf = some (OpenApi.refJson "Item")) ∧
      (itemModels.registrationOf r).handler ≠ .stub := by
  obtain ⟨reported, -⟩ := missing_models_linted strayModels
  have ghosts : .unknownModel "ghosts" "Ghost" ∈
      Backend.warnings strayModels (Resolve.routes strayModels) := by decide +kernel
  have blanks : .unknownModel "blanks" " " ∈
      OpenApi.Document.warnings strayModels (Resolve.routes strayModels) := by decide +kernel
  have named : Text.isBlank "Ghost" = false := by decide
  have blank : Text.isBlank " " = true := by decide
  have ghost := (reported "ghosts" "Ghost" (.inr ghosts)).2
  have space := (reported "blanks" " " (.inl blanks)).2
  simp only [named, blank, if_true, Bool.false_eq_true, if_false] at ghost space
  refine ⟨⟨ghosts, ghost⟩, ⟨blanks, space⟩, ?_⟩
  intro r
  have clean : Lint.lint itemModels = [] := by decide +kernel
  have silent : ∀ id model,
      .unknownModel id model ∉ Lint.lint itemModels ∧ .emptyModelName id ∉ Lint.lint itemModels :=
    fun id model => clean ▸ ⟨List.not_mem_nil, List.not_mem_nil⟩
  have kept : r ∈ keptRoutes (Resolve.routes itemModels) := by decide +kernel
  have found := (missing_models_linted itemModels).2 silent r kept
  obtain ⟨o, entry⟩ := found.documented
  obtain ⟨a, answers, status, tag, single⟩ : ∃ a ∈ r.responses, a.status = 201 ∧
      a.model = some "Item" ∧ a.isCollection = false := ⟨_, List.mem_singleton_self _, rfl, rfl, rfl⟩
  have response := (found.responses a answers "Item" tag o entry).2.2
  rw [status, single] at response
  obtain ⟨m, -, -, stubbed⟩ := found.handler _ rfl
  refine ⟨silent, kept, ⟨o, entry, (found.body "Item" rfl o entry).2, response⟩, fun stub => ?_⟩
  exact absurd (stubbed.mp stub).1 (by decide)

end Project

end ApiGraph
