import ApiGraph.Proofs.OpenApi.Components
import ApiGraph.Proofs.Quiet
import ApiGraph.Proofs.Success

namespace ApiGraph

open OpenApi
open Resolve (declaredResponses FirstAccess)

theorem Json.lookup_map_injective {α β : Type} [DecidableEq α] {key : α → String}
    (injective : Function.Injective key) (value : α → β) (l : List α) (a : α) :
    (l.map fun a => (key a, value a)).lookup (key a) = if a ∈ l then some (value a) else none := by
  induction l with
  | nil => rfl
  | cons b l ih =>
    rw [List.map_cons, Json.lookup_cons_eq, ih]
    by_cases same : b = a
    · simp [same]
    · have other : key a ≠ key b := injective.ne (Ne.symm same)
      simp [other, Ne.symm same]

namespace OpenApi

/-- The response of an operation under a key, as the document has it. -/
def Operation.responseAt (o : Operation) (key : String) : Option Json :=
  (o.toJson.get? "responses").bind (Json.get? key)

/-- The schema of the body of a response. -/
def bodyOf (response : Json) : Option Json :=
  ((response.get? "content").bind (Json.get? "application/json")).bind (Json.get? "schema")

theorem statuses_ascending (r : Route) : (statuses r).Pairwise (· < ·) := by
  have sorted : (statuses r).Pairwise fun a b => decide (a ≤ b) = true := by
    apply List.pairwise_mergeSort
    · intro a b c
      simp only [decide_eq_true_eq]
      omega
    · intro a b
      simp only [Bool.or_eq_true, decide_eq_true_eq]
      omega
  have distinct : (statuses r).Nodup :=
    (List.mergeSort_perm _ _).nodup_iff.mpr (firsts_nodup _)
  refine (sorted.and distinct).imp ?_
  intro a b ⟨atMost, other⟩
  have least : a ≤ b := of_decide_eq_true atMost
  omega

theorem Operation.responseAt_ofRoute (p : Project) (r : Route) (id : String) (s : Nat) :
    (ofRoute p r id).responseAt (toString s) =
      if s ∈ statuses r then some (answerOf p r s).toJson else none := by
  have shown : (ofRoute p r id).responses.map (fun a => (toString a.1, a.2.toJson)) =
      (statuses r).map fun s => (toString s, (answerOf p r s).toJson) := List.map_map
  rw [responseAt, responses_toJson, shown]
  exact Json.lookup_map_injective decimal_injective _ _ s

/-- Of several declarations of a status the last one is shown. -/
theorem answerOf_last {p : Project} {r : Route} {before after : List Response} {a : Response}
    (split : r.responses = before ++ a :: after) (last : ∀ b ∈ after, b.status ≠ a.status) :
    answerOf p r a.status = .ofResponse p a := by
  have later : after.reverse.find? (·.status == a.status) = none := by
    rw [List.find?_eq_none]
    intro b member
    simpa using last b (List.mem_reverse.mp member)
  have found : r.responses.reverse.find? (·.status == a.status) = some a := by
    rw [split, List.reverse_append, List.reverse_cons, List.append_assoc, List.find?_append, later]
    simp
  rw [answerOf, found]

theorem answerOf_undeclared {p : Project} {r : Route} {s : Nat}
    (undeclared : s ∉ r.responses.map (·.status)) :
    answerOf p r s = { description := (standardErrors.lookup s).getD "" } := by
  have missing : r.responses.reverse.find? (·.status == s) = none := by
    rw [List.find?_eq_none]
    intro a member same
    apply undeclared
    exact List.mem_map.mpr ⟨a, List.mem_reverse.mp member, beq_iff_eq.mp same⟩
  rw [answerOf, missing]

theorem Answer.get?_toJson (a : Answer) :
    a.toJson.get? "description" = some (.str a.description) ∧
      a.toJson.get? "content" = a.content.map contentJson := by
  unfold toJson
  constructor
  · exact (Json.get?_record (by simp) "description").trans rfl
  · refine (Json.get?_record (by simp) "content").trans ?_
    simp [Json.lookup_cons_eq]

theorem bodyOf_toJson (a : Answer) : bodyOf a.toJson = a.content.map Schema.toJson := by
  rw [bodyOf, (Answer.get?_toJson a).2]
  cases a.content with
  | none => rfl
  | some schema => simp [contentJson, Json.get?]

end OpenApi

namespace Resolve

/-- A response that reports success is tagged with the model of the chosen database node. -/
structure Tagged (p : Project) (id : String) (d : DeclaredResponse) (access : DataAccess) :
    Prop where
  success : d.isSuccess = true
  named : access.model ≠ ""
  chosen : FirstAccess p id access

variable {p : Project} {id : String} {d : DeclaredResponse} {access : DataAccess}

theorem head_of_chosen (chosen : FirstAccess p id access) :
    (surroundings p id).databases.head?.map (·.2) = some access := by
  rw [← List.head?_map]
  exact firstAccess_iff.mp chosen

theorem response_of_tagged (tagged : Tagged p id d access) :
    (response ((surroundings p id).databases.head?.map (·.2)) d).model = some access.model ∧
      (response ((surroundings p id).databases.head?.map (·.2)) d).isCollection =
        (access.operation == .list) := by
  rw [head_of_chosen tagged.chosen]
  simp [response, modelOf, tagged.named, tagged.success]

theorem response_of_untagged (untagged : ∀ access, ¬ Tagged p id d access) :
    (response ((surroundings p id).databases.head?.map (·.2)) d).model = none := by
  cases chosen : (surroundings p id).databases.head?.map (·.2) with
  | none => rfl
  | some access =>
    have first : FirstAccess p id access := by
      rw [firstAccess_iff, List.head?_map, chosen]
    by_cases named : access.model = ""
    · simp [response, modelOf, named]
    · by_cases success : d.isSuccess = true
      · exact absurd ⟨success, named, first⟩ (untagged access)
      · simp [response, success]

/-- What declares a status shows the same model as any other declaration of it. -/
theorem Tagged.of_status {c : DeclaredResponse} (same : c.status = d.status)
    (tagged : Tagged p id c access) : Tagged p id d access := by
  obtain ⟨success, named, chosen⟩ := tagged
  refine ⟨?_, named, chosen⟩
  rwa [DeclaredResponse.isSuccess, same] at success

end Resolve

open Resolve (Tagged)

/-! ### Documented responses -/

namespace Project

/-- The schema of a model, or that of some object where the project lacks the model. -/
def itemJson (p : Project) (model : String) : Json :=
  if (p.model? model).isSome then .obj [("$ref", .str ("#/components/schemas/" ++ model))]
  else .obj [("type", .str "object")]

/-- The body that a database access answers with. -/
def answerJson (p : Project) (access : DataAccess) : Json :=
  if access.operation = .list then
    .obj [("type", .str "array"), ("items", p.itemJson access.model)]
  else p.itemJson access.model

/-- A response documents a declaration: its description, and the model that it is tagged with or
else its own fields. -/
structure Describes (p : Project) (id : String) (d : DeclaredResponse) (response : Json) :
    Prop where
  description : response.get? "description" =
    some (.str (if d.description = "" then "Response" else d.description))
  tagged : ∀ access, Tagged p id d access → bodyOf response = some (p.answerJson access)
  untagged : (∀ access, ¬ Tagged p id d access) →
    bodyOf response = if d.schema = [] then none else some (Schema.ofFields d.schema).toJson

variable {p : Project} {id : String} {d : DeclaredResponse}

theorem bodyOf_tagged {a : Response} {access : DataAccess} (tag : a.model = some access.model)
    (list : a.isCollection = (access.operation == .list)) :
    bodyOf (Answer.ofResponse p a).toJson = some (p.answerJson access) := by
  rw [bodyOf_toJson]
  show ((responseContent p a).schema).map Schema.toJson = _
  cases known : (p.model? access.model).isSome <;>
    by_cases lists : access.operation = .list <;>
    simp [responseContent, modelSchema, tag, list, known, lists, answerJson, itemJson] <;> rfl

theorem describes_answer (p : Project) (id : String) (d : DeclaredResponse) :
    p.Describes id d (Answer.ofResponse p
      (Resolve.response ((Resolve.surroundings p id).databases.head?.map (·.2)) d)).toJson where
  description := (Answer.get?_toJson _).1
  tagged access tagged := by
    obtain ⟨tag, list⟩ := Resolve.response_of_tagged tagged
    exact bodyOf_tagged tag list
  untagged untagged := by
    rw [bodyOf_toJson]
    show ((responseContent p _).schema).map Schema.toJson = _
    rw [responseContent, Resolve.response_of_untagged untagged]
    show Option.map _ (if d.schema.isEmpty then none else some (Schema.ofFields d.schema)) = _
    cases d.schema <;> rfl

/-- What an operation shows of the responses of its endpoint. -/
structure DocumentsResponses (p : Project) (e : String × Endpoint) (o : Operation) : Prop where
  keys : ∃ codes : List Nat, o.statusKeys = codes.map (fun s => toString s) ∧
    codes.Pairwise (· < ·) ∧
    ∀ s, s ∈ codes ↔
      s ∈ (if e.2.responses = [] then [200] else e.2.responses.map (·.status)) ∨
        s ∈ [400, 404, 500]
  declared : ∀ before d after, declaredResponses e.2 = before ++ d :: after →
    (∀ c ∈ after, c.status ≠ d.status) →
    ∃ response, o.responseAt (toString d.status) = some response ∧ p.Describes e.1 d response
  standard : ∀ s text,
    (s, text) ∈ [(400, "Bad request"), (404, "Not found"), (500, "Internal server error")] →
    s ∉ e.2.responses.map (·.status) →
    o.responseAt (toString s) = some (.obj [("description", .str text)])
  lists : ∀ s response, o.responseAt (toString s) = some response →
    ((bodyOf response).bind (Json.get? "type") = some (.str "array") ↔
      ∃ d ∈ declaredResponses e.2, d.status = s ∧
        ∃ access, Tagged p e.1 d access ∧ access.operation = .list)

theorem type_of_answer (p : Project) (access : DataAccess) :
    (p.answerJson access).get? "type" = some (.str "array") ↔ access.operation = .list := by
  unfold answerJson itemJson
  by_cases list : access.operation = .list
  · simp [list, Json.get?]
  · rw [if_neg list]
    split <;> simp [list, Json.get?, Json.lookup_cons_eq]

theorem type_of_fields (fields : List SchemaField) :
    (Schema.ofFields fields).toJson.get? "type" = some (.str "object") := by
  rw [Schema.ofFields, Schema.toJson]
  exact (Schema.get?_write_shape ..).1

theorem type_of_described {response : Json} (describes : p.Describes id d response) :
    (bodyOf response).bind (Json.get? "type") = some (.str "array") ↔
      ∃ access, Tagged p id d access ∧ access.operation = .list := by
  by_cases shows : ∃ access, Tagged p id d access
  · obtain ⟨access, tagged⟩ := shows
    rw [describes.tagged access tagged, Option.bind_some, type_of_answer]
    constructor
    · intro list
      exact ⟨access, tagged, list⟩
    · rintro ⟨other, also, list⟩
      -- only one database node is chosen
      have same := (Resolve.head_of_chosen tagged.chosen).symm.trans
        (Resolve.head_of_chosen also.chosen)
      rw [Option.some.inj same]
      exact list
  · have untagged : ∀ access, ¬ Tagged p id d access := fun access tagged => shows ⟨access, tagged⟩
    rw [describes.untagged untagged]
    refine iff_of_false ?_ fun ⟨access, tagged, _⟩ => untagged access tagged
    split
    · simp
    · rw [Option.bind_some, type_of_fields]
      simp

/-- What is declared under a status of a route: its last declaration. -/
theorem exists_last {ds : List DeclaredResponse} {s : Nat} (declared : s ∈ ds.map (·.status)) :
    ∃ before d after, ds = before ++ d :: after ∧ d.status = s ∧
      ∀ c ∈ after, c.status ≠ d.status := by
  induction ds with
  | nil => simp at declared
  | cons c ds ih =>
    by_cases later : s ∈ ds.map (·.status)
    · obtain ⟨before, d, after, rfl, same, last⟩ := ih later
      exact ⟨c :: before, d, after, rfl, same, last⟩
    · have here : c.status = s := by
        rw [List.map_cons, List.mem_cons] at declared
        exact (declared.resolve_right later).symm
      refine ⟨[], c, ds, rfl, here, ?_⟩
      intro b member same
      exact later (List.mem_map.mpr ⟨b, member, same.trans here⟩)

section

variable (p : Project) (e : String × Endpoint) (id : String)

theorem statusKeys_ofRoute : (Operation.ofRoute p (p.routeOf e) id).statusKeys =
    (statuses (p.routeOf e)).map fun s => toString s := by
  rw [Operation.statusKeys_eq]
  show List.map _ (List.map _ (List.map _ _)) = _
  rw [List.map_map, List.map_map]
  rfl

theorem mem_statuses_routeOf (s : Nat) : s ∈ statuses (p.routeOf e) ↔
    s ∈ (if e.2.responses = [] then [200] else e.2.responses.map (·.status)) ∨
      s ∈ [400, 404, 500] := by
  rw [mem_statuses_iff, Resolve.statuses_routeOf, declaredResponses]
  by_cases none : e.2.responses = []
  · simp [none, DeclaredResponse.ofStatus]
  · simp [none]

variable {p e}

theorem responseAt_declared {before after : List DeclaredResponse} {d : DeclaredResponse}
    (split : declaredResponses e.2 = before ++ d :: after)
    (last : ∀ c ∈ after, c.status ≠ d.status) :
    ∃ response, (Operation.ofRoute p (p.routeOf e) id).responseAt (toString d.status) =
      some response ∧ p.Describes e.1 d response := by
  have routed : (p.routeOf e).responses = (declaredResponses e.2).map
      (Resolve.response ((Resolve.surroundings p e.1).databases.head?.map (·.2))) := rfl
  have listed : d.status ∈ statuses (p.routeOf e) := by
    rw [mem_statuses_iff, Resolve.statuses_routeOf, split]
    simp
  rw [split, List.map_append, List.map_cons] at routed
  have shown := answerOf_last (p := p) routed (by
    intro b member
    obtain ⟨c, declared, rfl⟩ := List.mem_map.mp member
    exact last c declared)
  change answerOf p (p.routeOf e) d.status = _ at shown
  refine ⟨_, (Operation.responseAt_ofRoute ..).trans (if_pos listed), ?_⟩
  rw [shown]
  exact describes_answer p e.1 d

/-- The standard errors stand where nothing is declared. -/
theorem responseAt_standard {s : Nat} {text : String} (standard : (s, text) ∈ standardErrors)
    (undeclared : s ∉ e.2.responses.map (·.status)) :
    (Operation.ofRoute p (p.routeOf e) id).responseAt (toString s) =
      some (.obj [("description", .str text)]) := by
  simp only [standardErrors, List.mem_cons, Prod.mk.injEq, List.not_mem_nil, or_false] at standard
  have unlisted : s ∉ (p.routeOf e).responses.map (·.status) := by
    rw [Resolve.statuses_routeOf, declaredResponses]
    split
    · intro ok
      have success : s = 200 := List.mem_singleton.mp ok
      omega
    · exact undeclared
  have listed : s ∈ statuses (p.routeOf e) := by
    rw [mem_statuses_iff]
    simp only [List.mem_cons, List.not_mem_nil, or_false]
    omega
  have shown : (standardErrors.lookup s).getD "" = text := by
    obtain ⟨rfl, rfl⟩ | ⟨rfl, rfl⟩ | ⟨rfl, rfl⟩ := standard <;> rfl
  rw [Operation.responseAt_ofRoute, if_pos listed, answerOf_undeclared unlisted, shown]
  rfl

theorem responseAt_list_iff {s : Nat} {response : Json}
    (found : (Operation.ofRoute p (p.routeOf e) id).responseAt (toString s) = some response) :
    (bodyOf response).bind (Json.get? "type") = some (.str "array") ↔
      ∃ d ∈ declaredResponses e.2, d.status = s ∧
        ∃ access, Tagged p e.1 d access ∧ access.operation = .list := by
  by_cases declared : s ∈ (declaredResponses e.2).map (·.status)
  · obtain ⟨before, d, after, split, rfl, last⟩ := exists_last declared
    obtain ⟨shown, again, describes⟩ := responseAt_declared (p := p) id split last
    obtain rfl : shown = response := Option.some.inj (again.symm.trans found)
    rw [type_of_described describes]
    constructor
    · rintro ⟨access, tagged, list⟩
      exact ⟨d, by simp [split], rfl, access, tagged, list⟩
    · rintro ⟨c, _, same, access, tagged, list⟩
      exact ⟨access, tagged.of_status same, list⟩
  · have unlisted : s ∉ (p.routeOf e).responses.map (·.status) := by
      rwa [Resolve.statuses_routeOf]
    rw [Operation.responseAt_ofRoute, answerOf_undeclared unlisted] at found
    split at found
    · obtain rfl := Option.some.inj found
      rw [bodyOf_toJson]
      refine iff_of_false (by simp) ?_
      rintro ⟨d, member, same, _⟩
      exact declared (List.mem_map.mpr ⟨d, member, same⟩)
    · cases found

end

theorem documentsResponses_ofRoute (p : Project) (e : String × Endpoint) (id : String) :
    p.DocumentsResponses e (.ofRoute p (p.routeOf e) id) where
  keys := ⟨_, statusKeys_ofRoute p e id, statuses_ascending _, mem_statuses_routeOf p e⟩
  declared _ _ _ split last := responseAt_declared id split last
  standard _ _ standard undeclared := responseAt_standard id standard undeclared
  lists _ _ found := responseAt_list_iff id found

/-- Documented responses are complete and ordered: the keys of an operation are the declared statuses,
or 200 where none is declared, and the standard errors, ascending and without repetition. The last
declaration of a status is shown, also that of a standard error, and an array stands exactly where
success is tagged with the model of a list. -/
theorem responses_documented (p : Project) :
    ∀ e ∈ p.endpoints, p.routeOf e ∈ Document.documented (Resolve.routes p) →
      (∃ o, ((p.routeOf e).operationKey, o) ∈ p.compile.document.entries) ∧
        ∀ o, ((p.routeOf e).operationKey, o) ∈ p.compile.document.entries →
          p.DocumentsResponses e o := by
  intro e _ kept
  rw [Document.documented_eq] at kept
  obtain ⟨id, documented⟩ := Document.exists_entry (p := p) kept
  refine ⟨⟨_, documented⟩, ?_⟩
  intro o entry
  obtain ⟨id, rfl⟩ := Document.entry_ofRoute kept entry
  exact documentsResponses_ofRoute p e id

def storedOrders : Project where
  nodes :=
    [{ id := "orders", content := .endpoint
        { path := "/orders",
          responses := [{ status := 1000 }, { status := 201 },
            { status := 404, description := "Gone" }, { status := 201, description := "Stored" }] } },
     { id := "all", content := .database { operation := .list, model := "Order" } }]
  edges := [{ id := "reads", source := "orders", target := "all" }]
  models := [{ name := "Order", fields := [{ name := "id", type := .int, isId := true }] }]

/-- Of two declarations of a status the last one is documented, with the array of its model, and a
declared error keeps its text. -/
theorem storedOrders_documented :
    ∃ e ∈ storedOrders.endpoints,
      storedOrders.routeOf e ∈ Document.documented (Resolve.routes storedOrders) ∧
      ∃ o, ((storedOrders.routeOf e).operationKey, o) ∈ storedOrders.compile.document.entries ∧
        storedOrders.DocumentsResponses e o ∧
        (o.responseAt "201").bind (Json.get? "description") = some (.str "Stored") ∧
        (((o.responseAt "201").bind bodyOf).bind (Json.get? "type")) = some (.str "array") ∧
        (o.responseAt "404").bind (Json.get? "description") = some (.str "Gone") := by
  have kept : storedOrders.routeOf (storedOrders.endpoints.head (by decide)) ∈
      Document.documented (Resolve.routes storedOrders) := by decide +kernel
  obtain ⟨⟨o, entry⟩, all⟩ := responses_documented storedOrders _ (by decide) kept
  have documents := all o entry
  obtain ⟨stored, found, describes⟩ := documents.declared
    [{ status := 1000 }, { status := 201 }, { status := 404, description := "Gone" }]
    { status := 201, description := "Stored" } [] rfl (by simp)
  obtain ⟨gone, also, missing⟩ := documents.declared [{ status := 1000 }, { status := 201 }]
    { status := 404, description := "Gone" } _ rfl (by decide)
  have list := (documents.lists 201 stored found).mpr
    ⟨{ status := 201, description := "Stored" }, by decide, rfl,
      { operation := .list, model := "Order" },
      ⟨by decide, by decide, Resolve.firstAccess_iff.mpr rfl⟩, rfl⟩
  refine ⟨_, by decide, kept, o, entry, documents, ?_, ?_, ?_⟩
  · rw [show o.responseAt "201" = some stored from found]
    exact describes.description
  · rw [show o.responseAt "201" = some stored from found]
    exact list
  · rw [show o.responseAt "404" = some gone from also]
    exact missing.description

end Project

end ApiGraph
