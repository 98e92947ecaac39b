import ApiGraph.Proofs.ModelReferences

/-!
# Locality

An endpoint is resolved from its own configuration, the base path, and the database and auth nodes
that edges join to its id. The nodes are visited one after another and add to what is collected
(`visited_all`). `resolution_local` says that what the visit of an endpoint adds is the same in
every project that shows it the same.
-/

namespace ApiGraph

namespace Graph

theorem filterMap_connected {α : Type} (edges : List Edge) (nodes : List Node) (id : String)
    (kind? : Node → Option α) :
    (connected edges nodes id).filterMap kind? =
      nodes.filterMap fun n => if Joins edges id n.id then kind? n else none := by
  rw [connected, List.filterMap_filter]
  simp only [decide_eq_true_eq, mem_joined_iff]

end Graph

/-- The endpoint that a warning of the resolution is about. -/
def Warning.endpoint? : Warning → Option String
  | multipleDatabaseNodes id _ _ => some id
  | emptyPath id => some id
  | undeclaredPathParam id _ _ => some id
  | _ => none

namespace Resolve

def databasesNear (p : Project) (id : String) : List (String × DataAccess) :=
  p.nodes.filterMap fun n =>
    if Graph.Joins p.edges id n.id then n.content.database?.map fun d => (n.id, d) else none

def gatesNear (p : Project) (id : String) : List AuthGate :=
  p.nodes.filterMap fun n => if Graph.Joins p.edges id n.id then n.content.auth? else none

theorem surroundings_eq (p : Project) (id : String) :
    surroundings p id = ⟨databasesNear p id, gatesNear p id⟩ := by
  rw [surroundings, databasesNear, gatesNear, Graph.filterMap_connected, Graph.filterMap_connected]

/-- Two projects show an endpoint of an id the same. -/
structure ShowAlike (p q : Project) (id : String) : Prop where
  basePath : p.settings.basePath = q.settings.basePath
  databases : databasesNear p id = databasesNear q id
  gates : gatesNear p id = gatesNear q id

theorem ShowAlike.surroundings {p q : Project} {id : String} (alike : ShowAlike p q id) :
    surroundings p id = surroundings q id := by
  rw [surroundings_eq, surroundings_eq, alike.databases, alike.gates]

theorem about_findings {id : String} {e : Endpoint} {near : Surroundings} {w : Warning}
    (found : w ∈ findings id e near) : w.endpoint? = some id := by
  simp only [findings, List.mem_append] at found
  rcases found with (several | empty) | stray
  · split at several
    · obtain rfl := List.mem_singleton.mp several
      rfl
    · exact absurd several List.not_mem_nil
  · split at empty
    · obtain rfl := List.mem_singleton.mp empty
      rfl
    · exact absurd empty List.not_mem_nil
  · obtain ⟨d, -, rfl⟩ := List.mem_map.mp stray
    rfl

/-- What has been collected: routes and warnings. -/
structure Resolution where
  routes : List Route := []
  warnings : List Warning := []

def Resolution.add (s : Resolution) (r : Route) (found : List Warning) : Resolution :=
  ⟨s.routes ++ [r], s.warnings ++ found⟩

/-- A visit adds the route of an endpoint and what is wrong with it. -/
def visit (p : Project) (s : Resolution) (n : Node) : Resolution :=
  match n.content.endpoint? with
  | none => s
  | some e => s.add (p.routeOf (n.id, e)) (findings n.id e (surroundings p n.id))

def visited (p : Project) (nodes : List Node) : Resolution := nodes.foldl (visit p) {}

def endpointsOf (nodes : List Node) : List (String × Endpoint) :=
  nodes.filterMap fun n => n.content.endpoint?.map fun e => (n.id, e)

/-- All that visits add, behind what was there before. -/
theorem foldl_visit (p : Project) (nodes : List Node) (s : Resolution) :
    nodes.foldl (visit p) s =
      ⟨s.routes ++ (endpointsOf nodes).map p.routeOf,
        s.warnings ++ (endpointsOf nodes).flatMap fun e =>
          findings e.1 e.2 (surroundings p e.1)⟩ := by
  -- each visit continues from what the visits before it have left
  induction nodes generalizing s with
  | nil => simp [endpointsOf]
  | cons n nodes ih =>
    rw [List.foldl_cons, ih, visit]
    cases kind : n.content.endpoint? with
    | none => simp [endpointsOf, kind]
    | some e => simp [endpointsOf, kind, Resolution.add]

theorem visited_eq (p : Project) (nodes : List Node) :
    visited p nodes = ⟨(endpointsOf nodes).map p.routeOf,
      (endpointsOf nodes).flatMap fun e => findings e.1 e.2 (surroundings p e.1)⟩ :=
  foldl_visit p nodes {}

theorem visited_all (p : Project) : visited p p.nodes = ⟨routes p, warnings p⟩ :=
  visited_eq p p.nodes

theorem visited_snoc (p : Project) (before : List Node) (n : Node) :
    visited p (before ++ [n]) = visit p (visited p before) n := by
  rw [visited, List.foldl_append]
  rfl

/-- The visit of a node among others collects a route, at the place of the endpoint among the
endpoints, and warnings, which are all that name its id unless another endpoint has the same. -/
structure Collects (p : Project) (before : List Node) (n : Node) (after : List Node) (r : Route)
    (found : List Warning) : Prop where
  visit : visited p (before ++ [n]) = (visited p before).add r found
  route : (routes p)[before.countP (·.content.endpoint?.isSome)]? = some r
  about : ∀ w ∈ found, w.endpoint? = some n.id
  alone : (∀ m ∈ before ++ after, m.content.endpoint?.isSome → m.id ≠ n.id) →
    (warnings p).filter (·.endpoint? = some n.id) = found

section

variable {p : Project} {before after : List Node} {n : Node} {e : Endpoint}

theorem length_endpointsOf (nodes : List Node) :
    (endpointsOf nodes).length = nodes.countP (·.content.endpoint?.isSome) := by
  rw [endpointsOf, List.length_filterMap_eq_countP]
  simp only [Option.isSome_map]

theorem ids_endpointsOf (nodes : List Node) :
    (endpointsOf nodes).map (·.1) =
      (nodes.filter (·.content.endpoint?.isSome)).map (·.id) := by
  induction nodes with
  | nil => rfl
  | cons n nodes ih =>
    cases kind : n.content.endpoint? with
    | none =>
      rw [endpointsOf, List.filterMap_cons_none (by rw [kind]; rfl),
        List.filter_cons_of_neg (by simp [kind])]
      exact ih
    | some e =>
      rw [endpointsOf, List.filterMap_cons_some (by rw [kind]; rfl),
        List.filter_cons_of_pos (by simp [kind])]
      exact congrArg (n.id :: ·) ih

theorem endpoints_split (split : p.nodes = before ++ n :: after)
    (kind : n.content.endpoint? = some e) :
    p.endpoints = endpointsOf before ++ (n.id, e) :: endpointsOf after := by
  show endpointsOf p.nodes = _
  rw [split, endpointsOf, List.filterMap_append, List.filterMap_cons_some (by rw [kind]; rfl)]
  rfl

theorem about_others {nodes : List Node} {id : String}
    (others : ∀ m ∈ nodes, m.content.endpoint?.isSome → m.id ≠ id) :
    ((endpointsOf nodes).flatMap fun e => findings e.1 e.2 (surroundings p e.1)).filter
      (·.endpoint? = some id) = [] := by
  refine List.filter_eq_nil_iff.mpr fun w member names => ?_
  obtain ⟨e, endpoint, found⟩ := List.mem_flatMap.mp member
  obtain ⟨m, node, kind⟩ := List.mem_filterMap.mp endpoint
  obtain ⟨config, has, rfl⟩ := Option.map_eq_some_iff.mp kind
  refine others m node (Option.isSome_of_eq_some has) ?_
  exact Option.some.inj ((about_findings found).symm.trans (of_decide_eq_true names))

theorem collects_of_split (split : p.nodes = before ++ n :: after)
    (kind : n.content.endpoint? = some e) :
    Collects p before n after (p.routeOf (n.id, e)) (findings n.id e (surroundings p n.id)) where
  visit := by
    rw [visited_snoc, Resolve.visit, kind]
  route := by
    rw [Project.routes_eq, endpoints_split split kind, List.map_append, ← length_endpointsOf,
      ← List.length_map (f := p.routeOf), List.getElem?_append_right (Nat.le_refl _), Nat.sub_self]
    rfl
  about := fun _ found => about_findings found
  alone := by
    intro others
    rw [warnings, endpoints_split split kind, List.flatMap_append, List.flatMap_cons,
      List.filter_append, List.filter_append,
      about_others fun m member => others m (List.mem_append_left _ member),
      about_others fun m member => others m (List.mem_append_right _ member),
      List.nil_append, List.append_nil]
    exact List.filter_eq_self.mpr fun w found => decide_eq_true (about_findings found)

end

/-- The responses of a route have the statuses that its endpoint declares, or 200 where it declares
none. Those of success are tagged with the model of its first database node, unless it is empty. -/
structure TagsSuccesses (p : Project) (id : String) (e : Endpoint) (r : Route) : Prop where
  statuses : r.responses.map (·.status) =
    if e.responses = [] then [200] else e.responses.map (·.status)
  tagged : ∀ a ∈ r.responses, ∀ model, a.model = some model ↔
    (200 ≤ a.status ∧ a.status < 300) ∧ model ≠ "" ∧
      ∃ n d, FirstDatabase p id n d ∧ d.model = model

theorem tagsSuccesses (p : Project) (id : String) (e : Endpoint) :
    TagsSuccesses p id e (p.routeOf (id, e)) where
  statuses := by
    show ((declaredResponses e).map (response _)).map (·.status) = _
    rw [List.map_map, declaredResponses]
    cases e.responses with
    | nil => rfl
    | cons a rest => rfl
  tagged := by
    intro a answers model
    obtain ⟨declared, -, rfl⟩ := List.mem_map.mp answers
    show (modelOf (accessOf p id)).filter _ = some model ↔ _
    rw [Option.filter_eq_some_iff, modelOf_eq_some_iff, DeclaredResponse.isSuccess,
      Bool.and_eq_true, decide_eq_true_eq, decide_eq_true_eq, and_comm]
    rfl

end Resolve

namespace Project

open Resolve

/-- The routes of a project are one for each endpoint node, in node order, and the visit of an
endpoint node collects the same in every project that shows it the same. -/
theorem resolution_local (p : Project) :
    visited p p.nodes = ⟨routes p, warnings p⟩ ∧
      (routes p).map (·.node) =
        (p.nodes.filter (·.content.endpoint?.isSome)).map (·.id) ∧
      ∀ before n after e, p.nodes = before ++ n :: after → n.content = .endpoint e →
        ∃ r found, Collects p before n after r found ∧ TagsSuccesses p n.id e r ∧
          ∀ (q : Project) (earlier : List Node) (m : Node) (later : List Node),
            q.nodes = earlier ++ m :: later → m.id = n.id → m.content = n.content →
              ShowAlike p q n.id → Collects q earlier m later r found := by
  refine ⟨visited_all p, ?_, ?_⟩
  · rw [← ids_endpointsOf, routes_eq, List.map_map]
    rfl
  · intro before n after e split kind
    have has : n.content.endpoint? = some e := by rw [kind]; rfl
    refine ⟨_, _, collects_of_split split has, tagsSuccesses p n.id e, ?_⟩
    intro q earlier m later other same content alike
    -- the other project collects its own route, and the two are made of the same
    have there := collects_of_split other ((congrArg NodeContent.endpoint? content).trans has)
    rw [same] at there
    rw [Project.routeOf, alike.surroundings, alike.basePath]
    exact there

/-- An endpoint with every kind of finding. -/
def ordersNode : Node where
  id := "orders"
  content := .endpoint
    { path := " ", pathParams := [{ name := "id" }], responses := [.ofStatus 200, .ofStatus 404] }

def listNode : Node where
  id := "listed"
  content := .database { operation := .list, model := "Order" }

def readNode : Node where
  id := "counted"
  content := .database { operation := .read, model := "" }

def ordersOnly : Project where
  nodes := [ordersNode, listNode, .ofContent "guard" (.auth {}), readNode]
  edges :=
    [{ id := "guards", source := "guard", target := "orders" },
     { id := "counts", source := "orders", target := "counted" },
     { id := "lists", source := "orders", target := "listed" }]

/-- The same endpoint among others, of which one has its id and one its database, with edges that
lead nowhere, to itself or twice to the same. -/
def ordersAmongOthers : Project where
  nodes :=
    [.ofContent "other" (.database { model := "Other" }), .ofContent "users" (.endpoint {}),
     listNode, ordersNode, .ofContent "orders" (.endpoint { path := "/again" }), readNode,
     .ofContent "gate" (.auth {})]
  edges :=
    [{ id := "loop", source := "orders", target := "orders" },
     { id := "lost", source := "orders", target := "nobody" },
     { id := "lists", source := "listed", target := "orders" },
     { id := "again", source := "orders", target := "listed" },
     { id := "shares", source := "users", target := "listed" },
     { id := "others", source := "other", target := "users" },
     { id := "counts", source := "orders", target := "counted" },
     { id := "guards", source := "gate", target := "orders" }]
  models := [{ name := "Order", fields := [] }]

theorem orders_alike : ShowAlike ordersOnly ordersAmongOthers "orders" := by
  constructor
  · rfl
  · decide +kernel
  · decide +kernel

/-- One route and the same three warnings, whatever is around the endpoint. -/
theorem orders_collected :
    let found := [.multipleDatabaseNodes "orders" "listed" 2, .emptyPath "orders",
      .undeclaredPathParam "orders" "id" " "]
    ∃ r, Collects ordersOnly [] ordersNode (ordersOnly.nodes.drop 1) r found ∧
      Collects ordersAmongOthers (ordersAmongOthers.nodes.take 3) ordersNode
        (ordersAmongOthers.nodes.drop 4) r found ∧
      r.responses.map (·.model) = [some "Order", none] := by
  intro found
  obtain ⟨-, -, each⟩ := resolution_local ordersOnly
  obtain ⟨r, warned, here, -, elsewhere⟩ := each [] ordersNode _ _ rfl rfl
  have there := elsewhere ordersAmongOthers (ordersAmongOthers.nodes.take 3) ordersNode
    (ordersAmongOthers.nodes.drop 4) rfl rfl rfl orders_alike
  have visit : visited ordersOnly [ordersNode] = ⟨[r], warned⟩ := here.visit
  have findings : (visited ordersOnly [ordersNode]).warnings = found := by decide +kernel
  obtain rfl : found = warned := findings.symm.trans (congrArg Resolution.warnings visit)
  refine ⟨r, here, there, ?_⟩
  have routes : (visited ordersOnly [ordersNode]).routes = [r] := congrArg Resolution.routes visit
  have models : (visited ordersOnly [ordersNode]).routes.map (fun r => r.responses.map (·.model)) =
      [[some "Order", none]] := by decide +kernel
  rw [routes] at models
  exact (List.cons.inj models).1

end Project

end ApiGraph
