import Mathlib.Data.Set.Function
import ApiGraph.Proofs.Exposure
import ApiGraph.Proofs.Graph

/-!
# Changes of the drawing

What may change in a project without an effect on its routes (`Change`): how it is drawn and
labelled, edges that wire no endpoint, nodes that take no part, and the choice of node ids. Every
step keeps the nodes that take part and the wires between them (`Alike`), so every run of steps does
(`Changes.alike`), and these alone determine the routes (`Alike.routes`).
-/

namespace ApiGraph

/-- Whether nodes of this content are kept for the editor only. -/
def NodeContent.isIdle : NodeContent → Bool
  | .response _ => true
  | .foreign .. => true
  | _ => false

theorem NodeContent.nothing_of_idle {c : NodeContent} (idle : c.isIdle = true) :
    c.endpoint? = none ∧ c.database? = none ∧ c.auth? = none := by
  cases c <;> first | exact ⟨rfl, rfl, rfl⟩ | cases idle

def Node.renamed (f : String → String) (n : Node) : Node := { n with id := f n.id }

namespace Edge

def reversed (e : Edge) : Edge := { e with source := e.target, target := e.source }

def renamed (f : String → String) (e : Edge) : Edge :=
  { e with source := f e.source, target := f e.target }

end Edge

def Route.renamed (f : String → String) (r : Route) : Route := { r with node := f r.node }

namespace Graph

theorem joins_append {es fs : List Edge} {a b : String} :
    Joins (es ++ fs) a b ↔ Joins es a b ∨ Joins fs a b := by
  simp only [Joins, List.mem_append, or_and_right, exists_or]

theorem joins_cons {e : Edge} {es : List Edge} {a b : String} :
    Joins (e :: es) a b ↔ Joins [e] a b ∨ Joins es a b := @joins_append [e] es a b

theorem joins_reversed {e : Edge} {a b : String} : Joins [e.reversed] a b ↔ Joins [e] a b := by
  simp only [Joins, List.mem_singleton, exists_eq_left, Edge.reversed]
  exact or_comm

theorem joins_of_perm {es fs : List Edge} (perm : es.Perm fs) {a b : String} :
    Joins es a b ↔ Joins fs a b := by
  simp only [Joins, perm.mem_iff]

theorem joins_eq_any (es : List Edge) (a b : String) :
    Joins es a b ↔ ∃ ends ∈ es.map fun e => (e.source, e.target),
      ends.1 = a ∧ ends.2 = b ∨ ends.2 = a ∧ ends.1 = b := by
  simp only [Joins, List.mem_map, exists_exists_and_eq_and]

end Graph

namespace Project

def renamed (f : String → String) (p : Project) : Project :=
  { p with nodes := p.nodes.map (·.renamed f), edges := p.edges.map (·.renamed f) }

/-- The ids in a project: those of its nodes and of the ends of its edges. -/
def ids (p : Project) : List String :=
  p.nodes.map (·.id) ++ p.edges.flatMap fun e => [e.source, e.target]

def EndpointId (p : Project) (id : String) : Prop :=
  ∃ n ∈ p.nodes, n.id = id ∧ n.content.endpoint?.isSome

def SupportId (p : Project) (id : String) : Prop :=
  ∃ n ∈ p.nodes, n.id = id ∧ (n.content.database?.isSome ∨ n.content.auth?.isSome)

def Wires (p : Project) (e : Edge) : Prop :=
  ∃ a b, p.EndpointId a ∧ p.SupportId b ∧ Graph.Joins [e] a b

/-- The nodes that take part in a compilation. -/
def cast (p : Project) : List (String × NodeContent) :=
  (p.nodes.filter fun n => !n.content.isIdle).map fun n => (n.id, n.content)

/-- A project without its graph and its labels. -/
def face (p : Project) : Project :=
  { name := p.name, description := p.description, models := p.models, settings := p.settings }

end Project

/-- A step that leaves the routes as they are, up to the ids of their nodes. -/
inductive Change (p : Project) : (String → String) → Project → Prop where
  | label (name : String) (version : Option Nat) (created updated : Option String) :
    Change p id
      { p with id := name, formatVersion := version, createdAt := created, updatedAt := updated }
  | draw {nodes : List Node} (same : (nodes.map fun n => (n.id, n.content)) =
      p.nodes.map fun n => (n.id, n.content)) : Change p id { p with nodes }
  | labelEdges {edges : List Edge} (same : (edges.map fun e => (e.source, e.target)) =
      p.edges.map fun e => (e.source, e.target)) : Change p id { p with edges }
  | permute {edges : List Edge} (perm : edges.Perm p.edges) : Change p id { p with edges }
  | duplicate {e : Edge} (present : e ∈ p.edges) : Change p id { p with edges := e :: p.edges }
  | reverse (before : List Edge) {after : List Edge} {e : Edge}
      (split : p.edges = before ++ e :: after) :
    Change p id { p with edges := before ++ e.reversed :: after }
  | addEdge (before after : List Edge) (e : Edge) (split : p.edges = before ++ after)
      (loose : ¬ p.Wires e) : Change p id { p with edges := before ++ e :: after }
  | removeEdge {before after : List Edge} {e : Edge} (split : p.edges = before ++ e :: after)
      (loose : ¬ p.Wires e) : Change p id { p with edges := before ++ after }
  | addNode {before after : List Node} {n : Node} (split : p.nodes = before ++ after)
      (idle : n.content.isIdle = true) : Change p id { p with nodes := before ++ n :: after }
  | removeNode (before : List Node) {after : List Node} {n : Node}
      (split : p.nodes = before ++ n :: after) (idle : n.content.isIdle = true) :
    Change p id { p with nodes := before ++ after }
  | rename {f : String → String} (apart : Set.InjOn f {id | id ∈ p.ids}) :
    Change p f (p.renamed f)

/-- A run of steps, with the renaming that they come to. -/
inductive Changes : (String → String) → Project → Project → Prop where
  | none (p : Project) : Changes id p p
  | step {f g : String → String} {p q r : Project} (run : Changes f p q) (last : Change q g r) :
    Changes (g ∘ f) p r

/-! ### What is kept -/

/-- A renaming carries the nodes that take part, and the wires between them, to those of another
project with the same face. -/
structure Alike (f : String → String) (p q : Project) : Prop where
  face : q.face = p.face
  cast : q.cast = p.cast.map fun c => (f c.1, c.2)
  wires : ∀ a b, p.EndpointId a → p.SupportId b →
    (Graph.Joins q.edges (f a) (f b) ↔ Graph.Joins p.edges a b)

namespace Project

theorem endpointId_iff {p : Project} {id : String} :
    p.EndpointId id ↔ ∃ c ∈ p.cast, c.1 = id ∧ c.2.endpoint?.isSome := by
  simp only [EndpointId, cast, List.mem_map, List.mem_filter]
  constructor
  · rintro ⟨n, present, rfl, endpoint⟩
    refine ⟨_, ⟨n, ⟨present, ?_⟩, rfl⟩, rfl, endpoint⟩
    cases content : n.content <;> simp [content, NodeContent.endpoint?] at endpoint
    rfl
  · rintro ⟨_, ⟨n, ⟨present, -⟩, rfl⟩, rfl, endpoint⟩
    exact ⟨n, present, rfl, endpoint⟩

theorem supportId_iff {p : Project} {id : String} :
    p.SupportId id ↔ ∃ c ∈ p.cast, c.1 = id ∧ (c.2.database?.isSome ∨ c.2.auth?.isSome) := by
  simp only [SupportId, cast, List.mem_map, List.mem_filter]
  constructor
  · rintro ⟨n, present, rfl, support⟩
    refine ⟨_, ⟨n, ⟨present, ?_⟩, rfl⟩, rfl, support⟩
    cases content : n.content <;>
      simp [content, NodeContent.database?, NodeContent.auth?] at support <;> rfl
  · rintro ⟨_, ⟨n, ⟨present, -⟩, rfl⟩, rfl, support⟩
    exact ⟨n, present, rfl, support⟩

theorem EndpointId.mem_ids {p : Project} {id : String} (host : p.EndpointId id) : id ∈ p.ids := by
  obtain ⟨n, present, rfl, -⟩ := host
  exact List.mem_append_left _ (List.mem_map_of_mem present)

theorem SupportId.mem_ids {p : Project} {id : String} (aid : p.SupportId id) : id ∈ p.ids := by
  obtain ⟨n, present, rfl, -⟩ := aid
  exact List.mem_append_left _ (List.mem_map_of_mem present)

end Project

namespace Alike

variable {f g : String → String} {p q r : Project}

theorem refl (p : Project) : Alike id p p where
  face := rfl
  cast := by simp
  wires _ _ _ _ := Iff.rfl

theorem endpointId (alike : Alike f p q) {a : String} (host : p.EndpointId a) :
    q.EndpointId (f a) := by
  obtain ⟨c, member, rfl, endpoint⟩ := Project.endpointId_iff.mp host
  rw [Project.endpointId_iff, alike.cast]
  exact ⟨_, List.mem_map_of_mem member, rfl, endpoint⟩

theorem supportId (alike : Alike f p q) {b : String} (aid : p.SupportId b) :
    q.SupportId (f b) := by
  obtain ⟨c, member, rfl, support⟩ := Project.supportId_iff.mp aid
  rw [Project.supportId_iff, alike.cast]
  exact ⟨_, List.mem_map_of_mem member, rfl, support⟩

theorem trans (first : Alike f p q) (second : Alike g q r) : Alike (g ∘ f) p r where
  face := second.face.trans first.face
  cast := by
    rw [second.cast, first.cast, List.map_map]
    rfl
  wires a b host aid :=
    (second.wires _ _ (first.endpointId host) (first.supportId aid)).trans
      (first.wires a b host aid)

theorem of_same (face : q.face = p.face) (cast : q.cast = p.cast)
    (wires : ∀ a b, p.EndpointId a → p.SupportId b →
      (Graph.Joins q.edges a b ↔ Graph.Joins p.edges a b)) : Alike id p q where
  face := face
  cast := by simpa using cast
  wires := wires

theorem joins_loose {before after : List Edge} {e : Edge} (loose : ¬ p.Wires e) {a b : String}
    (host : p.EndpointId a) (aid : p.SupportId b) :
    Graph.Joins (before ++ e :: after) a b ↔ Graph.Joins (before ++ after) a b := by
  have apart : ¬ Graph.Joins [e] a b := fun joined => loose ⟨a, b, host, aid, joined⟩
  rw [Graph.joins_append, Graph.joins_append, Graph.joins_cons, or_iff_right apart]

end Alike

theorem Project.cast_renamed (f : String → String) (p : Project) :
    (p.renamed f).cast = p.cast.map fun c => (f c.1, c.2) := by
  simp only [cast, renamed, List.filter_map, List.map_map]
  rfl

theorem Project.joins_renamed {f : String → String} {p : Project}
    (apart : Set.InjOn f {id | id ∈ p.ids}) {a b : String} (left : a ∈ p.ids) (right : b ∈ p.ids) :
    Graph.Joins (p.renamed f).edges (f a) (f b) ↔ Graph.Joins p.edges a b := by
  simp only [Graph.Joins, renamed, List.mem_map, exists_exists_and_eq_and]
  refine exists_congr fun e => and_congr_right fun present => ?_
  have ends : e.source ∈ p.ids ∧ e.target ∈ p.ids := by
    constructor <;> refine List.mem_append_right _ (List.mem_flatMap.mpr ⟨e, present, ?_⟩) <;> simp
  have same : ∀ {c d : String}, c ∈ p.ids → d ∈ p.ids → (f c = f d ↔ c = d) :=
    fun here there => apart.eq_iff here there
  simp only [Edge.renamed, same ends.1 left, same ends.2 right, same ends.2 left,
    same ends.1 right]

theorem Change.alike {f : String → String} {p q : Project} (change : Change p f q) :
    Alike f p q := by
  cases change with
  | label => exact .of_same rfl rfl fun _ _ _ _ => Iff.rfl
  | draw same =>
    refine .of_same rfl ?_ fun _ _ _ _ => Iff.rfl
    have kept := congrArg (List.filter fun c => !c.2.isIdle) same
    simpa only [Project.cast, List.filter_map, Function.comp_def] using kept
  | labelEdges same =>
    refine .of_same rfl rfl fun a b _ _ => ?_
    rw [Graph.joins_eq_any, Graph.joins_eq_any, same]
  | permute perm => exact .of_same rfl rfl fun _ _ _ _ => Graph.joins_of_perm perm
  | @duplicate e present =>
    refine .of_same rfl rfl fun a b _ _ => ?_
    rw [Graph.joins_cons]
    refine or_iff_right_of_imp ?_
    rintro ⟨_, member, joined⟩
    exact ⟨e, present, List.mem_singleton.mp member ▸ joined⟩
  | reverse before split =>
    refine .of_same rfl rfl fun a b _ _ => ?_
    rw [split, Graph.joins_append, Graph.joins_append, Graph.joins_cons, Graph.joins_reversed,
      ← Graph.joins_cons]
  | addEdge before after e split loose =>
    refine .of_same rfl rfl fun a b host aid => ?_
    rw [split]
    exact Alike.joins_loose loose host aid
  | removeEdge split loose =>
    refine .of_same rfl rfl fun a b host aid => ?_
    rw [split]
    exact (Alike.joins_loose loose host aid).symm
  | addNode split idle =>
    refine .of_same rfl ?_ fun _ _ _ _ => Iff.rfl
    simp [Project.cast, split, idle]
  | removeNode before split idle =>
    refine .of_same rfl ?_ fun _ _ _ _ => Iff.rfl
    simp [Project.cast, split, idle]
  | rename apart =>
    exact ⟨rfl, p.cast_renamed f, fun a b host aid =>
      Project.joins_renamed apart host.mem_ids aid.mem_ids⟩

theorem Changes.alike {f : String → String} {p q : Project} (changes : Changes f p q) :
    Alike f p q := by
  induction changes with
  | none p => exact .refl p
  | step _ last ih => exact ih.trans last.alike

/-! ### Routes -/

namespace Project

theorem filterMap_cast {α : Type} (p : Project) (part : String → NodeContent → Option α)
    (idle : ∀ id c, c.isIdle = true → part id c = none) :
    (p.nodes.filterMap fun n => part n.id n.content) = p.cast.filterMap fun c => part c.1 c.2 := by
  rw [cast, List.filterMap_map, List.filterMap_filter]
  refine List.filterMap_congr fun n _ => ?_
  cases takes : n.content.isIdle with
  | true => simp [idle n.id _ takes]
  | false => simp

theorem endpoints_eq (p : Project) :
    p.endpoints = p.cast.filterMap fun c => c.2.endpoint?.map fun e => (c.1, e) := by
  refine p.filterMap_cast (fun id c => c.endpoint?.map fun e => (id, e)) fun id c idle => ?_
  rw [(NodeContent.nothing_of_idle idle).1, Option.map_none]

theorem connected_eq {α : Type} (p : Project) (id : String) {kind? : NodeContent → Option α}
    (idle : ∀ c, c.isIdle = true → kind? c = none) :
    ((Graph.connected p.edges p.nodes id).filterMap fun n => kind? n.content) =
      p.cast.filterMap fun c => if c.1 ∈ Graph.joined p.edges id then kind? c.2 else none := by
  rw [Graph.connected, List.filterMap_filter]
  simp only [decide_eq_true_eq]
  refine p.filterMap_cast
    (fun i c => if i ∈ Graph.joined p.edges id then kind? c else none) fun i c none => ?_
  simp [idle c none]

end Project

namespace Resolve

/-- The route of an endpoint depends on its first database and its first gate only. -/
theorem route_congr {base id id' : String} {e : Endpoint} {near near' : Surroundings}
    (databases : near'.databases.map (·.2) = near.databases.map (·.2))
    (gates : near'.gates = near.gates) :
    route base id' e near' = { route base id e near with node := id' } := by
  have head : near'.databases.head?.map (·.2) = near.databases.head?.map (·.2) := by
    rw [← List.head?_map, ← List.head?_map, databases]
  simp only [route, head, gates]

theorem databases_eq (p : Project) (id : String) :
    (surroundings p id).databases.map (·.2) =
      p.cast.filterMap fun c => if c.1 ∈ Graph.joined p.edges id then c.2.database? else none := by
  rw [← p.connected_eq id fun _ idle => (NodeContent.nothing_of_idle idle).2.1]
  simp [surroundings, List.map_filterMap, Function.comp_def]

theorem gates_eq (p : Project) (id : String) :
    (surroundings p id).gates =
      p.cast.filterMap fun c => if c.1 ∈ Graph.joined p.edges id then c.2.auth? else none :=
  p.connected_eq id fun _ idle => (NodeContent.nothing_of_idle idle).2.2

end Resolve

namespace Alike

variable {f : String → String} {p q : Project}

theorem around {α : Type} (alike : Alike f p q) {id : String} (host : p.EndpointId id)
    {kind? : NodeContent → Option α}
    (aids : ∀ c, (kind? c).isSome → c.database?.isSome ∨ c.auth?.isSome) :
    (q.cast.filterMap fun c => if c.1 ∈ Graph.joined q.edges (f id) then kind? c.2 else none) =
      p.cast.filterMap fun c => if c.1 ∈ Graph.joined p.edges id then kind? c.2 else none := by
  rw [alike.cast, List.filterMap_map]
  refine List.filterMap_congr fun c member => ?_
  show (if f c.1 ∈ Graph.joined q.edges (f id) then kind? c.2 else none) = _
  -- Wires are kept between endpoints and aids only, so what has nothing of the kind goes first.
  cases found : kind? c.2 with
  | none => simp
  | some a =>
    have aid : p.SupportId c.1 :=
      Project.supportId_iff.mpr ⟨c, member, rfl, aids c.2 (by rw [found]; rfl)⟩
    have wired : f c.1 ∈ Graph.joined q.edges (f id) ↔ c.1 ∈ Graph.joined p.edges id := by
      rw [Graph.mem_joined_iff, Graph.mem_joined_iff]
      exact alike.wires id c.1 host aid
    simp only [wired]

theorem settings_eq (alike : Alike f p q) : q.settings = p.settings :=
  congrArg (·.settings) alike.face

theorem endpoints_eq (alike : Alike f p q) :
    q.endpoints = p.endpoints.map fun e => (f e.1, e.2) := by
  rw [q.endpoints_eq, p.endpoints_eq, alike.cast, List.filterMap_map, List.map_filterMap]
  refine List.filterMap_congr fun c _ => ?_
  simp only [Function.comp_apply, Option.map_map]
  rfl

theorem routes (alike : Alike f p q) :
    Resolve.routes q = (Resolve.routes p).map (·.renamed f) := by
  rw [Project.routes_eq, Project.routes_eq, alike.endpoints_eq, List.map_map, List.map_map]
  refine List.map_congr_left fun e member => ?_
  have host : p.EndpointId e.1 := by
    obtain ⟨n, present, found⟩ := List.mem_filterMap.mp member
    obtain ⟨c, endpoint, rfl⟩ := Option.map_eq_some_iff.mp found
    exact ⟨n, present, rfl, by rw [endpoint]; rfl⟩
  have databases : (Resolve.surroundings q (f e.1)).databases.map (·.2) =
      (Resolve.surroundings p e.1).databases.map (·.2) := by
    rw [Resolve.databases_eq, Resolve.databases_eq]
    exact alike.around host fun c database => Or.inl database
  have gates : (Resolve.surroundings q (f e.1)).gates = (Resolve.surroundings p e.1).gates := by
    rw [Resolve.gates_eq, Resolve.gates_eq]
    exact alike.around host fun c auth => Or.inr auth
  show Resolve.route q.settings.basePath (f e.1) e.2 _ = _
  rw [alike.settings_eq]
  exact Resolve.route_congr databases gates

end Alike

end ApiGraph
