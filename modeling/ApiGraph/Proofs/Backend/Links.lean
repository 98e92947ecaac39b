import ApiGraph.Proofs.Backend.FileSet
import ApiGraph.Proofs.Backend.Imports
import ApiGraph.Proofs.Backend.Resolution

namespace ApiGraph.Backend

open Source

theorem exports_connection (p : Project) :
    (Connection.toModule p).exports =
      if p.settings.engine.isSql then ["db", "connectDatabase"] else ["connectDatabase"] := by
  unfold Connection.toModule
  split <;> rfl

theorem exports_interface (interfaces : List Interface) :
    (Interface.toModule interfaces).exports = interfaces.map (·.name) := by
  show (interfaces.flatMap fun i => [Item.gap, .declare i.declaration]).filterMap Item.export? = _
  induction interfaces with
  | nil => rfl
  | cons i rest ih =>
    rw [List.flatMap_cons, List.filterMap_append, ih]
    rfl

theorem exports_collection (c : Collection) : c.toModule.exports = [c.names.collection] := rfl

theorem exports_index (stems : List String) : (Router.index stems).exports = ["default"] := rfl

theorem mem_exports_repository (r : Repository) : r.names.repository ∈ r.toModule.exports := by
  exact List.mem_filterMap.mpr ⟨_, List.mem_append_right _ (List.mem_singleton_self _), rfl⟩

theorem exports_router (r : Router) :
    r.toModule.exports = if r.exported then [r.name] else ["default"] := by
  obtain ⟨name, exported, gs⟩ := r
  have none : (gs.flatMap fun g => [Item.gap, .code (g.lines name)]).filterMap Item.export? = [] := by
    induction gs with
    | nil => rfl
    | cons g gs ih =>
      rw [List.flatMap_cons, List.filterMap_append, ih]
      rfl
  show (Item.gap :: .declare (Router.declaration exported name) :: _ ++ _).filterMap _ = _
  rw [List.filterMap_append, List.filterMap_cons_none rfl]
  cases exported with
  | true =>
    have own : (Item.declare (Router.declaration true name)).export? = some name := rfl
    rw [List.filterMap_cons_some own, none]
    rfl
  | false =>
    have own : (Item.declare (Router.declaration false name)).export? = Option.none := rfl
    rw [List.filterMap_cons_none own, none]
    rfl

section

variable (p : Project) (routes : List Route) (document : OpenApi.Document)

def LinksFrom (folder : List String) (m : Module) : Prop :=
  ∀ importer : File, importer.path.dropLast = folder → ∀ i ∈ m.imports,
    isRelative i.source = true → i.Links (files p routes document) importer

variable {p routes document}

theorem linksFrom_of_packages {folder : List String} {m : Module}
    (packages : ∀ i ∈ m.imports, isRelative i.source = false) :
    LinksFrom p routes document folder m :=
  fun _ _ i member relative => absurd relative (by rw [packages i member]; decide)

theorem connection_requested (sql : p.settings.engine.isSql = true) (source : String) :
    ∀ name ∈ (values ["db"] source).clause.requested, name ∈ (Connection.toModule p).exports := by
  intro name requested
  rw [List.mem_singleton.mp requested, exports_connection, if_pos sql]
  exact List.mem_cons_self

theorem type_requested {m : NamedModel} (member : m ∈ namedModels p) :
    ∀ name ∈ (types [m.names.type] "../types/models").clause.requested,
      name ∈ (Interface.toModule ((namedModels p).map .ofModel)).exports := by
  intro name requested
  rw [List.mem_singleton.mp requested, exports_interface, List.map_map]
  exact List.mem_map.mpr ⟨m, member, rfl⟩

theorem links_repository {m : NamedModel} (member : m ∈ namedModels p) :
    LinksFrom p routes document ["src", "repositories"]
      (Repository.ofModel p.settings.engine m).toModule := by
  intro importer folder i imported relative
  have distinct := paths_nodup p routes document
  have models : Part "models" := ⟨by decide, by decide, by decide⟩
  have filters := filters_mem p routes document
  have engine : (Repository.ofModel p.settings.engine m).engine = p.settings.engine := rfl
  have imported : i ∈ (Repository.ofModel p.settings.engine m).imports := imported
  simp only [Repository.imports, engine, List.mem_append, List.mem_singleton] at imported
  rcases imported with ((key | rfl) | stored) | rfl
  · split at key
    · rw [List.mem_singleton.mp key] at relative
      exact absurd relative (by decide)
    · exact absurd key List.not_mem_nil
  · exact absurd relative (by decide)
  · split at stored
    · rename_i sql
      rw [if_pos sql] at filters
      rcases List.mem_cons.mp stored with rfl | stored
      · exact links_of_mem distinct folder (connection_mem p routes document) (by decide)
          (connection_requested sql _)
      · rw [List.mem_singleton.mp stored]
        exact links_of_mem distinct folder filters (by decide) (by decide)
    · rename_i notSql
      rw [if_neg notSql] at filters
      rcases List.mem_cons.mp stored with rfl | stored
      · exact links_of_mem distinct folder filters (by decide) (by decide)
      · rw [List.mem_singleton.mp stored]
        have collection := collection_mem p routes document (eq_false_of_ne_true notSql) member
        refine links_of_mem distinct folder collection ?_ ?_
        · exact path_beside models rfl (stem_no_slash member) (by decide) (by decide) (by decide) _
        · rw [exports_collection]
          exact fun name requested => requested
  · exact links_of_mem distinct folder (interface_mem p routes document)
      (by decide : modulePath (target ["src", "repositories"] "../types/models") = _)
      (type_requested member)

theorem links_collection {m : NamedModel} (member : m ∈ namedModels p) :
    LinksFrom p routes document ["src", "models"] (Collection.ofModel m).toModule := by
  intro importer folder i imported relative
  rcases List.mem_cons.mp imported with rfl | imported
  · exact absurd relative (by decide)
  · rw [List.mem_singleton.mp imported]
    exact links_of_mem (paths_nodup p routes document) folder (interface_mem p routes document)
      (by decide : modulePath (target ["src", "models"] "../types/models") = _)
      (type_requested member)

theorem links_table (sql : p.settings.engine.isSql = true) (tables : List Table) :
    LinksFrom p routes document ["src", "db"] (Table.toModule tables) := by
  intro importer folder i imported relative
  rcases List.mem_cons.mp imported with rfl | imported
  · exact absurd relative (by decide)
  · rw [List.mem_singleton.mp imported]
    exact links_of_mem (paths_nodup p routes document) folder (connection_mem p routes document)
      (by decide) (connection_requested sql _)

theorem links_connection : LinksFrom p routes document ["src", "db"] (Connection.toModule p) := by
  refine linksFrom_of_packages fun i imported => ?_
  unfold Connection.toModule at imported
  split at imported
  · rw [List.mem_singleton.mp imported]
    decide
  · rw [List.mem_singleton.mp imported]
    decide

end

end ApiGraph.Backend
